import MaCore.Ipfs.Reference

open rust
open ma_core.error ma_core.did ma_core.key ma_core.doc ma_core.msg ma_core.multiformat ma_core.identity

/-! A library whose DAG-CBOR refuses what the format has no form for. -/

namespace ma_core.reference

def dagLibrary : Lib :=
  { library with
    dagcbor_to_vec := fun value =>
      if value.representable then .ok (cbor.encode (toCbor value))
      else .error "cannot be represented"
    dagcbor_from_slice := fun bytes =>
      match (cbor.decode bytes.length bytes).bind fromCbor with
      | some value => .ok value
      | none => .error "syntax error" }

theorem fromCbor_integer {n : Int} (hlow : -2 ^ 64 ≤ n) (hhigh : n < 2 ^ 64) :
    fromCbor (toCbor (.Integer n)) = some (.Integer n) := by
  unfold toCbor
  split
  · simp only [fromCbor, UInt64.toNat_ofNat']
    congr 2
    omega
  · simp only [fromCbor, UInt64.toNat_ofNat']
    congr 2
    omega

mutual

/-- What the format can represent is read back from its data item. -/
theorem fromCbor_toCbor : ∀ value : Ipld, value.representable = true → fromCbor (toCbor value) = some value
  | .Null, _ => rfl
  | .Bool _, _ => rfl
  | .Integer n, hvalue => by
    simp only [Ipld.representable, Bool.and_eq_true, decide_eq_true_eq] at hvalue
    exact fromCbor_integer hvalue.1 hvalue.2
  | .Float _, _ => rfl
  | .String _, _ => rfl
  | .Bytes _, _ => rfl
  | .List items, hvalue => by
    simp only [Ipld.representable, Bool.and_eq_true] at hvalue
    simp only [toCbor, fromCbor, fromCborItems_toCborItems items hvalue.2, Option.map_some]
  | .Map entries, hvalue => by
    simp only [Ipld.representable, Bool.and_eq_true] at hvalue
    simp only [toCbor, fromCbor, fromCborEntries_toCborEntries entries hvalue.2, Option.map_some]
  | .Link _, _ => rfl

theorem fromCborItems_toCborItems : ∀ items : List Ipld, itemsRepresentable items = true →
    fromCborItems (toCborItems items) = some items
  | [], _ => rfl
  | item :: items, hitems => by
    simp only [itemsRepresentable, Bool.and_eq_true] at hitems
    simp [toCborItems, fromCborItems, fromCbor_toCbor item hitems.1,
      fromCborItems_toCborItems items hitems.2]

theorem fromCborEntries_toCborEntries : ∀ entries : List (String × Ipld),
    entriesRepresentable entries = true → fromCborEntries (toCborEntries entries) = some entries
  | [], _ => rfl
  | (key, item) :: entries, hentries => by
    simp only [entriesRepresentable, Bool.and_eq_true] at hentries
    simp [toCborEntries, fromCborEntries, fromCbor_toCbor item hentries.1.2,
      fromCborEntries_toCborEntries entries hentries.2]

end

theorem toCborItems_length (items : List Ipld) : (toCborItems items).length = items.length := by
  induction items with
  | nil => rfl
  | cons item items ih => simp [toCborItems, ih]

theorem toCborEntries_length (entries : List (String × Ipld)) :
    (toCborEntries entries).length = entries.length := by
  induction entries with
  | nil => rfl
  | cons entry entries ih => simp [toCborEntries, ih]

mutual

/-- Its data item announces all its lengths truly. -/
theorem toCbor_fits : ∀ (value : Ipld) (limit : Nat), value.representable = true →
    (toCbor value).depth ≤ limit → (toCbor value).Fits limit
  | .List items, limit + 1, hvalue, hdepth => by
    simp only [Ipld.representable, Bool.and_eq_true, decide_eq_true_eq] at hvalue
    simp only [toCbor, cbor.Value.depth, Nat.add_le_add_iff_right] at hdepth
    rw [toCbor, cbor.Value.Fits, toCborItems_length]
    exact ⟨hvalue.1, toCborItems_fit items limit hvalue.2 hdepth⟩
  | .Map entries, limit + 1, hvalue, hdepth => by
    simp only [Ipld.representable, Bool.and_eq_true, decide_eq_true_eq] at hvalue
    simp only [toCbor, cbor.Value.depth, Nat.add_le_add_iff_right] at hdepth
    rw [toCbor, cbor.Value.Fits, toCborEntries_length]
    exact ⟨hvalue.1, toCborEntries_fit entries limit hvalue.2 hdepth⟩
  | .Link cid, limit + 1, hvalue, hdepth => by
    simp only [Ipld.representable, decide_eq_true_eq] at hvalue
    simp only [toCbor, cbor.Value.depth, Nat.add_le_add_iff_right] at hdepth
    obtain ⟨limit, rfl⟩ := Nat.exists_eq_add_of_le' hdepth
    rw [toCbor, cbor.Value.Fits, cbor.Value.Fits, List.length_cons]
    exact hvalue
  | .String s, limit + 1, hvalue, _ => by simpa [Ipld.representable, toCbor, cbor.Value.Fits] using hvalue
  | .Bytes b, limit + 1, hvalue, _ => by simpa [Ipld.representable, toCbor, cbor.Value.Fits] using hvalue
  | .Integer n, limit + 1, _, _ => by
    unfold toCbor
    split <;> trivial
  | .Null, limit + 1, _, _ => trivial
  | .Bool _, limit + 1, _, _ => trivial
  | .Float _, limit + 1, _, _ => trivial
  | value, 0, _, hdepth => by
    have hpositive : 0 < (toCbor value).depth := by
      cases toCbor value <;> simp [cbor.Value.depth]
    omega

theorem toCborItems_fit : ∀ (items : List Ipld) (limit : Nat), itemsRepresentable items = true →
    cbor.itemsDepth (toCborItems items) ≤ limit → cbor.ItemsFit limit (toCborItems items)
  | [], _, _, _ => trivial
  | item :: items, limit, hitems, hdepth => by
    simp only [itemsRepresentable, Bool.and_eq_true] at hitems
    simp only [toCborItems, cbor.itemsDepth] at hdepth
    exact ⟨toCbor_fits item limit hitems.1 (by omega),
      toCborItems_fit items limit hitems.2 (by omega)⟩

theorem toCborEntries_fit : ∀ (entries : List (String × Ipld)) (limit : Nat),
    entriesRepresentable entries = true → cbor.entriesDepth (toCborEntries entries) ≤ limit →
      cbor.EntriesFit limit (toCborEntries entries)
  | [], _, _, _ => trivial
  | (key, item) :: entries, limit, hentries, hdepth => by
    simp only [entriesRepresentable, Bool.and_eq_true, decide_eq_true_eq] at hentries
    simp only [toCborEntries, cbor.entriesDepth, cbor.Value.depth] at hdepth
    have hkey : (cbor.Value.text key).Fits limit := by
      obtain ⟨limit, rfl⟩ := Nat.exists_eq_add_of_le' (show 1 ≤ limit by omega)
      exact hentries.1.1
    exact ⟨hkey, toCbor_fits item limit hentries.1.2 (by omega),
      toCborEntries_fit entries limit hentries.2 (by omega)⟩

end

theorem dagLibrary_to_vec {value : Ipld} (hvalue : value.representable = true) :
    dagLibrary.dagcbor_to_vec value = .ok (cbor.encode (toCbor value)) := if_pos hvalue

theorem dagLibrary_from_slice {value : Ipld} (hvalue : value.representable = true) :
    dagLibrary.dagcbor_from_slice (cbor.encode (toCbor value)) = .ok value := by
  have hdecode := cbor.decode_encode (toCbor_fits value _ hvalue (cbor.depth_le_length (toCbor value)))
  simp [dagLibrary, hdecode, fromCbor_toCbor value hvalue]

theorem dagCborEncodes : dagLibrary.DagCborEncodes := by
  intro value
  constructor
  · rintro ⟨bytes, hbytes⟩
    by_contra hvalue
    rw [show dagLibrary.dagcbor_to_vec value = .error _ from if_neg hvalue] at hbytes
    cases hbytes
  · intro hvalue
    exact ⟨_, dagLibrary_to_vec hvalue⟩

theorem dagCborRoundTrips : dagLibrary.DagCborRoundTrips := by
  intro value bytes hbytes
  have hvalue : value.representable = true := (dagCborEncodes value).mp ⟨bytes, hbytes⟩
  rw [dagLibrary_to_vec hvalue] at hbytes
  cases hbytes
  exact dagLibrary_from_slice hvalue

/-! What does not encode documents is as before. -/

theorem validate_dagLibrary (document : Document) : document.validate dagLibrary = document.validate library := rfl

theorem ipns_from_secret_dagLibrary (key : ByteArr 32) :
    ipns_from_secret dagLibrary key = ipns_from_secret library key := rfl

theorem validate_identifier_dagLibrary (input : String) :
    validate_identifier dagLibrary input = validate_identifier library input := rfl

theorem verify_with_document_dagLibrary (m : Message) (clock : Clock) (document : Document) :
    m.verify_with_document dagLibrary clock document = m.verify_with_document library clock document := rfl

/-- A proof verifies as before if the signed fields can be encoded. -/
theorem verify_dagLibrary {document : Document}
    (hpayload : document.payload_document.serialize.representable = true) :
    document.verify dagLibrary = document.verify library := by
  have hhash : document.payload_hash dagLibrary = document.payload_hash library := by
    rw [Document.payload_hash, Document.payload_hash, Document.payload_bytes, Document.payload_bytes,
      Document.encode, Document.encode, dagLibrary_to_vec hpayload]
    rfl
  rw [Document.verify, hhash]
  rfl

theorem base58RoundTrips : dagLibrary.Base58RoundTrips where
  nonempty := library_base58RoundTrips.nonempty
  length_le := library_base58RoundTrips.length_le
  decodes := library_base58RoundTrips.decodes

theorem ed25519Signs : dagLibrary.Ed25519Signs where
  is_point := library_ed25519Signs.is_point
  verifies := library_ed25519Signs.verifies

end ma_core.reference
