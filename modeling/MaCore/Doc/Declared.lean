import MaCore.Doc.Wire

open rust
open ma_core.error

namespace ma_core.doc

/-- A map with just these keys, in this order. -/
def HasKeys (keys : List String) (value : Ipld) : Prop :=
  ∃ entries, value = .Map entries ∧ entries.map Prod.fst = keys

def VerificationMethod.Declared (value : Ipld) : Prop :=
  HasKeys ["controller", "id", "publicKeyMultibase", "type"] value

def Proof.Declared (value : Ipld) : Prop :=
  HasKeys ["proofPurpose", "proofValue", "type", "verificationMethod"] value

def Document.keys : List String := ["@context", "assertionMethod", "controller", "createdAt", "id", "keyAgreement",
  "ma", "proof", "updatedAt", "verificationMethod"]

/-- The value has the fields of a document, of its proof and of its methods and no others, and no
    extension that is `null`. -/
structure Document.Declared (value : Ipld) : Prop where
  keys : HasKeys (Document.keys.erase "ma") value ∨ HasKeys Document.keys value
  proof : ∀ entries proof, value = .Map entries → ("proof", proof) ∈ entries → Proof.Declared proof
  methods : ∀ entries methods, value = .Map entries → ("verificationMethod", .List methods) ∈ entries →
    ∀ method ∈ methods, VerificationMethod.Declared method
  ma : ∀ entries ma, value = .Map entries → ("ma", ma) ∈ entries → ma ≠ .Null

theorem readString_eq_ok_iff {value : Ipld} {s : String} : readString value = .ok s ↔ value = .String s := by
  cases value <;> simp [readString]

/-- A list is what its items are written to, if each of them is. -/
theorem readList_eq_write {α : Type} {read : Ipld → Except String α} {write : α → Ipld} {value : Ipld}
    {items : List α} (hread : readList read value = .ok items)
    (hwrite : ∀ values, value = .List values → ∀ v ∈ values, ∀ a, read v = .ok a → v = write a) :
    value = .List (items.map write) := by
  cases value with
  | List values =>
    have hvalues := hwrite values rfl
    rw [readList] at hread
    refine congrArg Ipld.List ?_
    clear hwrite
    induction values generalizing items with
    | nil =>
      cases hread
      rfl
    | cons v values ih =>
      rw [List.mapM_cons] at hread
      obtain ⟨a, ha, hread⟩ := serde.bind_eq_ok_iff.mp hread
      obtain ⟨rest, hrest, hitems⟩ := serde.bind_eq_ok_iff.mp hread
      cases hitems
      rw [List.map_cons, ← hvalues v List.mem_cons_self a ha,
        ← ih hrest fun w hw => hvalues w (List.mem_cons_of_mem _ hw)]
  | _ => cases hread

theorem readList_strings_eq {value : Ipld} {items : List String}
    (hread : readList readString value = .ok items) : value = strings items :=
  readList_eq_write hread fun _ _ _ _ _ hv => readString_eq_ok_iff.mp hv

theorem readExtension_eq {value : Ipld} {ma : Option Ipld} (hread : readExtension value = .ok ma)
    (hnull : value ≠ .Null) : ma = some value := by
  cases value <;> first | exact absurd rfl hnull | exact (Except.ok.inj hread).symm

/-- A text that a field requires is what the field has. -/
theorem required_string_eq {entries : List (String × Ipld)} {name : String} {v : Ipld} {a : String}
    (hnodup : (entries.map Prod.fst).Nodup) (hv : (name, v) ∈ entries)
    (hrequired : serde.required entries name readString = .ok a) : v = .String a := by
  rw [serde.required_of_mem hnodup hv] at hrequired
  exact readString_eq_ok_iff.mp hrequired

theorem VerificationMethod.serialize_of_declared {value : Ipld} {vm : VerificationMethod}
    (hread : VerificationMethod.deserialize value = .ok vm) (hdeclared : VerificationMethod.Declared value) :
    value = vm.serialize := by
  obtain ⟨entries, rfl, hkeys⟩ := hdeclared
  have hnodup : (entries.map Prod.fst).Nodup := hkeys ▸ by decide
  simp only [deserialize, readMap, serde.bind_eq_ok_iff] at hread
  obtain ⟨_, ⟨⟩, _, hid, _, htype, _, hcontroller, _, hkey, hvm⟩ := hread
  cases hvm
  refine congrArg Ipld.Map (serde.fields_eq hkeys fun name v w hv hw => ?_)
  simp only [List.mem_cons, Prod.mk.injEq, List.not_mem_nil, or_false] at hw
  rcases hw with ⟨rfl, rfl⟩ | ⟨rfl, rfl⟩ | ⟨rfl, rfl⟩ | ⟨rfl, rfl⟩
  · exact required_string_eq hnodup hv hcontroller
  · exact required_string_eq hnodup hv hid
  · exact required_string_eq hnodup hv hkey
  · exact required_string_eq hnodup hv htype

theorem Proof.serialize_of_declared {value : Ipld} {proof : Proof}
    (hread : Proof.deserialize value = .ok proof) (hdeclared : Proof.Declared value) :
    value = proof.serialize := by
  obtain ⟨entries, rfl, hkeys⟩ := hdeclared
  have hnodup : (entries.map Prod.fst).Nodup := hkeys ▸ by decide
  simp only [deserialize, readMap, serde.bind_eq_ok_iff] at hread
  obtain ⟨_, ⟨⟩, _, htype, _, hmethod, _, hpurpose, _, hproof_value, hproof⟩ := hread
  cases hproof
  refine congrArg Ipld.Map (serde.fields_eq hkeys fun name v w hv hw => ?_)
  simp only [List.mem_cons, Prod.mk.injEq, List.not_mem_nil, or_false] at hw
  rcases hw with ⟨rfl, rfl⟩ | ⟨rfl, rfl⟩ | ⟨rfl, rfl⟩ | ⟨rfl, rfl⟩
  · exact required_string_eq hnodup hv hpurpose
  · exact required_string_eq hnodup hv hproof_value
  · exact required_string_eq hnodup hv htype
  · exact required_string_eq hnodup hv hmethod

/-- A key that is not a field of a document makes no difference to what is read. -/
theorem Document.deserialize_append_other {fields : List (String × Ipld)} {key : String} {value : Ipld}
    (hkey : key ∉ Document.keys) :
    Document.deserialize (.Map (fields ++ [(key, value)])) = Document.deserialize (.Map fields) := by
  have hfield {name : String} (hname : name ∈ Document.keys) :
      serde.field (fields ++ [(key, value)]) name = serde.field fields name :=
    serde.field_append_other fun heq => hkey (heq ▸ hname)
  have hrequired {α : Type} {name : String} {read : Ipld → Except String α} (hname : name ∈ Document.keys) :
      serde.required (fields ++ [(key, value)]) name read = serde.required fields name read := by
    rw [serde.required, serde.required, hfield hname]
  have hdefaulted {α : Type} {name : String} {fallback : α} {read : Ipld → Except String α}
      (hname : name ∈ Document.keys) :
      serde.defaulted (fields ++ [(key, value)]) name fallback read = serde.defaulted fields name fallback read := by
    rw [serde.defaulted, serde.defaulted, hfield hname]
  simp (disch := decide) only [deserialize, readMap, ok_bind, hrequired, hdefaulted]

/-- Each field of a declared value is what the document read from it writes there. -/
theorem Document.field_of_declared {fields written : List (String × Ipld)} {document : Document}
    (hread : Document.deserialize (.Map fields) = .ok document) (hdeclared : Document.Declared (.Map fields))
    (hnodup : (fields.map Prod.fst).Nodup) (hwritten : document.serialize = .Map written)
    {name : String} {v w : Ipld} (hv : (name, v) ∈ fields) (hw : (name, w) ∈ written) : v = w := by
  obtain ⟨_, ⟨⟩, hcontext, hid, hcontroller, hmethods, hassertion, hagreement, hproof, hcreated, hupdated, hma⟩ :=
    Document.deserialize_eq_ok_iff.mp hread
  have hlist {items : List String} (hrequired : serde.required fields name (readList readString) = .ok items) :
      v = strings items := by
    rw [serde.required_of_mem hnodup hv] at hrequired
    exact readList_strings_eq hrequired
  cases hwritten
  simp only [List.mem_append, List.mem_cons, Prod.mk.injEq, List.not_mem_nil, or_false, Option.mem_toList,
    Option.map_eq_some_iff] at hw
  rcases hw with ((⟨rfl, rfl⟩ | ⟨rfl, rfl⟩ | ⟨rfl, rfl⟩ | ⟨rfl, rfl⟩ | ⟨rfl, rfl⟩ | ⟨rfl, rfl⟩) |
    ⟨ma, hsome, rfl, rfl⟩) | ⟨rfl, rfl⟩ | ⟨rfl, rfl⟩ | ⟨rfl, rfl⟩
  · exact hlist hcontext
  · exact hlist hassertion
  · exact hlist hcontroller
  · exact required_string_eq hnodup hv hcreated
  · exact required_string_eq hnodup hv hid
  · exact hlist hagreement
  · rw [serde.defaulted_of_mem hnodup hv, hsome] at hma
    exact Option.some.inj ((readExtension_eq hma (hdeclared.ma _ _ rfl hv)).symm)
  · rw [serde.required_of_mem hnodup hv] at hproof
    exact Proof.serialize_of_declared hproof (hdeclared.proof _ _ rfl hv)
  · exact required_string_eq hnodup hv hupdated
  · rw [serde.required_of_mem hnodup hv] at hmethods
    exact readList_eq_write hmethods fun values hvalues method hmem vm hvm =>
      VerificationMethod.serialize_of_declared hvm (hdeclared.methods _ _ rfl (hvalues ▸ hv) method hmem)

/-- The keys of a declared value are those the document read from it writes. -/
theorem Document.keys_of_declared {fields : List (String × Ipld)} {document : Document}
    (hread : Document.deserialize (.Map fields) = .ok document) (hdeclared : Document.Declared (.Map fields)) :
    (fields.map Prod.fst).Nodup ∧
      ∃ written, document.serialize = .Map written ∧ fields.map Prod.fst = written.map Prod.fst := by
  obtain ⟨_, ⟨⟩, _, _, _, _, _, _, _, _, _, hma⟩ := Document.deserialize_eq_ok_iff.mp hread
  rcases hdeclared.keys with ⟨_, ⟨⟩, hkeys⟩ | ⟨_, ⟨⟩, hkeys⟩
  · have habsent : ∀ entry ∈ fields, entry.1 ≠ "ma" := by
      intro entry hmem hname
      have hkey : entry.1 ∈ fields.map Prod.fst := List.mem_map_of_mem hmem
      rw [hname, hkeys] at hkey
      revert hkey
      decide
    rw [serde.defaulted_of_absent habsent] at hma
    refine ⟨hkeys ▸ by decide, _, rfl, ?_⟩
    rw [hkeys, ← Except.ok.inj hma]
    rfl
  · have hnodup : (fields.map Prod.fst).Nodup := hkeys ▸ by decide
    have hkey : "ma" ∈ fields.map Prod.fst := hkeys ▸ by decide
    obtain ⟨⟨_, value⟩, hmem, rfl⟩ := List.mem_map.mp hkey
    rw [serde.defaulted_of_mem hnodup hmem] at hma
    refine ⟨hnodup, _, rfl, ?_⟩
    rw [hkeys, readExtension_eq hma (hdeclared.ma _ _ rfl hmem)]
    rfl

/-- A declared value is what the document read from it is serialized to. -/
theorem Document.serialize_of_declared {value : Ipld} {document : Document}
    (hread : Document.deserialize value = .ok document) (hdeclared : Document.Declared value) :
    value = document.serialize := by
  obtain ⟨fields, rfl, _⟩ := Document.deserialize_eq_ok_iff.mp hread
  obtain ⟨hnodup, written, hwritten, hkeys⟩ := Document.keys_of_declared hread hdeclared
  rw [hwritten]
  exact congrArg Ipld.Map (serde.fields_eq hkeys fun _ _ _ =>
    Document.field_of_declared hread hdeclared hnodup hwritten)

/-- What a document is serialized to is declared, if its extension is not `null`. -/
theorem Document.declared_serialize {document : Document} (hma : document.ma ≠ some .Null) :
    Document.Declared document.serialize := by
  have hmem {name : String} {v : Ipld} {fields : List (String × Ipld)}
      (hserialize : document.serialize = .Map fields) (hv : (name, v) ∈ fields) :
      (name = "ma" → document.ma = some v) ∧ (name = "proof" → v = document.proof.serialize) ∧
        (name = "verificationMethod" → v = .List (document.verification_method.map (·.serialize))) := by
    cases hserialize
    simp only [List.mem_append, List.mem_cons, Prod.mk.injEq, List.not_mem_nil, or_false, Option.mem_toList,
      Option.map_eq_some_iff] at hv
    rcases hv with ((⟨rfl, _⟩ | ⟨rfl, _⟩ | ⟨rfl, _⟩ | ⟨rfl, _⟩ | ⟨rfl, _⟩ | ⟨rfl, _⟩) | ⟨ma, hsome, rfl, rfl⟩) |
      ⟨rfl, hproof⟩ | ⟨rfl, _⟩ | ⟨rfl, hmethods⟩ <;> simp [*]
  constructor
  · cases hsome : document.ma with
    | none => exact .inl ⟨_, rfl, by rw [hsome]; rfl⟩
    | some value => exact .inr ⟨_, rfl, by rw [hsome]; rfl⟩
  · intro entries proof hentries hproof
    rw [(hmem hentries hproof).2.1 rfl]
    exact ⟨_, rfl, rfl⟩
  · intro entries methods hentries hmethods method hmethod
    cases (hmem hentries hmethods).2.2 rfl
    obtain ⟨vm, _, rfl⟩ := List.mem_map.mp hmethod
    exact ⟨_, rfl, rfl⟩
  · rintro entries ma hentries hextension rfl
    exact hma ((hmem hentries hextension).1 rfl)

/-- All fields of a document but its proof are in what the proof signs. -/
theorem Document.mem_payload_document {document : Document} {fields : List (String × Ipld)}
    (hfields : document.serialize = .Map fields) {entry : String × Ipld} (hentry : entry ∈ fields) :
    entry = ("proof", document.proof.serialize) ∨
      ∃ payload, document.payload_document.serialize = .Map payload ∧ entry ∈ payload := by
  cases hfields
  refine or_iff_not_imp_left.mpr fun hproof => ⟨_, rfl, ?_⟩
  rcases List.mem_append.mp hentry with hbefore | hafter
  · exact List.mem_append_left _ hbefore
  · rcases List.mem_cons.mp hafter with rfl | hafter
    · exact absurd rfl hproof
    · exact List.mem_append_right _ (List.mem_cons_of_mem _ hafter)

end ma_core.doc
