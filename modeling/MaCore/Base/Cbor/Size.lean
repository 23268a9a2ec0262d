import MaCore.Base.Cbor.RoundTrip
import MaCore.Base.Serde

namespace cbor

open rust

mutual

/-- How many items are nested in each other. -/
def Value.depth : Value → Nat
  | .array items => itemsDepth items + 1
  | .map entries => entriesDepth entries + 1
  | .tag _ item => item.depth + 1
  | _ => 1

def itemsDepth : List Value → Nat
  | [] => 0
  | item :: items => max item.depth (itemsDepth items)

def entriesDepth : List (Value × Value) → Nat
  | [] => 0
  | (key, item) :: entries => max (max key.depth item.depth) (entriesDepth entries)

end

theorem encodeHead_length_pos (major arg : Nat) : 0 < (encodeHead major arg).length := by
  unfold encodeHead
  split_ifs <;> simp

theorem encode_length_pos (item : Value) : 0 < (encode item).length := by
  cases item <;> simp [encode, encodeHead_length_pos]

/-- Each item of a list takes at least a byte, so a list is no longer than its encoding. -/
theorem items_length_le (items : List Value) : items.length ≤ (encodeItems items).length := by
  induction items with
  | nil => simp
  | cons item items ih =>
    have hitem := encode_length_pos item
    simp only [List.length_cons, encodeItems, List.length_append]
    omega

theorem encodeEntries_append (entries others : List (Value × Value)) :
    encodeEntries (entries ++ others) = encodeEntries entries ++ encodeEntries others := by
  induction entries with
  | nil => rfl
  | cons entry entries ih => simp [encodeEntries, ih]

theorem entry_length_le {entries : List (Value × Value)} {entry : Value × Value} (hmem : entry ∈ entries) :
    (encode entry.2).length ≤ (encodeEntries entries).length := by
  induction entries with
  | nil => cases hmem
  | cons other entries ih =>
    simp only [encodeEntries, List.length_append]
    obtain rfl | hmem := List.mem_cons.mp hmem
    · omega
    · have := ih hmem
      omega

/-- A byte vector takes at least a byte for each byte. -/
theorem bytesValue_length_le (bytes : Bytes) : bytes.length < (encode (bytesValue bytes)).length := by
  have hitems := items_length_le (bytes.map fun b => .uint b.toUInt64)
  have hhead := encodeHead_length_pos 4 (bytes.map fun b => Value.uint b.toUInt64).length
  rw [List.length_map] at hitems
  simp only [bytesValue, encode, List.length_append]
  omega

/-- A struct is longer than the bytes in any of its fields. -/
theorem structValue_length_gt {fields : List (String × Value)} {name : String} {bytes : Bytes}
    (hmem : (name, bytesValue bytes) ∈ fields) : bytes.length < (encode (structValue fields)).length := by
  have hentry : ((.text name, bytesValue bytes) : Value × Value) ∈
      fields.map fun entry => ((.text entry.1, entry.2) : Value × Value) := List.mem_map.mpr ⟨_, hmem, rfl⟩
  have hlength := entry_length_le hentry
  have hbytes := bytesValue_length_le bytes
  simp only [structValue, encode, List.length_append] at hlength ⊢
  omega

theorem entries_length_le (entries : List (Value × Value)) :
    entries.length ≤ (encodeEntries entries).length := by
  induction entries with
  | nil => simp
  | cons entry entries ih =>
    obtain ⟨key, item⟩ := entry
    have hkey := encode_length_pos key
    simp only [List.length_cons, encodeEntries, List.length_append]
    omega

mutual

/-- Each level of nesting takes at least a byte. -/
theorem depth_le_length : ∀ item : Value, item.depth ≤ (encode item).length
  | .uint n => encode_length_pos (.uint n)
  | .nint n => encode_length_pos (.nint n)
  | .bytes b => encode_length_pos (.bytes b)
  | .text s => encode_length_pos (.text s)
  | .bool b => encode_length_pos (.bool b)
  | .null => encode_length_pos .null
  | .float bits => encode_length_pos (.float bits)
  | .array items => by
    have hitems := itemsDepth_le_length items
    have hhead := encodeHead_length_pos 4 items.length
    simp only [Value.depth, encode, List.length_append]
    omega
  | .map entries => by
    have hentries := entriesDepth_le_length entries
    have hhead := encodeHead_length_pos 5 entries.length
    simp only [Value.depth, encode, List.length_append]
    omega
  | .tag t item => by
    have hitem := depth_le_length item
    have hhead := encodeHead_length_pos 6 t.toNat
    simp only [Value.depth, encode, List.length_append]
    omega

theorem itemsDepth_le_length : ∀ items : List Value, itemsDepth items ≤ (encodeItems items).length
  | [] => Nat.le_refl _
  | item :: items => by
    have hitem := depth_le_length item
    have hitems := itemsDepth_le_length items
    simp only [itemsDepth, encodeItems, List.length_append]
    omega

theorem entriesDepth_le_length : ∀ entries : List (Value × Value),
    entriesDepth entries ≤ (encodeEntries entries).length
  | [] => Nat.le_refl _
  | (key, item) :: entries => by
    have hkey := depth_le_length key
    have hitem := depth_le_length item
    have hentries := entriesDepth_le_length entries
    simp only [entriesDepth, encodeEntries, List.length_append]
    omega

end

theorem itemsFit_of_length {limit : Nat} {items : List Value}
    (hfits : ∀ item : Value, item.depth ≤ limit → (encode item).length < 2 ^ 64 → item.Fits limit)
    (hdepth : itemsDepth items ≤ limit) (hlength : (encodeItems items).length < 2 ^ 64) :
    ItemsFit limit items := by
  induction items with
  | nil => trivial
  | cons item items ih =>
    simp only [itemsDepth] at hdepth
    simp only [encodeItems, List.length_append] at hlength
    exact ⟨hfits item (by omega) (by omega), ih (by omega) (by omega)⟩

theorem entriesFit_of_length {limit : Nat} {entries : List (Value × Value)}
    (hfits : ∀ item : Value, item.depth ≤ limit → (encode item).length < 2 ^ 64 → item.Fits limit)
    (hdepth : entriesDepth entries ≤ limit) (hlength : (encodeEntries entries).length < 2 ^ 64) :
    EntriesFit limit entries := by
  induction entries with
  | nil => trivial
  | cons entry entries ih =>
    obtain ⟨key, item⟩ := entry
    simp only [entriesDepth] at hdepth
    simp only [encodeEntries, List.length_append] at hlength
    exact ⟨hfits key (by omega) (by omega), hfits item (by omega) (by omega),
      ih (by omega) (by omega)⟩

/-- An item whose encoding is addressable announces all its lengths truly. -/
theorem Value.fits_of_length {limit : Nat} {item : Value} (hdepth : item.depth ≤ limit)
    (hlength : (encode item).length < 2 ^ 64) : item.Fits limit := by
  induction limit generalizing item with
  | zero => cases item <;> simp [Value.depth] at hdepth
  | succ limit ih =>
    cases item with
    | uint n => trivial
    | nint n => trivial
    | bytes b =>
      simp only [encode, List.length_append] at hlength
      simp only [Value.Fits]
      omega
    | text s =>
      simp only [encode, List.length_append] at hlength
      simp only [Value.Fits]
      omega
    | array items =>
      simp only [encode, List.length_append] at hlength
      simp only [Value.depth, Nat.add_le_add_iff_right] at hdepth
      have hcount := items_length_le items
      exact ⟨by omega, itemsFit_of_length (fun item hd hl => ih hd hl) hdepth (by omega)⟩
    | map entries =>
      simp only [encode, List.length_append] at hlength
      simp only [Value.depth, Nat.add_le_add_iff_right] at hdepth
      have hcount := entries_length_le entries
      exact ⟨by omega, entriesFit_of_length (fun item hd hl => ih hd hl) hdepth (by omega)⟩
    | tag t item =>
      simp only [encode, List.length_append] at hlength
      simp only [Value.depth, Nat.add_le_add_iff_right] at hdepth
      exact ih hdepth (by omega)
    | bool b => trivial
    | null => trivial
    | float bits => trivial

theorem itemsDepth_le {limit : Nat} {items : List Value}
    (hitems : ∀ item ∈ items, item.depth ≤ limit) : itemsDepth items ≤ limit := by
  induction items with
  | nil => simp [itemsDepth]
  | cons item items ih =>
    have hitem := hitems item List.mem_cons_self
    have htail := ih fun other hmem => hitems other (List.mem_cons_of_mem _ hmem)
    simp only [itemsDepth]
    omega

/-- A byte vector nests two deep: the array and its integers. -/
theorem bytesValue_depth_le (bytes : Bytes) : (bytesValue bytes).depth ≤ 2 := by
  have hitems : itemsDepth (bytes.map fun b => Value.uint b.toUInt64) ≤ 1 := by
    apply itemsDepth_le
    intro item hmem
    obtain ⟨b, _, rfl⟩ := List.mem_map.mp hmem
    simp [Value.depth]
  simp only [bytesValue, Value.depth]
  omega

/-- A struct nests one deeper than its deepest field. -/
theorem structValue_depth_le {limit : Nat} {fields : List (String × Value)} (hlimit : 1 ≤ limit)
    (hfields : ∀ entry ∈ fields, entry.2.depth ≤ limit) :
    (structValue fields).depth ≤ limit + 1 := by
  simp only [structValue, Value.depth, Nat.add_le_add_iff_right]
  induction fields with
  | nil => simp [entriesDepth]
  | cons entry fields ih =>
    have hentry := hfields entry List.mem_cons_self
    have htail := ih fun other hmem => hfields other (List.mem_cons_of_mem _ hmem)
    have hname : (Value.text entry.1).depth = 1 := rfl
    simp only [List.map_cons, entriesDepth]
    omega

/-- Items that fit are told apart by their encodings. -/
theorem encode_injective {limit : Nat} {left right : Value} (hleft : left.Fits limit)
    (hright : right.Fits limit) (hencode : encode left = encode right) : left = right := by
  have hdecode := decode_encode hleft
  rw [hencode, decode_encode hright] at hdecode
  exact (Option.some.inj hdecode).symm

/-! How long an encoding is, without writing it. -/

/-- A head is an initial byte, and its argument unless that fits into it. -/
def headSize (arg : Nat) : Nat :=
  if arg < 24 then 1 else if arg < 256 ^ 1 then 2 else if arg < 256 ^ 2 then 3 else if arg < 256 ^ 4 then 5 else 9

def textSize (s : String) : Nat := headSize (utf8 s).length + (utf8 s).length

/-- A byte vector is written element by element, and each byte has a head of its own. -/
def bytesSize (bytes : Bytes) : Nat := headSize bytes.length + (bytes.map fun b => headSize b.toNat).sum

/-- The size of a struct whose fields have these names and sizes. -/
def structSize (fields : List (String × Nat)) : Nat :=
  headSize fields.length + (fields.map fun field => textSize field.1 + field.2).sum

theorem encodeHead_length (major arg : Nat) : (encodeHead major arg).length = headSize arg := by
  unfold encodeHead headSize
  split_ifs <;> simp

theorem encode_uint_length (n : UInt64) : (encode (.uint n)).length = headSize n.toNat :=
  encodeHead_length 0 n.toNat

theorem encode_text_length (s : String) : (encode (.text s)).length = textSize s := by
  rw [encode, List.length_append, encodeHead_length, textSize]

theorem encode_bytesValue_length (bytes : Bytes) : (encode (bytesValue bytes)).length = bytesSize bytes := by
  have hitems : (encodeItems (bytes.map fun b => .uint b.toUInt64)).length =
      (bytes.map fun b => headSize b.toNat).sum := by
    induction bytes with
    | nil => rfl
    | cons b bytes ih =>
      simp only [List.map_cons, encodeItems, List.length_append, ih, encode_uint_length, List.sum_cons,
        UInt8.toNat_toUInt64]
  rw [bytesValue, encode, List.length_append, encodeHead_length, hitems, List.length_map, bytesSize]

theorem encode_structValue_length (fields : List (String × Value)) :
    (encode (structValue fields)).length =
      structSize (fields.map fun entry => (entry.1, (encode entry.2).length)) := by
  have hentries : (encodeEntries (fields.map fun entry => (.text entry.1, entry.2))).length =
      (fields.map fun entry => textSize entry.1 + (encode entry.2).length).sum := by
    induction fields with
    | nil => rfl
    | cons entry fields ih =>
      simp only [List.map_cons, encodeEntries, List.length_append, ih, encode_text_length, List.sum_cons]
  rw [structValue, encode, List.length_append, encodeHead_length, hentries, structSize]
  simp [Function.comp_def]

/-! How long an encoding can get. -/

theorem headSize_le (arg : Nat) : headSize arg ≤ 9 := by
  unfold headSize
  split_ifs <;> omega

theorem textSize_le (s : String) : textSize s ≤ (utf8 s).length + 9 := by
  have hhead := headSize_le (utf8 s).length
  unfold textSize
  omega

/-- A byte vector takes at most two bytes for each byte. -/
theorem bytesSize_le (bytes : Bytes) : bytesSize bytes ≤ 2 * bytes.length + 9 := by
  have hbyte (b : UInt8) : headSize b.toNat ≤ 2 := by
    have hlt : b.toNat < 256 ^ 1 := b.toNat_lt
    unfold headSize
    split_ifs <;> omega
  have hitems : (bytes.map fun b => headSize b.toNat).sum ≤ 2 * bytes.length := by
    induction bytes with
    | nil => rfl
    | cons b bytes ih =>
      have := hbyte b
      simp only [List.map_cons, List.sum_cons, List.length_cons]
      omega
  have hhead := headSize_le bytes.length
  unfold bytesSize
  omega

theorem encode_uint_length_le (n : UInt64) : (encode (.uint n)).length ≤ 9 := by
  rw [encode_uint_length]
  exact headSize_le n.toNat

theorem encode_text_length_le (s : String) : (encode (.text s)).length ≤ (utf8 s).length + 9 := by
  rw [encode_text_length]
  exact textSize_le s

theorem encode_bytesValue_length_le (bytes : Bytes) :
    (encode (bytesValue bytes)).length ≤ 2 * bytes.length + 9 := by
  rw [encode_bytesValue_length]
  exact bytesSize_le bytes

/-- A struct takes its fields, their names and at most nine bytes more for each. -/
theorem encode_structValue_length_le (fields : List (String × Value)) :
    (encode (structValue fields)).length ≤
      (fields.map fun entry => (utf8 entry.1).length + 9 + (encode entry.2).length).sum + 9 := by
  have hfields : (fields.map fun entry => textSize entry.1 + (encode entry.2).length).sum ≤
      (fields.map fun entry => (utf8 entry.1).length + 9 + (encode entry.2).length).sum :=
    List.sum_le_sum fun entry _ => Nat.add_le_add_right (textSize_le entry.1) _
  have hhead := headSize_le fields.length
  rw [encode_structValue_length, structSize, List.length_map, List.map_map]
  simp only [Function.comp_def]
  omega

end cbor
