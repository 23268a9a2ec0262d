import MaCore.Base.Cbor
import MaCore.Base.Result

namespace serde

open rust

variable {V α : Type}

/-- What a derived deserializer finds for a field: nothing, one value, or the
    same key twice, which it rejects. Unknown keys are skipped. -/
def field (fields : List (String × V)) (name : String) : Except String (Option V) :=
  match fields.filter (fun entry => entry.1 == name) with
  | [] => .ok none
  | [entry] => .ok (some entry.2)
  | _ => .error ("duplicate field " ++ name)

/-- A field without `#[serde(default)]`. -/
def required (fields : List (String × V)) (name : String) (read : V → Except String α) :
    Except String α := do
  match ← field fields name with
  | some value => read value
  | none => .error ("missing field " ++ name)

/-- A field with `#[serde(default)]`. -/
def defaulted (fields : List (String × V)) (name : String) (fallback : α)
    (read : V → Except String α) : Except String α := do
  match ← field fields name with
  | some value => read value
  | none => .ok fallback

/-- A sequence of reads succeeds exactly when each of them does. -/
theorem bind_eq_ok_iff {ε β : Type} {x : Except ε α} {f : α → Except ε β} {b : β} :
    (x >>= f) = .ok b ↔ ∃ a, x = .ok a ∧ f a = .ok b := by
  cases x <;> simp [bind, Except.bind]

theorem field_eq_none {fields : List (String × V)} {name : String}
    (h : ∀ entry ∈ fields, entry.1 ≠ name) : field fields name = .ok none := by
  have hfilter : fields.filter (fun entry => entry.1 == name) = [] := by
    rw [List.filter_eq_nil_iff]
    intro entry hmem
    simpa using h entry hmem
  simp [field, hfilter]

/-- A key that is no field's name is skipped. -/
theorem field_append_other {fields : List (String × V)} {key name : String} {value : V} (hkey : key ≠ name) :
    field (fields ++ [(key, value)]) name = field fields name := by
  have hother : ([(key, value)] : List (String × V)).filter (fun entry => entry.1 == name) = [] := by
    rw [List.filter_eq_nil_iff]
    simpa using hkey
  rw [field, field, List.filter_append, hother, List.append_nil]

/-- A struct without a required key does not decode. -/
theorem required_eq_error {fields : List (String × V)} {name : String}
    {read : V → Except String α} (h : ∀ entry ∈ fields, entry.1 ≠ name) :
    required fields name read = .error ("missing field " ++ name) := by
  simp [required, field_eq_none h]

/-- Where no key is twice, a key that is there is found. -/
theorem field_of_mem {fields : List (String × V)} {name : String} {value : V}
    (hnodup : (fields.map Prod.fst).Nodup) (hmem : (name, value) ∈ fields) :
    field fields name = .ok (some value) := by
  have hfilter : fields.filter (fun entry => entry.1 == name) = [(name, value)] := by
    induction fields with
    | nil => cases hmem
    | cons entry fields ih =>
      rw [List.map_cons, List.nodup_cons] at hnodup
      rcases List.mem_cons.mp hmem with rfl | hmem
      · have hrest : fields.filter (fun entry => entry.1 == name) = [] := by
          rw [List.filter_eq_nil_iff]
          intro other hother hname
          exact hnodup.1 (List.mem_map.mpr ⟨other, hother, beq_iff_eq.mp hname⟩)
        simp only [List.filter_cons, beq_self_eq_true, if_true, hrest]
      · have hother : ¬ (entry.1 == name) = true := by
          intro hname
          exact hnodup.1 (List.mem_map.mpr ⟨_, hmem, (beq_iff_eq.mp hname).symm⟩)
        simp only [List.filter_cons, if_neg hother, ih hnodup.2 hmem]
  rw [field, hfilter]

theorem required_of_mem {fields : List (String × V)} {name : String} {value : V}
    {read : V → Except String α} (hnodup : (fields.map Prod.fst).Nodup) (hmem : (name, value) ∈ fields) :
    required fields name read = read value := by
  rw [required, field_of_mem hnodup hmem]
  rfl

theorem defaulted_of_mem {fields : List (String × V)} {name : String} {value : V} {fallback : α}
    {read : V → Except String α} (hnodup : (fields.map Prod.fst).Nodup) (hmem : (name, value) ∈ fields) :
    defaulted fields name fallback read = read value := by
  rw [defaulted, field_of_mem hnodup hmem]
  rfl

theorem defaulted_of_absent {fields : List (String × V)} {name : String} {fallback : α}
    {read : V → Except String α} (h : ∀ entry ∈ fields, entry.1 ≠ name) :
    defaulted fields name fallback read = .ok fallback := by
  simp [defaulted, field_eq_none h]

/-- Two lists of fields with the same keys are equal if their values are. -/
theorem fields_eq {fields written : List (String × V)} (hkeys : fields.map Prod.fst = written.map Prod.fst)
    (hvalues : ∀ name v w, (name, v) ∈ fields → (name, w) ∈ written → v = w) : fields = written := by
  induction fields generalizing written with
  | nil =>
    rw [List.map_nil, eq_comm, List.map_eq_nil_iff] at hkeys
    exact hkeys.symm
  | cons entry fields ih =>
    obtain ⟨name, v⟩ := entry
    cases written with
    | nil => cases hkeys
    | cons other written =>
      obtain ⟨other, w⟩ := other
      obtain ⟨rfl, hrest⟩ := List.cons.inj hkeys
      have hsame : v = w := hvalues _ v w List.mem_cons_self List.mem_cons_self
      have htail := ih hrest fun k a b ha hb =>
        hvalues k a b (List.mem_cons_of_mem _ ha) (List.mem_cons_of_mem _ hb)
      rw [hsame, htail]

end serde

namespace cbor

open rust

/-- Tags around an item are skipped by the deserializer. -/
def Value.untag : Value → Value
  | .tag _ item => item.untag
  | item => item

/-- A serialized struct: a map from the field names. -/
def structValue (fields : List (String × Value)) : Value :=
  .map (fields.map fun entry => (.text entry.1, entry.2))

/-- A key is read as a field identifier, from text or from its bytes; bytes
    that are no text are no field's name. -/
def readKey (entry : Value × Value) : Except String (String × Value) :=
  match entry.1.untag with
  | .text name => .ok (name, entry.2)
  | .bytes name => .ok ((from_utf8 name).getD "", entry.2)
  | _ => .error "invalid type: expected str or bytes"

def readFields (v : Value) : Except String (List (String × Value)) :=
  match v.untag with
  | .map entries => entries.mapM readKey
  | _ => .error "invalid type: expected map"

/-- The tags of a positive and of a negative big number. -/
def BIGPOS : UInt64 := 2
def BIGNEG : UInt64 := 3

/-- A big number of at most 128 bits, zeros before it not counted. -/
def readBigNum (bytes : Bytes) : Except String Nat :=
  let digits := bytes.dropWhile (· == 0)
  if 16 < digits.length then .error "bigint too large" else .ok (beNat digits)

/-- A natural number, also one written as a big number. -/
def readInteger : Value → Except String Nat
  | .uint n => .ok n.toNat
  | .nint _ => .error "unexpected negative integer"
  | .tag t item =>
    if t = BIGPOS then
      match item with
      | .bytes b => readBigNum b
      | _ => .error "invalid type: expected bytes"
    else if t = BIGNEG then .error "unexpected negative integer"
    else readInteger item
  | _ => .error "invalid type: expected integer"

def readU64 (v : Value) : Except String UInt64 := do
  let n ← readInteger v
  if n < 2 ^ 64 then .ok n.toUInt64 else .error "integer too large"

def readString (v : Value) : Except String String :=
  match v.untag with
  | .text s => .ok s
  | _ => .error "invalid type: expected string"

/-- An `Option` field: `null` is `None`. -/
def readOption {α : Type} (read : Value → Except String α) (v : Value) :
    Except String (Option α) :=
  match v with
  | .null => .ok none
  | item => (read item).map some

def readByte (v : Value) : Except String UInt8 := do
  let n ← readU64 v
  if n.toNat < 256 then .ok n.toUInt8 else .error "invalid value: expected u8"

/-- A `Vec<u8>`: an array of integers, or a byte string read as a sequence. -/
def readBytes (v : Value) : Except String Bytes :=
  match v.untag with
  | .array items => items.mapM readByte
  | .bytes b => .ok b
  | _ => .error "invalid type: expected a sequence"

/-- A `[u8; n]`. -/
def readByteArr (n : Nat) (v : Value) : Except String (ByteArr n) := do
  let bytes ← readBytes v
  match ByteArr.try_from n bytes with
  | some arr => .ok arr
  | none => .error "invalid length"

/-- `Vec<u8>` is serialized element by element. -/
def bytesValue (bytes : Bytes) : Value :=
  .array (bytes.map fun b => .uint b.toUInt64)

@[simp] theorem readU64_uint (n : UInt64) : readU64 (.uint n) = .ok n := by
  have hlt : n.toNat < 2 ^ 64 := n.toNat_lt
  rw [readU64, readInteger, ok_bind, if_pos hlt, Nat.toUInt64_eq, UInt64.ofNat_toNat]

example : readU64 (.tag BIGPOS (.bytes [0, 1, 0])) = .ok 256 := by decide

theorem readByte_uint (b : UInt8) : readByte (.uint b.toUInt64) = .ok b := by
  have h : b.toUInt64.toNat < 256 := by simpa using b.toNat_lt
  rw [readByte, readU64_uint, ok_bind, if_pos h, UInt8.toUInt8_toUInt64]

@[simp] theorem readBytes_bytesValue (bytes : Bytes) : readBytes (bytesValue bytes) = .ok bytes := by
  simp only [readBytes, bytesValue, Value.untag]
  induction bytes with
  | nil => rfl
  | cons b bytes ih => simp [readByte_uint, ih]

@[simp] theorem readByteArr_bytesValue {n : Nat} (arr : ByteArr n) :
    readByteArr n (bytesValue arr.val) = .ok arr := by
  simp [readByteArr]

@[simp] theorem readString_text (s : String) : readString (.text s) = .ok s := rfl

@[simp] theorem readFields_structValue (fields : List (String × Value)) :
    readFields (structValue fields) = .ok fields := by
  simp only [readFields, structValue, Value.untag]
  induction fields with
  | nil => rfl
  | cons entry fields ih => simp [readKey, Value.untag, ih]

end cbor
