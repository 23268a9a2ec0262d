import MaCore.Base.Bytes

namespace cbor

open rust

/-- A CBOR data item. Integers and lengths are the 64-bit arguments of their
    heads; floating-point numbers are kept as their bits. -/
inductive Value where
  | uint (n : UInt64)
  | nint (n : UInt64)
  | bytes (b : Bytes)
  | text (s : String)
  | array (items : List Value)
  | map (entries : List (Value × Value))
  | tag (t : UInt64) (item : Value)
  | bool (b : Bool)
  | null
  | float (bits : UInt64)

/-- The initial byte and argument of a data item, in the shortest form. -/
def encodeHead (major arg : Nat) : Bytes :=
  if arg < 24 then [UInt8.ofNat (major * 32 + arg)]
  else if arg < 256 ^ 1 then UInt8.ofNat (major * 32 + 24) :: beBytes 1 arg
  else if arg < 256 ^ 2 then UInt8.ofNat (major * 32 + 25) :: beBytes 2 arg
  else if arg < 256 ^ 4 then UInt8.ofNat (major * 32 + 26) :: beBytes 4 arg
  else UInt8.ofNat (major * 32 + 27) :: beBytes 8 arg

mutual

/-- The definite-length encoding with shortest heads. -/
def encode : Value → Bytes
  | .uint n => encodeHead 0 n.toNat
  | .nint n => encodeHead 1 n.toNat
  | .bytes b => encodeHead 2 b.length ++ b
  | .text s => encodeHead 3 (utf8 s).length ++ utf8 s
  | .array items => encodeHead 4 items.length ++ encodeItems items
  | .map entries => encodeHead 5 entries.length ++ encodeEntries entries
  | .tag t item => encodeHead 6 t.toNat ++ encode item
  | .bool b => [if b then 0xf5 else 0xf4]
  | .null => [0xf6]
  | .float bits => 0xfb :: beBytes 8 bits.toNat

def encodeItems : List Value → Bytes
  | [] => []
  | item :: items => encode item ++ encodeItems items

def encodeEntries : List (Value × Value) → Bytes
  | [] => []
  | (key, item) :: entries => encode key ++ encode item ++ encodeEntries entries

end

/-- The argument a head's low five bits announce, and the bytes after it. -/
def decodeArg (info : Nat) (rest : Bytes) : Option (Nat × Bytes) :=
  if info < 24 then some (info, rest)
  else if info < 28 then
    let width := 2 ^ (info - 24)
    if width ≤ rest.length then some (beNat (rest.take width), rest.drop width) else none
  else none

def decodeHead : Bytes → Option (Nat × Nat × Bytes)
  | [] => none
  | b :: rest => do
    let (arg, rest) ← decodeArg (b.toNat % 32) rest
    return (b.toNat / 32, arg, rest)

/-- Run a parser `count` times and collect what it returns. -/
def decodeMany {α : Type} (parse : Bytes → Option (α × Bytes)) :
    Nat → Bytes → Option (List α × Bytes)
  | 0, input => some ([], input)
  | count + 1, input => do
    let (item, rest) ← parse input
    let (items, rest) ← decodeMany parse count rest
    return (item :: items, rest)

/-- Run a parser twice, for a key and its value. -/
def decodePair {α : Type} (parse : Bytes → Option (α × Bytes)) (input : Bytes) :
    Option ((α × α) × Bytes) := do
  let (key, rest) ← parse input
  let (item, rest) ← parse rest
  return ((key, item), rest)

/-- Split off the first `count` bytes, if there are as many. -/
def takeBytes (count : Nat) (input : Bytes) : Option (Bytes × Bytes) :=
  if count ≤ input.length then some (input.take count, input.drop count) else none

/-- Read one definite-length data item whose nesting is at most `limit`. -/
def decodeItem : Nat → Bytes → Option (Value × Bytes)
  | 0, _ => none
  | limit + 1, input => do
    let (major, arg, rest) ← decodeHead input
    match major with
    | 0 => return (.uint (UInt64.ofNat arg), rest)
    | 1 => return (.nint (UInt64.ofNat arg), rest)
    | 2 =>
      let (b, rest) ← takeBytes arg rest
      return (.bytes b, rest)
    | 3 =>
      let (b, rest) ← takeBytes arg rest
      let s ← from_utf8 b
      return (.text s, rest)
    | 4 =>
      let (items, rest) ← decodeMany (decodeItem limit) arg rest
      return (.array items, rest)
    | 5 =>
      let (entries, rest) ← decodeMany (decodePair (decodeItem limit)) arg rest
      return (.map entries, rest)
    | 6 =>
      let (item, rest) ← decodeItem limit rest
      return (.tag (UInt64.ofNat arg) item, rest)
    | _ =>
      -- Major type 7 has no payload but the argument, so the initial byte decides.
      match input with
      | 0xf4 :: _ => return (.bool false, rest)
      | 0xf5 :: _ => return (.bool true, rest)
      | 0xf6 :: _ => return (.null, rest)
      | 0xfb :: _ => return (.float (UInt64.ofNat arg), rest)
      | _ => none

/-- Read the first data item; bytes after it are ignored. -/
def decode (limit : Nat) (input : Bytes) : Option Value :=
  (decodeItem limit input).map Prod.fst

mutual

/-- Nesting of at most `limit` items, and lengths a head can announce. -/
def Value.Fits : Nat → Value → Prop
  | 0, _ => False
  | _ + 1, .bytes b => b.length < 2 ^ 64
  | _ + 1, .text s => (utf8 s).length < 2 ^ 64
  | limit + 1, .array items => items.length < 2 ^ 64 ∧ ItemsFit limit items
  | limit + 1, .map entries => entries.length < 2 ^ 64 ∧ EntriesFit limit entries
  | limit + 1, .tag _ item => item.Fits limit
  | _ + 1, _ => True

def ItemsFit (limit : Nat) : List Value → Prop
  | [] => True
  | item :: items => item.Fits limit ∧ ItemsFit limit items

def EntriesFit (limit : Nat) : List (Value × Value) → Prop
  | [] => True
  | (key, item) :: entries => key.Fits limit ∧ item.Fits limit ∧ EntriesFit limit entries

end

end cbor
