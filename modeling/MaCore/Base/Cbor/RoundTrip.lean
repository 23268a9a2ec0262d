import MaCore.Base.Cbor
import Mathlib.Tactic.IntervalCases

namespace cbor

open rust

theorem decodeArg_width {info width arg : Nat} (hinfo : 24 ≤ info) (hlt : info < 28)
    (hwidth : 2 ^ (info - 24) = width) (harg : arg < 256 ^ width) (rest : Bytes) :
    decodeArg info (beBytes width arg ++ rest) = some (arg, rest) := by
  have hbytes : (beBytes width arg ++ rest).take width = beBytes width arg := by
    simp
  have hrest : (beBytes width arg ++ rest).drop width = rest := by simp
  simp only [decodeArg, if_neg (show ¬ info < 24 by omega), if_pos hlt, hwidth,
    List.length_append, beBytes_length, Nat.le_add_right, if_true, hbytes, hrest,
    beNat_beBytes harg]

theorem initialByte {major info : Nat} (hmajor : major < 8) (hinfo : info < 32) :
    (UInt8.ofNat (major * 32 + info)).toNat % 32 = info ∧
      (UInt8.ofNat (major * 32 + info)).toNat / 32 = major := by
  have hval : (UInt8.ofNat (major * 32 + info)).toNat = major * 32 + info := by
    simp only [UInt8.toNat_ofNat']
    omega
  omega

/-- A head is read back whatever follows it. -/
theorem decodeHead_encodeHead {major arg : Nat} (hmajor : major < 8) (harg : arg < 2 ^ 64)
    (rest : Bytes) :
    decodeHead (encodeHead major arg ++ rest) = some (major, arg, rest) := by
  have wide (info width : Nat) (hinfo : 24 ≤ info) (hlt : info < 28)
      (hwidth : 2 ^ (info - 24) = width) (hfits : arg < 256 ^ width) :
      decodeHead ((UInt8.ofNat (major * 32 + info) :: beBytes width arg) ++ rest) =
        some (major, arg, rest) := by
    obtain ⟨hlow, hhigh⟩ := initialByte hmajor (show info < 32 by omega)
    simp only [List.cons_append, decodeHead, hlow, hhigh,
      decodeArg_width hinfo hlt hwidth hfits, Option.bind_eq_bind, Option.bind_some,
      Option.pure_def]
  unfold encodeHead
  split
  · rename_i hsmall
    obtain ⟨hlow, hhigh⟩ := initialByte hmajor (show arg < 32 by omega)
    simp only [List.cons_append, List.nil_append, decodeHead, hlow, hhigh, decodeArg,
      if_pos hsmall, Option.bind_eq_bind, Option.bind_some, Option.pure_def]
  · split
    · exact wide 24 1 (by omega) (by omega) (by omega) (by assumption)
    · split
      · exact wide 25 2 (by omega) (by omega) (by omega) (by assumption)
      · split
        · exact wide 26 4 (by omega) (by omega) (by omega) (by assumption)
        · exact wide 27 8 (by omega) (by omega) (by omega) (by simpa using harg)

theorem takeBytes_append (b rest : Bytes) : takeBytes b.length (b ++ rest) = some (b, rest) := by
  simp [takeBytes]

/-- A parser that reads back every item of a list reads back their concatenation. -/
theorem decodeMany_encodeItems {parse : Bytes → Option (Value × Bytes)} {items : List Value}
    (hparse : ∀ item ∈ items, ∀ rest, parse (encode item ++ rest) = some (item, rest))
    (rest : Bytes) :
    decodeMany parse items.length (encodeItems items ++ rest) = some (items, rest) := by
  induction items with
  | nil => rfl
  | cons item items ih =>
    have hitem := hparse item (by simp) (encodeItems items ++ rest)
    have htail := ih (fun other hmem => hparse other (by simp [hmem]))
    simp [decodeMany, encodeItems, List.append_assoc, hitem, htail]

theorem decodeMany_encodeEntries {parse : Bytes → Option (Value × Bytes)}
    {entries : List (Value × Value)}
    (hparse : ∀ entry ∈ entries, ∀ rest, parse (encode entry.1 ++ rest) = some (entry.1, rest) ∧
      parse (encode entry.2 ++ rest) = some (entry.2, rest))
    (rest : Bytes) :
    decodeMany (decodePair parse) entries.length (encodeEntries entries ++ rest) =
      some (entries, rest) := by
  induction entries with
  | nil => rfl
  | cons entry entries ih =>
    obtain ⟨key, item⟩ := entry
    have hkey := (hparse (key, item) (by simp) (encode item ++ (encodeEntries entries ++ rest))).1
    have hitem := (hparse (key, item) (by simp) (encodeEntries entries ++ rest)).2
    have htail := ih (fun other hmem => hparse other (by simp [hmem]))
    simp [decodeMany, decodePair, encodeEntries, List.append_assoc, hkey, hitem, htail]

theorem ItemsFit.mem {limit : Nat} {items : List Value} (hfit : ItemsFit limit items) :
    ∀ item ∈ items, item.Fits limit := by
  induction items with
  | nil => simp
  | cons item items ih =>
    obtain ⟨hitem, hitems⟩ := hfit
    intro other hmem
    rcases List.mem_cons.mp hmem with rfl | hmem
    · exact hitem
    · exact ih hitems other hmem

theorem EntriesFit.mem {limit : Nat} {entries : List (Value × Value)}
    (hfit : EntriesFit limit entries) :
    ∀ entry ∈ entries, entry.1.Fits limit ∧ entry.2.Fits limit := by
  induction entries with
  | nil => simp
  | cons entry entries ih =>
    obtain ⟨hkey, hitem, hentries⟩ := hfit
    intro other hmem
    rcases List.mem_cons.mp hmem with rfl | hmem
    · exact ⟨hkey, hitem⟩
    · exact ih hentries other hmem

/-- Every item within the nesting limit is read back from its encoding, and
    the bytes after it are left over. -/
theorem decodeItem_encode {limit : Nat} {item : Value} (hfit : item.Fits limit) (rest : Bytes) :
    decodeItem limit (encode item ++ rest) = some (item, rest) := by
  induction limit generalizing item rest with
  | zero => cases item <;> simp [Value.Fits] at hfit
  | succ limit ih =>
    cases item with
    | uint n =>
      simp [encode, decodeItem, decodeHead_encodeHead (show 0 < 8 by omega) n.toNat_lt]
    | nint n =>
      simp [encode, decodeItem, decodeHead_encodeHead (show 1 < 8 by omega) n.toNat_lt]
    | bytes b =>
      simp only [Value.Fits] at hfit
      simp [encode, decodeItem, List.append_assoc,
        decodeHead_encodeHead (show 2 < 8 by omega) hfit, takeBytes_append]
    | text s =>
      simp only [Value.Fits] at hfit
      simp [encode, decodeItem, List.append_assoc,
        decodeHead_encodeHead (show 3 < 8 by omega) hfit, takeBytes_append]
    | array items =>
      simp only [Value.Fits] at hfit
      obtain ⟨hlength, hitems⟩ := hfit
      have hmany := @decodeMany_encodeItems (decodeItem limit) items
        (fun item hmem rest => ih (hitems.mem item hmem) rest) rest
      simp [encode, decodeItem, List.append_assoc,
        decodeHead_encodeHead (show 4 < 8 by omega) hlength, hmany]
    | map entries =>
      simp only [Value.Fits] at hfit
      obtain ⟨hlength, hentries⟩ := hfit
      have hmany := @decodeMany_encodeEntries (decodeItem limit) entries
        (fun entry hmem rest =>
          ⟨ih (hentries.mem entry hmem).1 rest, ih (hentries.mem entry hmem).2 rest⟩) rest
      simp [encode, decodeItem, List.append_assoc,
        decodeHead_encodeHead (show 5 < 8 by omega) hlength, hmany]
    | tag t item =>
      simp only [Value.Fits] at hfit
      simp [encode, decodeItem, List.append_assoc,
        decodeHead_encodeHead (show 6 < 8 by omega) t.toNat_lt, ih hfit]
    | bool b => cases b <;> rfl
    | null => rfl
    | float bits =>
      have hfits : bits.toNat < 256 ^ 8 := by simpa using bits.toNat_lt
      have harg := decodeArg_width (show 24 ≤ 27 by omega) (by omega) (by omega) hfits rest
      have hhead : decodeHead (0xfb :: (beBytes 8 bits.toNat ++ rest)) =
          some (7, bits.toNat, rest) := by
        have hlow : (0xfb : UInt8).toNat % 32 = 27 := rfl
        simp only [decodeHead, hlow, harg]
        rfl
      simp [encode, decodeItem, hhead]

/-- **Round trip.** Decoding an encoded item gives the item. -/
theorem decode_encode {limit : Nat} {item : Value} (hfit : item.Fits limit) :
    decode limit (encode item) = some item := by
  have h := decodeItem_encode hfit []
  rw [List.append_nil] at h
  simp [decode, h]

end cbor
