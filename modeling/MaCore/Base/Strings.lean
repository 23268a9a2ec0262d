import Mathlib.Data.List.Basic

namespace rust

/-- `char::is_whitespace`: the Unicode `White_Space` property. -/
def is_whitespace (c : Char) : Bool :=
  (9 ≤ c.val && c.val ≤ 13) || c.val = 0x20 || c.val = 0x85 || c.val = 0xa0 || c.val = 0x1680 ||
    (0x2000 ≤ c.val && c.val ≤ 0x200a) || c.val = 0x2028 || c.val = 0x2029 || c.val = 0x202f ||
    c.val = 0x205f || c.val = 0x3000

/-- Drop the characters at both ends that satisfy `p`. -/
def trimList (p : Char → Bool) (l : List Char) : List Char :=
  ((l.dropWhile p).reverse.dropWhile p).reverse

/-- `str::trim`. -/
def trim (s : String) : String := String.ofList (trimList is_whitespace s.toList)

/-- `str::trim_start_matches` for one character. -/
def trim_start_matches (c : Char) (s : String) : String :=
  String.ofList (s.toList.dropWhile (· == c))

/-- `str::strip_prefix`. -/
def stripPrefix (start s : String) : Option String :=
  if start.toList.isPrefixOf s.toList then
    some (String.ofList (s.toList.drop start.toList.length))
  else none

/-- `str::starts_with`. -/
def starts_with (start s : String) : Bool := start.toList.isPrefixOf s.toList

/-- `str::contains`. -/
def contains (part s : String) : Bool := s.toList.tails.any part.toList.isPrefixOf

/-- `str::find` for one character, with the texts before and after it. -/
def find (c : Char) (s : String) : Option (String × String) :=
  if c ∈ s.toList then
    some (String.ofList (s.toList.takeWhile (· != c)), String.ofList (s.toList.dropWhile (· != c)).tail)
  else none

/-- `str::split` at one character: always at least one part. -/
def split (c : Char) (s : String) : List String :=
  (s.toList.splitOn c).map String.ofList

theorem stripPrefix_eq_some_iff {start s rest : String} :
    stripPrefix start s = some rest ↔ s = start ++ rest := by
  unfold stripPrefix
  constructor
  · intro h
    split at h
    · rename_i hstart
      obtain ⟨tail, htail⟩ := List.isPrefixOf_iff_prefix.mp hstart
      cases h
      apply String.toList_injective
      simp [String.toList_append, ← htail]
    · cases h
  · rintro rfl
    have hstart : start.toList.isPrefixOf (start ++ rest).toList = true :=
      List.isPrefixOf_iff_prefix.mpr ⟨rest.toList, by simp [String.toList_append]⟩
    rw [if_pos hstart]
    simp [String.toList_append]

/-- Prefixing and stripping the same text is the identity. -/
@[simp] theorem stripPrefix_append (start rest : String) :
    stripPrefix start (start ++ rest) = some rest :=
  stripPrefix_eq_some_iff.mpr rfl

theorem find_eq_none_iff {c : Char} {s : String} : find c s = none ↔ c ∉ s.toList := by
  unfold find
  split <;> simp_all

theorem starts_with_iff {start s : String} :
    starts_with start s = true ↔ ∃ rest, s = start ++ rest := by
  unfold starts_with
  rw [List.isPrefixOf_iff_prefix]
  constructor
  · rintro ⟨rest, hrest⟩
    refine ⟨String.ofList rest, String.toList_injective ?_⟩
    rw [← hrest, String.toList_append, String.toList_ofList]
  · rintro ⟨rest, rfl⟩
    exact ⟨rest.toList, by rw [String.toList_append]⟩

theorem split_eq_singleton {c : Char} {s : String} (habsent : c ∉ s.toList) : split c s = [s] := by
  rw [split, List.splitOn_eq_singleton habsent]
  simp

/-- A text that is its only part has no separator. -/
theorem split_singleton_absent {c : Char} {s part : String} (hsplit : split c s = [part]) : c ∉ s.toList := by
  intro hmem
  obtain ⟨first, rest, hlist, habsent⟩ := List.eq_append_cons_of_mem hmem
  rw [split, hlist, List.splitOn_append_cons_self_of_not_mem habsent] at hsplit
  have hnonempty := List.splitOn_ne_nil c rest
  simp [hnonempty] at hsplit

/-- A text of two parts has one separator. -/
theorem split_pair_eq {c : Char} {s sep first second : String} (hsep : sep.toList = [c])
    (hsplit : split c s = [first, second]) : s = first ++ sep ++ second := by
  have hparts : s.toList.splitOn c = [first.toList, second.toList] := by
    have hlists := congrArg (List.map String.toList) hsplit
    simpa [split, Function.comp_def] using hlists
  have hjoined : [c].intercalate (s.toList.splitOn c) = s.toList := List.intercalate_splitOn c
  rw [hparts] at hjoined
  apply String.toList_injective
  rw [← hjoined]
  simp [String.toList_append, hsep, List.intercalate]

theorem split_append {c : Char} {first sep rest : String} (hsep : sep.toList = [c])
    (habsent : c ∉ first.toList) : split c (first ++ sep ++ rest) = first :: split c rest := by
  have hlist : (first ++ sep ++ rest).toList = first.toList ++ c :: rest.toList := by
    simp [String.toList_append, hsep]
  rw [split, hlist, List.splitOn_append_cons_self_of_not_mem habsent]
  simp [split]

theorem dropWhile_eq_self {p : Char → Bool} {l : List Char} (hhead : ∀ c ∈ l.head?, p c = false) :
    l.dropWhile p = l := by
  cases l with
  | nil => rfl
  | cons c l => rw [List.dropWhile_cons_of_neg (by simp [hhead c rfl])]

/-- A text without white space is left as it is. -/
theorem trim_eq_self {s : String} (hsolid : ∀ c ∈ s.toList, is_whitespace c = false) : trim s = s := by
  have hdrop : s.toList.dropWhile is_whitespace = s.toList :=
    dropWhile_eq_self fun c hc => hsolid c (List.mem_of_mem_head? hc)
  have hreverse : s.toList.reverse.dropWhile is_whitespace = s.toList.reverse := by
    apply dropWhile_eq_self
    intro c hc
    exact hsolid c (List.mem_reverse.mp (List.mem_of_mem_head? hc))
  rw [trim, trimList, hdrop, hreverse, List.reverse_reverse, String.ofList_toList]

end rust
