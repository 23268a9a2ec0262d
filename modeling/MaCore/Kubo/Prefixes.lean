import MaCore.Base.Trim
import MaCore.Kubo.Names

open rust

namespace ma_core.kubo

/-- What a prefix of a CID is made of. -/
inductive Piece where
  | ipfs
  | slash
deriving DecidableEq

def Piece.text : Piece → String
  | ipfs => "/ipfs/"
  | slash => "/"

/-- A CID after these pieces. -/
def prefixed (pieces : List Piece) (cid : String) : String := String.join (pieces.map Piece.text) ++ cid

/-- A text that may be a CID: neither `/` nor white space is in it. -/
def IsCid (cid : String) : Prop := ∀ c ∈ cid.toList, c ≠ '/' ∧ is_whitespace c = false

def IsBlank (s : String) : Prop := ∀ c ∈ s.toList, is_whitespace c = true

/-- After a `/` alone, there is no other prefix. -/
def SlashesLast (pieces : List Piece) : Prop :=
  pieces.Pairwise fun first second => first = .slash → second = .slash

instance (cid : String) : Decidable (IsCid cid) :=
  decidable_of_iff (cid.toList.all (fun c => c != '/' && !is_whitespace c) = true) (by simp [IsCid])

instance (s : String) : Decidable (IsBlank s) :=
  decidable_of_iff (s.toList.all is_whitespace = true) List.all_eq_true

instance (pieces : List Piece) : Decidable (SlashesLast pieces) :=
  inferInstanceAs (Decidable (pieces.Pairwise fun first second => first = .slash → second = .slash))

section
variable {pieces : List Piece} {cid before after : String} {c : Char}

theorem prefixed_nil (cid : String) : prefixed [] cid = cid := by
  simp [prefixed]

theorem prefixed_cons (piece : Piece) (pieces : List Piece) (cid : String) :
    prefixed (piece :: pieces) cid = piece.text ++ prefixed pieces cid := by
  rw [prefixed, List.map_cons, String.join_cons, String.append_assoc]
  rfl

theorem IsCid.no_slash (hcid : IsCid cid) : '/' ∉ cid.toList := fun hmem => (hcid '/' hmem).1 rfl

theorem IsCid.ne_append (hcid : IsCid cid) {start : List Char} (hslash : '/' ∈ start) (rest : List Char) :
    cid.toList ≠ start ++ rest := by
  intro heq
  refine hcid.no_slash ?_
  rw [heq]
  exact List.mem_append_left _ hslash

theorem piece_head (piece : Piece) :
    ∃ rest, piece.text.toList = '/' :: rest ∧ ∀ c ∈ rest, is_whitespace c = false := by
  cases piece with
  | ipfs =>
    have hall : "ipfs/".toList.all (fun c => !is_whitespace c) = true := by decide
    refine ⟨"ipfs/".toList, rfl, ?_⟩
    intro c hc
    have hsolid := List.all_eq_true.mp hall c hc
    rwa [Bool.not_eq_true'] at hsolid
  | slash =>
    refine ⟨[], rfl, ?_⟩
    intro c hc
    cases hc

/-- There is no white space to trim in what is around. -/
theorem IsCid.trim_eq (hcid : IsCid cid) (hbefore : IsBlank before) (hafter : IsBlank after) (pieces : List Piece) :
    trim (before ++ prefixed pieces cid ++ after) = prefixed pieces cid := by
  have hsolid : ∀ c ∈ (prefixed pieces cid).toList, is_whitespace c = false := by
    induction pieces with
    | nil =>
      rw [prefixed_nil]
      exact fun c hc => (hcid c hc).2
    | cons piece pieces ih =>
      obtain ⟨rest, hpiece, hrest⟩ := piece_head piece
      intro c hc
      rw [prefixed_cons, String.toList_append, hpiece, List.mem_append, List.mem_cons] at hc
      obtain (rfl | hc) | hc := hc
      · decide
      · exact hrest c hc
      · exact ih c hc
  have htrimmed : Trimmed (prefixed pieces cid).toList :=
    ⟨fun c hc => hsolid c (List.mem_of_mem_head? hc), fun c hc => hsolid c (List.mem_of_mem_getLast? hc)⟩
  rw [trim, String.toList_append, String.toList_append, htrimmed.trimList_surrounded hbefore hafter,
    String.ofList_toList]

/-- The pieces are no more than the characters, so the loop is not cut off. -/
theorem pieces_length_le (pieces : List Piece) (cid : String) : pieces.length ≤ (prefixed pieces cid).length := by
  induction pieces with
  | nil => exact Nat.zero_le _
  | cons piece pieces ih =>
    have hpos : 1 ≤ piece.text.length := by
      cases piece with
      | ipfs => decide
      | slash => decide
    rw [prefixed_cons, String.length_append, List.length_cons]
    omega

/-- After the `/` of a piece or a CID, only a piece goes on with `ipfs/`. -/
theorem prefixed_ne_ipfs (hcid : IsCid cid) (pieces : List Piece) (rest : List Char) :
    (prefixed pieces cid).toList ≠ "ipfs/".toList ++ rest := by
  intro heq
  cases pieces with
  | nil =>
    rw [prefixed_nil] at heq
    exact hcid.ne_append (by decide) rest heq
  | cons piece pieces =>
    obtain ⟨tail, hpiece, _⟩ := piece_head piece
    rw [prefixed_cons, String.toList_append, hpiece] at heq
    cases (List.cons.inj heq).1

theorem stripPrefix_prefixed_none (hcid : IsCid cid) (hhead : pieces.head? ≠ some .ipfs) :
    stripPrefix "/ipfs/" (prefixed pieces cid) = none := by
  rw [Option.eq_none_iff_forall_ne_some]
  intro rest hstrip
  have heq := congrArg String.toList (stripPrefix_eq_some_iff.mp hstrip)
  rw [String.toList_append] at heq
  cases pieces with
  | nil =>
    rw [prefixed_nil] at heq
    exact hcid.ne_append (by decide) rest.toList heq
  | cons piece pieces =>
    cases piece with
    | ipfs => exact hhead rfl
    | slash =>
      rw [prefixed_cons, String.toList_append] at heq
      exact prefixed_ne_ipfs hcid pieces rest.toList (List.cons.inj heq).2

theorem strip_prefixes_of_none {start value : String} (hstrip : stripPrefix start value = none) (fuel : Nat) :
    strip_prefixes start fuel value = value := by
  cases fuel with
  | zero => rfl
  | succ fuel => rw [strip_prefixes, hstrip]

/-- The first loop takes the pieces before the first `/` alone. -/
theorem strip_prefixes_prefixed (hcid : IsCid cid) {fuel : Nat} (hfuel : pieces.length ≤ fuel) :
    strip_prefixes "/ipfs/" fuel (prefixed pieces cid) = prefixed (pieces.dropWhile (· == .ipfs)) cid := by
  induction pieces generalizing fuel with
  | nil => exact strip_prefixes_of_none (stripPrefix_prefixed_none hcid (by decide)) fuel
  | cons piece pieces ih =>
    cases piece with
    | slash => exact strip_prefixes_of_none (stripPrefix_prefixed_none hcid (by simp)) fuel
    | ipfs =>
      cases fuel with
      | zero => cases hfuel
      | succ fuel =>
        have hstrip : stripPrefix "/ipfs/" (prefixed (.ipfs :: pieces) cid) = some (prefixed pieces cid) := by
          rw [prefixed_cons]
          exact stripPrefix_append _ _
        rw [strip_prefixes, hstrip]
        exact ih (Nat.le_of_succ_le_succ hfuel)

/-- The second one leaves the CID where all pieces are a `/` alone, -/
theorem trim_start_of_slashes (hcid : IsCid cid) (hslashes : Piece.ipfs ∉ pieces) :
    trim_start_matches '/' (prefixed pieces cid) = cid := by
  rw [trim_start_matches]
  induction pieces with
  | nil =>
    rw [prefixed_nil, dropWhile_eq_self, String.ofList_toList]
    intro c hc
    exact beq_eq_false_iff_ne.mpr (hcid c (List.mem_of_mem_head? hc)).1
  | cons piece pieces ih =>
    rw [List.mem_cons, not_or] at hslashes
    cases piece with
    | ipfs => exact absurd rfl hslashes.1
    | slash =>
      rw [prefixed_cons, String.toList_append]
      exact ih hslashes.2

/-- and otherwise a `/`. -/
theorem slash_mem_trim_start (hipfs : Piece.ipfs ∈ pieces) :
    '/' ∈ (trim_start_matches '/' (prefixed pieces cid)).toList := by
  rw [trim_start_matches, String.toList_ofList]
  induction pieces with
  | nil => cases hipfs
  | cons piece pieces ih =>
    rw [prefixed_cons, String.toList_append]
    cases piece with
    | ipfs => exact List.mem_append_left _ (by decide : '/' ∈ "ipfs/".toList)
    | slash => exact ih ((List.mem_cons.mp hipfs).resolve_left (by decide))

theorem slashesLast_iff : SlashesLast pieces ↔ Piece.ipfs ∉ pieces.dropWhile (· == .ipfs) := by
  induction pieces with
  | nil => exact iff_of_true .nil List.not_mem_nil
  | cons piece pieces ih =>
    rw [SlashesLast, List.pairwise_cons]
    cases piece with
    | ipfs =>
      refine Iff.trans (and_iff_right ?_) ih
      intro second _ hfirst
      cases hfirst
    | slash =>
      show _ ↔ Piece.ipfs ∉ Piece.slash :: pieces
      constructor
      · rintro ⟨hslashes, _⟩ hipfs
        cases hslashes .ipfs ((List.mem_cons.mp hipfs).resolve_left (by decide)) rfl
      · intro hnot
        have hall : ∀ second ∈ pieces, second = .slash := by
          intro second hsecond
          cases second with
          | ipfs => exact absurd (List.mem_cons_of_mem _ hsecond) hnot
          | slash => rfl
        refine ⟨fun second hsecond _ => hall second hsecond, ?_⟩
        exact List.pairwise_of_forall_mem_list fun _ _ second hsecond _ => hall second hsecond

theorem normalize_cid_arg_prefixed (hcid : IsCid cid) (hbefore : IsBlank before) (hafter : IsBlank after)
    (pieces : List Piece) : normalize_cid_arg (before ++ prefixed pieces cid ++ after) =
      trim_start_matches '/' (prefixed (pieces.dropWhile (· == .ipfs)) cid) := by
  rw [normalize_cid_arg, hcid.trim_eq hbefore hafter, strip_prefixes_prefixed hcid (pieces_length_le pieces cid)]

theorem normalize_ipfs_arg_eq (cid_or_path : String) :
    normalize_ipfs_arg cid_or_path = "/ipfs/" ++ normalize_cid_arg cid_or_path := rfl

/-- Prefixes are removed from a CID exactly if no `/ipfs/` comes after a `/` alone. -/
theorem normalize_prefixed_iff (hcid : IsCid cid) (hbefore : IsBlank before) (hafter : IsBlank after)
    (pieces : List Piece) :
    (normalize_cid_arg (before ++ prefixed pieces cid ++ after) = cid ↔ SlashesLast pieces) ∧
      (normalize_ipfs_arg (before ++ prefixed pieces cid ++ after) = "/ipfs/" ++ cid ↔ SlashesLast pieces) := by
  have hcid_arg : normalize_cid_arg (before ++ prefixed pieces cid ++ after) = cid ↔ SlashesLast pieces := by
    rw [normalize_cid_arg_prefixed hcid hbefore hafter, slashesLast_iff]
    constructor
    · intro hsame hipfs
      have hslash := @slash_mem_trim_start _ cid hipfs
      rw [hsame] at hslash
      exact hcid.no_slash hslash
    · exact trim_start_of_slashes hcid
  refine ⟨hcid_arg, ?_⟩
  rw [normalize_ipfs_arg_eq, String.append_right_inj]
  exact hcid_arg

end

/-! A `/` too many. -/

def daemon_cid : String := "bafkreieg3hp4tr3iv7rj24uohuqlcocojxcakzgbvqh6ul2cpbftg3wb7q"

theorem daemon_cid_isCid : IsCid daemon_cid := by
  decide +kernel

theorem normalize_prefixed_iff_doubled :
    (normalize_cid_arg (" " ++ prefixed [.ipfs, .ipfs, .slash] daemon_cid ++ "\n") = daemon_cid ↔
        SlashesLast [.ipfs, .ipfs, .slash]) ∧
      SlashesLast [.ipfs, .ipfs, .slash] ∧
      (normalize_ipfs_arg ("" ++ prefixed [.slash, .ipfs] daemon_cid ++ "") = "/ipfs/" ++ daemon_cid ↔
        SlashesLast [.slash, .ipfs]) ∧
      ¬ SlashesLast [.slash, .ipfs] := by
  obtain ⟨hdoubled, _⟩ := @normalize_prefixed_iff daemon_cid " " "\n" daemon_cid_isCid (by decide) (by decide)
    [.ipfs, .ipfs, .slash]
  obtain ⟨_, hslash_first⟩ := @normalize_prefixed_iff daemon_cid "" "" daemon_cid_isCid (by decide) (by decide)
    [.slash, .ipfs]
  exact ⟨hdoubled, by decide, hslash_first, by decide⟩

/-- A second slash hides the prefix after it. -/
theorem prefix_after_slash_stays :
    ¬ ∀ (pieces : List Piece) (cid before after : String), IsCid cid → IsBlank before → IsBlank after →
      normalize_cid_arg (before ++ prefixed pieces cid ++ after) = cid ∧
        normalize_ipfs_arg (before ++ prefixed pieces cid ++ after) = "/ipfs/" ++ cid := by
  intro hclaimed
  obtain ⟨hsame, _⟩ := hclaimed [.slash, .ipfs] daemon_cid "" "" daemon_cid_isCid (by decide) (by decide)
  have hstays : normalize_cid_arg ("" ++ prefixed [.slash, .ipfs] daemon_cid ++ "") = "ipfs/" ++ daemon_cid := by
    decide +kernel
  rw [hstays] at hsame
  exact absurd hsame (by decide +kernel)

end ma_core.kubo
