import Mathlib.Data.List.Basic
import Std.Data.String.ToNat
import MutantHunt.Path
import MutantHunt.Report

/-!
# What a reduced program is called

The name of a reduced program lists its mutants in decimal, with underscores in between.  No
decimal number has an underscore or is empty, so the list can be read back: strip the fixed start
and the fixed end, and split what is left at the underscores.  Read strictly, with decimal numbers
in the one form that has no needless zeros, nothing but a name of mutants is accepted, and each for
one list only.  So programs of different mutants do not overwrite each other: neither their names
nor, in one directory, their paths are the same.

## Main results

* `listing?_eq_some_iff`, `pieces_intercalate_repr` — stripping and splitting, undone.
* `mutantsOfName?_eq_some_iff` — reading accepts exactly what naming produces.
* `join_reducedFileName_injective` — different mutants, different paths.
* `names_identify` — all that a name tells of its mutants.
-/

namespace MutantHunt

/-! ## Reading a name -/

/-- What a name has between its fixed start and its fixed end. -/
def listing? (name : String) : Option String :=
  (name.dropPrefix? "__kills_").bind fun behind =>
    (behind.dropSuffix? ".c").map String.Slice.copy

/-- What stands between the underscores of a listing.  An empty one has nothing in it. -/
def pieces (listing : String) : List String :=
  if listing = "" then [] else (listing.split '_').toList.map String.Slice.copy

/-- The mutant of a decimal number.  Needless zeros are refused, and numbers too large for a
mutant. -/
def mutantOfDecimal? (piece : String) : Option MutantId :=
  piece.toNat?.bind fun n =>
    if n.repr = piece ∧ n < UInt32.size then some (.ofNat n) else none

/-- The mutants that a name lists. -/
def mutantsOfName? (name : String) : Option (List MutantId) :=
  (listing? name).bind fun listing => (pieces listing).mapM mutantOfDecimal?

/-! ## Stripping -/

theorem dropPrefix?_append (start rest : String) :
    ∃ behind, (start ++ rest).dropPrefix? start = some behind ∧ behind.copy = rest := by
  cases hdrop : (start ++ rest).dropPrefix? start with
  | none =>
      rw [String.dropPrefix?_eq_dropPrefix?_toSlice, String.Slice.dropPrefix?_eq_none_iff] at hdrop
      have hother : (start ++ rest).startsWith start = false := hdrop
      rw [String.startsWith_string_eq_false_iff, String.toList_append] at hother
      exact absurd (List.prefix_append _ _) hother
  | some behind =>
      have hsplit := String.eq_append_of_dropPrefix?_string_eq_some hdrop
      rw [String.append_right_inj] at hsplit
      exact ⟨behind, rfl, hsplit.symm⟩

theorem dropSuffix?_append {behind : String.Slice} {inner ending : String}
    (hbehind : behind.copy = inner ++ ending) :
    ∃ rest, behind.dropSuffix? ending = some rest ∧ rest.copy = inner := by
  cases hdrop : behind.dropSuffix? ending with
  | none =>
      rw [String.Slice.dropSuffix?_eq_none_iff, ← Bool.not_eq_true,
        String.Slice.endsWith_string_iff, hbehind, String.toList_append] at hdrop
      exact absurd (List.suffix_append _ _) hdrop
  | some rest =>
      have hsplit := String.Slice.eq_append_of_dropSuffix?_string_eq_some hdrop
      rw [hbehind, String.append_left_inj] at hsplit
      exact ⟨rest, rfl, hsplit.symm⟩

/-- A name is stripped to what its fixed parts were put around. -/
theorem listing?_eq_some_iff (name listing : String) :
    listing? name = some listing ↔ name = "__kills_" ++ listing ++ ".c" := by
  unfold listing?
  simp only [Option.bind_eq_some_iff, Option.map_eq_some_iff]
  constructor
  · rintro ⟨behind, hbehind, rest, hrest, rfl⟩
    rw [String.eq_append_of_dropPrefix?_string_eq_some hbehind,
      String.Slice.eq_append_of_dropSuffix?_string_eq_some hrest, String.append_assoc]
  · rintro rfl
    rw [String.append_assoc]
    obtain ⟨behind, hbehind, hcopy⟩ := dropPrefix?_append "__kills_" (listing ++ ".c")
    obtain ⟨rest, hrest, hlisting⟩ := dropSuffix?_append hcopy
    exact ⟨behind, hbehind, rest, hrest, hlisting⟩

/-! ## Splitting -/

theorem not_mem_toList_repr (n : Nat) : '_' ∉ n.repr.toList := by
  rw [Nat.toList_repr]
  exact Nat.underscore_not_in_toDigits

theorem toList_repr_ne_nil (n : Nat) : n.repr.toList ≠ [] := by
  rw [Nat.toList_repr]
  exact Nat.toDigits_ne_nil

/-- Between the underscores of some listed mutants stand their decimal numbers. -/
theorem splitOn_intercalate_repr {ms : List MutantId} (hne : ms ≠ []) :
    ("_".intercalate (ms.map fun m => m.toNat.repr)).toList.splitOn '_' =
      ms.map fun m => m.toNat.repr.toList := by
  rw [String.toList_intercalate, List.map_map]
  refine List.splitOn_intercalate '_' ?_ (by simpa using hne)
  intro piece hpiece
  obtain ⟨m, -, rfl⟩ := List.mem_map.mp hpiece
  exact not_mem_toList_repr m.toNat

/-- Only the listing of no mutants is empty. -/
theorem intercalate_repr_eq_empty_iff (ms : List MutantId) :
    "_".intercalate (ms.map fun m => m.toNat.repr) = "" ↔ ms = [] := by
  constructor
  · intro hempty
    by_contra hne
    have hpieces := splitOn_intercalate_repr hne
    rw [hempty] at hpieces
    obtain ⟨m, rest, rfl⟩ := List.exists_cons_of_ne_nil hne
    exact toList_repr_ne_nil m.toNat (List.cons.inj hpieces).1.symm
  · rintro rfl
    rfl

theorem pieces_eq_splitOn {listing : String} (hne : listing ≠ "") :
    pieces listing = (listing.toList.splitOn '_').map String.ofList := by
  rw [pieces, if_neg hne, String.toList_split_char]

/-- Listed mutants are split into their decimal numbers, one for each. -/
theorem pieces_intercalate_repr (ms : List MutantId) :
    pieces ("_".intercalate (ms.map fun m => m.toNat.repr)) = ms.map fun m => m.toNat.repr := by
  by_cases hempty : ms = []
  · rw [hempty]
    rfl
  · have hne := (intercalate_repr_eq_empty_iff ms).not.mpr hempty
    rw [pieces_eq_splitOn hne, splitOn_intercalate_repr hempty, List.map_map]
    exact List.map_congr_left fun m _ => String.ofList_toList

/-- Nothing is lost by splitting. -/
theorem intercalate_pieces (listing : String) : "_".intercalate (pieces listing) = listing := by
  by_cases hempty : listing = ""
  · rw [hempty]
    rfl
  · have hchars : String.toList ∘ String.ofList = id := funext fun _ => String.toList_ofList
    rw [pieces_eq_splitOn hempty, ← String.toList_inj, String.toList_intercalate, List.map_map,
      hchars, List.map_id]
    exact List.intercalate_splitOn '_'

/-! ## Names and lists of mutants -/

/-- A mutant has one decimal number. -/
theorem mutantOfDecimal?_eq_some_iff (piece : String) (m : MutantId) :
    mutantOfDecimal? piece = some m ↔ piece = m.toNat.repr := by
  unfold mutantOfDecimal?
  rw [Option.bind_eq_some_iff]
  constructor
  · rintro ⟨n, -, hread⟩
    by_cases hn : n.repr = piece ∧ n < UInt32.size
    · rw [if_pos hn, Option.some.injEq] at hread
      rw [← hread, UInt32.toNat_ofNat_of_lt' hn.2, hn.1]
    · rw [if_neg hn] at hread
      cases hread
  · rintro rfl
    refine ⟨m.toNat, Nat.toNat?_repr m.toNat, ?_⟩
    rw [if_pos ⟨rfl, m.toNat_lt⟩, UInt32.ofNat_toNat]

theorem mapM_mutantOfDecimal?_eq_some_iff (listed : List String) (ms : List MutantId) :
    listed.mapM mutantOfDecimal? = some ms ↔ listed = ms.map fun m => m.toNat.repr := by
  induction listed generalizing ms with
  | nil =>
      cases ms with
      | nil => simp
      | cons m rest => simp
  | cons piece listed ih =>
      simp only [List.mapM_cons, Option.bind_eq_bind, Option.bind_eq_some_iff, Option.pure_def,
        Option.some.injEq, mutantOfDecimal?_eq_some_iff, ih]
      constructor
      · rintro ⟨m, rfl, rest, rfl, rfl⟩
        rfl
      · intro hlisted
        cases ms with
        | nil => cases hlisted
        | cons m rest =>
            obtain ⟨hpiece, hrest⟩ := List.cons.inj hlisted
            exact ⟨m, hpiece, rest, hrest, rfl⟩

/-- Reading accepts the names of reduced programs, and gives the mutants that they were made of. -/
theorem mutantsOfName?_eq_some_iff (name : String) (ms : List MutantId) :
    mutantsOfName? name = some ms ↔ name = reducedFileName ms := by
  unfold mutantsOfName?
  simp only [Option.bind_eq_some_iff, listing?_eq_some_iff, mapM_mutantOfDecimal?_eq_some_iff]
  constructor
  · rintro ⟨listing, rfl, hpieces⟩
    rw [reducedFileName, ← hpieces, intercalate_pieces]
  · rintro rfl
    exact ⟨_, rfl, pieces_intercalate_repr ms⟩

example : mutantsOfName? "__kills_3_17.c" = some [3, 17] := by
  cbv

-- A needless zero, and it is nobody's name.
example : mutantsOfName? "__kills_03.c" = none := by
  cbv

/-- Different mutants, different names. -/
theorem reducedFileName_injective : Function.Injective reducedFileName := by
  intro ms ms' hname
  have hread := (mutantsOfName?_eq_some_iff _ ms).mpr rfl
  have hread' := (mutantsOfName?_eq_some_iff _ ms').mpr rfl
  rw [hname, hread', Option.some.injEq] at hread
  exact hread.symm

/-- What the names of reduced programs tell of their mutants. -/
structure NamesIdentify (name : List MutantId → String) : Prop where
  injective : ∀ ms ms', name ms = name ms' → ms = ms'
  /-- Without its fixed parts, a name is the decimal numbers of its mutants with underscores in
  between, and only that of no mutants is empty. -/
  listing : ∀ ms, ∃ listing, listing? (name ms) = some listing ∧ (listing = "" ↔ ms = []) ∧
    pieces listing = ms.map fun m => m.toNat.repr
  /-- Reading accepts exactly the names, and gives their mutants. -/
  readsBack : ∀ text ms, mutantsOfName? text = some ms ↔ text = name ms

/-- Names identify their mutants, and tell them. -/
theorem names_identify : NamesIdentify reducedFileName := by
  constructor
  · exact fun ms ms' hname => reducedFileName_injective hname
  · intro ms
    exact ⟨_, (listing?_eq_some_iff _ _).mpr rfl, intercalate_repr_eq_empty_iff ms,
      pieces_intercalate_repr ms⟩
  · exact mutantsOfName?_eq_some_iff

/-! ## Paths -/

theorem isAbsolute_reducedFileName (ms : List MutantId) :
    Path.isAbsolute (reducedFileName ms) = false := by
  rw [Path.isAbsolute, String.startsWith_string_eq_false_iff]
  intro hslash
  simp [reducedFileName] at hslash

theorem Path.join_of_relative (base : String) {part : String}
    (hrelative : Path.isAbsolute part = false) :
    Path.join base part =
      (if base.isEmpty || base.endsWith "/" then base else base ++ "/") ++ part := by
  rw [Path.join, hrelative, if_neg (by decide)]
  split
  · rfl
  · rfl

/-- In one directory, different mutants have different paths. -/
theorem join_reducedFileName_injective (output : String) :
    Function.Injective fun ms => Path.join output (reducedFileName ms) := by
  intro ms ms' hpath
  simp only [Path.join_of_relative output (isAbsolute_reducedFileName _),
    String.append_right_inj] at hpath
  exact reducedFileName_injective hpath

end MutantHunt
