import LinearProgram.File.Exchange
import LinearProgram.Mps.Writer
import LinearProgram.Number.Fraction64
import LinearProgram.Proofs.Mps.Names

namespace LinearProgram.Mps

def extended (suffix : String) : Nat → String → String
  | 0, name => name
  | count + 1, name => extended suffix count (name ++ suffix)

def suffixed (name : String) (number count : Nat) : String :=
  extended ("_" ++ Nat.repr number) count name

/-- A suffix is appended as often as the name that it leads to is taken. -/
theorem exists_extendToFree (isTaken : String → Bool) (suffix : String) (tries : Nat)
    (name : String) :
    ∃ count, extendToFree isTaken suffix tries name = extended suffix count name ∧
      ∀ fewer < count, isTaken (extended suffix fewer name) := by
  induction tries generalizing name with
  | zero => exact ⟨0, rfl, by omega⟩
  | succ tries ih =>
    rw [extendToFree]
    split
    · rename_i taken
      obtain ⟨count, reached, before⟩ := ih (name ++ suffix)
      refine ⟨count + 1, reached, ?_⟩
      intro fewer less
      cases fewer with
      | zero => exact taken
      | succ fewer => exact before fewer (by omega)
    · exact ⟨0, rfl, by omega⟩

/-- A name with a row's number appended just as often as it takes to find one that is not taken. -/
structure Lengthened (taken : String → Prop) (name : String) (number : Nat) (written : String)
    (count : Nat) : Prop where
  written_eq : written = suffixed name number count
  free : ¬ taken written
  before : ∀ fewer < count, taken (suffixed name number fewer)

theorem exists_lengthened (number : Nat) (used : Std.TreeSet String) {names : List String}
    {place : Nat} {name : String} (here : names[place]? = some name) :
    ∃ written count, (distinctNamesFrom number used names)[place]? = some written ∧
      Lengthened (fun other => used.contains other ∨
        other ∈ (distinctNamesFrom number used names).take place) name (number + place) written
          count := by
  induction names generalizing number used place with
  | nil => cases here
  | cons first names ih =>
    have free := not_contains_extendToFree used number first
    obtain ⟨count, reached, before⟩ :=
      exists_extendToFree used.contains ("_" ++ Nat.repr number) used.size first
    rw [distinctNamesFrom]
    generalize extendToFree used.contains ("_" ++ Nat.repr number) used.size first = next
      at free reached ⊢
    cases place with
    | zero =>
      cases here
      refine ⟨next, count, rfl, reached, ?_, fun fewer less => .inl (before fewer less)⟩
      simp only [free, Bool.false_eq_true, List.take_zero, List.not_mem_nil, or_self,
        not_false_eq_true]
    | succ place =>
      have same (other : String) : (used.insert next).contains other ∨
          other ∈ (distinctNamesFrom (number + 1) (used.insert next) names).take place ↔
            used.contains other ∨ other ∈ (next ::
              distinctNamesFrom (number + 1) (used.insert next) names).take (place + 1) := by
        simp only [Std.TreeSet.contains_insert, Bool.or_eq_true, beq_iff_eq,
          Std.LawfulEqCmp.compare_eq_iff_eq, List.take_succ_cons, List.mem_cons]
        rw [or_assoc, or_left_comm, eq_comm (a := next)]
      obtain ⟨written, count, found, lengthened⟩ := ih (number + 1) (used.insert next) here
      simp only [same, Nat.add_right_comm number 1 place, Nat.add_assoc] at lengthened
      exact ⟨written, count, found, lengthened⟩

theorem costName_not_mem (names : List String) : costName names ∉ names := by
  have free : names.contains (costName names) = false :=
    extendToFree_isFree (by decide) (fun _ taken _ => List.contains_iff_mem.mp taken)
      (Nat.le_refl _)
  intro member
  rw [List.contains_iff_mem.mpr member] at free
  cases free

def takenBefore (names : List String) (place : Nat) (name : String) : Prop :=
  name = costName names ∨ name ∈ (distinctNames names).take place

theorem exists_lengthened_row {names : List String} {place : Nat} {name : String}
    (here : names[place]? = some name) :
    ∃ written count, (distinctNames names)[place]? = some written ∧
      Lengthened (takenBefore names place) name (place + 1) written count := by
  let used : Std.TreeSet String := Std.TreeSet.empty.insert (costName names)
  obtain ⟨written, count, found, lengthened⟩ := exists_lengthened 1 used here
  have same (other : String) : used.contains other ∨
      other ∈ (distinctNamesFrom 1 used names).take place ↔ takenBefore names place other := by
    simp only [used, Std.TreeSet.contains_insert, Bool.or_eq_true, beq_iff_eq,
      Std.LawfulEqCmp.compare_eq_iff_eq]
    simp [takenBefore, distinctNames, eq_comm]
  simp only [same, Nat.add_comm 1 place] at lengthened
  exact ⟨written, count, found, lengthened⟩

theorem Lengthened.eq_iff {taken : String → Prop} {name written : String} {number count : Nat}
    (lengthened : Lengthened taken name number written count) : written = name ↔ ¬ taken name := by
  constructor
  · rintro rfl
    exact lengthened.free
  · intro free
    cases count with
    | zero => exact lengthened.written_eq
    | succ count => exact absurd (lengthened.before 0 (Nat.succ_pos count)) free

theorem Lengthened.count_pos {taken : String → Prop} {name written : String} {number count : Nat}
    (lengthened : Lengthened taken name number written count) (lost : written ≠ name) :
    0 < count := by
  cases count with
  | zero => exact absurd lengthened.written_eq lost
  | succ count => exact Nat.succ_pos count

variable {names : List String} {place : Nat} {name written : String}

theorem takenBefore_iff (here : names[place]? = some name) :
    takenBefore names place name ↔ name ∈ (distinctNames names).take place := by
  have different : name ≠ costName names := by
    rintro rfl
    exact costName_not_mem names (List.mem_of_getElem? here)
  rw [takenBefore, or_iff_right different]

theorem mem_take_iff {α : Type} {xs : List α} {count : Nat} {x : α} :
    x ∈ xs.take count ↔ ∃ place < count, xs[place]? = some x := by
  simp [List.mem_iff_getElem?, List.getElem?_take]

/-- The name of a row before is taken by that row or by one before it. -/
theorem mem_take_distinctNames (repeated : name ∈ names.take place) :
    name ∈ (distinctNames names).take place := by
  obtain ⟨earlier, less, here⟩ := mem_take_iff.mp repeated
  obtain ⟨written, count, found, lengthened⟩ := exists_lengthened_row here
  by_cases kept : written = name
  · subst kept
    exact mem_take_iff.mpr ⟨earlier, less, found⟩
  · have taken := (takenBefore_iff here).mp (not_not.mp (lengthened.eq_iff.not.mp kept))
    exact List.take_subset_take_left _ less.le taken

/-- A name that a row before is written under, although no row before has it, comes from another
name with the number of its row appended. -/
theorem exists_thief (taken : name ∈ (distinctNames names).take place)
    (first : name ∉ names.take place) :
    ∃ earlier < place, ∃ other times, names[earlier]? = some other ∧ other ≠ name ∧ 0 < times ∧
      (distinctNames names)[earlier]? = some name ∧ name = suffixed other (earlier + 1) times := by
  obtain ⟨earlier, less, found⟩ := mem_take_iff.mp taken
  have inside : earlier < names.length := by
    rw [← length_distinctNames]
    exact (List.getElem?_eq_some_iff.mp found).1
  have here : names[earlier]? = some names[earlier] := List.getElem?_eq_getElem inside
  obtain ⟨written, times, found', lengthened⟩ := exists_lengthened_row here
  obtain rfl : written = name := Option.some.inj (found'.symm.trans found)
  have different : written ≠ names[earlier] := by
    intro same
    rw [same] at first
    exact first (mem_take_iff.mpr ⟨earlier, less, here⟩)
  exact ⟨earlier, less, _, times, here, different.symm, lengthened.count_pos different, found,
    lengthened.written_eq⟩

theorem eq_of_distinctNames (found : (distinctNames names)[place]? = some name) {other : Nat}
    (again : (distinctNames names)[other]? = some name) : other = place :=
  (List.getElem?_inj (List.getElem?_eq_some_iff.mp again).1 (distinctNames_nodup names)).mp
    (again.trans found.symm)

/-- A row is written under its own name with its number appended as often as it takes to find one
that no row before it is written under. So it keeps its name, and then is the only row under it,
unless a row before it is written under that name: a row that has the same name, or else one whose
other name was lengthened to it, so that the name is lost although it is not repeated. -/
theorem distinctNames_attributed (names : List String) (place : Fin names.length) :
    ∃ written count, (distinctNames names)[place.val]? = some written ∧
      Lengthened (takenBefore names place) names[place] (place + 1) written count ∧
      (written = names[place] ↔ names[place] ∉ (distinctNames names).take place) ∧
      (names[place] ∈ names.take place → written ≠ names[place]) ∧
      (names[place] ∉ names.take place → written ≠ names[place] →
        ∃ earlier < place.val, ∃ other times, names[earlier]? = some other ∧
          other ≠ names[place] ∧ 0 < times ∧
          (distinctNames names)[earlier]? = some names[place] ∧
          names[place] = suffixed other (earlier + 1) times) ∧
      (written = names[place] →
        ∀ other : Nat, (distinctNames names)[other]? = some names[place] → other = place) := by
  have here : names[place.val]? = some names[place] := List.getElem?_eq_getElem place.isLt
  obtain ⟨written, count, found, lengthened⟩ := exists_lengthened_row here
  have kept : written = names[place] ↔ names[place] ∉ (distinctNames names).take place := by
    rw [lengthened.eq_iff, takenBefore_iff here]
  refine ⟨written, count, found, lengthened, kept, ?_, ?_, ?_⟩
  · intro repeated same
    exact kept.mp same (mem_take_distinctNames repeated)
  · intro first lost
    exact exists_thief (not_not.mp (kept.not.mp lost)) first
  · intro same other again
    rw [← same] at again
    exact eq_of_distinctNames found again

def robbedText : String :=
  "min x + x_2\nsubject to\nx <= 4\nx >= 1\nx_2 <= 3\n"

def robbedModel : Model Rat where
  rows := [⟨"x", .upper, 0, 4⟩, ⟨"x", .lower, 1, 0⟩, ⟨"x_2", .upper, 0, 3⟩]
  columns := [⟨"x", .free, 0, 0⟩, ⟨"x_2", .free, 0, 0⟩]
  entries := [⟨1, 1, 1⟩, ⟨2, 1, 1⟩, ⟨3, 2, 1⟩]
  objective := [1, 1]
  sense := .minimize

def robbedFile : String :=
  Text.unlines ["NAME          robbed", "ROWS", " N  COST", " L  x", " G  x_2", " L  x_2_3",
    "COLUMNS", "    x         COST      1", "    x         x         1",
    "    x         x_2       1", "    x_2       COST      1", "    x_2       x_2_3     1",
    "RHS", "    RHS       x         4", "    RHS       x_2       1", "    RHS       x_2_3     3",
    "BOUNDS", " FR BND       x", " FR BND       x_2", "ENDATA"]

/-- A name that only one row has is given to another row. -/
theorem unrepeated_name_lost :
    "x_2" ∉ ["x", "x", "x_2"].take 2 ∧ ["x", "x", "x_2"].count "x_2" = 1 ∧
      distinctNames ["x", "x", "x_2"] = ["x", "x_2", "x_2_3"] ∧
      (Problem.compileText "R" robbedText).outcome = .ok robbedModel ∧
      robbedModel.rows.map Band.name = ["x", "x", "x_2"] ∧
      (robbedModel.mps "robbed").outcome = .ok robbedFile := by
  have compiled : (Problem.compileText "R" robbedText).outcome = .ok robbedModel := by
    decide +kernel
  have written : (robbedModel.mps "robbed").outcome = .ok robbedFile := by decide +kernel
  exact ⟨by decide, by decide, by decide +kernel, compiled, rfl, written⟩

end LinearProgram.Mps
