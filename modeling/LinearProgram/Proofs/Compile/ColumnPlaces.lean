import LinearProgram.Proofs.Compile.Acceptance
import LinearProgram.Proofs.Transfer

namespace LinearProgram

/-- Names in the order of their columns beside the place of each name. Nothing but the way in which
they are collected makes the two agree. -/
structure Register where
  names : Array String
  places : Std.TreeMap String Nat

namespace Register

def empty : Register :=
  ⟨#[], ∅⟩

/-- Gives a name the next place and only then asks whether it had one, which is lost by now. -/
def enter (register : Register) (name : String) : Except CompileError Register :=
  let (repeated, places) := register.places.containsThenInsert name register.names.size
  if repeated then .error (.duplicateObjectiveVariable name)
  else .ok ⟨register.names.push name, places⟩

def ofNames (names : List String) : Except CompileError Register :=
  names.foldlM enter empty

def Agrees (register : Register) : Prop :=
  ∀ (name : String) (place : Nat),
    register.places[name]? = some place ↔ register.names[place]? = some name

end Register

namespace Columns

def register (columns : Columns) : Register :=
  ⟨columns.names, columns.places⟩

theorem enter_register (columns : Columns) (name : String) :
    columns.register.enter name = (columns.add name).map register := by
  -- The flag tells of the places before the insertion, which is all that `add` asks for.
  have asked : (columns.places.containsThenInsert name columns.names.size).1 =
      columns.contains name := by
    rw [Std.TreeMap.containsThenInsert_fst, contains, Std.TreeMap.contains_eq_isSome_getElem?]
  simp only [Register.enter, register, Std.TreeMap.containsThenInsert_snd, asked, add]
  split <;> rfl

/-- No place that a repeated name loses is ever seen, because its columns are given up. -/
theorem ofNames_register (names : List String) :
    Register.ofNames names = (ofNames names).map register :=
  foldlM_of_map enter_register names empty

theorem agrees_of_ofNames {names : List String} {collected : Register}
    (ended : Register.ofNames names = .ok collected) : collected.Agrees := by
  rw [ofNames_register] at ended
  obtain ⟨columns, _, rfl⟩ := map_eq_ok.mp ended
  exact columns.place_iff

/-- Collecting stops at a name that repeats one of the names before it, which are distinct. -/
theorem ofNames_eq_error {names : List String} {error : CompileError} :
    ofNames names = .error error ↔ ∃ before name after, names = before ++ name :: after ∧
      before.Nodup ∧ name ∈ before ∧ error = .duplicateObjectiveVariable name := by
  rw [ofNames, foldlM_eq_error]
  constructor
  · rintro ⟨before, name, after, reached, rfl, collected, failed⟩
    obtain ⟨listed, distinct⟩ := hold_of_ofNames collected
    rw [add_eq_error, listed] at failed
    exact ⟨before, name, after, rfl, distinct, failed⟩
  · rintro ⟨before, name, after, rfl, distinct, repeated⟩
    obtain ⟨reached, collected⟩ := exists_ofNames_iff.mpr distinct
    obtain ⟨listed, _⟩ := hold_of_ofNames collected
    rw [← listed, ← add_eq_error] at repeated
    exact ⟨before, name, after, reached, rfl, collected, repeated⟩

section Form

variable {F : Type}

def FirstRepeat (form : List (Monomial F)) (term : Monomial F) : Prop :=
  ∃ before after, form = before ++ term :: after ∧ (before.map Monomial.name).Nodup ∧
    term.name ∈ before.map Monomial.name

theorem ofNames_map_eq_error {form : List (Monomial F)} {error : CompileError} :
    ofNames (form.map Monomial.name) = .error error ↔
      ∃ term, FirstRepeat form term ∧ error = .duplicateObjectiveVariable term.name := by
  rw [ofNames_eq_error]
  constructor
  · rintro ⟨_, _, _, split, distinct, repeated, failed⟩
    obtain ⟨before, rest, rfl, rfl, cut⟩ := List.map_eq_append_iff.mp split
    obtain ⟨term, after, rfl, rfl, _⟩ := List.map_eq_cons_iff.mp cut
    exact ⟨term, ⟨before, after, rfl, distinct, repeated⟩, failed⟩
  · rintro ⟨term, ⟨before, after, rfl, distinct, repeated⟩, failed⟩
    exact ⟨_, term.name, after.map Monomial.name, by rw [List.map_append, List.map_cons],
      distinct, repeated, failed⟩

structure Number (columns : Columns) (form : List (Monomial F)) : Prop where
  names : columns.names.toList = form.map Monomial.name
  size : columns.size = form.length
  place : ∀ name place, columns.place name = .ok place ↔ columns.names[place]? = some name
  contains : ∀ name, columns.contains name = true ↔ ∃ place, columns.place name = .ok place
  unknown : ∀ name error, columns.place name = .error error ↔
    name ∉ form.map Monomial.name ∧ error = .unknownVariable name
  onePlace : ∀ name ∈ form.map Monomial.name, ∃! place, columns.place name = .ok place
  oneName : ∀ place < form.length, ∃! name, columns.place name = .ok place

theorem number_of_ofNames {form : List (Monomial F)} {columns : Columns}
    (collected : ofNames (form.map Monomial.name) = .ok columns) : columns.Number form := by
  obtain ⟨listed, _⟩ := hold_of_ofNames collected
  exact {
    names := listed
    size := by rw [Columns.size, ← Array.length_toList, listed, List.length_map]
    place := fun name place => by rw [place_eq_ok, Array.getElem?_toList]
    contains := fun name => contains_iff_exists_place
    unknown := fun name error => by rw [place_eq_error, listed]
    onePlace := by
      intro name member
      rw [← listed, ← contains_iff, contains_iff_exists_place] at member
      obtain ⟨place, found⟩ := member
      exact ⟨place, found, fun other again => Except.ok.inj (again.symm.trans found)⟩
    oneName := by
      intro place inside
      have found : columns.names.toList[place]? = some form[place].name := by
        rw [listed, List.getElem?_map, List.getElem?_eq_getElem inside, Option.map_some]
      refine ⟨form[place].name, place_eq_ok.mpr found, ?_⟩
      intro other again
      exact Option.some.inj ((place_eq_ok.mp again).symm.trans found) }

/-- The variables of an objective are numbered just when they are distinct, and otherwise the first
one that comes again is reported. That its place is overwritten before makes no difference: list and
places agree whenever there are any. -/
theorem ofNames_numbers_variables (form : List (Monomial F)) :
    ((∃ columns, ofNames (form.map Monomial.name) = .ok columns) ↔
        (form.map Monomial.name).Nodup) ∧
      (∀ error, ofNames (form.map Monomial.name) = .error error ↔
        ∃ term, FirstRepeat form term ∧ error = .duplicateObjectiveVariable term.name) ∧
      (∀ columns, ofNames (form.map Monomial.name) = .ok columns → columns.Number form) ∧
      Register.ofNames (form.map Monomial.name) =
        (ofNames (form.map Monomial.name)).map register ∧
      ∀ collected, Register.ofNames (form.map Monomial.name) = .ok collected →
        collected.Agrees := by
  refine ⟨exists_ofNames_iff, fun error => ofNames_map_eq_error, ?_, ofNames_register _, ?_⟩
  · intro columns collected
    exact number_of_ofNames collected
  · intro collected ended
    exact agrees_of_ofNames ended

end Form

def unsortedForm : List (Monomial Rat) :=
  [⟨4, "y"⟩, ⟨7, "x"⟩, ⟨1, "a"⟩]

def returningForm : List (Monomial Rat) :=
  [⟨1, "x"⟩, ⟨2, "y"⟩, ⟨3, "z"⟩, ⟨-2, "y"⟩, ⟨5, "x"⟩]

theorem unsorted_numbered_returning_refused :
    (∃ columns, ofNames (unsortedForm.map Monomial.name) = .ok columns ∧
      columns.Number unsortedForm ∧ columns.place "a" = .ok 2 ∧
        columns.place "z" = .error (.unknownVariable "z") ∧
          Register.ofNames (unsortedForm.map Monomial.name) = .ok columns.register ∧
            columns.register.Agrees) ∧
      ofNames (returningForm.map Monomial.name) = .error (.duplicateObjectiveVariable "y") := by
  obtain ⟨accepts, _, numbers, same, agrees⟩ := ofNames_numbers_variables unsortedForm
  obtain ⟨_, refuses, _, _, _⟩ := ofNames_numbers_variables returningForm
  obtain ⟨columns, collected⟩ := accepts.mpr (by decide)
  have number := numbers columns collected
  have ended : Register.ofNames (unsortedForm.map Monomial.name) = .ok columns.register := by
    rw [same, collected]
    rfl
  constructor
  · refine ⟨columns, collected, number, ?_, ?_, ended, agrees _ ended⟩
    · rw [number.place, ← Array.getElem?_toList, number.names]
      rfl
    · exact (number.unknown "z" _).mpr ⟨by decide, rfl⟩
  · refine (refuses _).mpr ⟨⟨-2, "y"⟩, ?_, rfl⟩
    exact ⟨[⟨1, "x"⟩, ⟨2, "y"⟩, ⟨3, "z"⟩], [⟨5, "x"⟩], rfl, by decide, by decide⟩

end Columns

end LinearProgram
