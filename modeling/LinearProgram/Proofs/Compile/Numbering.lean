import LinearProgram.Proofs.Compile.FreeNumbers
import LinearProgram.Proofs.Compile.Preservation

namespace LinearProgram

variable {F : Type}

def Problem.names (problem : Problem F) : List String :=
  problem.objective.names ++
    (problem.constraints ++ problem.bounds).flatMap fun comparison => comparison.expression.names

namespace Problem

/-- The name that the row at a place among those without a name of their own is given: the stem and
the number at that place among those that make a name which no variable has. -/
noncomputable def generatedName (stem : String) (problem : Problem F) (place : Nat) : String :=
  NameSource.numberedName stem (Nat.nth (NameSource.IsFree stem problem.names) place)

variable [Scalar F]

variable {stem : String} {problem : Problem F} {model : Model F}

theorem CompilesTo.mem_names_objective_iff (made : problem.CompilesTo model) {name : String} :
    name ∈ problem.names ↔ name ∈ problem.objective.names := by
  rw [names, List.mem_append, or_iff_left_iff_imp]
  intro mentioned
  obtain ⟨comparison, given, inside⟩ := List.mem_flatMap.mp mentioned
  rcases List.mem_append.mp given with constraint | bound
  · rw [← Expression.map_name_form] at inside
    obtain ⟨term, written, rfl⟩ := List.mem_map.mp inside
    exact made.known comparison constraint term written
  · obtain ⟨known, objective, subject⟩ := made.subject comparison bound
    have same := (made.mem_names_iff bound).mp inside
    rw [subject] at same
    exact Option.some.inj same ▸ objective

theorem CompilesTo.isFree_eq (made : problem.CompilesTo model) :
    NameSource.IsFree stem problem.objective.names = NameSource.IsFree stem problem.names := by
  funext number
  rw [NameSource.IsFree, NameSource.IsFree, made.mem_names_objective_iff]

theorem getElem?_names (compiled : (problem.compile stem).outcome = .ok model) (place : Nat) :
    (model.rows.map Band.name)[place]? = problem.rowNames[place]?.map fun own? =>
      own?.getD (problem.generatedName stem ((problem.rowNames.take place).count none)) := by
  have made := compilesTo_of_ok compiled
  obtain ⟨outline, outlined, _, _, rows, _, _⟩ := compile_eq_ok.mp compiled
  obtain ⟨named, resolved, _⟩ := outline_eq_ok.mp outlined
  have own : outline.rows.map Restriction.bareName? = problem.rowNames :=
    map_bareName? (mapM_eq_ok.mp resolved)
  rw [rows, map_name_bands (NameSource.length_nameRows _ _), NameSource.getElem?_nameRows, own,
    (Columns.hold_of_ofNames named).1, made.isFree_eq]
  rfl

theorem exists_rowName (compiled : (problem.compile stem).outcome = .ok model) {place : Nat}
    {row : Band F} (found : model.rows[place]? = some row) :
    ∃ own?, problem.rowNames[place]? = some own? ∧ row.name = own?.getD
      (problem.generatedName stem ((problem.rowNames.take place).count none)) := by
  have names := getElem?_names compiled place
  rw [List.getElem?_map, found] at names
  obtain ⟨own?, here, same⟩ := Option.map_eq_some_iff.mp names.symm
  exact ⟨own?, here, same.symm⟩

end Problem

namespace Problem

end Problem

end LinearProgram
