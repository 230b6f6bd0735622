import LinearProgram.Compile.Outline
import LinearProgram.Proofs.Outcome

namespace LinearProgram.Columns

theorem place_eq_ok {columns : Columns} {name : String} {place : Nat} :
    columns.place name = .ok place ↔ columns.names.toList[place]? = some name := by
  rw [Array.getElem?_toList, ← columns.place_iff, Columns.place]
  cases columns.places[name]? <;> simp

theorem place_eq_ok_idxOf {columns : Columns} {name : String} {place : Nat} :
    columns.place name = .ok place ↔
      name ∈ columns.names.toList ∧ place = columns.names.toList.idxOf name := by
  constructor
  · intro placed
    have known := List.mem_iff_getElem?.mpr ⟨place, place_eq_ok.mp placed⟩
    have first := place_eq_ok.mpr (List.getElem?_idxOf known)
    rw [placed] at first
    exact ⟨known, Except.ok.inj first⟩
  · intro first
    obtain ⟨known, rfl⟩ := first
    exact place_eq_ok.mpr (List.getElem?_idxOf known)

theorem contains_iff {columns : Columns} {name : String} :
    columns.contains name = true ↔ name ∈ columns.names.toList := by
  rw [contains, Option.isSome_iff_exists, List.mem_iff_getElem?]
  simp only [columns.place_iff, Array.getElem?_toList]

theorem contains_iff_exists_place {columns : Columns} {name : String} :
    columns.contains name = true ↔ ∃ place, columns.place name = .ok place := by
  simp only [contains_iff, place_eq_ok, List.mem_iff_getElem?]

theorem failure?_place (columns : Columns) (name : String) :
    failure? (columns.place name) =
      if name ∈ columns.names.toList then none else some (.unknownVariable name) := by
  simp only [← contains_iff, contains, place]
  cases columns.places[name]? <;> simp

theorem place_eq_error {columns : Columns} {name : String} {error : CompileError} :
    columns.place name = .error error ↔
      name ∉ columns.names.toList ∧ error = .unknownVariable name := by
  rw [← failure?_eq_some, failure?_place]
  split <;> simp [*, eq_comm]

theorem failure?_add (columns : Columns) (name : String) :
    failure? (columns.add name) =
      if name ∈ columns.names.toList then some (.duplicateObjectiveVariable name) else none := by
  simp only [← contains_iff, add]
  split <;> simp [*]

theorem add_eq_error {columns : Columns} {name : String} {error : CompileError} :
    columns.add name = .error error ↔
      name ∈ columns.names.toList ∧ error = .duplicateObjectiveVariable name := by
  rw [← failure?_eq_some, failure?_add]
  split <;> simp [*, eq_comm]

theorem names_of_add {columns larger : Columns} {name : String}
    (added : columns.add name = .ok larger) :
    name ∉ columns.names.toList ∧ larger.names.toList = columns.names.toList ++ [name] := by
  rw [← contains_iff]
  unfold add at added
  split at added
  · cases added
  · rename_i absent
    cases added
    exact ⟨absent, by simp⟩

def Hold (names : List String) (columns : Columns) : Prop :=
  columns.names.toList = names ∧ names.Nodup

theorem Hold.empty : Hold [] empty :=
  ⟨by simp [Columns.empty], List.nodup_nil⟩

theorem Hold.add {before : List String} {name : String} {columns larger : Columns}
    (held : Hold before columns) (added : columns.add name = .ok larger) :
    Hold (before ++ [name]) larger := by
  obtain ⟨rfl, distinct⟩ := held
  obtain ⟨absent, names⟩ := names_of_add added
  refine ⟨names, List.nodup_append.mpr ⟨distinct, by simp, ?_⟩⟩
  intro earlier member last isLast same
  rw [List.mem_singleton.mp isLast] at same
  exact absent (same ▸ member)

theorem hold_of_ofNames {names : List String} {columns : Columns}
    (made : ofNames names = .ok columns) : Hold names columns :=
  foldlM_reaches Hold (fun _ _ _ _ held added => held.add added) Hold.empty made

def repeats (names : List String) : List String :=
  (withEarlier [] names).filterMap fun entry => if entry.2 ∈ entry.1 then some entry.2 else none

theorem failure?_ofNames (names : List String) :
    failure? (ofNames names) = ((repeats names).map .duplicateObjectiveVariable).head? := by
  rw [ofNames, failure?_foldlM Hold (fun _ _ _ _ held added => held.add added)
    (fun before name columns held => by rw [failure?_add, held.1]) names [] empty Hold.empty,
    repeats, List.map_filterMap]
  congr 2
  funext entry
  split <;> rfl

end LinearProgram.Columns
