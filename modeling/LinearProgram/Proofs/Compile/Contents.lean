import LinearProgram.Proofs.Compile.Stages

namespace LinearProgram

variable {F : Type}

def formEntries (names : List String) (number : Nat) (form : List (Monomial F)) : List (Entry F) :=
  form.map fun term => ⟨number, names.idxOf term.name + 1, term.coefficient⟩

def formsEntries (names : List String) (forms : List (List (Monomial F))) : List (Entry F) :=
  (forms.zipIdx 1).flatMap fun form => formEntries names form.2 form.1

theorem rowEntries_eq_ok {columns : Columns} {number : Nat} {row : Restriction F}
    {entries : List (Entry F)} :
    rowEntries columns number row = .ok entries ↔
      (∀ term ∈ row.form, term.name ∈ columns.names.toList) ∧
        entries = formEntries columns.names.toList number row.form := by
  apply mapM_eq_ok_of_iff
  intro term entry
  simp only [map_eq_ok, Columns.place_eq_ok_idxOf]
  constructor
  · intro placed
    obtain ⟨_, ⟨known, rfl⟩, rfl⟩ := placed
    exact ⟨known, rfl⟩
  · intro first
    obtain ⟨known, rfl⟩ := first
    exact ⟨_, ⟨known, rfl⟩, rfl⟩

theorem matrixEntries_eq_ok {columns : Columns} {rows : List (Restriction F)}
    {entries : List (Entry F)} :
    (matrixEntries columns 1 rows).outcome = .ok entries ↔
      (∀ form ∈ rows.map Restriction.form, ∀ term ∈ form, term.name ∈ columns.names.toList) ∧
        entries = formsEntries columns.names.toList (rows.map Restriction.form) := by
  have each (blocks : List (List (Entry F))) :
      ((rows.zipIdx 1).mapM fun row => rowEntries columns row.2 row.1) = .ok blocks ↔
        (∀ row ∈ rows.zipIdx 1, ∀ term ∈ row.1.form, term.name ∈ columns.names.toList) ∧
          blocks = (rows.zipIdx 1).map fun row =>
            formEntries columns.names.toList row.2 row.1.form :=
    mapM_eq_ok_of_iff fun _ _ => rowEntries_eq_ok
  have known : (∀ row ∈ rows.zipIdx 1, ∀ term ∈ row.1.form, term.name ∈ columns.names.toList) ↔
      ∀ form ∈ rows.map Restriction.form, ∀ term ∈ form, term.name ∈ columns.names.toList := by
    conv_rhs => rw [← List.zipIdx_map_fst 1 rows]
    simp only [List.forall_mem_map]
  rw [outcome_matrixEntries, map_eq_ok, ← known, formsEntries, List.zipIdx_map, List.flatMap_map]
  simp only [each, and_assoc, exists_and_left, exists_eq_left]
  rw [← List.flatMap_def, eq_comm]
  rfl

theorem row_of_mem_formEntries {names : List String} {number : Nat} {form : List (Monomial F)} :
    ∀ entry ∈ formEntries names number form, entry.row = number := by
  intro entry member
  obtain ⟨term, _, rfl⟩ := List.mem_map.mp member
  rfl

theorem row_ge_of_mem {names : List String} {forms : List (List (Monomial F))} {start : Nat} :
    ∀ entry ∈ (forms.zipIdx start).flatMap fun form => formEntries names form.2 form.1,
      start ≤ entry.row := by
  intro entry member
  obtain ⟨form, numbered, inside⟩ := List.mem_flatMap.mp member
  rw [row_of_mem_formEntries entry inside]
  exact List.le_snd_of_mem_zipIdx numbered

theorem filter_formsEntries {names : List String} {forms : List (List (Monomial F))} {place : Nat}
    {form : List (Monomial F)} (found : forms[place]? = some form) :
    ((formsEntries names forms).filter fun entry => entry.row = place + 1) =
      formEntries names (place + 1) form := by
  -- The number of the first row stays free, since the rest of the rows count on from it.
  suffices general : ∀ start, (((forms.zipIdx start).flatMap fun form =>
      formEntries names form.2 form.1).filter fun entry => entry.row = start + place) =
        formEntries names (start + place) form by
    rw [Nat.add_comm]
    exact general 1
  induction forms generalizing place with
  | nil => cases found
  | cons first forms ih =>
    intro start
    rw [List.zipIdx_cons, List.flatMap_cons, List.filter_append]
    cases place with
    | zero =>
      cases found
      have all : ∀ entry ∈ formEntries names start form, decide (entry.row = start + 0) := by
        intro entry member
        simpa using row_of_mem_formEntries entry member
      have noneAfter : ∀ entry ∈ (forms.zipIdx (start + 1)).flatMap fun form =>
          formEntries names form.2 form.1, ¬ decide (entry.row = start + 0) := by
        intro entry member
        have later := row_ge_of_mem entry member
        simp only [decide_eq_true_eq]
        omega
      rw [List.filter_eq_self.mpr all, List.filter_eq_nil_iff.mpr noneAfter, List.append_nil]
      rfl
    | succ place =>
      have noneBefore : ∀ entry ∈ formEntries names start first,
          ¬ decide (entry.row = start + (place + 1)) := by
        intro entry member
        have own := row_of_mem_formEntries entry member
        simp only [decide_eq_true_eq]
        omega
      rw [List.filter_eq_nil_iff.mpr noneBefore, List.nil_append]
      have rest := ih found (start + 1)
      rwa [Nat.add_assoc, Nat.add_comm 1] at rest

variable [Scalar F]

structure Problem.CompilesTo (problem : Problem F) (model : Model F) : Prop where
  distinct : problem.objective.names.Nodup
  columns : model.columns.map Band.name = problem.objective.names
  objective : model.objective = problem.objective.form.map Monomial.coefficient
  sense : model.sense = problem.sense
  rows : List.Forall₂ (fun constraint row => ∃ interval,
      constraint.interval = .ok interval ∧ row = interval.band row.name)
    problem.constraints model.rows
  known : ∀ constraint ∈ problem.constraints, ∀ term ∈ constraint.expression.form,
    term.name ∈ problem.objective.names
  entries : model.entries = formsEntries problem.objective.names
    (problem.constraints.map fun constraint => constraint.expression.form)
  subject : ∀ bound ∈ problem.bounds, ∃ name ∈ problem.objective.names, bound.subject? = some name
  free : ∀ column ∈ model.columns, (∀ bound ∈ problem.bounds, bound.subject? ≠ some column.name) →
    column = Interval.whole.band column.name
  bounded : ∀ column ∈ model.columns, ∀ bound ∈ problem.bounds, bound.subject? = some column.name →
    ∃ restriction interval, bound.restriction = .ok restriction ∧
      columnInterval column.name restriction = .ok interval ∧ column = interval.band column.name

theorem Interval.name_band (interval : Interval F) (name : String) :
    (interval.band name).name = name := rfl

theorem forms_of_restrictions {constraints : List (Comparison F)} {rows : List (Restriction F)}
    (resolved : List.Forall₂ (fun constraint row => constraint.restriction = .ok row)
      constraints rows) :
    rows.map Restriction.form = constraints.map fun constraint => constraint.expression.form := by
  induction resolved with
  | nil => rfl
  | cons first _ ih =>
    rw [List.map_cons, List.map_cons, ih, (Comparison.restriction_eq_ok.mp first).2]

theorem forall₂_rows {constraints : List (Comparison F)} {rows : List (Restriction F)}
    (source : NameSource)
    (resolved : List.Forall₂ (fun constraint row => constraint.restriction = .ok row)
      constraints rows) :
    List.Forall₂ (fun constraint row => ∃ interval,
        constraint.interval = .ok interval ∧ row = interval.band row.name)
      constraints
      ((source.nameRows rows).zipWith (fun name row => row.interval.band name) rows) := by
  induction resolved generalizing source with
  | nil => rw [List.zipWith_nil_right]; exact .nil
  | @cons _ row _ _ first _ ih =>
    have interval := (Comparison.restriction_eq_ok.mp first).1
    rw [NameSource.nameRows]
    cases row.bareName? with
    | some name => exact .cons ⟨_, interval, rfl⟩ (ih source)
    | none => exact .cons ⟨_, interval, rfl⟩ (ih source.draw.2)

theorem Problem.compilesTo_of_ok {stem : String} {problem : Problem F} {model : Model F}
    (compiled : (problem.compile stem).outcome = .ok model) : problem.CompilesTo model := by
  obtain ⟨outline, outlined, placed, banded, rows, objective, sense⟩ := compile_eq_ok.mp compiled
  obtain ⟨named, resolved, collected⟩ := outline_eq_ok.mp outlined
  obtain ⟨names, distinct⟩ := Columns.hold_of_ofNames named
  have assigned := assigned_of_boundsByName collected
  have restricted := mapM_eq_ok.mp resolved
  obtain ⟨known, entries⟩ := matrixEntries_eq_ok.mp placed
  rw [forms_of_restrictions restricted, names] at entries
  rw [forms_of_restrictions restricted, List.forall_mem_map, names] at known
  rw [names] at banded
  have column (band : Band F) (member : band ∈ model.columns) : ∃ interval,
      boundedInterval band.name outline.bounds[band.name]? = .ok interval ∧
        band = interval.band band.name := by
    obtain ⟨name, _, interval, bounded, rfl⟩ := exists_of_forall₂ banded band member
    exact ⟨interval, bounded, rfl⟩
  exact {
    distinct, objective, sense, known, entries
    columns := by
      have named : List.Forall₂ (fun name (column : Band F) => name = column.name)
          problem.objective.names model.columns := by
        apply banded.imp
        intro name column band
        obtain ⟨interval, _, rfl⟩ := band
        rfl
      rw [← List.forall₂_map_right_iff, List.forall₂_eq_eq_eq] at named
      exact named.symm
    rows := rows ▸ forall₂_rows _ restricted
    subject := by
      intro bound member
      obtain ⟨name, known, subject⟩ := assigned.known bound member
      exact ⟨name, names ▸ known, subject⟩
    free := by
      intro band member unbounded
      obtain ⟨interval, bounded, same⟩ := column band member
      have absent : outline.bounds[band.name]? = none := by
        apply Option.eq_none_iff_forall_ne_some.mpr
        intro restriction found
        obtain ⟨bound, given, subject, _⟩ := (assigned.found _ _).mp found
        exact unbounded bound given subject
      rw [absent] at bounded
      cases bounded
      exact same
    bounded := by
      intro band member bound given subject
      obtain ⟨interval, bounded, same⟩ := column band member
      obtain ⟨restriction, resolved⟩ := assigned.resolved bound given
      have found := (assigned.found band.name restriction).mpr ⟨bound, given, subject, resolved⟩
      rw [found] at bounded
      exact ⟨restriction, interval, resolved, bounded, same⟩ }

end LinearProgram
