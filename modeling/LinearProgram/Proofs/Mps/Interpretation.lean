import LinearProgram.Mps.Writer
import LinearProgram.Proofs.Model.Canonical
import LinearProgram.Proofs.Model.ColumnMajor
import LinearProgram.Proofs.Mps.Reader
import LinearProgram.Proofs.Outcome

namespace LinearProgram

variable {F : Type}

namespace Mps

section Grouping

variable {α β κ : Type} [DecidableEq κ] {key : α → κ} {f : α → List β} {xs : List α}

theorem filter_flatMap_of_nodup {of : β → κ} (keyed : ∀ x, ∀ y ∈ f x, of y = key x)
    (distinct : (xs.map key).Nodup) {x : α} (member : x ∈ xs) :
    ((xs.flatMap f).filter fun y => of y = key x) = f x := by
  induction xs with
  | nil => cases member
  | cons x' xs ih =>
    rw [List.map_cons, List.nodup_cons] at distinct
    obtain ⟨absent, distinct⟩ := distinct
    rw [List.flatMap_cons, List.filter_append]
    rcases List.mem_cons.mp member with rfl | later
    · have first : ((f x).filter fun y => of y = key x) = f x :=
        List.filter_eq_self.mpr fun y inside => by simpa using keyed x y inside
      have others : ((xs.flatMap f).filter fun y => of y = key x) = [] := by
        rw [List.filter_eq_nil_iff]
        intro y inside same
        obtain ⟨x', member', inside⟩ := List.mem_flatMap.mp inside
        have same := (keyed x' y inside).symm.trans (of_decide_eq_true same)
        exact absent (same ▸ List.mem_map_of_mem member')
      rw [first, others, List.append_nil]
    · have first : ((f x').filter fun y => of y = key x) = [] := by
        rw [List.filter_eq_nil_iff]
        intro y inside same
        have same := (keyed x' y inside).symm.trans (of_decide_eq_true same)
        exact absent (same ▸ List.mem_map_of_mem later)
      rw [first, List.nil_append, ih distinct later]

theorem lookup_eq_head? (name : String) (pairs : List (String × β)) :
    pairs.lookup name = ((pairs.filter fun pair => pair.1 = name).map Prod.snd).head? := by
  induction pairs with
  | nil => rfl
  | cons pair pairs ih =>
    rw [List.lookup_cons, ih]
    by_cases same : name = pair.1
    · simp [same]
    · have different : pair.1 ≠ name := fun equal => same equal.symm
      have unequal : (name == pair.1) = false := by simpa using same
      rw [unequal, List.filter_cons_of_neg (by simpa using different)]

theorem lookup_filterMap_of_nodup {g : α → Option β} {pairs : List (α × String)}
    (distinct : (pairs.map Prod.snd).Nodup) {x : α} {name : String}
    (member : (x, name) ∈ pairs) :
    (pairs.filterMap fun pair => (g pair.1).map fun value => (pair.2, value)).lookup name =
      g x := by
  have keyed : ∀ pair : α × String,
      ∀ entry ∈ ((g pair.1).map fun value => (pair.2, value)).toList, entry.1 = pair.2 := by
    intro pair entry inside
    obtain ⟨value, _, rfl⟩ := Option.map_eq_some_iff.mp (Option.mem_toList.mp inside)
    rfl
  rw [lookup_eq_head?, List.filterMap_eq_flatMap_toList,
    filter_flatMap_of_nodup keyed distinct member]
  cases g x <;> rfl

/-- Elements that come in groups of a common name are named in the order of the groups. -/
theorem eraseDups_flatMap {key : α → String} (count : α → Nat) {xs : List α}
    (distinct : (xs.map key).Nodup) :
    (xs.flatMap fun x => List.replicate (count x + 1) (key x)).eraseDups = xs.map key := by
  induction xs with
  | nil => rfl
  | cons x xs ih =>
    rw [List.map_cons, List.nodup_cons] at distinct
    obtain ⟨absent, distinct⟩ := distinct
    have same : ((List.replicate (count x) (key x)).filter fun name => !name == key x) = [] := by
      simp
    have others : ((xs.flatMap fun x => List.replicate (count x + 1) (key x)).filter
        fun name => !name == key x) = xs.flatMap fun x => List.replicate (count x + 1) (key x) := by
      apply List.filter_eq_self.mpr
      intro name inside
      obtain ⟨x', member, inside⟩ := List.mem_flatMap.mp inside
      rw [List.eq_of_mem_replicate inside]
      have different : key x' ≠ key x := fun equal => absent (equal ▸ List.mem_map_of_mem member)
      simpa using different
    rw [List.flatMap_cons, List.replicate_succ, List.cons_append, List.eraseDups_cons,
      List.filter_append, same, others, List.nil_append, ih distinct, List.map_cons]

end Grouping

section Bands

variable [Field F] [LinearOrder F] [Scalar F] [ExactScalar F]

theorem interval_of_row [IsStrictOrderedRing F] {row : Band F}
    (ordered : row.kind = .double → row.lower ≤ row.upper) :
    (rowType row.kind).interval ((rightHandSide? row).getD 0)
      (if hasRange row then some (row.upper - row.lower) else none) = row.interval := by
  have side (value : F) :
      ((some value).filter fun value => !Scalar.isZero value).getD 0 = value := by
    cases zero : Scalar.isZero value with
    | true =>
      rw [(isZero_iff value).mp zero, Option.filter]
      split <;> rfl
    | false => simp [Option.filter, zero]
  rcases row with ⟨name, kind, lower, upper⟩
  cases kind with
  | free => rfl
  | lower | upper | fixed =>
    simp only [rowType, rightHandSide?, side, hasRange, Band.interval]
    rfl
  | double =>
    have inOrder : lower ≤ upper := ordered rfl
    simp only [rowType, rightHandSide?, side, hasRange, Band.interval, RowType.interval]
    simp [inOrder, abs_of_nonneg]

omit [Field F] [LinearOrder F] [ExactScalar F] in
theorem column_of_mem_columnBounds (column : Band F) :
    ∀ bound ∈ columnBounds column, bound.column = column.name := by
  rcases column with ⟨name, kind, lower, upper⟩
  cases kind with
  | lower =>
    unfold columnBounds
    split <;> simp [Bound.column]
  | free | upper | double | fixed => simp [columnBounds, Bound.column]

theorem interval_of_column (column : Band F) :
    (columnBounds column).foldl Bound.limit ⟨some 0, none⟩ = column.interval := by
  rcases column with ⟨name, kind, lower, upper⟩
  cases kind with
  | lower =>
    by_cases zero : lower = 0 <;> simp [columnBounds, zero, Bound.limit, Band.interval]
  | free | upper | double | fixed => rfl

def Document.exact (model : Model F) (name : String) : Document F :=
  let names := distinctNames (model.rows.map Band.name)
  let rows := model.rows.zip names
  { name := name
    sense := model.sense
    cost := costName (model.rows.map Band.name)
    rows := rows.map fun (row, name) => (rowType row.kind, name)
    cells := (model.columns.zip (model.objective.zip model.byColumn)).flatMap
      fun (column, value, entries) =>
        columnCells (costName (model.rows.map Band.name)) names.toArray column value entries
    rightHandSides := rows.filterMap fun (row, name) =>
      (rightHandSide? row).map fun value => (name, value)
    ranges := rows.filterMap fun (row, name) =>
      (if hasRange row then some (row.upper - row.lower) else none).map fun value => (name, value)
    bounds := model.columns.flatMap columnBounds }

theorem Document.outcome_ofModel (model : Model F) (name : String) :
    (Document.ofModel model name).outcome = .ok (Document.exact model name) := by
  have ranges (rows : List (Band F × String)) :
      (rows.filter fun row => hasRange row.1).mapM (fun row => range row.1 row.2) = .ok
        (rows.filterMap fun row => (if hasRange row.1 then some (row.1.upper - row.1.lower)
          else none).map fun value => (row.2, value)) := by
    have each (row : Band F × String) (written : String × F) :
        range row.1 row.2 = .ok written ↔ True ∧ written = (row.2, row.1.upper - row.1.lower) := by
      rw [range, map_eq_ok, ExactScalar.subtract_eq]
      simp [eq_comm]
    rw [(mapM_eq_ok_of_iff each).mpr ⟨fun _ _ => trivial, rfl⟩, ← List.filterMap_eq_map,
      List.filterMap_filter]
    congr 2
    funext row
    cases hasRange row.1 <;> rfl
  simp only [Document.ofModel, Traced.outcome_bind, Traced.outcome_emitAll,
    Traced.outcome_ofExcept, ranges]
  rfl

theorem outcome_mps (model : Model F) (name : String) :
    (model.mps name).outcome = .ok (Document.exact model name).text := by
  rw [Model.mps, Traced.outcome_bind, Document.outcome_ofModel]
  rfl

end Bands

end Mps

end LinearProgram
