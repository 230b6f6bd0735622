import LinearProgram.Compile.Model
import LinearProgram.Proofs.Compile.Columns
import LinearProgram.Proofs.Reorder

namespace LinearProgram

def fillNames : List (Option String) → List String → List String
  | [], _ => []
  | some name :: own, drawn => name :: fillNames own drawn
  | none :: own, drawn => drawn.headD "" :: fillNames own drawn.tail

namespace NameSource

section Rows

variable {F : Type} [Scalar F]

/-- A source gives as many names as there are rows without a name of their own. -/
theorem nameRows_eq_fillNames (source : NameSource) (rows : List (Restriction F)) :
    source.nameRows rows = fillNames (rows.map Restriction.bareName?)
      (drawMany ((rows.map Restriction.bareName?).count none) source) := by
  induction rows generalizing source with
  | nil => rfl
  | cons row rows ih =>
    rw [nameRows, List.map_cons]
    cases row.bareName? with
    | some name =>
      rw [List.count_cons_of_ne (by simp), fillNames]
      exact congrArg _ (ih source)
    | none =>
      rw [List.count_cons_self, drawMany, fillNames]
      exact congrArg _ (ih source.draw.2)

/-- Rows in another order are given the same names anew. -/
theorem nameRows_reorder (source : NameSource) {rows : List (Restriction F)} {places : List Nat}
    (permuted : places.Perm (List.range rows.length)) :
    source.nameRows (reorder places rows) =
      fillNames (reorder places (rows.map Restriction.bareName?))
        (drawMany ((rows.map Restriction.bareName?).count none) source) := by
  have same : (reorder places rows).Perm rows :=
    perm_iff_exists_reorder.mpr ⟨places, permuted, rfl⟩
  rw [nameRows_eq_fillNames, (same.map _).count_eq, reorder_map]

theorem length_nameRows (source : NameSource) (rows : List (Restriction F)) :
    (source.nameRows rows).length = rows.length := by
  induction rows generalizing source with
  | nil => rfl
  | cons row rows ih =>
    rw [nameRows]
    cases row.bareName? with
    | some name => exact congrArg (· + 1) (ih source)
    | none => exact congrArg (· + 1) (ih source.draw.2)

end Rows

theorem length_drawMany (count : Nat) (source : NameSource) :
    (drawMany count source).length = count := by
  induction count generalizing source with
  | zero => rfl
  | succ count ih => exact congrArg (· + 1) (ih source.draw.2)

section Taken

variable {taken others : Columns} (same : taken.names.toList.Perm others.names.toList)

include same

theorem nextFree_congr (stem : String) (tries number : Nat) :
    nextFree stem taken tries number = nextFree stem others tries number := by
  have contains (name : String) : taken.contains name = others.contains name := by
    rw [Bool.eq_iff_iff, Columns.contains_iff, Columns.contains_iff, same.mem_iff]
  induction tries generalizing number with
  | zero => rfl
  | succ tries ih => rw [nextFree, nextFree, contains, ih]

theorem drawMany_congr (stem : String) (count last : Nat) :
    drawMany count (.numbered stem taken last) = drawMany count (.numbered stem others last) := by
  have size : taken.size = others.size := same.length_eq
  induction count generalizing last with
  | zero => rfl
  | succ count ih =>
    simp only [drawMany, draw, size, nextFree_congr same, ih]

/-- The order in which columns have taken their names makes no difference to the names of rows. -/
theorem nameRows_congr {F : Type} [Scalar F] (stem : String) (rows : List (Restriction F)) :
    (numbered stem taken 0).nameRows rows = (numbered stem others 0).nameRows rows := by
  rw [nameRows_eq_fillNames, nameRows_eq_fillNames, drawMany_congr same]

end Taken

end NameSource

end LinearProgram
