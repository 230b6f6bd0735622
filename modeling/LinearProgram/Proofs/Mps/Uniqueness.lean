import LinearProgram.Proofs.Mps.Attribution
import Mathlib.Order.Bounds.Defs

namespace LinearProgram.Mps

def copies (count : Nat) (text : String) : String :=
  String.join (List.replicate count text)

theorem extended_eq_append (suffix : String) (count : Nat) (name : String) :
    extended suffix count name = name ++ copies count suffix := by
  induction count generalizing name with
  | zero => simp [extended, copies]
  | succ count ih =>
    rw [extended, ih, copies, copies, List.replicate_succ, String.join_cons, String.append_assoc]

theorem suffixed_eq_append (name : String) (number count : Nat) :
    suffixed name number count = name ++ copies count ("_" ++ Nat.repr number) :=
  extended_eq_append _ count name

/-- The costs are given the first name that no row has. -/
theorem exists_costName (names : List String) :
    ∃ count, costName names = "COST" ++ copies count "_" ∧
      IsLeast {count | "COST" ++ copies count "_" ∉ names} count := by
  obtain ⟨count, reached, before⟩ := exists_extendToFree names.contains "_" names.length "COST"
  have written : costName names = "COST" ++ copies count "_" := by
    rw [costName, reached, extended_eq_append]
  refine ⟨count, written, ?_, ?_⟩
  · have free := costName_not_mem names
    rw [written] at free
    exact free
  · intro other free
    by_contra fewer
    have taken := before other (Nat.lt_of_not_le fewer)
    rw [extended_eq_append] at taken
    exact free (List.contains_iff_mem.mp taken)

/-- Each row is given the first name, out of its own one and that with its number appended again and
again, which neither the costs nor a row before it have. -/
theorem exists_rowName (names : List String) {place : Nat} {name : String}
    (here : names[place]? = some name) :
    ∃ count, (distinctNames names)[place]? =
        some (name ++ copies count ("_" ++ Nat.repr (place + 1))) ∧
      IsLeast {count | ¬ takenBefore names place
        (name ++ copies count ("_" ++ Nat.repr (place + 1)))} count := by
  obtain ⟨written, count, found, lengthened⟩ := exists_lengthened_row here
  simp only [← suffixed_eq_append]
  refine ⟨count, lengthened.written_eq ▸ found, ?_, ?_⟩
  · have free := lengthened.free
    rw [lengthened.written_eq] at free
    exact free
  · intro other free
    by_contra fewer
    exact free (lengthened.before other (Nat.lt_of_not_le fewer))

theorem head?_distinctNames (names : List String) :
    (distinctNames names).head? = names.head? := by
  cases names with
  | nil => rfl
  | cons name names =>
    obtain ⟨written, count, found, lengthened⟩ :=
      exists_lengthened_row (List.getElem?_cons_zero : (name :: names)[0]? = some name)
    have free : ¬ takenBefore (name :: names) 0 name := by
      simp [takenBefore_iff (List.getElem?_cons_zero : (name :: names)[0]? = some name)]
    rw [List.head?_eq_getElem?, found, lengthened.eq_iff.mpr free, List.head?_cons]

/-- However rows are named, they are written under names that differ from each other and from that
of the costs. The costs are called as no row is, with as few underscores as that takes. The first row
keeps its name, and any row is given its own name with its number appended as often as it takes to
find one that is free. -/
theorem written_names_unique (names : List String) :
    (distinctNames names).length = names.length ∧ (distinctNames names).Nodup ∧
    costName names ∉ distinctNames names ∧
    (∃ count, costName names = "COST" ++ copies count "_" ∧
      IsLeast {count | "COST" ++ copies count "_" ∉ names} count) ∧
    (distinctNames names).head? = names.head? ∧
    ∀ place : Fin names.length, ∃ count,
      (distinctNames names)[place.val]? =
        some (names.get place ++ copies count ("_" ++ Nat.repr (place.val + 1))) ∧
      IsLeast {count | ¬ takenBefore names place.val
        (names.get place ++ copies count ("_" ++ Nat.repr (place.val + 1)))} count :=
  ⟨length_distinctNames names, distinctNames_nodup names, costName_not_mem_distinctNames names,
    exists_costName names, head?_distinctNames names,
    fun place => exists_rowName names (List.getElem?_eq_getElem place.isLt)⟩

end LinearProgram.Mps
