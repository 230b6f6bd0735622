import LinearProgram.Model.Basic
import LinearProgram.Proofs.Number.Fraction64

namespace LinearProgram

variable {F G : Type}

section Definitions

variable (f : F → G)

def Interval.map (interval : Interval F) : Interval G :=
  ⟨interval.lower.map f, interval.upper.map f⟩

def Band.map (band : Band F) : Band G :=
  ⟨band.name, band.kind, f band.lower, f band.upper⟩

def Entry.map (entry : Entry F) : Entry G :=
  ⟨entry.row, entry.column, f entry.coefficient⟩

def Model.map (model : Model F) : Model G where
  rows := model.rows.map (Band.map f)
  columns := model.columns.map (Band.map f)
  entries := model.entries.map (Entry.map f)
  objective := model.objective.map f
  sense := model.sense

end Definitions

variable [Scalar F] [Scalar G] {f : F → G} (embedding : Scalar.IsEmbedding f)

include embedding

theorem Interval.kind_map (interval : Interval F) : (interval.map f).kind = interval.kind := by
  rcases interval with ⟨_ | lower, _ | upper⟩ <;> simp [map, kind, embedding.eq]

theorem Interval.band_map (interval : Interval F) (name : String) :
    (interval.map f).band name = (interval.band name).map f := by
  unfold band Band.map
  rw [kind_map embedding, embedding.zero]
  rcases interval with ⟨_ | lower, _ | upper⟩ <;> rfl

/-- Quotients that have room are the same in both types. -/
theorem Interval.divide_map {interval quotient : Interval F} {divisor : F}
    (fits : interval.divide divisor = .ok quotient) :
    (interval.map f).divide (f divisor) = .ok (quotient.map f) := by
  have each {ending result : Option F} (divided : ending.mapM (Scalar.divide · divisor) = .ok result) :
      (ending.map f).mapM (Scalar.divide · (f divisor)) = .ok (result.map f) := by
    cases ending with
    | none => cases divided; rfl
    | some value =>
      obtain ⟨c, divides, made⟩ := map_eq_ok.mp divided
      subst made
      simp only [Option.map_some, Option.mapM_some, embedding.divide divides]
      rfl
  simp only [divide, bind_eq_ok] at fits ⊢
  obtain ⟨lower, first, upper, second, made⟩ := fits
  cases made
  exact ⟨lower.map f, each first, upper.map f, each second, rfl⟩

end LinearProgram
