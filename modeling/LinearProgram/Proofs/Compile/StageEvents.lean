import LinearProgram.Proofs.Compile.Contents
import LinearProgram.Proofs.Events
import LinearProgram.Proofs.Model.Crossing
import Mathlib.Data.List.TakeWhile

namespace LinearProgram

variable {F ε : Type}

section Rows

end Rows

section Bands

variable [Scalar F]

variable [LinearOrder F]

variable [Field F] [ExactScalar F]

end Bands

section Stages

variable [Scalar F] {stem : String} {problem : Problem F} {outline : Outline F}
  {entries : List (Entry F)} {columns : List (Band F)}

namespace Problem

def assembled (stem : String) (problem : Problem F) (outline : Outline F)
    (entries : List (Entry F)) (columns : List (Band F)) : Model F where
  rows := ((NameSource.numbered stem outline.columns 0).nameRows outline.rows).zipWith
    (fun name row => row.interval.band name) outline.rows
  columns := columns
  entries := entries
  objective := problem.objective.form.map Monomial.coefficient
  sense := problem.sense

end Problem

end Stages

end LinearProgram
