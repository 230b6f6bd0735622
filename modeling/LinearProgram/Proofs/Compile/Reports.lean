import LinearProgram.Proofs.Compile.Growth
import LinearProgram.Proofs.Compile.Obstacles
import LinearProgram.Proofs.Compile.Representation
import LinearProgram.Proofs.Compile.StageEvents
import LinearProgram.Proofs.Mps.Omissions

namespace LinearProgram

variable {F : Type}

namespace Problem

section Statement

variable [Field F] [LinearOrder F] [Scalar F]

end Statement

section Rows

variable [Scalar F] {problem : Problem F} {outline : Outline F}

end Rows

variable [Field F] [LinearOrder F] [Scalar F] [ExactScalar F] {stem : String} {problem : Problem F}
  {outline : Outline F}

section Success

variable {model : Model F}

end Success

section Failure

end Failure

def tangled : Problem Rat where
  sense := .maximize
  objective := .sum [.bare "x", .scaled 2 "y", .bare "z"]
  constraints := [.chained .lessEqual 3 (.sum [.bare "x", .bare "y"]) 1,
    .chained .lessEqual 0 (.single (.bare "y")) 2,
    .chained .greaterEqual 1 (.single (.scaled 2 "z")) 4]
  bounds := [.chained .greaterEqual 3 (.single (.scaled (-1) "y")) 5,
    .simple .lessEqual (.single (.bare "x")) 7]

def repeated : Problem Rat :=
  { tangled with bounds := tangled.bounds ++ tangled.bounds }

end Problem

def Model.tangled : Model Rat where
  rows := [⟨"R1", .double, 3, 1⟩, ⟨"y", .double, 0, 2⟩, ⟨"R2", .double, 4, 1⟩]
  columns := [⟨"x", .upper, 0, 7⟩, ⟨"y", .double, -3, -5⟩, ⟨"z", .free, 0, 0⟩]
  entries := [⟨1, 1, 1⟩, ⟨1, 2, 1⟩, ⟨2, 2, 1⟩, ⟨3, 3, 2⟩]
  objective := [1, 2, 1]
  sense := .maximize

namespace Problem

end Problem

end LinearProgram
