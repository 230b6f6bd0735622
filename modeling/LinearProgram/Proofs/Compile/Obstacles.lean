import LinearProgram.Proofs.Compile.Acceptance
import Mathlib.Data.List.TakeWhile

namespace LinearProgram

variable {F : Type}

namespace Problem

section Zeros

variable [Field F] [DecidableEq F]

variable {problem : Problem F}

end Zeros

end Problem

end LinearProgram
