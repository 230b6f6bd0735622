import LinearProgram.Proofs.Outcome

namespace LinearProgram.Traced

variable {ε α β : Type}

end LinearProgram.Traced
