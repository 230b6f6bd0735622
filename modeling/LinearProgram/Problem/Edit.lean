import LinearProgram.Problem.Basic

namespace LinearProgram

inductive Edit (F : Type) where
  | addConstraint (constraint : Comparison F)
  | addBound (bound : Comparison F)
  | setObjective (objective : Expression F)
  | setSense (sense : Sense)
  | dropConstraint (place : Nat)
  | dropBound (place : Nat)

namespace Problem

variable {F : Type}

def edit (problem : Problem F) : Edit F → Problem F
  | .addConstraint constraint =>
    { problem with constraints := problem.constraints ++ [constraint] }
  | .addBound bound => { problem with bounds := problem.bounds ++ [bound] }
  | .setObjective objective => { problem with objective := objective }
  | .setSense sense => { problem with sense := sense }
  | .dropConstraint place =>
    { problem with constraints := problem.constraints.eraseIdx place }
  | .dropBound place => { problem with bounds := problem.bounds.eraseIdx place }

def revisions (problem : Problem F) : List (Edit F) → List (Problem F)
  | [] => [problem]
  | edit :: edits => problem :: (problem.edit edit).revisions edits

end Problem

end LinearProgram
