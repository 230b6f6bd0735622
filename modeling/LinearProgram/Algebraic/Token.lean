import LinearProgram.Problem.Basic
import LinearProgram.Text.Glyph

namespace LinearProgram

inductive Section where
  | objective
  | constraints
  | bounds
  | ending
deriving DecidableEq

namespace Section

def rank : Section → Nat
  | .objective => 0
  | .constraints => 1
  | .bounds => 2
  | .ending => 3

def description : Section → String
  | .objective => "Objective"
  | .constraints => "Constraints"
  | .bounds => "Bounds"
  | .ending => "End"

end Section

inductive Token where
  | number (text : String)
  | identifier (name : String)
  | plus
  | minus
  | times
  | comparator (c : Comparator)
deriving DecidableEq

def Comparator.description : Comparator → String
  | .equal => "Equal"
  | .lessEqual => "LessEqual"
  | .greaterEqual => "GreaterEqual"
  | .less => "Less"
  | .greater => "Greater"
  | .notEqual => "NotEqual"

def Token.description : Token → String
  | .number text => "Number(" ++ Text.quote text ++ ")"
  | .identifier name => "Identifier(" ++ Text.quote name ++ ")"
  | .plus => "Plus"
  | .minus => "Minus"
  | .times => "Times"
  | .comparator c => "Comparator(" ++ c.description ++ ")"

end LinearProgram
