import LinearProgram.Algebraic.Token
import LinearProgram.Problem.Basic
import LinearProgram.Text.Basic

namespace LinearProgram

inductive Heading where
  | objective (sense : Sense)
  | constraints
  | bounds
  | ending
deriving DecidableEq

namespace Heading

def opens : Heading → Section
  | .objective _ => .objective
  | .constraints => .constraints
  | .bounds => .bounds
  | .ending => .ending

def keywords : List (String × Heading) :=
  [("minimize", .objective .minimize), ("minimise", .objective .minimize),
   ("min", .objective .minimize), ("maximize", .objective .maximize),
   ("maximise", .objective .maximize), ("max", .objective .maximize),
   ("bounds", .bounds), ("bound", .bounds), ("end", .ending)]

def constraintWords : List (List String) :=
  [["subject", "to"], ["such", "that"], ["st"], ["s.t."]]

def trimColons (word : List Char) : List Char :=
  (word.reverse.dropWhile (· == ':')).reverse

def lowered (word : List Char) : String :=
  String.ofList (word.map Char.toLower)

/-- What follows the given words at the start of a line, where only the last word may have colons
attached. -/
def afterWords? : List String → List Char → Option (List Char)
  | [], line => some line
  | [last], line =>
    let (word, rest) := Text.firstWord line
    if lowered (trimColons word) = last then some rest else none
  | expected :: words, line =>
    let (word, rest) := Text.firstWord line
    if lowered word = expected then afterWords? words rest else none

def afterColon (line : List Char) : List Char :=
  match Text.dropBlanks line with
  | ':' :: rest => rest
  | rest => rest

/-- The heading at the start of a line, in any case, and the content after it; a line without a
heading is content as a whole. The end of the program takes no separate colon. -/
def split (line : List Char) : Option Heading × List Char :=
  let (word, rest) := Text.firstWord line
  match keywords.lookup (lowered (trimColons word)) with
  | some .ending => (some .ending, rest)
  | some heading => (some heading, afterColon rest)
  | none =>
    match constraintWords.findSome? (afterWords? · line) with
    | some rest => (some .constraints, afterColon rest)
    | none => (none, line)

end Heading

end LinearProgram
