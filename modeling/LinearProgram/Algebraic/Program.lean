import LinearProgram.Algebraic.Comparison
import LinearProgram.Algebraic.Heading
import LinearProgram.Algebraic.Lexeme
import LinearProgram.Text.Basic
import LinearProgram.Traced

namespace LinearProgram

def sourceLines (text : String) : List Location :=
  ((Text.splitLines text.toList).zipIdx 1).filterMap fun (line, number) =>
    let line := line.takeWhile (· != '#')
    if line.all Text.isBlank then none else some ⟨number, String.ofList line⟩

/-- What the lines read so far have given: the section they have reached, the sense and the tokens
of the objective with the line it starts on, and the comparisons of the other two sections. -/
structure Draft (F : Type) where
  reached : Option Section := none
  objective : Option (Sense × Location × List Token) := none
  constraints : Array (Comparison F) := #[]
  bounds : Array (Comparison F) := #[]

namespace Draft

variable {F : Type}

def enter (draft : Draft F) (heading : Heading) (location : Location) :
    Except ParseError (Draft F) :=
  if draft.reached.any fun reached => heading.opens.rank ≤ reached.rank then
    .error ((ParseError.new (.misplacedSection heading.opens)).located location)
  else
    let entered := { draft with reached := some heading.opens }
    match heading with
    | .objective sense => .ok { entered with objective := some (sense, location, []) }
    | _ => .ok entered

variable [Scalar F] [Literal F]

def readLine (tokens : List Token) (complaint : Complaint) (location : Location) :
    Except ParseError (Comparison F) :=
  (Comparison.read tokens).mapError fun error => (error.wrap complaint).located location

def absorb (draft : Draft F) (tokens : List Token) (location : Location) :
    Except ParseError (Draft F) :=
  match draft.reached, draft.objective with
  | some .objective, some (sense, start, before) =>
    .ok { draft with objective := some (sense, start, before ++ tokens) }
  | some .constraints, _ => do
    let constraint ← readLine tokens .unreadableConstraint location
    .ok { draft with constraints := draft.constraints.push constraint }
  | some .bounds, _ => do
    let bound ← readLine tokens .unreadableBound location
    .ok { draft with bounds := draft.bounds.push bound }
  | some .ending, _ => .error ((ParseError.new .contentAfterEnd).located location)
  | _, _ => .error ((ParseError.new .missingStart).located location)

def addLine (draft : Draft F) (location : Location) : Except ParseError (Draft F) := do
  let (heading, content) := Heading.split location.text.toList
  let draft ← match heading with
    | some heading => draft.enter heading location
    | none => .ok draft
  let tokens ← (Token.scan content).mapError (·.located location)
  if tokens = [] then .ok draft else draft.absorb tokens location

/-- Reads the objective, which may be spread over lines and so is read after all of them. -/
def finish (draft : Draft F) : Except ParseError (Problem F) :=
  match draft.objective with
  | none => .error (.new .missingObjective)
  | some (sense, start, tokens) => do
    let objective ← (Expression.read tokens).mapError fun error =>
      (error.wrap .unreadableObjective).located start
    .ok ⟨sense, objective, draft.constraints.toList, draft.bounds.toList⟩

end Draft

namespace Problem

variable {F : Type}

def read [Scalar F] [Literal F] (text : String) : Except ParseError (Problem F) := do
  let draft ← (sourceLines text).foldlM Draft.addLine ({} : Draft F)
  draft.finish

def summary (problem : Problem F) : Event :=
  .parsed problem.sense problem.constraints.length problem.bounds.length

def parse [Scalar F] [Literal F] (text : String) : Traced ParseError (Problem F) := do
  let problem ← Traced.ofExcept (read text)
  Traced.emit problem.summary
  return problem

end Problem

end LinearProgram
