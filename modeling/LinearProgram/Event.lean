import LinearProgram.Problem.Text

namespace LinearProgram

inductive Event where
  | parsed (sense : Sense) (constraints bounds : Nat)
  | resolvedRow (row terms : Nat)
  | crossedBounds (name lower upper : String)
  | compiled (sense : Sense) (rows columns entries : Nat) (rowKinds columnKinds : String)
  | omittedRange (row lower upper : String)
  | wroteMps (program : String) (rows columns entries : Nat)
  | imported (path : String)
  | exported (path : String)
deriving DecidableEq

inductive Severity where
  | trace
  | debug
  | warn
deriving DecidableEq

inductive Detail where
  | count (n : Nat)
  | text (value : String)
deriving DecidableEq

def Severity.label : Severity → String
  | .trace => "TRACE"
  | .debug => "DEBUG"
  | .warn => "WARN"

namespace Event

def severity : Event → Severity
  | .resolvedRow .. => .trace
  | .crossedBounds .. => .warn
  | .omittedRange .. => .warn
  | _ => .debug

def message : Event → String
  | .parsed .. => "Parsed algebraic linear program"
  | .resolvedRow .. => "Resolved row"
  | .crossedBounds .. => "Lower bound exceeds upper bound"
  | .compiled .. => "Compiled linear program"
  | .omittedRange .. =>
    "Row has its lower bound above its upper bound, writing it without a range"
  | .wroteMps .. => "Wrote MPS"
  | .imported .. => "Imported linear program"
  | .exported .. => "Exported model"

def origin : Event → String × String × String
  | .parsed .. => ("io", "parse", "ok")
  | .resolvedRow .. => ("compile", "compute_entries", "success")
  | .crossedBounds .. => ("compile", "materialize", "infeasible")
  | .compiled .. => ("compile", "compile", "success")
  | .omittedRange .. => ("io", "write_mps", "infeasible")
  | .wroteMps .. => ("io", "write_mps", "ok")
  | .imported .. => ("io", "import", "ok")
  | .exported .. => ("io", "export", "ok")

def particulars : Event → List (String × Detail)
  | .parsed sense constraints bounds =>
    [("sense", .text sense.keyword), ("nr_constraints", .count constraints),
     ("nr_bounds", .count bounds)]
  | .resolvedRow row terms => [("row", .count row), ("nr_terms", .count terms)]
  | .crossedBounds name lower upper =>
    [("name", .text name), ("lower", .text lower), ("upper", .text upper)]
  | .compiled sense rows columns entries rowKinds columnKinds =>
    [("direction", .text sense.abbreviation), ("nr_rows", .count rows),
     ("nr_columns", .count columns), ("nr_entries", .count entries),
     ("row_kinds", .text rowKinds), ("column_kinds", .text columnKinds)]
  | .omittedRange row lower upper =>
    [("row", .text row), ("lower", .text lower), ("upper", .text upper)]
  | .wroteMps program rows columns entries =>
    [("program", .text program), ("nr_rows", .count rows), ("nr_columns", .count columns),
     ("nr_entries", .count entries)]
  | .imported path => [("path", .text path)]
  | .exported path => [("path", .text path)]

def details (event : Event) : List (String × Detail) :=
  let (component, operation, status) := event.origin
  ("component", .text component) :: ("operation", .text operation) ::
    ("status", .text status) :: event.particulars

end Event

end LinearProgram
