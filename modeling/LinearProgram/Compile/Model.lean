import LinearProgram.Compile.Outline

namespace LinearProgram

/-- Where the names of rows without a variable of their own come from: a list, with empty names
after its end, or a counter behind a stem, which passes over names that columns have. -/
inductive NameSource where
  | listed (names : List String)
  | numbered (stem : String) (taken : Columns) (last : Nat)

namespace NameSource

def defaultStem : String :=
  "R"

def numberedName (stem : String) (number : Nat) : String :=
  stem ++ Nat.repr number

def nextFree (stem : String) (taken : Columns) : Nat → Nat → Nat
  | 0, number => number
  | tries + 1, number =>
    if taken.contains (numberedName stem number) then nextFree stem taken tries (number + 1)
    else number

/-- Takes a name; trying one number for each column leaves a number that is surely free. -/
def draw : NameSource → String × NameSource
  | .listed [] => ("", .listed [])
  | .listed (name :: names) => (name, .listed names)
  | .numbered stem taken last =>
    let number := nextFree stem taken taken.size (last + 1)
    (numberedName stem number, .numbered stem taken number)

def drawMany : Nat → NameSource → List String
  | 0, _ => []
  | count + 1, source =>
    let (name, source) := source.draw
    name :: drawMany count source

def nameRows {F : Type} [Scalar F] : NameSource → List (Restriction F) → List String
  | _, [] => []
  | source, row :: rows =>
    match row.bareName? with
    | some name => name :: nameRows source rows
    | none =>
      let (name, source) := source.draw
      name :: nameRows source rows

end NameSource

variable {F ε : Type} [Scalar F]

def Interval.crossing? (interval : Interval F) : Option (F × F) :=
  match interval.lower, interval.upper with
  | some lower, some upper => if Scalar.lt upper lower then some (lower, upper) else none
  | _, _ => none

def Interval.warnings (interval : Interval F) (name : String) : List Event :=
  match interval.crossing? with
  | some (lower, upper) => [.crossedBounds name (Scalar.render lower) (Scalar.render upper)]
  | none => []

def Interval.announce (interval : Interval F) (name : String) : Traced ε (Band F) := do
  Traced.emitAll (interval.warnings name)
  return interval.band name

def rowBands (source : NameSource) (rows : List (Restriction F)) : Traced ε (List (Band F)) :=
  ((source.nameRows rows).zip rows).mapM fun (name, row) => row.interval.announce name

/-- The interval of a variable whose multiple is kept in the restriction's interval. A negative
coefficient exchanges the ends. -/
def columnInterval (name : String) (restriction : Restriction F) :
    Except CompileFailure (Interval F) :=
  match restriction.form with
  | [term] =>
    if Scalar.eq term.coefficient Scalar.one then .ok restriction.interval
    else if Scalar.isZero term.coefficient then .error (.rejected (.zeroBoundCoefficient name))
    else do
      let scaled ← (restriction.interval.divide term.coefficient).mapError .overflow
      return if Scalar.lt term.coefficient Scalar.zero then scaled.swap else scaled
  | form => .error (.rejected (.boundOnExpression form.length))

def columnBand (name : String) (bound : Option (Restriction F)) :
    Traced CompileFailure (Band F) := do
  let interval ← Traced.ofExcept <| match bound with
    | none => .ok Interval.whole
    | some restriction => columnInterval name restriction
  interval.announce name

def Model.summary {F : Type} (model : Model F) : Event :=
  .compiled model.sense model.rows.length model.columns.length model.entries.length
    (kindSummary model.rows) (kindSummary model.columns)

/-- Turns a problem into a model with a row for each constraint and a column for each variable of
the objective. Rows without a variable of their own are named by the stem and a number. -/
def Problem.compile {F : Type} [Scalar F] (stem : String) (problem : Problem F) :
    Traced CompileFailure (Model F) := do
  let outline ← (Traced.ofExcept problem.outline).mapError CompileFailure.rejected
  let entries ←
    (matrixEntries outline.columns 1 outline.rows).mapError CompileFailure.rejected
  let rows ← rowBands (.numbered stem outline.columns 0) outline.rows
  let columns ← outline.columns.names.toList.mapM fun name =>
    columnBand name outline.bounds[name]?
  let objective := problem.objective.form.map Monomial.coefficient
  let model : Model F := ⟨rows, columns, entries, objective, problem.sense⟩
  Traced.emit model.summary
  return model

end LinearProgram
