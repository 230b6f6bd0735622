import LinearProgram.Algebraic.Token

namespace LinearProgram

inductive NumberFault where
  | emptyInteger
  | invalidDigit
  | tooLarge
  | tooSmall
  | emptyFloat
  | invalidFloat
deriving DecidableEq

def NumberFault.message : NumberFault → String
  | .emptyInteger => "cannot parse integer from empty string"
  | .invalidDigit => "invalid digit found in string"
  | .tooLarge => "number too large to fit in target type"
  | .tooSmall => "number too small to fit in target type"
  | .emptyFloat => "cannot parse float from empty string"
  | .invalidFloat => "invalid float literal"

inductive DecimalPart where
  | entire
  | integer
  | mantissa
deriving DecidableEq

def DecimalPart.description : DecimalPart → String
  | .entire => "entire value"
  | .integer => "integer part"
  | .mantissa => "mantissa part"

inductive Complaint where
  | note (text : String)
  | noDigits (text : String)
  | notDecimal (text : String)
  | tooManyDigits (text : String)
  | unreadableInteger (part : DecimalPart) (text : String)
  | unreadableFloat (text : String)
  | notFinite (text : String)
  | unexpectedCharacter (c : Char) (content : String)
  | missingSign (found : Token)
  | missingTerm
  | missingVariable (found : Token)
  | constantTerm (value : String)
  | missingComparator
  | tooManyComparators (count : Nat)
  | differentComparators (first second : Comparator)
  | valueBeforeExpression
  | missingValue
  | notSingleValue (count : Nat)
  | unreadableLeft
  | unreadableRight
  | unreadableLeftValue
  | unreadableMiddle
  | unreadableRightValue
  | unreadableConstraint
  | unreadableBound
  | unreadableObjective
  | misplacedSection (found : Section)
  | missingStart
  | contentAfterEnd
  | missingObjective
deriving DecidableEq

def Complaint.message : Complaint → String
  | .note text => text
  | .noDigits text => "Value text \"" ++ text ++ "\" contains no digits."
  | .notDecimal text => "Value text \"" ++ text ++ "\" is not a decimal number."
  | .tooManyDigits text => "Value text \"" ++ text ++ "\" has too many digits."
  | .unreadableInteger part text =>
    "Failed to parse " ++ part.description ++ " \"" ++ text ++ "\" as i64."
  | .unreadableFloat text => "Failed to parse value text \"" ++ text ++ "\" into f64"
  | .notFinite text => "Parsed value \"" ++ text ++ "\" is not finite."
  | .unexpectedCharacter c content =>
    "Unexpected character '" ++ c.toString ++ "' in \"" ++ content ++ "\""
  | .missingSign found =>
    "Expected \"+\" or \"-\" between terms, found " ++ found.description
  | .missingTerm => "Expected a term"
  | .missingVariable found =>
    "Expected a variable, optionally preceded by a coefficient, found " ++ found.description
  | .constantTerm value =>
    "Value \"" ++ value ++
      "\" is not multiplied with a variable, constants are not supported"
  | .missingComparator => "Expected a comparison operator"
  | .tooManyComparators count =>
    "Expected at most two comparison operators, found " ++ toString count
  | .differentComparators first second =>
    "A chained comparison should use the same operator twice, found \"" ++ first.symbol ++
      "\" and \"" ++ second.symbol ++ "\""
  | .valueBeforeExpression =>
    "Expected the expression before the value, write \"x >= 0\" rather than \"0 <= x\""
  | .missingValue => "Expected a value"
  | .notSingleValue count => "Expected a single value, found " ++ toString count ++ " tokens"
  | .unreadableLeft => "Could not read the left hand side"
  | .unreadableRight => "Could not read the right hand side"
  | .unreadableLeftValue => "Could not read the value on the left"
  | .unreadableMiddle => "Could not read the expression in the middle"
  | .unreadableRightValue => "Could not read the value on the right"
  | .unreadableConstraint => "Could not read constraint"
  | .unreadableBound => "Could not read bound"
  | .unreadableObjective => "Could not read the objective"
  | .misplacedSection found => "Section " ++ found.description ++ " is not expected here"
  | .missingStart => "Expected the program to start with \"minimize\" or \"maximize\""
  | .contentAfterEnd => "Content found after the end of the program"
  | .missingObjective => "No objective found, expected \"minimize\" or \"maximize\""

structure Location where
  line : Nat
  text : String
deriving DecidableEq

/-- An error of another kind: its text, and the texts of the errors beneath it, the nearest first. -/
structure ForeignError where
  message : String
  causes : List String
deriving DecidableEq

def ForeignError.source? : ForeignError → Option ForeignError
  | ⟨_, []⟩ => none
  | ⟨_, cause :: causes⟩ => some ⟨cause, causes⟩

inductive ParseError where
  | plain (complaint : Complaint) (location : Option Location)
  | foreign (complaint : Complaint) (location : Option Location) (error : ForeignError)
  | nested (complaint : Complaint) (location : Option Location) (cause : ParseError)
deriving DecidableEq

namespace ParseError

def new (complaint : Complaint) : ParseError :=
  .plain complaint none

def ofForeign (complaint : Complaint) (error : ForeignError) : ParseError :=
  .foreign complaint none error

def ofFault (complaint : Complaint) (fault : NumberFault) : ParseError :=
  .ofForeign complaint ⟨fault.message, []⟩

def located (error : ParseError) (location : Location) : ParseError :=
  match error with
  | .plain complaint _ => .plain complaint location
  | .foreign complaint _ error => .foreign complaint location error
  | .nested complaint _ cause => .nested complaint location cause

def wrap (error : ParseError) (complaint : Complaint) : ParseError :=
  .nested complaint none error

def line? : ParseError → Option Nat
  | .plain _ location => location.map Location.line
  | .foreign _ location _ => location.map Location.line
  | .nested _ (some location) _ => some location.line
  | .nested _ none cause => cause.line?

def ownDescriptions (complaint : Complaint) : Option Location → List String
  | none => [complaint.message]
  | some location =>
    [complaint.message, "\tCaused at line\t" ++ toString location.line ++ ":\t" ++ location.text]

def descriptions : ParseError → List String
  | .plain complaint location => ownDescriptions complaint location
  | .foreign complaint location error => ownDescriptions complaint location ++ [error.message]
  | .nested complaint location cause => ownDescriptions complaint location ++ cause.descriptions

def message (error : ParseError) : String :=
  "ParseError: " ++ "\n".intercalate error.descriptions

def causes : ParseError → List String
  | .plain _ _ => []
  | .foreign _ _ error => error.message :: error.causes
  | .nested _ _ cause => cause.message :: cause.causes

inductive Cause where
  | parse (error : ParseError)
  | foreign (error : ForeignError)
deriving DecidableEq

def Cause.message : Cause → String
  | .parse error => error.message
  | .foreign error => error.message

def source? : ParseError → Option Cause
  | .plain _ _ => none
  | .foreign _ _ error => some (.foreign error)
  | .nested _ _ cause => some (.parse cause)

def Cause.source? : Cause → Option Cause
  | .parse error => error.source?
  | .foreign error => error.source?.map .foreign

end ParseError

end LinearProgram
