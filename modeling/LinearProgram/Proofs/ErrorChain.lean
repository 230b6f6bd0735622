import LinearProgram.File.Exchange
import Mathlib.Data.List.Basic

namespace LinearProgram.ParseError

/-- Whether a list is what one meets by going on from an error to the one beneath it. -/
def Visits : Option Cause → List Cause → Prop
  | first?, [] => first? = none
  | first?, cause :: causes => first? = some cause ∧ Visits cause.source? causes

def foreignErrors : List String → List ForeignError
  | [] => []
  | message :: causes => ⟨message, causes⟩ :: foreignErrors causes

def visited : ParseError → List Cause
  | .plain _ _ => []
  | .foreign _ _ error => (foreignErrors (error.message :: error.causes)).map .foreign
  | .nested _ _ cause => .parse cause :: cause.visited

structure Origin where
  complaint : Complaint
  foreign? : Option ForeignError
deriving DecidableEq

def Origin.error : Origin → ParseError
  | ⟨complaint, none⟩ => .new complaint
  | ⟨complaint, some error⟩ => .ofForeign complaint error

inductive Step where
  | wrap (complaint : Complaint)
  | locate (location : Location)
deriving DecidableEq

namespace Step

def apply (error : ParseError) : Step → ParseError
  | .wrap complaint => error.wrap complaint
  | .locate location => error.located location

def location? : Step → Option Location
  | .wrap _ => none
  | .locate location => some location

end Step

def wraps (steps : List Step) : Nat :=
  steps.countP fun step => step.location?.isNone

def build (origin : Origin) (steps : List Step) : ParseError :=
  steps.foldl Step.apply origin.error

structure Level where
  complaint : Complaint
  attached : List Location
deriving DecidableEq

def levelsFrom (level : Level) : List Step → List Level
  | [] => [level]
  | .locate location :: steps =>
    levelsFrom { level with attached := level.attached ++ [location] } steps
  | .wrap complaint :: steps => level :: levelsFrom ⟨complaint, []⟩ steps

def levels (origin : Origin) (steps : List Step) : List Level :=
  (levelsFrom ⟨origin.complaint, []⟩ steps).reverse

def Level.lines (level : Level) : List String :=
  level.complaint.message :: level.attached.getLast?.toList.map fun location =>
    "\tCaused at line\t" ++ toString location.line ++ ":\t" ++ location.text

def chainLines (levels : List Level) (foreign? : Option ForeignError) : List String :=
  levels.flatMap Level.lines ++ foreign?.toList.map ForeignError.message

def Level.error (level : Level) : Option Cause → ParseError
  | none => .plain level.complaint level.attached.getLast?
  | some (.foreign error) => .foreign level.complaint level.attached.getLast? error
  | some (.parse cause) => .nested level.complaint level.attached.getLast? cause

def Cause.line? : Cause → Option Nat
  | .parse error => error.line?
  | .foreign _ => none

def Cause.lines : Cause → List String
  | .parse error => error.descriptions
  | .foreign error => [error.message]

theorem Origin.error_eq (origin : Origin) :
    origin.error = (⟨origin.complaint, []⟩ : Level).error (origin.foreign?.map .foreign) := by
  rcases origin with ⟨complaint, _ | error⟩ <;> rfl

section Level

variable (level : Level) (cause? : Option Cause)

theorem located_error (location : Location) : (level.error cause?).located location =
    { level with attached := level.attached ++ [location] }.error cause? := by
  rcases cause? with _ | error | error <;> simp [Level.error, located]

theorem wrap_error (complaint : Complaint) : (level.error cause?).wrap complaint =
    (⟨complaint, []⟩ : Level).error (some (.parse (level.error cause?))) := rfl

theorem line?_error : (level.error cause?).line? =
    (level.attached.getLast?.map Location.line).or (cause?.bind Cause.line?) := by
  unfold Level.error
  rcases cause? with _ | error | error <;> cases level.attached.getLast? <;>
    simp [line?, Cause.line?]

theorem ownDescriptions_eq_lines :
    ownDescriptions level.complaint level.attached.getLast? = level.lines := by
  unfold Level.lines
  cases level.attached.getLast? <;> rfl

theorem descriptions_error :
    (level.error cause?).descriptions = level.lines ++ cause?.toList.flatMap Cause.lines := by
  rcases cause? with _ | error | error <;>
    simp [Level.error, descriptions, Cause.lines, ownDescriptions_eq_lines]

end Level

section Runs

theorem line?_foldl_apply (steps : List Step) (level : Level) (cause? : Option Cause) :
    (steps.foldl Step.apply (level.error cause?)).line? =
      (((level.attached ++ steps.filterMap Step.location?).getLast?).map Location.line).or
        (cause?.bind Cause.line?) := by
  induction steps generalizing level cause? with
  | nil => simp [line?_error]
  | cons step steps ih =>
    cases step with
    | locate location =>
      rw [List.foldl_cons, Step.apply, located_error, ih]
      simp [Step.location?]
    | wrap complaint =>
      -- The line of the level that is wrapped counts as long as the new one has none.
      rw [List.foldl_cons, Step.apply, wrap_error, ih]
      simp [Step.location?, Cause.line?, line?_error, List.getLast?_append, Option.map_or,
        Option.or_assoc]

theorem descriptions_foldl_apply (steps : List Step) (level : Level) (cause? : Option Cause) :
    (steps.foldl Step.apply (level.error cause?)).descriptions =
      (levelsFrom level steps).reverse.flatMap Level.lines ++
        cause?.toList.flatMap Cause.lines := by
  induction steps generalizing level cause? with
  | nil => simp [levelsFrom, descriptions_error]
  | cons step steps ih =>
    cases step with
    | locate location =>
      rw [List.foldl_cons, Step.apply, located_error, ih, levelsFrom]
    | wrap complaint =>
      rw [List.foldl_cons, Step.apply, wrap_error, ih, levelsFrom]
      simp [Cause.lines, descriptions_error]

theorem visited_located (error : ParseError) (location : Location) :
    (error.located location).visited = error.visited := by
  cases error <;> rfl

theorem length_visited_foldl_apply (steps : List Step) (error : ParseError) :
    (steps.foldl Step.apply error).visited.length = wraps steps + error.visited.length := by
  induction steps generalizing error with
  | nil => simp [wraps]
  | cons step steps ih =>
    rw [List.foldl_cons, ih]
    cases step with
    | locate location => rw [Step.apply, visited_located]; rfl
    | wrap complaint =>
      simp only [wraps, Step.apply, wrap, visited, List.length_cons, List.countP_cons,
        Step.location?, Option.isNone_none, if_true]
      omega

/-- What is visited behind the errors of further wraps is what was visited before them. -/
theorem drop_visited_foldl_apply (steps : List Step) (error : ParseError) :
    (steps.foldl Step.apply error).visited.drop (wraps steps) = error.visited := by
  induction steps generalizing error with
  | nil => rfl
  | cons step steps ih =>
    rw [List.foldl_cons]
    cases step with
    | locate location =>
      rw [← visited_located error location]
      exact ih _
    | wrap complaint =>
      have further : wraps (.wrap complaint :: steps) = wraps steps + 1 := by
        simp [wraps, Step.location?]
      rw [further, ← List.drop_drop, ih]
      rfl

end Runs

theorem levelsFrom_append (level : Level) (before after : List Step) (complaint : Complaint) :
    levelsFrom level (before ++ .wrap complaint :: after) =
      levelsFrom level before ++ levelsFrom ⟨complaint, []⟩ after := by
  induction before generalizing level with
  | nil => rfl
  | cons step before ih =>
    cases step with
    | locate location => exact ih _
    | wrap other => exact congrArg (level :: ·) (ih _)

theorem length_levelsFrom (level : Level) (steps : List Step) :
    (levelsFrom level steps).length = wraps steps + 1 := by
  induction steps generalizing level with
  | nil => rfl
  | cons step steps ih =>
    cases step with
    | locate location => exact ih _
    | wrap complaint => simp [levelsFrom, ih, wraps, Step.location?]

theorem drop_levels (origin : Origin) (before after : List Step) (complaint : Complaint) :
    (levels origin (before ++ .wrap complaint :: after)).drop (wraps after + 1) =
      levels origin before := by
  rw [levels, levelsFrom_append, List.reverse_append, ← length_levelsFrom ⟨complaint, []⟩ after,
    ← List.length_reverse, List.drop_left]
  rfl

theorem visits_foreignErrors (message : String) (causes : List String) :
    Visits (some (.foreign ⟨message, causes⟩))
      ((foreignErrors (message :: causes)).map .foreign) := by
  induction causes generalizing message with
  | nil => exact ⟨rfl, rfl⟩
  | cons cause causes ih => exact ⟨rfl, ih cause⟩

theorem visits_visited (error : ParseError) : Visits error.source? error.visited := by
  induction error with
  | plain complaint location => rfl
  | foreign complaint location error => exact visits_foreignErrors error.message error.causes
  | nested complaint location inner ih => exact ⟨rfl, ih⟩

theorem map_message_foreignErrors (texts : List String) :
    (foreignErrors texts).map ForeignError.message = texts := by
  induction texts with
  | nil => rfl
  | cons message causes ih => exact congrArg (message :: ·) ih

theorem causes_eq_map_visited (error : ParseError) :
    error.causes = error.visited.map Cause.message := by
  induction error with
  | plain complaint location => rfl
  | foreign complaint location error =>
    rw [visited, List.map_map]
    exact (map_message_foreignErrors (error.message :: error.causes)).symm
  | nested complaint location inner ih => exact congrArg (inner.message :: ·) ih

theorem descriptions_build (origin : Origin) (steps : List Step) :
    (build origin steps).descriptions = chainLines (levels origin steps) origin.foreign? := by
  rw [build, origin.error_eq, descriptions_foldl_apply, chainLines, levels]
  cases origin.foreign? <;> rfl

theorem line?_build (origin : Origin) (steps : List Step) :
    (build origin steps).line? = (steps.filterMap Step.location?).getLast?.map Location.line := by
  rw [build, origin.error_eq, line?_foldl_apply]
  cases origin.foreign? <;> simp [Cause.line?]

theorem causes_origin (origin : Origin) : origin.error.causes =
    origin.foreign?.toList.flatMap fun error => error.message :: error.causes := by
  rcases origin with ⟨complaint, _ | error⟩
  · rfl
  · exact (List.append_nil _).symm

theorem drop_visited_build (origin : Origin) (steps : List Step) :
    (build origin steps).visited.drop (wraps steps) = origin.error.visited :=
  drop_visited_foldl_apply steps origin.error

theorem visited_of_wrap (origin : Origin) (before after : List Step) (complaint : Complaint) :
    (build origin (before ++ .wrap complaint :: after)).visited[wraps after]? =
      some (.parse (build origin before)) := by
  have behind := drop_visited_foldl_apply after ((build origin before).wrap complaint)
  rw [build, List.foldl_append, ← List.head?_drop]
  exact congrArg List.head? behind

structure TellsOf (error : ParseError) (origin : Origin) (steps : List Step) : Prop where
  line : error.line? = (steps.filterMap Step.location?).getLast?.map Location.line
  text : error.message =
    "ParseError: " ++ "\n".intercalate (chainLines (levels origin steps) origin.foreign?)
  visits : Visits error.source? error.visited
  wrapped : ∀ before complaint after, steps = before ++ .wrap complaint :: after →
    error.visited[wraps after]? = some (.parse (build origin before))
  rest : ∀ before complaint after, steps = before ++ .wrap complaint :: after →
    (build origin before).message = "ParseError: " ++ "\n".intercalate
      (chainLines ((levels origin steps).drop (wraps after + 1)) origin.foreign?)
  behind : Visits (origin.foreign?.map .foreign) (error.visited.drop (wraps steps))
  behindTexts : (error.visited.drop (wraps steps)).map Cause.message =
    origin.foreign?.toList.flatMap fun error => error.message :: error.causes
  count : error.visited.length =
    wraps steps + (origin.foreign?.map fun error => error.causes.length + 1).getD 0
  shown : error.causes = error.visited.map Cause.message

/-- An error names the line that was attached to it last, and it tells its levels from the outermost
to the innermost. On the way down from it one meets each error that was wrapped, from the last one
to the first, and then the error of another kind with all that is beneath it; each wrapped error
shows the text from its own level on. -/
theorem build_tells (origin : Origin) (steps : List Step) :
    (build origin steps).TellsOf origin steps ∧
      ∀ description, (Complaint.note description).message = description := by
  refine ⟨?_, fun _ => rfl⟩
  constructor
  case line => exact line?_build origin steps
  case text => rw [message, descriptions_build]
  case visits => exact visits_visited _
  case wrapped =>
    rintro before complaint after rfl
    exact visited_of_wrap origin before after complaint
  case rest =>
    rintro before complaint after rfl
    rw [message, descriptions_build, drop_levels]
  case behind =>
    have started : origin.error.source? = origin.foreign?.map .foreign := by
      rcases origin with ⟨complaint, _ | error⟩ <;> rfl
    rw [drop_visited_build, ← started]
    exact visits_visited _
  case behindTexts => rw [drop_visited_build, ← causes_eq_map_visited, causes_origin]
  case count =>
    have texts := congrArg List.length (causes_eq_map_visited origin.error)
    rw [List.length_map, causes_origin] at texts
    rw [build, length_visited_foldl_apply, ← texts]
    cases origin.foreign? <;> simp
  case shown => exact causes_eq_map_visited _

/-- Without any wrap one meets more than the error of another kind if that has a cause of its own,
as errors of storage do; and the text of a wrapped error is not the end of the whole text, since
each of them starts with the same words. -/
theorem storage_cause_visited :
    let missing := FileError.storage .notFound
    let imported := build ⟨.note "Could not read model", some ⟨missing.message, missing.causes⟩⟩ []
    let unread := build ⟨.note "Expected a value", none⟩ [.wrap (.note "Could not read bound")]
    (wraps [] = 0 ∧ imported.visited.length = 2 ∧
      imported.source? = some (.foreign ⟨missing.message, missing.causes⟩) ∧
      (imported.source?.bind Cause.source?) =
        some (.foreign ⟨"No such file or directory (os error 2)", []⟩)) ∧
    ∃ inner, unread.source? = some inner ∧ inner.message = "ParseError: Expected a value" ∧
      ¬ inner.message.toList <:+ unread.message.toList := by
  refine ⟨⟨rfl, rfl, rfl, rfl⟩, .parse (.new (.note "Expected a value")), rfl, ?_, ?_⟩
  · decide +kernel
  · decide +kernel

example : (build ⟨.missingValue, some ⟨"invalid float literal", []⟩⟩ [.locate ⟨3, "x >= y"⟩,
    .wrap .unreadableBound, .wrap .unreadableRight, .locate ⟨4, "x"⟩, .locate ⟨5, "y"⟩]).causes =
      ["ParseError: Could not read bound\nExpected a value\n\tCaused at line\t3:\tx >= y\n" ++
          "invalid float literal",
        "ParseError: Expected a value\n\tCaused at line\t3:\tx >= y\ninvalid float literal",
        "invalid float literal"] := by
  decide +kernel

end LinearProgram.ParseError
