import LinearProgram.Proofs.Algebraic.Language
import LinearProgram.Proofs.Text.Lines

namespace LinearProgram

def Location.description (location : Location) : String :=
  "\tCaused at line\t" ++ toString location.line ++ ":\t" ++ location.text

namespace ParseError

def complaint : ParseError → Complaint
  | .plain complaint _ | .foreign complaint _ _ | .nested complaint _ _ => complaint

def location? : ParseError → Option Location
  | .plain _ location | .foreign _ location _ | .nested _ location _ => location

variable {error : ParseError} {location : Location}

theorem line?_of_location? (placed : error.location? = some location) :
    error.line? = some location.line := by
  cases error with
  | plain complaint place | foreign complaint place fault =>
    exact congrArg (Option.map Location.line) placed
  | nested complaint place cause =>
    cases placed
    rfl

/-- The line of an error is shown directly behind its complaint. -/
theorem descriptions_of_location? (placed : error.location? = some location) :
    ∃ causes, error.descriptions =
      error.complaint.message :: location.description :: causes := by
  cases error with
  | plain complaint place | foreign complaint place fault | nested complaint place cause =>
    cases placed
    exact ⟨_, rfl⟩

end ParseError

namespace Draft

variable {F : Type} [Scalar F] [Literal F] {draft next : Draft F} {location : Location}
  {tokens : List Token} {error : ParseError}

def Refuses (location : Location) (error : ParseError) : Prop :=
  error.location? = some location ∧ error.complaint ≠ .unreadableObjective

omit [Scalar F] [Literal F] in
theorem refuses_start {heading : Option Heading}
    (failed : draft.start heading location = .error error) : Refuses location error := by
  cases heading with
  | none => cases failed
  | some heading =>
    simp only [start, enter] at failed
    split at failed
    · cases failed
      exact ⟨rfl, Complaint.noConfusion⟩
    · cases heading <;> cases failed

theorem refuses_scan {content : List Char}
    (failed : (Token.scan content).mapError (·.located location) = .error error) :
    Refuses location error := by
  obtain ⟨cause, scanned, rfl⟩ := mapError_eq_error.mp failed
  rw [Token.scan] at scanned
  split at scanned
  · cases scanned
  · cases scanned
    exact ⟨rfl, Complaint.noConfusion⟩

/-- A line that is added to a draft as a comparison fails only as it is read. -/
theorem refuses_readLine {complaint : Complaint} {add : Comparison F → Draft F}
    (other : complaint ≠ .unreadableObjective)
    (failed : (readLine tokens complaint location >>= fun comparison => .ok (add comparison)) =
      .error error) : Refuses location error := by
  rcases bind_eq_error.mp failed with unread | ⟨_, _, done⟩
  · obtain ⟨cause, _, rfl⟩ := mapError_eq_error.mp unread
    exact ⟨rfl, other⟩
  · cases done

theorem refuses_absorb (failed : draft.absorb tokens location = .error error) :
    Refuses location error := by
  unfold absorb at failed
  split at failed
  · cases failed
  · exact refuses_readLine (by decide) failed
  · exact refuses_readLine (by decide) failed
  · cases failed
    exact ⟨rfl, Complaint.noConfusion⟩
  · cases failed
    exact ⟨rfl, Complaint.noConfusion⟩

theorem refuses_addLine (failed : draft.addLine location = .error error) :
    Refuses location error := by
  rw [addLine_eq] at failed
  rcases bind_eq_error.mp failed with unopened | ⟨started, _, rest⟩
  · exact refuses_start unopened
  · rcases bind_eq_error.mp rest with unscanned | ⟨tokens, _, last⟩
    · exact refuses_scan unscanned
    · split at last
      · cases last
      · exact refuses_absorb last

/-- What is left to go wrong after all lines: there was no objective, or it cannot be read. -/
theorem finish_eq_error (failed : draft.finish = .error error) :
    (draft.objective = none ∧ error = .new .missingObjective) ∨
      ∃ sense start tokens, draft.objective = some (sense, start, tokens) ∧
        error.location? = some start ∧ error.complaint = .unreadableObjective := by
  unfold finish at failed
  split at failed
  · rename_i unset
    cases failed
    exact .inl ⟨unset, rfl⟩
  · rename_i sense start tokens set
    rcases bind_eq_error.mp failed with unread | ⟨_, _, done⟩
    · obtain ⟨cause, _, rfl⟩ := mapError_eq_error.mp unread
      exact .inr ⟨sense, start, tokens, set, rfl, rfl⟩
    · cases done

end Draft

def Location.opensObjective (location : Location) : Bool :=
  (location.headed.1.bind Heading.sense?).isSome

namespace Draft

variable {F : Type} [Scalar F] [Literal F] {draft next : Draft F} {location : Location}
  {tokens : List Token} {locations : List Location}

def Starts (locations : List Location) (draft : Draft F) : Prop :=
  locations.filter Location.opensObjective = (draft.objective.map fun started => started.2.1).toList

theorem objective_of_absorb (absorbed : draft.absorb tokens location = .ok next) :
    (next.objective.map fun started => started.2.1) =
      draft.objective.map fun started => started.2.1 := by
  unfold absorb at absorbed
  split at absorbed
  · rename_i set
    cases absorbed
    rw [set]
    rfl
  · obtain ⟨_, _, made⟩ := bind_eq_ok.mp absorbed
    cases made
    rfl
  · obtain ⟨_, _, made⟩ := bind_eq_ok.mp absorbed
    cases made
    rfl
  · cases absorbed
  · cases absorbed

theorem Starts.start (held : draft.Reads (locations.map Location.headed))
    (starts : draft.Starts locations)
    (started : draft.start location.headed.1 location = .ok next) :
    next.Starts (locations ++ [location]) := by
  rw [Starts, List.filter_append]
  cases opened : location.headed.1 with
  | none =>
    rw [opened] at started
    cases started
    have plain : location.opensObjective = false := by rw [Location.opensObjective, opened]; rfl
    rw [List.filter_singleton, plain, starts]
    simp
  | some heading =>
    rw [opened] at started
    have follows := (held.enter_succeeds_iff heading).mp ⟨next, started⟩
    simp only [Draft.start, enter] at started
    split at started
    · cases started
    · cases heading with
      | objective sense =>
        cases started
        have opens : location.opensObjective := by rw [Location.opensObjective, opened]; rfl
        have unset := held.objective_eq_none follows.eq_nil
        rw [starts, unset, List.filter_singleton, opens]
        rfl
      | constraints | bounds | ending =>
        cases started
        have plain : location.opensObjective = false := by rw [Location.opensObjective, opened]; rfl
        rw [List.filter_singleton, plain, starts]
        simp

theorem Starts.addLine (held : draft.Reads (locations.map Location.headed))
    (starts : draft.Starts locations) (added : draft.addLine location = .ok next) :
    next.Starts (locations ++ [location]) := by
  obtain ⟨started, tokens, opened, _, absorbed⟩ := addLine_eq_ok.mp added
  have inside := starts.start held opened
  split at absorbed
  · cases absorbed
    exact inside
  · rw [Starts, objective_of_absorb absorbed]
    exact inside

/-- What has been read of a text, and which of its lines has opened the objective. -/
theorem starts_of_foldlM {locations : List Location}
    (folded : locations.foldlM Draft.addLine {} = .ok draft) : draft.Starts locations := by
  have keeps (before : List Location) (location : Location) (draft next : Draft F)
      (held : draft.Reads (before.map Location.headed) ∧ draft.Starts before)
      (added : draft.addLine location = .ok next) :
      next.Reads ((before ++ [location]).map Location.headed) ∧
        next.Starts (before ++ [location]) :=
    ⟨held.1.next before location draft next added, held.2.addLine held.1 added⟩
  exact (foldlM_reaches _ keeps ⟨Reads.first, rfl⟩ folded).2

end Draft

def Location.ofLine? (line : List Char) (number : Nat) : Option Location :=
  let line := line.takeWhile (· != '#')
  if line.all Text.isBlank then none else some ⟨number, String.ofList line⟩

theorem Location.ofLine?_eq_some {line : List Char} {number : Nat} {location : Location} :
    ofLine? line number = some location ↔ ¬ (line.takeWhile (· != '#')).all Text.isBlank ∧
      location = ⟨number, String.ofList (line.takeWhile (· != '#'))⟩ := by
  by_cases blank : (line.takeWhile (· != '#')).all Text.isBlank
  · simp only [ofLine?, blank, ↓reduceIte, reduceCtorEq, not_true_eq_false, false_and]
  · simp only [ofLine?, blank, ↓reduceIte, Option.some.injEq, not_false_eq_true, true_and, eq_comm,
      Bool.false_eq_true]

def numberedLines (first : Nat) (lines : List (List Char)) : List Location :=
  (lines.zipIdx first).filterMap fun numbered => Location.ofLine? numbered.1 numbered.2

theorem sourceLines_eq (text : String) :
    sourceLines text = numberedLines 1 (Text.splitLines text.toList) := rfl

theorem numberedLines_append (first : Nat) (front rest : List (List Char)) :
    numberedLines first (front ++ rest) =
      numberedLines first front ++ numberedLines (first + front.length) rest := by
  rw [numberedLines, List.zipIdx_append, List.filterMap_append]
  rfl

theorem numberedLines_cons (first : Nat) (line : List Char) (rest : List (List Char)) :
    numberedLines first (line :: rest) =
      (Location.ofLine? line first).toList ++ numberedLines (first + 1) rest := by
  rw [numberedLines, List.zipIdx_cons, List.filterMap_cons]
  cases Location.ofLine? line first <;> rfl

/-- A line that is read stands in the text behind those that are read before it. -/
theorem exists_of_numberedLines {first : Nat} {lines : List (List Char)}
    {before after : List Location} {location : Location}
    (read : numberedLines first lines = before ++ location :: after) :
    ∃ front line rest, lines = front ++ line :: rest ∧ numberedLines first front = before ∧
      Location.ofLine? line (first + front.length) = some location := by
  induction lines generalizing before first with
  | nil => cases before <;> cases read
  | cons line lines ih =>
    rw [numberedLines_cons] at read
    have shift (front : List (List Char)) :
        first + (line :: front).length = first + 1 + front.length := by
      rw [List.length_cons]
      omega
    cases cut : Location.ofLine? line first with
    | none =>
      rw [cut] at read
      obtain ⟨front, found, rest, rfl, rfl, located⟩ := ih read
      refine ⟨line :: front, found, rest, rfl, ?_, shift front ▸ located⟩
      rw [numberedLines_cons, cut]
      rfl
    | some earlier =>
      rw [cut] at read
      cases before with
      | nil =>
        cases read
        exact ⟨[], line, lines, rfl, rfl, cut⟩
      | cons other before =>
        obtain ⟨rfl, others⟩ := List.cons.inj read
        obtain ⟨front, found, rest, rfl, rfl, located⟩ := ih others
        refine ⟨line :: front, found, rest, rfl, ?_, shift front ▸ located⟩
        rw [numberedLines_cons, cut]
        rfl

theorem Problem.read_eq_error {F : Type} [Scalar F] [Literal F] {text : String}
    {error : ParseError} : Problem.read (F := F) text = .error error ↔
      (∃ before location after, ∃ draft : Draft F, sourceLines text = before ++ location :: after ∧
        before.foldlM Draft.addLine {} = .ok draft ∧ draft.addLine location = .error error) ∨
      ∃ draft : Draft F, (sourceLines text).foldlM Draft.addLine {} = .ok draft ∧
        draft.finish = .error error := by
  rw [Problem.read, bind_eq_error, foldlM_eq_error]

/-- Every line passes what is checked of it on its own: its heading comes in order, its content has
tokens only, and a comparison is read as one. -/
def LinesFit (F : Type) [Scalar F] [Literal F] (text : String) : Prop :=
  ∀ entry ∈ withEarlier [] (headedLines text), LineFits F entry.1 entry.2

structure ParseError.PointsAt (error : ParseError) (text : String) (number : Nat)
    (line : List Char) : Prop where
  positive : 0 < number
  found : (Text.splitLines text.toList)[number - 1]? = some line
  filled : ¬ (line.takeWhile (· != '#')).all Text.isBlank
  placed : error.location? = some ⟨number, String.ofList (line.takeWhile (· != '#'))⟩
  shown : ∃ causes, error.descriptions = error.complaint.message ::
    Location.description ⟨number, String.ofList (line.takeWhile (· != '#'))⟩ :: causes

namespace Problem

variable {F : Type} [Scalar F] [Literal F] {text : String} {error : ParseError}

/-- A text that is read, or would be but for what it has or has not as its objective. -/
def ReadsToObjective (F : Type) [Scalar F] [Literal F] (text : String) : Prop :=
  (∃ problem : Problem F, (parse text).outcome = .ok problem) ∨
    ∃ error, (parse text : Traced ParseError (Problem F)).outcome = .error error ∧
      (error.complaint = .unreadableObjective ∨ error = .new .missingObjective)

/-- The first line of a text that goes wrong: nothing behind it matters, and nothing before it goes
wrong. -/
structure FirstFault (F : Type) [Scalar F] [Literal F] (text : String) (error : ParseError)
    (number : Nat) : Prop where
  alike : ∀ other : String,
    (Text.splitLines other.toList).take number = (Text.splitLines text.toList).take number →
      (parse other : Traced ParseError (Problem F)).outcome = .error error
  earlier : ∀ count < number, ∀ part : String,
    Text.splitLines part.toList = Text.splitLines (Text.firstLines count text.toList) →
      ReadsToObjective F part

theorem linesFit_iff : LinesFit F text ↔
    ∃ draft : Draft F, (sourceLines text).foldlM Draft.addLine {} = .ok draft := by
  rw [Draft.foldlM_addLine_succeeds_iff, map_headed_sourceLines, LinesFit]

theorem readsToObjective_of_linesFit (fits : LinesFit F text) : ReadsToObjective F text := by
  obtain ⟨draft, folded⟩ := linesFit_iff.mp fits
  rw [ReadsToObjective, outcome_parse, read, folded]
  cases finished : draft.finish with
  | ok problem => exact .inl ⟨problem, finished⟩
  | error error =>
    refine .inr ⟨error, finished, ?_⟩
    rcases Draft.finish_eq_error finished with ⟨_, missing⟩ | ⟨_, _, _, _, _, unread⟩
    · exact .inr missing
    · exact .inl unread

theorem pointsAt_of_mem {location : Location} (member : location ∈ sourceLines text)
    (placed : error.location? = some location) :
    ∃ line, error.PointsAt text location.line line ∧
      location = ⟨location.line, String.ofList (line.takeWhile (· != '#'))⟩ := by
  obtain ⟨before, after, split⟩ := List.append_of_mem member
  obtain ⟨front, line, rest, lines, _, cut⟩ := exists_of_numberedLines split
  obtain ⟨filled, rfl⟩ := Location.ofLine?_eq_some.mp cut
  have place : 1 + front.length - 1 = front.length := by omega
  refine ⟨line, ⟨Nat.add_pos_left (by decide) _, ?_, filled, placed,
    ParseError.descriptions_of_location? placed⟩, rfl⟩
  rw [lines, place, List.getElem?_append_right (Nat.le_refl _), Nat.sub_self]
  rfl

theorem firstFault_of_addLine {before after : List Location} {location : Location} {draft : Draft F}
    (split : sourceLines text = before ++ location :: after)
    (ran : before.foldlM Draft.addLine {} = .ok draft)
    (failed : draft.addLine location = .error error) : FirstFault F text error location.line := by
  obtain ⟨front, line, rest, lines, rfl, cut⟩ := exists_of_numberedLines split
  have number : location.line = front.length + 1 := by
    rw [(Location.ofLine?_eq_some.mp cut).2]
    exact Nat.add_comm _ _
  constructor
  · intro other same
    obtain ⟨more, cutOther⟩ : ∃ more, Text.splitLines other.toList = front ++ line :: more := by
      have whole := List.take_append_drop location.line (Text.splitLines other.toList)
      rw [same, lines, number, List.take_length_add_append, List.append_assoc] at whole
      exact ⟨_, whole.symm⟩
    have locations : sourceLines other =
        numberedLines 1 front ++ location :: numberedLines (1 + front.length + 1) more := by
      rw [sourceLines_eq, cutOther, numberedLines_append, numberedLines_cons, cut]
      rfl
    rw [outcome_parse]
    exact read_eq_error.mpr (.inl ⟨_, location, _, draft, locations, ran, failed⟩)
  · intro count early part same
    have inside : count ≤ front.length := by omega
    have prefixed : Text.splitLines part.toList = front.take count := by
      rw [same, Text.splitLines_firstLines, lines, List.take_append_of_le_length inside]
    have cutFront := numberedLines_append 1 (front.take count) (front.drop count)
    rw [List.take_append_drop, ← prefixed, ← sourceLines_eq] at cutFront
    rw [cutFront, List.foldlM_append] at ran
    obtain ⟨earlier, folded, _⟩ := bind_eq_ok.mp ran
    exact readsToObjective_of_linesFit (linesFit_iff.mpr ⟨earlier, folded⟩)

/-- An error of a text shows the line that it is about. A line that goes wrong by itself is the
first that does, and settles the error together with the lines before it. Otherwise it is the
objective that cannot be read, of which there is only one, or there is none. -/
theorem parse_error_placed
    (failed : (parse text : Traced ParseError (Problem F)).outcome = .error error) :
    (∀ number, error.line? = some number → ∃ line, error.PointsAt text number line ∧
      (error.complaint ≠ .unreadableObjective → FirstFault F text error number) ∧
      (error.complaint = .unreadableObjective → LinesFit F text ∧
        (sourceLines text).filter Location.opensObjective =
          [⟨number, String.ofList (line.takeWhile (· != '#'))⟩])) ∧
    (error.line? = none ↔
      LinesFit F text ∧ ∀ location ∈ sourceLines text, ¬ location.opensObjective) := by
  rw [outcome_parse, read_eq_error] at failed
  rcases failed with
    ⟨before, location, after, draft, split, ran, refused⟩ | ⟨draft, folded, unfinished⟩
  · obtain ⟨placed, other⟩ := Draft.refuses_addLine refused
    have number := ParseError.line?_of_location? placed
    have member : location ∈ sourceLines text := by
      rw [split]
      exact List.mem_append_right _ List.mem_cons_self
    have unfit : ¬ LinesFit F text := by
      intro fits
      obtain ⟨final, folded⟩ := linesFit_iff.mp fits
      have failed := foldlM_eq_error.mpr ⟨before, location, after, draft, split, ran, refused⟩
      rw [folded] at failed
      cases failed
    rw [number]
    refine ⟨?_, by simp [unfit]⟩
    rintro n ⟨⟩
    obtain ⟨line, points, _⟩ := pointsAt_of_mem member placed
    exact ⟨line, points, fun _ => firstFault_of_addLine split ran refused,
      fun objective => absurd objective other⟩
  · have fits : LinesFit F text := linesFit_iff.mpr ⟨draft, folded⟩
    have starts := Draft.starts_of_foldlM folded
    rcases Draft.finish_eq_error unfinished with
      ⟨unset, rfl⟩ | ⟨sense, start, tokens, set, placed, objective⟩
    · rw [Draft.Starts, unset] at starts
      refine ⟨by rintro n ⟨⟩, fun _ => ⟨fits, ?_⟩, fun _ => rfl⟩
      exact List.filter_eq_nil_iff.mp starts
    · rw [Draft.Starts, set] at starts
      have only : (sourceLines text).filter Location.opensObjective = [start] := starts
      have member : start ∈ (sourceLines text).filter Location.opensObjective := by
        rw [only]
        exact List.mem_singleton_self _
      obtain ⟨inside, opens⟩ := List.mem_filter.mp member
      have number := ParseError.line?_of_location? placed
      rw [number]
      constructor
      · rintro n ⟨⟩
        obtain ⟨line, points, same⟩ := pointsAt_of_mem inside placed
        exact ⟨line, points, fun other => absurd objective other, fun _ => ⟨fits, same ▸ only⟩⟩
      · constructor
        · intro impossible
          cases impossible
        · intro none
          exact absurd opens (none.2 start inside)

def flippedText : String :=
  "# cost\r\n\nmax x + y # per day\r\nst\n  x <= 1\n\t0 <= y # at least\n\nst x\n"

def flippedError : ParseError :=
  ((ParseError.new .valueBeforeExpression).wrap .unreadableConstraint).located ⟨6, "\t0 <= y "⟩

theorem flipped_placed :
    (parse flippedText : Traced ParseError (Problem Rat)).outcome = .error flippedError ∧
      ∃ line, flippedError.PointsAt flippedText 6 line ∧
        FirstFault Rat flippedText flippedError 6 := by
  have failed :
      (parse flippedText : Traced ParseError (Problem Rat)).outcome = .error flippedError := by
    decide +kernel
  obtain ⟨line, points, first, _⟩ := (parse_error_placed failed).1 6 rfl
  exact ⟨failed, line, points, first (by decide)⟩

end Problem

end LinearProgram
