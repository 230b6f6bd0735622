import LinearProgram.Proofs.Guarded.Comparison
import LinearProgram.Proofs.Guarded.Layout
import LinearProgram.Proofs.Guarded.Lexing
import LinearProgram.Proofs.Guarded.Number

namespace LinearProgram

section Definitions

variable {F : Type} [Scalar F] (number : String → Guarded ParseError F)

namespace Draft

def readLineGuarded (tokens : List Token) (complaint : Complaint) (location : Location) :
    Guarded ParseError (Comparison F) :=
  (Comparison.readGuarded number tokens).explain fun error =>
    (error.wrap complaint).located location

def absorbGuarded (draft : Draft F) (tokens : List Token) (location : Location) :
    Guarded ParseError (Draft F) :=
  match draft.reached, draft.objective with
  | some .objective, some (sense, start, before) =>
    .ok { draft with objective := some (sense, start, before ++ tokens) }
  | some .constraints, _ => do
    let constraint ← readLineGuarded number tokens .unreadableConstraint location
    .ok { draft with constraints := draft.constraints.push constraint }
  | some .bounds, _ => do
    let bound ← readLineGuarded number tokens .unreadableBound location
    .ok { draft with bounds := draft.bounds.push bound }
  | some .ending, _ => Guarded.fail ((ParseError.new .contentAfterEnd).located location)
  | _, _ => Guarded.fail ((ParseError.new .missingStart).located location)

def addLineGuarded (draft : Draft F) (location : Location) : Guarded ParseError (Draft F) := do
  let line ← Heading.splitGuarded location.text.toList
  let entered ← match line.1 with
    | some heading => Guarded.sound (draft.enter heading location)
    | none => .ok draft
  let tokens ← (Token.scanGuarded line.2).explain (·.located location)
  if tokens = [] then .ok entered else absorbGuarded number entered tokens location

def finishGuarded (draft : Draft F) : Guarded ParseError (Problem F) :=
  match draft.objective with
  | none => Guarded.fail (.new .missingObjective)
  | some (sense, start, tokens) => do
    let objective ← (Expression.readGuarded number tokens).explain fun error =>
      (error.wrap .unreadableObjective).located start
    .ok ⟨sense, objective, draft.constraints.toList, draft.bounds.toList⟩

end Draft

def Problem.readGuarded (text : String) : Guarded ParseError (Problem F) := do
  let lines ← sourceLinesGuarded text
  let draft ← lines.foldlM (Draft.addLineGuarded number) ({} : Draft F)
  draft.finishGuarded number

end Definitions

variable {F : Type} [Scalar F] [Literal F] {number : String → Guarded ParseError F}
  (reads : ∀ text, number text = Guarded.sound (Literal.read text))

include reads

namespace Draft

theorem readLineGuarded_eq (tokens : List Token) (complaint : Complaint) (location : Location) :
    readLineGuarded number tokens complaint location =
      Guarded.sound (readLine tokens complaint location) := by
  rw [readLineGuarded, Comparison.readGuarded_eq reads, Guarded.explain_sound, readLine]

theorem absorbGuarded_eq (draft : Draft F) (tokens : List Token) (location : Location) :
    absorbGuarded number draft tokens location =
      Guarded.sound (draft.absorb tokens location) := by
  obtain ⟨reached, objective, constraints, bounds⟩ := draft
  cases reached with
  | none => rfl
  | some place =>
    cases place with
    | objective => cases objective <;> rfl
    | constraints | bounds =>
      simp only [absorbGuarded, absorb, readLineGuarded_eq reads]
      exact Guarded.sound_bind fun _ _ => rfl
    | ending => rfl

theorem addLineGuarded_eq (draft : Draft F) (location : Location) :
    addLineGuarded number draft location = Guarded.sound (draft.addLine location) := by
  rw [addLineGuarded, Heading.splitGuarded_eq, Guarded.ok_bind, addLine]
  generalize Heading.split location.text.toList = line
  obtain ⟨heading, content⟩ := line
  have scanned (entered : Draft F) :
      ((Token.scanGuarded content).explain (·.located location) >>= fun tokens =>
        if tokens = [] then .ok entered else absorbGuarded number entered tokens location) =
      Guarded.sound ((Token.scan content).mapError (·.located location) >>= fun tokens =>
        if tokens = [] then .ok entered else entered.absorb tokens location) := by
    rw [Token.scanGuarded_eq, Guarded.explain_sound]
    apply Guarded.sound_bind
    intro tokens _
    split
    · rfl
    · exact absorbGuarded_eq reads entered tokens location
  cases heading with
  | none => exact scanned draft
  | some heading => exact Guarded.sound_bind fun entered _ => scanned entered

theorem finishGuarded_eq (draft : Draft F) :
    finishGuarded number draft = Guarded.sound draft.finish := by
  rw [finishGuarded, finish]
  cases draft.objective with
  | none => rfl
  | some objective =>
    simp only [Expression.readGuarded_eq reads, Guarded.explain_sound]
    exact Guarded.sound_bind fun _ _ => rfl

end Draft

theorem Problem.readGuarded_eq (text : String) :
    Problem.readGuarded number text = Guarded.sound (Problem.read text) := by
  rw [readGuarded, sourceLinesGuarded_eq, Guarded.ok_bind, read,
    Guarded.sound_foldlM (Draft.addLineGuarded_eq reads)]
  exact Guarded.sound_bind fun draft _ => Draft.finishGuarded_eq reads draft

end LinearProgram
