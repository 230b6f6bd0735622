import LinearProgram.Algebraic.Program
import LinearProgram.Proofs.Guarded.Text

namespace LinearProgram

variable {ε : Type}

def Text.firstWordGuarded (text : List Char) : Guarded ε (List Char × List Char) :=
  Text.cutAt Text.isBlank (Text.dropBlanks text)

theorem Text.firstWordGuarded_eq (text : List Char) :
    (Text.firstWordGuarded text : Guarded ε (List Char × List Char)) = .ok (Text.firstWord text) :=
  Text.cutAt_eq_span Text.isBlank (Text.dropBlanks text)

namespace Heading

def afterWordsGuarded? : List String → List Char → Guarded ε (Option (List Char))
  | [], line => .ok (some line)
  | [last], line => do
    let word ← Text.firstWordGuarded line
    .ok (if lowered (trimColons word.1) = last then some word.2 else none)
  | expected :: words, line => do
    let word ← Text.firstWordGuarded line
    if lowered word.1 = expected then afterWordsGuarded? words word.2 else .ok none

def splitGuarded (line : List Char) : Guarded ε (Option Heading × List Char) := do
  let word ← Text.firstWordGuarded line
  match keywords.lookup (lowered (trimColons word.1)) with
  | some .ending => .ok (some .ending, word.2)
  | some heading => .ok (some heading, afterColon word.2)
  | none =>
    match ← constraintWords.findSomeM? (afterWordsGuarded? · line) with
    | some rest => .ok (some .constraints, afterColon rest)
    | none => .ok (none, line)

theorem afterWordsGuarded?_eq (words : List String) (line : List Char) :
    (afterWordsGuarded? words line : Guarded ε (Option (List Char))) =
      .ok (afterWords? words line) := by
  induction words generalizing line with
  | nil => rfl
  | cons word words ih =>
    cases words with
    | nil => rw [afterWordsGuarded?, Text.firstWordGuarded_eq, Guarded.ok_bind, afterWords?]
    | cons next words =>
      rw [afterWordsGuarded?, Text.firstWordGuarded_eq, Guarded.ok_bind, afterWords?, ih]
      · simp only
        split <;> rfl
      · simp
      · simp

theorem splitGuarded_eq (line : List Char) :
    (splitGuarded line : Guarded ε (Option Heading × List Char)) = .ok (split line) := by
  unfold splitGuarded split
  rw [Text.firstWordGuarded_eq]
  simp only [Guarded.ok_bind, Guarded.findSomeM?_ok fun words => afterWordsGuarded?_eq words line]
  cases keywords.lookup (lowered (trimColons (Text.firstWord line).1)) with
  | none => cases constraintWords.findSome? (afterWords? · line) <;> rfl
  | some heading => cases heading <;> rfl

end Heading

def Text.uncommentGuarded (line : List Char) : Guarded ε (List Char) :=
  match Text.findByte (· == '#') line with
  | some place => Text.before place line
  | none => .ok line

def sourceLinesGuarded (text : String) : Guarded ε (List Location) := do
  let lines ← ((Text.splitLines text.toList).zipIdx 1).mapM fun numbered => do
    let line ← Text.uncommentGuarded numbered.1
    .ok (numbered.2, line)
  .ok ((lines.filter fun numbered => !numbered.2.all Text.isBlank).map fun numbered =>
    ⟨numbered.1, String.ofList numbered.2⟩)

theorem Text.uncommentGuarded_eq (line : List Char) :
    (Text.uncommentGuarded line : Guarded ε (List Char)) = .ok (line.takeWhile (· != '#')) := by
  have front := Text.before_append (ε := ε) (line.takeWhile (· != '#')) (line.dropWhile (· != '#'))
  rw [List.takeWhile_append_dropWhile] at front
  unfold uncommentGuarded
  rw [Text.findByte_eq]
  split
  · rename_i place found
    split at found
    · cases found
      exact front
    · cases found
  · rename_i nowhere
    split at nowhere
    · cases nowhere
    · rename_i none
      exact congrArg Except.ok (Text.takeWhile_eq_self_of_not_any none).symm

theorem sourceLinesGuarded_eq (text : String) :
    (sourceLinesGuarded text : Guarded ε (List Location)) = .ok (sourceLines text) := by
  unfold sourceLinesGuarded sourceLines
  simp only [Text.uncommentGuarded_eq, Guarded.ok_bind]
  rw [Guarded.mapM_ok fun _ _ => rfl, Guarded.ok_bind]
  generalize (Text.splitLines text.toList).zipIdx 1 = lines
  congr 1
  induction lines with
  | nil => rfl
  | cons line lines ih =>
    rw [List.map_cons, List.filter_cons, List.filterMap_cons, ← ih]
    cases (line.1.takeWhile (· != '#')).all Text.isBlank <;> rfl

end LinearProgram
