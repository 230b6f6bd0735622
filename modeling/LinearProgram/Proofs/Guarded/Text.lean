import LinearProgram.Proofs.Guarded.Outcome
import LinearProgram.Text.Basic
import Mathlib.Data.List.TakeDrop
import Mathlib.Data.List.TakeWhile

namespace LinearProgram.Text

def byteLength : List Char → Nat
  | [] => 0
  | c :: text => c.utf8Size + byteLength text

/-- Cuts a text at a byte, which has to be the first of a character or to follow the last. -/
def splitAtByte : Nat → List Char → Option (List Char × List Char)
  | 0, text => some ([], text)
  | _ + 1, [] => none
  | place + 1, c :: text =>
    if c.utf8Size ≤ place + 1 then
      (splitAtByte (place + 1 - c.utf8Size) text).map fun cut => (c :: cut.1, cut.2)
    else none

def findByte (p : Char → Bool) : List Char → Option Nat
  | [] => none
  | c :: text => if p c then some 0 else (findByte p text).map (c.utf8Size + ·)

theorem splitAtByte_append (front back : List Char) :
    splitAtByte (byteLength front) (front ++ back) = some (front, back) := by
  induction front with
  | nil => cases back <;> rfl
  | cons c front ih =>
    -- A character has at least one byte, so that the cut behind it is not at the start.
    obtain ⟨place, size⟩ := Nat.exists_eq_add_one_of_ne_zero
      (Nat.add_pos_left c.utf8Size_pos (byteLength front)).ne'
    have within : c.utf8Size ≤ place + 1 := by omega
    have remaining : place + 1 - c.utf8Size = byteLength front := by omega
    rw [byteLength, size, List.cons_append, splitAtByte, if_pos within, remaining, ih]
    rfl

theorem byteLength_append (front back : List Char) :
    byteLength (front ++ back) = byteLength front + byteLength back := by
  induction front with
  | nil => simp [byteLength]
  | cons c front ih => rw [List.cons_append, byteLength, ih, byteLength, Nat.add_assoc]

theorem takeWhile_eq_self_of_not_any {p : Char → Bool} {text : List Char} (none : ¬ text.any p) :
    (text.takeWhile fun c => !p c) = text := by
  rw [List.takeWhile_eq_self_iff]
  intro c member
  rw [Bool.not_eq_true']
  by_contra found
  exact none (List.any_eq_true.mpr ⟨c, member, by simpa using found⟩)

theorem findByte_eq (p : Char → Bool) (text : List Char) :
    findByte p text =
      if text.any p then some (byteLength (text.takeWhile fun c => !p c)) else none := by
  induction text with
  | nil => rfl
  | cons c text ih =>
    rw [findByte, ih, List.any_cons, List.takeWhile_cons]
    cases p c <;> cases text.any p <;> rfl

def runEnd (p : Char → Bool) (text : List Char) : Nat :=
  (findByte (fun c => !p c) text).getD (byteLength text)

theorem runEnd_eq (p : Char → Bool) (text : List Char) :
    runEnd p text = byteLength (text.takeWhile p) := by
  have run : (text.takeWhile fun c => !!p c) = text.takeWhile p := by simp
  rw [runEnd, findByte_eq, run]
  split
  · rfl
  · rename_i none
    rw [← run, takeWhile_eq_self_of_not_any none]
    rfl

/-- The first character with a property is where the longest run without it ends. -/
theorem findByte_eq_span (p : Char → Bool) (text : List Char) :
    findByte p text = match text.span fun c => !p c with
      | (_, []) => none
      | (front, _ :: _) => some (byteLength front) := by
  rw [findByte_eq, List.span_eq_takeWhile_dropWhile]
  cases rest : text.dropWhile fun c => !p c with
  | nil =>
    have none : ¬ text.any p := by
      rw [List.dropWhile_eq_nil_iff] at rest
      simpa using rest
    rw [if_neg none]
  | cons c back =>
    have found : text.any p := by
      by_contra none
      have whole := List.takeWhile_append_dropWhile (p := fun c => !p c) (l := text)
      rw [takeWhile_eq_self_of_not_any none, List.append_right_eq_self] at whole
      rw [whole] at rest
      cases rest
    rw [if_pos found]

variable {ε : Type}

def before (place : Nat) (text : List Char) : Guarded ε (List Char) :=
  Guarded.demand ((splitAtByte place text).map Prod.fst) .slice

def behind (place : Nat) (text : List Char) : Guarded ε (List Char) :=
  Guarded.demand ((splitAtByte place text).map Prod.snd) .slice

theorem before_append (front back : List Char) :
    (before (byteLength front) (front ++ back) : Guarded ε (List Char)) = .ok front := by
  rw [before, splitAtByte_append]
  rfl

theorem behind_append (front back : List Char) :
    (behind (byteLength front) (front ++ back) : Guarded ε (List Char)) = .ok back := by
  rw [behind, splitAtByte_append]
  rfl

theorem before_runEnd (p : Char → Bool) (text : List Char) :
    (before (runEnd p text) text : Guarded ε (List Char)) = .ok (text.takeWhile p) := by
  have cut := before_append (ε := ε) (text.takeWhile p) (text.dropWhile p)
  rwa [List.takeWhile_append_dropWhile, ← runEnd_eq] at cut

def cutAt (p : Char → Bool) (text : List Char) : Guarded ε (List Char × List Char) :=
  match findByte p text with
  | some place => do
    let front ← before place text
    let back ← behind place text
    .ok (front, back)
  | none => .ok (text, [])

theorem cutAt_eq_span (p : Char → Bool) (text : List Char) :
    (cutAt p text : Guarded ε (List Char × List Char)) = .ok (text.span fun c => !p c) := by
  have whole := List.takeWhile_append_dropWhile (p := fun c => !p c) (l := text)
  rw [cutAt, findByte_eq_span, List.span_eq_takeWhile_dropWhile]
  cases rest : text.dropWhile fun c => !p c with
  | nil =>
    rw [rest, List.append_nil] at whole
    rw [whole]
  | cons c back =>
    have front := before_append (ε := ε) (text.takeWhile fun c => !p c)
      (text.dropWhile fun c => !p c)
    have behind := behind_append (ε := ε) (text.takeWhile fun c => !p c)
      (text.dropWhile fun c => !p c)
    rw [whole] at front behind
    simp only [front, behind, Guarded.ok_bind, rest]

end LinearProgram.Text
