import LinearProgram.Proofs.Algebraic.Grammar
import LinearProgram.Proofs.Guarded.Outcome

namespace LinearProgram

section Definitions

variable {F : Type} (number : String → Guarded ParseError F)

def readNumberGuarded (negative : Bool) (text : String) : Guarded ParseError F :=
  number (if negative then "-" ++ text else text)

variable [Scalar F]

def Term.readFirstGuarded (negative : Bool) : List Token → Guarded ParseError (Term F × List Token)
  | .number value :: .times :: .identifier name :: rest =>
    (readNumberGuarded number negative value).map fun coefficient =>
      (.scaled coefficient name, rest)
  | .number value :: .identifier name :: rest =>
    (readNumberGuarded number negative value).map fun coefficient =>
      (.scaled coefficient name, rest)
  | .identifier name :: rest => .ok (signed negative name, rest)
  | [.number value] => Guarded.fail (.new (.constantTerm value))
  | .number value :: .plus :: _ => Guarded.fail (.new (.constantTerm value))
  | .number value :: .minus :: _ => Guarded.fail (.new (.constantTerm value))
  | [] => Guarded.fail (.new .missingTerm)
  | token :: _ => Guarded.fail (.new (.missingVariable token))

/-- Whether the next term is negative and what stands behind its sign. Only the first term may do
without a sign, and the end of the tokens is not expected here. -/
def Term.signGuarded (first : Bool) : List Token → Guarded ParseError (Bool × List Token)
  | .minus :: rest => .ok (true, rest)
  | .plus :: rest => .ok (false, rest)
  | tokens =>
    if first then .ok (false, tokens)
    else match tokens with
      | token :: _ => Guarded.fail (.new (.missingSign token))
      | [] => Guarded.breach .unreachable

def Term.readGuarded (terms : List (Term F)) (tokens : List Token) :
    Guarded ParseError (List (Term F)) := do
  let sign ← signGuarded terms.isEmpty tokens
  let next ← readFirstGuarded number sign.1 sign.2
  if next.2 = [] then .ok (terms ++ [next.1])
  else if next.2.length < tokens.length then readGuarded (terms ++ [next.1]) next.2
  else Guarded.breach .standstill
termination_by tokens.length

def Expression.readGuarded (tokens : List Token) : Guarded ParseError (Expression F) := do
  let terms ← Term.readGuarded number [] tokens
  if terms.length = 1 then
    let term ← Guarded.demand terms[0]? .index
    .ok (.single term)
  else .ok (.sum terms)

end Definitions

theorem Term.signGuarded_of_isSign (first : Bool) {sign : Token} (rest : List Token)
    (isSign : sign = .plus ∨ sign = .minus) :
    signGuarded first (sign :: rest) = .ok (sign = .minus, rest) := by
  rcases isSign with rfl | rfl <;> rfl

variable {F : Type} [Literal F] {number : String → Guarded ParseError F}
  (reads : ∀ text, number text = Guarded.sound (Literal.read text))

include reads

theorem readNumberGuarded_eq (negative : Bool) (text : String) :
    readNumberGuarded number negative text = Guarded.sound (readNumber negative text) :=
  reads _

variable [Scalar F]

namespace Term

theorem readFirstGuarded_eq (negative : Bool) (tokens : List Token) :
    readFirstGuarded number negative tokens = Guarded.sound (readFirst negative tokens) := by
  fun_cases readFirst (F := F) negative tokens with
  | case1 | case2 => rw [readFirstGuarded, readNumberGuarded_eq reads, Guarded.sound_map]
  | case8 => rw [readFirstGuarded] <;> first | rfl | assumption
  | _ => rfl

/-- Behind its sign, a term is read and then, if there are any, the terms behind it. -/
theorem readGuarded_of_sign {terms : List (Term F)} {tokens rest : List Token} {negative : Bool}
    (sign : signGuarded terms.isEmpty tokens = .ok (negative, rest))
    (within : rest.length ≤ tokens.length) :
    readGuarded number terms tokens = (Guarded.sound (readFirst negative rest) >>= fun next =>
      if next.2 = [] then .ok (terms ++ [next.1])
      else readGuarded number (terms ++ [next.1]) next.2) := by
  rw [readGuarded, sign, Guarded.ok_bind, readFirstGuarded_eq reads]
  cases first : readFirst (F := F) negative rest with
  | error error => rfl
  | ok next =>
    have shorter : next.2.length < tokens.length :=
      Nat.lt_of_lt_of_le (length_of_readFirst first) within
    simp only [Guarded.sound_ok, Guarded.ok_bind, shorter, ↓reduceIte]

/-- The terms behind others are read up to the end of the tokens, if there are any. -/
theorem readGuarded_eq_readSigned {terms : List (Term F)} {tokens : List Token}
    (others : terms.isEmpty = false) (remaining : tokens ≠ []) :
    readGuarded number terms tokens =
      Guarded.sound ((readSigned tokens).map (terms ++ ·)) := by
  fun_induction readSigned (F := F) tokens generalizing terms with
  | case1 => exact absurd rfl remaining
  | case2 sign rest isSign error unread =>
    rw [readGuarded_of_sign reads (signGuarded_of_isSign _ rest isSign) (Nat.le_succ _), unread]
    rfl
  | case3 sign rest isSign term tail read ih =>
    rw [readGuarded_of_sign reads (signGuarded_of_isSign _ rest isSign) (Nat.le_succ _), read,
      Guarded.sound_ok, Guarded.ok_bind]
    split
    · rename_i ended
      obtain rfl : tail = [] := ended
      rw [readSigned]
      rfl
    · rename_i more
      rw [ih (by simp) more]
      cases readSigned (F := F) tail <;> simp [Except.map]
  | case4 sign rest noSign =>
    have unsigned : signGuarded terms.isEmpty (sign :: rest) =
        Guarded.fail (.new (.missingSign sign)) := by
      cases sign <;> simp_all [signGuarded]
    rw [readGuarded, unsigned]
    rfl

end Term

theorem Expression.readGuarded_eq (tokens : List Token) :
    Expression.readGuarded number tokens = Guarded.sound (Expression.read tokens) := by
  have continued {negative : Bool} {rest : List Token}
      (sign : Term.signGuarded true tokens = .ok (negative, rest))
      (within : rest.length ≤ tokens.length) :
      Expression.readGuarded number tokens =
        Guarded.sound (Expression.readTerms negative rest) := by
    have start : Term.signGuarded ([] : List (Term F)).isEmpty tokens = .ok (negative, rest) := sign
    rw [Expression.readGuarded, Term.readGuarded_of_sign reads start within, readTerms]
    cases Term.readFirst (F := F) negative rest with
    | error error => rfl
    | ok first =>
      obtain ⟨term, tail⟩ := first
      simp only [Guarded.sound_ok, Guarded.ok_bind]
      split
      · rename_i ended
        rw [ended, Term.readSigned]
        rfl
      · rename_i more
        rw [Term.readGuarded_eq_readSigned reads rfl more]
        cases others : Term.readSigned (F := F) tail with
        | error error => rfl
        | ok terms =>
          cases terms with
          | nil =>
            cases Term.readSigned_eq_ok.mp others
            exact absurd rfl more
          | cons other terms => rfl
  cases tokens with
  | nil => exact continued rfl (Nat.le_refl _)
  | cons token rest =>
    cases token with
    | minus | plus => exact continued rfl (Nat.le_succ _)
    | _ => exact continued rfl (Nat.le_refl _)

end LinearProgram
