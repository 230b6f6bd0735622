import LinearProgram.Algebraic.Program
import LinearProgram.Proofs.Algebraic.Grammar
import LinearProgram.Proofs.Number.Fraction64
import LinearProgram.Proofs.Problem.Map
import LinearProgram.Proofs.Transfer

namespace LinearProgram

variable {F G : Type}

def Draft.map (f : F → G) (draft : Draft F) : Draft G where
  reached := draft.reached
  objective := draft.objective
  constraints := draft.constraints.map (Comparison.map f)
  bounds := draft.bounds.map (Comparison.map f)

theorem Draft.enter_map (f : F → G) (draft : Draft F) (heading : Heading) (location : Location) :
    (draft.map f).enter heading location = (draft.enter heading location).map (map f) := by
  unfold enter
  have same : (draft.map f).reached = draft.reached := rfl
  rw [same]
  split
  · rfl
  · cases heading <;> rfl

theorem Comparison.readValue_map [Literal F] [Literal G] {f : F → G}
    (reads : Literal.ReadsThrough f) (tokens : List Token) :
    (readValue tokens : Except ParseError G) = (readValue tokens).map f := by
  unfold readValue
  split
  case h_1 | h_2 | h_3 => exact reads _
  all_goals rfl

variable [Scalar F] [Scalar G] [Literal F] [Literal G] {f : F → G}
  (embedding : Scalar.IsEmbedding f) (reads : Literal.ReadsThrough f)

section Terms

include embedding reads

theorem Term.readFirst_map (negative : Bool) (tokens : List Token) :
    (readFirst negative tokens : Except ParseError (Term G × List Token)) =
      (readFirst negative tokens).map (Prod.map (Term.map f) id) := by
  have scaled (number name : String) (rest : List Token) :
      ((readNumber negative number).map fun coefficient => (Term.scaled coefficient name, rest)) =
        ((readNumber negative number).map fun coefficient : F =>
          (Term.scaled coefficient name, rest)).map (Prod.map (Term.map f) id) := by
    unfold readNumber
    rw [reads]
    cases (Literal.read (if negative then "-" ++ number else number) : Except ParseError F) <;> rfl
  have bare (name : String) : (signed negative name : Term G) = (signed negative name).map f := by
    cases negative with
    | true => simp only [signed, ↓reduceIte, map, embedding.one, embedding.neg]
    | false => rfl
  unfold readFirst
  split
  case h_1 | h_2 => exact scaled _ _ _
  case h_3 name rest => rw [bare]; rfl
  all_goals rfl

theorem Term.readSigned_map (tokens : List Token) :
    (readSigned tokens : Except ParseError (List (Term G))) =
      (readSigned tokens).map (List.map (Term.map f)) := by
  -- Both readers take the same tokens for the first term, so they go on from the same place.
  fun_induction readSigned (F := F) tokens with
  | case1 => rw [readSigned]; rfl
  | case2 sign rest isSign error found =>
    have failed := readFirst_map embedding reads (sign = .minus) rest
    rw [found] at failed
    rw [readSigned, if_pos isSign]
    split <;> rename_i found' <;> rw [failed] at found' <;> cases found'
    rfl
  | case3 sign rest isSign first tail found ih =>
    have read := readFirst_map embedding reads (sign = .minus) rest
    rw [found] at read
    rw [readSigned, if_pos isSign]
    split <;> rename_i found' <;> rw [read] at found' <;> cases found'
    rw [id_eq, ih]
    cases (readSigned tail : Except ParseError (List (Term F))) <;> rfl
  | case4 sign rest noSign => rw [readSigned, if_neg noSign]; rfl

theorem Expression.readTerms_map (negative : Bool) (tokens : List Token) :
    (readTerms negative tokens : Except ParseError (Expression G)) =
      (readTerms negative tokens).map (Expression.map f) := by
  unfold readTerms
  rw [Term.readFirst_map embedding reads, bind_of_map, map_of_bind]
  congr 1
  funext first
  obtain ⟨term, tail⟩ := first
  simp only [Prod.map, id_eq]
  rw [Term.readSigned_map embedding reads, bind_of_map, map_of_bind]
  congr 1
  funext others
  cases others <;> rfl

theorem Expression.read_map (tokens : List Token) :
    (read tokens : Except ParseError (Expression G)) =
      (read tokens).map (Expression.map f) := by
  rw [read_eq, read_eq]
  split
  · exact readTerms_map embedding reads true _
  · exact readTerms_map embedding reads false _
  · exact readTerms_map embedding reads false _

end Terms

namespace Comparison

include embedding reads

theorem readSimple_map (c : Comparator) (left right : List Token) :
    (readSimple c left right : Except ParseError (Comparison G)) =
      (readSimple c left right).map (map f) := by
  unfold readSimple
  split
  · rfl
  · rw [Expression.read_map embedding reads, mapError_of_map, bind_of_map, map_of_bind]
    congr 1
    funext expression
    rw [readValue_map reads, mapError_of_map, bind_of_map, map_of_bind]
    rfl

theorem readChained_map (c : Comparator) (left middle right : List Token) :
    (readChained c left middle right : Except ParseError (Comparison G)) =
      (readChained c left middle right).map (map f) := by
  unfold readChained
  rw [readValue_map reads, mapError_of_map, bind_of_map, map_of_bind]
  congr 1
  funext leftValue
  rw [Expression.read_map embedding reads, mapError_of_map, bind_of_map, map_of_bind]
  congr 1
  funext expression
  rw [readValue_map reads, mapError_of_map, bind_of_map, map_of_bind]
  rfl

theorem read_map (tokens : List Token) :
    (read tokens : Except ParseError (Comparison G)) = (read tokens).map (map f) := by
  unfold read
  split
  · rfl
  · exact readSimple_map embedding reads _ _ _
  · split
    · exact readChained_map embedding reads _ _ _ _
    · rfl
  · rfl

end Comparison

namespace Draft

include embedding reads

theorem absorb_map (draft : Draft F) (tokens : List Token) (location : Location) :
    (draft.map f).absorb tokens location = (draft.absorb tokens location).map (map f) := by
  have line (complaint : Complaint) :
      (readLine tokens complaint location : Except ParseError (Comparison G)) =
        (readLine tokens complaint location).map (Comparison.map f) := by
    unfold readLine
    rw [Comparison.read_map embedding reads, mapError_of_map]
  obtain ⟨reached, objective, constraints, bounds⟩ := draft
  cases reached with
  | none => rfl
  | some reached =>
    cases reached with
    | objective => cases objective <;> rfl
    | constraints =>
      simp only [absorb, map, line, bind_of_map, map_of_bind]
      congr 1
      funext constraint
      simp [Except.map, map]
    | bounds =>
      simp only [absorb, map, line, bind_of_map, map_of_bind]
      congr 1
      funext bound
      simp [Except.map, map]
    | ending => rfl

theorem addLine_map (draft : Draft F) (location : Location) :
    (draft.map f).addLine location = (draft.addLine location).map (map f) := by
  unfold addLine
  obtain ⟨heading, content⟩ := Heading.split location.text.toList
  have content_map (entered : Draft F) :
      ((Token.scan content).mapError (·.located location) >>= fun tokens =>
        if tokens = [] then Except.ok (entered.map f)
        else (entered.map f).absorb tokens location) =
      ((Token.scan content).mapError (·.located location) >>= fun tokens =>
        if tokens = [] then .ok entered else entered.absorb tokens location).map (map f) := by
    rw [map_of_bind]
    congr 1
    funext tokens
    split
    · rfl
    · exact absorb_map embedding reads entered tokens location
  cases heading with
  | none => exact content_map draft
  | some heading =>
    simp only [enter_map, bind_of_map]
    rw [map_of_bind]
    congr 1
    funext entered
    exact content_map entered

theorem finish_map (draft : Draft F) : (draft.map f).finish = draft.finish.map (Problem.map f) := by
  obtain ⟨reached, objective, constraints, bounds⟩ := draft
  cases objective with
  | none => rfl
  | some objective =>
    obtain ⟨sense, start, tokens⟩ := objective
    simp only [finish, map]
    rw [Expression.read_map embedding reads, mapError_of_map, bind_of_map, map_of_bind]
    simp [Problem.map, Except.map]

end Draft

include embedding reads in
/-- A text is read as the same problem, or rejected with the same error, in both types of
numbers. -/
theorem Problem.read_map (text : String) :
    (Problem.read text : Except ParseError (Problem G)) = (Problem.read text).map (map f) := by
  have empty : ({} : Draft G) = Draft.map f {} := by simp [Draft.map]
  unfold Problem.read
  rw [empty, foldlM_of_map (Draft.addLine_map embedding reads), bind_of_map, map_of_bind]
  congr 1
  funext draft
  exact Draft.finish_map embedding reads draft

end LinearProgram
