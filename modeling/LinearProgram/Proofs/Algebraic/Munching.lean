import LinearProgram.Proofs.Algebraic.Longest
import LinearProgram.Proofs.Guarded.Lexing
import Mathlib.Data.List.Infix

namespace LinearProgram

namespace Lexeme

inductive IsLexical : List Char → Prop where
  | nil : IsLexical []
  | blank {b : Char} {rest : List Char} (blank : Text.isBlank b) (others : IsLexical rest) :
    IsLexical (b :: rest)
  | lexeme {spelling rest : List Char} {token : Token} (spells : Spells spelling token)
    (others : IsLexical rest) : IsLexical (spelling ++ rest)

/-- A text is read from its start to a rest of it, passing over blanks and taking at each place
between them the longest lexeme that starts there. -/
inductive Munches : List Char → List Lexeme → List Char → Prop where
  | done (rest : List Char) : Munches rest [] rest
  | blank {b : Char} {text rest : List Char} {lexemes : List Lexeme} (blank : Text.isBlank b)
    (others : Munches text lexemes rest) : Munches (b :: text) lexemes rest
  | lexeme {lexeme : Lexeme} {text rest : List Char} {lexemes : List Lexeme}
    (longest : lexeme.IsLongest (lexeme.spelling ++ text)) (others : Munches text lexemes rest) :
    Munches (lexeme.spelling ++ text) (lexeme :: lexemes) rest

def CutsName (front back : List Char) : Prop :=
  ∃ before c parts d rest, front = before ++ c :: parts ∧ back = d :: rest ∧ isNameStart c ∧
    (∀ part ∈ parts, isNamePart part) ∧ isNamePart d

section Cuts

variable {front back : List Char}

theorem CutsName.mono {longer further : List Char} (cuts : CutsName front back)
    (start : front <:+ longer) (rest : back <+: further) : CutsName longer further := by
  obtain ⟨before, c, parts, d, others, rfl, rfl, names⟩ := cuts
  obtain ⟨before', rfl⟩ := start
  obtain ⟨others', rfl⟩ := rest
  exact ⟨before' ++ before, c, parts, d, others ++ others', (List.append_assoc ..).symm, rfl, names⟩

theorem IsLexical.append (start : IsLexical front) (rest : IsLexical back) :
    IsLexical (front ++ back) := by
  induction start with
  | nil => exact rest
  | blank blank _ ih => exact .blank blank ih
  | lexeme spells _ ih =>
    rw [List.append_assoc]
    exact .lexeme spells ih

/-- What is left of a lexeme behind a cut is a lexeme, unless a name is cut. -/
theorem Spells.behind {token : Token} (spells : Spells (front ++ back) token) :
    IsLexical back ∨ CutsName front back := by
  have lexeme {other : Token} (rest : Spells back other) : IsLexical back ∨ CutsName front back :=
    .inl (back.append_nil ▸ .lexeme rest .nil)
  generalize whole : front ++ back = spelling at spells
  cases spells with
  | number _ all =>
    subst whole
    by_cases nothing : back = []
    · exact .inl (nothing ▸ .nil)
    · exact lexeme (.number nothing (List.forall_mem_append.mp all).2)
  | @identifier c parts start all =>
    cases front with
    | nil =>
      obtain rfl : back = c :: parts := whole
      exact lexeme (.identifier start all)
    | cons c' front =>
      obtain ⟨rfl, rfl⟩ := List.cons.inj whole
      cases back with
      | nil => exact .inl .nil
      | cons d rest =>
        obtain ⟨inFront, inBack⟩ := List.forall_mem_append.mp all
        exact .inr ⟨[], c', front, d, rest, rfl, rfl, start, inFront, inBack d (by simp)⟩
  | plus =>
    rcases List.append_eq_singleton_iff.mp whole with ⟨_, rfl⟩ | ⟨_, rfl⟩
    · exact lexeme .plus
    · exact .inl .nil
  | minus =>
    rcases List.append_eq_singleton_iff.mp whole with ⟨_, rfl⟩ | ⟨_, rfl⟩
    · exact lexeme .minus
    · exact .inl .nil
  | times =>
    rcases List.append_eq_singleton_iff.mp whole with ⟨_, rfl⟩ | ⟨_, rfl⟩
    · exact lexeme .times
    · exact .inl .nil
  | operator listed =>
    have parts : ∀ entry ∈ Comparator.spellings, ∀ part ∈ entry.1.tails,
        part = [] ∨ part ∈ Comparator.spellings.map Prod.fst := by decide
    have suffix : back ∈ spelling.tails := (List.mem_tails _ _).mpr ⟨front, whole⟩
    rcases parts _ listed back suffix with rfl | operator
    · exact .inl .nil
    · obtain ⟨entry, member, rfl⟩ := List.mem_map.mp operator
      exact lexeme (.operator member)

/-- A lexical text is lexical behind each place in it that is not inside of a name. -/
theorem IsLexical.behind (lexical : IsLexical (front ++ back)) :
    IsLexical back ∨ CutsName front back := by
  generalize whole : front ++ back = text at lexical
  induction lexical generalizing front with
  | nil => exact .inl ((List.append_eq_nil_iff.mp whole).2 ▸ .nil)
  | @blank b rest blank others ih =>
    cases front with
    | nil =>
      obtain rfl : back = b :: rest := whole
      exact .inl (.blank blank others)
    | cons c front =>
      obtain ⟨rfl, rfl⟩ := List.cons.inj whole
      exact (ih rfl).imp_right fun cuts => cuts.mono (List.suffix_cons c front) List.prefix_rfl
  | @lexeme spelling rest token spells others ih =>
    rcases List.append_eq_append_iff.mp whole with ⟨left, rfl, rfl⟩ | ⟨later, rfl, rfl⟩
    · rcases spells.behind with lexical | cuts
      · exact .inl (lexical.append others)
      · exact .inr (cuts.mono List.suffix_rfl (List.prefix_append left rest))
    · exact (ih rfl).imp_right fun cuts => cuts.mono (List.suffix_append spelling later)
        List.prefix_rfl

theorem Spells.all_isNamePart {spelling : List Char} {token : Token} {c : Char}
    (spells : Spells spelling token) (member : c ∈ spelling) (start : isNameStart c) :
    ∃ first parts, spelling = first :: parts ∧ isNameStart first ∧
      ∀ part ∈ parts, isNamePart part := by
  cases spells with
  | number _ all =>
    have digit := all c member
    rw [isDigitOrPoint_of_isNameStart start] at digit
    cases digit
  | identifier first parts => exact ⟨_, _, rfl, first, parts⟩
  | plus | minus | times =>
    obtain rfl := List.mem_singleton.mp member
    exact absurd start (by decide +kernel)
  | operator listed =>
    have apart := List.all_eq_true.mp (operators_apart _ listed) c member
    simp [start] at apart

/-- The longest lexeme at a place never ends inside of a name. -/
theorem IsLongest.not_cutsName {lexeme : Lexeme}
    (longest : lexeme.IsLongest (lexeme.spelling ++ back)) : ¬ CutsName lexeme.spelling back := by
  rintro ⟨before, c, parts, d, rest, whole, rfl, start, _, part⟩
  obtain ⟨first, others, same, firstStart, all⟩ :=
    longest.spells.all_isNamePart (whole ▸ by simp) start
  have further : Spells (first :: (others ++ [d])) _ := .identifier firstStart
    (List.forall_mem_append.mpr ⟨all, List.forall_mem_singleton.mpr part⟩)
  have short : (first :: (others ++ [d])).length ≤ (first :: others).length :=
    same ▸ longest.longest _ _ further (by simp [same])
  rw [List.length_cons, List.length_cons, List.length_append, List.length_singleton] at short
  omega

theorem IsLongest.of_prefix {lexeme : Lexeme} {text : List Char}
    (longest : lexeme.IsLongest (lexeme.spelling ++ text)) (inside : front <+: text) :
    lexeme.IsLongest (lexeme.spelling ++ front) := by
  refine ⟨longest.spells, List.prefix_append _ _, ?_⟩
  intro spelling token spells start
  have whole : lexeme.spelling ++ front <+: lexeme.spelling ++ text :=
    (List.prefix_append_right_inj _).mpr inside
  exact longest.longest spelling token spells (start.trans whole)

/-- Taking the longest lexeme first never spoils a text. -/
theorem IsLexical.behind_longest {lexeme : Lexeme}
    (longest : lexeme.IsLongest (lexeme.spelling ++ back))
    (lexical : IsLexical (lexeme.spelling ++ back)) : IsLexical back :=
  lexical.behind.resolve_right longest.not_cutsName

theorem IsLexical.behind_blank {b : Char} (blank : Text.isBlank b)
    (lexical : IsLexical (b :: back)) : IsLexical back := by
  have cut : IsLexical ([b] ++ back) := lexical
  refine cut.behind.resolve_right ?_
  rintro ⟨before, c, parts, _, _, whole, _, start, _⟩
  have member : c ∈ [b] := whole ▸ by simp
  rw [List.mem_singleton.mp member] at start
  rw [isBlank_of_isNamePart (isNamePart_of_isNameStart start)] at blank
  cases blank

theorem IsLexical.eq_nil (lexical : IsLexical front) {text : List Char} (inside : front <+: text)
    (solid : ∀ c ∈ text.head?, Text.isBlank c = false) (none : NoneStarts text) : front = [] := by
  cases lexical with
  | nil => rfl
  | @blank b _ blank _ =>
    obtain ⟨_, rfl⟩ := inside
    rw [solid b rfl] at blank
    cases blank
  | lexeme spells _ => exact absurd ((List.prefix_append _ _).trans inside) (none _ _ spells)

/-- What is read is a sequence of blanks and lexemes, the lexemes being all of it but blanks. -/
theorem Munches.exists_before {text rest : List Char} {lexemes : List Lexeme}
    (munches : Munches text lexemes rest) :
    ∃ before, text = before ++ rest ∧ IsLexical before ∧
      lexemes.flatMap Lexeme.spelling = before.filter (!Text.isBlank ·) := by
  induction munches with
  | done => exact ⟨[], rfl, .nil, rfl⟩
  | @blank b _ _ _ blank _ ih =>
    obtain ⟨before, rfl, lexical, same⟩ := ih
    exact ⟨b :: before, rfl, .blank blank lexical, by simp [same, blank]⟩
  | @lexeme lexeme _ _ _ longest _ ih =>
    obtain ⟨before, rfl, lexical, same⟩ := ih
    refine ⟨lexeme.spelling ++ before, by simp, .lexeme longest.spells lexical, ?_⟩
    have kept : lexeme.spelling.filter (!Text.isBlank ·) = lexeme.spelling :=
      List.filter_eq_self.mpr fun c member => by simp [longest.spells.solid c member]
    rw [List.flatMap_cons, List.filter_append, kept, same]

theorem Munches.length_rest_le {text rest : List Char} {lexemes : List Lexeme}
    (munches : Munches text lexemes rest) : rest.length ≤ text.length := by
  obtain ⟨before, rfl, _⟩ := munches.exists_before
  rw [List.length_append]
  exact Nat.le_add_left _ _

/-- A reading that comes to a halt where no lexeme starts has got as far as any sequence of blanks
and lexemes gets. -/
theorem Munches.length_le {text rest : List Char} {lexemes : List Lexeme}
    (munches : Munches text lexemes rest) (solid : ∀ c ∈ rest.head?, Text.isBlank c = false)
    (none : NoneStarts rest) (inside : front <+: text) (lexical : IsLexical front) :
    front.length + rest.length ≤ text.length := by
  -- Along the reading, what is left of the sequence behind each lexeme is one of its own.
  induction munches generalizing front with
  | done rest => rw [lexical.eq_nil inside solid none, List.length_nil, Nat.zero_add]
  | @blank b text rest _ blank others ih =>
    have left := others.length_rest_le
    cases front with
    | nil =>
      rw [List.length_nil, List.length_cons]
      omega
    | cons d front =>
      obtain ⟨rfl, behind⟩ := List.cons_prefix_cons.mp inside
      have shorter := ih solid none behind (lexical.behind_blank blank)
      rw [List.length_cons, List.length_cons]
      omega
  | @lexeme lexeme text rest _ longest others ih =>
    have left := others.length_rest_le
    rw [List.length_append]
    rcases List.prefix_or_prefix_of_prefix inside (List.prefix_append _ _) with
      within | ⟨front, rfl⟩
    · have shorter := within.length_le
      omega
    · have behind := (List.prefix_append_right_inj _).mp inside
      have lexicalBehind := lexical.behind_longest (longest.of_prefix behind)
      have shorter := ih solid none behind lexicalBehind
      rw [List.length_append]
      omega

end Cuts

theorem Munches.spells {text rest : List Char} {lexemes : List Lexeme}
    (munches : Munches text lexemes rest) :
    ∀ lexeme ∈ lexemes, Spells lexeme.spelling lexeme.token := by
  induction munches with
  | done => simp
  | blank _ _ ih => exact ih
  | lexeme longest _ ih => exact List.forall_mem_cons.mpr ⟨longest.spells, ih⟩

end Lexeme

end LinearProgram
