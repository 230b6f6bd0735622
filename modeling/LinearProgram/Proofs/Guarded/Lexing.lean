import LinearProgram.Algebraic.Heading
import LinearProgram.Proofs.Algebraic.Lexing
import LinearProgram.Proofs.Guarded.Text

namespace LinearProgram

namespace Lexeme

def firstGuarded (content : List Char) (c : Char) (rest : List Char) :
    Guarded ParseError (Token × Nat) :=
  if Decimal.isDigitOrPoint c then
    let length := Text.runEnd Decimal.isDigitOrPoint (c :: rest)
    (Text.before length (c :: rest)).map fun digits => (.number (String.ofList digits), length)
  else if isNameStart c then
    let length := Text.runEnd isNamePart (c :: rest)
    (Text.before length (c :: rest)).map fun name => (.identifier (String.ofList name), length)
  else if c = '+' then .ok (.plus, 1)
  else if c = '-' then .ok (.minus, 1)
  else if c = '*' then .ok (.times, 1)
  else
    match Comparator.spellings.find? fun entry => entry.1.isPrefixOf (c :: rest) with
    | some entry => .ok (.comparator entry.2, Text.byteLength entry.1)
    | none => Guarded.fail (.new (.unexpectedCharacter c (String.ofList content)))

def scanGuarded (content text : List Char) : Guarded ParseError (List Token) :=
  match Text.dropBlanks text with
  | [] => .ok []
  | c :: rest => do
    let first ← firstGuarded content c rest
    let tail ← Text.behind first.2 (c :: rest)
    if tail.length < text.length then
      let others ← scanGuarded content tail
      .ok (first.1 :: others)
    else Guarded.breach .standstill
termination_by text.length

theorem firstGuarded_eq (content : List Char) (c : Char) (rest : List Char) :
    firstGuarded content c rest = match first? c rest with
      | some lexeme => .ok (lexeme.token, Text.byteLength lexeme.spelling)
      | none => Guarded.fail (.new (.unexpectedCharacter c (String.ofList content))) := by
  unfold firstGuarded first?
  split
  · rename_i digit
    simp only [Text.before_runEnd]
    simp only [Text.runEnd_eq, List.takeWhile_cons, digit, ↓reduceIte, Except.map]
  split
  · rename_i start
    have part := isNamePart_of_isNameStart start
    simp only [Text.before_runEnd]
    simp only [Text.runEnd_eq, List.takeWhile_cons, part, ↓reduceIte, Except.map]
  iterate 3
    split
    · rfl
  unfold operator?
  cases Comparator.spellings.find? fun entry => entry.1.isPrefixOf (c :: rest) <;> rfl

theorem spelling_ne_nil_of_first? {c : Char} {rest : List Char} {lexeme : Lexeme}
    (found : first? c rest = some lexeme) : lexeme.spelling ≠ [] := by
  simp only [first?] at found
  split at found
  · cases found
    simp
  split at found
  · cases found
    simp
  iterate 3
    split at found
    · cases found
      simp
  obtain ⟨entry, first, rfl⟩ := Option.map_eq_some_iff.mp found
  have written : ∀ entry ∈ Comparator.spellings, entry.1 ≠ [] := by decide
  exact written entry (List.mem_of_find?_eq_some first)

/-- A lexeme is cut off a text where the text behind it starts. -/
theorem behind_spelling {c : Char} {rest : List Char} {lexeme : Lexeme}
    (found : first? c rest = some lexeme) :
    Text.behind (ε := ParseError) (Text.byteLength lexeme.spelling) (c :: rest) =
      .ok (rest.drop (lexeme.spelling.length - 1)) := by
  obtain ⟨tail, whole⟩ := spelling_prefix_of_first? found
  obtain ⟨d, spelling, written⟩ := List.exists_cons_of_ne_nil (spelling_ne_nil_of_first? found)
  have cut := Text.behind_append (ε := ParseError) lexeme.spelling tail
  rw [whole] at cut
  rw [written, List.cons_append, List.cons.injEq] at whole
  rw [cut, written, ← whole.2, List.length_cons, Nat.add_sub_cancel, List.drop_left]

theorem scanGuarded_eq (content text : List Char) :
    scanGuarded content text = Guarded.sound (((scan text).map (List.map token)).mapError fun c =>
      .new (.unexpectedCharacter c (String.ofList content))) := by
  fun_induction scan text with
  | case1 text nothing =>
    rw [scanGuarded, nothing]
    rfl
  | case2 text c rest nonblank unfound =>
    rw [scanGuarded, nonblank]
    simp only [firstGuarded_eq, unfound]
    rfl
  | case3 text c rest nonblank lexeme found ih =>
    -- No lexeme is empty, so that each one brings the end closer.
    have shorter : (rest.drop (lexeme.spelling.length - 1)).length < text.length := by
      have smaller := Text.length_dropBlanks_le text
      rw [nonblank, List.length_cons] at smaller
      rw [List.length_drop]
      omega
    rw [scanGuarded, nonblank]
    simp only [firstGuarded_eq, found, Guarded.ok_bind, behind_spelling found, shorter, ↓reduceIte,
      ih]
    cases scan (rest.drop (lexeme.spelling.length - 1)) <;> rfl

end Lexeme

def Token.scanGuarded (content : List Char) : Guarded ParseError (List Token) :=
  Lexeme.scanGuarded content content

theorem Token.scanGuarded_eq (content : List Char) :
    scanGuarded content = Guarded.sound (scan content) := by
  rw [scanGuarded, Lexeme.scanGuarded_eq, scan]
  cases Lexeme.scan content <;> rfl

end LinearProgram
