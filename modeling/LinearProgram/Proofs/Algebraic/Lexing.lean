import LinearProgram.Proofs.Outcome
import LinearProgram.Proofs.Text.Names
import Mathlib.Data.List.DropRight
import Mathlib.Data.List.Find
import Mathlib.Data.List.TakeWhile

namespace LinearProgram

namespace Lexeme

variable {b : Char}

theorem scan_eq (text : List Char) :
    scan text = match Text.dropBlanks text with
      | [] => .ok []
      | c :: rest => match first? c rest with
        | none => .error c
        | some lexeme => (scan (rest.drop (lexeme.spelling.length - 1))).map (lexeme :: ·) := by
  rw [scan]
  split
  · rename_i nothing
    simp [nothing]
  · rename_i c rest nonblank
    cases found : first? c rest <;> simp [nonblank, found]

theorem scan_dropBlanks (text : List Char) : scan (Text.dropBlanks text) = scan text := by
  rw [scan_eq, scan_eq text, Text.dropBlanks, Text.dropBlanks, List.dropWhile_idempotent]

theorem dropBlanks_append {text rest : List Char} {c : Char}
    (nonblank : Text.dropBlanks text = c :: rest) (more : List Char) :
    Text.dropBlanks (text ++ more) = c :: (rest ++ more) := by
  rw [Text.dropBlanks] at nonblank
  rw [Text.dropBlanks, List.dropWhile_append, nonblank]
  rfl

theorem scan_of_first? {text rest : List Char} {c : Char} {lexeme : Lexeme}
    (nonblank : Text.dropBlanks text = c :: rest) (found : first? c rest = some lexeme) :
    scan text = (scan (rest.drop (lexeme.spelling.length - 1))).map (lexeme :: ·) := by
  rw [scan_eq, nonblank]
  simp only [found]

theorem takeWhile_append_of_stop {p : Char → Bool} (stop : p b = false) (text rest : List Char) :
    (text ++ b :: rest).takeWhile p = text.takeWhile p := by
  induction text with
  | nil => simp [stop]
  | cons c text ih => simp [List.takeWhile_cons, ih]

theorem prefix_append_cons_iff {spelling : List Char} (absent : b ∉ spelling)
    (text rest : List Char) : spelling <+: text ++ b :: rest ↔ spelling <+: text := by
  constructor
  · intro start
    -- A spelling longer than the text would have the blank in it.
    rcases List.prefix_or_prefix_of_prefix start (List.prefix_append text (b :: rest)) with
      inside | ⟨more, rfl⟩
    · exact inside
    · cases more with
      | nil => simp
      | cons c more =>
        have behind := (List.prefix_append_right_inj text).mp start
        obtain ⟨rfl, _⟩ := List.cons_prefix_cons.mp behind
        simp at absent
  · intro start
    exact start.trans (List.prefix_append _ _)

theorem operator?_append_blank (blank : Text.isBlank b) (text rest : List Char) :
    operator? (text ++ b :: rest) = operator? text := by
  have solid : ∀ entry ∈ Comparator.spellings, entry.1.all (!Text.isBlank ·) := by decide
  have same : ∀ entry ∈ Comparator.spellings,
      entry.1.isPrefixOf (text ++ b :: rest) = entry.1.isPrefixOf text := by
    intro entry member
    have absent : b ∉ entry.1 := by
      intro inside
      have noBlank := List.all_eq_true.mp (solid entry member) b inside
      rw [blank] at noBlank
      cases noBlank
    rw [Bool.eq_iff_iff, List.isPrefixOf_iff_prefix, List.isPrefixOf_iff_prefix,
      prefix_append_cons_iff absent]
  rw [operator?, operator?, List.find?_congr same]

/-- No blank is part of a lexeme, so what stands behind a blank does not change the lexeme before
it. -/
theorem first?_append_blank (blank : Text.isBlank b) (c : Char) (text rest : List Char) :
    first? c (text ++ b :: rest) = first? c text := by
  have noDigit : Decimal.isDigitOrPoint b = false := by
    rw [← Bool.not_eq_true]
    intro digit
    rw [Text.isBlank_of_isDigitOrPoint digit] at blank
    cases blank
  have noPart : isNamePart b = false := by
    rw [← Bool.not_eq_true]
    intro part
    rw [isBlank_of_isNamePart part] at blank
    cases blank
  rw [first?, first?, takeWhile_append_of_stop noDigit, takeWhile_append_of_stop noPart,
    ← List.cons_append, operator?_append_blank blank]

theorem spelling_prefix_of_first? {c : Char} {text : List Char} {lexeme : Lexeme}
    (found : first? c text = some lexeme) : lexeme.spelling <+: c :: text := by
  simp only [first?] at found
  split at found
  · cases found
    exact List.cons_prefix_cons.mpr ⟨rfl, List.takeWhile_prefix _⟩
  split at found
  · cases found
    exact List.cons_prefix_cons.mpr ⟨rfl, List.takeWhile_prefix _⟩
  iterate 3
    split at found
    · rename_i same
      cases found
      exact List.cons_prefix_cons.mpr ⟨same.symm, List.nil_prefix⟩
  obtain ⟨entry, first, rfl⟩ := Option.map_eq_some_iff.mp found
  have start := List.find?_some first
  exact List.isPrefixOf_iff_prefix.mp start

/-- A text is scanned up to a blank and from there on. -/
theorem scan_append_cons (blank : Text.isBlank b) (first second : List Char) :
    scan (first ++ b :: second) =
      (scan first).bind fun before => (scan second).map (before ++ ·) := by
  -- Along the first text: each of its lexemes is found again with the second text behind it.
  fun_induction scan first with
  | case1 first nothing =>
    have onlySecond : Text.dropBlanks (first ++ b :: second) = Text.dropBlanks second := by
      rw [Text.dropBlanks] at nothing
      rw [Text.dropBlanks, List.dropWhile_append, nothing, List.dropWhile_cons_of_pos blank]
      rfl
    rw [scan_eq, onlySecond, ← scan_eq]
    cases scan second <;> rfl
  | case2 first c tail nonblank unfound =>
    have same : first? c (tail ++ b :: second) = none := by
      rw [first?_append_blank blank, unfound]
    rw [scan_eq, dropBlanks_append nonblank]
    simp only [same]
    rfl
  | case3 first c tail nonblank lexeme found ih =>
    have short := (spelling_prefix_of_first? found).length_le
    have behind : (tail ++ b :: second).drop (lexeme.spelling.length - 1) =
        tail.drop (lexeme.spelling.length - 1) ++ b :: second := by
      apply List.drop_append_of_le_length
      rw [List.length_cons] at short
      omega
    have same : first? c (tail ++ b :: second) = some lexeme := by
      rw [first?_append_blank blank, found]
    rw [scan_of_first? (dropBlanks_append nonblank _) same, behind, ih]
    cases scan (tail.drop (lexeme.spelling.length - 1)) with
    | error c => rfl
    | ok before => cases scan second <;> rfl

theorem scan_append {rest : List Char} (broken : rest.head?.all Text.isBlank) (first : List Char) :
    scan (first ++ rest) = (scan first).bind fun before => (scan rest).map (before ++ ·) := by
  cases rest with
  | nil =>
    rw [List.append_nil, scan_eq []]
    cases scan first <;> simp [Except.bind, Except.map, Text.dropBlanks]
  | cons c rest =>
    have blank : Text.isBlank c := broken
    rw [scan_append_cons blank, ← scan_dropBlanks (c :: rest), ← scan_dropBlanks rest,
      Text.dropBlanks, Text.dropBlanks, List.dropWhile_cons_of_pos blank]

/-- A text is scanned word by word. -/
theorem scan_eq_words (text : List Char) :
    scan text = ((Text.words text).mapM fun word => scan word.toList).map List.flatten := by
  induction cut : Text.words text generalizing text with
  | nil =>
    rw [Text.words_eq_nil_iff, List.all_eq_true] at cut
    rw [scan_eq, Text.dropBlanks, List.dropWhile_eq_nil_iff.mpr cut]
    rfl
  | cons word others ih =>
    obtain ⟨_, rfl, rest⟩ := Text.words_eq_cons cut
    rw [← scan_dropBlanks, ← Text.firstWord_append, scan_append (Text.head?_firstWord text),
      ih _ rest, List.mapM_cons, String.toList_ofList]
    cases scan (Text.firstWord text).1 with
    | error c => rfl
    | ok lexemes => cases others.mapM fun word => scan word.toList <;> rfl

theorem scan_append_blank (blank : Text.isBlank b) {first second : List Char}
    {before after : List Lexeme} (start : scan first = .ok before)
    (rest : scan second = .ok after) :
    scan (first ++ b :: second) = .ok (before ++ after) := by
  rw [scan_append_cons blank, start, rest]
  rfl

theorem first?_of_isNameStart {c : Char} (start : isNameStart c) (rest : List Char) :
    first? c rest = some ⟨.identifier (String.ofList (c :: rest.takeWhile isNamePart)),
      c :: rest.takeWhile isNamePart⟩ := by
  simp only [first?, isDigitOrPoint_of_isNameStart start, start, Bool.false_eq_true, ↓reduceIte]

end Lexeme

namespace Token

theorem scan_eq_ok {text : List Char} {tokens : List Token} :
    scan text = .ok tokens ↔
      ∃ lexemes, Lexeme.scan text = .ok lexemes ∧ lexemes.map Lexeme.token = tokens := by
  rw [scan]
  cases Lexeme.scan text <;> simp

/-- Which tokens a text is cut into depends on its words only. -/
theorem toOption_scan_congr {first second : List Char}
    (same : Text.words first = Text.words second) :
    (scan first).toOption = (scan second).toOption := by
  have lexemes : Lexeme.scan first = Lexeme.scan second := by
    rw [Lexeme.scan_eq_words, Lexeme.scan_eq_words second, same]
  rw [scan, scan, lexemes]
  cases Lexeme.scan second <;> rfl

theorem scan_append_blank {b : Char} (blank : Text.isBlank b) {first second : List Char}
    {before after : List Token} (start : scan first = .ok before) (rest : scan second = .ok after) :
    scan (first ++ b :: second) = .ok (before ++ after) := by
  obtain ⟨front, scanned, rfl⟩ := scan_eq_ok.mp start
  obtain ⟨back, remaining, rfl⟩ := scan_eq_ok.mp rest
  exact scan_eq_ok.mpr ⟨_, Lexeme.scan_append_blank blank scanned remaining, List.map_append⟩

theorem exists_first_of_scan {text : List Char} {token : Token} {tokens : List Token}
    (scanned : scan text = .ok (token :: tokens)) : ∃ c rest lexeme,
      Text.dropBlanks text = c :: rest ∧ Lexeme.first? c rest = some lexeme ∧
        lexeme.token = token := by
  obtain ⟨lexemes, found, tokensOf⟩ := scan_eq_ok.mp scanned
  rw [Lexeme.scan_eq] at found
  split at found
  · cases found
    cases tokensOf
  · rename_i c rest nonblank
    split at found
    · cases found
    · rename_i lexeme first
      obtain ⟨others, _, rfl⟩ := map_eq_ok.mp found
      exact ⟨c, rest, lexeme, nonblank, first, (List.cons.inj tokensOf).1⟩

theorem scan_of_first? {c : Char} {rest : List Char} {lexeme : Lexeme} {tokens : List Token}
    (solid : Text.isBlank c = false) (found : Lexeme.first? c rest = some lexeme)
    (others : scan (rest.drop (lexeme.spelling.length - 1)) = .ok tokens) :
    scan (c :: rest) = .ok (lexeme.token :: tokens) := by
  obtain ⟨lexemes, remaining, rfl⟩ := scan_eq_ok.mp others
  refine scan_eq_ok.mpr ⟨lexeme :: lexemes, ?_, rfl⟩
  rw [Lexeme.scan_of_first? (Text.dropBlanks_of_solid solid rest) found]
  exact map_eq_ok.mpr ⟨_, remaining, rfl⟩

theorem scan_of_all_isBlank {text : List Char} (blank : text.all Text.isBlank) :
    scan text = .ok [] := by
  have nothing : Text.dropBlanks text = [] :=
    List.dropWhile_eq_nil_iff.mpr (List.all_eq_true.mp blank)
  refine scan_eq_ok.mpr ⟨[], ?_, rfl⟩
  rw [Lexeme.scan_eq, nothing]

theorem scan_nil : scan [] = .ok [] :=
  scan_of_all_isBlank rfl

theorem scan_of_whole {c : Char} {rest : List Char} {token : Token}
    (solid : Text.isBlank c = false) (found : Lexeme.first? c rest = some ⟨token, c :: rest⟩) :
    scan (c :: rest) = .ok [token] := by
  apply scan_of_first? solid found
  rw [List.length_cons, Nat.add_sub_cancel, List.drop_length]
  exact scan_nil

theorem scan_number {text : List Char} (nonempty : text ≠ [])
    (digits : text.all Decimal.isDigitOrPoint) :
    scan text = .ok [.number (String.ofList text)] := by
  cases text with
  | nil => exact absurd rfl nonempty
  | cons c rest =>
    rw [List.all_cons, Bool.and_eq_true] at digits
    obtain ⟨first, others⟩ := digits
    apply scan_of_whole (Text.isBlank_of_isDigitOrPoint first)
    rw [Lexeme.first?, if_pos first, List.takeWhile_eq_self_iff.mpr (List.all_eq_true.mp others)]

theorem scan_name {name : String} (isName : Text.IsName name.toList) :
    scan name.toList = .ok [.identifier name] := by
  obtain ⟨c, rest, written, start, parts⟩ := isName.exists_start
  have solid := Lexeme.isBlank_of_isNamePart (Lexeme.isNamePart_of_isNameStart start)
  rw [written]
  apply scan_of_whole solid
  rw [Lexeme.first?_of_isNameStart start,
    List.takeWhile_eq_self_iff.mpr (List.all_eq_true.mp parts), ← written, String.ofList_toList]

theorem scan_symbol (c : Comparator) : scan c.symbol.toList = .ok [.comparator c] := by
  cases c <;> exact scan_of_whole rfl rfl

theorem scan_minus {rest : List Char} {tokens : List Token} (others : scan rest = .ok tokens) :
    scan ('-' :: rest) = .ok (.minus :: tokens) := by
  have found : Lexeme.first? '-' rest = some ⟨.minus, ['-']⟩ := rfl
  exact scan_of_first? rfl found others

end Token

end LinearProgram
