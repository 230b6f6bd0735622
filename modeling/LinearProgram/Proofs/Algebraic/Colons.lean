import LinearProgram.Proofs.Algebraic.Digest

namespace LinearProgram

def IsGap (gap : List Char) : Prop :=
  ∀ c ∈ gap, Text.isBlank c ∧ c ≠ '\n'

instance : DecidablePred IsGap :=
  fun gap => List.decidableBAll _ gap

def IsPlain (text : List Char) : Prop :=
  '#' ∉ text ∧ '\n' ∉ text

theorem IsPlain.takeWhile_append {line : List Char} (plain : IsPlain line) (tail : List Char) :
    (line ++ tail).takeWhile (· != '#') = line ++ tail.takeWhile (· != '#') := by
  apply List.takeWhile_append_of_pos
  intro c member
  rw [bne_iff_ne]
  rintro rfl
  exact plain.1 member

theorem IsPlain.append {first second : List Char} (start : IsPlain first) (rest : IsPlain second) :
    IsPlain (first ++ second) := by
  rw [IsPlain, List.mem_append, List.mem_append, not_or, not_or]
  exact ⟨⟨start.1, rest.1⟩, start.2, rest.2⟩

section Gap

variable {gap : List Char} (isGap : IsGap gap)
include isGap

theorem IsGap.all_isBlank : gap.all Text.isBlank :=
  List.all_eq_true.mpr fun c member => (isGap c member).1

theorem IsGap.isPlain : IsPlain gap :=
  ⟨fun inside => absurd (isGap _ inside).1 (by decide), fun inside => (isGap _ inside).2 rfl⟩

variable (tail : List Char)

theorem IsGap.words_append : Text.words (gap ++ tail) = Text.words tail :=
  Text.words_blanks_append isGap.all_isBlank tail

theorem IsGap.head?_append (nonempty : gap ≠ []) : (gap ++ tail).head?.all Text.isBlank := by
  obtain ⟨c, others, rfl⟩ := List.exists_cons_of_ne_nil nonempty
  exact (isGap c List.mem_cons_self).1

end Gap

namespace Heading

inductive Spelled (heading : Heading) : List Char → Prop
  | word {word : List Char} : ([lowered word], heading) ∈ spellings → Spelled heading word
  | pair {first gap second : List Char} :
    ([lowered first, lowered second], heading) ∈ spellings → IsGap gap → gap ≠ [] →
      Spelled heading (first ++ gap ++ second)

def isWordPart (c : Char) : Bool :=
  !Text.isBlank c && c != ':' && c != '#'

structure IsBare (word : List Char) : Prop where
  filled : word ≠ []
  parts : word.all isWordPart

namespace IsBare

variable {word : List Char} (bare : IsBare word)
include bare

theorem not_mem {c : Char} (noPart : isWordPart c = false) : c ∉ word := by
  intro member
  have part := List.all_eq_true.mp bare.parts c member
  rw [noPart] at part
  cases part

theorem isPlain : IsPlain word :=
  ⟨bare.not_mem (by decide), bare.not_mem (by decide)⟩

theorem isWord : IsWord (String.ofList word) := by
  constructor
  · simpa using bare.filled
  · intro c member
    rw [String.toList_ofList] at member
    have part := List.all_eq_true.mp bare.parts c member
    simp only [isWordPart, Bool.and_eq_true, Bool.not_eq_true'] at part
    exact part.1.1

theorem words_eq : Text.words word = [String.ofList word] := by
  simpa using Text.words_of_isWord bare.isWord

theorem trimColons_eq : trimColons word = word := by
  have plain : ∀ filled : word ≠ [], ¬ (word.getLast filled == ':') := by
    intro filled colon
    rw [beq_iff_eq] at colon
    exact bare.not_mem (by decide) (colon ▸ List.getLast_mem filled)
  exact List.rdropWhile_eq_self_iff.mpr plain

end IsBare

theorem isWordPart_toLower (c : Char) : isWordPart c.toLower = isWordPart c := by
  have marks {mark : Char} (noLetter : mark.isAlpha = false) :
      (c.toLower != mark) = (c != mark) := by
    rw [Bool.eq_iff_iff, bne_iff_ne, bne_iff_ne, ne_eq, ne_eq, Text.toLower_eq_iff noLetter]
  rw [isWordPart, isWordPart, Text.isBlank_toLower, marks (by decide), marks (by decide)]

theorem isBare_of_mem {word : List Char} {expected : List String} {heading : Heading}
    (spelled : (expected, heading) ∈ spellings) (member : lowered word ∈ expected) :
    IsBare word := by
  have solid : ∀ spelling ∈ spellings, ∀ word ∈ spelling.1,
      word ≠ "" ∧ word.toList.all isWordPart := by
    decide +kernel
  obtain ⟨filled, parts⟩ := solid _ spelled _ member
  constructor
  · rintro rfl
    exact filled rfl
  · simpa [lowered, Function.comp_def, isWordPart_toLower] using parts

theorem trimColons_concat (word : List Char) :
    trimColons (word ++ [':']) = trimColons word := by
  simp [trimColons]

theorem begins_append (front : List String) (last : String) (rest : List String) :
    begins (front.map (fun word => lowered word.toList) ++ [lowered (trimColons last.toList)])
      (front ++ last :: rest) := by
  induction front with
  | nil => simp [begins]
  | cons word front ih =>
    cases front with
    | nil => simp [begins]
    | cons => simpa [begins] using ih

theorem head?_of_begins {expected : List String} {heading : Heading}
    (spelled : (expected, heading) ∈ spellings) {words : List String}
    (starts : begins expected words) :
    expected.head? = words.head?.map fun word => lowered (trimColons word.toList) := by
  have filled : ∀ spelling ∈ spellings, spelling.1 ≠ [] := by decide
  cases expected with
  | nil => exact absurd rfl (filled _ spelled)
  | cons first others =>
    cases words with
    | nil => simp [begins] at starts
    | cons word words =>
      cases others with
      | nil => simpa [begins, eq_comm] using starts
      | cons second others =>
        simp only [begins, Bool.and_eq_true, decide_eq_true_eq] at starts
        obtain ⟨rfl, _⟩ := starts
        have bare := isBare_of_mem spelled List.mem_cons_self
        rw [List.head?_cons, List.head?_cons, Option.map_some, bare.trimColons_eq]

/-- The headings differ in their first words, so a line starts with one of them at most. -/
theorem spelling?_eq_some {expected : List String} {heading : Heading}
    (spelled : (expected, heading) ∈ spellings) {words : List String}
    (starts : begins expected words) : spelling? words = some (expected, heading) := by
  have distinct : ∀ first ∈ spellings, ∀ second ∈ spellings,
      first.1.head? = second.1.head? → first = second := by
    decide +kernel
  cases found : spelling? words with
  | none => exact absurd starts (List.find?_eq_none.mp found _ spelled)
  | some other =>
    have member := List.mem_of_find?_eq_some found
    rw [spelling?] at found
    have met := List.find?_some found
    have alike := (head?_of_begins spelled starts).trans (head?_of_begins member met).symm
    rw [distinct _ spelled _ member alike]

structure Parts (heading : Heading) (written start last : List Char) : Prop where
  whole : written = start ++ last
  starts : start.getLast?.all Text.isBlank
  plain : IsPlain written
  bare : IsBare last
  spelled : ((Text.words start).map (fun word => lowered word.toList) ++ [lowered last], heading) ∈
    spellings

theorem Spelled.exists_parts {heading : Heading} {written : List Char}
    (spelled : heading.Spelled written) : ∃ start last, Parts heading written start last := by
  cases spelled with
  | word member =>
    have bare := isBare_of_mem member List.mem_cons_self
    exact ⟨[], written, rfl, rfl, bare.isPlain, bare, member⟩
  | @pair first gap second member isGap nonempty =>
    have bare := isBare_of_mem member List.mem_cons_self
    have last := isBare_of_mem member (List.mem_cons_of_mem _ List.mem_cons_self)
    have plain : IsPlain (first ++ gap ++ second) :=
      (bare.isPlain.append isGap.isPlain).append last.isPlain
    have cut : Text.words (first ++ gap) = [String.ofList first] := by
      rw [Text.words_append_blanks isGap.all_isBlank, bare.words_eq]
    refine ⟨first ++ gap, second, rfl, ?_, plain, last, by simpa [cut] using member⟩
    rw [List.getLast?_append_of_ne_nil _ nonempty, List.getLast?_eq_some_getLast nonempty]
    exact (isGap _ (List.getLast_mem nonempty)).1

namespace Parts

variable {heading : Heading} {written start last : List Char}
  (parts : Parts heading written start last)
include parts

theorem splitWords_cons {word : List Char} (same : trimColons word = last) (words : List String) :
    splitWords (Text.words start ++ String.ofList word :: words) =
      (some heading, contentWords heading words) := by
  have starts := begins_append (Text.words start) (String.ofList word) words
  rw [String.toList_ofList, same] at starts
  rw [splitWords, spelling?_eq_some parts.spelled starts]
  simp

variable {tail : List Char}

theorem splitWords_append (broken : tail.head?.all Text.isBlank) :
    splitWords (Text.words (written ++ tail)) =
      (some heading, contentWords heading (Text.words tail)) := by
  rw [parts.whole, List.append_assoc, Text.words_append_of_getLast? parts.starts,
    Text.words_append broken, parts.bare.words_eq, List.singleton_append,
    parts.splitWords_cons parts.bare.trimColons_eq]

theorem splitWords_append_colon (broken : tail.head?.all Text.isBlank) :
    splitWords (Text.words (written ++ ':' :: tail)) =
      (some heading, contentWords heading (Text.words tail)) := by
  have colon : IsWord (String.ofList (last ++ [':'])) := by
    rw [String.ofList_append]
    exact parts.bare.isWord.append (by decide)
  have word := Text.words_of_isWord colon
  rw [String.toList_ofList] at word
  have trimmed : trimColons (last ++ [':']) = last := by
    rw [trimColons_concat, parts.bare.trimColons_eq]
  rw [parts.whole, List.append_assoc, Text.words_append_of_getLast? parts.starts, List.append_cons,
    Text.words_append broken, word, List.singleton_append, parts.splitWords_cons trimmed]

end Parts

theorem dropColon_colon (words : List String) : dropColon (":" :: words) = words := by
  simp [dropColon, Text.words_nil]

end Heading

theorem Token.scan_ne_ok_of_colon {content : List Char} {others : List String}
    (cut : Text.words content = ":" :: others) (tokens : List Token) :
    scan content ≠ .ok tokens := by
  intro scanned
  obtain ⟨lexemes, found, _⟩ := scan_eq_ok.mp scanned
  have colon : Lexeme.scan ":".toList = .error ':' := by
    rw [Lexeme.scan_eq]
    rfl
  rw [Lexeme.scan_eq_words, cut, List.mapM_cons, colon] at found
  cases found

/-- A place in a text where a line starts with a heading that no colon follows. Behind the heading
comes a gap, in whose place a colon can be set, and then a blank, a comment or the end of the line. -/
structure HeadingSite where
  before : List Char
  indent : List Char
  heading : Heading
  written : List Char
  gap : List Char
  rest : List Char
  after : List Char
  starts : before = [] ∨ before.getLast? = some '\n'
  indented : IsGap indent
  spelled : heading.Spelled written
  spaced : IsGap gap
  broken : (rest.takeWhile (· != '#')).head?.all Text.isBlank
  unmarked : (Text.dropBlanks (rest.takeWhile (· != '#'))).head? ≠ some ':'
  whole : '\n' ∉ rest
  ends : after = [] ∨ after.head? = some '\n'

namespace HeadingSite

variable (site : HeadingSite)

def line (tail : List Char) : List Char :=
  site.indent ++ (site.written ++ tail)

def textWith (tail : List Char) : String :=
  String.ofList (site.before ++ (site.line tail ++ site.after))

def text : String :=
  site.textWith (site.gap ++ site.rest)

/-- The text with a colon behind the heading and a gap, which may be the one that is there. -/
def marked (gap : List Char) : String :=
  site.textWith (gap ++ ':' :: site.rest)

def content : List Char :=
  site.rest.takeWhile (· != '#')

variable {site}

theorem not_mem_line {gap tail : List Char} (isGap : IsGap gap) (whole : '\n' ∉ tail) :
    '\n' ∉ site.line (gap ++ tail) := by
  obtain ⟨_, _, parts⟩ := site.spelled.exists_parts
  simp [line, site.indented.isPlain.2, parts.plain.2, isGap.isPlain.2, whole]

theorem lineWords_line (tail : List Char) :
    lineWords (site.line tail) = Text.words (site.written ++ tail.takeWhile (· != '#')) := by
  obtain ⟨_, _, parts⟩ := site.spelled.exists_parts
  rw [lineWords, line, site.indented.isPlain.takeWhile_append, parts.plain.takeWhile_append,
    site.indented.words_append]

theorem takeWhile_colon : (':' :: site.rest).takeWhile (· != '#') = ':' :: site.content :=
  List.takeWhile_cons_of_pos (by decide)

theorem splitWords_text : Heading.splitWords (lineWords (site.line (site.gap ++ site.rest))) =
    (some site.heading, Heading.contentWords site.heading (Text.words site.content)) := by
  obtain ⟨start, last, parts⟩ := site.spelled.exists_parts
  have broken : (site.gap ++ site.content).head?.all Text.isBlank := by
    by_cases empty : site.gap = []
    · rw [empty]
      exact site.broken
    · exact site.spaced.head?_append _ empty
  rw [lineWords_line, site.spaced.isPlain.takeWhile_append, ← content,
    parts.splitWords_append broken, site.spaced.words_append]

theorem splitWords_attached : Heading.splitWords (lineWords (site.line (':' :: site.rest))) =
    (some site.heading, Heading.contentWords site.heading (Text.words site.content)) := by
  obtain ⟨start, last, parts⟩ := site.spelled.exists_parts
  have broken : site.content.head?.all Text.isBlank := site.broken
  rw [lineWords_line, takeWhile_colon, parts.splitWords_append_colon broken]

theorem splitWords_detached {gap : List Char} (isGap : IsGap gap) (nonempty : gap ≠ []) :
    Heading.splitWords (lineWords (site.line (gap ++ ':' :: site.rest))) =
      (some site.heading, Heading.contentWords site.heading (":" :: Text.words site.content)) := by
  obtain ⟨start, last, parts⟩ := site.spelled.exists_parts
  have alone : Text.words (':' :: site.content) = ":" :: Text.words site.content :=
    Text.words_append site.broken [':']
  rw [lineWords_line, isGap.isPlain.takeWhile_append, takeWhile_colon,
    parts.splitWords_append (isGap.head?_append _ nonempty), isGap.words_append, alone]

theorem dropColon_content :
    Heading.dropColon (Text.words site.content) = Text.words site.content := by
  have kept : Heading.afterColon site.content = Text.dropBlanks site.content := by
    rw [Heading.afterColon]
    split
    · rename_i rest colon
      exact absurd (congrArg List.head? colon) site.unmarked
    · rfl
  rw [← Heading.words_afterColon, kept, Text.words_dropBlanks]

/-- With a colon behind a heading, attached or not, a text is read as without it, but the heading of
the end takes an attached colon only. -/
theorem parse_marked {F : Type} [Scalar F] [Literal F] {problem : Problem F}
    (read : (Problem.parse site.text).outcome = .ok problem) {gap : List Char} (isGap : IsGap gap) :
    (site.heading ≠ .ending ∨ gap = [] →
      (Problem.parse (site.marked gap)).outcome = .ok problem) ∧
    (site.heading = .ending → gap ≠ [] →
      ∀ other : Problem F, (Problem.parse (site.marked gap)).outcome ≠ .ok other) := by
  rw [Problem.outcome_parse] at read
  simp only [Problem.outcome_parse]
  have colonWhole : '\n' ∉ ':' :: site.rest := by simp [site.whole]
  have textWhole : '\n' ∉ site.line (site.gap ++ site.rest) := not_mem_line site.spaced site.whole
  have markedWhole : '\n' ∉ site.line (gap ++ ':' :: site.rest) := not_mem_line isGap colonWhole
  constructor
  · intro optional
    have same : Heading.splitWords (lineWords (site.line (gap ++ ':' :: site.rest))) =
        (some site.heading, Heading.contentWords site.heading (Text.words site.content)) := by
      by_cases attached : gap = []
      · rw [attached, List.nil_append, splitWords_attached]
      · have other : site.heading ≠ .ending := optional.resolve_right attached
        rw [splitWords_detached isGap attached]
        simp only [Heading.contentWords, other, if_false, dropColon_content,
          Heading.dropColon_colon]
    exact (Problem.read_congr_line site.starts textWhole markedWhole site.ends splitWords_text same
      problem).mp read
  · intro ending nonempty other readOther
    have marked : Heading.splitWords (lineWords (site.line (gap ++ ':' :: site.rest))) = _ :=
      splitWords_detached isGap nonempty
    have inside :
        lineWords (site.line (gap ++ ':' :: site.rest)) ∈ wordLines (site.marked gap) := by
      rw [HeadingSite.marked, textWith,
        wordLines_append site.starts markedWhole site.ends (lineWords_ne_nil marked)]
      simp
    -- The content of the end keeps its colon, and no token starts with one.
    obtain ⟨content, tokens, cut, scanned⟩ := Problem.exists_scan_of_read readOther inside
    rw [marked, ending] at cut
    exact Token.scan_ne_ok_of_colon cut tokens scanned

def suchThat : HeadingSite where
  before := "max 2 x\n".toList
  indent := [' ']
  heading := .constraints
  written := "Such".toList ++ ['\t'] ++ "That".toList
  gap := []
  rest := " y <= 8 # most\r".toList
  after := "\nEND\r\n".toList
  starts := by decide
  indented := by decide
  spelled := .pair (by decide) (by decide) (by decide)
  spaced := by decide
  broken := by decide
  unmarked := by decide
  whole := by decide
  ends := by decide

def atEnd : HeadingSite where
  before := "min x\n".toList
  indent := []
  heading := .ending
  written := "end".toList
  gap := []
  rest := []
  after := ['\n']
  starts := by decide
  indented := by decide
  spelled := .word (by decide)
  spaced := by decide
  broken := by decide
  unmarked := by decide
  whole := by decide
  ends := by decide

def doubled : Problem Rat where
  sense := .maximize
  objective := .single (.scaled 2 "x")
  constraints := [.simple .lessEqual (.single (.bare "y")) 8]
  bounds := []

def bareMinimum : Problem Rat where
  sense := .minimize
  objective := .single (.bare "x")
  constraints := []
  bounds := []

theorem marked_sites_read :
    suchThat.marked [' '] = "max 2 x\n Such\tThat : y <= 8 # most\r\nEND\r\n" ∧
      (Problem.parse (suchThat.marked [' '])).outcome = .ok doubled ∧
      (Problem.parse (atEnd.marked [])).outcome = .ok bareMinimum ∧
      ∀ other : Problem Rat, (Problem.parse (atEnd.marked [' '])).outcome ≠ .ok other := by
  have read : (Problem.parse suchThat.text).outcome = .ok doubled := by decide +kernel
  have readEnd : (Problem.parse atEnd.text).outcome = .ok bareMinimum := by decide +kernel
  have space : IsGap [' '] := by decide
  refine ⟨by decide +kernel, ?_, ?_, ?_⟩
  · exact (parse_marked read space).1 (.inl (by decide))
  · exact (parse_marked readEnd (by decide)).1 (.inr rfl)
  · exact (parse_marked readEnd space).2 rfl (by decide)

/-- A colon that stands by itself behind the end is taken for content. -/
theorem detached_end_colon_refused :
    atEnd.text = "min x\nend\n" ∧ atEnd.marked [' '] = "min x\nend :\n" ∧
      (Problem.parse "min x\nend\n").outcome = .ok bareMinimum ∧
      (Problem.parse "min x\nend :\n" : Traced ParseError (Problem Rat)).outcome =
        .error ((ParseError.new (.unexpectedCharacter ':' " :")).located ⟨2, "end :"⟩) := by
  decide +kernel

end HeadingSite

end LinearProgram
