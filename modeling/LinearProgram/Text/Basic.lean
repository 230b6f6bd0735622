namespace LinearProgram.Text

def inSpans (spans : List (Nat × Nat)) (c : Char) : Bool :=
  spans.any fun span => span.1 ≤ c.toNat && c.toNat ≤ span.2

theorem inSpans_iff {spans : List (Nat × Nat)} {c : Char} :
    inSpans spans c ↔ ∃ span ∈ spans, span.1 ≤ c.toNat ∧ c.toNat ≤ span.2 := by
  simp [inSpans]

/-- The characters with the Unicode property White_Space. -/
def blankSpans : List (Nat × Nat) :=
  [(0x9, 0xd), (0x20, 0x20), (0x85, 0x85), (0xa0, 0xa0), (0x1680, 0x1680), (0x2000, 0x200a),
   (0x2028, 0x2029), (0x202f, 0x202f), (0x205f, 0x205f), (0x3000, 0x3000)]

def isBlank (c : Char) : Bool :=
  inSpans blankSpans c

def dropBlanks (text : List Char) : List Char :=
  text.dropWhile isBlank

theorem length_dropBlanks_le (text : List Char) : (dropBlanks text).length ≤ text.length :=
  (List.dropWhile_suffix isBlank).length_le

def firstWord (text : List Char) : List Char × List Char :=
  (dropBlanks text).span fun c => !isBlank c

/-- Cuts a text after each line feed. A carriage return directly before a line feed belongs to the
line end, and a text that ends with a line feed has no further empty line. -/
def splitLines : List Char → List (List Char)
  | [] => []
  | '\n' :: rest => [] :: splitLines rest
  | '\r' :: '\n' :: rest => [] :: splitLines rest
  | c :: rest =>
    match splitLines rest with
    | [] => [[c]]
    | line :: lines => (c :: line) :: lines

def spaces (n : Nat) : String :=
  "".pushn ' ' n

def padRight (width : Nat) (text : String) : String :=
  text ++ spaces (width - text.length)

def padLeft (width : Nat) (text : String) : String :=
  spaces (width - text.length) ++ text

def center (width : Nat) (text : String) : String :=
  let missing := width - text.length
  spaces (missing / 2) ++ text ++ spaces (missing - missing / 2)

def unlines (lines : List String) : String :=
  String.join (lines.map (· ++ "\n"))

end LinearProgram.Text
