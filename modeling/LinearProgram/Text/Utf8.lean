namespace LinearProgram.Text.Utf8

/-- A character, or the longest run of bytes that begins a character and does not end it. -/
inductive Piece where
  | char (c : Char)
  | broken (bytes : List UInt8)
deriving DecidableEq

def continuations (first : UInt8) : Option (List (UInt8 × UInt8)) :=
  if first < 0x80 then some []
  else if first < 0xc2 then none
  else if first < 0xe0 then some [(0x80, 0xbf)]
  else if first = 0xe0 then some [(0xa0, 0xbf), (0x80, 0xbf)]
  else if first = 0xed then some [(0x80, 0x9f), (0x80, 0xbf)]
  else if first < 0xf0 then some [(0x80, 0xbf), (0x80, 0xbf)]
  else if first = 0xf0 then some [(0x90, 0xbf), (0x80, 0xbf), (0x80, 0xbf)]
  else if first < 0xf4 then some [(0x80, 0xbf), (0x80, 0xbf), (0x80, 0xbf)]
  else if first = 0xf4 then some [(0x80, 0x8f), (0x80, 0xbf), (0x80, 0xbf)]
  else none

def matching : List (UInt8 × UInt8) → List UInt8 → List UInt8
  | (low, high) :: spans, byte :: bytes =>
    if low ≤ byte ∧ byte ≤ high then byte :: matching spans bytes else []
  | _, _ => []

def codePoint (first : UInt8) (rest : List UInt8) : Nat :=
  let marker := match rest.length with
    | 0 => 0
    | 1 => 0xc0
    | 2 => 0xe0
    | _ => 0xf0
  rest.foldl (fun value byte => 64 * value + byte.toNat % 64) (first.toNat - marker)

def pieces (bytes : List UInt8) : List Piece :=
  match bytes with
  | [] => []
  | first :: rest =>
    match continuations first with
    | none => .broken [first] :: pieces rest
    | some spans =>
      let taken := matching spans rest
      let piece := if taken.length = spans.length then .char (Char.ofNat (codePoint first taken))
        else .broken (first :: taken)
      piece :: pieces (rest.drop taken.length)
termination_by bytes.length
decreasing_by
  · simp
  · simp only [List.length_drop, List.length_cons]; omega

def Piece.char? : Piece → Option Char
  | .char c => some c
  | .broken _ => none

def decode? (bytes : List UInt8) : Option String :=
  ((pieces bytes).mapM Piece.char?).map String.ofList

def decodeLossy (bytes : List UInt8) : String :=
  String.ofList ((pieces bytes).map fun piece => piece.char?.getD '\ufffd')

end LinearProgram.Text.Utf8
