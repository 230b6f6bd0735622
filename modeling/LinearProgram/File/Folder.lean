import LinearProgram.Text.Glyph
import LinearProgram.Text.Utf8

namespace LinearProgram

structure Path where
  bytes : List UInt8
deriving DecidableEq

namespace Path

abbrev Name := List UInt8

def slash : UInt8 := 0x2f

def dot : UInt8 := 0x2e

def splitOn (separator : UInt8) : List UInt8 → List (List UInt8)
  | [] => [[]]
  | byte :: rest =>
    if byte = separator then [] :: splitOn separator rest
    else
      match splitOn separator rest with
      | [] => [[byte]]
      | piece :: pieces => (byte :: piece) :: pieces

def isIdle (piece : Name) : Bool :=
  piece = [] ∨ piece = [dot]

def isParent (piece : Name) : Bool :=
  piece = [dot, dot]

def steps (path : Path) : List Name :=
  (splitOn slash path.bytes).filter fun piece => !isIdle piece

def fileName? (path : Path) : Option Name :=
  path.steps.getLast?.filter fun name => !isParent name

/-- The stem and the extension of a file name, which are on the two sides of its last dot, unless
that comes first. -/
def splitName (name : Name) : Name × Option Name :=
  let (reversed, rest) := name.reverse.span (· ≠ dot)
  match rest with
  | _ :: first :: before => ((first :: before).reverse, some reversed.reverse)
  | _ => (name, none)

def extension? (path : Path) : Option Name :=
  path.fileName?.bind fun name => (splitName name).2

def stem? (path : Path) : Option Name :=
  path.fileName?.map fun name => (splitName name).1

def hexadecimalDigit (n : Nat) : Char :=
  (Nat.digitChar n).toUpper

def quotePiece : Text.Utf8.Piece → String
  | .char c => Text.escape c
  | .broken bytes => String.join (bytes.map fun byte =>
      "\\x" ++ String.ofList [hexadecimalDigit (byte.toNat / 16), hexadecimalDigit (byte.toNat % 16)])

def quote (bytes : List UInt8) : String :=
  "\"" ++ String.join ((Text.Utf8.pieces bytes).map quotePiece) ++ "\""

def display (path : Path) : String :=
  Text.Utf8.decodeLossy path.bytes

end Path

inductive FileFault where
  | notFound
  | isDirectory
  | nameTooLong
  | nulInName
  | notText
deriving DecidableEq

def FileFault.message : FileFault → String
  | .notFound => "No such file or directory (os error 2)"
  | .isDirectory => "Is a directory (os error 21)"
  | .nameTooLong => "File name too long (os error 36)"
  | .nulInName => "file name contained an unexpected NUL byte"
  | .notText => "stream did not contain valid UTF-8"

/-- A directory without subdirectories: files by the steps that lead to them. -/
structure Folder where
  files : List (List Path.Name × List UInt8)

namespace Folder

def empty : Folder :=
  ⟨[]⟩

/-- How many bytes a whole path may have: one is left for the NUL that ends it. -/
def longestPath : Nat :=
  4095

def longestName : Nat :=
  255

/-- The steps to a file, which is in the directory itself or in one above it. A path that is too
long fails before any of its steps is looked at. -/
def locate (path : Path) : Except FileFault (List Path.Name) :=
  if path.bytes.contains 0 then .error .nulInName
  else if longestPath < path.bytes.length then .error .nameTooLong
  else
    let isShort (name : Path.Name) : Bool := name.length ≤ longestName
    match path.steps.dropWhile Path.isParent with
    | [] => .error .notFound
    | [name] => if isShort name then .ok path.steps else .error .nameTooLong
    | name :: _ => .error (if isShort name then .notFound else .nameTooLong)

def read (folder : Folder) (path : Path) : Except FileFault (List UInt8) := do
  let steps ← locate path
  match folder.files.lookup steps with
  | some bytes => .ok bytes
  | none => .error .notFound

/-- Writes a file in place of one that is there. A path that goes on after the name asks for a
directory. -/
def write (folder : Folder) (path : Path) (bytes : List UInt8) : Except FileFault Folder := do
  let steps ← locate path
  let trailing := (Path.splitOn Path.slash path.bytes).reverse.takeWhile Path.isIdle
  if trailing.any (· ≠ []) then .error .notFound
  else if trailing ≠ [] then .error .isDirectory
  else .ok ⟨(steps, bytes) :: folder.files.filter fun file => file.1 ≠ steps⟩

end Folder

end LinearProgram
