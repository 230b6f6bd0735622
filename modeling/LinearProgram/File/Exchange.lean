import LinearProgram.Algebraic.Program
import LinearProgram.Compile.Model
import LinearProgram.File.Folder
import LinearProgram.Mps.Writer

namespace LinearProgram

inductive FileError where
  | undecodableExtension (extension : Path.Name)
  | missingExtension (path : Path)
  | unknownSource (extension : String) (path : Path)
  | unknownTarget (extension : String) (path : Path)
  | storage (fault : FileFault)
  | parse (error : ParseError)
  | compile (error : CompileError)
deriving DecidableEq

namespace FileError

def message : FileError → String
  | .undecodableExtension extension =>
    "Could not convert OsStr to &str, probably invalid unicode: " ++ Path.quote extension
  | .missingExtension path =>
    "Could not read extension from file path: " ++ Path.quote path.bytes
  | .unknownSource extension path =>
    "Could not recognise file extension \"" ++ extension ++ "\" of file: " ++
      Path.quote path.bytes
  | .unknownTarget extension path =>
    "Could not write a model with file extension \"" ++ extension ++ "\" to file: " ++
      Path.quote path.bytes
  | .storage fault => fault.message
  | .parse error => error.message
  | .compile error => error.message

def causes : FileError → List String
  | .storage fault => [fault.message]
  | .parse error => error.message :: error.causes
  | .compile error => [error.message]
  | _ => []

end FileError

inductive Halt where
  | parse (error : ParseError)
  | compile (error : CompileError)
  | file (error : FileError)
  | overflow (overflow : Overflow)
deriving DecidableEq

def CompileFailure.halt : CompileFailure → Halt
  | .rejected error => .compile error
  | .overflow cause => .overflow cause

def Problem.compileText {F : Type} [Scalar F] [Literal F] (stem text : String) :
    Traced Halt (Model F) := do
  let problem ← (Problem.parse text).mapError Halt.parse
  (problem.compile stem).mapError CompileFailure.halt

variable {F : Type} [Scalar F]

def Path.extensionText (path : Path) : Except FileError String :=
  match path.extension? with
  | none => .error (.missingExtension path)
  | some extension =>
    match Text.Utf8.decode? extension with
    | some text => .ok text
    | none => .error (.undecodableExtension extension)

def Folder.readText (folder : Folder) (path : Path) : Except FileFault String := do
  match Text.Utf8.decode? (← folder.read path) with
  | some text => .ok text
  | none => .error .notText

def Path.requireAlgebraic (path : Path) : Except FileError Unit := do
  let extension ← path.extensionText
  if extension = "alp" then .ok () else .error (.unknownSource extension path)

def Folder.importProblem [Literal F] (folder : Folder) (path : Path) :
    Traced FileError (Problem F) := do
  Traced.ofExcept path.requireAlgebraic
  let text ← Traced.ofExcept ((folder.readText path).mapError .storage)
  let problem ← (Problem.parse text).mapError FileError.parse
  Traced.emit (.imported path.display)
  return problem

def Path.requireMps (path : Path) : Except FileError Unit := do
  let extension ← path.extensionText
  if extension = "mps" then .ok () else .error (.unknownTarget extension path)

def Path.programName (path : Path) : String :=
  (path.stem?.bind Text.Utf8.decode?).getD ""

def Folder.exportModel (folder : Folder) (path : Path) (model : Model F) :
    Traced Halt Folder := do
  Traced.ofExcept (path.requireMps.mapError .file)
  let text ← (model.mps path.programName).mapError Halt.overflow
  let written := folder.write path text.toUTF8.toList
  let folder ← Traced.ofExcept (written.mapError fun fault => .file (.storage fault))
  Traced.emit (.exported path.display)
  return folder

def Folder.importModel [Literal F] (folder : Folder) (path : Path) : Traced Halt (Model F) := do
  let problem ← (folder.importProblem path).mapError Halt.file
  (problem.compile NameSource.defaultStem).mapError fun
    | .rejected error => .file (.compile error)
    | .overflow cause => .overflow cause

end LinearProgram
