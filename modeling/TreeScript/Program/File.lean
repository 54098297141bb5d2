import TreeScript.Config
import TreeScript.Document.Json
import TreeScript.Document.Yaml
import TreeScript.Program.Load
import TreeScript.Text.Casing

/-! # Program and configuration files

A program file is in JSON notation if its name says so and in YAML notation otherwise; configuration
files are in YAML notation.
-/

namespace TreeScript

/-- The ending of the last part of a path, from its last point on; a point at either end of the part
makes no ending. -/
def pathEnding (path : String) : String :=
  let name := ((path.splitOn "/").getLastD "").toList
  let ending := name.reverse.takeWhile (· != '.')
  if ending.isEmpty || name.length ≤ ending.length + 1 then ""
  else String.ofList ('.' :: ending.reverse)

/-- A text in which every line ends with a line feed. -/
def withLineFeeds (text : String) : String :=
  let rec convert : List Char → List Char
    | '\r' :: '\n' :: rest => '\n' :: convert rest
    | '\r' :: rest => '\n' :: convert rest
    | c :: rest => c :: convert rest
    | [] => []
  String.ofList (convert text.toList)

/-- Why a program file holds no program. -/
inductive FileError where
  | missing (path : String)
  | blocked (cause : Blocked)
  /-- The file is not in its notation. -/
  | unreadable (path : String)
  | badScalar (cause : Yaml.BadScalar)
  | load (cause : LoadError)

/-- What a text that is not in its notation is reported as. -/
def notationMessage : String := "malformed document"

def FileError.message : FileError → String
  | missing path => "program file not found: " ++ path
  | blocked cause => cause.message
  | unreadable path => "failed to parse " ++ path ++ ": " ++ notationMessage
  | badScalar cause => cause.message
  | load cause => cause.message

/-- The document in a program file. -/
def parseProgram (path text : String) : Except Yaml.Problem Document :=
  let text := withLineFeeds text
  if lowerCase (pathEnding path) = ".json" then
    match Document.ofJson? text with
    | some document => .ok document
    | none => .error .malformed
  else Document.ofYaml text

/-- The program in a file. -/
def loadProgram (files : Files) (path : String) : Except FileError (List Node) :=
  let path := normalizePath path
  match files path with
  | .nothing => .error (.missing path)
  | .blocked cause => .error (.blocked cause)
  | .text text =>
    match parseProgram path text with
    | .error .malformed => .error (.unreadable path)
    | .error (.badScalar cause) => .error (.badScalar cause)
    | .ok document =>
      match (programOfDocument document).run 0 with
      | .ok (nodes, _) => .ok nodes
      | .error cause => .error (.load cause)

/-- The settings in a file. -/
def loadConfig (files : Files) (path : String) : Except ConfigError Config :=
  let path := normalizePath path
  match files path with
  | .nothing => .error (.missingFile path)
  | .blocked cause => .error (.blocked cause)
  | .text text =>
    match Document.ofYaml (withLineFeeds text) with
    | .error .malformed => .error (.unreadable notationMessage)
    | .error (.badScalar cause) => .error (.badScalar cause)
    | .ok document => Config.ofDocument document

end TreeScript
