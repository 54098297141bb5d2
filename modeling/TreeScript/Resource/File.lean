/-! # Files by their paths

Files are given by a function that tells what a path leads to.
-/

namespace TreeScript

/-- Why a path that leads somewhere cannot be read. -/
inductive Blocked where
  | directory
  | nameTooLong
  deriving DecidableEq

def Blocked.message : Blocked → String
  | directory => "Is a directory"
  | nameTooLong => "File name too long"

/-- What a path leads to. -/
inductive Found where
  | nothing
  | blocked (cause : Blocked)
  | text (content : String)

/-- Files by their paths. -/
abbrev Files := String → Found

/-- A path without repeated slashes and without parts that stay in place. -/
def normalizePath (path : String) : String :=
  let parts := (path.splitOn "/").filter fun part => part != "" && part != "."
  let root := match path.toList with
    | '/' :: '/' :: '/' :: _ => "/"
    | '/' :: '/' :: _ => "//"
    | '/' :: _ => "/"
    | _ => ""
  let joined := root ++ "/".intercalate parts
  if joined.isEmpty then "." else joined

end TreeScript
