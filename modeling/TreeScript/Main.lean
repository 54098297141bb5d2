import Std.Time.DateTime.Timestamp
import TreeScript.CommandLine.Run
import TreeScript.Log.Time

/-! # The program -/

open TreeScript TreeScript.CommandLine

/-- What paths lead to. -/
def findFiles (paths : List String) : IO (List (String × Found)) :=
  paths.foldlM (fun known (path : String) => do
    try
      let text ← IO.FS.readFile path
      return (path, .text text) :: known
    catch _ =>
      let isDirectory ← try
          let _ ← IO.FS.realPath (path ++ "/.")
          pure true
        catch _ => pure false
      return (if isDirectory then (path, .blocked .directory) :: known else known)) []

/-- How deep and how long a program may run. -/
def effortAllowed : Nat := 1000000000

def main (args : List String) : IO UInt32 := do
  match CommandLine.parse args with
  | .error .help =>
    IO.print usage
    return 0
  | .error .misuse =>
    IO.eprint usage
    return 2
  | .ok arguments =>
    let files ← findFiles arguments.paths
    let now ← Std.Time.Timestamp.now
    let clock := now.toMillisecondsSinceUnixEpoch.val
    let bytes ← IO.getRandomBytes 8
    let entropy := bytes.toList.foldl (fun seed byte => seed * 256 + byte.toUInt64) 0
    let known (path : String) : Found := (files.lookup path).getD .nothing
    let transport (_ : Contact) : Except String String :=
      .error "<urlopen error no network is available>"
    let env : Environment :=
      ⟨known, fun config => config.host clock entropy known transport, effortAllowed⟩
    let (result, console) := runArguments env (.ofMilliseconds clock.toNat) arguments
    IO.print console.out
    IO.eprint console.err
    match result with
    | .ok code => return code
    | .error crash =>
      IO.eprintln crash.message
      return 1
