import TreeScript.Program.LoadError
import TreeScript.Resource.File
import TreeScript.Yaml.Problem

/-! # Settings of a run

Settings are taken as they are written: what a setting means for a value that it was not made for is
decided where the setting is used.
-/

namespace TreeScript

structure Config where
  fetchTimeout : Document
  memoizePure : Document
  maxErrors : Document
  randomSeed : Document
  logLevel : Document

/-- What is wrong with a configuration. -/
inductive ConfigError where
  | unknownKeys (names : List String)
  | broken (cause : Breakdown)
  | notAMapping
  | missingFile (path : String)
  | blocked (cause : Blocked)
  /-- The file is not in the notation of documents. -/
  | unreadable (reason : String)
  | badScalar (cause : Yaml.BadScalar)

def ConfigError.message : ConfigError → String
  | unknownKeys names => "unknown configuration key(s): " ++ ", ".intercalate names
  | broken cause => cause.message
  | notAMapping => "configuration root must be a mapping"
  | missingFile path => "configuration file not found: " ++ path
  | blocked cause => cause.message
  | unreadable reason => "failed to parse configuration: " ++ reason
  | badScalar cause => cause.message

/-- Whether a document holds as a condition. -/
def Document.isTruthy : Document → Bool
  | scalar .null => false
  | scalar (.bool value) => value
  | scalar (.int value) => value != 0
  | scalar (.float value) => !value.isZero
  | scalar (.string text) => !text.isEmpty
  | scalar (.date _) | scalar (.moment _) => true
  | list items => !items.isEmpty
  | mapping entries => !entries.isEmpty

namespace Config

def default : Config where
  fetchTimeout := .scalar (.float (Binary64.ofInt 10))
  memoizePure := .scalar (.bool true)
  maxErrors := .scalar (.int 20)
  randomSeed := .null
  logLevel := .string "WARNING"

/-- Change the setting with a name; other names change nothing. -/
def set (config : Config) (name : String) (value : Document) : Config :=
  match name with
  | "fetch_timeout" => { config with fetchTimeout := value }
  | "memoize_pure" => { config with memoizePure := value }
  | "max_errors" => { config with maxErrors := value }
  | "random_seed" => { config with randomSeed := value }
  | "log_level" => { config with logLevel := value }
  | _ => config

def names : List String :=
  ["fetch_timeout", "memoize_pure", "max_errors", "random_seed", "log_level"]

/-- Whether a key names a setting. -/
def isKnown : Scalar → Bool
  | .string name => names.contains name
  | _ => false

/-- The settings in a mapping, the others at their defaults. -/
def ofEntries (entries : List (Scalar × Document)) : Except ConfigError Config :=
  let unknown := (entries.map (·.1)).filter fun key => !isKnown key
  if unknown.isEmpty then
    .ok (entries.foldl (fun config (key, value) => config.set key.plain value) default)
  else match Scalar.namesInOrder unknown with
    | .ok names => .error (.unknownKeys names)
    | .error cause => .error (.broken cause)

/-- The settings in a document; an empty one has none. -/
def ofDocument : Document → Except ConfigError Config
  | .scalar .null => .ok default
  | .mapping entries => ofEntries entries
  | _ => .error .notAMapping

/-- Whether a document can seed random numbers. -/
def isSeed : Document → Bool
  | .scalar (.date _) | .scalar (.moment _) => false
  | .scalar _ => true
  | _ => false

/-- How a run with an unfit seed fails. -/
def seedMessage : String :=
  "The only supported seed types are: None,\nint, float, str, bytes, and bytearray."

/-- The number of errors at which a check stops, if the setting is a number: none means that a check
never stops. -/
def errorLimit? (config : Config) : Option (Option Int) :=
  match config.maxErrors with
  | .scalar (.bool value) => some (some (if value then 1 else 0))
  | .scalar (.int value) => some (some value)
  | .scalar (.float (.infinite true)) => some (some 0)
  | .scalar (.float value) => some value.ceil?
  | _ => none

end Config

end TreeScript
