import TreeScript.Numeric.Numeral
import TreeScript.Text.Digit

/-! # Arguments of the command line

The command is `check` or `run`, after the options that go with both. Long options may be shortened
as long as they stay clear, and values may follow after an equals sign. Several short options may
stand in one argument, as long as all but the last take no value; a letter that is no option spoils
the whole argument. All arguments are sorted into options and others before any is looked at; then
they are taken in order, so that the first thing wrong, or a request for help, decides.
-/

namespace TreeScript.CommandLine

inductive OptionKind where
  | help
  | flag
  | value
  deriving DecidableEq

/-- An option. `accepts` tells which values it takes. -/
structure OptionRule where
  names : List String
  kind : OptionKind
  accepts : String → Bool

/-- Why there are no arguments to work with. -/
inductive Refusal where
  | help
  | misuse
  deriving DecidableEq

/-- What follows the name of an option in its argument. -/
inductive Given where
  | nothing
  /-- The rest of an argument that starts with a short option, less an equals sign in front. -/
  | joined (text : String)
  /-- The text after the equals sign that ends a long option. -/
  | assigned (text : String)

/-- What an argument looks like. -/
inductive Word where
  | other (text : String)
  /-- Two dashes on their own: no options follow. -/
  | divider
  | option (rule : OptionRule) (given : Given)
  | unknown

/-- The value of an option; two dashes in its place leave none. -/
abbrev Operand := Option String

/-- An argument that was taken. -/
inductive Item where
  | other (text : String)
  | divider
  | option (name : String) (value : Operand)
  | unknown

def startsWith (text start : String) : Bool := start.toList.isPrefixOf text.toList

/-- A text cut at its first equals sign. -/
def atEquals? (text : String) : Option (String × String) :=
  let cs := text.toList
  if cs.contains '=' then
    some (String.ofList (cs.takeWhile (· != '=')), String.ofList ((cs.dropWhile (· != '=')).drop 1))
  else none

def ruleNamed? (rules : List OptionRule) (name : String) : Option OptionRule :=
  rules.find? (·.names.contains name)

/-- The options that an argument may be short for, with the value it gives. -/
def candidates (rules : List OptionRule) (arg : String) : List (OptionRule × Given) :=
  if startsWith arg "--" then
    let (start, given) := match atEquals? arg with
      | some (start, given) => (start, Given.assigned given)
      | none => (arg, Given.nothing)
    rules.flatMap fun rule =>
      (rule.names.filter (startsWith · start)).map fun _ => (rule, given)
  else
    let short := String.ofList (arg.toList.take 2)
    let given := String.ofList (arg.toList.drop 2)
    rules.flatMap fun rule => rule.names.filterMap fun name =>
      if name = short then some (rule, .joined given)
      else if startsWith name arg then some (rule, .nothing)
      else none

/-- Whether an argument is a negative number rather than an option. -/
def isNegativeNumber (arg : String) : Bool :=
  match arg.toList with
  | '-' :: rest =>
    let whole := rest.takeWhile isDecimal
    match rest.drop whole.length with
    | [] => !whole.isEmpty
    | '.' :: fraction => !fraction.isEmpty && fraction.all isDecimal
    | _ => false
  | _ => false

/-- What an argument is; none if it may be short for several options. -/
def wordOf? (rules : List OptionRule) (arg : String) : Option Word :=
  if !startsWith arg "-" || arg == "-" then some (.other arg)
  else match ruleNamed? rules arg with
    | some rule => some (.option rule .nothing)
    | none =>
      let exact := (atEquals? arg).bind fun (name, given) =>
        (ruleNamed? rules name).map fun rule =>
          Word.option rule (if startsWith name "--" then .assigned given else .joined given)
      match exact, candidates rules arg with
      | some word, _ => some word
      | none, [(rule, given)] => some (.option rule given)
      | none, _ :: _ :: _ => none
      | none, [] =>
        if isNegativeNumber arg || arg.toList.contains ' ' then some (.other arg) else some .unknown

/-- What all arguments are; after a divider none is an option. -/
def wordsOf? (rules : List OptionRule) : List String → Option (List Word)
  | [] => some []
  | "--" :: rest => some (.divider :: rest.map Word.other)
  | arg :: rest => do
    let word ← wordOf? rules arg
    return word :: (← wordsOf? rules rest)

/-- How the options in one argument end. -/
inductive ClusterEnd where
  | complete
  | given (rule : OptionRule) (value : String)
  /-- An option that takes its value from the next argument. -/
  | needsValue (rule : OptionRule)

/-- The options in one argument: some that take no value, and how they end. -/
structure Cluster where
  flags : List OptionRule
  last : ClusterEnd

/-- The short options after one that takes no value, in the same argument. -/
def shortOptions (rules : List OptionRule) : List Char → Except Refusal Cluster
  | [] => .ok ⟨[], .complete⟩
  | c :: rest =>
    match ruleNamed? rules (String.ofList ['-', c]) with
    | none => .error .misuse
    | some rule =>
      match rule.kind, rest with
      | .value, [] => .ok ⟨[], .needsValue rule⟩
      | .value, value => .ok ⟨[], .given rule (String.ofList value)⟩
      | _, rest => do
        let cluster ← shortOptions rules rest
        return { cluster with flags := rule :: cluster.flags }

/-- The options in an argument that starts with an option. -/
def clusterOf (rules : List OptionRule) (rule : OptionRule) (given : Given) :
    Except Refusal Cluster :=
  match rule.kind, given with
  | .value, .nothing => .ok ⟨[], .needsValue rule⟩
  | .value, .joined value | .value, .assigned value => .ok ⟨[], .given rule value⟩
  | _, .nothing => .ok ⟨[rule], .complete⟩
  | _, .joined "" | _, .assigned _ => .error .misuse
  | _, .joined rest => do
    let cluster ← shortOptions rules rest.toList
    return { cluster with flags := rule :: cluster.flags }

/-- Take an option with its value. -/
def takeValue (rule : OptionRule) (value : String) : Except Refusal Item :=
  let name := rule.names.getLastD ""
  if rule.kind = .help then .error .help
  else if value = "--" then .ok (.option name none)
  else if rule.accepts value then .ok (.option name (some value))
  else .error .misuse

/-- Take options without values and then, perhaps, one with a value. -/
def takeOptions (flags : List OptionRule) (last : Option (OptionRule × String)) :
    Except Refusal (List Item) := do
  let taken ← flags.mapM fun rule => takeValue rule ""
  match last with
  | some (rule, value) => return taken ++ [← takeValue rule value]
  | none => return taken

/-- Take arguments in order, up to the first one that is no option if `stops` is set; the number of
arguments taken comes with them. -/
def takeItems (rules : List OptionRule) (stops : Bool) :
    List Word → Except Refusal (List Item × Nat)
  | [] => .ok ([], 0)
  | .other text :: rest =>
    if stops then .ok ([.other text], 1)
    else do
      let (items, count) ← takeItems rules stops rest
      return (.other text :: items, count + 1)
  | .divider :: rest =>
    if stops then .error .misuse
    else do
      let (items, count) ← takeItems rules stops rest
      return (.divider :: items, count + 1)
  | .unknown :: rest => do
    let (items, count) ← takeItems rules stops rest
    return (.unknown :: items, count + 1)
  | .option rule given :: rest => do
    let cluster ← clusterOf rules rule given
    match cluster.last with
    | .needsValue last =>
      match rest with
      | .other value :: rest =>
        let taken ← takeOptions cluster.flags (some (last, value))
        let (items, count) ← takeItems rules stops rest
        return (taken ++ items, count + 2)
      | _ => throw .misuse
    | .given last value =>
      let taken ← takeOptions cluster.flags (some (last, value))
      let (items, count) ← takeItems rules stops rest
      return (taken ++ items, count + 1)
    | .complete =>
      let taken ← takeOptions cluster.flags none
      let (items, count) ← takeItems rules stops rest
      return (taken ++ items, count + 1)

inductive Command where
  /-- Check a file up to a number of errors, if the limit was given as a number. -/
  | check (file : String) (maxErrors : Option Int)
  | run (file : String) (checks : Bool) (config : Option Operand) (shown : List Operand)

structure Arguments where
  logLevel : Option Operand
  logConfig : Option Operand
  command : Command

def helpRule : OptionRule := ⟨["-h", "--help"], .help, fun _ => true⟩

def valueRule (names : List String) : OptionRule := ⟨names, .value, fun _ => true⟩

def mainRules : List OptionRule :=
  [helpRule, valueRule ["--log-level"], valueRule ["--log-config"]]

def checkRules : List OptionRule :=
  [helpRule, ⟨["--max-errors"], .value, fun text => (Numeral.integer? text.toList).isSome⟩]

def runRules : List OptionRule :=
  [helpRule, ⟨["--check"], .flag, fun _ => true⟩, valueRule ["-c", "--config"],
   valueRule ["-s", "--show"]]

/-- The values of an option, in order. -/
def valuesOf (items : List Item) (name : String) : List Operand :=
  items.filterMap fun
    | .option other value => if other = name then some value else none
    | _ => none

/-- Whether every divider stands next to an argument that is no option. -/
def dividersFit : List Item → Bool
  | .other _ :: .divider :: rest | .divider :: .other _ :: rest => dividersFit rest
  | .divider :: _ => false
  | _ :: rest => dividersFit rest
  | [] => true

/-- The arguments other than options; none if an option is unknown or a divider is out of place. -/
def othersOf? (items : List Item) : Option (List String) :=
  if (items.any fun | .unknown => true | _ => false) || !dividersFit items then none
  else some (items.filterMap fun
    | .other text => some text
    | _ => none)

/-- All items of the arguments after a command. -/
def itemsOf (rules : List OptionRule) (args : List String) : Except Refusal (List Item) :=
  match wordsOf? rules args with
  | none => .error .misuse
  | some words => (takeItems rules false words).map (·.1)

/-- The command with a name and the arguments after it. -/
def commandOf (name : String) (args : List String) : Except Refusal Command := do
  if name = "check" then
    let items ← itemsOf checkRules args
    match othersOf? items with
    | some [file] =>
      let limit := (valuesOf items "--max-errors").getLastD (some "20")
      return .check file (limit.bind fun text => Numeral.integer? text.toList)
    | _ => throw .misuse
  else if name = "run" then
    let items ← itemsOf runRules args
    match othersOf? items with
    | some [file] =>
      return .run file (!(valuesOf items "--check").isEmpty) (valuesOf items "--config").getLast?
        (valuesOf items "--show")
    | _ => throw .misuse
  else throw .misuse

/-- The arguments of the program. -/
def parse (args : List String) : Except Refusal Arguments := do
  match wordsOf? mainRules args with
  | none => throw .misuse
  | some words =>
    let (items, count) ← takeItems mainRules true words
    let name? := items.findSome? fun
      | .other text => some text
      | _ => none
    match name? with
    | none => throw .misuse
    | some name =>
      let command ← commandOf name (args.drop count)
      if (othersOf? items).isNone then throw .misuse
      let level := (valuesOf items "--log-level").getLast?
      let config := (valuesOf items "--log-config").getLast?
      return ⟨level, config, command⟩

end TreeScript.CommandLine
