import TreeScript.Numeric.Numeral
import TreeScript.Resource.Address
import TreeScript.Resource.MediaType

/-! # Fetching a resource by its address

Addresses that carry their own data and addresses of files are read here. Those of the network are
checked and left to a transport.
-/

namespace TreeScript

-- Powers are those of the core library, whatever else is in scope.
attribute [local instance (high)] instPowNat

/-- How fetching fails: with a reason that is reported, or by a fault. -/
inductive FetchError where
  | failed (cause : FetchFailure)
  | fault (cause : Fault)

namespace Resource

/-- Fetching, and how it fails. -/
abbrev Fetch := Except FetchError

def fail {α : Type} (cause : FetchFailure) : Fetch α := .error (.failed cause)

def crash {α : Type} (cause : Fault) : Fetch α := .error (.fault cause)

/-- Bytes as text in the character set with a name. -/
def decode (charset : String) (bytes : List Nat) : Fetch String :=
  match Charset.read charset bytes with
  | .ok text => .ok text
  | .error (.unknown name) => crash (.unknownCharset name)
  | .error (.notACharset name) => crash (.notACharset name)
  | .error (.unforgiving name reason) => fail (.charsetUnforgiving name reason)
  | .error .brokenName => fail .charsetBroken

/-- The part before an ending, if a text has it. -/
def withoutEnding? (ending text : List Char) : Option (List Char) :=
  if ending.isSuffixOf text then some (text.take (text.length - ending.length))
  else none

/-- The text in an address that carries its own data: a media type, a comma, and the data. -/
def readInline (body : List Char) : Fetch String := do
  if !body.contains ',' then fail .noData
  let mediaType := body.takeWhile (· != ',')
  let bytes := Bytes.unescape (Charset.bytesOf ((body.dropWhile (· != ',')).drop 1))
  let (mediaType, bytes) ← match withoutEnding? ";base64".toList mediaType with
    | some bare =>
      match Bytes.base64 bytes with
      | .ok bytes => pure (bare, bytes)
      | .error reason => fail (.badData reason)
    | none => pure (mediaType, bytes)
  let charset := if mediaType.isEmpty then "us-ascii"
    else (MediaType.charset? mediaType).getD "utf-8"
  decode charset bytes

/-- The paths that a path goes through. -/
def parents (path : String) : List String :=
  let parts := path.splitOn "/"
  (List.range parts.length).map fun count => "/".intercalate (parts.take count)

/-- The text in a file. -/
def readFile (files : Files) (path : String) : Fetch String := do
  if path.contains (Char.ofNat 0) then fail .brokenPath
  if path.isEmpty then fail (.fileMissing path)
  let isFile (path : String) : Bool := match files (normalizePath path) with
    | .text _ => true
    | _ => false
  if ((parents path).filter (!·.isEmpty)).any isFile then fail (.underFile path)
  match files (normalizePath path) with
  | .nothing => fail (.fileMissing path)
  | .blocked cause => fail (.fileBlocked cause path)
  | .text content => return content

/-- Whether a name stands for the machine itself. -/
def isOwnName (host : List Char) : Bool :=
  host == "localhost".toList || host == "127.0.0.1".toList

/-- The parts between the points of a name have from one to 63 letters; only the last may be empty.
Names with other characters than ASCII are left to the network. -/
def checkLabels (name : String) : Fetch Unit := do
  let labels := name.splitOn "."
  if name.toList.all (·.toNat < 0x80) then
    if labels.dropLast.any fun label => label.isEmpty || 64 ≤ label.length then fail .badLabel
    if 64 ≤ (labels.getLastD "").length then fail .longLabel

/-- The text in a file by its address, which may name the machine itself. -/
def readFileAddress (files : Files) (address : Address) : Fetch String := do
  let isRemotePath := match address.path with
    | '/' :: '/' :: rest => rest.head? != some '/'
    | _ => false
  if isRemotePath && !address.host.isEmpty && address.host != "localhost".toList then
    if isOwnName address.host then fail (.unknownScheme address.scheme) else fail .otherMachine
  let path := String.ofList (Address.resolvePercents address.path)
  if address.host.isEmpty || isOwnName address.host then readFile files path
  else match readFile files path with
    | .error (.failed (.fileBlocked .directory _)) | .ok _ => do
      checkLabels (String.ofList address.host)
      fail .fileElsewhere
    | .error cause => .error cause

/-- The characters of a text from a code on, as a failure to write it in a character set. `offset`
is the place of the text in what is written. -/
def checkCodes (name : String) (limit offset : Nat) (text : List Char) : Fetch Unit :=
  let isFine (c : Char) : Bool := c.toNat < limit
  let before := text.takeWhile isFine
  match text.dropWhile isFine with
  | [] => .ok ()
  | c :: rest =>
    let first := offset + before.length
    fail (.notInCharset name limit first (first + (rest.takeWhile (!isFine ·)).length) c)

/-- Control characters and spaces are not sent. -/
def checkControls (text : List Char) : Fetch Unit :=
  match text.find? fun c => c.toNat ≤ 0x20 || c.toNat == 0x7f with
  | some c => crash (.controlInAddress (String.ofList text) c)
  | none => .ok ()

/-- A machine and its port. A colon inside brackets does not divide them. -/
def splitPort (host : List Char) : Fetch (List Char × Option Int) :=
  let port := host.reverse.takeWhile (· != ':')
  if !host.contains ':' || port.contains ']' then .ok (host, none)
  else
    let machine := host.take (host.length - port.length - 1)
    let port := port.reverse
    match Numeral.integer? port with
    | some number => .ok (machine, some number)
    | none => if port.isEmpty then .ok (machine, none) else crash (.badPort (String.ofList port))

/-- Ports have at most 63 bits, and the lowest 32 of them are no negative number. -/
def checkPort (port : Option Int) : Fetch Unit := do
  let number := port.getD 0
  if number < -2 ^ (63 : Nat) ∨ 2 ^ (63 : Nat) ≤ number then crash .portTooLarge
  if 2 ^ (31 : Nat) ≤ number % 2 ^ (32 : Nat) then fail .badPort

/-- A name without the brackets around it. -/
def withoutBrackets (machine : List Char) : List Char :=
  match machine with
  | '[' :: rest => if rest.getLast? = some ']' then rest.dropLast else machine
  | _ => machine

/-- The request that an address of the web makes. -/
def webContact (address : Address) : Fetch Contact := do
  if address.host.isEmpty then fail .noHost
  let (machine, port) ← splitPort address.host
  let machine := withoutBrackets machine
  checkControls machine
  let path := if address.path.isEmpty then ['/'] else address.path
  checkControls path
  checkCodes "ascii" 128 "GET ".length path
  checkCodes "latin-1" 256 0 address.host
  checkLabels (String.ofList machine)
  checkPort port
  return ⟨address.scheme, String.ofList machine, port, String.ofList path⟩

/-- The request that an address on a file server makes. A user may stand before the machine. -/
def fileServerContact (address : Address) : Fetch Contact := do
  if address.host.isEmpty then fail .noFileServer
  let digits := address.host.reverse.takeWhile Char.isDigit
  let (machine, port) := match address.host.reverse.drop digits.length with
    | ':' :: rest => (rest.reverse, Numeral.integer? digits.reverse)
    | _ => (address.host, none)
  let machine := (machine.reverse.takeWhile (· != '@')).reverse
  let name := String.ofList (Address.resolvePercents machine)
  checkLabels name
  checkPort port
  return ⟨address.scheme, name, port, String.ofList address.path⟩

/-- Ask the network. -/
def ask (transport : Contact → Except String String) (contact : Contact) : Fetch String :=
  match transport contact with
  | .ok text => .ok text
  | .error reason => fail (.unanswered reason)

/-- The text behind an address, or why there is none. -/
def fetch (files : Files) (transport : Contact → Except String String) (text : String) :
    Fetch String := do
  let address ← match Address.ofText text with
    | .ok address => pure address
    | .error cause => fail cause
  match address.scheme with
  | "data" => readInline ((address.whole.dropWhile (· != ':')).drop 1)
  | "file" => readFileAddress files address
  | "http" | "https" => ask transport (← webContact address)
  | "ftp" => ask transport (← fileServerContact address)
  | scheme => fail (.unknownScheme scheme)

end Resource

end TreeScript
