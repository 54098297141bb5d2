import TreeScript.Charset.Utf8
import TreeScript.Failure
import TreeScript.Resource.Bytes
import TreeScript.Resource.File
import TreeScript.Text.Blank
import TreeScript.Text.Casing

/-! # Addresses of resources

An address names a scheme. After it may come a machine, between two slashes and the next one, and
what to ask for there. An address is refused if the place of the machine has brackets around
something that is no address of version 6, or characters that could be read as dividing signs.
-/

namespace TreeScript

/-- Why nothing was fetched. -/
inductive FetchFailure where
  | noScheme (address : String)
  | unknownScheme (scheme : String)
  | noHost
  | noFileServer
  | unpairedBracket
  | badFutureAddress
  | notAnAddress (text : String)
  | shortAddressInBrackets
  | ambiguousHost (host : String)
  /-- The text of a request has characters outside of its character set. -/
  | notInCharset (name : String) (limit first last : Nat) (c : Char)
  /-- A part of the name of a machine is empty or too long. -/
  | badLabel
  | longLabel
  | badPort
  /-- An address with its own data has no comma. -/
  | noData
  | badData (reason : String)
  | fileMissing (path : String)
  | fileBlocked (cause : Blocked) (path : String)
  | underFile (path : String)
  | brokenPath
  | otherMachine
  | fileElsewhere
  | charsetUnforgiving (name reason : String)
  | charsetBroken
  /-- The network gave a reason. -/
  | unanswered (reason : String)

/-- A character by its code. -/
def codeText (c : Char) : String := String.ofList (SourceText.escapeCode c.toNat)

def FetchFailure.message : FetchFailure → String
  | noScheme address => "unknown url type: " ++ SourceText.quote address
  | unknownScheme scheme => s!"<urlopen error unknown url type: {scheme}>"
  | noHost => "<urlopen error no host given>"
  | noFileServer => "<urlopen error ftp error: no host given>"
  | unpairedBracket => "Invalid IPv6 URL"
  | badFutureAddress => "IPvFuture address is invalid"
  | notAnAddress text => SourceText.quote text ++ " does not appear to be an IPv4 or IPv6 address"
  | shortAddressInBrackets => "An IPv4 address cannot be in brackets"
  | ambiguousHost host => s!"netloc '{host}' contains invalid characters under NFKC normalization"
  | notInCharset name limit first last c =>
    let what := if first = last then s!"character '{codeText c}' in position {first}"
      else s!"characters in position {first}-{last}"
    s!"'{name}' codec can't encode {what}: ordinal not in range({limit})"
  | badLabel => "encoding with 'idna' codec failed (UnicodeError: label empty or too long)"
  | longLabel => "encoding with 'idna' codec failed (UnicodeError: label too long)"
  | badPort => "<urlopen error [Errno -8] Servname not supported for ai_socktype>"
  | noData => "not enough values to unpack (expected 2, got 1)"
  | badData reason => reason
  | fileMissing path =>
    s!"<urlopen error [Errno 2] No such file or directory: {SourceText.quote path}>"
  | fileBlocked cause path =>
    let number := match cause with
      | .directory => 21
      | .nameTooLong => 36
    s!"<urlopen error [Errno {number}] {cause.message}: {SourceText.quote path}>"
  | underFile path => s!"<urlopen error [Errno 20] Not a directory: {SourceText.quote path}>"
  | brokenPath => "embedded null byte"
  | otherMachine => "<urlopen error file:// scheme is supported only on localhost>"
  | fileElsewhere => "<urlopen error file not on local host>"
  | charsetUnforgiving name reason =>
    s!"decoding with '{name}' codec failed (UnicodeError: {reason})"
  | charsetBroken => "embedded null character"
  | unanswered reason => reason

/-- A machine on the network and what to ask it for. -/
structure Contact where
  scheme : String
  machine : String
  port : Option Int
  path : String

/-- An address taken apart. -/
structure Address where
  scheme : String
  /-- Empty if no machine is named. -/
  host : List Char
  path : List Char
  /-- The address without what surrounds it. -/
  whole : List Char

namespace Address

/-- An address without blanks or angle brackets around it. -/
def unwrap (address : List Char) : List Char :=
  let address := stripBlanks address
  let address := match address with
    | '<' :: rest =>
      if rest.getLast? = some '>' then stripBlanks rest.dropLast else address
    | _ => address
  match address with
  | 'U' :: 'R' :: 'L' :: ':' :: rest => stripBlanks rest
  | _ => address

/-- The part before the last number sign, and the fragment after it. -/
def splitFragment (address : List Char) : List Char × List Char :=
  if address.contains '#' then
    let reversed := address.reverse
    (((reversed.dropWhile (· != '#')).drop 1).reverse, (reversed.takeWhile (· != '#')).reverse)
  else (address, [])

/-- The scheme of an address and what follows it. -/
def splitScheme? (address : List Char) : Option (List Char × List Char) :=
  let isSchemeChar (c : Char) : Bool := c != '/' && c != ':'
  match address.takeWhile isSchemeChar, address.dropWhile isSchemeChar with
  | [], _ => none
  | scheme, ':' :: rest => some (scheme, rest)
  | _, _ => none

/-- Whether a character ends the name of a machine. -/
def endsHost (c : Char) : Bool := c == '/' || c == '#' || c == '?'

/-- The machine that is named after a scheme, and the rest. -/
def splitHost : List Char → List Char × List Char
  | '/' :: '/' :: rest =>
    let path := rest.dropWhile (!endsHost ·)
    let path := if path.isEmpty || path.head? == some '/' then path else '/' :: path
    (rest.takeWhile (!endsHost ·), path)
  | rest => ([], rest)

/-- A text with its percent signs resolved. -/
def resolvePercents (text : List Char) : List Char :=
  Charset.utf8From none (Bytes.unescape (Charset.bytesOf text))

/-- The place of the machine in an address whose scheme has only letters, digits and three signs.
Tabs and line ends are passed over. -/
def authority (address : List Char) : List Char :=
  let address := (address.dropWhile (·.toNat ≤ 0x20)).filter fun c =>
    c != '\t' && c != '\r' && c != '\n'
  let scheme := address.takeWhile (· != ':')
  let isScheme := scheme.length < address.length && (scheme.head?.map Char.isAlpha).getD false
    && scheme.all fun c => c.isAlphanum || c == '+' || c == '-' || c == '.'
  match if isScheme then address.drop (scheme.length + 1) else address with
  | '/' :: '/' :: rest => rest.takeWhile (!endsHost ·)
  | _ => []

/-- Whether a text is a number of an address of version 4. -/
def isOctet (text : List Char) : Bool :=
  !text.isEmpty && text.all Char.isDigit && text.length ≤ 3
    && (text == ['0'] || text.head? != some '0')
    && text.foldl (fun n c => n * 10 + (c.toNat - 0x30)) 0 ≤ 255

def isVersion4 (text : String) : Bool :=
  let parts := text.splitOn "."
  parts.length == 4 && parts.all fun part => isOctet part.toList

/-- Whether a text is a number of an address of version 6. -/
def isGroup (text : String) : Bool :=
  let isHexadecimal (c : Char) : Bool := (Bytes.hexValue? c.toNat).isSome
  !text.isEmpty && text.length ≤ 4 && text.toList.all isHexadecimal

/-- The groups of an address of version 6, with an address of version 4 at the end as two groups. -/
def groups? (text : String) : Option (List String) :=
  let parts := text.splitOn ":"
  let last := parts.getLastD ""
  if parts.length < 3 then none
  else if !last.contains '.' then some parts
  else if isVersion4 last then some (parts.dropLast ++ ["0", "0"])
  else none

/-- The groups on one side of a gap; the outermost may be empty if it is the only one. -/
def sideGroups? (outer : Option String) (side : List String) : Option (List String) :=
  if outer = some "" then if side.length = 1 then some [] else none else some side

def isVersion6 (text : String) : Bool :=
  let (base, zone) := (text.toList.takeWhile (· != '%'), text.toList.dropWhile (· != '%'))
  let zoneIsFine := zone.isEmpty || (2 ≤ zone.length && !zone.tail.contains '%')
  match groups? (String.ofList base) with
  | none => false
  | some parts =>
    let gaps := (parts.tail.dropLast).count ""
    if !zoneIsFine || 9 < parts.length || 1 < gaps then false
    else if gaps = 0 then parts.length == 8 && parts.all isGroup
    else
      let place := (parts.tail.dropLast).idxOf "" + 1
      let (before, after) := (parts.take place, parts.drop (place + 1))
      match sideGroups? before.head? before, sideGroups? after.getLast? after with
      | some before, some after =>
        before.length + after.length ≤ 7 && before.all isGroup && after.all isGroup
      | _, _ => false

/-- Whether a text is an address of a version yet to come. -/
def isFuture (text : List Char) : Bool :=
  let version := text.tail.takeWhile fun c => (Bytes.hexValue? c.toNat).isSome
  match text.tail.drop version.length with
  | '.' :: _ :: _ => !version.isEmpty
  | _ => false

def checkBracketed (text : List Char) : Except FetchFailure Unit :=
  let name := String.ofList text
  if text.head? = some 'v' then
    if isFuture text then .ok () else .error .badFutureAddress
  else if isVersion4 name then .error .shortAddressInBrackets
  else if isVersion6 name then .ok ()
  else .error (.notAnAddress name)

/-- The characters that are compatible with texts that have dividing signs in them. -/
def ambiguousCodes : List Nat := [
  0x2047, 0x2048, 0x2049, 0x2100, 0x2101, 0x2105, 0x2106, 0x2a74, 0xfe13, 0xfe16, 0xfe55, 0xfe56,
  0xfe5f, 0xfe6b, 0xff03, 0xff0f, 0xff1a, 0xff1f, 0xff20]

def checkAuthority (text : List Char) : Except FetchFailure Unit := do
  if text.contains '[' != text.contains ']' then throw .unpairedBracket
  if text.contains '[' then
    checkBracketed (((text.dropWhile (· != '[')).drop 1).takeWhile (· != ']'))
  if text.any fun c => ambiguousCodes.contains c.toNat then
    throw (.ambiguousHost (String.ofList text))

/-- Take an address apart. -/
def ofText (text : String) : Except FetchFailure Address := do
  let (base, fragment) := splitFragment (unwrap text.toList)
  let whole := if fragment.isEmpty then base else base ++ '#' :: fragment
  match splitScheme? base with
  | none => throw (.noScheme (String.ofList whole))
  | some (scheme, rest) =>
    checkAuthority (authority whole)
    let (host, path) := splitHost rest
    return ⟨lowerCase (String.ofList scheme), resolvePercents host, path, whole⟩

end Address

end TreeScript
