import LogQuery.Http.DomainName
import LogQuery.Http.IpAddress
import LogQuery.Http.Percent
import LogQuery.Http.UrlFault

namespace LogQuery.Http

/-! An address names a scheme and, after two slashes, a host with an optional
port; then come a path and a query. In the schemes known to every client
backslashes count as slashes, the slashes before the host may be left out, and
there must be a host. -/

inductive SchemeKind where
  | network
  | file
  | other
  deriving DecidableEq, Repr

def SchemeKind.ofName : String → SchemeKind
  | "http" | "https" | "ws" | "wss" | "ftp" => .network
  | "file" => .file
  | _ => .other

structure Url where
  scheme : String
  host : Option String
  port : Option Nat := none
  path : String
  query : Option String
  deriving DecidableEq, Repr

namespace Url

/-! Characters that an address cannot hold are written byte by byte. -/

def encode (marks : List Char) (characters : List Char) : String :=
  String.ofList (characters.flatMap fun character =>
    if character ≤ ' ' ∨ '~' < character ∨ marks.contains character then
      (String.utf8EncodeChar character).flatMap percentEncode
    else [character])

def pathMarks : List Char := ['"', '<', '>', '\x60', '#', '?', '\x7b', '\x7d']

def queryMarks : List Char := ['"', '#', '<', '>', '\'']

/-! ## Hosts

A host name whose last label is a number must be an address of four octets. Its
parts are decimal, octal after a zero, or hexadecimal after a zero and an x, and
the last part may stand for several octets. -/

def readOctets (digits : List Char) (base : Nat) : Option Nat :=
  if digits.all fun digit => (Text.hexValue? digit).any (· < base) then
    some (digits.foldl (fun value digit =>
      base * value + (Text.hexValue? digit).getD 0) 0)
  else none

def readOctetText : List Char → Option Nat
  | [] => none
  | '0' :: 'x' :: digits => readOctets digits 16
  | '0' :: 'X' :: digits => readOctets digits 16
  | '0' :: digit :: digits => readOctets (digit :: digits) 8
  | digits => readOctets digits 10

/-- The labels of a name. A final dot adds none. -/
def labels (name : List Char) : List (List Char) :=
  match (name.splitOn '.').reverse with
  | [] :: last :: rest => (last :: rest).reverse
  | labels => labels.reverse

def endsInNumber (name : List Char) : Bool :=
  match (labels name).getLast? with
  | none => false
  | some [] => false
  | some label => label.all Char.isDigit || (readOctetText label).isSome

/-- Every part but the last is one octet; the last one fills what is left. -/
def isOctets (parts : List Nat) : Bool :=
  match parts.reverse with
  | [] => false
  | last :: others =>
      others.length < 4 && others.all (· < 256) && last < Nat.pow 256 (4 - others.length)

def isV4 (name : List Char) : Bool :=
  match (labels name).mapM readOctetText with
  | none => false
  | some parts => isOctets parts

/-- A host name that is taken as it is may have a percent sign. -/
def isForbiddenInName (character : Char) : Bool :=
  ['\x00', '\t', '\n', '\r', ' '].contains character ||
    (character ≠ '%' && DomainName.forbiddenMarks.contains character)

def readV6 (rest : List Char) : Except UrlFault String :=
  match takeV6 rest with
  | some (groups, [']']) => .ok ("[" ++ v6Text groups ++ "]")
  | _ => .error .invalidIpv6

def readDomain (host : List Char) : Except UrlFault String :=
  let name := Text.utf8Decode (percentDecode (Text.utf8Bytes host))
  match DomainName.toAscii name.toList with
  | none => .error .invalidDomain
  | some "" => .error .emptyHost
  | some name =>
      if endsInNumber name.toList && !isV4 name.toList then .error .invalidIpv4
      else .ok name

def readHost : List Char → Except UrlFault String
  | '[' :: rest => readV6 rest
  | host => readDomain host

/-- The host of a scheme that is not known is taken as it is. -/
def readName : List Char → Except UrlFault String
  | '[' :: rest => readV6 rest
  | name =>
      if name.any isForbiddenInName then .error .invalidHostCharacter
      else .ok (encode [] name)

/-! ## Authorities -/

/-- Up to the colon before the port. Colons in brackets belong to the host. -/
def splitHost (isBracketed : Bool) : List Char → List Char × List Char
  | [] => ([], [])
  | character :: rest =>
      if character = ':' ∧ !isBracketed then ([], character :: rest)
      else
        let isBracketed := character = '[' || (isBracketed && character ≠ ']')
        let (host, after) := splitHost isBracketed rest
        (character :: host, after)

/-- A port ends with the authority, or before a backslash that is no slash. -/
def readPort : List Char → Except UrlFault (Option Nat)
  | [] => .ok none
  | _ :: rest =>
      let digits := rest.takeWhile Char.isDigit
      let after := rest.dropWhile Char.isDigit
      if after.head?.any (· ≠ '\\') ∨ 65535 < Text.digitsValue digits then
        .error .invalidPort
      else if digits = [] then .ok none
      else .ok (some (Text.digitsValue digits))

/-- The parts before and after the last at sign. -/
def splitUser (authority : List Char) : Option (List Char) × List Char :=
  match (authority.reverse.dropWhile (· ≠ '@')).drop 1 with
  | [] => if authority.contains '@' then (some [], authority.drop 1) else (none, authority)
  | user => (some user.reverse, (authority.reverse.takeWhile (· ≠ '@')).reverse)

/-- A user may stand only before a host. One without a name or a password counts as
none, unless there is not even a colon and the address goes on. -/
def mayLackHost (isLast : Bool) : Option (List Char) → Bool
  | none => true
  | some [] => isLast
  | some user => user = [':']

/-- The authority ends the address if `isLast` is set. -/
def readAuthority (kind : SchemeKind) (isLast : Bool) (authority : List Char) :
    Except UrlFault (Option String × Option Nat) := do
  let (user, location) := splitUser authority
  let (host, port) := splitHost false location
  if host = [] then
    if kind ≠ .network ∧ port = [] ∧ mayLackHost isLast user then .ok (none, none)
    else .error .emptyHost
  else
    let host ← if kind = .other then readName host else readHost host
    let port ← readPort port
    .ok (some host, port)

/-! ## Paths -/

def isSlash (kind : SchemeKind) (character : Char) : Bool :=
  character = '/' || (character = '\\' && kind ≠ .other)

def isDot (segment : List Char) : Bool :=
  [".", "%2e"].contains (String.ofList segment).toLower

def isDoubleDot (segment : List Char) : Bool :=
  ["..", ".%2e", "%2e.", "%2e%2e"].contains (String.ofList segment).toLower

def isDriveLetter : List Char → Bool
  | [letter, mark] => letter.isAlpha && (mark = ':' || mark = '|')
  | _ => false

/-- The name of a drive is never taken away. -/
def dropSegment : List String → List String
  | [] => []
  | last :: before => if isDriveLetter last.toList then last :: before else before

/-- Segments with one dot are dropped, and those with two also take away the one
before them. Where such a segment is the last, the path ends in a slash. -/
def resolveSegments (done : List String) : List (List Char) → List String
  | [] => done.reverse
  | [last] =>
      if isDoubleDot last then ("" :: dropSegment done).reverse
      else if isDot last then ("" :: done).reverse
      else (encode pathMarks last :: done).reverse
  | segment :: rest =>
      if isDoubleDot segment then resolveSegments (dropSegment done) rest
      else if isDot segment then resolveSegments done rest
      else resolveSegments (encode pathMarks segment :: done) rest

def normalizePath (kind : SchemeKind) (path : List Char) : String :=
  let path := if path.head?.any (isSlash kind) then path.drop 1 else path
  "/" ++ "/".intercalate (resolveSegments [] (path.splitOnP (isSlash kind)))

/-! ## Reading -/

def isSchemeChar (character : Char) : Bool :=
  character.isAlphanum || ['+', '-', '.'].contains character

def takeScheme (text : List Char) : Option (String × List Char) :=
  let scheme := text.takeWhile isSchemeChar
  match scheme, text.dropWhile isSchemeChar with
  | first :: _, ':' :: rest =>
      if first.isAlpha then some ((String.ofList scheme).toLower, rest) else none
  | _, _ => none

def isTabOrLineEnd (character : Char) : Bool :=
  ['\t', '\n', '\r'].contains character

/-- Blanks and control characters around an address do not belong to it, nor do
tabs and line ends inside it. -/
def strip (text : List Char) : List Char :=
  let isOutside (character : Char) : Bool := character ≤ ' '
  (((text.dropWhile isOutside).reverse.dropWhile isOutside).reverse).filter
    fun character => !isTabOrLineEnd character

/-- What follows the scheme, cut into the part before the query and the query. -/
def splitQuery (text : List Char) : List Char × Option (List Char) :=
  let text := text.takeWhile (· ≠ '#')
  match text.dropWhile (· ≠ '?') with
  | [] => (text, none)
  | _ :: query => (text.takeWhile (· ≠ '?'), some query)

/-- The authority after two slashes, and the path. -/
def splitAuthority (kind : SchemeKind) (text : List Char) : List Char × List Char :=
  (text.takeWhile fun character => !isSlash kind character,
    text.dropWhile fun character => !isSlash kind character)

def readFile (scheme : String) (text : List Char) (query : Option String) :
    Except UrlFault Url :=
  let slashes := text.take 2
  if slashes.length = 2 ∧ slashes.all (isSlash .file) then do
    let (host, path) := splitAuthority .file (text.drop 2)
    if host = [] ∨ isDriveLetter host then
      .ok { scheme, host := none, path := normalizePath .file (text.drop 2), query }
    else
      let host ← readHost host
      .ok { scheme, host := some host, path := normalizePath .file path, query }
  else .ok { scheme, host := none, path := normalizePath .file text, query }

/-- The path ends the address if `isLast` is set. -/
def readOther (scheme : String) (query : Option String) (isLast : Bool) :
    List Char → Except UrlFault Url
  | '/' :: '/' :: rest => do
      let (authority, path) := splitAuthority .other rest
      let (host, port) ← readAuthority .other (isLast && path = []) authority
      .ok { scheme, host, port, path := encode pathMarks path, query }
  | path => .ok { scheme, host := none, path := encode [] path, query }

def parse (text : String) : Except UrlFault Url :=
  match takeScheme (strip text.toList) with
  | none => .error .relative
  | some (scheme, rest) =>
      let kind := SchemeKind.ofName scheme
      let (hierarchy, query) := splitQuery rest
      let query := query.map (encode queryMarks)
      let isLast := hierarchy.length = rest.length
      match kind with
      | .network => do
          let (authority, path) :=
            splitAuthority kind (hierarchy.dropWhile (isSlash kind))
          let (host, port) ← readAuthority kind (isLast && path = []) authority
          .ok { scheme, host, port, path := normalizePath kind path, query }
      | .file => readFile scheme hierarchy query
      | .other => readOther scheme query isLast hierarchy

end Url

end LogQuery.Http
