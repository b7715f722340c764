import FlowGraph.Http.Domain
import FlowGraph.Number.Radix
import FlowGraph.Text.Blank

/-! # URLs

An absolute URL: scheme, host, port, path, query and fragment, with the blanks around it dropped.
`Url.parse` reads one and brings it into its normal form: scheme and domain in small letters, a
port only if it is not the one of the scheme, a path without dots, and characters that may not
stand as they are by their codes. `Url.text` writes it.

Of a scheme other than those of the web only the host is taken apart; the rest is kept as it
stands. -/

namespace FlowGraph

/-- An absolute URL. -/
structure Url where
  scheme : String
  username : List Char := []
  password : Option (List Char) := none
  host : Option String
  port : Option Nat := none
  path : List Char
  query : Option (List Char) := none
  fragment : Option (List Char) := none

/-- Why a text is no absolute URL. -/
inductive UrlFault where
  | relative | emptyHost | badDomain | badDomainCharacter | badPort | badIpv4 | badIpv6
deriving DecidableEq

/-- The wording of a fault. -/
def UrlFault.message : UrlFault → String
  | relative => "relative URL without a base"
  | emptyHost => "empty host"
  | badDomain => "invalid international domain name"
  | badDomainCharacter => "invalid domain character"
  | badPort => "invalid port number"
  | badIpv4 => "invalid IPv4 address"
  | badIpv6 => "invalid IPv6 address"

namespace Url

/-! ### Characters -/

/-- Controls. -/
def isControl (c : Char) : Bool := c.toNat < 0x20 || c.toNat == 0x7F

def encodedInFragment (c : Char) : Bool := isControl c || " \"<>`".toList.contains c
def encodedInQuery (c : Char) : Bool := isControl c || " \"#<>'".toList.contains c
def encodedInPath (c : Char) : Bool :=
  encodedInFragment c || c == '#' || c == '?' || c == '{' || c == '}'
def encodedInUser (c : Char) : Bool := encodedInPath c || "/:;=@[\\]^|".toList.contains c

/-- The letters, digits and marks of a scheme after its first letter. -/
def isSchemeChar (c : Char) : Bool := c.isAlphanum || c == '+' || c == '-' || c == '.'

/-- The port of a scheme of the web. -/
def defaultPort? (scheme : String) : Option Nat :=
  [("http", 80), ("https", 443), ("ws", 80), ("wss", 443), ("ftp", 21)].lookup scheme

/-- Whether a scheme is one of the web, which has a host and takes a backslash for a slash. -/
def isWebScheme (scheme : String) : Bool := (defaultPort? scheme).isSome

/-- A slash, or a backslash taken for one. -/
def isSlash (web : Bool) (c : Char) : Bool := c == '/' || (web && c == '\\')

/-- Whether the part with the host ends here. -/
def endsAuthority (web : Bool) (c : Char) : Bool := isSlash web c || c == '?' || c == '#'

/-! ### Addresses -/

/-- A part of an address of four bytes, in base 10, 8 or 16. -/
def ipv4Number? (cs : List Char) : Option Nat :=
  match cs with
  | [] => none
  | '0' :: 'x' :: rest => ofRadix? 16 rest
  | '0' :: 'X' :: rest => ofRadix? 16 rest
  | '0' :: d :: rest => ofRadix? 8 (d :: rest)
  | ds => ofRadix? 10 ds

/-- The parts of a domain, without an empty one at its end. -/
def domainParts (cs : List Char) : List (List Char) :=
  let parts := Text.splitAll '.' cs
  if parts.getLast? = some [] then parts.dropLast else parts

/-- Whether a domain has to be an address of four bytes: its last part is a number. -/
def endsInNumber (cs : List Char) : Bool :=
  match (domainParts cs).getLast? with
  | none => false
  | some last => (!last.isEmpty && last.all Char.isDigit) || (ipv4Number? last).isSome

/-- An address of four bytes; its last part may stand for several of them. -/
def ipv4? (cs : List Char) : Option Nat := do
  let parts := domainParts cs
  if parts.length > 4 then none
  let numbers ← parts.mapM ipv4Number?
  let last ← numbers.getLast?
  let front := numbers.dropLast
  if last ≥ Nat.pow 256 (4 - front.length) || front.any (· > 255) then none
  else some (front.zipIdx.foldl (fun sum (n, i) => sum + n * Nat.pow 256 (3 - i)) last)

/-- An address of four bytes in its normal form. -/
def ipv4Text (n : Nat) : String :=
  ".".intercalate ([n / 16777216, n / 65536 % 256, n / 256 % 256, n % 256].map fun b => toString b)

/-- A part of an address of eight units. -/
def ipv6Unit? (cs : List Char) : Option Nat :=
  if cs.isEmpty || cs.length > 4 then none else ofRadix? 16 cs

/-- A decimal part of an address, without zeros in front. -/
def ipv6Byte? (cs : List Char) : Option Nat :=
  match cs with
  | '0' :: _ :: _ => none
  | cs =>
    if cs.isEmpty || !cs.all Char.isDigit then none
    else (ofRadix? 10 cs).filter (· ≤ 255)

/-- Two units given as an address of four bytes. -/
def embeddedIpv4? (cs : List Char) : Option (List Nat) := do
  let bytes ← (Text.splitAll '.' cs).mapM ipv6Byte?
  match bytes with
  | [a, b, c, d] => some [a * 256 + b, c * 256 + d]
  | _ => none

/-- Units between colons; the last may be an address of four bytes. -/
def ipv6Units? (allowIpv4 : Bool) (parts : List (List Char)) : Option (List Nat) := do
  match parts.getLast? with
  | none => some []
  | some last =>
    if allowIpv4 && last.contains '.' then
      let front ← parts.dropLast.mapM ipv6Unit?
      let tail ← embeddedIpv4? last
      some (front ++ tail)
    else parts.mapM ipv6Unit?

/-- The text before the first pair of colons and the text after it. -/
def splitDoubleColon : List Char → Option (List Char × List Char)
  | ':' :: ':' :: rest => some ([], rest)
  | c :: rest => (splitDoubleColon rest).map fun (a, b) => (c :: a, b)
  | [] => none

/-- The parts between colons, none if there is no text. -/
def colonParts (cs : List Char) : List (List Char) :=
  if cs.isEmpty then [] else Text.splitAll ':' cs

/-- The eight units of an address; a pair of colons stands for the zeros that are left out. -/
def ipv6? (cs : List Char) : Option (List Nat) :=
  match splitDoubleColon cs with
  | none => (ipv6Units? true (colonParts cs)).filter (·.length = 8)
  | some (left, right) => do
    let a ← ipv6Units? false (colonParts left)
    let b ← ipv6Units? true (colonParts right)
    if a.length + b.length ≤ 7 then some (a ++ List.replicate (8 - a.length - b.length) 0 ++ b)
    else none

/-- The length of the run of zeros at the front. -/
def zeroRun (units : List Nat) : Nat := (units.takeWhile (· == 0)).length

/-- The place and the length of the first longest run of at least two zeros. -/
def longestZeros (units : List Nat) : Option (Nat × Nat) :=
  (List.range units.length).foldl (fun best i =>
    let n := zeroRun (units.drop i)
    if n ≥ 2 ∧ n > (best.map (·.2)).getD 0 then some (i, n) else best) none

/-- Units in base 16 with colons between them. -/
def unitsText (units : List Nat) : List Char :=
  List.intercalate [':'] (units.map (Nat.toDigits 16))

/-- An address of eight units in its normal form, in brackets. -/
def ipv6Text (units : List Nat) : String :=
  String.ofList <| '[' :: (match longestZeros units with
    | none => unitsText units
    | some (i, n) => unitsText (units.take i) ++ ':' :: ':' :: unitsText (units.drop (i + n))) ++
      [']']

/-! ### Hosts -/

/-- An address in brackets. -/
def bracketedHost (cs : List Char) : Except UrlFault String :=
  match cs.reverse with
  | ']' :: inner => match ipv6? inner.reverse with
    | some units => .ok (ipv6Text units)
    | none => .error .badIpv6
  | _ => .error .badIpv6

/-- The host of a scheme of the web: an address or a domain name. -/
def webHost (cs : List Char) : Except UrlFault String :=
  match cs with
  | '[' :: rest => bracketedHost rest
  | cs =>
    match Domain.toAscii? (Text.percentDecode (Text.bytes (String.ofList cs))) with
    | none => .error .badDomain
    | some domain =>
      if domain.isEmpty then .error .emptyHost
      else if endsInNumber domain.toList then
        match ipv4? domain.toList with
        | some n => .ok (ipv4Text n)
        | none => .error .badIpv4
      else .ok domain

/-- Characters that no other host has. -/
def isForbiddenInHost (c : Char) : Bool :=
  c.toNat == 0 || "\t\n\r #/:<>?@[\\]^|".toList.contains c

/-- The host of any other scheme. -/
def opaqueHost (cs : List Char) : Except UrlFault String :=
  match cs with
  | '[' :: rest => bracketedHost rest
  | cs =>
    if cs.any isForbiddenInHost then .error .badDomainCharacter
    else .ok (String.ofList (Text.percentEncode isControl cs))

/-- The characters of the host, up to a colon outside of brackets. -/
def hostChars : Bool → List Char → List Char × List Char
  | _, [] => ([], [])
  | inside, c :: cs =>
    if c = ':' ∧ ¬ inside then ([], c :: cs)
    else
      let (host, rest) := hostChars (if c = '[' then true else if c = ']' then false else inside) cs
      (c :: host, rest)

/-- A port after its colon; none if it is left out or the one of the scheme. -/
def portNumber (scheme : String) (cs : List Char) : Except UrlFault (Option Nat) :=
  if cs.isEmpty then .ok none
  else if !cs.all Char.isDigit then .error .badPort
  else match ofRadix? 10 cs with
    | none => .error .badPort
    | some n =>
      if n > 65535 then .error .badPort
      else .ok (if defaultPort? scheme = some n then none else some n)

/-- The part before the last `@` and the part after it. -/
def splitLastAt (cs : List Char) : Option (List Char × List Char) :=
  if cs.contains '@' then
    let host := (cs.reverse.takeWhile (· != '@')).reverse
    some (cs.take (cs.length - host.length - 1), host)
  else none

/-- The host, the port and the user of a URL. -/
structure Authority where
  username : List Char := []
  password : Option (List Char) := none
  host : Option String := none
  port : Option Nat := none

/-- User and password. -/
def userInfo (cs : List Char) : List Char × Option (List Char) :=
  let (user, password) := Text.splitFirst ':' cs
  (Text.percentEncode encodedInUser user,
    (password.map (Text.percentEncode encodedInUser)).filter (!·.isEmpty))

/-- The part of a URL with the host. -/
def authority (scheme : String) (cs : List Char) : Except UrlFault Authority := do
  let web := isWebScheme scheme
  let (user, hostAndPort) := match splitLastAt cs with
    | some (user, rest) => (userInfo user, rest)
    | none => (([], none), cs)
  let (hostText, rest) := hostChars false hostAndPort
  if hostText.isEmpty then
    if web || !rest.isEmpty || (splitLastAt cs).isSome then .error .emptyHost
    else .ok { username := user.1, password := user.2 }
  else
    let host ← if web then webHost hostText else opaqueHost hostText
    let port ← portNumber scheme (rest.drop 1)
    .ok { username := user.1, password := user.2, host := some host, port }

/-! ### Paths -/

/-- Whether a segment means the one before it. -/
def isDoubleDot (s : List Char) : Bool :=
  ["..", ".%2e", "%2e.", "%2e%2e"].contains (String.ofList (s.map Char.toLower))

/-- Whether a segment means its own place. -/
def isSingleDot (s : List Char) : Bool := [".", "%2e"].contains (String.ofList (s.map Char.toLower))

/-- Puts one more segment behind those before it, which come last to first. -/
def pushSegment (before : List (List Char)) (segment : List Char) (isLast : Bool) :
    List (List Char) :=
  if isDoubleDot segment then if isLast then [] :: before.drop 1 else before.drop 1
  else if isSingleDot segment then if isLast then [] :: before else before
  else segment :: before

/-- Resolves the dots of segments. -/
def resolveDots (before : List (List Char)) : List (List Char) → List (List Char)
  | [] => before.reverse
  | [last] => (pushSegment before last true).reverse
  | s :: rest => resolveDots (pushSegment before s false) rest

/-- The path of a scheme of the web. -/
def webPath (cs : List Char) : List Char :=
  let slashes := cs.map fun c => if c = '\\' then '/' else c
  let inner := match slashes with
    | '/' :: rest => rest
    | rest => rest
  let segments := (Text.splitAll '/' inner).map (Text.percentEncode encodedInPath)
  '/' :: List.intercalate ['/'] (resolveDots [] segments)

/-! ### Reading and writing -/

/-- The scheme at the front and what follows its colon. -/
def splitScheme (cs : List Char) : Option (String × List Char) :=
  match cs with
  | [] => none
  | c :: _ =>
    if !c.isAlpha then none
    else match cs.dropWhile isSchemeChar with
      | ':' :: rest => some (String.ofList ((cs.takeWhile isSchemeChar).map Char.toLower), rest)
      | _ => none

/-- The text without the controls and blanks around it and without line breaks and tabs. -/
def cleaned (text : String) : List Char :=
  let isEdge (c : Char) : Bool := c.toNat ≤ 0x20
  let inner := ((text.toList.dropWhile isEdge).reverse.dropWhile isEdge).reverse
  inner.filter fun c => c != '\t' && c != '\n' && c != '\r'

/-- A URL of a scheme of the web after its colon. -/
def parseWeb (scheme : String) (cs : List Char) : Except UrlFault Url := do
  let rest := cs.dropWhile (isSlash true)
  let a ← authority scheme (rest.takeWhile (!endsAuthority true ·))
  let afterHost := rest.dropWhile (!endsAuthority true ·)
  let (beforeFragment, fragment) := Text.splitFirst '#' afterHost
  let (path, query) := Text.splitFirst '?' beforeFragment
  .ok {
    scheme, username := a.username, password := a.password, host := a.host, port := a.port
    path := webPath path
    query := query.map (Text.percentEncode encodedInQuery)
    fragment := fragment.map (Text.percentEncode encodedInFragment) }

/-- Whether a host is the letter of a drive. -/
def isDriveLetter (cs : List Char) : Bool :=
  match cs with
  | [a, b] => a.isAlpha && (b == ':' || b == '|')
  | _ => false

/-- A URL of a file after its colon. -/
def parseFile (cs : List Char) : Except UrlFault Url :=
  match cs with
  | a :: b :: rest =>
    if isSlash true a && isSlash true b then
      let hostText := rest.takeWhile (!endsAuthority true ·)
      if hostText.isEmpty || isDriveLetter hostText then
        .ok { scheme := "file", host := none, path := cs }
      else (webHost hostText).map fun host =>
        { scheme := "file", host := if host = "localhost" then none else some host, path := cs }
    else .ok { scheme := "file", host := none, path := cs }
  | cs => .ok { scheme := "file", host := none, path := cs }

/-- A URL of any other scheme after its colon. -/
def parseOther (scheme : String) (cs : List Char) : Except UrlFault Url :=
  match cs with
  | '/' :: '/' :: rest =>
    (authority scheme (rest.takeWhile (!endsAuthority false ·))).map fun a =>
      { scheme, host := a.host, port := a.port, path := rest.dropWhile (!endsAuthority false ·) }
  | cs => .ok { scheme, host := none, path := cs }

/-- The URL of a text. -/
def parse (text : String) : Except UrlFault Url :=
  match splitScheme (cleaned text) with
  | none => .error .relative
  | some (scheme, rest) =>
    if isWebScheme scheme then parseWeb scheme rest
    else if scheme = "file" then parseFile rest
    else parseOther scheme rest

/-- A part with the mark in front of it, if it is there. -/
def marked (mark : Char) : Option (List Char) → List Char
  | none => []
  | some cs => mark :: cs

/-- User and password with the mark behind them, if there are any. -/
def userText (u : Url) : List Char :=
  if u.username.isEmpty && u.password.isNone then []
  else u.username ++ marked ':' u.password ++ ['@']

/-- The text of a URL of the web. -/
def text (u : Url) : String :=
  String.ofList (u.scheme.toList ++ "://".toList ++ u.userText ++ (u.host.getD "").toList ++
    marked ':' (u.port.map (Nat.toDigits 10)) ++ u.path ++ marked '?' u.query ++
    marked '#' u.fragment)

/-- The URL without user and password. -/
def withoutUser (u : Url) : Url := { u with username := [], password := none }

/-- User and password in plain text, if there are any. -/
def user? (u : Url) : Option (String × Option String) := do
  let name ← Text.ofBytes? (Text.percentDecode (Text.bytes (String.ofList u.username)))
  let password := u.password.bind fun p =>
    Text.ofBytes? (Text.percentDecode (Text.bytes (String.ofList p)))
  if name.isEmpty && password.isNone then none else some (name, password)

/-! ### Queries -/

/-- A byte in a form: letters, digits and four marks as they are, a blank as a plus. -/
def formByte (b : UInt8) : List Char :=
  let c := Char.ofNat b.toNat
  if b.toNat < 0x80 && (c.isAlphanum || c == '*' || c == '-' || c == '.' || c == '_') then [c]
  else if c = ' ' then ['+']
  else Text.percentByte b

/-- A text in a form. -/
def formText (s : String) : List Char := (Text.bytes s).flatMap formByte

/-- Names and values in a form. -/
def formPairs (pairs : List (String × String)) : List Char :=
  List.intercalate ['&'] (pairs.map fun p => formText p.1 ++ '=' :: formText p.2)

/-- The URL with names and values behind its query. -/
def appendQuery (u : Url) (pairs : List (String × String)) : Url :=
  if pairs.isEmpty then u
  else
    let before := u.query.getD []
    { u with query := some (if before.isEmpty then formPairs pairs
        else before ++ '&' :: formPairs pairs) }

/-- How many bytes the URL of a request may take. -/
def sizeLimit : Nat := 65534

/-- Whether a request can name the URL: its host has only characters that are allowed there, and it
is not too long. -/
def isAddressable (u : Url) : Bool :=
  ((u.host.getD "").toList.all fun c =>
    c != '"' && c != '{' && c != '}' && c != Char.ofNat 0x60) && u.text.utf8ByteSize ≤ sizeLimit

end Url

end FlowGraph
