import ClusterAccess.Hostname.Label
import ClusterAccess.Text.Case
import ClusterAccess.Url.Address
import ClusterAccess.Url.Fault
import ClusterAccess.Url.Percent

/-!
# URLs

A `Url` holds the parts of a URL in normal form: scheme and host in lower case and ASCII, no default
port, no dot segments, and every character that a part may not hold written by number. `Parts.split`
cuts a text at the delimiters and never fails, `Url.ofParts?` brings the parts into normal form or
says what is wrong, and `Url.parse` does both. `Url.render` puts the parts together again.
-/

namespace ClusterAccess

/-- A URL in normal form. The host of an IPv6 address has no brackets. -/
structure Url where
  scheme : String
  userinfo : String
  host : String
  port : Option Int
  path : String
  query : Option String
  fragment : Option String
  deriving DecidableEq, Repr

namespace Url

/-- The parts of a text that is read as a URL. -/
structure Parts where
  scheme : List Char
  authority : List Char
  path : List Char
  query : Option (List Char)
  fragment : Option (List Char)

/-! ## Cutting -/

def isSchemeChar (c : Char) : Bool := c.isAlphanum || c = '+' || c = '.' || c = '-'

/-- A scheme, if a colon ends it, and what follows the colon. -/
def splitScheme (cs : List Char) : List Char × List Char :=
  let run := if cs.head?.any Char.isAlpha then cs.takeWhile isSchemeChar else []
  match cs.drop run.length with
  | ':' :: rest => (run, rest)
  | _ => ([], cs)

/-- An authority behind two slashes, and what follows it. -/
def splitAuthority : List Char → List Char × List Char
  | '/' :: '/' :: cs =>
    let isInside (c : Char) : Bool := c != '/' && c != '?' && c != '#'
    (cs.takeWhile isInside, cs.dropWhile isInside)
  | cs => ([], cs)

/-- What follows the mark up to the end mark, if the mark is there. -/
def splitBehind (mark : Char) (isInside : Char → Bool) : List Char → Option (List Char) × List Char
  | c :: cs => if c = mark then (some (cs.takeWhile isInside), cs.dropWhile isInside) else (none, c :: cs)
  | [] => (none, [])

def Parts.split (cs : List Char) : Parts :=
  let (scheme, cs) := splitScheme cs
  let (authority, cs) := splitAuthority cs
  let isPath (c : Char) : Bool := c != '?' && c != '#'
  let (query, rest) := splitBehind '?' (· != '#') (cs.dropWhile isPath)
  let (fragment, _) := splitBehind '#' (fun _ => true) rest
  ⟨scheme, authority, cs.takeWhile isPath, query, fragment⟩

/-- What precedes and what follows the last occurrence of a character. -/
def splitAtLast (c : Char) (cs : List Char) : Option (List Char × List Char) :=
  if cs.contains c then
    let tail := (cs.reverse.takeWhile (· != c)).reverse
    some (cs.take (cs.length - tail.length - 1), tail)
  else none

/-- An authority in its three parts. The text behind the host is the port, without a colon at its start. -/
structure Authority where
  userinfo : List Char
  host : List Char
  port : List Char

/-- A host between brackets, or up to the first colon, and what follows it. -/
def splitHost (cs : List Char) : List Char × List Char :=
  match cs with
  | '[' :: inner =>
    match splitAtLast ']' inner with
    | some (address, rest) => ('[' :: address ++ [']'], rest)
    | none => (cs.takeWhile (· != ':'), cs.dropWhile (· != ':'))
  | _ => (cs.takeWhile (· != ':'), cs.dropWhile (· != ':'))

def Authority.split (cs : List Char) : Authority :=
  let (userinfo, rest) := (splitAtLast '@' cs).getD ([], cs)
  let (host, rest) := splitHost rest
  ⟨userinfo, host, match rest with | ':' :: port => port | port => port⟩

/-! ## Normal form -/

/-- Printable ASCII characters but for some. -/
def isPrintableBut (unsafeChars : String) (c : Char) : Bool :=
  0x20 < c.toNat && c.toNat < 0x7F && !unsafeChars.toList.contains c

def isFragmentSafe (c : Char) : Bool := isPrintableBut "\"<>\u0060" c

def isQuerySafe (c : Char) : Bool := isPrintableBut "\"#<>" c

def isPathSafe (c : Char) : Bool := isPrintableBut "\"#<>?\u0060\x7b\x7d" c

def isUserinfoSafe (c : Char) : Bool := isPrintableBut "\"#<>?\u0060\x7b\x7d/;=@[\\]^|" c

def isHostSafe (c : Char) : Bool := "!$&'()*+,;=\"\u0060\x7b\x7d%|\\".toList.contains c

/-- A host in normal form. -/
def normalHost (host : List Char) : Except Fault (List Char) :=
  if host.isEmpty then .ok []
  else if looksLikeIpv4 host then
    if isIpv4 host then .ok host else .error (.ipv4Address (String.ofList host))
  else if host.head? = some '[' && host.getLast? = some ']' && 2 ≤ host.length then
    let address := (host.drop 1).dropLast
    if isIpv6 address then .ok address else .error (.ipv6Address (String.ofList host))
  else if Hostname.isAscii host then .ok (Percent.encode isHostSafe (Text.lower host))
  else
    match Hostname.encode? (Text.lower host) with
    | some name => .ok name
    | none => .error (.hostname (String.ofList host))

/-- The port that a scheme implies. -/
def defaultPort? (scheme : String) : Option Int :=
  match scheme with
  | "ftp" => some 21
  | "http" => some 80
  | "https" => some 443
  | "ws" => some 80
  | "wss" => some 443
  | _ => none

/-- A port in normal form. The scheme counts as it is written. -/
def normalPort (port scheme : List Char) : Except Fault (Option Int) :=
  if port.isEmpty then .ok none
  else
    match Text.readInteger 10 port with
    | .ok n => .ok (if defaultPort? (String.ofList scheme) = some n then none else some n)
    | .error _ => .error (.port (String.ofList port))

/-- A segment of a path behind the segments so far, last first. -/
def pushSegment (out : List (List Char)) (segment : List Char) : List (List Char) :=
  if segment = ['.'] then out
  else if segment = ['.', '.'] then
    match out with
    | [] => []
    | [[]] => [[]]
    | _ :: rest => rest
  else segment :: out

/-- A path without dot segments. -/
def dropDotSegments (path : List Char) : List Char :=
  Text.joinPieces '/' ((Text.pieces '/' path).foldl pushSegment []).reverse

/-- A path has to fit what precedes it. -/
def checkPath (path : List Char) (hasScheme hasAuthority : Bool) : Except Fault Unit :=
  if hasAuthority && !path.isEmpty && path.head? != some '/' then .error .pathWithoutSlash
  else if !hasScheme && !hasAuthority && path.take 2 = ['/', '/'] then .error .pathWithTwoSlashes
  else if !hasScheme && !hasAuthority && path.head? = some ':' then .error .pathWithColon
  else .ok ()

/-- The URL with the given parts. `host?` replaces the host of the authority. -/
def ofParts? (p : Parts) (host? : Option (List Char)) : Except Fault Url := do
  let a := Authority.split p.authority
  let scheme := Text.lower p.scheme
  let userinfo := Percent.encode isUserinfoSafe a.userinfo
  let host ← normalHost (host?.getD a.host)
  let port ← normalPort a.port p.scheme
  let hasScheme := !scheme.isEmpty
  let hasAuthority := !userinfo.isEmpty || !host.isEmpty || port.isSome
  checkPath p.path hasScheme hasAuthority
  let path := if hasScheme || hasAuthority then dropDotSegments p.path else p.path
  pure {
    scheme := String.ofList scheme
    userinfo := String.ofList userinfo
    host := String.ofList host
    port := port
    path := String.ofList (Percent.encode isPathSafe path)
    query := p.query.map fun q => String.ofList (Percent.encode isQuerySafe q)
    fragment := p.fragment.map fun f => String.ofList (Percent.encode isFragmentSafe f) }

/-- No URL and no part of one is longer. -/
def maxLength : Nat := 65536

def isControl (c : Char) : Bool := c.toNat < 0x20 || c.toNat = 0x7F

/-- The first control character and its position. -/
def firstControl? (cs : List Char) : Option (Char × Nat) := do
  let c ← cs.find? isControl
  pure (c, cs.idxOf c)

/-- The URL that a text describes. -/
def parse (s : String) : Except Fault Url :=
  let cs := s.toList
  if maxLength < cs.length then .error .tooLong
  else
    match firstControl? cs with
    | some (c, i) => .error (.controlCharacter c i)
    | none => ofParts? (.split cs) none

/-! ## Views -/

/-- The host with brackets around an IPv6 address. -/
def hostText (u : Url) : String := if u.host.toList.contains ':' then "[" ++ u.host ++ "]" else u.host

def authorityText (u : Url) : String :=
  (if u.userinfo = "" then "" else u.userinfo ++ "@") ++ u.hostText ++
    (match u.port with | some n => ":" ++ toString n | none => "")

/-- The text of a URL. -/
def render (u : Url) : String :=
  (if u.scheme = "" then "" else u.scheme ++ ":") ++
    (if u.authorityText = "" then "" else "//" ++ u.authorityText) ++ u.path ++
    (match u.query with | some q => "?" ++ q | none => "") ++
    (match u.fragment with | some f => "#" ++ f | none => "")

/-- The host in its own script; none if it looks like an encoded name and is none. -/
def nativeHost? (u : Url) : Option String :=
  if Hostname.wireMark.isPrefixOf u.host.toList then
    (Hostname.decode? u.host.toList).map String.ofList
  else
    some u.host

/-- A URL that says by which scheme and at which host it is found. -/
def isAbsolute (u : Url) : Bool := u.scheme != "" && u.host != ""

/-- The name before the first colon of the user information. -/
def username (u : Url) : String :=
  Percent.decode (String.ofList (u.userinfo.toList.takeWhile (· != ':')))

/-- What follows the first colon of the user information. -/
def password (u : Url) : String :=
  Percent.decode (String.ofList ((u.userinfo.toList.dropWhile (· != ':')).drop 1))

/-! ## Changes -/

/-- The parts of a URL as a text would give them. -/
def toParts (u : Url) : Parts where
  scheme := u.scheme.toList
  authority := u.authorityText.toList
  path := u.path.toList
  query := u.query.map String.toList
  fragment := u.fragment.map String.toList

/-- A replacement for a part of a URL has to be readable. -/
def checkPart (part : String) (cs : List Char) : Except Fault Unit :=
  if maxLength < cs.length then .error (.partTooLong part)
  else
    match firstControl? cs with
    | some (c, i) => .error (.controlCharacterInPart part c i)
    | none => .ok ()

/-- The URL with another host. -/
def withHost? (u : Url) (host : String) : Except Fault Url := do
  let cs := host.toList
  let bracketed := cs.head? = some '[' && cs.getLast? = some ']'
  let cs := if cs.contains ':' && !bracketed then '[' :: cs ++ [']'] else cs
  checkPart "host" cs
  ofParts? u.toParts (some cs)

/-- The URL with another fragment. -/
def withFragment? (u : Url) (fragment : String) : Except Fault Url := do
  checkPart "fragment" fragment.toList
  ofParts? { u.toParts with fragment := some fragment.toList } none

end Url

end ClusterAccess
