import DocMarkers.Address.Host
import DocMarkers.Text.Blank

set_option autoImplicit false

namespace DocMarkers

namespace Address

structure Parts where
  scheme : Text := []
  authority : Text := []
  path : Text
  query : Option Text := none
  fragment : Option Text := none
deriving DecidableEq, Repr

def lengthLimit : Nat := 65536

def isScheme : Text → Bool
  | [] => true
  | c :: rest => c.isAlpha && rest.all fun c => c.isAlphanum || c == '+' || c == '.' || c == '-'

def cutScheme (text : Text) : Text × Text :=
  match Text.cut ':' text with
  | (scheme, some rest) => if isScheme scheme then (scheme, rest) else ([], text)
  | (_, none) => ([], text)

def cutAuthority : Text → Text × Text
  | '/' :: '/' :: rest =>
    let ends (c : Char) : Bool := c == '/' || c == '?' || c == '#'
    (rest.takeWhile fun c => !ends c, rest.dropWhile fun c => !ends c)
  | text => ([], text)

def Parts.ofText (text : Text) : Parts :=
  let (scheme, text) := cutScheme text
  let (authority, text) := cutAuthority text
  let (text, fragment) := Text.cut '#' text
  let (path, query) := Text.cut '?' text
  { scheme, authority, path, query, fragment }

def cutLast (mark : Char) (text : Text) : Option Text × Text :=
  match Text.cut mark text.reverse with
  | (last, some before) => (some before.reverse, last.reverse)
  | (_, none) => (none, text)

def cutPortNumber (server : Text) : Text × Text :=
  let bracketed := match server, cutLast ']' server with
    | '[' :: _, (some inside, rest) => some (inside ++ [']'], rest)
    | _, _ => none
  let (host, rest) := bracketed.getD
    (server.takeWhile (· != ':'), server.dropWhile (· != ':'))
  match rest with
  | ':' :: number => (host, number)
  | number => (host, number)

def standardPortNumber? (scheme : Text) : Option Int :=
  [("ftp", 21), ("http", 80), ("https", 443), ("ws", 80), ("wss", 443)].findSome?
    fun (name, number) => if scheme == name.toList then some number else none

def portNumberPlaces : Nat := 4300

def integer? (text : Text) : Option Int :=
  let (negative, digits) :=
    Decimal.signed ((Text.trimBy isWhiteSpace text).map Decimal.toAsciiDigit)
  match Decimal.ungroup? digits with
  | none => none
  | some digits =>
    if digits.isEmpty || portNumberPlaces < digits.length || !digits.all Decimal.isAsciiDigit then
      none
    else
      let n := Decimal.natOfDigits digits
      some (if negative then -n else n)

def readPortNumber (scheme written : Text) : Except Fault (Option Int) :=
  if written.isEmpty then .ok none
  else match integer? written with
    | none => .error (.portNumber written)
    | some number => .ok (if standardPortNumber? scheme = some number then none else some number)

-- Drops the segments of one point, and those of two together with the segment before. The empty
-- segment at the front stays.
def withoutDots (path : Text) : Text :=
  Text.join ['/'] ((Text.splitOn '/' path).foldl step []).reverse
where
  step (segments : List Text) (segment : Text) : List Text :=
    if segment = ['.'] then segments
    else if segment = ['.', '.'] then if segments = [[]] then segments else segments.tail
    else segment :: segments

def printable (except : String) (c : Char) : Bool :=
  ' ' ≤ c && c ≤ '~' && !except.toList.contains c

def keptInPath : Char → Bool := printable " \"#<>?`\x7b\x7d"

def keptInQuery : Char → Bool := printable " \"#<>"

def keptInFragment : Char → Bool := printable " \"<>`"

def keptInUserInfo : Char → Bool := printable " \"#<>?`\x7b\x7d/;=@[\\]^|"

def checkPath (hasScheme hasHost : Bool) (path : Text) : Except Fault Unit :=
  if hasHost then
    if path.isEmpty || path.head? = some '/' then .ok () else .error .pathBesideHost
  else if hasScheme then .ok ()
  else match path with
    | '/' :: '/' :: _ => .error .twoSlashes
    | ':' :: _ => .error .leadingColon
    | _ => .ok ()

def ofParts (parts : Parts) : Except Fault Address := do
  let (user, server) := cutLast '@' parts.authority
  let (host, number) := cutPortNumber server
  let userInfo := Percent.escape keptInUserInfo (user.getD [])
  let host ← Host.normalize host
  let portNumber ← readPortNumber parts.scheme number
  let hasScheme := !parts.scheme.isEmpty
  let hasHost := !userInfo.isEmpty || !host.isEmpty || portNumber.isSome
  checkPath hasScheme hasHost parts.path
  let path := if hasScheme || hasHost then withoutDots parts.path else parts.path
  return {
    scheme := parts.scheme.map Char.toLower
    userInfo, host, portNumber
    path := Percent.escape keptInPath path
    query := parts.query.map (Percent.escape keptInQuery)
    fragment := parts.fragment.map (Percent.escape keptInFragment) }

def isControl (c : Char) : Bool := c.toNat < 0x20 || c.toNat = 0x7F

def read (text : Text) : Except Fault Address :=
  if lengthLimit < text.length then .error .tooLong
  else match text.find? isControl with
    | some c => .error (.controlCharacter c (text.idxOf c))
    | none => ofParts (Parts.ofText text)

def Parts.tooLong? (parts : Parts) : Option Text :=
  [("scheme", some parts.scheme), ("authority", some parts.authority), ("path", some parts.path),
    ("query", parts.query), ("fragment", parts.fragment)].findSome? fun (name, part) =>
      if part.any fun part => lengthLimit < part.length then some name.toList else none

def ofNormalParts (parts : Parts) : Except Fault Address :=
  match parts.tooLong? with
  | some name => .error (.partTooLong name)
  | none => ofParts parts

def withQuery (query : Text) (a : Address) : Except Fault Address :=
  ofNormalParts { scheme := a.scheme, authority := a.authority, path := a.path
                  query := some query, fragment := a.fragment }

def onServer (scheme authority : Text) (a : Address) : Except Fault Address :=
  if a.isAbsolute then .ok a
  else ofNormalParts { scheme, authority, path := '/' :: a.path.dropWhile (· == '/')
                       query := a.query }

end Address

end DocMarkers
