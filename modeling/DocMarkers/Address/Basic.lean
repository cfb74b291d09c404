import DocMarkers.Text.Quoted

set_option autoImplicit false

namespace DocMarkers

structure Address where
  scheme : Text
  userInfo : Text
  host : Text
  portNumber : Option Int
  path : Text
  query : Option Text
  fragment : Option Text
deriving DecidableEq, Repr

namespace Address

inductive Fault where
  | tooLong
  | partTooLong (part : Text)
  | controlCharacter (character : Char) (position : Nat)
  | portNumber (written : Text)
  | fourByteNumber (host : Text)
  | sixteenByteNumber (host : Text)
  | hostName (host : Text)
  | pathBesideHost
  | twoSlashes
  | leadingColon
deriving DecidableEq, Repr

def Fault.message : Fault → Text
  | tooLong => "URL too long".toList
  | partTooLong part => "URL component ".toList ++ Quoted.encode part ++ " too long".toList
  | controlCharacter character position =>
    "Invalid non-printable ASCII character in URL, ".toList ++ Quoted.encode [character] ++
      " at position ".toList ++ Text.ofNat position ++ ['.']
  | portNumber written => "Invalid port: ".toList ++ Quoted.encode written
  | fourByteNumber host => "Invalid IPv4 address: ".toList ++ Quoted.encode host
  | sixteenByteNumber host => "Invalid IPv6 address: ".toList ++ Quoted.encode host
  | hostName host => "Invalid IDNA hostname: ".toList ++ Quoted.encode host
  | pathBesideHost => "For absolute URLs, path must be empty or begin with '/'".toList
  | twoSlashes => "Relative URLs cannot have a path starting with '//'".toList
  | leadingColon => "Relative URLs cannot have a path starting with ':'".toList

def isAbsolute (a : Address) : Bool := !a.scheme.isEmpty && !a.host.isEmpty

def behind (mark : Text) (part : Option Text) : Text := part.elim [] fun text => mark ++ text

def authority (a : Address) : Text :=
  (if a.userInfo.isEmpty then [] else a.userInfo ++ ['@']) ++
    (if a.host.contains ':' then '[' :: a.host ++ [']'] else a.host) ++
    behind [':'] (a.portNumber.map Text.ofInt)

def resource (a : Address) : Text :=
  (if a.scheme.isEmpty then [] else a.scheme ++ [':']) ++
    (if a.authority.isEmpty then [] else '/' :: '/' :: a.authority) ++ a.path

def text (a : Address) : Text := a.resource ++ behind ['?'] a.query ++ behind ['#'] a.fragment

end Address

end DocMarkers
