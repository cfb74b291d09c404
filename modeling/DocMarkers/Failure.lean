import DocMarkers.Text.Quoted

set_option autoImplicit false

namespace DocMarkers

inductive Failure where
  -- Reported from outside in words of its own: by a server, a model or a handler.
  | connection (words : Text)
  | timeout (words : Text)
  | invalidAddress (words : Text)
  | invalidValue (words : Text)
  | system (words : Text)
  | runtime (words : Text)
  | beyondAscii (text : Text)
  | closedClient
  | unknownScheme (address : Text)
  | wrongKind
  | noSuchPart
  | missingKey (key : Text)
  | unknownMarker (name : Text)
  | duplicateMarker (name : Text)
  | unknownTrace (id : Text)
  | unknownMode (quoted : Text)
  | unreadableNumber (text : Text)
  | noRecordLeft
  | incomparable (kind : Text)
  | integerTooLarge
  | quotientTooLarge
  | nestedTooDeep (inObject : Bool)
  | writtenTooDeep
  | oversizedInteger
  | unwritableNumber
  | interrupted
  | modelGone
  | modelUnavailable (model cause : Text)
  | generationFailed (model cause : Text)
deriving DecidableEq, Repr

namespace Failure

def foreignPlace (text : Text) : Text :=
  let isForeign (c : Char) : Bool := 0x80 ≤ c.toNat
  let start := (text.takeWhile fun c => !isForeign c).length
  match (text.drop start).takeWhile isForeign with
  | [c] => "character '".toList ++ Quoted.code c ++ "' in position ".toList ++ Text.ofNat start
  | foreign =>
    "characters in position ".toList ++ Text.ofNat start ++ '-' ::
      Text.ofNat (start + foreign.length - 1)

def message : Failure → Text
  | connection words => words
  | timeout words => words
  | invalidAddress words => words
  | invalidValue words => words
  | system words => words
  | runtime words => words
  | beyondAscii text =>
    "'ascii' codec can't encode ".toList ++ foreignPlace text ++
      ": ordinal not in range(128)".toList
  | closedClient => "Cannot send a request, as the client has been closed.".toList
  | unknownScheme address => "unknown url type: ".toList ++ Quoted.encode address
  | wrongKind => []
  | noSuchPart => []
  | missingKey key => key
  | unknownMarker name => "Unknown marker: ".toList ++ name
  | duplicateMarker name => "Marker already registered: ".toList ++ name
  | unknownTrace id => "Unknown resolution trace: ".toList ++ id
  | unknownMode quoted => quoted ++ " is not a valid SplitMode".toList
  | unreadableNumber text => "could not convert string to float: ".toList ++ Quoted.encode text
  | noRecordLeft => []
  | incomparable kind =>
    "'>' not supported between instances of 'int' and ".toList ++ Quoted.encode kind
  | integerTooLarge => "int too large to convert to float".toList
  | quotientTooLarge => "integer division result too large for a float".toList
  | nestedTooDeep inObject =>
    "maximum recursion depth exceeded while decoding a JSON ".toList ++
      (if inObject then "object".toList else "array".toList) ++ " from a unicode string".toList
  | writtenTooDeep =>
    "maximum recursion depth exceeded while getting the repr of an object".toList
  | oversizedInteger =>
    ("Exceeds the limit (4300 digits) for integer string conversion; " ++
      "use sys.set_int_max_str_digits() to increase the limit").toList
  | unwritableNumber => "Out of range float values are not JSON compliant".toList
  | interrupted => "coroutine raised StopIteration".toList
  | modelGone => "'NoneType' object has no attribute 'ainvoke'".toList
  | modelUnavailable model cause =>
    "Model ".toList ++ model ++ " is unavailable: ".toList ++ cause
  | generationFailed model cause =>
    "Generation failed on ".toList ++ model ++ ": ".toList ++ cause

def isExchangeFault : Failure → Bool
  | connection _ => true
  | timeout _ => true
  | invalidValue _ => true
  | unknownScheme _ => true
  | _ => false

def isGeneration : Failure → Bool
  | modelUnavailable _ _ => true
  | generationFailed _ _ => true
  | _ => false

end Failure

/-- What code from outside may raise: a failure, or one that cannot be told, as telling it fails in
turn. -/
inductive Raised where
  | told (failure : Failure)
  | untold (fault : Failure)
deriving DecidableEq, Repr

end DocMarkers
