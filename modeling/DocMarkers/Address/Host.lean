import DocMarkers.Address.Basic
import DocMarkers.Address.Label
import DocMarkers.Decimal.Literal
import DocMarkers.Pattern
import DocMarkers.Text.Hexadecimal
import DocMarkers.Text.Percent

set_option autoImplicit false

namespace DocMarkers

namespace Address

namespace Host

def isAscii (text : Text) : Bool := text.all fun c => c.toNat < 0x80

-- Four runs of digits with any character between two of them.
def fourByteStyle : Pattern :=
  let digits := Pattern.atLeastOne Decimal.isAsciiDigit
  let any : Pattern := .one fun _ => true
  Pattern.all [digits, any, digits, any, digits, any, digits]

def isByte (digits : Text) : Bool :=
  !digits.isEmpty && digits.length ≤ 3 && digits.all Decimal.isAsciiDigit &&
    (digits == ['0'] || digits.head? != some '0') && Decimal.natOfDigits digits ≤ 255

def isFourByteNumber (text : Text) : Bool :=
  let bytes := Text.splitOn '.' text
  bytes.length == 4 && bytes.all isByte

def isWord (digits : Text) : Bool :=
  !digits.isEmpty && digits.length ≤ 4 && digits.all fun c => (Hexadecimal.value? c).isSome

def words? (text : Text) : Option (List Text) :=
  let words := Text.splitOn ':' text
  if words.length < 3 then none
  else match words.getLast? with
    | some last =>
      if last.contains '.' then
        if isFourByteNumber last then some (words.dropLast ++ [['0'], ['0']]) else none
      else some words
    | none => none

-- Whether words, one of which stands for a run of zeros where it is empty, are eight. The run may
-- stand at an end, where the word before the first colon or behind the last is empty too.
def areEight (words : List Text) : Bool :=
  let inner := words.tail.dropLast
  match inner.findIdx? List.isEmpty with
  | none => words.length == 8 && words.all isWord
  | some place =>
    let high := words.take (place + 1)
    let low := words.drop (place + 2)
    let high := if high == [[]] then [] else high
    let low := if low == [[]] then [] else low
    high.all isWord && low.all isWord && high.length + low.length < 8

def isSixteenByteNumber (text : Text) : Bool :=
  let (number, zone) := Text.cut '%' text
  let hasZone := zone.all fun zone => !zone.isEmpty && !zone.contains '%'
  hasZone && (words? number).any areEight

def isSubDelimiter (c : Char) : Bool := "!$&'()*+,;=".toList.contains c

def keeps (c : Char) : Bool :=
  Percent.isUnreserved c || isSubDelimiter c || "\"`\x7b\x7d%|\\".toList.contains c

def unbracketed? : Text → Option Text
  | '[' :: rest => if rest.getLast? = some ']' then some rest.dropLast else none
  | _ => none

def normalize (host : Text) : Except Fault Text :=
  if fourByteStyle.longest? host = some host then
    if isFourByteNumber host then .ok host else .error (.fourByteNumber host)
  else match unbracketed? host with
    | some number =>
      if isSixteenByteNumber number then .ok number else .error (.sixteenByteNumber host)
    | none =>
      if isAscii host then .ok (Percent.escape keeps (host.map Char.toLower))
      else match Label.encodeName? host with
        | some name => .ok name
        | none => .error (.hostName host)

end Host

end Address

end DocMarkers
