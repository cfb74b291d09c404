import DocMarkers.Decimal.Binary64
import DocMarkers.Text.Blank
import DocMarkers.Text.DecimalDigit

set_option autoImplicit false

namespace DocMarkers

namespace Decimal

def isAsciiDigit (c : Char) : Bool := '0' ≤ c && c ≤ '9'

def natOfDigits (digits : Text) : Nat :=
  digits.foldl (fun n c => 10 * n + (c.toNat - '0'.toNat)) 0

structure Literal where
  negative : Bool
  mantissa : Nat
  exponent : Int
deriving DecidableEq, Repr

def Literal.toFloat (l : Literal) : Float :=
  let point := (Text.ofNat l.mantissa).length + l.exponent
  if l.mantissa = 0 ∨ point < -330 then Binary64.withSign l.negative 0
  else if 310 < point then Binary64.infinity l.negative
  else
    Binary64.nearest l.negative (l.mantissa * Nat.pow 10 l.exponent.toNat)
      (Nat.pow 10 (-l.exponent).toNat)

def minus : Text → Bool × Text
  | '-' :: rest => (true, rest)
  | rest => (false, rest)

def signed : Text → Bool × Text
  | '-' :: rest => (true, rest)
  | '+' :: rest => (false, rest)
  | rest => (false, rest)

def exponent? : Text → Option Int
  | [] => some 0
  | c :: rest =>
    if c = 'e' ∨ c = 'E' then
      let (negative, digits) := signed rest
      if !digits.isEmpty && digits.all isAsciiDigit then
        let n := natOfDigits digits
        some (if negative then -n else n)
      else none
    else none

def Literal.read? (text : Text) : Option Literal :=
  let (negative, body) := signed text
  let whole := body.takeWhile isAsciiDigit
  let (fraction, tail) :=
    match body.dropWhile isAsciiDigit with
    | '.' :: rest => (rest.takeWhile isAsciiDigit, rest.dropWhile isAsciiDigit)
    | rest => ([], rest)
  if whole.isEmpty && fraction.isEmpty then none
  else (exponent? tail).map fun exponent =>
    { negative, mantissa := natOfDigits (whole ++ fraction)
      exponent := exponent - fraction.length }

def notANumber : Float := Float.ofBits 0x7FF8000000000000

def word? (text : Text) : Option Float :=
  let (negative, body) := signed text
  let lower := body.map Char.toLower
  if lower = "inf".toList ∨ lower = "infinity".toList then some (Binary64.infinity negative)
  else if lower = "nan".toList then some notANumber
  else none

def float? (text : Text) : Option Float :=
  (word? text).orElse fun _ => (Literal.read? text).map Literal.toFloat

def ungroup? : Text → Option Text
  | [] => some []
  | '_' :: _ => none
  | [c] => some [c]
  | c :: '_' :: d :: rest =>
    if isAsciiDigit c && isAsciiDigit d then (ungroup? (d :: rest)).map (c :: ·) else none
  | c :: d :: rest => (ungroup? (d :: rest)).map (c :: ·)

def toAsciiDigit (c : Char) : Char :=
  match digitValue? c with
  | some value => Char.ofNat ('0'.toNat + value)
  | none => c

def handwritten? (text : Text) : Option Float :=
  (ungroup? ((Text.trimBy isWhiteSpace text).map toAsciiDigit)).bind float?

end Decimal

end DocMarkers
