import DocMarkers.Decimal.Binary64
import DocMarkers.Text.Basic

set_option autoImplicit false

namespace DocMarkers

namespace Decimal

structure Digits where
  digits : Text
  point : Int
deriving DecidableEq, Repr

-- The numbers that round to a double, in quarters of its last place.
structure Interval where
  low : Nat
  middle : Nat
  high : Nat
  closed : Bool
  exponent : Int

-- At a power of two the neighbour below is only half as far as the one above.
def interval (significand : Nat) (exponent : Int) : Interval :=
  let narrow := significand = Binary64.hiddenBit ∧ Binary64.leastExponent < exponent
  { low := if narrow then 4 * significand - 1 else 4 * significand - 2
    middle := 4 * significand
    high := 4 * significand + 2
    closed := significand % 2 = 0
    exponent := exponent - 2 }

def Interval.sides (i : Interval) (power : Int) (count quarters : Nat) : Nat × Nat :=
  (count * Nat.pow 10 power.toNat * Nat.pow 2 (-i.exponent).toNat,
    quarters * Nat.pow 2 i.exponent.toNat * Nat.pow 10 (-power).toNat)

def Interval.contains (i : Interval) (power : Int) (count : Nat) : Bool :=
  let (left, low) := i.sides power count i.low
  let (_, high) := i.sides power count i.high
  if i.closed then low ≤ left && left ≤ high else low < left && left < high

/-- The neighbour of the middle on the grid of `10 ^ power` that lies in the interval and is
nearest to the middle; of two equally near ones the even one. -/
def Interval.onGrid? (i : Interval) (power : Int) : Option Nat :=
  let (unit, middle) := i.sides power 1 i.middle
  let below := middle / unit
  match i.contains power below, i.contains power (below + 1) with
  | false, false => none
  | true, false => some below
  | false, true => some (below + 1)
  | true, true => some (Binary64.roundDiv middle unit)

def pointFrom (num den : Nat) : Nat → Int → Int
  | 0, point => point
  | fuel + 1, point =>
    if num * Nat.pow 10 (-point).toNat < den * Nat.pow 10 point.toNat then point
    else pointFrom num den fuel (point + 1)

def pointOf (num den : Nat) : Int := pointFrom num den 700 (-330)

-- Drops the zeros at the end of digits written in `places` places; digits that were carried to one
-- place more move the point.
def Digits.ofCount (count places : Nat) (point : Int) : Digits :=
  let text := Text.ofNat count
  { digits := (text.reverse.dropWhile (· == '0')).reverse
    point := if places < text.length then point + 1 else point }

def shortestFrom (i : Interval) (point : Int) : Nat → Nat → Digits
  | 0, places => .ofCount (i.middle / (i.sides (point - places) 1 i.middle).1) places point
  | fuel + 1, places =>
    match i.onGrid? (point - places) with
    | some count => .ofCount count places point
    | none => shortestFrom i point fuel (places + 1)

def shortest (significand : Nat) (exponent : Int) : Digits :=
  let (num, den) := Binary64.ratio significand exponent
  shortestFrom (interval significand exponent) (pointOf num den) 17 1

structure Layout where
  least : Int
  greatest : Int
  exponentPlaces : Nat
  infinite : Text
  undefined : Text

def layout : Layout :=
  { least := -3, greatest := 16, exponentPlaces := 2
    infinite := "inf".toList, undefined := "nan".toList }

def Layout.exponent (l : Layout) (e : Int) : Text :=
  let text := Text.ofNat e.natAbs
  (if e < 0 then '-' else '+') :: (List.replicate (l.exponentPlaces - text.length) '0' ++ text)

def Layout.positive (l : Layout) (d : Digits) : Text :=
  if d.point < l.least ∨ l.greatest < d.point then
    let front := d.digits.take 1
    let back := d.digits.drop 1
    front ++ (if back.isEmpty then [] else '.' :: back) ++ 'e' :: l.exponent (d.point - 1)
  else if d.point ≤ 0 then
    '0' :: '.' :: (List.replicate (-d.point).toNat '0' ++ d.digits)
  else
    let places := d.point.toNat
    if d.digits.length ≤ places then
      d.digits ++ List.replicate (places - d.digits.length) '0' ++ ['.', '0']
    else d.digits.take places ++ '.' :: d.digits.drop places

def Layout.render (l : Layout) (x : Float) : Text :=
  let signed (negative : Bool) (text : Text) : Text := if negative then '-' :: text else text
  match Binary64.shape x with
  | .undefined => l.undefined
  | .infinite negative => signed negative l.infinite
  | .finite negative significand exponent =>
    signed negative <|
      if significand = 0 then ['0', '.', '0'] else l.positive (shortest significand exponent)

def render (x : Float) : Text := layout.render x

end Decimal

end DocMarkers
