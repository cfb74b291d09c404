set_option autoImplicit false

namespace DocMarkers

namespace Binary64

inductive Shape where
  | finite (negative : Bool) (significand : Nat) (exponent : Int)
  | infinite (negative : Bool)
  | undefined
deriving DecidableEq, Repr

def hiddenBit : Nat := Nat.pow 2 52

def leastExponent : Int := -1074

def shape (x : Float) : Shape :=
  let bits := x.toBits.toNat
  let negative := bits / Nat.pow 2 63 == 1
  let scale := bits / hiddenBit % 2048
  let fraction := bits % hiddenBit
  if scale = 2047 then
    if fraction = 0 then .infinite negative else .undefined
  else if scale = 0 then .finite negative fraction leastExponent
  else .finite negative (hiddenBit + fraction) (leastExponent + scale - 1)

/-- The natural number nearest to `num / den`; a half goes to the even neighbour. -/
def roundDiv (num den : Nat) : Nat :=
  let quotient := num / den
  let twice := 2 * (num % den)
  if twice < den then quotient
  else if den < twice then quotient + 1
  else if quotient % 2 = 0 then quotient else quotient + 1

def withSign (negative : Bool) (magnitude : Nat) : Float :=
  Float.ofBits (UInt64.ofNat (if negative then Nat.pow 2 63 + magnitude else magnitude))

def infinity (negative : Bool) : Float := withSign negative (2047 * hiddenBit)

def assemble (negative : Bool) (significand : Nat) (exponent : Int) : Float :=
  if significand < hiddenBit then withSign negative significand
  else
    let scale := (exponent - leastExponent + 1).toNat
    if 2047 ≤ scale then infinity negative
    else withSign negative (scale * hiddenBit + (significand - hiddenBit))

def nearest (negative : Bool) (num den : Nat) : Float :=
  if num = 0 then withSign negative 0
  else
    let rough : Int := (Nat.log2 num : Int) - (Nat.log2 den : Int) - 53
    let scaled (exponent : Int) : Nat × Nat :=
      (num * Nat.pow 2 (-exponent).toNat, den * Nat.pow 2 exponent.toNat)
    let wide := (scaled rough).1 / (scaled rough).2
    let exponent := max leastExponent (if 2 * hiddenBit ≤ wide then rough + 1 else rough)
    let significand := roundDiv (scaled exponent).1 (scaled exponent).2
    if significand = 2 * hiddenBit then assemble negative hiddenBit (exponent + 1)
    else assemble negative significand exponent

def ofInt (i : Int) : Float := nearest (i < 0) i.natAbs 1

def ofRatio (i : Int) (n : Nat) : Float := nearest (i < 0) i.natAbs n

def ratio (significand : Nat) (exponent : Int) : Nat × Nat :=
  (significand * Nat.pow 2 exponent.toNat, Nat.pow 2 (-exponent).toNat)

def toInt? (x : Float) : Option Int :=
  match shape x with
  | .finite negative significand exponent =>
    let (num, den) := ratio significand exponent
    if num % den = 0 then
      some (if negative then -Int.ofNat (num / den) else Int.ofNat (num / den))
    else none
  | _ => none

def floor? (x : Float) : Option Int :=
  match shape x with
  | .finite negative significand exponent =>
    let (num, den) := ratio significand exponent
    some (Int.fdiv (if negative then -Int.ofNat num else Int.ofNat num) den)
  | _ => none

end Binary64

end DocMarkers
