import DocMarkers.Quantity

set_option autoImplicit false

namespace DocMarkers

inductive Number where
  | int (i : Int)
  | float (x : Float)

namespace Number

def toFloat : Number → Float
  | int i => Binary64.ofInt i
  | float x => x

-- Whether `i < significand * 2 ^ exponent`, the latter negated if `negative`.
def intBelow (i : Int) (negative : Bool) (significand : Nat) (exponent : Int) : Bool :=
  let (num, den) := Binary64.ratio significand exponent
  i * den < (if negative then -Int.ofNat num else Int.ofNat num)

def intAbove (i : Int) (negative : Bool) (significand : Nat) (exponent : Int) : Bool :=
  let (num, den) := Binary64.ratio significand exponent
  (if negative then -Int.ofNat num else Int.ofNat num) < i * den

def lt : Number → Number → Bool
  | int i, int j => i < j
  | float x, float y => x < y
  | int i, float y =>
    match Binary64.shape y with
    | .finite negative significand exponent => intBelow i negative significand exponent
    | .infinite negative => !negative
    | .undefined => false
  | float x, int j =>
    match Binary64.shape x with
    | .finite negative significand exponent => intAbove j negative significand exponent
    | .infinite negative => negative
    | .undefined => false

def isUndefined : Number → Bool
  | int _ => false
  | float x => x.isNaN

def le (a b : Number) : Bool := !a.isUndefined && !b.isUndefined && !lt b a

def add : Number → Number → Number
  | int i, int j => int (i + j)
  | a, b => float (a.toFloat + b.toFloat)

def double (a : Number) : Except Failure Float :=
  match a with
  | int _ => if a.toFloat.isInf then .error .integerTooLarge else .ok a.toFloat
  | float x => .ok x

def plus : Number → Number → Except Failure Number
  | int i, int j => .ok (int (i + j))
  | a, b => do return float ((← a.double) + (← b.double))

def sub : Number → Number → Number
  | int i, int j => int (i - j)
  | a, b => float (a.toFloat - b.toFloat)

end Number

instance : Quantity Number where
  zero := .int 0
  add := Number.add
  sub := Number.sub
  thousandfold a := .float (a.toFloat * 1000.0)
  le := Number.le
  lt := Number.lt
  plus := Number.plus
  share a n :=
    match a with
    | .int i => (Binary64.quotient i n).map .float
    | .float x => .ok (.float (x / Binary64.ofInt n))
  ratio i n := (Binary64.quotient i n).map .float
  noShare := .float 0.0

end DocMarkers
