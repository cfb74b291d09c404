import DocMarkers.Decimal.Binary64
import DocMarkers.Failure

set_option autoImplicit false

namespace DocMarkers

class Quantity (ν : Type) where
  zero : ν
  add : ν → ν → ν
  sub : ν → ν → ν
  thousandfold : ν → ν
  le : ν → ν → Bool
  lt : ν → ν → Bool
  plus : ν → ν → Except Failure ν
  share : ν → Nat → Except Failure ν
  ratio : Int → Nat → Except Failure ν
  noShare : ν

def Binary64.quotient (i : Int) (n : Nat) : Except Failure Float :=
  let x := ofRatio i n
  if x.isInf then .error .quotientTooLarge else .ok x

instance : Quantity Float where
  zero := 0.0
  add := (· + ·)
  sub := (· - ·)
  thousandfold x := x * 1000.0
  le x y := x ≤ y
  lt x y := x < y
  plus x y := .ok (x + y)
  share x n := .ok (x / Binary64.ofInt n)
  ratio := Binary64.quotient
  noShare := 0.0

instance : Quantity Rat where
  zero := 0
  add := (· + ·)
  sub := (· - ·)
  thousandfold x := x * 1000
  le x y := x ≤ y
  lt x y := x < y
  plus x y := .ok (x + y)
  share x n := .ok (x / n)
  ratio i n := .ok (i / n)
  noShare := 0

def Quantity.elapsed {ν : Type} [Quantity ν] (start stop : ν) : ν :=
  thousandfold (sub stop start)

end DocMarkers
