set_option autoImplicit false

namespace DocMarkers

namespace Hexadecimal

def small (n : Nat) : Char := Char.ofNat (if n < 10 then 48 + n else 87 + n)

def capital (n : Nat) : Char := Char.ofNat (if n < 10 then 48 + n else 55 + n)

def value? (c : Char) : Option Nat :=
  if '0' ≤ c && c ≤ '9' then some (c.toNat - 48)
  else if 'a' ≤ c && c ≤ 'f' then some (c.toNat - 87)
  else if 'A' ≤ c && c ≤ 'F' then some (c.toNat - 55)
  else none

theorem value?_capital {n : Nat} (small : n < 16) : value? (capital n) = some n := by
  revert n
  decide

end Hexadecimal

end DocMarkers
