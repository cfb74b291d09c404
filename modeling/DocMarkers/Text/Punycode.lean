import DocMarkers.Text.Basic

set_option autoImplicit false

namespace DocMarkers

namespace Punycode

def digit (value : Nat) : Char := Char.ofNat (if value < 26 then 97 + value else 22 + value)

-- The threshold of a place. Places are multiples of 36, of which the bias is subtracted.
def threshold (bias place : Nat) : Nat := min 26 (max 1 (place - bias))

theorem threshold_pos (bias place : Nat) : 0 < threshold bias place := by
  simp only [threshold]; omega

def digitsFrom (bias place number : Nat) : Text :=
  let least := threshold bias place
  if number < least then [digit number]
  else
    digit (least + (number - least) % (36 - least)) ::
      digitsFrom bias (place + 36) ((number - least) / (36 - least))
termination_by number
decreasing_by
  have positive := threshold_pos bias place
  have quotient := Nat.div_le_self (number - threshold bias place) (36 - threshold bias place)
  omega

def reduce (number : Nat) : Nat × Nat :=
  if number ≤ 455 then (number, 0)
  else
    let (small, divisions) := reduce (number / 35)
    (small, divisions + 1)

def bias (number placed : Nat) (isFirst : Bool) : Nat :=
  let number := if isFirst then number / 700 else number / 2
  let (small, divisions) := reduce (number + number / placed)
  36 * divisions + 36 * small / (small + 38)

def write (suggested placed : Nat) (isFirst : Bool) : List Nat → Text
  | [] => []
  | number :: numbers =>
    digitsFrom suggested 36 number ++
      write (bias number (placed + 1) isFirst) (placed + 1) false numbers

-- Steps over the smaller characters of a text and places those of a code: the numbers of steps to
-- each of them, and the steps behind the last.
def pass (code steps : Nat) : Text → List Nat × Nat
  | [] => ([], steps)
  | c :: rest =>
    if c.toNat < code then pass code (steps + 1) rest
    else if c.toNat = code then
      let (numbers, left) := pass code 0 rest
      (steps :: numbers, left)
    else pass code steps rest

-- The numbers of steps to the characters of some codes. A pass for every code from the least on
-- would step over the characters that are placed already and over the end of the text.
def numbers (text : Text) (least placed steps : Nat) : List Nat → List Nat
  | [] => []
  | code :: codes =>
    let (found, left) := pass code (steps + (code - least) * (placed + 1)) text
    found ++ numbers text (code + 1) (placed + found.length) (left + 1) codes

def firstBias : Nat := 72

def encode (text : Text) : Text :=
  let plain := text.filter fun c => c.toNat < 0x80
  let codes := ((text.map Char.toNat).filter fun code => 0x80 ≤ code).mergeSort.eraseDups
  let behind := write firstBias plain.length true (numbers text 0x80 plain.length 0 codes)
  if plain.isEmpty then behind else plain ++ '-' :: behind

end Punycode

end DocMarkers
