import DocMarkers.Text.Basic
import DocMarkers.Text.Hexadecimal
import DocMarkers.Text.Printable

set_option autoImplicit false

namespace DocMarkers

namespace Quoted

def delimiter (text : Text) : Char :=
  if text.contains '\'' && !text.contains '"' then '"' else '\''

def hex (n : Nat) : Nat → Text
  | 0 => []
  | places + 1 => hex (n / 16) places ++ [Hexadecimal.small (n % 16)]

def code (c : Char) : Text :=
  if c.toNat < 0x100 then '\\' :: 'x' :: hex c.toNat 2
  else if c.toNat < 0x10000 then '\\' :: 'u' :: hex c.toNat 4
  else '\\' :: 'U' :: hex c.toNat 8

def escape (quote c : Char) : Text :=
  if c = quote ∨ c = '\\' then ['\\', c]
  else if c = '\n' then ['\\', 'n']
  else if c = '\r' then ['\\', 'r']
  else if c = '\t' then ['\\', 't']
  else if isPrintable c then [c]
  else code c

def encode (text : Text) : Text :=
  let quote := delimiter text
  quote :: (text.flatMap (escape quote) ++ [quote])

end Quoted

end DocMarkers
