import DocMarkers.Text.Encoding
import DocMarkers.Text.Hexadecimal

set_option autoImplicit false

namespace DocMarkers

namespace Percent

def isUnreserved (c : Char) : Bool :=
  c.isAlphanum || c == '_' || c == '.' || c == '-' || c == '~'

def encodeByte (byte : UInt8) : Text :=
  ['%', Hexadecimal.capital (byte.toNat / 16), Hexadecimal.capital (byte.toNat % 16)]

def encodeChar (c : Char) : Text :=
  if isUnreserved c then [c] else (Text.utf8 [c]).flatMap encodeByte

def encode (text : Text) : Text := text.flatMap encodeChar

-- Writes the characters outside a class as bytes. What stands encoded already stays as it is.
def escape (keeps : Char → Bool) : Text → Text
  | [] => []
  | '%' :: a :: b :: rest =>
    if (Hexadecimal.value? a).isSome && (Hexadecimal.value? b).isSome then
      '%' :: a :: b :: escape keeps rest
    else escapeChar '%' ++ escape keeps (a :: b :: rest)
  | c :: rest => escapeChar c ++ escape keeps rest
where
  escapeChar (c : Char) : Text :=
    if keeps c then [c] else (Text.utf8 [c]).flatMap encodeByte

def encodeField (text : Text) : Text :=
  text.flatMap fun c => if c = ' ' then ['+'] else encodeChar c

-- The bytes of an encoded text. A percent sign without two digits stands for itself.
def bytes : Text → Bytes
  | [] => []
  | '%' :: a :: b :: rest =>
    match Hexadecimal.value? a, Hexadecimal.value? b with
    | some high, some low => UInt8.ofNat (16 * high + low) :: bytes rest
    | _, _ => Text.utf8 ['%'] ++ bytes (a :: b :: rest)
  | c :: rest => Text.utf8 [c] ++ bytes rest

def decode? (text : Text) : Option Text := Encoding.readUtf8 (bytes text)

def decode (text : Text) : Text := Encoding.mendUtf8 (bytes text)

theorem bytes_encodeByte (byte : UInt8) (rest : Text) :
    bytes (encodeByte byte ++ rest) = byte :: bytes rest := by
  have bound := byte.toNat_lt
  rw [encodeByte, List.cons_append, List.cons_append, List.singleton_append, bytes.eq_def]
  simp only [Hexadecimal.value?_capital (show byte.toNat / 16 < 16 by omega),
    Hexadecimal.value?_capital (show byte.toNat % 16 < 16 by omega)]
  rw [show 16 * (byte.toNat / 16) + byte.toNat % 16 = byte.toNat by omega, UInt8.ofNat_toNat]

theorem bytes_encodeBytes (bs : Bytes) (rest : Text) :
    bytes (bs.flatMap encodeByte ++ rest) = bs ++ bytes rest := by
  induction bs with
  | nil => rfl
  | cons byte bs ih => rw [List.flatMap_cons, List.append_assoc, bytes_encodeByte, ih]; rfl

theorem bytes_cons {c : Char} (other : c ≠ '%') (rest : Text) :
    bytes (c :: rest) = Text.utf8 [c] ++ bytes rest := by
  rw [bytes.eq_def]
  split <;> simp_all

theorem bytes_encode (text : Text) : bytes (encode text) = text.utf8 := by
  induction text with
  | nil => rfl
  | cons c rest ih =>
    simp only [encode, List.flatMap_cons, encodeChar] at ih ⊢
    split
    next plain =>
      rw [List.singleton_append, bytes_cons (by rintro rfl; simp [isUnreserved] at plain), ih]
      simp [Text.utf8]
    next =>
      rw [bytes_encodeBytes, ih]
      simp [Text.utf8]

theorem decode?_encode (text : Text) : decode? (encode text) = some text := by
  rw [decode?, bytes_encode, Encoding.readUtf8_utf8]

end Percent

end DocMarkers
