import DocMarkers.Text.Basic

set_option autoImplicit false

namespace DocMarkers

abbrev Bytes := List UInt8

namespace Text

def utf8 (text : Text) : Bytes := text.flatMap String.utf8EncodeChar

end Text

namespace Encoding

def replacement : Char := Char.ofNat 0xFFFD

-- Half of a pair that stands alone is no character of a text. Bodies that spell one are left out of
-- account, and a replacement stands in for it.
def scalar (n : Nat) : Char :=
  if 0xD800 ≤ n ∧ n ≤ 0xDFFF then replacement else Char.ofNat n

def continuation? (byte : UInt8) : Option Nat :=
  if byte.toNat / 64 = 2 then some (byte.toNat % 64) else none

def readUtf8 : Bytes → Option Text
  | [] => some []
  | a :: rest =>
    if a.toNat < 0x80 then (readUtf8 rest).map (Char.ofNat a.toNat :: ·)
    else match rest with
      | [] => none
      | b :: rest =>
        match continuation? b with
        | none => none
        | some b =>
          if 0xC2 ≤ a.toNat ∧ a.toNat < 0xE0 then
            (readUtf8 rest).map (Char.ofNat ((a.toNat - 0xC0) * 64 + b) :: ·)
          else match rest with
            | [] => none
            | c :: rest =>
              match continuation? c with
              | none => none
              | some c =>
                if 0xE0 ≤ a.toNat ∧ a.toNat < 0xF0 then
                  let n := ((a.toNat - 0xE0) * 64 + b) * 64 + c
                  if n < 0x800 then none else (readUtf8 rest).map (scalar n :: ·)
                else match rest with
                  | [] => none
                  | d :: rest =>
                    match continuation? d with
                    | none => none
                    | some d =>
                      let n := (((a.toNat - 0xF0) * 64 + b) * 64 + c) * 64 + d
                      if 0xF0 ≤ a.toNat ∧ 0x10000 ≤ n ∧ n < 0x110000 then
                        (readUtf8 rest).map (Char.ofNat n :: ·)
                      else none

-- The ranges of the bytes that continue a character, by its first byte.
def continuations (lead : Nat) : List (Nat × Nat) :=
  let any := (0x80, 0xBF)
  if lead < 0xC2 || 0xF4 < lead then []
  else if lead < 0xE0 then [any]
  else if lead = 0xE0 then [(0xA0, 0xBF), any]
  else if lead = 0xED then [(0x80, 0x9F), any]
  else if lead < 0xF0 then [any, any]
  else if lead = 0xF0 then [(0x90, 0xBF), any, any]
  else if lead < 0xF4 then [any, any, any]
  else [(0x80, 0x8F), any, any]

def takeWithin : List (Nat × Nat) → Bytes → Bytes
  | range :: ranges, byte :: bytes =>
    if range.1 ≤ byte.toNat && byte.toNat ≤ range.2 then byte :: takeWithin ranges bytes else []
  | _, _ => []

def mendUtf8 : Bytes → Text
  | [] => []
  | lead :: rest =>
    let taken := takeWithin (continuations lead.toNat) rest
    (readUtf8 (lead :: taken)).getD [replacement] ++ mendUtf8 (rest.drop taken.length)
termination_by bytes => bytes.length
decreasing_by simp only [List.length_drop, List.length_cons]; omega

def pairs? (bigEndian : Bool) : Bytes → Option (List Nat)
  | [] => some []
  | [_] => none
  | a :: b :: rest =>
    (pairs? bigEndian rest).map fun units =>
      (if bigEndian then a.toNat * 256 + b.toNat else b.toNat * 256 + a.toNat) :: units

-- Joins the halves of characters outside the basic plane.
def joinHalves : List Nat → Text
  | [] => []
  | [n] => [scalar n]
  | a :: b :: rest =>
    if 0xD800 ≤ a ∧ a < 0xDC00 ∧ 0xDC00 ≤ b ∧ b < 0xE000 then
      Char.ofNat (0x10000 + (a - 0xD800) * 1024 + (b - 0xDC00)) :: joinHalves rest
    else scalar a :: joinHalves (b :: rest)

def readUtf16 (bigEndian : Bool) (bytes : Bytes) : Option Text :=
  (pairs? bigEndian bytes).map joinHalves

def readUtf32 (bigEndian : Bool) : Bytes → Option Text
  | [] => some []
  | a :: b :: c :: d :: rest =>
    let n :=
      if bigEndian then ((a.toNat * 256 + b.toNat) * 256 + c.toNat) * 256 + d.toNat
      else ((d.toNat * 256 + c.toNat) * 256 + b.toNat) * 256 + a.toNat
    if n < 0x110000 then (readUtf32 bigEndian rest).map (scalar n :: ·) else none
  | _ => none

def read (bytes : Bytes) : Option Text :=
  match bytes with
  | 0x00 :: 0x00 :: 0xFE :: 0xFF :: rest => readUtf32 true rest
  | 0xFF :: 0xFE :: 0x00 :: 0x00 :: rest => readUtf32 false rest
  | 0xFE :: 0xFF :: rest => readUtf16 true rest
  | 0xFF :: 0xFE :: rest => readUtf16 false rest
  | 0xEF :: 0xBB :: 0xBF :: rest => readUtf8 rest
  | a :: b :: c :: d :: _ =>
    if a = 0 then if b = 0 then readUtf32 true bytes else readUtf16 true bytes
    else if b = 0 then if c = 0 ∧ d = 0 then readUtf32 false bytes else readUtf16 false bytes
    else readUtf8 bytes
  | [a, b] =>
    if a = 0 then readUtf16 true bytes
    else if b = 0 then readUtf16 false bytes
    else readUtf8 bytes
  | _ => readUtf8 bytes

theorem continuation?_ofNat (n : Nat) :
    continuation? (UInt8.ofNat (n % 64 + 128)) = some (n % 64) := by
  have small : (UInt8.ofNat (n % 64 + 128)).toNat = n % 64 + 128 :=
    UInt8.toNat_ofNat_of_lt' (by simp [UInt8.size]; omega)
  simp only [continuation?, small]
  rw [if_pos (by omega)]
  congr 1
  omega

theorem readUtf8_encodeChar (c : Char) (rest : Bytes) :
    readUtf8 (String.utf8EncodeChar c ++ rest) = (readUtf8 rest).map (c :: ·) := by
  have valid : c.val.toNat < 0xD800 ∨ 0xDFFF < c.val.toNat ∧ c.val.toNat < 0x110000 := c.valid
  have byte {n : Nat} (small : n < 256) : (UInt8.ofNat n).toNat = n :=
    UInt8.toNat_ofNat_of_lt' small
  have back : Char.ofNat c.val.toNat = c := Char.ofNat_toNat c
  unfold String.utf8EncodeChar
  generalize c.val.toNat = v at valid back
  simp only
  split
  next one =>
    have lead := byte (show v < 256 by omega)
    rw [List.singleton_append, readUtf8.eq_def]
    simp only [lead]
    rw [if_pos (by omega), back]
  next =>
    split
    next two =>
      have lead := byte (show v / 64 % 32 + 192 < 256 by omega)
      simp only [List.cons_append, List.nil_append, readUtf8, lead, continuation?_ofNat]
      rw [if_neg (by omega), if_pos (by omega),
        show (v / 64 % 32 + 192 - 192) * 64 + v % 64 = v by omega, back]
    next =>
      split
      next three =>
        have lead := byte (show v / 4096 % 16 + 224 < 256 by omega)
        simp only [List.cons_append, List.nil_append, readUtf8, lead, continuation?_ofNat]
        rw [if_neg (by omega), if_neg (by omega), if_pos (by omega),
          show ((v / 4096 % 16 + 224 - 224) * 64 + v / 64 % 64) * 64 + v % 64 = v by omega,
          if_neg (by omega), scalar, if_neg (by omega), back]
      next four =>
        have lead := byte (show v / 262144 % 8 + 240 < 256 by omega)
        simp only [List.cons_append, List.nil_append, readUtf8, lead, continuation?_ofNat]
        rw [if_neg (by omega), if_neg (by omega), if_neg (by omega),
          show (((v / 262144 % 8 + 240 - 240) * 64 + v / 4096 % 64) * 64 + v / 64 % 64) * 64 +
            v % 64 = v by omega,
          if_pos (by omega), back]

theorem readUtf8_utf8 (text : Text) : readUtf8 text.utf8 = some text := by
  induction text with
  | nil => simp [Text.utf8, readUtf8]
  | cons c rest ih =>
    simp only [Text.utf8, List.flatMap_cons, readUtf8_encodeChar] at ih ⊢
    rw [ih]
    rfl

end Encoding

end DocMarkers
