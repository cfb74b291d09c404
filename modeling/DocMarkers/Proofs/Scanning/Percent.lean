import DocMarkers.Text.Percent
import Mathlib.Data.List.Infix

set_option autoImplicit false

namespace DocMarkers

theorem Text.utf8_cons (c : Char) (rest : Text) : utf8 (c :: rest) = utf8 [c] ++ utf8 rest := by
  simp [utf8]

theorem Text.length_utf8_cons (c : Char) (rest : Text) :
    (utf8 (c :: rest)).length = c.utf8Size + (utf8 rest).length := by
  rw [utf8, List.flatMap_cons, List.length_append, String.length_utf8EncodeChar, utf8]

namespace Encoding

theorem lt_of_continuation? {byte : UInt8} {n : Nat} (continues : continuation? byte = some n) :
    n < 64 := by
  unfold continuation? at continues
  split at continues
  next =>
    obtain rfl := Option.some.inj continues
    exact Nat.mod_lt _ (by decide)
  next => contradiction

theorem utf8Size_eq (c : Char) :
    c.utf8Size =
      if c.toNat < 0x80 then 1 else if c.toNat < 0x800 then 2 else if c.toNat < 0x10000 then 3 else 4 := by
  simp only [Char.utf8Size, UInt32.le_iff_toNat_le, Char.toNat, Nat.lt_succ_iff]
  rfl

theorem toNat_ofNat {n : Nat} (valid : n < 0xD800 ∨ 0xDFFF < n ∧ n < 0x110000) :
    (Char.ofNat n).toNat = n := by
  have valid : n.isValidChar := valid
  rw [Char.ofNat, dif_pos valid]
  rfl

theorem utf8Size_scalar {n : Nat} (long : 0x800 ≤ n) (short : n < 0x10000) :
    (scalar n).utf8Size = 3 := by
  unfold scalar
  split
  next => decide
  next whole =>
    rw [utf8Size_eq, toNat_ofNat (by omega), if_neg (by omega), if_neg (by omega), if_pos short]

theorem length_utf8_of_map {c : Char} {rest : Bytes} {text : Text}
    (ih : ∀ {text : Text}, readUtf8 rest = some text → text.utf8.length = rest.length)
    (read : (readUtf8 rest).map (c :: ·) = some text) :
    text.utf8.length = c.utf8Size + rest.length := by
  obtain ⟨others, readOthers, rfl⟩ := Option.map_eq_some_iff.1 read
  rw [Text.length_utf8_cons, ih readOthers]

theorem length_utf8_of_readUtf8 {bytes : Bytes} {text : Text} (read : readUtf8 bytes = some text) :
    text.utf8.length = bytes.length := by
  fun_induction readUtf8 bytes generalizing text with
  | case1 =>
    obtain rfl := Option.some.inj read
    rfl
  | case2 a rest one ih =>
    have size : (Char.ofNat a.toNat).utf8Size = 1 := by
      rw [utf8Size_eq, toNat_ofNat (by omega), if_pos one]
    rw [length_utf8_of_map ih read, size, List.length_cons]
    omega
  | case5 a _ b rest b' continues two ih =>
    have bound := lt_of_continuation? continues
    have size : (Char.ofNat ((a.toNat - 0xC0) * 64 + b')).utf8Size = 2 := by
      rw [utf8Size_eq, toNat_ofNat (by omega), if_neg (by omega), if_pos (by omega)]
    rw [length_utf8_of_map ih read, size]
    simp only [List.length_cons]
    omega
  | case9 a _ b b' continues _ c rest c' continues' three n long =>
    rename_i ih
    have bound := lt_of_continuation? continues
    have bound' := lt_of_continuation? continues'
    rw [length_utf8_of_map ih read, utf8Size_scalar (by omega) (by omega)]
    simp only [List.length_cons]
    omega
  | case12 a _ b b' _ _ c c' _ _ d rest d' _ n four =>
    rename_i ih
    have size : (Char.ofNat n).utf8Size = 4 := by
      rw [utf8Size_eq, toNat_ofNat (by omega), if_neg (by omega), if_neg (by omega), if_neg (by omega)]
    rw [length_utf8_of_map ih read, size]
    simp only [List.length_cons]
    omega
  | _ => contradiction

end Encoding

namespace Percent

def digits : Text := "0123456789ABCDEF".toList

inductive IsEncoded : Text → Prop
  | nil : IsEncoded []
  | plain {c : Char} {rest : Text} (unreserved : c.isAlphanum = true ∨ c ∈ ['_', '.', '-', '~'])
      (encoded : IsEncoded rest) : IsEncoded (c :: rest)
  | escaped {a b : Char} {rest : Text} (high : a ∈ digits) (low : b ∈ digits)
      (encoded : IsEncoded rest) : IsEncoded ('%' :: a :: b :: rest)

theorem IsEncoded.append {front rest : Text} (first : IsEncoded front) (second : IsEncoded rest) :
    IsEncoded (front ++ rest) := by
  induction first with
  | nil => exact second
  | plain unreserved _ ih => exact .plain unreserved ih
  | escaped high low _ ih => exact .escaped high low ih

theorem isEncoded_flatMap {α : Type} {write : α → Text} (items : List α)
    (each : ∀ item ∈ items, IsEncoded (write item)) : IsEncoded (items.flatMap write) := by
  induction items with
  | nil => exact .nil
  | cons item items ih =>
    obtain ⟨first, rest⟩ := List.forall_mem_cons.1 each
    exact first.append (ih rest)

theorem isEncoded_encodeByte (byte : UInt8) : IsEncoded (encodeByte byte) := by
  have digit : ∀ n < 16, Hexadecimal.capital n ∈ digits := by decide
  have bound := byte.toNat_lt
  exact .escaped (digit _ (by omega)) (digit _ (by omega)) .nil

theorem isEncoded_encode (text : Text) : IsEncoded (encode text) := by
  refine isEncoded_flatMap text fun c _ => ?_
  unfold encodeChar
  split
  next plain => exact .plain (by simpa [isUnreserved, or_assoc] using plain) .nil
  next => exact isEncoded_flatMap _ fun byte _ => isEncoded_encodeByte byte

theorem encode_eq_self {text : Text} (plain : ∀ c ∈ text, isUnreserved c = true) :
    encode text = text := by
  induction text with
  | nil => rfl
  | cons c rest ih =>
    obtain ⟨first, others⟩ := List.forall_mem_cons.1 plain
    have later := ih others
    simp only [encode] at later ⊢
    rw [List.flatMap_cons, later, encodeChar, if_pos first, List.singleton_append]

theorem IsEncoded.written {text : Text} (encoded : IsEncoded text) :
    ∀ c ∈ text, c.isAlphanum = true ∨ c ∈ ['_', '.', '-', '~', '%'] := by
  have digit := List.all_eq_true.1 (show digits.all Char.isAlphanum = true by decide)
  induction encoded with
  | nil => exact nofun
  | plain unreserved _ ih =>
    refine List.forall_mem_cons.2 ⟨unreserved.imp_right fun sign => ?_, ih⟩
    exact List.mem_append_left ['%'] sign
  | escaped high low _ ih =>
    exact List.forall_mem_cons.2 ⟨.inr (by decide), List.forall_mem_cons.2 ⟨.inl (digit _ high),
      List.forall_mem_cons.2 ⟨.inl (digit _ low), ih⟩⟩⟩

theorem IsEncoded.not_mem {text : Text} (encoded : IsEncoded text) {mark : Char}
    (isMark : mark ∈ ['/', '?', '#']) : mark ∉ text := by
  intro member
  have written := encoded.written mark member
  obtain rfl | rfl | rfl : mark = '/' ∨ mark = '?' ∨ mark = '#' := by simpa using isMark
  all_goals exact absurd written (by decide)

theorem encode_injective : Function.Injective encode := fun text other same => by
  have decoded := decode?_encode text
  rw [same, decode?_encode] at decoded
  exact (Option.some.inj decoded).symm

def HasEscape (text : Text) : Prop :=
  ∃ a b rest, '%' :: a :: b :: rest <:+ text ∧
    (Hexadecimal.value? a).isSome = true ∧ (Hexadecimal.value? b).isSome = true

theorem hasEscape_cons {c : Char} {rest : Text}
    (bare : ∀ a b more, c = '%' → rest = a :: b :: more →
      ¬ ((Hexadecimal.value? a).isSome = true ∧ (Hexadecimal.value? b).isSome = true)) :
    HasEscape (c :: rest) ↔ HasEscape rest := by
  constructor
  · rintro ⟨a, b, more, suffix, digits⟩
    rcases List.suffix_cons_iff.1 suffix with same | suffix
    · obtain ⟨rfl, rfl⟩ := List.cons.inj same
      exact absurd digits (bare a b more rfl rfl)
    · exact ⟨a, b, more, suffix, digits⟩
  · rintro ⟨a, b, more, suffix, digits⟩
    exact ⟨a, b, more, List.suffix_cons_iff.2 (.inr suffix), digits⟩

-- Decoding makes a text shorter at an escape and leaves it as it is otherwise. Reading bytes as a text keeps
-- their number, so a text that was made shorter is not read back.
theorem bytes_cases (text : Text) :
    HasEscape text ∧ (bytes text).length < text.utf8.length ∨
      ¬ HasEscape text ∧ bytes text = text.utf8 := by
  fun_induction bytes text with
  | case1 => exact .inr ⟨fun ⟨_, _, _, suffix, _⟩ => by simp at suffix, rfl⟩
  | case2 a b rest high low readLow readHigh ih =>
    refine .inl ⟨⟨a, b, rest, List.suffix_rfl, by simp [readHigh], by simp [readLow]⟩, ?_⟩
    have within : (bytes rest).length ≤ (Text.utf8 rest).length := by
      rcases ih with ⟨-, shorter⟩ | ⟨-, same⟩
      · exact shorter.le
      · rw [same]
    have first := a.utf8Size_pos
    have second := b.utf8Size_pos
    simp only [Text.length_utf8_cons, List.length_cons]
    omega
  | case3 a b rest unread ih =>
    rw [hasEscape_cons, Text.utf8_cons '%' (a :: b :: rest)]
    · simpa using ih
    · intro a' b' more _ same digits
      obtain ⟨ofHigh, ofRest⟩ := List.cons.inj same
      obtain ⟨ofLow, -⟩ := List.cons.inj ofRest
      rw [← ofHigh, ← ofLow] at digits
      exact unread _ _ (Option.some_get digits.1).symm (Option.some_get digits.2).symm
  | case4 c rest other ih =>
    rw [hasEscape_cons fun a b more percent same _ => other a b more percent same,
      Text.utf8_cons c rest]
    simpa using ih

theorem decode?_eq_self_iff {text : Text} : decode? text = some text ↔ ¬ HasEscape text := by
  rcases bytes_cases text with ⟨escape, shorter⟩ | ⟨plain, same⟩
  · refine iff_of_false (fun read => ?_) (not_not.2 escape)
    exact shorter.ne (Encoding.length_utf8_of_readUtf8 read).symm
  · exact iff_of_true (by rw [decode?, same, Encoding.readUtf8_utf8]) plain

end Percent

end DocMarkers
