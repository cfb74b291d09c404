import DocMarkers.Decimal.Literal
import DocMarkers.Text.Encoding
import DocMarkers.Text.Hexadecimal
import DocMarkers.Value.Basic

set_option autoImplicit false

namespace DocMarkers

namespace Json

inductive Fault where
  | malformed (position : Nat)
  | oversizedInteger
  | undecodable
  | nestedTooDeep (inObject : Bool)
deriving DecidableEq, Repr

structure Cursor where
  position : Nat
  rest : Text

def isSpace (c : Char) : Bool := c == ' ' || c == '\t' || c == '\n' || c == '\r'

namespace Cursor

def advance (cursor : Cursor) (n : Nat) : Cursor :=
  ⟨cursor.position + n, cursor.rest.drop n⟩

def skipSpace (cursor : Cursor) : Cursor :=
  cursor.advance (cursor.rest.takeWhile isSpace).length

def fault {α : Type} (cursor : Cursor) : Except Fault α := .error (.malformed cursor.position)

end Cursor

def unit? : Text → Option Nat
  | a :: b :: c :: d :: _ :: _ => do
    let high := (← Hexadecimal.value? a) * 16 + (← Hexadecimal.value? b)
    let low := (← Hexadecimal.value? c) * 16 + (← Hexadecimal.value? d)
    return high * 256 + low
  | _ => none

def plainEscape? : Char → Option Char
  | '"' => some '"'
  | '\\' => some '\\'
  | '/' => some '/'
  | 'b' => some '\x08'
  | 'f' => some '\x0c'
  | 'n' => some '\n'
  | 'r' => some '\r'
  | 't' => some '\t'
  | _ => none

def unicodeEscape (cursor : Cursor) : Except Fault (Char × Nat) :=
  let mark := cursor.position - 1
  match unit? cursor.rest with
  | none => .error (.malformed mark)
  | some high =>
    match cursor.rest.drop 4 with
    | '\\' :: 'u' :: more =>
      if 0xD800 ≤ high ∧ high < 0xDC00 ∧ 4 < more.length then
        match unit? more with
        | none => .error (.malformed (mark + 6))
        | some low =>
          if 0xDC00 ≤ low ∧ low < 0xE000 then
            .ok (Char.ofNat (0x10000 + (high - 0xD800) * 1024 + (low - 0xDC00)), 10)
          else .ok (Encoding.scalar high, 4)
      else .ok (Encoding.scalar high, 4)
    | _ => .ok (Encoding.scalar high, 4)

def string (start : Nat) : Nat → Cursor → Except Fault (Text × Cursor)
  | 0, _ => .error (.malformed start)
  | fuel + 1, cursor =>
    match cursor.rest with
    | [] => .error (.malformed start)
    | '"' :: _ => .ok ([], cursor.advance 1)
    | '\\' :: [] => .error (.malformed start)
    | '\\' :: 'u' :: _ => do
      let (c, size) ← unicodeEscape (cursor.advance 2)
      let (text, cursor) ← string start fuel (cursor.advance (2 + size))
      return (c :: text, cursor)
    | '\\' :: c :: _ =>
      match plainEscape? c with
      | none => cursor.fault
      | some c => do
        let (text, cursor) ← string start fuel (cursor.advance 2)
        return (c :: text, cursor)
    | c :: _ =>
      if c.toNat < 0x20 then cursor.fault
      else do
        let (text, cursor) ← string start fuel (cursor.advance 1)
        return (c :: text, cursor)

def fractionLength (rest : Text) : Nat :=
  match rest with
  | '.' :: rest =>
    let digits := (rest.takeWhile Decimal.isAsciiDigit).length
    if digits = 0 then 0 else digits + 1
  | _ => 0

def exponentLength (rest : Text) : Nat :=
  match rest with
  | c :: rest =>
    if c = 'e' ∨ c = 'E' then
      let sign := match rest with
        | '+' :: _ => 1
        | '-' :: _ => 1
        | _ => 0
      let digits := ((rest.drop sign).takeWhile Decimal.isAsciiDigit).length
      if digits = 0 then 0 else 1 + sign + digits
    else 0
  | [] => 0

def wholeLength : Text → Nat
  | '0' :: _ => 1
  | rest => (rest.takeWhile Decimal.isAsciiDigit).length

def integerDigits : Nat := 4300

def number (cursor : Cursor) : Except Fault (Value × Cursor) :=
  let (negative, body) := match cursor.rest with
    | '-' :: rest => (true, rest)
    | rest => (false, rest)
  let whole := wholeLength body
  let fraction := fractionLength (body.drop whole)
  let exponent := exponentLength (body.drop (whole + fraction))
  let size := whole + fraction + exponent
  let after := cursor.advance (if negative then size + 1 else size)
  if whole = 0 then cursor.fault
  else if fraction + exponent = 0 then
    if integerDigits < whole then .error .oversizedInteger
    else
      let n := Decimal.natOfDigits (body.take whole)
      .ok (.int (if negative then -n else n), after)
  else
    match Decimal.float? (body.take size) with
    | none => cursor.fault
    | some x => .ok (.float (if negative then -x else x), after)

def words : List (Text × Value) :=
  [("null".toList, .null), ("true".toList, .bool true), ("false".toList, .bool false),
    ("NaN".toList, .float Decimal.notANumber),
    ("Infinity".toList, .float (Binary64.infinity false)),
    ("-Infinity".toList, .float (Binary64.infinity true))]

def word? (cursor : Cursor) : Option (Value × Cursor) :=
  (words.find? fun word => word.1.isPrefixOf cursor.rest).map fun word =>
    (word.2, cursor.advance word.1.length)

mutual

def value (depth : Nat) : Nat → Cursor → Except Fault (Value × Cursor)
  | 0, cursor => cursor.fault
  | fuel + 1, cursor =>
    match cursor.rest with
    | '"' :: rest => do
      let (text, cursor) ← string cursor.position (rest.length + 1) (cursor.advance 1)
      return (.text text, cursor)
    | '[' :: _ =>
      match depth with
      | 0 => .error (.nestedTooDeep false)
      | depth + 1 =>
        let cursor := (cursor.advance 1).skipSpace
        match cursor.rest with
        | ']' :: _ => .ok (.list [], cursor.advance 1)
        | _ => do
          let (items, cursor) ← items depth fuel cursor
          return (.list items, cursor)
    | '{' :: _ =>
      match depth with
      | 0 => .error (.nestedTooDeep true)
      | depth + 1 =>
        let cursor := (cursor.advance 1).skipSpace
        match cursor.rest with
        | '}' :: _ => .ok (.object [], cursor.advance 1)
        | _ => do
          let (fields, cursor) ← fields depth fuel cursor []
          return (.object fields, cursor)
    | _ =>
      match word? cursor with
      | some found => .ok found
      | none => number cursor

def items (depth : Nat) : Nat → Cursor → Except Fault (List Value × Cursor)
  | 0, cursor => cursor.fault
  | fuel + 1, cursor => do
    let (item, cursor) ← value depth fuel cursor
    let cursor := cursor.skipSpace
    match cursor.rest with
    | ']' :: _ => return ([item], cursor.advance 1)
    | ',' :: _ =>
      let (items, cursor) ← items depth fuel (cursor.advance 1).skipSpace
      return (item :: items, cursor)
    | _ => cursor.fault

def fields (depth : Nat) :
    Nat → Cursor → Entries Text Value → Except Fault (Entries Text Value × Cursor)
  | 0, cursor, _ => cursor.fault
  | fuel + 1, cursor, entries =>
    match cursor.rest with
    | '"' :: rest => do
      let (name, cursor) ← string cursor.position (rest.length + 1) (cursor.advance 1)
      let cursor := cursor.skipSpace
      match cursor.rest with
      | ':' :: _ =>
        let (value, cursor) ← value depth fuel (cursor.advance 1).skipSpace
        let entries := entries.put name value
        let cursor := cursor.skipSpace
        match cursor.rest with
        | '}' :: _ => return (entries, cursor.advance 1)
        | ',' :: _ => fields depth fuel (cursor.advance 1).skipSpace entries
        | _ => cursor.fault
      | _ => cursor.fault
    | _ => cursor.fault

end

def read (depth : Nat) (text : Text) : Except Fault Value := do
  let (value, cursor) ← value depth (2 * text.length + 2) (Cursor.skipSpace ⟨0, text⟩)
  let cursor := cursor.skipSpace
  if cursor.rest.isEmpty then return value else cursor.fault

def decode (depth : Nat) (bytes : Bytes) : Except Fault Value :=
  match Encoding.read bytes with
  | none => .error .undecodable
  | some text => read depth text

end Json

end DocMarkers
