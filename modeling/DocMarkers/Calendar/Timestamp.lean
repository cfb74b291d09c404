import DocMarkers.Calendar.Date
import DocMarkers.Decimal.Literal

set_option autoImplicit false

namespace DocMarkers

namespace Timestamp

def digits? (count : Nat) (text : Text) : Option (Nat × Text) :=
  let front := text.take count
  if front.length = count ∧ front.all Decimal.isAsciiDigit then
    some (Decimal.natOfDigits front, text.drop count)
  else none

def isDigitAt (text : Text) (index : Nat) : Bool :=
  (text[index]?).any Decimal.isAsciiDigit

-- The number of characters of the date, told from the marks between its numbers. Where the weekday
-- could be part of the time, it is.
def dateLength (text : Text) : Nat :=
  if text.length = 7 then 7
  else if text[4]? = some '-' then
    if text[5]? = some 'W' then
      if text[8]? = some '-' ∧ !isDigitAt text 10 then 10 else 8
    else 10
  else if text[4]? = some 'W' then
    let run := ((text.drop 7).takeWhile Decimal.isAsciiDigit).length
    if run < 2 then 7 + run else if run % 2 = 1 then 7 else 8
  else 8

def hyphen? (used : Bool) : Text → Option Text
  | '-' :: rest => if used then some rest else none
  | text => if used then none else some text

def weekDate? (year : Nat) (hyphens : Bool) (text : Text) : Option Date := do
  let (week, rest) ← digits? 2 text
  if rest.isEmpty then Date.ofWeek? year week 1
  else
    let (weekday, _) ← digits? 1 (← hyphen? hyphens rest)
    Date.ofWeek? year week weekday

def monthDate? (year : Nat) (hyphens : Bool) (text : Text) : Option Date := do
  let (month, rest) ← digits? 2 text
  let (day, rest) ← digits? 2 (← hyphen? hyphens rest)
  if rest.isEmpty then some ⟨year, month, day⟩ else none

def date? (text : Text) : Option Date := do
  let (year, rest) ← digits? 4 text
  let (hyphens, rest) := match rest with
    | '-' :: rest => (true, rest)
    | rest => (false, rest)
  let date ← match rest with
    | 'W' :: rest => weekDate? year hyphens rest
    | rest => monthDate? year hyphens rest
  if date.isValid then some date else none

structure Clock where
  hours : Nat
  minutes : Nat
  seconds : Nat
  complete : Bool
deriving DecidableEq, Repr

-- The last character of a text, as the end of a time: only NUL ends it well.
def endsWell (c : Char) : Bool := c.toNat == 0

def fraction? (text : Text) : Option Bool := do
  let (_, rest) ← digits? (min 6 text.length) text
  match rest.dropWhile Decimal.isAsciiDigit with
  | [] => some true
  | c :: _ => some (endsWell c)

-- Reads two digits for each of the parts to come. `colons` tells whether they stand between the
-- parts; it is not known before the first one was read.
def parts? (colons : Option Bool) : Nat → List Nat → Text → Option (List Nat × Bool)
  | 0, read, text => (fraction? text).map fun complete => (read.reverse, complete)
  | left + 1, read, text => do
    let (part, rest) ← digits? 2 text
    match rest with
    | [] => some ((part :: read).reverse, true)
    | [c] => if c.toNat < 128 then some ((part :: read).reverse, endsWell c) else none
    | c :: more =>
      let colons := colons.getD (c == ':')
      if colons && c == ':' then parts? (some colons) left (part :: read) more
      else if c == '.' || c == ',' then
        (fraction? more).map fun complete => ((part :: read).reverse, complete)
      else if colons then none
      else parts? (some colons) left (part :: read) rest

def clock? (text : Text) : Option Clock := do
  let (parts, complete) ← parts? none 3 [] text
  some ⟨parts.getD 0 0, parts.getD 1 0, parts.getD 2 0, complete⟩

def Clock.isValid (clock : Clock) : Bool :=
  clock.hours ≤ 23 && clock.minutes ≤ 59 && clock.seconds ≤ 59

def Clock.isOffset (clock : Clock) : Bool :=
  clock.complete && clock.hours * 3600 + clock.minutes * 60 + clock.seconds < 86400

def startsOffset (c : Char) : Bool := c == '+' || c == '-'

def isTime (text : Text) : Bool :=
  match clock? (text.takeWhile fun c => !startsOffset c) with
  | none => false
  | some clock =>
    clock.isValid &&
      match text.dropWhile (fun c => !startsOffset c) with
      | [] => clock.complete
      | _ :: offset => (clock? offset).any Clock.isOffset

def read? (text : Text) : Option Date :=
  if text.length < 7 then none
  else
    let size := dateLength text
    match date? (text.take size), text.drop size with
    | some date, [] => some date
    | some date, _ :: time => if isTime time then some date else none
    | none, _ => none

def readZulu? (text : Text) : Option Date :=
  read? (Text.replaceAll ['Z'] "+00:00".toList text)

end Timestamp

end DocMarkers
