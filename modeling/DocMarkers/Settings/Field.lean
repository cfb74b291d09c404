import DocMarkers.Decimal.Literal
import DocMarkers.Value.Basic

set_option autoImplicit false

namespace DocMarkers

inductive Step where
  | name (name : Text)
  | index (index : Nat)
deriving DecidableEq, Repr

inductive IssueKind where
  | missing
  | textKind
  | boolKind
  | boolReading
  | intKind
  | intReading
  | intSize
  | fraction
  | finite
  | floatKind
  | floatReading
  | atLeast
  | above
  | atMost
  | pattern
  | handlerKind
  | choice
  | listKind
  | objectKind
  | recordKind
  | notJson
deriving DecidableEq, Repr

def IssueKind.label : IssueKind → Text
  | missing => "missing".toList
  | textKind => "string_type".toList
  | boolKind => "bool_type".toList
  | boolReading => "bool_parsing".toList
  | intKind => "int_type".toList
  | intReading => "int_parsing".toList
  | intSize => "int_parsing_size".toList
  | fraction => "int_from_float".toList
  | finite => "finite_number".toList
  | floatKind => "float_type".toList
  | floatReading => "float_parsing".toList
  | atLeast => "greater_than_equal".toList
  | above => "greater_than".toList
  | atMost => "less_than_equal".toList
  | pattern => "string_pattern_mismatch".toList
  | handlerKind => "callable_type".toList
  | choice => "enum".toList
  | listKind => "list_type".toList
  | objectKind => "dict_type".toList
  | recordKind => "model_attributes_type".toList
  | notJson => "json_invalid".toList

structure Issue where
  path : List Step
  kind : IssueKind
deriving DecidableEq, Repr

abbrev Checked (α : Type) := Except (List Issue) α

namespace Field

abbrev Read (α : Type) := Except IssueKind α

def text : Value → Read Text
  | .text t => .ok t
  | _ => .error .textKind

def isWord (i : Int) : Bool := -Int.pow 2 63 ≤ i && i < Int.pow 2 63

-- Doubles beyond 64 bits, the least word included, are too large to stand for an integer.
def intOfFloat (x : Float) : Read Int :=
  match Binary64.shape x, Binary64.toInt? x with
  | .finite .., some i => if i.natAbs < Nat.pow 2 63 then .ok i else .error .intSize
  | .finite .., none => .error .fraction
  | _, _ => .error .finite

def intPlaces : Nat := 4300

def sizedInt (negative : Bool) (digits : Text) : Read Int :=
  if intPlaces < digits.length then .error .intSize
  else
    let n := Decimal.natOfDigits digits
    .ok (if negative then -n else n)

-- Reads digits behind a minus sign or none; the first of several is not a zero. Too many digits are
-- told of whatever follows them.
def plainInt (text : Text) : Read Int :=
  let (negative, body) := Decimal.minus text
  let digits := body.takeWhile Decimal.isAsciiDigit
  let rest := body.dropWhile Decimal.isAsciiDigit
  if digits.isEmpty || (digits.head? == some '0' && digits.length ≠ 1) then .error .intReading
  else if rest.isEmpty || intPlaces < digits.length then sizedInt negative digits
  else .error .intReading

-- Drops zeros, with underscores among and behind them, in front of a digit or a sign. One zero
-- stays in front of a point and where nothing else is left.
def withoutLeadingZeros? (text : Text) : Option Text :=
  match text with
  | '0' :: rest =>
    let skipped := rest.takeWhile fun c => c == '0' || c == '_'
    let zero := if skipped.getLast? = some '_' then none else some '0'
    match rest.drop skipped.length with
    | [] => zero.map fun c => [c]
    | '.' :: fraction => zero.map fun c => c :: '.' :: fraction
    | '-' :: digits => some ('-' :: digits)
    | c :: digits => if Decimal.isAsciiDigit c then some (c :: digits) else none
  | c :: _ => if Decimal.isAsciiDigit c || c == '-' then some text else none
  | [] => none

def withoutFraction (text : Text) : Text :=
  match Text.cut '.' text with
  | (whole, some zeros) => if !zeros.isEmpty && zeros.all (· == '0') then whole else text
  | (_, none) => text

def withoutUnderscores? (text : Text) : Option Text :=
  if (Text.splitOn '_' text).any List.isEmpty then none
  else some (text.filter (· != '_'))

def plainForm? (text : Text) : Option Text :=
  match Text.trimBy isWhiteSpace text with
  | '+' :: '-' :: _ => none
  | '+' :: body => tidy body
  | '-' :: body => (tidy body).map ('-' :: ·)
  | body => tidy body
where
  tidy (body : Text) : Option Text :=
    (withoutLeadingZeros? body).map fun body =>
      (withoutUnderscores? (withoutFraction body)).getD (withoutFraction body)

def intOfText (text : Text) : Read Int :=
  match plainInt text with
  | .error .intReading => (plainForm? text).elim (.error .intReading) plainInt
  | read => read

def int : Value → Read Int
  | .bool b => .ok (if b then 1 else 0)
  | .int i => .ok i
  | .float x => intOfFloat x
  | .text t => intOfText t
  | _ => .error .intKind

def floatOfText (text : Text) : Read Float :=
  match Decimal.float? (Text.trimBy isWhiteSpace text) with
  | some x => .ok x
  | none =>
    match (withoutUnderscores? text).bind Decimal.float? with
    | some x => .ok x
    | none => .error .floatReading

-- An integer beyond all doubles is not read as one.
def floatOfInt (i : Int) : Read Float :=
  let x := Binary64.ofInt i
  if x.isInf then .error .floatKind else .ok x

def float : Value → Read Float
  | .bool b => .ok (if b then 1.0 else 0.0)
  | .int i => floatOfInt i
  | .float x => .ok x
  | .text t => floatOfText t
  | _ => .error .floatKind

def falseWords : List Text :=
  ["0", "off", "f", "false", "n", "no"].map String.toList

def trueWords : List Text :=
  ["1", "on", "t", "true", "y", "yes"].map String.toList

def boolOfInt (i : Int) : Read Bool :=
  if i = 0 then .ok false
  else if i = 1 then .ok true
  else if isWord i then .error .boolReading
  else .error .boolKind

def bool : Value → Read Bool
  | .bool b => .ok b
  | .int i => boolOfInt i
  | .float x =>
    match intOfFloat x with
    | .ok i => boolOfInt i
    | .error _ => .error .boolKind
  | .text t =>
    let lower := t.map Char.toLower
    if falseWords.contains lower then .ok false
    else if trueWords.contains lower then .ok true
    else .error .boolReading
  | _ => .error .boolKind

def checked {α : Type} (test : α → Bool) (kind : IssueKind) (read : Read α) : Read α :=
  match read with
  | .ok a => if test a then .ok a else .error kind
  | .error kind => .error kind

def withDefault {α : Type} (fields : List (Text × Value)) (name : Text) (default : α)
    (read : Value → Read α) : Read α :=
  match Entries.get? fields name with
  | none => .ok default
  | some value => read value

def required {α : Type} (fields : List (Text × Value)) (name : Text)
    (read : Value → Read α) : Read α :=
  match Entries.get? fields name with
  | none => .error .missing
  | some value => read value

def issues {α : Type} (name : Text) : Read α → List Issue
  | .ok _ => []
  | .error kind => [⟨[.name name], kind⟩]

end Field

end DocMarkers
