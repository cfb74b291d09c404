import DocMarkers.Decimal.Binary64
import DocMarkers.Pattern
import DocMarkers.Text.Blank
import DocMarkers.Text.DecimalDigit
import DocMarkers.Value.Bound

set_option autoImplicit false

namespace DocMarkers

-- The small letter that a letter of ASCII is compared by. A dotless or a dotted capital i counts as
-- an i, a long s as an s and the sign for kelvin as a k.
def foldLetter (c : Char) : Char :=
  if c = 'ı' ∨ c = 'İ' then 'i'
  else if c = 'ſ' then 's'
  else if c.toNat = 0x212A then 'k'
  else c.toLower

namespace Extraction

def word (letters : String) : Pattern :=
  Pattern.word (fun expected c => foldLetter c == expected) letters.toList

def words (choices : List String) : Pattern := Pattern.any (choices.map word)

def digit : Pattern := .one isDecimalDigit

def blanks : Pattern := .many isBlank

def amount : Pattern :=
  Pattern.all [digit, .many fun c => isDecimalDigit c || c == ',',
    .optional (.seq (.one (· == '.')) (.atLeastOne isDecimalDigit))]

def scaledQuantity : Pattern :=
  Pattern.all [amount, blanks, words ["million", "billion", "trillion"], blanks,
    .optional (words ["users", "people", "dollars", "downloads"])]

def percentage : Pattern :=
  Pattern.all [amount, blanks, .either (word "percent") (.one (· == '%'))]

def fourDigits : Pattern := digit.times 4

def monthAndYear : Pattern :=
  Pattern.all [words ["january", "february", "march", "april", "may", "june", "july", "august",
    "september", "october", "november", "december"], .atLeastOne isBlank, fourDigits]

def keyPatterns : List Pattern := [scaledQuantity, percentage, monthAndYear, fourDigits]

def endsSentence (c : Char) : Bool := c == '.' || c == '!' || c == '?'

def opening (fact : Text) (maxLength : Int) : Text :=
  let sentence := fact.takeWhile fun c => !endsSentence c
  if sentence.length ≤ maxLength then Text.trim sentence
  else Text.trim (Text.upTo maxLength sentence) ++ ['.', '.', '.']

def quotable? (fact : Text) : Option Text :=
  (keyPatterns.findSome? fun pattern => pattern.search? fact).map Text.trim

def keyInfo (fact : Text) (maxLength : Int := 100) : Text :=
  (quotable? fact).getD (opening fact maxLength)

-- Key information with a bound that may not be an integer. It matters only where there is nothing
-- quotable, and a double only where it cuts.
def keyInfoWithin (bound : Value) (fact : Text) : Except Failure Text :=
  match quotable? fact, bound.bound, bound with
  | some found, _, _ => .ok found
  | none, .ok (some maxLength), _ => .ok (opening fact maxLength)
  | none, _, .float x =>
    let sentence := fact.takeWhile fun c => !endsSentence c
    if Binary64.ofInt sentence.length ≤ x then .ok (Text.trim sentence) else .error .wrongKind
  | none, _, _ => .error .wrongKind

def firstSentence (text : Text) : Text := Text.trim (text.takeWhile (· != '.'))

end Extraction

end DocMarkers
