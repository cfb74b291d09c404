import DocMarkers.Address.LabelCharacter
import DocMarkers.Text.LowerCase
import DocMarkers.Text.Punycode

set_option autoImplicit false

namespace DocMarkers

namespace Address

namespace Label

def isIgnored (c : Char) : Bool := ".:'·^`".toList.contains c || isLabelMark c

def hasCase (c : Char) : Bool :=
  smallLetter c != c || c == 'İ' || c == 'ς' ||
    smallLetterShifts.any fun (first, last, stride, shift) =>
      first + shift ≤ (c.toNat : Int) && (c.toNat : Int) ≤ last + shift &&
        (c.toNat - shift - first) % (stride : Int) == 0

-- The small letters of a text, of which `before` stands reversed in front. A sigma at the end of a
-- word has a form of its own, and the dot of a capital i stays.
def smallFrom (before : Text) : Text → Text
  | [] => []
  | c :: rest =>
    let small :=
      if c = 'Σ' then
        let follows (text : Text) : Bool := (text.find? fun c => !isIgnored c).any hasCase
        if follows before && !follows rest then ['ς'] else ['σ']
      else if c = 'İ' then ['i', '\u0307']
      else [smallLetter c]
    small ++ smallFrom (c :: before) rest

def isHebrew (c : Char) : Bool :=
  Ranges.holds [(0x591, 0x5F4), (0xFB1D, 0xFB4F)] c

def isGreek (c : Char) : Bool :=
  Ranges.holds [(0x370, 0x373), (0x375, 0x3E1), (0x3F0, 0x3FF), (0x1F00, 0x1FFE)] c

def isJapanese (c : Char) : Bool :=
  Ranges.holds [(0x2E80, 0x2FD5), (0x3005, 0x3005), (0x3007, 0x3007), (0x3021, 0x3029),
    (0x3038, 0x303B), (0x3041, 0x3096), (0x309D, 0x309F), (0x30A1, 0x30FA), (0x30FD, 0x30FF),
    (0x31F0, 0x31FF), (0x3400, 0x4DBF), (0x4E00, 0x9FFF), (0xF900, 0xFAD9),
    (0x20000, 0x3134A)] c

def isArabicDigit (c : Char) : Bool := Ranges.holds [(0x660, 0x669)] c

def isPersianDigit (c : Char) : Bool := Ranges.holds [(0x6F0, 0x6F9)] c

def fits (label before : Text) (c : Char) (after : Text) : Bool :=
  if c = '·' then before.head? = some 'l' && after.head? = some 'l'
  else if c = '͵' then after.head?.any isGreek
  else if c = '׳' || c = '״' then before.head?.any isHebrew
  else if c = '・' then label.any isJapanese
  else if isArabicDigit c then !label.any isPersianDigit
  else if isPersianDigit c then !label.any isArabicDigit
  else isLabelCharacter c && !(before.head?.any fun letter => compose letter c)

def allFit (label before : Text) : Text → Bool
  | [] => true
  | c :: rest => fits label before c rest && allFit label (c :: before) rest

def isLeftwardDigit (c : Char) : Bool := isArabicDigit c || Ranges.holds [(0x10D30, 0x10D39)] c

def isRightwardDigit (c : Char) : Bool := c.isDigit || isPersianDigit c

def hasOneDirection (label : Text) : Bool :=
  let ends (c : Char) : Bool := isLeftwardLetter c || isLeftwardDigit c || isRightwardDigit c
  !(label.any fun c => isLeftwardLetter c || isLeftwardDigit c) ||
    label.head?.any isLeftwardLetter &&
      label.all (fun c => ends c || isLabelMark c || c == '-') &&
      (label.reverse.find? fun c => !isLabelMark c).any ends &&
      !(label.any isLeftwardDigit && label.any isRightwardDigit)

def hyphensFit (label : Text) : Bool :=
  label.head? != some '-' && label.getLast? != some '-' && (label.drop 2).take 2 != ['-', '-']

def isValid (label : Text) : Bool :=
  !label.isEmpty && hyphensFit label && !label.head?.any isLabelMark && allFit label [] label &&
    hasOneDirection label

def mark : Text := "xn--".toList

def lengthLimit : Nat := 63

def encode? (label : Text) : Option Text :=
  let isAscii := label.all fun c => c.toNat < 0x80
  let written := if isAscii then label else mark ++ Punycode.encode label
  let isEncoded := isAscii && mark.isPrefixOf label && mark.length < label.length
  if (isEncoded || isValid label) && written.length ≤ lengthLimit then some written else none

def isDot (c : Char) : Bool := ".。．｡".toList.contains c

def nameLimit : Nat := 253

def encodeName? (name : Text) : Option Text := do
  let dotted := (smallFrom [] name).map fun c => if isDot c then '.' else c
  let labels := Text.splitOn '.' dotted
  let ended := 1 < labels.length && labels.getLast? = some []
  let labels ← (if ended then labels.dropLast else labels).mapM encode?
  let written := Text.join ['.'] labels
  if written.length ≤ nameLimit then return if ended then written ++ ['.'] else written
  else failure

end Label

end Address

end DocMarkers
