import DocMarkers.Text.Basic
import DocMarkers.Text.WordCharacter

set_option autoImplicit false

namespace DocMarkers

namespace Extraction

def startsWord : Text → Bool
  | [] => false
  | c :: _ => isWordCharacter c

def isPlaceholder (afterWord : Bool) (c : Char) (rest : Text) : Bool :=
  (c == 'X' || c == 'x') && !afterWord && !startsWord rest

def hasPlaceholderFrom (afterWord : Bool) : Text → Bool
  | [] => false
  | c :: rest => isPlaceholder afterWord c rest || hasPlaceholderFrom (isWordCharacter c) rest

def hasPlaceholder (template : Text) : Bool := hasPlaceholderFrom false template

def fillFrom (value : Text) (afterWord : Bool) : Text → Text
  | [] => []
  | c :: rest =>
    (if isPlaceholder afterWord c rest then value else [c]) ++
      fillFrom value (isWordCharacter c) rest

def fillPlaceholder (template value : Text) : Text := fillFrom value false template

end Extraction

end DocMarkers
