import DocMarkers.Text.Blank

set_option autoImplicit false

namespace DocMarkers

namespace Topic

def joinWords : Text → Text
  | [] => []
  | c :: rest =>
    if isBlank c then
      match rest with
      | d :: _ => if isBlank d then joinWords rest else '_' :: joinWords rest
      | [] => ['_']
    else c :: joinWords rest

def normalize (topic : Text) : Text :=
  Text.trimBy (· == '_') (joinWords (Text.trim topic))

end Topic

end DocMarkers
