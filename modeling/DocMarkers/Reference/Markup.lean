import DocMarkers.Text.Basic

set_option autoImplicit false

namespace DocMarkers

namespace Markup

-- The text `tag?` holds what was read since a bracket that is still open, in reverse.
def stripTagsFrom : Option Text → Text → Text
  | none, [] => []
  | some tag, [] => tag.reverse
  | none, c :: rest =>
    if c = '<' then stripTagsFrom (some [c]) rest else c :: stripTagsFrom none rest
  | some tag, c :: rest =>
    if c = '>' then stripTagsFrom none rest else stripTagsFrom (some (c :: tag)) rest

def stripTags (text : Text) : Text := stripTagsFrom none text

end Markup

end DocMarkers
