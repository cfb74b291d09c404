import DocMarkers.Text.Basic

set_option autoImplicit false

namespace DocMarkers

structure Marker where
  name : Text
  params : Option Text
deriving DecidableEq, Repr

namespace Marker

def isNameChar (c : Char) : Bool := c.isAlphanum || c == '_'

def isName : Text → Bool
  | 'a' :: 'i' :: '_' :: stem => !stem.isEmpty && stem.all isNameChar
  | _ => false

def literal (marker : Marker) : Text :=
  match marker.params with
  | none => '{' :: '{' :: (marker.name ++ ['}', '}'])
  | some params => '{' :: '{' :: (marker.name ++ ':' :: (params ++ ['}', '}']))

/-- The text up to the first closing double brace, unless an opening one comes before it. -/
def enclosed? : Text → Option Text
  | [] => none
  | '}' :: '}' :: _ => some []
  | '{' :: '{' :: _ => none
  | c :: rest => (enclosed? rest).map (c :: ·)

def continued? (name : Text) : Text → Option Marker
  | '}' :: '}' :: _ => some ⟨name, none⟩
  | ':' :: body => (enclosed? body).map fun params => ⟨name, some params⟩
  | _ => none

def atStart? : Text → Option Marker
  | '{' :: '{' :: 'a' :: 'i' :: '_' :: rest =>
    if (rest.takeWhile isNameChar).isEmpty then none
    else continued? ('a' :: 'i' :: '_' :: rest.takeWhile isNameChar) (rest.dropWhile isNameChar)
  | _ => none

theorem literal_pos (marker : Marker) : 0 < marker.literal.length := by
  unfold literal
  split <;> simp

theorem enclosed?_eq {body params : Text} (found : enclosed? body = some params) :
    ∃ rest, body = params ++ '}' :: '}' :: rest := by
  fun_induction enclosed? body generalizing params with
  | case1 => simp at found
  | case2 rest => exact ⟨rest, by simp at found; simp [found]⟩
  | case3 => simp at found
  | case4 c rest _ _ ih =>
    obtain ⟨inner, within, rfl⟩ := Option.map_eq_some_iff.1 found
    obtain ⟨tail, rfl⟩ := ih within
    exact ⟨tail, rfl⟩

theorem continued?_eq {name text : Text} {marker : Marker}
    (found : continued? name text = some marker) :
    ∃ rest, '{' :: '{' :: (name ++ text) = marker.literal ++ rest := by
  fun_cases continued? name text with
  | case1 rest =>
    cases found
    exact ⟨rest, by simp [literal]⟩
  | case2 body =>
    obtain ⟨params, within, rfl⟩ := Option.map_eq_some_iff.1 found
    obtain ⟨rest, rfl⟩ := enclosed?_eq within
    exact ⟨rest, by simp [literal]⟩
  | case3 => simp [continued?] at found

theorem atStart?_eq {text : Text} {marker : Marker} (found : atStart? text = some marker) :
    ∃ rest, text = marker.literal ++ rest := by
  fun_cases atStart? text with
  | case1 => simp_all [atStart?]
  | case2 rest _ =>
    have whole := List.takeWhile_append_dropWhile (p := isNameChar) (l := rest)
    simp only [atStart?] at found
    split at found
    next => simp at found
    next =>
      obtain ⟨tail, same⟩ := continued?_eq found
      exact ⟨tail, by simpa [whole] using same⟩
  | case3 => simp [atStart?] at found

end Marker

end DocMarkers
