import DocMarkers.Marker.Basic

set_option autoImplicit false

namespace DocMarkers

inductive Token where
  | plain (c : Char)
  | marker (marker : Marker)
deriving DecidableEq, Repr

namespace Token

def render : Token → Text
  | plain c => [c]
  | marker m => m.literal

def marker? : Token → Option Marker
  | plain _ => none
  | marker m => some m

end Token

namespace Document

-- The number `skip` counts the characters still covered by the last marker.
def tokensFrom : Nat → Text → List Token
  | _, [] => []
  | skip + 1, _ :: rest => tokensFrom skip rest
  | 0, c :: rest =>
    match Marker.atStart? (c :: rest) with
    | some m => .marker m :: tokensFrom (m.literal.length - 1) rest
    | none => .plain c :: tokensFrom 0 rest

def tokens (text : Text) : List Token := tokensFrom 0 text

def render (tokens : List Token) : Text := tokens.flatMap Token.render

theorem render_tokensFrom (skip : Nat) (text : Text) :
    render (tokensFrom skip text) = text.drop skip := by
  fun_induction tokensFrom skip text with
  | case1 => simp [render]
  | case2 skip c rest ih => simpa using ih
  | case3 c rest m found ih =>
    obtain ⟨tail, whole⟩ := Marker.atStart?_eq found
    have covered : rest.drop (m.literal.length - 1) = tail := by
      have next := congrArg (List.drop m.literal.length) whole
      rw [List.drop_left] at next
      rwa [← Nat.sub_one_add_one (Nat.ne_of_gt m.literal_pos), List.drop_succ_cons] at next
    simp only [render, List.flatMap_cons, Token.render] at ih ⊢
    rw [ih, covered, ← whole, List.drop_zero]
  | case4 c rest _ ih => simpa [render, Token.render] using ih

theorem render_tokens (text : Text) : render (tokens text) = text := by
  simp [tokens, render_tokensFrom]

def markers (text : Text) : List Marker := (tokens text).filterMap Token.marker?

/-- Writes the replies in place of their markers. Replies are not read again. -/
def replace (reply? : Marker → Option Text) (text : Text) : Text :=
  (tokens text).flatMap fun token =>
    match token with
    | .plain c => [c]
    | .marker m => (reply? m).getD m.literal

def placeholder (name : Text) : Text := '{' :: '{' :: (name ++ ['}', '}'])

-- Fills the placeholders name by name, each name in the text left by the names before it.
def substitute (text : Text) (values : List (Text × Text)) : Text :=
  values.foldl (fun text entry => Text.replaceAll (placeholder entry.1) entry.2 text) text

end Document

end DocMarkers
