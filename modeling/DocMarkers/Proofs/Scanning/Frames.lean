import DocMarkers.Proofs.Scanning.Nested

set_option autoImplicit false

namespace DocMarkers

namespace Document

theorem markers_of_lacking {text : Text} (lacking : ∀ rest, rest <:+ text → Marker.atStart? rest = none) :
    markers text = [] := by
  induction text with
  | nil => rfl
  | cons c rest ih =>
    have here := lacking (c :: rest) List.suffix_rfl
    have later := ih fun other behind => lacking other (behind.trans (List.suffix_cons c rest))
    simpa [markers, tokens_cons here, Token.marker?] using later

theorem markers_of_unclosed {text : Text} (unclosed : '}' ∉ text) : markers text = [] :=
  markers_of_lacking fun _ behind =>
    Marker.atStart?_of_not_mem fun member => unclosed (behind.subset member)

theorem markers_of_unopened {text : Text} (unopened : ¬ ['{', '{'] <:+: text) : markers text = [] := by
  refine markers_of_lacking fun rest behind => ?_
  cases found : Marker.atStart? rest with
  | none => rfl
  | some marker =>
    obtain ⟨-, front⟩ := Marker.atStart?_eq_some_iff.1 found
    obtain ⟨params, opens⟩ := marker.literal_opening
    have opening : ['{', '{'] <+: marker.literal := ⟨params, by simp [opens]⟩
    exact absurd ((opening.trans front).isInfix.trans behind.isInfix) unopened

theorem replace_of_markers_eq_nil {text : Text} (none : markers text = [])
    (reply? : Marker → Option Text) : replace reply? text = text := by
  rw [replace_eq_weave]
  conv => rhs; rw [← weave_pieces text]
  refine Pieces.weave_congr fun marker member => ?_
  rw [markers_pieces, none] at member
  contradiction

def framed (name : MarkerName) (content : Text) : Nat → Text
  | 0 => content
  | depth + 1 => Marker.literal ⟨name.1, some (framed name content depth)⟩

variable (name : MarkerName) (content : Text) (depth : Nat)

theorem framed_succ :
    framed name content (depth + 1) =
      framed name (Marker.literal ⟨name.1, some content⟩) depth := by
  induction depth with
  | zero => rfl
  | succ depth ih => rw [framed, ih, framed]

-- Nothing closes before the text and nothing opens behind it.
theorem exists_frames :
    ∃ before after, '}' ∉ before ∧ '{' ∉ after ∧
      ∀ content, framed name content depth = before ++ content ++ after := by
  induction depth with
  | zero => exact ⟨[], [], List.not_mem_nil, List.not_mem_nil, by simp [framed]⟩
  | succ depth ih =>
    obtain ⟨before, after, unclosed, unopened, whole⟩ := ih
    refine ⟨Nested.opening name ++ before, after ++ ['}', '}'], ?_, ?_, fun content => ?_⟩
    · simp [unclosed, Nested.not_mem_opening]
    · simp [unopened]
    · simp [framed, Nested.literal_eq, whole]

theorem exists_frames_without_markers :
    ∃ before after, markers before = [] ∧ markers after = [] ∧
      ∀ content, framed name content depth = before ++ content ++ after := by
  obtain ⟨before, after, unclosed, unopened, whole⟩ := exists_frames name depth
  have behind : ¬ ['{', '{'] <:+: after := fun opens => unopened (opens.subset List.mem_cons_self)
  exact ⟨before, after, markers_of_unclosed unclosed, markers_of_unopened behind, whole⟩

section Enclosable

variable {content} (inside : Marker.IsEnclosable content)
include inside

theorem markers_framed :
    markers (framed name content (depth + 1)) = [⟨name.1, some content⟩] := by
  obtain ⟨before, after, front, back, whole⟩ := exists_frames_without_markers name depth
  rw [framed_succ, whole, markers_append_literal (Marker.isValid_of_isEnclosable name.2 inside),
    front, back, List.nil_append]

theorem replace_framed {reply? : Marker → Option Text} {reply : Text}
    (replied : reply? ⟨name.1, some content⟩ = some reply) :
    replace reply? (framed name content (depth + 1)) = framed name reply depth := by
  obtain ⟨before, after, front, back, whole⟩ := exists_frames_without_markers name depth
  rw [framed_succ, whole, whole,
    replace_append_literal (Marker.isValid_of_isEnclosable name.2 inside), replied, Option.getD_some,
    replace_of_markers_eq_nil front, replace_of_markers_eq_nil back]

end Enclosable

end Document

end DocMarkers
