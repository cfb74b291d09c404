import DocMarkers.Document
import DocMarkers.Proofs.Scanning.Marker

set_option autoImplicit false

namespace DocMarkers.Document

theorem tokens_cons {c : Char} {rest : Text} (lacking : Marker.atStart? (c :: rest) = none) :
    tokens (c :: rest) = .plain c :: tokens rest := by
  simp [tokens, tokensFrom, lacking]

theorem tokensFrom_eq_tokens_drop (skip : Nat) (text : Text) :
    tokensFrom skip text = tokens (text.drop skip) := by
  induction skip generalizing text with
  | zero => rfl
  | succ skip ih =>
    cases text with
    | nil => rfl
    | cons c rest => exact ih rest

theorem tokens_literal {marker : Marker} (valid : marker.IsValid) (rest : Text) :
    tokens (marker.literal ++ rest) = .marker marker :: tokens rest := by
  have found := Marker.atStart?_literal valid rest
  obtain ⟨behind, whole⟩ := marker.literal_opening
  have covered : tokensFrom (behind.length + 1) ('{' :: (behind ++ rest)) = tokens rest := by
    simp [tokensFrom_eq_tokens_drop]
  simp only [whole, List.cons_append] at found ⊢
  rw [tokens, tokensFrom, found]
  simp [whole, covered]

@[elab_as_elim]
theorem reading {motive : Text → Prop} (nil : motive [])
    (plain : ∀ c rest, Marker.atStart? (c :: rest) = none → motive rest → motive (c :: rest))
    (marker : ∀ (m : Marker) rest, m.IsValid → motive rest → motive (m.literal ++ rest)) :
    ∀ text, motive text
  | [] => nil
  | c :: rest => by
    cases found : Marker.atStart? (c :: rest) with
    | none => exact plain c rest found (reading nil plain marker rest)
    | some m =>
      obtain ⟨valid, behind, whole⟩ := Marker.atStart?_eq_some_iff.1 found
      have shorter : behind.length < (c :: rest).length := by
        have filled := m.literal_pos
        rw [← whole, List.length_append]
        omega
      exact whole ▸ marker m behind valid (reading nil plain marker behind)
termination_by text => text.length
decreasing_by
  · exact Nat.lt_succ_self rest.length
  · exact shorter

theorem tokens_append_literal {marker : Marker} (valid : marker.IsValid) (before after : Text) :
    tokens (before ++ marker.literal ++ after) =
      tokens before ++ .marker marker :: tokens after := by
  induction before using reading with
  | nil => exact tokens_literal valid after
  | plain c rest lacking ih =>
    -- An opening double brace follows, so the text before it is still no marker.
    obtain ⟨behind, opens⟩ := marker.literal_opening
    have apart : Marker.atStart? (c :: (rest ++ marker.literal ++ after)) = none := by
      have kept := Marker.atStart?_append_opening (by simp) lacking (behind ++ after)
      simpa [opens] using kept
    simp only [List.cons_append, tokens_cons apart, tokens_cons lacking, ih]
  | marker m rest valid' ih =>
    simp only [List.append_assoc] at ih ⊢
    simp only [tokens_literal valid', ih, List.cons_append]

theorem markers_append_literal {marker : Marker} (valid : marker.IsValid) (before after : Text) :
    markers (before ++ marker.literal ++ after) = markers before ++ marker :: markers after := by
  simp only [markers, tokens_append_literal valid, List.filterMap_append, List.filterMap_cons,
    Token.marker?]

theorem replace_append_literal {marker : Marker} (valid : marker.IsValid) (before after : Text)
    (reply? : Marker → Option Text) :
    replace reply? (before ++ marker.literal ++ after) =
      replace reply? before ++ (reply? marker).getD marker.literal ++ replace reply? after := by
  rw [replace, tokens_append_literal valid, List.flatMap_append, List.flatMap_cons]
  simp [replace]

structure Pieces where
  lead : Text
  parts : List (Marker × Text)

namespace Pieces

def markers (pieces : Pieces) : List Marker := pieces.parts.map Prod.fst

def gaps (pieces : Pieces) : List Text := pieces.lead :: pieces.parts.map Prod.snd

def weave (pieces : Pieces) (reply : Marker → Text) : Text :=
  pieces.lead ++ pieces.parts.flatMap fun part => reply part.1 ++ part.2

def ofTokens : List Token → Pieces
  | [] => ⟨[], []⟩
  | .plain c :: rest => ⟨c :: (ofTokens rest).lead, (ofTokens rest).parts⟩
  | .marker m :: rest => ⟨[], (m, (ofTokens rest).lead) :: (ofTokens rest).parts⟩

theorem markers_ofTokens (tokens : List Token) :
    (ofTokens tokens).markers = tokens.filterMap Token.marker? := by
  induction tokens with
  | nil => rfl
  | cons token rest ih =>
    simp only [markers] at ih
    cases token <;> simp [ofTokens, markers, Token.marker?, List.filterMap_cons, ih]

theorem weave_ofTokens (tokens : List Token) (reply : Marker → Text) :
    (ofTokens tokens).weave reply =
      tokens.flatMap fun token =>
        match token with
        | .plain c => [c]
        | .marker m => reply m := by
  induction tokens with
  | nil => rfl
  | cons token rest ih =>
    simp only [weave] at ih
    cases token <;> simp [ofTokens, weave, ← ih]

theorem weave_congr {pieces : Pieces} {first second : Marker → Text}
    (same : ∀ marker ∈ pieces.markers, first marker = second marker) :
    pieces.weave first = pieces.weave second := by
  have parts : ∀ part ∈ pieces.parts, first part.1 ++ part.2 = second part.1 ++ part.2 := by
    intro part member
    rw [same part.1 (List.mem_map_of_mem member)]
  simp only [weave, List.flatMap_def, List.map_congr_left parts]

end Pieces

def pieces (text : Text) : Pieces := Pieces.ofTokens (tokens text)

theorem pieces_cons {c : Char} {rest : Text} (lacking : Marker.atStart? (c :: rest) = none) :
    pieces (c :: rest) = ⟨c :: (pieces rest).lead, (pieces rest).parts⟩ := by
  rw [pieces, tokens_cons lacking]
  rfl

theorem pieces_literal {marker : Marker} (valid : marker.IsValid) (rest : Text) :
    pieces (marker.literal ++ rest) =
      ⟨[], (marker, (pieces rest).lead) :: (pieces rest).parts⟩ := by
  rw [pieces, tokens_literal valid]
  rfl

theorem markers_pieces (text : Text) : (pieces text).markers = markers text :=
  Pieces.markers_ofTokens (tokens text)

theorem replace_eq_weave (reply? : Marker → Option Text) (text : Text) :
    replace reply? text = (pieces text).weave fun m => (reply? m).getD m.literal := by
  rw [pieces, Pieces.weave_ofTokens]
  rfl

theorem weave_pieces (text : Text) : (pieces text).weave Marker.literal = text := by
  rw [pieces, Pieces.weave_ofTokens]
  exact render_tokens text

theorem valid_of_mem_markers {text : Text} {marker : Marker} (member : marker ∈ markers text) :
    marker.IsValid := by
  rw [← markers_pieces] at member
  induction text using reading with
  | nil => simp [pieces, tokens, tokensFrom, Pieces.ofTokens, Pieces.markers] at member
  | plain c rest lacking ih =>
    rw [pieces_cons lacking] at member
    exact ih member
  | marker m rest valid ih =>
    rw [pieces_literal valid] at member
    rcases List.mem_cons.1 member with rfl | member
    · exact valid
    · exact ih member

theorem markers_gap {text gap : Text} (member : gap ∈ (pieces text).gaps) : markers gap = [] := by
  induction text using reading generalizing gap with
  | nil =>
    simp only [pieces, tokens, tokensFrom, Pieces.ofTokens, Pieces.gaps, List.map_nil,
      List.mem_singleton] at member
    rw [member]
    rfl
  | plain c rest lacking ih =>
    rw [pieces_cons lacking] at member
    rcases List.mem_cons.1 member with rfl | member
    · -- A marker at the start of the gap would also start the text.
      have apart : Marker.atStart? (c :: (pieces rest).lead) = none := by
        rw [← weave_pieces rest, Pieces.weave, ← List.cons_append] at lacking
        exact Marker.atStart?_eq_none_of_append _ _ lacking
      have later := ih List.mem_cons_self
      simpa [markers, tokens_cons apart, List.filterMap_cons, Token.marker?] using later
    · exact ih (List.mem_cons_of_mem _ member)
  | marker m rest valid ih =>
    rw [pieces_literal valid] at member
    rcases List.mem_cons.1 member with rfl | member
    · rfl
    · exact ih member

/-- Every text is its markers, all valid, with gaps that hold none; and a valid marker splits each
text that it stands in into two texts that are read, and replaced, on their own. -/
theorem scan_exact :
    (∀ text, ∃ pieces : Pieces,
      pieces.weave Marker.literal = text ∧ pieces.markers = markers text ∧
        (∀ marker ∈ pieces.markers, marker.IsValid) ∧ ∀ gap ∈ pieces.gaps, markers gap = []) ∧
    ∀ (before after : Text) (marker : Marker), marker.IsValid →
      markers (before ++ marker.literal ++ after) = markers before ++ marker :: markers after ∧
      ∀ replacement? : Text → Option Text,
        replace (fun m => replacement? m.literal) (before ++ marker.literal ++ after) =
          replace (fun m => replacement? m.literal) before ++
            (replacement? marker.literal).getD marker.literal ++
              replace (fun m => replacement? m.literal) after := by
  constructor
  · intro text
    refine ⟨pieces text, weave_pieces text, markers_pieces text, ?_, fun gap => markers_gap⟩
    intro marker member
    exact valid_of_mem_markers (markers_pieces text ▸ member)
  · intro before after marker valid
    refine ⟨markers_append_literal valid before after, fun replacement? => ?_⟩
    exact replace_append_literal valid before after _

-- An opening in front of a marker and a brace too many behind it do not matter.
theorem scan_exact_between_braces :
    (⟨"ai_y".toList, some "a\x7b:\n".toList⟩ : Marker).IsValid ∧
      markers ("\x7b\x7bai_x:\x7b".toList ++
        (⟨"ai_y".toList, some "a\x7b:\n".toList⟩ : Marker).literal ++ "\x7d\x7d\x7d".toList) =
          [⟨"ai_y".toList, some "a\x7b:\n".toList⟩] := by
  have valid : (⟨"ai_y".toList, some "a\x7b:\n".toList⟩ : Marker).IsValid := by decide
  exact ⟨valid, (scan_exact.2 _ _ _ valid).1.trans (by decide)⟩

end DocMarkers.Document
