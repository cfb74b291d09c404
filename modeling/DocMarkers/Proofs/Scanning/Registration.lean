import DocMarkers.Marker.Registry
import DocMarkers.Proofs.Scanning.Document

set_option autoImplicit false

namespace DocMarkers

theorem Document.markers_literal_iff {marker : Marker} :
    markers marker.literal = [marker] ↔ marker.IsValid := by
  constructor
  · intro alone
    exact valid_of_mem_markers (alone ▸ List.mem_singleton_self marker)
  · intro valid
    simpa [markers, tokens, tokensFrom] using markers_append_literal valid [] []

theorem Marker.isNameChar_iff {c : Char} :
    isNameChar c = true ↔
      'A' ≤ c ∧ c ≤ 'Z' ∨ 'a' ≤ c ∧ c ≤ 'z' ∨ '0' ≤ c ∧ c ≤ '9' ∨ c = '_' := by
  change (((decide ('A'.val ≤ c.val ∧ c.val ≤ 'Z'.val) ||
    decide ('a'.val ≤ c.val) && decide (c.val ≤ 'z'.val)) ||
      decide ('0'.val ≤ c.val) && decide (c.val ≤ '9'.val)) || c == '_') = true ↔ _
  simp only [Char.le_def, Bool.or_eq_true, Bool.and_eq_true, decide_eq_true_eq, beq_iff_eq,
    or_assoc]

namespace MarkerSpec

variable {σ : Type}

def plainFields (name description : Text) : List (Text × Value) :=
  [("name".toList, .text name), ("description".toList, .text description),
    ("handler".toList, .null)]

theorem read_of_isName {name : Text} (named : Marker.isName name = true) (description : Text)
    (handler : Handler σ) :
    read (plainFields name description) (some handler) =
      .ok { name, description, handler, isName := named } := by
  have accepted : Field.required (plainFields name description) "name".toList readName =
      .ok ⟨name, named⟩ := dif_pos named
  rw [read, accepted]
  rfl

theorem isName_of_read {name description : Text} {handler : Handler σ} {spec : MarkerSpec σ}
    (given : read (plainFields name description) (some handler) = .ok spec) :
    Marker.isName name = true := by
  cases named : Marker.isName name with
  | true => rfl
  | false =>
    have refused : Field.required (plainFields name description) "name".toList readName =
        .error .pattern := dif_neg (by simp [named])
    rw [read, refused] at given
    contradiction

end MarkerSpec

namespace Registry

variable {σ : Type}

theorem find?_of_register {registry registered : Registry σ} {spec : MarkerSpec σ}
    (accepted : registry.register spec = .ok registered) :
    registered.find? spec.name = some spec := by
  unfold register at accepted
  split at accepted
  next => contradiction
  next unknown =>
    cases accepted
    have absent : registry.specs.find? (fun other => other.name == spec.name) = none := by
      simpa [contains, find?] using unknown
    simp [find?, List.find?_append, absent]

/-- A marker of any name and parameters is read back from its literal exactly if a specification of
that name is accepted and the parameters can be enclosed. So whatever is registered can be reached by
a marker of a document, and whatever marker a document has, its name can be registered. -/
theorem registration_matches_reading :
    (∀ (marker : Marker) (description : Text) (handler : Handler σ),
      Document.markers marker.literal = [marker] ↔
        (∃ spec, MarkerSpec.read (MarkerSpec.plainFields marker.name description) (some handler) =
            .ok spec) ∧
          ∀ params ∈ marker.params, Marker.IsEnclosable params) ∧
    (∀ marker : Marker, Document.markers marker.literal = [marker] →
      Document.tokens marker.literal = [.marker marker]) ∧
    (∀ (name description : Text) (handler : Handler σ),
      (∃ spec, MarkerSpec.read (MarkerSpec.plainFields name description) (some handler) =
          .ok spec) ↔
        ∃ stem, name = 'a' :: 'i' :: '_' :: stem ∧ stem ≠ [] ∧
          ∀ c ∈ stem, 'A' ≤ c ∧ c ≤ 'Z' ∨ 'a' ≤ c ∧ c ≤ 'z' ∨ '0' ≤ c ∧ c ≤ '9' ∨ c = '_') ∧
    (∀ (registry registered : Registry σ) (spec : MarkerSpec σ),
      registry.register spec = .ok registered →
        ∀ params : Option Text, (∀ text ∈ params, Marker.IsEnclosable text) →
          Document.markers (Marker.literal ⟨spec.name, params⟩) = [⟨spec.name, params⟩] ∧
            registered.find? spec.name = some spec) ∧
    ∀ (document : Text), ∀ marker ∈ Document.markers document,
      ∀ (description : Text) (handler : Handler σ),
        ∃ spec, MarkerSpec.read (MarkerSpec.plainFields marker.name description) (some handler) =
          .ok spec ∧ spec.name = marker.name := by
  have accepts (name description : Text) (handler : Handler σ) :
      (∃ spec, MarkerSpec.read (MarkerSpec.plainFields name description) (some handler) =
        .ok spec) ↔ Marker.isName name = true :=
    ⟨fun ⟨_, given⟩ => MarkerSpec.isName_of_read given,
      fun named => ⟨_, MarkerSpec.read_of_isName named description handler⟩⟩
  refine ⟨fun marker description handler => ?_, fun marker alone => ?_,
    fun name description handler => ?_, fun registry registered spec accepted params inside => ?_,
    fun document marker member description handler => ?_⟩
  · rw [Document.markers_literal_iff, accepts]
    exact ⟨fun valid => ⟨valid.name, valid.params⟩, fun ⟨name, params⟩ => ⟨name, params⟩⟩
  · simpa [Document.tokens, Document.tokensFrom] using
      Document.tokens_literal (Document.markers_literal_iff.1 alone) []
  · simp only [accepts, Marker.isName_iff, Marker.isNameChar_iff]
  · exact ⟨Document.markers_literal_iff.2 ⟨spec.isName, inside⟩, find?_of_register accepted⟩
  · have named := (Document.valid_of_mem_markers member).name
    exact ⟨_, MarkerSpec.read_of_isName named description handler, rfl⟩

def echo : MarkerSpec Unit where
  name := "ai_9_".toList
  description := []
  handler arguments state := (.ok (.text arguments.flatten), state)

-- A name may start with a digit, and parameters may hold colons, line ends and single braces.
theorem registration_matches_reading_echo :
    (empty.register echo).isOk = true ∧ Marker.IsEnclosable ":\x7d\x7b\n".toList ∧
      Document.markers "\x7b\x7bai_9_::\x7d\x7b\n\x7d\x7d".toList =
        [⟨"ai_9_".toList, some ":\x7d\x7b\n".toList⟩] ∧
      ∃ spec : MarkerSpec Unit,
        MarkerSpec.read (MarkerSpec.plainFields "ai_9_".toList []) (some echo.handler) =
          .ok spec := by
  have inside : ∀ text ∈ some ":\x7d\x7b\n".toList, Marker.IsEnclosable text := by
    rintro text ⟨⟩
    exact (show Marker.IsValid ⟨"ai_9_".toList, some ":\x7d\x7b\n".toList⟩ by decide).params _ rfl
  obtain ⟨readBack, -, -, reached, -⟩ := registration_matches_reading (σ := Unit)
  have alone := (reached empty ⟨[echo]⟩ echo rfl _ inside).1
  exact ⟨rfl, inside _ rfl, alone, ((readBack _ [] echo.handler).1 alone).1⟩

end Registry

end DocMarkers
