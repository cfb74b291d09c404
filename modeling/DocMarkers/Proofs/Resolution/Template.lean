import DocMarkers.Proofs.Resolution.Together
import DocMarkers.Proofs.Scanning.Nested

set_option autoImplicit false

namespace DocMarkers

namespace Text

variable (needle value : Text)

theorem replaceFrom_eq (skip : Nat) (text : Text) :
    replaceFrom needle value skip text = replaceAll needle value (text.drop skip) := by
  induction skip generalizing text with
  | zero => rfl
  | succ skip ih =>
    cases text with
    | nil => rfl
    | cons c rest => exact ih rest

variable {needle}

theorem replaceAll_cons {c : Char} {rest : Text} (apart : ¬ needle <+: c :: rest) :
    replaceAll needle value (c :: rest) = c :: replaceAll needle value rest := by
  have unmatched : ¬ needle.isPrefixOf (c :: rest) = true := by
    rwa [List.isPrefixOf_iff_prefix]
  simp [replaceAll, replaceFrom, unmatched]

theorem replaceAll_append_self (inhabited : needle ≠ []) (rest : Text) :
    replaceAll needle value (needle ++ rest) = value ++ replaceAll needle value rest := by
  cases needle with
  | nil => contradiction
  | cons c behind =>
    have found : (c :: behind).isPrefixOf (c :: (behind ++ rest)) = true := by
      rw [List.isPrefixOf_iff_prefix]
      exact List.prefix_append (c :: behind) rest
    rw [replaceAll, List.cons_append, replaceFrom, if_pos found, replaceFrom_eq]
    simp

theorem prefix_of_prefix_append {front word rest : Text} {c : Char}
    (within : front <+: word ++ c :: rest) (lacking : c ∉ front) : front <+: word := by
  rcases List.prefix_or_prefix_of_prefix within (List.prefix_append word (c :: rest)) with
    shorter | longer
  · exact shorter
  · obtain ⟨more, rfl⟩ := longer
    rw [List.prefix_append_right_inj] at within
    cases more with
    | nil => simp
    | cons d more =>
      obtain ⟨rfl, -⟩ := List.cons_prefix_cons.1 within
      simp at lacking

end Text

structure IsKey (key : Text) : Prop where
  plain : key.IsPlain
  unlike : ¬ ['a', 'i', '_'] <+: key

instance (key : Text) : Decidable (IsKey key) :=
  decidable_of_iff (key.IsPlain ∧ ¬ ['a', 'i', '_'] <+: key)
    ⟨fun ⟨plain, unlike⟩ => ⟨plain, unlike⟩, fun ⟨plain, unlike⟩ => ⟨plain, unlike⟩⟩

namespace Document

variable (key value : Text)

theorem replaceAll_unopened {front : Text} (unopened : '{' ∉ front) (rest : Text) :
    Text.replaceAll (placeholder key) value (front ++ rest) =
      front ++ Text.replaceAll (placeholder key) value rest := by
  induction front with
  | nil => rfl
  | cons c front ih =>
    simp only [List.mem_cons, not_or] at unopened
    have apart : ¬ placeholder key <+: c :: (front ++ rest) := by
      rw [placeholder, List.cons_prefix_cons]
      exact fun same => unopened.1 same.1
    rw [List.cons_append, Text.replaceAll_cons value apart, ih unopened.2]
    rfl

variable {key}

-- The second brace opens nothing, as no third one follows.
theorem replaceAll_opening {word rest : Text} {c : Char} (unopened : '{' ∉ word ++ [c])
    (apart : ¬ key ++ ['}', '}'] <+: word ++ c :: rest) :
    Text.replaceAll (placeholder key) value ('{' :: '{' :: (word ++ c :: rest)) =
      '{' :: '{' :: (word ++ c :: Text.replaceAll (placeholder key) value rest) := by
  have first : ¬ placeholder key <+: '{' :: '{' :: (word ++ c :: rest) := by
    simpa only [placeholder, List.cons_prefix_cons, true_and] using apart
  have second : ¬ placeholder key <+: '{' :: (word ++ c :: rest) := by
    rw [placeholder, List.cons_prefix_cons]
    rintro ⟨-, opens⟩
    cases word <;> simp_all
  rw [Text.replaceAll_cons value first, Text.replaceAll_cons value second]
  have passed := replaceAll_unopened key value unopened rest
  simp only [List.append_assoc, List.singleton_append] at passed
  rw [passed]

theorem replaceAll_of_apart {word rest : Text} (unopened : '{' ∉ word)
    (apart : ¬ key ++ ['}', '}'] <+: word ++ '}' :: '}' :: rest) :
    Text.replaceAll (placeholder key) value (placeholder word ++ rest) =
      placeholder word ++ Text.replaceAll (placeholder key) value rest := by
  have closing : Text.replaceAll (placeholder key) value ('}' :: rest) =
      '}' :: Text.replaceAll (placeholder key) value rest :=
    replaceAll_unopened key value (by decide : '{' ∉ ['}']) rest
  have passed := replaceAll_opening value (by simpa using unopened) apart
  rw [closing] at passed
  have bracketed (more : Text) :
      placeholder word ++ more = '{' :: '{' :: (word ++ '}' :: '}' :: more) := by
    simp [placeholder]
  rw [bracketed, bracketed, passed]

theorem prefix_of_unclosed {word rest : Text} (within : key ++ ['}', '}'] <+: word ++ rest)
    (unclosed : '}' ∉ word) : word <+: key := by
  rcases List.prefix_or_prefix_of_prefix within (List.prefix_append word rest) with
    shorter | longer
  · exact absurd (shorter.subset (by simp)) unclosed
  · exact Text.prefix_of_prefix_append longer unclosed

theorem eq_of_unclosed {word rest : Text} (within : key ++ ['}', '}'] <+: word ++ '}' :: rest)
    (unclosed : '}' ∉ key) (unclosed' : '}' ∉ word) : word = key := by
  have longer := prefix_of_unclosed within unclosed'
  have shorter : key <+: word :=
    Text.prefix_of_prefix_append ((List.prefix_append key _).trans within) unclosed
  exact longer.eq_of_length_le shorter.length_le

theorem not_prefix_of_isName {name rest : Text} (isKey : IsKey key)
    (named : Marker.isName name = true) : ¬ key ++ ['}', '}'] <+: name ++ rest := by
  intro within
  have unclosed : '}' ∉ name := Marker.not_mem_of_isName (by decide) named
  obtain ⟨stem, rfl, -⟩ := Marker.isName_iff.1 named
  have start : ['a', 'i', '_'] <+: 'a' :: 'i' :: '_' :: stem := List.prefix_append _ stem
  exact isKey.unlike (start.trans (prefix_of_unclosed within unclosed))

end Document

abbrev PlaceholderKey : Type := { key : Text // IsKey key }

inductive Template where
  | done
  | text (content : PlainText) (rest : Template)
  | hole (key : PlaceholderKey) (rest : Template)
  | bare (name : MarkerName) (rest : Template)
  | framed (name : MarkerName) (params rest : Template)

namespace Template

def fill (value? : Text → Option Text) : Template → Text
  | done => []
  | text content rest => content.1 ++ rest.fill value?
  | hole key rest => (value? key.1).getD (Document.placeholder key.1) ++ rest.fill value?
  | bare name rest => Marker.literal ⟨name.1, none⟩ ++ rest.fill value?
  | framed name params rest =>
    Marker.literal ⟨name.1, some (params.fill value?)⟩ ++ rest.fill value?

def render (template : Template) : Text := template.fill fun _ => none

def put (key : Text) (value : PlainText) : Template → Template
  | done => done
  | text content rest => text content (rest.put key value)
  | hole other rest =>
    if other.1 = key then text value (rest.put key value) else hole other (rest.put key value)
  | bare name rest => bare name (rest.put key value)
  | framed name params rest => framed name (params.put key value) (rest.put key value)

theorem fill_put (key : Text) (value : PlainText) (value? : Text → Option Text)
    (template : Template) :
    (template.put key value).fill value? =
      template.fill fun other => if other = key then some value.1 else value? other := by
  induction template with
  | done => rfl
  | text content rest ih => simp only [put, fill, ih]
  | hole other rest ih =>
    by_cases same : other.1 = key
    · simp [put, fill, ih, same]
    · simp [put, fill, ih, same]
  | bare name rest ih => simp only [put, fill, ih]
  | framed name params rest inner ih => simp only [put, fill, inner, ih]

-- Whatever follows the template, its text has the placeholder where the template has it and nowhere
-- else: the braces of a marker, of another placeholder or of several that close together make none.
theorem replaceAll_render_append {key : Text} (isKey : IsKey key) (value : PlainText)
    (template : Template) (more : Text) :
    Text.replaceAll (Document.placeholder key) value.1 (template.render ++ more) =
      (template.put key value).render ++
        Text.replaceAll (Document.placeholder key) value.1 more := by
  induction template generalizing more with
  | done => rfl
  | text content rest ih =>
    simp only [render, fill, put, List.append_assoc] at ih ⊢
    rw [Document.replaceAll_unopened key _ content.2.1, ih]
  | hole other rest ih =>
    by_cases same : other.1 = key
    · have inhabited : Document.placeholder key ≠ [] := List.cons_ne_nil _ _
      simp only [render, fill, put, same, if_true, Option.getD_none, List.append_assoc] at ih ⊢
      rw [Text.replaceAll_append_self _ inhabited, ih]
    · have apart : ¬ key ++ ['}', '}'] <+: other.1 ++ '}' :: '}' :: (rest.render ++ more) :=
        fun within => same (Document.eq_of_unclosed within isKey.plain.2 other.2.plain.2)
      simp only [render, fill, put, same, if_false, Option.getD_none, List.append_assoc] at ih apart ⊢
      rw [Document.replaceAll_of_apart _ other.2.plain.1 apart, ih]
  | bare name rest ih =>
    have unopened : '{' ∉ name.1 := Marker.not_mem_of_isName (by decide) name.2
    have apart : ¬ key ++ ['}', '}'] <+: name.1 ++ '}' :: '}' :: (rest.render ++ more) :=
      Document.not_prefix_of_isName isKey name.2
    simp only [render, fill, put, List.append_assoc] at ih apart ⊢
    rw [show Marker.literal ⟨name.1, none⟩ = Document.placeholder name.1 from rfl,
      Document.replaceAll_of_apart _ unopened apart, ih]
  | framed name params rest inner ih =>
    have unopened : '{' ∉ name.1 := Marker.not_mem_of_isName (by decide) name.2
    -- The parameters are followed by the braces that close the marker.
    have closing : Text.replaceAll (Document.placeholder key) value.1
        (['}', '}'] ++ (rest.render ++ more)) = ['}', '}'] ++ _ :=
      Document.replaceAll_unopened key value.1 (by decide) _
    have apart : ¬ key ++ ['}', '}'] <+:
        name.1 ++ ':' :: (params.render ++ (['}', '}'] ++ (rest.render ++ more))) :=
      Document.not_prefix_of_isName isKey name.2
    have opening := Document.replaceAll_opening value.1 (by simpa using unopened) apart
    rw [inner, closing, ih] at opening
    simpa [render, fill, put, Marker.literal] using opening

theorem replaceAll_render {key : Text} (isKey : IsKey key) (value : PlainText)
    (template : Template) :
    Text.replaceAll (Document.placeholder key) value.1 template.render =
      (template.put key value).render := by
  have replaced := replaceAll_render_append isKey value template []
  simp only [List.append_nil] at replaced
  exact replaced.trans (List.append_nil _)

-- Values are put in one after another, each in the text that those before it left.
theorem substitute_render {values : List (Text × Text)}
    (fitting : ∀ entry ∈ values, IsKey entry.1 ∧ entry.2.IsPlain) (template : Template) :
    Document.substitute template.render values = template.fill fun key => values.lookup key := by
  induction values generalizing template with
  | nil => rfl
  | cons entry rest ih =>
    obtain ⟨key, value⟩ := entry
    obtain ⟨⟨isKey, plain⟩, fitting⟩ := List.forall_mem_cons.1 fitting
    have replaced : Text.replaceAll (Document.placeholder key) value template.render = _ :=
      replaceAll_render isKey ⟨value, plain⟩ template
    have first : (fun other => if other = key then some value else rest.lookup other) =
        fun other => ((key, value) :: rest).lookup other := by
      funext other
      by_cases same : other = key
      · simp [same]
      · simp [List.lookup_cons, beq_false_of_ne same, same]
    rw [Document.substitute, List.foldl_cons, replaced, ← first]
    exact (ih fitting _).trans (fill_put key ⟨value, plain⟩ _ template)

theorem lookup_map_render (values : List (Text × Value)) (key : Text) :
    (values.map fun entry => (entry.1, entry.2.render)).lookup key =
      (values.lookup key).map Value.render := by
  induction values with
  | nil => rfl
  | cons entry rest ih =>
    obtain ⟨name, value⟩ := entry
    rw [List.map_cons, List.lookup_cons, List.lookup_cons, ih]
    cases key == name <;> rfl

/-- Substituting values one after another comes to substituting them all at once: every placeholder
with a value becomes its text, and all else stays. Hence the values may be given in any order. -/
theorem substitution_simultaneous (template : Template) (values : List (Text × Value))
    (fitting : ∀ entry ∈ values, IsKey entry.1 ∧ entry.2.render.IsPlain) :
    Document.substitute template.render (values.map fun entry => (entry.1, entry.2.render)) =
        template.fill (fun key => (values.lookup key).map Value.render) ∧
      ((values.map Prod.fst).Nodup → ∀ others : List (Text × Value), others.Perm values →
        Document.substitute template.render (others.map fun entry => (entry.1, entry.2.render)) =
          template.fill fun key => (values.lookup key).map Value.render) := by
  have filled (entries : List (Text × Value))
      (fitting : ∀ entry ∈ entries, IsKey entry.1 ∧ entry.2.render.IsPlain) :
      Document.substitute template.render (entries.map fun entry => (entry.1, entry.2.render)) =
        template.fill fun key => (entries.lookup key).map Value.render := by
    simp only [← lookup_map_render]
    exact substitute_render (List.forall_mem_map.2 fitting) template
  refine ⟨filled values fitting, fun once others perm => ?_⟩
  have same (key : Text) : others.lookup key = values.lookup key :=
    lookup_eq_of_perm perm once key
  rw [filled others fun entry here => fitting entry (perm.mem_iff.1 here)]
  simp only [same]

-- A placeholder that closes together with a marker, and two behind the marker.
def letter : Template :=
  .framed ⟨"ai_about".toList, by decide⟩ (.hole ⟨"topic".toList, by decide⟩ .done)
    (.hole ⟨"name".toList, by decide⟩ (.hole ⟨"place".toList, by decide⟩ .done))

-- One value reads like the key of another one.
def letterValues : List (Text × Value) :=
  [("topic".toList, .text "name".toList), ("name".toList, .bool true)]

theorem substitution_simultaneous_letter :
    let write (values : List (Text × Value)) :=
      Document.substitute letter.render (values.map fun entry => (entry.1, entry.2.render))
    let written := "\x7b\x7bai_about:name\x7d\x7dTrue\x7b\x7bplace\x7d\x7d".toList
    letter.render = "\x7b\x7bai_about:\x7b\x7btopic\x7d\x7d\x7d\x7d".toList ++
        "\x7b\x7bname\x7d\x7d\x7b\x7bplace\x7d\x7d".toList ∧
      (∀ entry ∈ letterValues, IsKey entry.1 ∧ entry.2.render.IsPlain) ∧
      (letterValues.map Prod.fst).Nodup ∧ letterValues.reverse.Perm letterValues ∧
      write letterValues = written ∧ write letterValues.reverse = written := by
  intro write written
  have fitting : ∀ entry ∈ letterValues, IsKey entry.1 ∧ entry.2.render.IsPlain := by decide
  have once : (letterValues.map Prod.fst).Nodup := by decide
  have turned : letterValues.reverse.Perm letterValues := List.reverse_perm letterValues
  have filled : letter.fill (fun key => (letterValues.lookup key).map Value.render) = written := by
    decide
  obtain ⟨inOrder, inAnyOrder⟩ := letter.substitution_simultaneous letterValues fitting
  exact ⟨by decide, fitting, once, turned, inOrder.trans filled,
    (inAnyOrder once _ turned).trans filled⟩

end Template

end DocMarkers
