import DocMarkers.Generation.Writer
import DocMarkers.Proofs.Generation.Coherence
import DocMarkers.Proofs.Resolution.View

set_option autoImplicit false

namespace DocMarkers

theorem Text.trim_of_blank {text : Text} (blank : text.all isBlank = true) : trim text = [] := by
  have nothing : text.dropWhile isBlank = [] := by
    induction text with
    | nil => rfl
    | cons c rest ih =>
      obtain ⟨first, rest⟩ := List.all_cons.symm.trans blank |> Bool.and_eq_true_iff.1
      simpa [first] using ih rest
  simp [trim, trimBy, nothing]

variable {τ : Type} [Quantity τ]

def World.withoutModel (world : World τ) : World τ :=
  { world with
    loader := fun _ _ => none
    loads := []
    model := fun _ _ => ⟨.error (.told .modelGone), Quantity.zero⟩
    calls := []
    progress := [] }

def Session.withoutModel (s : Session τ) : Session τ :=
  { s with generator := none, world := s.world.withoutModel }

namespace Generator

omit [Quantity τ] in
theorem isReady_of_load {g : Generator} {world : World τ} (success : (g.load world).1 = .ok ()) :
    (g.load world).2.1.isReady = true := by
  unfold Generator.load Generator.endLoad at success ⊢
  split
  next ready => exact ready
  next missing =>
    rcases answer : (g.announce (.initiate g.modelId) world).load g.modelId with ⟨_ | _, _⟩ <;>
      simp_all [isReady]

/-- A completion fails, in a way that can be told, or gives a blank text. -/
inductive SaysNothing (depth : Nat) : Except Raised Value → Prop
  | failed (failure : Failure) : SaysNothing depth (.error (.told failure))
  | blank {value : Value} {text : Text} (written : messageText depth value = .ok text)
      (blank : text.all isBlank = true) : SaysNothing depth (.ok value)

/-- Either it has no model and never gets one, or the model fails or says nothing, at once. -/
inductive IsUseless (g : Generator) (world : World τ) : Prop
  | neverLoads (missing : g.loaded = none)
      (refused : ∀ earlier model, (world.loader earlier model).isSome = true)
  | saysNothing
      (instant : ∀ earlier call clock,
        Quantity.add clock (world.model earlier call).delay = clock)
      (nothing : ∀ earlier call,
        SaysNothing world.writeDepth (world.model earlier call).outcome)

inductive ComesToNothing : Except Failure Text → Prop
  | empty : ComesToNothing (.ok [])
  | failed {failure : Failure} (generation : failure.isGeneration = true) :
    ComesToNothing (.error failure)

namespace IsUseless

variable {g : Generator} {world next : World τ}

theorem of_eq (useless : g.IsUseless world) (loader : next.loader = world.loader)
    (model : next.model = world.model) (depth : next.writeDepth = world.writeDepth) :
    g.IsUseless next := by
  cases useless with
  | neverLoads missing refused => exact .neverLoads missing (by rwa [loader])
  | saysNothing instant nothing =>
    exact .saysNothing (by rwa [model]) (by rwa [model, depth])

theorem load (useless : g.IsUseless world) :
    (g.load world).2.1.IsUseless (g.load world).2.2 ∧
      (g.load world).2.2.withoutModel = world.withoutModel := by
  cases ready : g.isReady with
  | true => simpa [Generator.load, ready] using useless
  | false =>
    cases answer : world.loader world.loads g.modelId with
    | some failure =>
      simp only [Generator.load, ready, Generator.endLoad, announce_eq, World.load, answer]
      exact ⟨useless.of_eq rfl rfl rfl, rfl⟩
    | none =>
      simp only [Generator.load, ready, Generator.endLoad, announce_eq, World.load, answer]
      refine ⟨?_, rfl⟩
      cases useless with
      | neverLoads missing refused =>
        have refusal := refused world.loads g.modelId
        simp [answer] at refusal
      | saysNothing instant nothing => exact .saysNothing instant nothing

theorem complete (instant : ∀ earlier call clock,
      Quantity.add clock (world.model earlier call).delay = clock)
    (nothing : ∀ earlier call, SaysNothing world.writeDepth (world.model earlier call).outcome)
    (call : Call) :
    ComesToNothing (g.complete call world).1 ∧
      (g.complete call world).2.withoutModel = world.withoutModel := by
  rw [complete_snd]
  refine ⟨?_, by simp [World.complete, World.wait, World.withoutModel, instant]⟩
  have said := nothing world.calls call
  simp only [Generator.complete, World.complete]
  cases reply : (world.model world.calls call).outcome with
  | error raised =>
    rw [reply] at said
    cases said
    exact .failed rfl
  | ok value =>
    rw [reply] at said
    cases said with
    | blank written blank =>
      simp only [World.wait, written, Except.map, Text.trim_of_blank blank]
      exact .empty

theorem generate (useless : g.IsUseless world) (prompt : Text) (options : Options) :
    ComesToNothing (g.generate prompt options world).1 ∧
      (g.generate prompt options world).2.1.IsUseless (g.generate prompt options world).2.2 ∧
      (g.generate prompt options world).2.2.withoutModel = world.withoutModel := by
  obtain ⟨after, same⟩ := useless.load
  unfold Generator.generate
  rcases answer : g.load world with ⟨_ | _, next, world'⟩
  · rw [answer] at after same
    exact ⟨.failed rfl, after, same⟩
  · rw [answer] at after same
    cases after with
    | neverLoads missing refused =>
      have ready := isReady_of_load (by rw [answer])
      rw [answer] at ready
      simp only [isReady, Option.isSome_iff_ne_none] at ready
      exact absurd missing ready
    | saysNothing instant nothing =>
      obtain ⟨none, unseen⟩ := @complete _ _ next _ instant nothing (next.callFor prompt options)
      have after : next.IsUseless (next.complete (next.callFor prompt options) world').2 :=
        (IsUseless.saysNothing instant nothing).of_eq (by rw [complete_snd]; rfl)
          (by rw [complete_snd]; rfl) (by rw [complete_snd]; rfl)
      exact ⟨none, after, unseen.trans same⟩

end IsUseless

end Generator

namespace Session

def IsUseless (s : Session τ) : Prop :=
  ∀ g, s.generator = some g → g.IsUseless s.world

variable {s : Session τ}

theorem IsUseless.withWorld (useless : s.IsUseless) {world : World τ}
    (loader : world.loader = s.world.loader) (model : world.model = s.world.model)
    (depth : world.writeDepth = s.world.writeDepth) : IsUseless { s with world } :=
  fun g here => (useless g here).of_eq loader model depth

abbrev IgnoresModel {α : Type} (act : Session τ → α × Session τ) : Prop :=
  Respects withoutModel IsUseless act

abbrev IsInert {α : Type} (act : Session τ → α × Session τ) : Prop :=
  Inert withoutModel IsUseless act

end Session

open Session (IsInert)

namespace Writer

theorem completion?_of_useless {s : Session τ} (useless : s.IsUseless) (prompt : Text)
    (options : Generator.Options) :
    (completion? prompt options s).1 = .ok none ∧
      (completion? prompt options s).2.withoutModel = s.withoutModel ∧
      (completion? prompt options s).2.IsUseless := by
  unfold completion?
  split
  next => exact ⟨rfl, rfl, useless⟩
  next g here =>
    obtain ⟨nothing, after, same⟩ := (useless g here).generate prompt options
    have useless : ({ s with
        generator := some (g.generate prompt options s.world).2.1
        world := (g.generate prompt options s.world).2.2 } : Session τ).IsUseless := by
      intro other here
      obtain rfl := Option.some.inj here
      exact after
    have unseen : ({ s with
        generator := some (g.generate prompt options s.world).2.1
        world := (g.generate prompt options s.world).2.2 } : Session τ).withoutModel =
        s.withoutModel := by
      simp only [Session.withoutModel, same]
    rcases answer : g.generate prompt options s.world with ⟨failure | output, next, world⟩ <;>
      rw [answer] at nothing useless unseen
    · cases nothing with
      | failed generation => exact ⟨by simp only [generation, if_true], unseen, useless⟩
    · cases nothing with
      | empty => exact ⟨rfl, unseen, useless⟩

theorem isInert_complete (prompt answer : Text) (tokens : Option Int)
    (temperature : Option Number) :
    IsInert (@complete τ _ prompt answer tokens temperature) := by
  refine ⟨.ok answer, fun s useless => ⟨rfl, ?_⟩⟩
  obtain ⟨nothing, unseen, after⟩ :=
    completion?_of_useless useless prompt { maxNewTokens := tokens, temperature }
  exact ⟨_, by simp only [complete, nothing, Except.map, Option.getD_none], unseen, after⟩

-- With a generator a sentence is polished where it is not without one, but that comes to nothing.
theorem isInert_fillSentence (fact template : Text) (polish : Option Bool) :
    IsInert (@fillSentence τ _ fact template polish) := by
  refine ⟨.ok (filled fact template), fun s useless => ⟨?_, ?_⟩⟩
  · unfold fillSentence
    split <;> rfl
  · unfold fillSentence
    split
    next =>
      obtain ⟨nothing, unseen, after⟩ := completion?_of_useless useless
        (Prompt.polish.write fun _ => filled fact template) polishOptions
      rcases done : completion? (Prompt.polish.write fun _ => filled fact template)
        polishOptions s with ⟨output, next⟩
      rw [done] at nothing unseen after
      obtain rfl : output = .ok none := nothing
      exact ⟨next, by simp [done, Except.map], unseen, after⟩
    next => exact ⟨s, rfl, rfl, useless⟩

end Writer

end DocMarkers
