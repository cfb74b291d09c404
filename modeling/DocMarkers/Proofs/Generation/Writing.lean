import DocMarkers.Generation.Task
import DocMarkers.Number
import DocMarkers.Proofs.Generation.Coherence
import Mathlib.Data.List.Forall2

set_option autoImplicit false

namespace DocMarkers

namespace Prompt

variable {prompt : Prompt}

theorem write_congr {value value' : Slot → Text}
    (same : ∀ slot ∈ prompt.slots, value slot = value' slot) :
    prompt.write value = prompt.write value' := by
  rw [write, write, List.flatMap_def, List.flatMap_def]
  refine congrArg List.flatten (List.map_congr_left fun piece member => ?_)
  cases piece with
  | words words => rfl
  | slot slot => exact same slot (List.mem_filterMap.2 ⟨_, member, rfl⟩)

theorem write?_of_given {value? : Slot → Option Text}
    (given : ∀ slot ∈ prompt.slots, (value? slot).isSome = true) :
    prompt.write? value? = .ok (prompt.write fun slot => (value? slot).getD []) := by
  have complete : (prompt.slots.find? fun slot => (value? slot).isNone) = none := by
    rw [List.find?_eq_none]
    intro slot member
    simp [Option.isNone_iff_eq_none, Option.isSome_iff_ne_none.1 (given slot member)]
  rw [write?, complete]

end Prompt

theorem Except.mapM_eq_ok_iff {ε α β : Type} {f : α → Except ε β} {items : List α}
    {results : List β} :
    items.mapM f = .ok results ↔
      List.Forall₂ (fun item result => f item = .ok result) items results := by
  induction items generalizing results with
  | nil => simp [pure, Except.pure, eq_comm]
  | cons item rest ih =>
    rw [List.mapM_cons, List.forall₂_cons_left_iff]
    cases first : f item with
    | error fault => simp [bind, Except.bind]
    | ok result =>
      cases others : rest.mapM f with
      | error fault =>
        have none (results : List β) :
            ¬ List.Forall₂ (fun item result => f item = .ok result) rest results := by
          rw [← ih, others]
          exact nofun
        simp [bind, Except.bind, none]
      | ok given =>
        have only (results : List β) :
            List.Forall₂ (fun item result => f item = .ok result) rest results ↔
              given = results := by
          rw [← ih, others, Except.ok.injEq]
        simp [bind, Except.bind, pure, Except.pure, only, eq_comm]

namespace Generator

inductive PartReadsAs (depth : Nat) : Value → Text → Prop
  | labelled {fields : List (Text × Value)} {value : Value} {text : Text}
      (label : Entries.get? fields "text".toList = some value)
      (written : value.write depth = .ok text) :
    PartReadsAs depth (.object fields) text
  | plain {part : Value} {text : Text}
      (bare : ∀ fields, part = .object fields → Entries.get? fields "text".toList = none)
      (written : part.write depth = .ok text) :
    PartReadsAs depth part text

/-- The text of a message: a text as it is, the parts of a list with a blank between them, and any
other value as it is written. -/
inductive ReadsAs (depth : Nat) : Value → Text → Prop
  | text (text : Text) : ReadsAs depth (.text text) text
  | parts {parts : List Value} {texts : List Text}
      (written : List.Forall₂ (PartReadsAs depth) parts texts) :
    ReadsAs depth (.list parts) (Text.join [' '] texts)
  | other {value : Value} {text : Text} (untextual : ∀ text, value ≠ .text text)
      (single : ∀ parts, value ≠ .list parts) (written : value.write depth = .ok text) :
    ReadsAs depth value text

theorem partText_eq_ok_iff {depth : Nat} {part : Value} {text : Text} :
    partText depth part = .ok text ↔ PartReadsAs depth part text := by
  constructor
  · intro written
    cases part with
    | object fields =>
      cases label : Entries.get? fields "text".toList with
      | none =>
        simp only [partText, label, Option.getD_none] at written
        refine .plain (fun others same => ?_) written
        rw [← Value.object.inj same, label]
      | some value =>
        simp only [partText, label, Option.getD_some] at written
        exact .labelled label written
    | _ => exact .plain nofun written
  · rintro (⟨label, written⟩ | ⟨bare, written⟩)
    · simpa only [partText, label, Option.getD_some] using written
    · cases part with
      | object fields => simpa only [partText, bare fields rfl, Option.getD_none] using written
      | _ => exact written

theorem messageText_eq_ok_iff {depth : Nat} {value : Value} {text : Text} :
    messageText depth value = .ok text ↔ ReadsAs depth value text := by
  constructor
  · intro written
    cases value with
    | list parts =>
      cases texts : parts.mapM (partText depth) with
      | error fault =>
        rw [messageText, texts] at written
        contradiction
      | ok texts' =>
        rw [messageText, texts] at written
        cases written
        exact .parts ((Except.mapM_eq_ok_iff.1 texts).imp fun _ _ => partText_eq_ok_iff.1)
    | text reply =>
      obtain rfl : reply = text := by simpa [messageText] using written
      exact .text reply
    | _ => exact .other nofun nofun written
  · rintro (text | written | ⟨untextual, single, written⟩)
    · simp [messageText]
    · have texts := Except.mapM_eq_ok_iff.2 (written.imp fun _ _ => partText_eq_ok_iff.2)
      rw [messageText, texts]
      rfl
    · cases value with
      | list parts => exact absurd rfl (single parts)
      | _ => exact written

end Generator

variable {τ : Type}

namespace Generator

/-- What a generation comes to. No model can be loaded, or the model is called once. Then it fails, in a
way that can be told or not, or gives a reply, which holds a text or cannot be written. -/
inductive Ends (g : Generator) (prompt : Text) (options : Options) (world : World τ) :
    Except Failure Text × Generator × World τ → Prop
  | unavailable (cause : Text) (next : Generator) (after : World τ)
      (uncalled : after.calls = world.calls) :
    Ends g prompt options world (.error (.modelUnavailable g.modelId cause), next, after)
  | failed (failure : Failure) (next : Generator) (after : World τ)
      (called : after.calls = world.calls ++ [g.callFor prompt options])
      (outcome : (world.model world.calls (g.callFor prompt options)).outcome =
        .error (.told failure)) :
    Ends g prompt options world
      (.error (.generationFailed g.modelId failure.message), next, after)
  | untold (fault : Failure) (next : Generator) (after : World τ)
      (called : after.calls = world.calls ++ [g.callFor prompt options])
      (outcome : (world.model world.calls (g.callFor prompt options)).outcome =
        .error (.untold fault)) :
    Ends g prompt options world (.error fault, next, after)
  | garbled (value : Value) (fault : Failure) (next : Generator) (after : World τ)
      (called : after.calls = world.calls ++ [g.callFor prompt options])
      (outcome : (world.model world.calls (g.callFor prompt options)).outcome = .ok value)
      (unreadable : ∀ text, ¬ ReadsAs world.writeDepth value text) :
    Ends g prompt options world (.error fault, next, after)
  | answered (value : Value) (text : Text) (next : Generator) (after : World τ)
      (called : after.calls = world.calls ++ [g.callFor prompt options])
      (outcome : (world.model world.calls (g.callFor prompt options)).outcome = .ok value)
      (reads : ReadsAs world.writeDepth value text) :
    Ends g prompt options world (.ok text.trim, next, after)

theorem Ends.calls {g : Generator} {prompt : Text} {options : Options} {world : World τ}
    {ended : Except Failure Text × Generator × World τ} (ends : Ends g prompt options world ended) :
    ended.2.2.calls = world.calls ∨
      ended.2.2.calls = world.calls ++ [g.callFor prompt options] := by
  cases ends with
  | unavailable _ _ _ uncalled => exact .inl uncalled
  | failed _ _ _ called | untold _ _ _ called => exact .inr called
  | garbled _ _ _ _ called | answered _ _ _ _ called => exact .inr called

variable [Quantity τ]

theorem ends_of_loaded {g next : Generator} {prompt : Text} {options : Options}
    {world after : World τ} (modelId : next.modelId = g.modelId)
    (call : next.callFor prompt options = g.callFor prompt options)
    (calls : after.calls = world.calls) (model : after.model = world.model)
    (depth : after.writeDepth = world.writeDepth) :
    Ends g prompt options world
      ((next.complete (next.callFor prompt options) after).1, next,
        (next.complete (next.callFor prompt options) after).2) := by
  have called : (next.complete (g.callFor prompt options) after).2.calls =
      world.calls ++ [g.callFor prompt options] := by
    simp [complete_snd, World.complete, World.wait, calls]
  rw [call]
  generalize last : (next.complete (g.callFor prompt options) after).2 = final at called
  simp only [Generator.complete, World.complete, World.wait, calls, model, depth, modelId]
  rcases reply : (world.model world.calls (g.callFor prompt options)).outcome with
    (failure | fault) | value <;> dsimp only
  · exact .failed failure next _ called reply
  · exact .untold fault next _ called reply
  · cases written : messageText world.writeDepth value with
    | error fault =>
      refine .garbled value fault next _ called reply fun text reads => ?_
      rw [messageText_eq_ok_iff.2 reads] at written
      contradiction
    | ok text => exact .answered value text next _ called reply (messageText_eq_ok_iff.1 written)

theorem ends_generate (g : Generator) (prompt : Text) (options : Options) (world : World τ) :
    Ends g prompt options world (g.generate prompt options world) := by
  unfold Generator.generate Generator.load
  cases ready : g.isReady with
  | true => exact ends_of_loaded rfl rfl rfl rfl rfl
  | false =>
    simp only [Bool.false_eq_true, if_false, endLoad, announce_eq, World.load]
    cases answer : world.loader world.loads g.modelId with
    | some failure => exact .unavailable _ g _ rfl
    | none => exact ends_of_loaded rfl rfl rfl rfl rfl

end Generator

variable [Quantity τ]

namespace Writer

namespace Plan

variable {plan : Plan}

theorem carryOut_eq (given : ∀ slot ∈ plan.prompt.slots, (plan.value? slot).isSome = true)
    (s : Session τ) :
    plan.carryOut s =
      if plan.asks then
        let (output, s) := completion? plan.text plan.options s
        (output.map fun output => (output.filter plan.accepts).getD plan.answer, s)
      else (.ok plan.answer, s) := by
  have written : plan.prompt.write? plan.value? = .ok plan.text := Prompt.write?_of_given given
  rw [carryOut, written]

end Plan

namespace Task

theorem slots_given (task : Task) :
    ∀ slot ∈ task.plan.prompt.slots, (task.plan.value? slot).isSome = true := by
  cases task <;> simp [plan, Prompt.slots, Prompt.pieces]

theorem complete_eq {prompt : Prompt} {value : Slot → Text} {value? : Slot → Option Text}
    (same : ∀ slot ∈ prompt.slots, value slot = (value? slot).getD [])
    (given : ∀ slot ∈ prompt.slots, (value? slot).isSome = true) (answer : Text)
    (tokens : Option Int) (temperature : Option Number) (s : Session τ) :
    complete (prompt.write value) answer tokens temperature s =
      Plan.carryOut
        { prompt, value?, options := { maxNewTokens := tokens, temperature }, answer } s := by
  rw [Plan.carryOut_eq given, complete, Prompt.write_congr same, if_pos rfl, Plan.text]
  rcases completion? _ _ s with ⟨_ | _ | output, next⟩ <;> rfl

theorem fillSentence_eq (fact template : Text) (polish : Option Bool) (s : Session τ) :
    Writer.fillSentence fact template polish s =
      (fillSentence fact template polish).plan.carryOut s := by
  have text : (fillSentence fact template polish).plan.text =
      Prompt.polish.write fun _ => filled fact template :=
    Prompt.write_congr (by simp [plan, Prompt.slots, Prompt.pieces])
  rw [Plan.carryOut_eq (slots_given _), text]
  unfold Writer.fillSentence
  cases here : s.generator with
  | none =>
    -- Without a generator it makes no difference whether the sentence is to be polished.
    simp only [plan, completion?, here, Except.map, Option.filter_none, Option.getD_none]
    split <;> split <;> rfl
  | some g =>
    have asks : polish.getD (usesGenerator s) = polish.getD true := by
      rw [usesGenerator, here, Option.isSome_some]
    rw [asks]
    rfl

theorem perform_eq (task : Task) (s : Session τ) : task.perform s = task.plan.carryOut s := by
  cases task with
  | fillSentence fact template polish => exact fillSentence_eq fact template polish s
  | _ =>
    exact complete_eq (by simp [Prompt.slots, Prompt.pieces])
      (by simp [Prompt.slots, Prompt.pieces]) _ _ _ s

def Fits : Task → Text → Prop
  | fillSentence fact template _, output =>
    (filled fact template).length < 2 * output.length ∧
      output.length < 2 * (filled fact template).length
  | _, _ => True

theorem accepts_iff (task : Task) (output : Text) :
    task.plan.accepts output = true ↔ task.Fits output := by
  cases task <;> simp [plan, Fits, isAccepted]

-- Half the length is too short, and the double too long.
example :
    (List.range 10).filter (fun length =>
      (fillSentence [] "Rome".toList none).plan.accepts (List.replicate length 'x')) =
        [3, 4, 5, 6, 7] := by
  decide

-- What a generation came to is a text that the task takes as it is.
structure Takes (task : Task) (generated : Except Failure Text) (output : Text) : Prop where
  asked : task.plan.asks = true
  returned : generated = .ok output
  inhabited : output ≠ []
  fitting : task.Fits output

theorem perform_without_generator (task : Task) {s : Session τ} (alone : s.generator = none) :
    (task.perform s).1 = .ok task.plan.answer := by
  rw [perform_eq, Plan.carryOut_eq task.slots_given, completion?, alone]
  split <;> rfl

section

variable {task : Task} {s : Session τ}

theorem perform_unasked (unasked : task.plan.asks = false) :
    task.perform s = (.ok task.plan.answer, s) := by
  rw [perform_eq, Plan.carryOut_eq task.slots_given, unasked]
  rfl

variable {g next : Generator} {after : World τ}

theorem perform_of_error {failure : Failure} (asked : task.plan.asks = true)
    (here : s.generator = some g)
    (generated : g.generate task.plan.text task.plan.options s.world =
      (.error failure, next, after)) :
    task.perform s =
      (if failure.isGeneration then .ok task.plan.answer else .error failure,
        { s with generator := some next, world := after }) := by
  rw [perform_eq, Plan.carryOut_eq task.slots_given, asked, completion?, here]
  simp only [generated, if_true]
  cases failure.isGeneration <;> rfl

theorem perform_of_ok {output : Text} (asked : task.plan.asks = true) (here : s.generator = some g)
    (generated : g.generate task.plan.text task.plan.options s.world = (.ok output, next, after)) :
    task.perform s =
      (.ok (if output ≠ [] ∧ task.plan.accepts output then output else task.plan.answer),
        { s with generator := some next, world := after }) := by
  rw [perform_eq, Plan.carryOut_eq task.slots_given, asked, completion?, here]
  simp only [generated, if_true]
  cases output with
  | nil => rfl
  | cons c rest =>
    by_cases accepted : task.plan.accepts (c :: rest) = true <;>
      simp [accepted, Except.map, Option.filter]

theorem calls_perform (here : s.generator = some g) :
    (task.perform s).2.world.calls = s.world.calls ∨
      (task.perform s).2.world.calls =
        s.world.calls ++ [g.callFor task.plan.text task.plan.options] := by
  cases asked : task.plan.asks with
  | false =>
    rw [perform_unasked asked]
    exact .inl rfl
  | true =>
    have ends := g.ends_generate task.plan.text task.plan.options s.world
    rcases generated : g.generate task.plan.text task.plan.options s.world with
      ⟨failure | output, next, after⟩ <;> rw [generated] at ends
    · rw [perform_of_error asked here generated]
      exact ends.calls
    · rw [perform_of_ok asked here generated]
      exact ends.calls

theorem perform_of_takes {output : Text} (here : s.generator = some g)
    (takes : task.Takes (g.generate task.plan.text task.plan.options s.world).1 output) :
    (task.perform s).1 = .ok output := by
  obtain ⟨asked, returned, inhabited, fitting⟩ := takes
  rw [perform_of_ok asked here (Prod.ext returned rfl)]
  exact congrArg Except.ok (if_pos ⟨inhabited, (task.accepts_iff output).2 fitting⟩)

theorem perform_eq_error_iff (here : s.generator = some g) {failure : Failure} :
    (task.perform s).1 = .error failure ↔
      task.plan.asks = true ∧ failure.isGeneration = false ∧
        (g.generate task.plan.text task.plan.options s.world).1 = .error failure := by
  cases asked : task.plan.asks with
  | false => simp [perform_unasked asked]
  | true =>
    rcases generated : g.generate task.plan.text task.plan.options s.world with
      ⟨other | output, next, after⟩
    · rw [perform_of_error asked here generated]
      cases caught : other.isGeneration with
      | true =>
        simp only [if_true, reduceCtorEq, true_and, false_iff, not_and, Except.error.injEq]
        rintro uncaught rfl
        simp [caught] at uncaught
      | false =>
        simp only [Bool.false_eq_true, if_false, Except.error.injEq, true_and]
        exact ⟨fun same => ⟨same ▸ caught, same⟩, And.right⟩
    · simp [perform_of_ok asked here generated]

theorem perform_of_refuses (here : s.generator = some g)
    (refuses : ∀ output,
      ¬ task.Takes (g.generate task.plan.text task.plan.options s.world).1 output)
    (unfailing : ∀ failure, (task.perform s).1 ≠ .error failure) :
    (task.perform s).1 = .ok task.plan.answer := by
  cases asked : task.plan.asks with
  | false => rw [perform_unasked asked]
  | true =>
    rcases generated : g.generate task.plan.text task.plan.options s.world with
      ⟨failure | output, next, after⟩
    · rw [perform_of_error asked here generated] at unfailing ⊢
      cases caught : failure.isGeneration with
      | true => rfl
      | false =>
        rw [caught] at unfailing
        exact absurd rfl (unfailing failure)
    · rw [perform_of_ok asked here generated]
      refine congrArg Except.ok (if_neg ?_)
      rintro ⟨inhabited, accepted⟩
      refine refuses output ⟨asked, by rw [generated], inhabited, ?_⟩
      exact (task.accepts_iff output).1 accepted

end

end Task

/-- A task calls the model at most once and writes what the generation came to if that is a text which
it takes. If a generation does not fail as a generation, which takes a failure that cannot be told or a
reply that cannot be written, so does the task. Else it writes what it writes without a generator. -/
theorem own_answer_or_reply (task : Task) (g : Generator) (s : Session τ) :
    let served : Session τ := { s with generator := some g }
    let result := task.perform served
    let own := (task.perform { s with generator := none }).1
    let call := g.callFor task.plan.text task.plan.options
    let generated := g.generate task.plan.text task.plan.options s.world
    (result = task.plan.carryOut served ∧ own = .ok task.plan.answer) ∧
      (result.2.world.calls = s.world.calls ∨
        result.2.world.calls = s.world.calls ++ [call]) ∧
      g.Ends task.plan.text task.plan.options s.world generated ∧
      (∀ output, task.Takes generated.1 output → result.1 = .ok output) ∧
      (∀ failure, result.1 = .error failure ↔
        task.plan.asks = true ∧ failure.isGeneration = false ∧ generated.1 = .error failure) ∧
      ((∀ output, ¬ task.Takes generated.1 output) → (∀ failure, result.1 ≠ .error failure) →
        result.1 = own) := by
  intro served result own call generated
  have here : served.generator = some g := rfl
  have answer : own = .ok task.plan.answer := task.perform_without_generator rfl
  refine ⟨⟨task.perform_eq served, answer⟩, Task.calls_perform here,
    g.ends_generate task.plan.text task.plan.options s.world,
    fun output takes => Task.perform_of_takes here takes,
    fun failure => Task.perform_eq_error_iff here, fun refuses unfailing => ?_⟩
  rw [answer]
  exact Task.perform_of_refuses here refuses unfailing

def replying (reply : Value) : Session Number where
  world :=
    { clock := .int 0
      today := []
      server := fun _ _ => ⟨.error .closedClient, .int 0⟩
      loader := fun _ _ => none
      model := fun _ _ => ⟨.ok reply, .int 0⟩ }
  client :=
    { settings :=
        { baseUrl := [], searchUrl := [], pageBaseUrl := [], lifetime := .int 0
          timeout := .int 0, userAgent := [] } }

def sharpen : Task := .fillSentence "Cats have 18 toes.".toList "They have X toes.".toList none

-- A polished sentence in two parts, one of them labelled.
theorem own_answer_or_reply_polished :
    let reply : Value := .list [.object [("text".toList, .text " They have".toList)],
      .text "18 soft toes. ".toList]
    let result := sharpen.perform
      { replying reply with generator := some (.ofSettings .defaults) }
    result.1 = .ok "They have 18 soft toes.".toList ∧ result.2.world.calls.length = 1 := by
  intro reply result
  obtain ⟨-, -, -, takes, -⟩ :=
    own_answer_or_reply sharpen (.ofSettings .defaults) (replying reply)
  refine ⟨takes _ ⟨rfl, by decide +kernel, by decide, by simp only [sharpen, Task.Fits]; decide +kernel⟩, ?_⟩
  decide +kernel

theorem unwritten_reply_fails :
    let task : Task := .keyFact (.text "Cats purr.".toList) none
    let reply : Value := .int (Nat.pow 10 5000)
    let result := task.perform { replying reply with generator := some (.ofSettings .defaults) }
    result.1 = .error .oversizedInteger ∧
      (task.perform (replying reply)).1 = .ok "Cats purr.".toList := by
  decide +kernel

end Writer

end DocMarkers
