import DocMarkers.Proofs.Generation.Coherence

set_option autoImplicit false

namespace DocMarkers

variable {τ : Type}

abbrev Ending (τ : Type) := Except Failure (Option Text) × Generator × World τ

def inTurn {α : Type} (run : α → Generator → World τ → Ending τ) :
    List α → Generator → World τ → List (Except Failure (Option Text)) × Generator × World τ
  | [], g, world => ([], g, world)
  | item :: items, g, world =>
    let (result, g, world) := run item g world
    let (results, g, world) := inTurn run items g world
    (result :: results, g, world)

theorem inTurn_map {α β : Type} (f : α → β) (run : β → Generator → World τ → Ending τ)
    (items : List α) (g : Generator) (world : World τ) :
    inTurn run (items.map f) g world = inTurn (run ∘ f) items g world := by
  induction items generalizing g world with
  | nil => rfl
  | cons item items ih => simp only [List.map_cons, inTurn, Function.comp_apply, ih]

section Items

variable {α : Type} (run : α → Generator → World τ → Ending τ)

theorem inTurn_append (first second : List α) (g : Generator) (world : World τ) :
    inTurn run (first ++ second) g world =
      let (results, g, world) := inTurn run first g world
      let (others, g, world) := inTurn run second g world
      (results ++ others, g, world) := by
  induction first generalizing g world with
  | nil => rfl
  | cons item items ih => simp only [List.cons_append, inTurn, ih]

theorem length_inTurn (items : List α) (g : Generator) (world : World τ) :
    (inTurn run items g world).1.length = items.length := by
  induction items generalizing g world with
  | nil => rfl
  | cons item items ih => simp only [inTurn, List.length_cons, ih]

def found (items : List α) (index : Nat) (g : Generator) (world : World τ) :
    Generator × World τ :=
  (inTurn run (items.take index) g world).2

theorem found_length (items : List α) (g : Generator) (world : World τ) :
    found run items items.length g world = (inTurn run items g world).2 := by
  simp [found]

variable {items : List α} {index : Nat} {item : α}

theorem found_succ (here : items[index]? = some item) (g : Generator) (world : World τ) :
    found run items (index + 1) g world =
      (run item (found run items index g world).1 (found run items index g world).2).2 := by
  simp [found, List.take_add_one, here, inTurn_append, inTurn]

theorem getElem?_inTurn (here : items[index]? = some item) (g : Generator) (world : World τ) :
    (inTurn run items g world).1[index]? =
      some (run item (found run items index g world).1 (found run items index g world).2).1 := by
  obtain ⟨within, rfl⟩ := List.getElem?_eq_some_iff.1 here
  have whole := inTurn_append run (items.take index) (items.drop index) g world
  rw [List.take_append_drop, List.drop_eq_getElem_cons within] at whole
  have length : (inTurn run (items.take index) g world).1.length = index := by
    rw [length_inTurn, List.length_take]
    omega
  simp [whole, inTurn, length, found]

end Items

variable [Quantity τ]

def Job.run : Job → Generator → World τ → Ending τ
  | load, g, world => let (result, next) := g.load world; (result.map fun _ => none, next)
  | generate prompt options, g, world =>
    let (result, next) := g.generate prompt options world
    (result.map some, next)
  | exchange name, g, world =>
    let (result, next) := g.setModel name world
    (result.map fun _ => none, next)

namespace Generator

def answer (g : Generator) (call : Call) (world : World τ) : Ending τ :=
  let (result, world) := g.complete call world
  (result.map some, g, world)

end Generator

namespace Aim

def pursue : Aim → Generator → World τ → Ending τ
  | nothing, g, world => (.ok none, g, world)
  | reply prompt options, g, world => g.answer (g.callFor prompt options) world

theorem run_job_of_ready {g : Generator} (ready : g.isReady = true) (world : World τ) (aim : Aim) :
    aim.job.run g world = aim.pursue g world := by
  cases aim <;>
    simp [job, Job.run, pursue, Generator.generate, Generator.load, Generator.answer, ready,
      Except.map]

end Aim

namespace Place

def settle : Place → Generator → World τ → Ending τ
  | fresh job, g, world => job.run g world
  | waitingToExchange name, g, world => (Job.exchange name).run g world
  | waitingToLoad aim, g, world => aim.job.run g world
  | loading model aim, g, world =>
    match g.endLoad model world with
    | (.ok (), g, world) => aim.pursue g world
    | (.error failure, g, world) => (.error (aim.refusal g failure), g, world)
  | waitingToComplete call, g, world => g.answer call world
  | completing call, g, world => g.answer call world
  | ended result, g, world => (result, g, world)

theorem settle_loading {g : Generator} (missing : g.isReady = false) (world : World τ)
    (aim : Aim) :
    (loading g.modelId aim).settle g (g.announce (.initiate g.modelId) world) =
      aim.job.run g world := by
  rcases answer : g.endLoad g.modelId (g.announce (.initiate g.modelId) world) with
    ⟨_ | _, next, world⟩ <;> cases aim <;>
    simp [settle, Aim.job, Job.run, Generator.generate, Generator.load, missing, answer,
      Aim.pursue, Aim.refusal, Generator.answer, Except.map]

theorem settle_loading_refused {g : Generator} {model : Text} {world : World τ}
    {failure : Failure} (refusal : (world.load model).1 = some failure) (aim : Aim) :
    (loading model aim).settle g world =
      (.error (aim.refusal g failure), g, (world.load model).2) := by
  rcases answer : world.load model with ⟨_ | _, world⟩ <;>
    simp_all [settle, Generator.endLoad]

theorem settle_loading_loaded {g : Generator} {model : Text} {world : World τ}
    (success : (world.load model).1 = none) (aim : Aim) :
    (loading model aim).settle g world =
      aim.pursue { g with loaded := some model }
        (g.announce (.ready model) (world.load model).2) := by
  rcases answer : world.load model with ⟨_ | _, world⟩ <;>
    simp_all [settle, Generator.endLoad]

def isExchanging : Place → Bool
  | fresh (.exchange _) => true
  | waitingToExchange _ => true
  | _ => false

theorem settle_generator {g : Generator} (ready : g.isReady = true) (world : World τ)
    {place : Place} (stays : place.isExchanging = false) (notLoading : place.isLoading = false) :
    (place.settle g world).2.1 = g := by
  cases place with
  | fresh job =>
    cases job with
    | load => simp [settle, Job.run, Generator.load, ready]
    | generate prompt options => simp [settle, Job.run, Generator.generate, Generator.load, ready]
    | exchange name => simp [isExchanging] at stays
  | waitingToExchange name => simp [isExchanging] at stays
  | waitingToLoad aim =>
    rw [settle, Aim.run_job_of_ready ready]
    cases aim <;> rfl
  | loading model aim => simp [isLoading] at notLoading
  | _ => rfl

end Place

theorem inTurn_ended (results : List (Except Failure (Option Text))) (g : Generator)
    (world : World τ) :
    inTurn Place.settle (results.map .ended) g world = (results, g, world) := by
  induction results with
  | nil => rfl
  | cons result results ih => simp only [List.map_cons, inTurn, Place.settle, ih]

namespace SharedGenerator

/-- What the tasks are on the way to: as if each did what is left for it, one after another. -/
def settled (s : SharedGenerator τ) :
    List (Except Failure (Option Text)) × Generator × World τ :=
  inTurn Place.settle s.tasks s.generator s.world

theorem settled_start (g : Generator) (world : World τ) (jobs : List Job) :
    (start g world jobs).settled = inTurn Job.run jobs g world :=
  inTurn_map ..

theorem settled_ended {s : SharedGenerator τ} {results : List (Except Failure (Option Text))}
    (ended : s.tasks = results.map .ended) : s.settled = (results, s.generator, s.world) := by
  rw [settled, ended, inTurn_ended]

end SharedGenerator

namespace Aim

-- A completion leaves the model and the loads alone.
theorem pursue_loads (aim : Aim) (g : Generator) (world : World τ) :
    (aim.pursue g world).2.1 = g ∧ (aim.pursue g world).2.2.loads = world.loads ∧
      (aim.pursue g world).2.2.loader = world.loader := by
  cases aim <;> simp [pursue, Generator.answer, Generator.complete_snd, World.complete, World.wait]

-- Nor does it matter to a completion what was loaded and announced.
theorem pursue_result (aim : Aim) (g : Generator) (world : World τ) (loads : List Text)
    (progress : List Progress) :
    (aim.pursue g { world with loads, progress }).1 = (aim.pursue g world).1 := by
  cases aim with
  | nothing => rfl
  | reply prompt options =>
    simp only [pursue, Generator.answer, Generator.complete, World.complete]
    rcases (world.model world.calls (g.callFor prompt options)).outcome with (_ | _) | _ <;> rfl

theorem run_job_of_refused {g : Generator} (missing : g.isReady = false) {world : World τ}
    {failure : Failure} (refused : world.loader world.loads g.modelId = some failure) (aim : Aim) :
    (aim.job.run g world).1 = .error (aim.refusal g failure) ∧
      (aim.job.run g world).2.1 = g ∧
      (aim.job.run g world).2.2.loads = world.loads ++ [g.modelId] ∧
      (aim.job.run g world).2.2.loader = world.loader := by
  rw [← Place.settle_loading missing, Place.settle_loading_refused
    (by simpa [Generator.announce_eq, World.load] using refused)]
  simp [Generator.announce_eq, World.load]

theorem run_job_of_loaded {g : Generator} (missing : g.isReady = false) {world : World τ}
    (success : world.loader world.loads g.modelId = none) (aim : Aim) :
    (aim.job.run g world).1 = (aim.pursue { g with loaded := some g.modelId } world).1 ∧
      (aim.job.run g world).2.1 = { g with loaded := some g.modelId } ∧
      (aim.job.run g world).2.2.loads = world.loads ++ [g.modelId] ∧
      (aim.job.run g world).2.2.loader = world.loader := by
  rw [← Place.settle_loading missing, Place.settle_loading_loaded
    (by simpa [Generator.announce_eq, World.load] using success)]
  refine ⟨?_, by simp [pursue_loads, Generator.announce_eq, World.load]⟩
  rw [Generator.announce_eq, Generator.announce_eq]
  exact pursue_result aim _ world _ _

end Aim

structure AfterLoads (g : Generator) (world : World τ) (refusals jobs : Nat) (next : Generator)
    (after : World τ) : Prop where
  generator : next = if jobs ≤ refusals then g else { g with loaded := some g.modelId }
  loads : after.loads = world.loads ++ List.replicate (min jobs (refusals + 1)) g.modelId
  loader : after.loader = world.loader

section Refused

variable {g : Generator} (missing : g.isReady = false) {world : World τ} {failures : List Failure}
  (refused : ∀ index, (within : index < failures.length) →
    world.loader (world.loads ++ List.replicate index g.modelId) g.modelId =
      some failures[index])
  (success :
    world.loader (world.loads ++ List.replicate failures.length g.modelId) g.modelId = none)
include missing

include refused in
theorem AfterLoads.run_of_refused {jobs : Nat} {next : Generator} {after : World τ}
    (state : AfterLoads g world failures.length jobs next after) (less : jobs < failures.length)
    (aim : Aim) :
    (aim.job.run next after).1 = .error (aim.refusal g failures[jobs]) ∧
      AfterLoads g world failures.length (jobs + 1) (aim.job.run next after).2.1
        (aim.job.run next after).2.2 := by
  obtain ⟨generator, loads, loader⟩ := state
  rw [if_pos (by omega)] at generator
  subst generator
  have refusal : after.loader after.loads next.modelId = some failures[jobs] := by
    rw [loader, loads, Nat.min_eq_left (by omega), refused jobs less]
  obtain ⟨result, generator, asked, same⟩ := Aim.run_job_of_refused missing refusal aim
  refine ⟨result, by rw [generator, if_pos (by omega)], ?_, same.trans loader⟩
  rw [asked, loads, List.append_assoc, ← List.replicate_succ', Nat.min_eq_left (by omega),
    Nat.min_eq_left (by omega)]

include success in
theorem AfterLoads.run_of_loaded {jobs : Nat} {next : Generator} {after : World τ}
    (state : AfterLoads g world failures.length jobs next after) (past : failures.length ≤ jobs)
    (aim : Aim) :
    (aim.job.run next after).1 = (aim.pursue { g with loaded := some g.modelId } after).1 ∧
      AfterLoads g world failures.length (jobs + 1) (aim.job.run next after).2.1
        (aim.job.run next after).2.2 := by
  obtain ⟨generator, loads, loader⟩ := state
  rcases Nat.eq_or_lt_of_le past with rfl | more
  · rw [if_pos (Nat.le_refl _)] at generator
    subst generator
    have loaded : after.loader after.loads next.modelId = none := by
      rw [loader, loads, Nat.min_eq_left (by omega), success]
    obtain ⟨result, generator, asked, same⟩ := Aim.run_job_of_loaded missing loaded aim
    refine ⟨result, by rw [generator, if_neg (by omega)], ?_, same.trans loader⟩
    rw [asked, loads, List.append_assoc, ← List.replicate_succ', Nat.min_eq_left (by omega),
      Nat.min_self]
  · rw [if_neg (by omega)] at generator
    have ready : next.isReady = true := by rw [generator]; rfl
    obtain ⟨same, asked, unchanged⟩ := aim.pursue_loads next after
    rw [Aim.run_job_of_ready ready]
    refine ⟨by rw [generator], by rw [same, generator, if_neg (by omega)], ?_,
      unchanged.trans loader⟩
    rw [asked, loads, Nat.min_eq_right (by omega), Nat.min_eq_right (by omega)]

include refused success

theorem AfterLoads.run {jobs : Nat} {next : Generator} {after : World τ}
    (state : AfterLoads g world failures.length jobs next after) (aim : Aim) :
    AfterLoads g world failures.length (jobs + 1) (aim.job.run next after).2.1
      (aim.job.run next after).2.2 := by
  rcases Nat.lt_or_ge jobs failures.length with less | past
  · exact (state.run_of_refused missing refused less aim).2
  · exact (state.run_of_loaded missing success past aim).2

theorem AfterLoads.found {aims : List Aim} {jobs : Nat} (within : jobs ≤ aims.length) :
    AfterLoads g world failures.length jobs
      (found Job.run (aims.map Aim.job) jobs g world).1
      (found Job.run (aims.map Aim.job) jobs g world).2 := by
  induction jobs with
  | zero => exact ⟨by simp [DocMarkers.found, inTurn], by simp [DocMarkers.found, inTurn], rfl⟩
  | succ jobs ih =>
    have here : (aims.map Aim.job)[jobs]? = some aims[jobs].job := by
      rw [List.getElem?_map, List.getElem?_eq_getElem within]
      rfl
    rw [found_succ Job.run here]
    exact (ih (by omega)).run missing refused success aims[jobs]

end Refused

theorem inTurn_set (agree : Generator × World τ → Generator × World τ → Prop)
    {tasks : List Place} {task : Nat} {old new : Place} (here : tasks[task]? = some old)
    (before : ∀ earlier < task, ∀ place, tasks[earlier]? = some place → ∀ a b, agree a b →
      (place.settle a.1 a.2).1 = (place.settle b.1 b.2).1 ∧
        agree (place.settle a.1 a.2).2 (place.settle b.1 b.2).2)
    (same : ∀ a b, agree a b → new.settle a.1 a.2 = old.settle b.1 b.2)
    (a b : Generator × World τ) (related : agree a b) :
    inTurn Place.settle (tasks.set task new) a.1 a.2 = inTurn Place.settle tasks b.1 b.2 := by
  induction tasks generalizing task a b with
  | nil => simp at here
  | cons first rest ih =>
    cases task with
    | zero =>
      obtain rfl : first = old := by simpa using here
      simp [inTurn, same a b related]
    | succ task =>
      obtain ⟨result, next⟩ := before 0 (by omega) first rfl a b related
      have others := ih (by simpa using here)
        (fun earlier less place there =>
          before (earlier + 1) (by omega) place (by simpa using there)) _ _ next
      simp only [List.set_cons_succ, inTurn, result, others]

end DocMarkers
