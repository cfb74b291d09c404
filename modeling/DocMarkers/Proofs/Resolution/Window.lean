import DocMarkers.Proofs.Resolution.Records

set_option autoImplicit false

namespace DocMarkers

variable {ν : Type}

structure Creation (ν : Type) where
  id : Text
  timestamp : Text
  resolved : Resolved ν

def Creation.record (creation : Creation ν) : Record ν :=
  creation.resolved.record creation.id creation.timestamp

namespace RecordStore

def createAll : List (Creation ν) → RecordStore ν → List (Except Failure (Record ν)) × RecordStore ν
  | [], store => ([], store)
  | creation :: rest, store =>
    let first := store.createAs creation.id creation.timestamp creation.resolved
    let others := createAll rest first.2
    (first.1 :: others.1, others.2)

structure Slides (count : Nat) (made : List (Record ν)) (store : RecordStore ν) : Prop where
  window : store.window = .last count
  records : store.records = made.rtake count

theorem Slides.createAs {count : Nat} {made : List (Record ν)} {store : RecordStore ν}
    (slides : Slides count made store) (creation : Creation ν)
    (fresh : ∀ record ∈ made, record.id ≠ creation.id) :
    let created := store.createAs creation.id creation.timestamp creation.resolved
    created.1 = .ok creation.record ∧ Slides count (made ++ [creation.record]) created.2 := by
  have unheld : ∀ record ∈ store.records, record.id ≠ creation.id := by
    rw [slides.records]
    exact fun record held => fresh record (List.mem_of_mem_drop held)
  have nonnegative : ¬ (count : Int) < 0 := by omega
  rw [createAs_last slides.window unheld, if_neg nonnegative, Int.toNat_natCast, slides.records,
    rtake_rtake_append]
  exact ⟨rfl, slides.window, rfl⟩

theorem Slides.createAll {count : Nat} {made : List (Record ν)} {store : RecordStore ν}
    (slides : Slides count made store) (creations : List (Creation ν))
    (distinct : (made.map Record.id ++ creations.map Creation.id).Nodup) :
    (createAll creations store).1 = creations.map (fun creation => .ok creation.record) ∧
      Slides count (made ++ creations.map Creation.record) (createAll creations store).2 := by
  induction creations generalizing made store with
  | nil =>
    simp only [List.map_nil, List.append_nil]
    exact ⟨rfl, slides⟩
  | cons creation rest ih =>
    have fresh : ∀ record ∈ made, record.id ≠ creation.id := by
      intro record member
      exact (List.nodup_append.1 distinct).2.2 _ (List.mem_map_of_mem member) _
        List.mem_cons_self
    obtain ⟨first, next⟩ := slides.createAs creation fresh
    obtain ⟨others, last⟩ := ih next (by simpa [Creation.record, Resolved.record] using distinct)
    rw [List.append_assoc] at last
    exact ⟨by rw [RecordStore.createAll, first, others, List.map_cons], last⟩

theorem get_eq_ok_iff {store : RecordStore ν} (distinct : (store.records.map Record.id).Nodup)
    {id : Text} {record : Record ν} :
    store.get id = .ok record ↔ record ∈ store.records ∧ record.id = id := by
  have found : store.get id = .ok record ↔
      store.records.find? (fun record => record.id == id) = some record := by
    unfold get
    cases store.records.find? fun record => record.id == id <;> simp
  rw [found]
  constructor
  · intro found
    exact ⟨List.mem_of_find?_eq_some found, by simpa using List.find?_some found⟩
  · rintro ⟨member, rfl⟩
    obtain ⟨before, after, split⟩ := List.append_of_mem member
    rw [List.find?_eq_some_iff_append]
    refine ⟨by simp, before, after, split, fun other earlier => ?_⟩
    rw [split, List.map_append, List.nodup_append] at distinct
    simpa using distinct.2.2 _ (List.mem_map_of_mem earlier) _ List.mem_cons_self

theorem get_eq_error_iff {store : RecordStore ν} {id : Text} :
    store.get id = .error (.unknownTrace id) ↔ ∀ record ∈ store.records, record.id ≠ id := by
  have missing : store.get id = .error (.unknownTrace id) ↔
      store.records.find? (fun record => record.id == id) = none := by
    unfold get
    cases store.records.find? fun record => record.id == id <;> simp
  rw [missing]
  simp

theorem recent_eq (store : RecordStore ν) (limit : Int) :
    store.recent limit = if 0 < limit then store.records.rtake limit.toNat else [] := by
  unfold recent
  by_cases positive : 0 < limit
  next => rw [if_neg (by omega), if_pos positive, List.rtake]
  next => rw [if_pos (by omega), if_neg positive]

/-- The last records, as many as there is room for, are kept in the order of their making. Each is found
under its identifier and no other identifier is known; the latest of them can be listed; and the summary
is made of them. -/
theorem sliding_window [Quantity ν] (count : Nat) (creations : List (Creation ν))
    (distinct : (creations.map Creation.id).Nodup) :
    let made := createAll creations { window := .last count }
    let store := made.2
    let kept := (creations.map Creation.record).rtake count
    made.1 = creations.map (fun creation => .ok creation.record) ∧
    store.records = kept ∧ kept.length = min count creations.length ∧
    (∀ id record, store.get id = .ok record ↔ record ∈ kept ∧ record.id = id) ∧
    (∀ id, store.get id = .error (.unknownTrace id) ↔ ∀ record ∈ kept, record.id ≠ id) ∧
    (∀ limit : Int, store.recent limit = if 0 < limit then kept.rtake limit.toNat else []) ∧
    (∀ metrics, store.summary = .ok metrics →
      metrics.totalRequests = kept.length ∧
      (if kept = [] then metrics.averageIterations = Quantity.noShare else
        Quantity.ratio (kept.map Record.iterations).sum kept.length =
          .ok metrics.averageIterations) ∧
      metrics.totalMarkers = (kept.flatMap Record.traces).length ∧
      metrics.failedMarkers = (kept.flatMap Record.traces).countP (·.status != .ok) ∧
      metrics.cappedRequests = kept.countP (·.endState == "capped".toList)) ∧
    (Quantity.Unlimited ν → ∃ metrics, store.summary = .ok metrics) := by
  have empty : Slides count ([] : List (Record ν)) { window := .last count } :=
    ⟨rfl, (List.rtake_nil count).symm⟩
  intro made store kept
  obtain ⟨answers, slides⟩ := empty.createAll creations distinct
  rw [List.nil_append] at slides
  have records : store.records = kept := slides.records
  have ids : (store.records.map Record.id).Nodup := by
    have all : ((creations.map Creation.record).map Record.id).Nodup := by
      rw [List.map_map]
      exact distinct
    rw [records]
    exact all.sublist ((List.drop_sublist _ _).map Record.id)
  refine ⟨answers, records, ?_, fun id record => ?_, fun id => ?_, fun limit => ?_, fun metrics told => ?_,
    fun unlimited => ?_⟩
  · simp only [kept, List.rtake, List.length_drop, List.length_map]
    omega
  · rw [get_eq_ok_iff ids, records]
  · rw [get_eq_error_iff, records]
  · rw [recent_eq, records]
  · have summarizes := summarizes_of_summary told
    rw [records] at summarizes
    refine ⟨summarizes.requests, ?_, ?_, ?_, ?_⟩
    · have mean := summarizes.iterations
      rw [averageInt_eq, List.length_map] at mean
      by_cases none : kept = [] <;> simp_all
    · rw [summarizes.markers, List.length_flatMap]
    · rw [summarizes.failed, List.countP_flatMap]
      rfl
    · exact summarizes.capped
  · exact exists_summary_of_ratio (unlimited.averages 0) fun _ => unlimited.ratio _ _

def creationOf (id : String) (iterations : Int) : Creation Rat where
  id := id.toList
  timestamp := []
  resolved :=
    { document := [], output := [], iterations, endState := "capped".toList, traces := [], latency := 1 }

-- The first of three records goes, and the other two took five iterations.
theorem sliding_window_of_two :
    let creations := [creationOf "a" 9, creationOf "b" 4, creationOf "c" 1]
    let store := (createAll creations { window := .last 2 }).2
    (creations.map Creation.id).Nodup ∧
      store.get "a".toList = .error (.unknownTrace "a".toList) ∧
      store.get "b".toList = .ok (creationOf "b" 4).record ∧
      store.recent 1 = [(creationOf "c" 1).record] ∧
      ∃ metrics, store.summary = .ok metrics ∧ metrics.averageIterations = 5 / 2 ∧
        metrics.cappedRequests = 2 := by
  intro creations store
  have distinct : (creations.map Creation.id).Nodup := by decide
  have kept : (creations.map Creation.record).rtake 2 =
      [(creationOf "b" 4).record, (creationOf "c" 1).record] := rfl
  obtain ⟨-, -, -, found, missing, recent, tells, told⟩ := sliding_window 2 creations distinct
  rw [kept] at found missing recent tells
  obtain ⟨metrics, summary⟩ := told Quantity.unlimited_rat
  obtain ⟨-, mean, -, -, capped⟩ := tells metrics summary
  refine ⟨distinct, (missing _).2 (by decide), (found _ _).2 ⟨List.mem_cons_self, rfl⟩, recent 1,
    metrics, summary, ?_, capped⟩
  rw [if_neg (by simp)] at mean
  exact (Except.ok.inj mean).symm.trans (by decide +kernel)

end RecordStore

end DocMarkers
