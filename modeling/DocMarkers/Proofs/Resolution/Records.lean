import DocMarkers.Resolution.Record
import Mathlib.Algebra.Order.Ring.Int
import Mathlib.Data.List.DropRight
import Mathlib.Data.List.Forall2

set_option autoImplicit false

namespace DocMarkers

theorem rtake_rtake_append {α : Type} (count : Nat) (items : List α) (item : α) :
    (items.rtake count ++ [item]).rtake count = (items ++ [item]).rtake count := by
  cases count with
  | zero => simp
  | succ count =>
    rw [List.rtake_concat_succ, List.rtake_concat_succ]
    simp only [List.rtake_eq_reverse_take_reverse, List.reverse_reverse, List.take_take]
    rw [Nat.min_eq_left (Nat.le_succ count)]

theorem forall₂_rtake {α β : Type} {relates : α → β → Prop} {items : List α} {others : List β}
    (related : List.Forall₂ relates items others) (count : Nat) :
    List.Forall₂ relates (items.rtake count) (others.rtake count) := by
  rw [List.rtake, List.rtake, related.length_eq]
  exact List.forall₂_drop _ related

theorem exists_of_forall₂ {α β : Type} {relates : α → β → Prop} {items : List α} {others : List β}
    (related : List.Forall₂ relates items others) {other : β} (member : other ∈ others) :
    ∃ item ∈ items, relates item other := by
  induction related with
  | nil => contradiction
  | cons here rest ih =>
    rcases List.mem_cons.1 member with rfl | member
    · exact ⟨_, List.mem_cons_self, here⟩
    · obtain ⟨item, among, found⟩ := ih member
      exact ⟨item, List.mem_cons_of_mem _ among, found⟩

theorem Window.keep_last {α : Type} (count : Int) (records : List α) :
    (Window.last count).keep records =
      (if count < 0 then .error .noRecordLeft else .ok (), records.rtake count.toNat) := by
  induction records with
  | nil => by_cases negative : count < 0 <;> simp [Window.keep, Window.isExceeded, negative]
  | cons record rest ih =>
    by_cases exceeded : count < (record :: rest).length
    next =>
      have dropped : (record :: rest).length - count.toNat = rest.length - count.toNat + 1 := by
        rw [List.length_cons] at exceeded ⊢
        omega
      simp only [Window.keep, Window.isExceeded, exceeded, decide_true, ih, List.rtake, dropped,
        List.drop_succ_cons]
    next =>
      have whole : (record :: rest).length - count.toNat = 0 := by omega
      have nonnegative : ¬ count < 0 := by omega
      simp only [Window.keep, Window.isExceeded, exceeded, decide_false, nonnegative, if_false,
        List.rtake, whole, List.drop_zero]

def Window.CanKeep : Window → Prop
  | last count => 0 ≤ count
  | everything => True
  | incomparable _ => False

theorem Window.exists_keep {α : Type} {window : Window} (canKeep : window.CanKeep)
    (records : List α) : ∃ kept, window.keep records = (.ok (), kept) := by
  cases window with
  | last count =>
    rw [keep_last, if_neg (Int.not_lt.2 canKeep)]
    exact ⟨_, rfl⟩
  | everything =>
    refine ⟨records, ?_⟩
    cases records <;> rfl
  | incomparable kind => exact canKeep.elim

variable {ν : Type}

structure Quantity.Averages (ν : Type) [Quantity ν] (bound : Nat) : Prop where
  plus : ∀ first second : ν, ∃ sum, Quantity.plus first second = .ok sum
  share : ∀ (total : ν) (count : Nat), ∃ part, Quantity.share total count = .ok part
  ratio : ∀ (total : Int) (count : Nat), 0 < count → 0 ≤ total → total ≤ (count * bound : Nat) →
    ∃ part : ν, Quantity.ratio total count = .ok part

structure Quantity.Unlimited (ν : Type) [Quantity ν] : Prop where
  plus : ∀ first second : ν, ∃ sum, Quantity.plus first second = .ok sum
  share : ∀ (total : ν) (count : Nat), ∃ part, Quantity.share total count = .ok part
  ratio : ∀ (total : Int) (count : Nat), ∃ part : ν, Quantity.ratio total count = .ok part

theorem Quantity.Unlimited.averages [Quantity ν] (unlimited : Unlimited ν) (bound : Nat) :
    Averages ν bound :=
  ⟨unlimited.plus, unlimited.share, fun total count _ _ _ => unlimited.ratio total count⟩

theorem Quantity.unlimited_rat : Unlimited Rat :=
  ⟨fun _ _ => ⟨_, rfl⟩, fun _ _ => ⟨_, rfl⟩, fun _ _ => ⟨_, rfl⟩⟩

theorem Quantity.averages_rat (bound : Nat) : Averages Rat bound := unlimited_rat.averages bound

namespace RecordStore

theorem idOf_injective {first second : Nat} (same : idOf first = idOf second) :
    first = second := by
  have digits := List.append_cancel_left same
  simp only [Text.ofNat, Nat.toList_repr] at digits
  simpa only [Nat.ofDigitChars_ten_toDigits] using
    congrArg (Nat.ofDigitChars 10 · 0) digits

theorem place_of_fresh {record : Record ν} {records : List (Record ν)}
    (fresh : ∀ other ∈ records, other.id ≠ record.id) : place record records = records ++ [record] := by
  induction records with
  | nil => rfl
  | cons other rest ih =>
    obtain ⟨apart, others⟩ := List.forall_mem_cons.1 fresh
    rw [place, if_neg (by simpa using apart), ih others]
    rfl

theorem createAs_last {store : RecordStore ν} {count : Int} (window : store.window = .last count)
    {id : Text} (fresh : ∀ record ∈ store.records, record.id ≠ id) (timestamp : Text)
    (resolved : Resolved ν) :
    store.createAs id timestamp resolved =
      (if count < 0 then .error .noRecordLeft else .ok (resolved.record id timestamp),
        { store with
          records := (store.records ++ [resolved.record id timestamp]).rtake count.toNat
          created := store.created + 1 }) := by
  have placed : place (resolved.record id timestamp) store.records = _ := place_of_fresh fresh
  simp only [createAs, placed, window, Window.keep_last]
  by_cases negative : count < 0 <;> simp [negative, Except.map]

theorem create_kept {store : RecordStore ν} (canKeep : store.window.CanKeep) (timestamp : Text)
    (resolved : Resolved ν) :
    ∃ record records, store.create timestamp resolved =
      (.ok record, { store with records, created := store.created + 1 }) := by
  let id := idOf (store.created + 1)
  obtain ⟨records, kept⟩ :=
    Window.exists_keep canKeep (place (resolved.record id timestamp) store.records)
  exact ⟨resolved.record id timestamp, records, by simp only [create, createAs, kept, Except.map, id]⟩

variable [Quantity ν]

theorem exists_total {bound : Nat} (averages : Quantity.Averages ν bound) (values : List ν) :
    ∃ sum, total values = .ok sum := by
  unfold total
  generalize (Quantity.zero : ν) = sum
  induction values generalizing sum with
  | nil => exact ⟨sum, rfl⟩
  | cons value rest ih =>
    obtain ⟨next, added⟩ := averages.plus sum value
    rw [List.foldlM_cons, added]
    exact ih next

theorem exists_average {bound : Nat} (averages : Quantity.Averages ν bound) (values : List ν) :
    ∃ mean, average values = .ok mean := by
  unfold average
  split
  next => exact ⟨_, rfl⟩
  next =>
    obtain ⟨sum, summed⟩ := exists_total averages values
    rw [summed]
    exact averages.share sum values.length

theorem averageInt_eq (values : List Int) :
    (averageInt values : Except Failure ν) =
      if values = [] then .ok Quantity.noShare else Quantity.ratio values.sum values.length := by
  simp only [averageInt, List.isEmpty_iff, List.sum_eq_foldl]

theorem sum_within {bound : Nat} {values : List Int}
    (within : ∀ value ∈ values, 0 ≤ value ∧ value ≤ bound) :
    0 ≤ values.sum ∧ values.sum ≤ (values.length * bound : Nat) := by
  induction values with
  | nil => simp
  | cons value rest ih =>
    obtain ⟨first, others⟩ := List.forall_mem_cons.1 within
    have later := ih others
    rw [List.sum_cons, List.length_cons, Nat.succ_mul]
    omega

theorem summary_eq (store : RecordStore ν) :
    store.summary = (do
      let averageLatency ← average (Sorting.sort Quantity.lt (store.records.map Record.latency))
      let averageIterations ← averageInt (store.records.map Record.iterations)
      return {
        totalRequests := store.records.length
        averageLatency
        latency95 := (Sorting.sort Quantity.lt (store.records.map Record.latency)).getD
          (place95 (Sorting.sort Quantity.lt (store.records.map Record.latency)).length)
          Quantity.noShare
        averageIterations
        totalMarkers := (store.records.map fun record => record.traces.length).sum
        failedMarkers := (store.records.map fun record => failures record.traces).sum
        cappedRequests := store.records.countP fun record =>
          record.endState == "capped".toList }) := by
  simp only [summary, failures, List.length_flatMap, List.countP_flatMap]
  rfl

structure Summarizes (records : List (Record ν)) (metrics : Metrics ν) : Prop where
  requests : metrics.totalRequests = records.length
  iterations : averageInt (records.map Record.iterations) = .ok metrics.averageIterations
  latency95 : metrics.latency95 =
    (Sorting.sort Quantity.lt (records.map Record.latency)).getD
      (place95 (Sorting.sort Quantity.lt (records.map Record.latency)).length) Quantity.noShare
  markers : metrics.totalMarkers = (records.map fun record => record.traces.length).sum
  failed : metrics.failedMarkers = (records.map fun record => failures record.traces).sum
  capped : metrics.cappedRequests =
    records.countP fun record => record.endState == "capped".toList

theorem summarizes_of_summary {store : RecordStore ν} {metrics : Metrics ν}
    (told : store.summary = .ok metrics) : Summarizes store.records metrics := by
  rw [summary_eq] at told
  cases latencies : average (Sorting.sort Quantity.lt (store.records.map Record.latency)) with
  | error failure =>
    rw [latencies] at told
    contradiction
  | ok averageLatency =>
    cases iterations : (averageInt (store.records.map Record.iterations) : Except Failure ν) with
    | error failure =>
      rw [latencies, iterations] at told
      contradiction
    | ok averageIterations =>
      rw [latencies, iterations] at told
      cases told
      exact ⟨rfl, iterations, rfl, rfl, rfl, rfl⟩

theorem summary_counts {store : RecordStore ν} {metrics : Metrics ν}
    (told : store.summary = .ok metrics) :
    metrics.totalMarkers = (store.records.map fun record => record.traces.length).sum ∧
      metrics.failedMarkers = (store.records.map fun record => failures record.traces).sum ∧
      metrics.cappedRequests =
        store.records.countP fun record => record.endState == "capped".toList :=
  have summarizes := summarizes_of_summary told
  ⟨summarizes.markers, summarizes.failed, summarizes.capped⟩

theorem exists_summary_of_ratio {store : RecordStore ν} {bound : Nat}
    (averages : Quantity.Averages ν bound)
    (ratio : store.records ≠ [] → ∃ mean : ν,
      Quantity.ratio (store.records.map Record.iterations).sum store.records.length = .ok mean) :
    ∃ metrics, store.summary = .ok metrics := by
  obtain ⟨averageLatency, latencies⟩ := exists_average averages
    (Sorting.sort Quantity.lt (store.records.map Record.latency))
  have iterations : ∃ mean : ν, averageInt (store.records.map Record.iterations) = .ok mean := by
    rw [averageInt_eq, List.length_map]
    split
    next => exact ⟨_, rfl⟩
    next some => exact ratio (by simpa using some)
  obtain ⟨averageIterations, iterations⟩ := iterations
  rw [summary_eq, latencies, iterations]
  exact ⟨_, rfl⟩

theorem exists_summary {store : RecordStore ν} {bound : Nat}
    (averages : Quantity.Averages ν bound)
    (within : ∀ record ∈ store.records, 0 ≤ record.iterations ∧ record.iterations ≤ bound) :
    ∃ metrics, store.summary = .ok metrics := by
  refine exists_summary_of_ratio averages fun some => ?_
  obtain ⟨nonnegative, bounded⟩ := sum_within (List.forall_mem_map.2 within)
  rw [List.length_map] at bounded
  exact averages.ratio _ _ (List.length_pos_iff.2 some) nonnegative bounded

end RecordStore

end DocMarkers
