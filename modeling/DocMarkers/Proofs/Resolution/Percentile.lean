import DocMarkers.Proofs.Resolution.Records
import DocMarkers.Proofs.Sorting.Sort
import Mathlib.Algebra.Order.Ring.Rat
import Mathlib.Data.List.Nodup

set_option autoImplicit false

namespace DocMarkers

namespace Sorting

variable {α : Type} {lt : α → α → Bool}

-- The items up to a place of a sorted list do not come after the item there, and those from the place
-- on do not come before it.
theorem IsSorted.rank {items : List α} (order : IsWeakOrder lt) (sorted : IsSorted lt items)
    {place : Nat} {item : α} (found : items[place]? = some item) :
    place < items.countP (fun other => !lt item other) ∧
      items.countP (fun other => lt other item) ≤ place := by
  obtain ⟨inside, rfl⟩ := List.getElem?_eq_some_iff.1 found
  have split : items.take place ++ items[place] :: items.drop (place + 1) = items := by simp
  generalize items[place] = item at split
  rw [← split] at sorted ⊢
  obtain ⟨-, back, across⟩ := List.pairwise_append.1 sorted
  have length : (items.take place).length = place := by
    rw [List.length_take]
    omega
  have before : (items.take place).countP (fun other => !lt item other) = place := by
    refine (List.countP_eq_length.2 fun other member => ?_).trans length
    simpa using across other member item List.mem_cons_self
  have behind : (item :: items.drop (place + 1)).countP (fun other => lt other item) = 0 := by
    rw [List.countP_eq_zero]
    exact fun other member => by simpa using IsSorted.head_le order back other member
  have fewer := List.countP_le_length (p := fun other => lt other item) (l := items.take place)
  rw [List.countP_append, List.countP_append, before, behind, List.countP_cons,
    if_pos (by simpa using order.irrefl item)]
  omega

end Sorting

theorem Quantity.isWeakOrder_rat : Sorting.IsWeakOrder (Quantity.lt : Rat → Rat → Bool) where
  asymm {first second} before := by
    simp only [Quantity.lt, decide_eq_true_eq, decide_eq_false_iff_not] at before ⊢
    exact before.le.not_gt
  trans {first second third} before behind := by
    simp only [Quantity.lt, decide_eq_false_iff_not, not_lt] at before behind ⊢
    exact before.trans behind

namespace RecordStore

def within (records : List (Record Rat)) (latency : Rat) : Nat :=
  records.countP fun record => record.latency ≤ latency

def shorter (records : List (Record Rat)) (latency : Rat) : Nat :=
  records.countP fun record => record.latency < latency

def Covers95 (records : List (Record Rat)) (latency : Rat) : Prop :=
  95 * records.length ≤ 100 * within records latency

theorem within_eq (records : List (Record Rat)) (latency : Rat) :
    within records latency =
      (records.map Record.latency).countP fun other => !Quantity.lt latency other := by
  rw [List.countP_map]
  refine List.countP_congr fun record _ => ?_
  simp [Quantity.lt]

theorem shorter_eq (records : List (Record Rat)) (latency : Rat) :
    shorter records latency =
      (records.map Record.latency).countP fun other => Quantity.lt other latency := by
  rw [List.countP_map]
  rfl

theorem within_le_shorter {records : List (Record Rat)}
    (distinct : (records.map Record.latency).Nodup) (latency : Rat) :
    within records latency ≤ shorter records latency + 1 := by
  have once := List.nodup_iff_count_le_one.1 distinct latency
  have split : within records latency =
      shorter records latency + (records.map Record.latency).count latency := by
    rw [List.count, List.countP_map]
    clear distinct once
    induction records with
    | nil => rfl
    | cons record rest ih =>
      simp only [within, shorter, List.countP_cons] at ih ⊢
      rcases lt_trichotomy record.latency latency with before | same | after <;>
        grind
  omega

theorem latency95_place {records : List (Record Rat)} {metrics : Metrics Rat}
    (some : records ≠ []) (summarizes : Summarizes records metrics) :
    (∃ record ∈ records, record.latency = metrics.latency95) ∧
      place95 records.length < within records metrics.latency95 ∧
      shorter records metrics.latency95 ≤ place95 records.length := by
  have positive := List.length_pos_iff.2 some
  have perm := Sorting.sort_perm Quantity.lt (records.map Record.latency)
  have sorted := Sorting.sort_sorted Quantity.isWeakOrder_rat (records.map Record.latency)
  have told := summarizes.latency95
  have length := perm.length_eq
  rw [List.length_map] at length
  rw [length] at told
  generalize Sorting.sort Quantity.lt (records.map Record.latency) = latencies at *
  have inside : place95 records.length < latencies.length := by
    rw [length, place95]
    omega
  have found : latencies[place95 records.length]? = .some metrics.latency95 := by
    rw [told, List.getD_eq_getElem?_getD, List.getElem?_eq_getElem inside, Option.getD_some]
  have rank := sorted.rank Quantity.isWeakOrder_rat found
  rw [perm.countP_eq, perm.countP_eq, ← within_eq, ← shorter_eq] at rank
  obtain ⟨record, member, same⟩ := List.mem_map.1 (perm.mem_iff.1 (List.mem_of_getElem? found))
  exact ⟨⟨record, member, same⟩, rank⟩

theorem covers95_of_whole {records : List (Record Rat)} {metrics : Metrics Rat} (some : records ≠ [])
    (summarizes : Summarizes records metrics) (whole : records.length = 1 ∨ 20 ∣ records.length) :
    Covers95 records metrics.latency95 := by
  obtain ⟨-, reached, -⟩ := latency95_place some summarizes
  rw [place95] at reached
  rw [Covers95]
  omega

theorem whole_of_covers95 {records : List (Record Rat)} {metrics : Metrics Rat} (some : records ≠ [])
    (summarizes : Summarizes records metrics) (distinct : (records.map Record.latency).Nodup)
    (covered : Covers95 records metrics.latency95) : records.length = 1 ∨ 20 ∣ records.length := by
  obtain ⟨-, -, fewer⟩ := latency95_place some summarizes
  have few := within_le_shorter distinct metrics.latency95
  rw [place95] at fewer
  rw [Covers95] at covered
  omega

/-- The latency that is told as the 95th percentile is that of a record: the one at nineteen twentieths of
their number, rounded down. If there is one record, or a multiple of twenty, then ninety-five percent of
them took no longer. For no other number do as many, unless latencies are repeated. -/
theorem latency95_rank (store : RecordStore Rat) (some : store.records ≠ []) :
    ∃ metrics, store.summary = .ok metrics ∧
      (∃ record ∈ store.records, record.latency = metrics.latency95) ∧
      max 1 (19 * store.records.length / 20) ≤ within store.records metrics.latency95 ∧
      shorter store.records metrics.latency95 < max 1 (19 * store.records.length / 20) ∧
      (store.records.length = 1 ∨ 20 ∣ store.records.length →
        Covers95 store.records metrics.latency95) ∧
      ((store.records.map Record.latency).Nodup → Covers95 store.records metrics.latency95 →
        store.records.length = 1 ∨ 20 ∣ store.records.length) := by
  obtain ⟨metrics, told⟩ : ∃ metrics, store.summary = .ok metrics :=
    exists_summary_of_ratio (Quantity.unlimited_rat.averages 0) fun _ => Quantity.unlimited_rat.ratio _ _
  have summarizes := summarizes_of_summary told
  obtain ⟨held, reached, fewer⟩ := latency95_place some summarizes
  rw [place95] at reached fewer
  exact ⟨metrics, told, held, by omega, by omega, covers95_of_whole some summarizes,
    whole_of_covers95 some summarizes⟩

def recordOf (latency : Rat) : Record Rat where
  id := []
  timestamp := []
  inputPreview := []
  outputPreview := []
  iterations := 1
  endState := "fixpoint".toList
  traces := []
  unresolved := 0
  latency

def storeOf (latencies : List Rat) : RecordStore Rat := { records := latencies.map recordOf }

theorem latency95_rank_of_two :
    (storeOf [1, 2]).records ≠ [] ∧
      ∃ metrics, (storeOf [1, 2]).summary = .ok metrics ∧
        shorter (storeOf [1, 2]).records metrics.latency95 = 0 ∧
        ¬ Covers95 (storeOf [1, 2]).records metrics.latency95 := by
  have some : (storeOf [1, 2]).records ≠ [] := List.cons_ne_nil _ _
  obtain ⟨metrics, told, -, -, fewer, -, whole⟩ := latency95_rank (storeOf [1, 2]) some
  refine ⟨some, metrics, told, Nat.lt_one_iff.1 fewer, fun covered => ?_⟩
  exact absurd (whole (by decide) covered) (by decide)

-- One of two records takes longer than the 95th percentile of both.
theorem not_covers95 :
    ¬ ∀ store : RecordStore Rat, store.records ≠ [] →
      ∃ metrics, store.summary = .ok metrics ∧ Covers95 store.records metrics.latency95 ∧
        ∃ record ∈ store.records, record.latency = metrics.latency95 := by
  intro covers
  have some : (storeOf [1, 2]).records ≠ [] := List.cons_ne_nil _ _
  obtain ⟨metrics, told, covered, -⟩ := covers _ some
  exact absurd (whole_of_covers95 some (summarizes_of_summary told) (by decide) covered) (by decide)

end RecordStore

end DocMarkers
