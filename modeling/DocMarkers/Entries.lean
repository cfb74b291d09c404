set_option autoImplicit false

namespace DocMarkers

abbrev Entries (κ α : Type) := List (κ × α)

namespace Entries

variable {κ α : Type} [BEq κ]

def put (entries : Entries κ α) (key : κ) (value : α) : Entries κ α :=
  match entries with
  | [] => [(key, value)]
  | entry :: rest =>
    if entry.1 == key then (entry.1, value) :: rest else entry :: put rest key value

def ofPairs (pairs : List (κ × α)) : Entries κ α :=
  pairs.foldl (fun entries pair => entries.put pair.1 pair.2) []

def get? (entries : Entries κ α) (key : κ) : Option α :=
  match entries with
  | [] => none
  | entry :: rest => if entry.1 == key then some entry.2 else get? rest key

def erase (entries : Entries κ α) (key : κ) : Entries κ α :=
  entries.filter fun entry => !(entry.1 == key)

theorem erase_of_get?_eq_none {entries : Entries κ α} {key : κ} (missing : entries.get? key = none) :
    entries.erase key = entries := by
  induction entries with
  | nil => rfl
  | cons entry rest ih =>
    unfold get? at missing
    split at missing
    next => contradiction
    next apart =>
      have kept := ih missing
      simp only [erase, List.filter_cons] at kept ⊢
      simp [apart, kept]

section Lawful

variable [LawfulBEq κ]

theorem get?_put_self (entries : Entries κ α) (key : κ) (value : α) :
    (entries.put key value).get? key = some value := by
  fun_induction put entries key value <;> simp_all [get?]

theorem get?_put_of_ne {key other : κ} (apart : other ≠ key) (entries : Entries κ α) (value : α) :
    (entries.put key value).get? other = entries.get? other := by
  fun_induction put entries key value <;> simp_all [get?, Ne.symm apart]

theorem get?_erase_self (entries : Entries κ α) (key : κ) :
    (entries.erase key).get? key = none := by
  induction entries with
  | nil => rfl
  | cons entry rest ih =>
    simp only [erase, List.filter_cons] at ih ⊢
    split
    next kept => simpa [get?, show (entry.1 == key) = false by simpa using kept] using ih
    next => exact ih

theorem get?_erase_of_ne {key other : κ} (apart : other ≠ key) (entries : Entries κ α) :
    (entries.erase key).get? other = entries.get? other := by
  induction entries with
  | nil => rfl
  | cons entry rest ih =>
    simp only [erase, List.filter_cons] at ih ⊢
    split
    next => simp only [get?, ih]
    next dropped =>
      have same : entry.1 = key := by simpa using dropped
      simp [get?, same, Ne.symm apart, ih]

theorem mem_put {entries : Entries κ α} {key : κ} {value : α} {entry : κ × α}
    (member : entry ∈ entries.put key value) : entry ∈ entries ∨ entry = (key, value) := by
  fun_induction put entries key value <;> simp_all <;> grind

end Lawful

end Entries

end DocMarkers
