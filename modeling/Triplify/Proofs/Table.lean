import Triplify.Registry
/-!
# Results and tables

A result of two steps is a result of each of them. A table is a list of keys and values in which the first
entry of a key counts.
-/

namespace Triplify

/-- What succeeds in two steps succeeds in each of them. -/
theorem of_bind_ok {ε α β : Type} {r : Except ε α} {k : α → Except ε β} {b : β}
    (h : r >>= k = .ok b) : ∃ a, r = .ok a ∧ k a = .ok b := by
  cases r with
  | ok a => exact ⟨a, rfl, h⟩
  | error e => cases h

variable {κ α : Type} [BEq κ] [LawfulBEq κ] [DecidableEq κ]

/-- Of the entries whose keys pass a test, those are found whose keys pass it. -/
theorem lookup_filter (test : κ → Bool) (entries : List (κ × α)) (key : κ) :
    (entries.filter fun entry => test entry.1).lookup key =
      if test key then entries.lookup key else none := by
  induction entries with
  | nil => simp
  | cons entry rest ih =>
    obtain ⟨first, value⟩ := entry
    by_cases hkey : key = first
    · subst hkey
      cases htest : test key <;> simp [htest, ih]
    · have hother : (key == first) = false := by simpa using hkey
      cases htest : test first <;> simp [htest, List.lookup_cons, hother, ih]

/-- Without the entries of one key, all others are still found. -/
theorem lookup_filter_ne (entries : List (κ × α)) (key other : κ) :
    (entries.filter fun entry => entry.1 ≠ key).lookup other =
      if other = key then none else entries.lookup other := by
  rw [lookup_filter (fun k => decide (k ≠ key)) entries other]
  by_cases h : other = key <;> simp [h]

/-- If no key has two entries, it does not matter which comes first. -/
theorem lookup_eq_some_iff_mem {entries : List (κ × α)} (h : (entries.map Prod.fst).Nodup) {key : κ}
    {value : α} : entries.lookup key = some value ↔ (key, value) ∈ entries := by
  induction entries with
  | nil => simp
  | cons entry rest ih =>
    obtain ⟨hnew, hrest⟩ := List.nodup_cons.1 h
    rw [List.lookup_cons, List.mem_cons]
    by_cases hkey : key = entry.1
    · subst hkey
      have hnone : (entry.1, value) ∉ rest := fun hmem => hnew (List.mem_map.2 ⟨_, hmem, rfl⟩)
      simp [hnone, Prod.ext_iff, eq_comm]
    · have hother : (key == entry.1) = false := by simpa using hkey
      have hne : (key, value) ≠ entry := fun heq => hkey (congrArg Prod.fst heq)
      rw [hother]
      simp [hne, ih hrest]

theorem lookup_perm {entries entries' : List (κ × α)} (hperm : entries.Perm entries')
    (h : (entries.map Prod.fst).Nodup) (key : κ) : entries'.lookup key = entries.lookup key := by
  have h' := ((hperm.map Prod.fst).nodup_iff).1 h
  apply Option.ext
  intro value
  rw [lookup_eq_some_iff_mem h', lookup_eq_some_iff_mem h, hperm.mem_iff]

omit [DecidableEq κ] in
theorem isSome_lookup_iff {entries : List (κ × α)} {key : κ} :
    (entries.lookup key).isSome ↔ key ∈ entries.map Prod.fst := by
  rw [List.lookup_isSome_iff, List.mem_map]
  simp only [beq_iff_eq, @eq_comm _ key]

end Triplify
