import Mathlib.Data.List.Perm.Basic
import Mathlib.Tactic

/-!
# Lists of pairs as tables

Looking up a key in a list of pairs finds the first pair with that key.  Where no key
occurs twice the order of the pairs makes no difference.
-/

namespace Conformance

section

variable {α β : Type} [BEq α] [LawfulBEq α] {key : α} {value : β}

theorem isSome_lookup_iff {entries : List (α × β)} :
    (entries.lookup key).isSome ↔ key ∈ entries.map Prod.fst := by
  rw [List.lookup_isSome_iff, List.mem_map]
  simp only [beq_iff_eq]
  exact exists_congr fun entry => and_congr_right fun _ => eq_comm

theorem lookup_eq_some_iff {entries : List (α × β)} (hkeys : (entries.map Prod.fst).Nodup) :
    entries.lookup key = some value ↔ (key, value) ∈ entries := by
  induction entries with
  | nil => simp
  | cons entry rest ih =>
      obtain ⟨first, content⟩ := entry
      rw [List.map_cons, List.nodup_cons] at hkeys
      by_cases hkey : key = first
      · subst hkey
        have hrest : (key, value) ∉ rest := fun hmem =>
          hkeys.1 (List.mem_map.mpr ⟨_, hmem, rfl⟩)
        simp [hrest, eq_comm]
      · have hhere : (key == first) = false := beq_false_of_ne hkey
        rw [List.lookup_cons, hhere, List.mem_cons, ← ih hkeys.2]
        simp [hkey]

theorem lookup_eq_of_perm {first second : List (α × β)} (hperm : first.Perm second)
    (hkeys : (second.map Prod.fst).Nodup) : first.lookup key = second.lookup key := by
  have hkeys' : (first.map Prod.fst).Nodup := (hperm.map Prod.fst).nodup_iff.mpr hkeys
  ext value
  rw [lookup_eq_some_iff hkeys, lookup_eq_some_iff hkeys', hperm.mem_iff]

end

end Conformance
