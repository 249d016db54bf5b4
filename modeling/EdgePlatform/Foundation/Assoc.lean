import Mathlib.Data.List.Nodup

/-!
# `Foundation.Assoc` — maps as lists of entries

A map without duplicate keys, as the list of its entries: what `List.lookup` finds is what the list holds.
-/

namespace Foundation

variable {α β : Type} [BEq α] [LawfulBEq α] {l : List (α × β)} {a : α} {b : β}

theorem mem_of_lookup (h : l.lookup a = some b) : (a, b) ∈ l := by
  obtain ⟨l₁, l₂, rfl, -⟩ := List.lookup_eq_some_iff.mp h
  simp

theorem lookup_of_mem (hnodup : (l.map Prod.fst).Nodup) (h : (a, b) ∈ l) : l.lookup a = some b := by
  obtain ⟨l₁, l₂, rfl⟩ := List.append_of_mem h
  refine List.lookup_eq_some_iff.mpr ⟨l₁, l₂, rfl, fun p hp => ?_⟩
  rw [List.map_append, List.map_cons, List.nodup_append] at hnodup
  have hne : p.1 ≠ a := hnodup.2.2 p.1 (List.mem_map_of_mem hp) a (.head _)
  simpa using hne.symm

end Foundation
