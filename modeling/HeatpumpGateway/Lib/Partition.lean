import Mathlib.Data.List.Induction
import Mathlib.Data.List.Nodup

/-!
# A list split into groups

A list may hold equal entries, so what is split is its places: a part is a list of
places, and a group holds the entries at the places of its part. `Splits` says that the
parts have every place once, and that neither inside a group nor among the groups the
order of the list is changed.

The groups of a key, one for each of its values in the order in which they come up,
split a list in this sense (`splits_of_key`).
-/

namespace Partition

variable {α κ : Type}

/-- The entries at some places. -/
def entries (xs : List α) (part : List Nat) : List α := part.filterMap fun i => xs[i]?

/-- `groups` split `xs`: every place of `xs` is in one of `parts`, and once. -/
structure Splits (xs : List α) (groups : List (List α)) (parts : List (List Nat)) : Prop where
  groups_eq : groups = parts.map (entries xs)
  once : parts.flatten.Perm (List.range xs.length)
  ordered : ∀ part ∈ parts, part.Pairwise (· < ·)
  nonempty : ∀ part ∈ parts, part ≠ []
  firsts : parts.Pairwise fun part part' => part.headD 0 < part'.headD 0

theorem entries_findIdxs (p : α → Bool) (xs : List α) :
    entries xs (xs.findIdxs p) = xs.filter p := by
  induction xs using List.reverseRecOn with
  | nil => rfl
  | append_singleton xs x ih =>
      have hold : entries (xs ++ [x]) (xs.findIdxs p) = entries xs (xs.findIdxs p) := by
        refine List.filterMap_congr fun i hi => ?_
        exact List.getElem?_append_left (by simpa using List.lt_add_of_mem_findIdxs i hi)
      rw [List.findIdxs_append, List.findIdxs_singleton, List.filter_append, ← ih, ← hold]
      unfold entries
      rw [List.filterMap_append]
      cases hx : p x with
      | false => simp [hx]
      | true => simp [hx]

section key

variable [DecidableEq κ] {key : α → κ} {xs : List α} {k : κ}

/-- The places of the entries with a key. -/
def places (key : α → κ) (xs : List α) (k : κ) : List Nat :=
  xs.findIdxs fun x => key x = k

theorem mem_places {i : Nat} : i ∈ places key xs k ↔ xs[i]?.map key = some k := by
  rw [places, List.mem_findIdxs_iff_exists_getElem_pos]
  refine ⟨?_, ?_⟩
  · intro h
    obtain ⟨hi, hk⟩ := h
    rw [List.getElem?_eq_getElem hi, Option.map_some, of_decide_eq_true hk]
  · intro h
    obtain ⟨x, hx, hk⟩ := Option.map_eq_some_iff.mp h
    obtain ⟨hi, rfl⟩ := List.getElem?_eq_some_iff.mp hx
    exact ⟨hi, decide_eq_true hk⟩

/-- The first of them is where the key comes up. -/
theorem places_headD (h : k ∈ xs.map key) :
    places key xs k ≠ [] ∧ (places key xs k).headD 0 = xs.findIdx fun x => key x = k := by
  have hne : places key xs k ≠ [] := by
    obtain ⟨i, hi⟩ := List.mem_iff_getElem?.mp h
    rw [List.getElem?_map] at hi
    exact List.ne_nil_of_mem (mem_places.mpr hi)
  have hpos : 0 < (places key xs k).length := List.length_pos_iff.mpr hne
  refine ⟨hne, ?_⟩
  rw [List.headD_eq_head?_getD, List.head?_eq_getElem?, List.getElem?_eq_getElem hpos,
    Option.getD_some]
  exact List.getElem_zero_findIdxs_eq_findIdx hpos

/-- The groups of a key split the list, if each value of the key has one and they stand
in the order in which the values come up. -/
theorem splits_of_key {ks : List κ} (hmem : ∀ k, k ∈ ks ↔ k ∈ xs.map key)
    (hfirst : ks.Pairwise fun k k' =>
      (xs.findIdx fun x => key x = k) < xs.findIdx fun x => key x = k') :
    Splits xs (ks.map fun k => xs.filter fun x => key x = k) (ks.map (places key xs)) where
  groups_eq := by
    rw [List.map_map]
    exact List.map_congr_left fun k _ => (entries_findIdxs _ xs).symm
  once := by
    have hnd : (ks.map (places key xs)).flatten.Nodup := by
      rw [List.nodup_flatten, List.pairwise_map]
      refine ⟨?_, ?_⟩
      · intro part hpart
        obtain ⟨k, _, rfl⟩ := List.mem_map.mp hpart
        exact List.nodup_findIdxs
      · refine hfirst.imp fun {k k'} hlt i hi hi' => ?_
        rw [mem_places] at hi hi'
        rw [Option.some.inj (hi.symm.trans hi')] at hlt
        exact Nat.lt_irrefl _ hlt
    refine (List.perm_ext_iff_of_nodup hnd List.nodup_range).mpr fun i => ?_
    rw [List.mem_range, List.mem_flatten]
    refine ⟨?_, ?_⟩
    · intro h
      obtain ⟨part, hpart, hi⟩ := h
      obtain ⟨k, _, rfl⟩ := List.mem_map.mp hpart
      obtain ⟨x, hx, _⟩ := Option.map_eq_some_iff.mp (mem_places.mp hi)
      exact (List.getElem?_eq_some_iff.mp hx).1
    · intro hi
      have hk : key xs[i] ∈ ks := (hmem _).mpr (List.mem_map_of_mem (List.getElem_mem hi))
      refine ⟨_, List.mem_map_of_mem hk, mem_places.mpr ?_⟩
      rw [List.getElem?_eq_getElem hi, Option.map_some]
  ordered := by
    intro part hpart
    obtain ⟨k, _, rfl⟩ := List.mem_map.mp hpart
    exact List.pairwise_findIdxs
  nonempty := by
    intro part hpart
    obtain ⟨k, hk, rfl⟩ := List.mem_map.mp hpart
    exact (places_headD ((hmem k).mp hk)).1
  firsts := by
    rw [List.pairwise_map]
    refine hfirst.imp_of_mem fun {k k'} hk hk' hlt => ?_
    rw [(places_headD ((hmem k).mp hk)).2, (places_headD ((hmem k').mp hk')).2]
    exact hlt

end key

end Partition
