import Mathlib.Data.List.Basic
import Mathlib.Data.List.Nodup

/-!
# Dictionaries that remember their order

A dictionary with the behaviour of a scripting language's: a key that is set
again keeps its place, a new key goes to the end, and listing the dictionary
shows the keys in that order. Lookups are `List.lookup`; the file proves how
`set` and `update` look to them and to the list of keys.
-/

/-- The entries, in the order their keys were first set. -/
abbrev Dict (κ ν : Type) := List (κ × ν)

namespace Dict

variable {κ ν : Type} [DecidableEq κ]

/-- The value of a key. -/
def get? (d : Dict κ ν) (k : κ) : Option ν := d.lookup k

/-- The keys, in order. -/
def keys (d : Dict κ ν) : List κ := d.map Prod.fst

/-- The values, in the order of their keys. -/
def values (d : Dict κ ν) : List ν := d.map Prod.snd

/-- `d[k] = v`. -/
def set : Dict κ ν → κ → ν → Dict κ ν
  | [], k, v => [(k, v)]
  | (k', v') :: d, k, v => if k' = k then (k', v) :: d else (k', v') :: set d k v

/-- `d.update(e)`. -/
def update (d e : Dict κ ν) : Dict κ ν :=
  e.foldl (fun d kv => d.set kv.1 kv.2) d

/-- `{k: v for k, v in pairs}`. -/
def ofPairs (pairs : List (κ × ν)) : Dict κ ν := update [] pairs

@[simp] theorem get?_nil (k : κ) : get? ([] : Dict κ ν) k = none := rfl

theorem get?_cons (k' k : κ) (v : ν) (d : Dict κ ν) :
    get? ((k', v) :: d) k = if k' = k then some v else get? d k := by
  unfold get?
  rw [List.lookup_cons]
  by_cases h : k' = k
  · rw [if_pos h, beq_iff_eq.mpr h.symm]
  · rw [if_neg h, beq_false_of_ne (Ne.symm h)]

theorem get?_set (d : Dict κ ν) (k k' : κ) (v : ν) :
    (d.set k v).get? k' = if k = k' then some v else d.get? k' := by
  induction d with
  | nil => rw [set, get?_cons]
  | cons kv d ih =>
      obtain ⟨k₀, v₀⟩ := kv
      rw [set]
      by_cases h : k₀ = k
      · subst h
        rw [if_pos rfl, get?_cons, get?_cons]
        split <;> rfl
      · rw [if_neg h, get?_cons, get?_cons, ih]
        by_cases h' : k₀ = k'
        · subst h'
          rw [if_pos rfl, if_neg (Ne.symm h), if_pos rfl]
        · rw [if_neg h', if_neg h']

@[simp] theorem get?_set_self (d : Dict κ ν) (k : κ) (v : ν) :
    (d.set k v).get? k = some v := by
  rw [get?_set, if_pos rfl]

theorem get?_set_ne (d : Dict κ ν) {k k' : κ} (h : k ≠ k') (v : ν) :
    (d.set k v).get? k' = d.get? k' := by
  rw [get?_set, if_neg h]

omit [DecidableEq κ] in
@[simp] theorem keys_nil : keys ([] : Dict κ ν) = [] := rfl

omit [DecidableEq κ] in
@[simp] theorem keys_cons (kv : κ × ν) (d : Dict κ ν) :
    keys (kv :: d : Dict κ ν) = kv.1 :: keys d := rfl

theorem keys_set (d : Dict κ ν) (k : κ) (v : ν) :
    (d.set k v).keys = if k ∈ d.keys then d.keys else d.keys ++ [k] := by
  induction d with
  | nil => rfl
  | cons kv d ih =>
      obtain ⟨k₀, v₀⟩ := kv
      rw [set]
      by_cases h : k₀ = k
      · subst h
        simp
      · rw [if_neg h, keys_cons, ih, keys_cons]
        have hk : (k ∈ k₀ :: keys d) ↔ k ∈ keys d := by
          simp [List.mem_cons, Ne.symm h]
        by_cases hm : k ∈ keys d
        · rw [if_pos hm, if_pos (hk.mpr hm)]
        · rw [if_neg hm, if_neg (fun hc => hm (hk.mp hc))]
          rfl

/-- A fresh key goes to the end. -/
theorem set_of_not_mem {d : Dict κ ν} {k : κ} (h : k ∉ d.keys) (v : ν) :
    d.set k v = d ++ [(k, v)] := by
  induction d with
  | nil => rfl
  | cons kv d ih =>
      obtain ⟨k₀, v₀⟩ := kv
      rw [keys_cons, List.mem_cons, not_or] at h
      rw [set, if_neg (Ne.symm h.1), ih h.2]
      rfl

/-- A value that is there already. -/
theorem set_of_get? {d : Dict κ ν} {k : κ} {v : ν} (h : d.get? k = some v) : d.set k v = d := by
  induction d with
  | nil => cases h
  | cons kv d ih =>
      obtain ⟨k₀, v₀⟩ := kv
      rw [get?_cons] at h
      rw [set]
      split at h
      · next heq =>
          cases h
          rw [if_pos heq]
      · next hne => rw [if_neg hne, ih h]

/-- The value that is set last counts. -/
theorem set_set (d : Dict κ ν) (k : κ) (v v' : ν) : (d.set k v).set k v' = d.set k v' := by
  induction d with
  | nil => exact if_pos rfl
  | cons kv d ih =>
      obtain ⟨k₀, v₀⟩ := kv
      by_cases heq : k₀ = k
      · rw [set, if_pos heq, set, if_pos heq, set, if_pos heq]
      · rw [set, if_neg heq, set, if_neg heq, set, if_neg heq, ih]

/-- Updating with fresh, distinct keys appends them. -/
theorem update_of_fresh (e : Dict κ ν) :
    ∀ d : Dict κ ν, e.keys.Nodup → (∀ k ∈ e.keys, k ∉ d.keys) →
      d.update e = d ++ e := by
  induction e with
  | nil => intro d _ _; simp [update]
  | cons kv e ih =>
      intro d hnd hfresh
      rw [keys_cons, List.nodup_cons] at hnd
      have hk : kv.1 ∉ d.keys := hfresh kv.1 (by simp)
      have hstep : d.update (kv :: e) = (d.set kv.1 kv.2).update e := rfl
      rw [hstep, set_of_not_mem hk, ih (d ++ [kv]) hnd.2]
      · simp
      · intro k hke hkd
        rw [keys, List.map_append, List.mem_append] at hkd
        rcases hkd with hkd | hkd
        · exact hfresh k (by simp [hke]) hkd
        · obtain rfl : k = kv.1 := by simpa using hkd
          exact hnd.1 hke

theorem ofPairs_of_nodup {pairs : List (κ × ν)} (h : (pairs.map Prod.fst).Nodup) :
    ofPairs pairs = pairs := by
  rw [ofPairs, update_of_fresh pairs [] h (by simp)]
  rfl

theorem get?_eq_some_of_mem {d : Dict κ ν} (hnd : d.keys.Nodup) {k : κ} {v : ν}
    (h : (k, v) ∈ d) : d.get? k = some v := by
  induction d with
  | nil => cases h
  | cons kv d ih =>
      obtain ⟨k₀, v₀⟩ := kv
      rw [keys_cons, List.nodup_cons] at hnd
      rw [get?_cons]
      rcases List.mem_cons.mp h with heq | hmem
      · cases heq
        rw [if_pos rfl]
      · have hne : k₀ ≠ k := by
          intro hc
          obtain rfl := hc
          exact hnd.1 (show k₀ ∈ keys d from List.mem_map_of_mem (f := Prod.fst) hmem)
        rw [if_neg hne, ih hnd.2 hmem]

theorem get?_map {μ : Type} (f : ν → μ) (d : Dict κ ν) (k : κ) :
    get? (d.map fun kv => (kv.1, f kv.2)) k = (d.get? k).map f := by
  induction d with
  | nil => rfl
  | cons kv d ih =>
      obtain ⟨k₀, v₀⟩ := kv
      rw [List.map_cons, get?_cons, get?_cons, ih]
      split <;> rfl

theorem set_map {μ : Type} (f : ν → μ) (d : Dict κ ν) (k : κ) (v : ν) :
    (d.set k v).map (fun kv => (kv.1, f kv.2)) = set (d.map fun kv => (kv.1, f kv.2)) k (f v) := by
  induction d with
  | nil => rfl
  | cons kv d ih =>
      obtain ⟨k₀, v₀⟩ := kv
      rw [set, List.map_cons, set]
      split
      · rfl
      · rw [List.map_cons, ih]

/-- Values may be mapped before or after they are put into a dictionary. -/
theorem update_map {μ : Type} (f : ν → μ) (pairs : List (κ × ν)) : ∀ d : Dict κ ν,
    (update d pairs).map (fun kv => (kv.1, f kv.2))
      = update (d.map fun kv => (kv.1, f kv.2)) (pairs.map fun kv => (kv.1, f kv.2)) := by
  induction pairs with
  | nil => intro d; rfl
  | cons kv pairs ih =>
      intro d
      exact (ih (d.set kv.1 kv.2)).trans (congrArg (update · _) (set_map f d kv.1 kv.2))

theorem mem_of_get? {d : Dict κ ν} {k : κ} {v : ν} (h : d.get? k = some v) :
    (k, v) ∈ d := by
  induction d with
  | nil => simp at h
  | cons kv d ih =>
      obtain ⟨k₀, v₀⟩ := kv
      rw [get?_cons] at h
      split at h
      · next heq => cases h; simp [heq]
      · next => exact List.mem_cons_of_mem _ (ih h)

/-- An updated dictionary holds the last value it was updated with, or what it held. -/
theorem get?_update_last (e : Dict κ ν) {k : κ} {v : ν} :
    ∀ {d : Dict κ ν}, (d.update e).get? k = some v →
      (∃ front back, e = front ++ (k, v) :: back ∧ k ∉ keys back) ∨
        (k ∉ e.keys ∧ d.get? k = some v) := by
  induction e with
  | nil => intro d h; exact .inr ⟨List.not_mem_nil, h⟩
  | cons kv e ih =>
      intro d h
      rcases ih (d := d.set kv.1 kv.2) h with ⟨front, back, rfl, hback⟩ | ⟨hno, hget⟩
      · exact .inl ⟨kv :: front, back, rfl, hback⟩
      · rw [get?_set] at hget
        split at hget
        · next heq =>
            cases heq
            cases hget
            exact .inl ⟨[], e, rfl, hno⟩
        · next hne =>
            refine .inr ⟨?_, hget⟩
            rw [keys_cons, List.mem_cons, not_or]
            exact ⟨Ne.symm hne, hno⟩

theorem get?_update_cases (e : Dict κ ν) {k : κ} {v : ν} {d : Dict κ ν}
    (h : (d.update e).get? k = some v) : (k, v) ∈ e ∨ d.get? k = some v := by
  rcases get?_update_last e h with ⟨front, back, rfl, _⟩ | ⟨_, hget⟩
  · exact .inl (List.mem_append_right _ List.mem_cons_self)
  · exact .inr hget

theorem get?_ofPairs_last {pairs : List (κ × ν)} {k : κ} {v : ν}
    (h : (ofPairs pairs).get? k = some v) :
    ∃ front back, pairs = front ++ (k, v) :: back ∧ k ∉ keys back := by
  rcases get?_update_last pairs h with hlast | ⟨_, hget⟩
  · exact hlast
  · cases hget

omit [DecidableEq κ] in
theorem mem_keys {d : Dict κ ν} {k : κ} : k ∈ d.keys ↔ ∃ v, (k, v) ∈ d := by
  simp [keys]

/-- The keys of an updated dictionary. -/
theorem mem_keys_update (e : Dict κ ν) {k : κ} :
    ∀ {d : Dict κ ν}, k ∈ (d.update e).keys ↔ k ∈ d.keys ∨ k ∈ e.keys := by
  induction e with
  | nil => intro d; simp [update]
  | cons kv e ih =>
      intro d
      have hstep : d.update (kv :: e) = (d.set kv.1 kv.2).update e := rfl
      rw [hstep, ih, keys_set, keys_cons, List.mem_cons]
      split
      · next hmem =>
          refine ⟨fun h => h.imp_right .inr, fun h => ?_⟩
          rcases h with h | rfl | h
          · exact .inl h
          · exact .inl hmem
          · exact .inr h
      · rw [List.mem_append, List.mem_singleton, or_assoc]

theorem mem_of_mem_set {d : Dict κ ν} {k : κ} {v : ν} {kv : κ × ν} (h : kv ∈ d.set k v) :
    kv = (k, v) ∨ kv ∈ d := by
  induction d with
  | nil => exact .inl (List.mem_singleton.mp h)
  | cons kv' d ih =>
      rw [set] at h
      split at h
      · next heq =>
          rcases List.mem_cons.mp h with rfl | hmem
          · exact .inl (by rw [heq])
          · exact .inr (List.mem_cons_of_mem _ hmem)
      · rcases List.mem_cons.mp h with rfl | hmem
        · exact .inr List.mem_cons_self
        · exact (ih hmem).imp_right (List.mem_cons_of_mem _)

/-- An entry of an updated dictionary is one it was updated with, or one it had. -/
theorem mem_of_mem_update (e : Dict κ ν) {kv : κ × ν} :
    ∀ {d : Dict κ ν}, kv ∈ d.update e → kv ∈ e ∨ kv ∈ d := by
  induction e with
  | nil => intro d h; exact .inr h
  | cons kv' e ih =>
      intro d h
      rcases ih (d := d.set kv'.1 kv'.2) h with hmem | hmem
      · exact .inl (List.mem_cons_of_mem _ hmem)
      · rcases mem_of_mem_set hmem with rfl | hmem
        · exact .inl List.mem_cons_self
        · exact .inr hmem

theorem mem_of_get?_ofPairs {pairs : List (κ × ν)} {k : κ} {v : ν}
    (h : (ofPairs pairs).get? k = some v) : (k, v) ∈ pairs := by
  rcases get?_update_cases pairs h with hmem | hnil
  · exact hmem
  · cases hnil

theorem exists_get?_of_mem_keys {d : Dict κ ν} {k : κ} (h : k ∈ d.keys) :
    ∃ v, d.get? k = some v := by
  induction d with
  | nil => cases h
  | cons kv d ih =>
      obtain ⟨k₀, v₀⟩ := kv
      rw [get?_cons]
      split
      · exact ⟨v₀, rfl⟩
      · next hne =>
          rcases List.mem_cons.mp h with heq | hmem
          · exact absurd heq.symm hne
          · exact ih hmem

theorem get?_eq_none_iff {d : Dict κ ν} {k : κ} : d.get? k = none ↔ k ∉ d.keys := by
  refine ⟨fun h hc => ?_, fun h => ?_⟩
  · obtain ⟨v, hv⟩ := exists_get?_of_mem_keys hc
    rw [h] at hv
    cases hv
  · cases hvalue : d.get? k with
    | none => rfl
    | some v => exact absurd (List.mem_map_of_mem (mem_of_get? hvalue)) h

/-- A key that only ever has one value has it in the end. -/
theorem get?_ofPairs_of_forall {pairs : List (κ × ν)} {k : κ} {v : ν} (h : (k, v) ∈ pairs)
    (hall : ∀ v', (k, v') ∈ pairs → v' = v) : (ofPairs pairs).get? k = some v := by
  have hkey : k ∈ (ofPairs pairs).keys :=
    (mem_keys_update pairs).mpr (.inr (mem_keys.mpr ⟨v, h⟩))
  obtain ⟨v', hv'⟩ := exists_get?_of_mem_keys hkey
  rw [hv', hall v' (mem_of_get?_ofPairs hv')]

/-- A dictionary of the places of some keys goes on as one when a new key is appended. -/
theorem index_append {keys : List κ} {d : Dict κ Nat}
    (h : ∀ k i, d.get? k = some i ↔ keys[i]? = some k) {k : κ} (hnew : d.get? k = none) (k' : κ)
    (i : Nat) : (d.set k keys.length).get? k' = some i ↔ (keys ++ [k])[i]? = some k' := by
  rw [get?_set, List.getElem?_append]
  by_cases heq : k = k'
  · subst heq
    rw [if_pos rfl, Option.some_inj]
    split
    · next hlt =>
        have hfresh : keys[i]? ≠ some k := fun hi => by
          rw [(h k i).mpr hi] at hnew
          cases hnew
        exact iff_of_false (by omega) hfresh
    · next hge =>
        rw [List.getElem?_singleton]
        split
        · exact iff_of_true (by omega) rfl
        · exact iff_of_false (by omega) (by simp)
  · rw [if_neg heq]
    split
    · exact h k' i
    · next hge =>
        have hout : keys[i]? = none := List.getElem?_eq_none (Nat.le_of_not_lt hge)
        refine iff_of_false (by rw [h, hout]; simp) fun hi => ?_
        rw [List.getElem?_singleton] at hi
        split at hi
        · exact heq (Option.some.inj hi)
        · cases hi

end Dict
