import Mathlib.Data.List.Basic

/-!
# Computations that may fail

`Except` as sequences of steps: when a sequence succeeds, when it fails and with
what, and what a fold of failing steps keeps. The two `bind` rules take a
computation apart from the front; the fold rules say that a step whose success
depends on its item alone makes the whole fold a conjunction, and that steps which
may be swapped two by two may be taken in any order. The last rules compare two
computations up to a map of what they return.
-/

namespace Fallible

variable {ε α β : Type}

@[simp] theorem pure_eq (a : α) : (pure a : Except ε α) = .ok a := rfl

@[simp] theorem ok_bind (a : α) (f : α → Except ε β) : (Except.ok a >>= f) = f a := rfl

@[simp] theorem error_bind (e : ε) (f : α → Except ε β) :
    (Except.error e >>= f) = .error e := rfl

theorem bind_eq_ok {x : Except ε α} {f : α → Except ε β} {b : β} :
    (x >>= f) = .ok b ↔ ∃ a, x = .ok a ∧ f a = .ok b := by
  cases x with
  | error e => simp
  | ok a => simp

theorem bind_eq_error {x : Except ε α} {f : α → Except ε β} {e : ε} :
    (x >>= f) = .error e ↔ x = .error e ∨ ∃ a, x = .ok a ∧ f a = .error e := by
  cases x with
  | error e' => simp
  | ok a => simp

theorem bind_succeeds_iff {x : Except ε α} {f : α → Except ε β} :
    (∃ b, (x >>= f) = .ok b) ↔ ∃ a, x = .ok a ∧ ∃ b, f a = .ok b := by
  cases x with
  | error e => simp
  | ok a => simp

theorem toOption_eq_some {x : Except ε α} {a : α} : x.toOption = some a ↔ x = .ok a := by
  cases x with
  | error e => simp [Except.toOption]
  | ok a => simp [Except.toOption]

theorem toOption_bind (x : Except ε α) (f : α → Except ε β) :
    (x >>= f).toOption = x.toOption.bind fun a => (f a).toOption := by
  cases x with
  | error e => rfl
  | ok a => rfl

theorem map_eq_ok {x : Except ε α} {f : α → β} {b : β} :
    x.map f = .ok b ↔ ∃ a, x = .ok a ∧ f a = b := by
  cases x with
  | error e => simp [Except.map]
  | ok a => simp [Except.map]

theorem map_eq_error {x : Except ε α} {f : α → β} {e : ε} :
    x.map f = .error e ↔ x = .error e := by
  cases x with
  | error e' => simp [Except.map]
  | ok a => simp [Except.map]

/-- What every step keeps, the fold keeps. -/
theorem foldlM_invariant {f : β → α → Except ε β} {I : β → Prop}
    (hstep : ∀ {b a b'}, I b → f b a = .ok b' → I b') (xs : List α) :
    ∀ {b b'}, I b → xs.foldlM f b = .ok b' → I b' := by
  induction xs with
  | nil =>
      intro b b' hb h
      cases h
      exact hb
  | cons x xs ih =>
      intro b b' hb h
      rw [List.foldlM_cons] at h
      obtain ⟨c, hc, h⟩ := bind_eq_ok.mp h
      exact ih (hstep hb hc) h

/-- A fold fails as one of its steps does, from a state that the steps before it reach. -/
theorem foldlM_error_of {f : β → α → Except ε β} {I : β → Prop} {Q : ε → Prop}
    (hkeep : ∀ {b a b'}, I b → f b a = .ok b' → I b')
    (hstep : ∀ {b a e}, I b → f b a = .error e → Q e) (xs : List α) :
    ∀ {b e}, I b → xs.foldlM f b = .error e → Q e := by
  induction xs with
  | nil =>
      intro b e _ h
      cases h
  | cons x xs ih =>
      intro b e hb h
      rw [List.foldlM_cons] at h
      rcases bind_eq_error.mp h with hx | ⟨c, hc, hrest⟩
      · exact hstep hb hx
      · exact ih (hkeep hb hc) hrest

theorem foldlM_error {f : β → α → Except ε β} {Q : ε → Prop}
    (hstep : ∀ {b a e}, f b a = .error e → Q e) (xs : List α) {b : β} {e : ε}
    (h : xs.foldlM f b = .error e) : Q e :=
  foldlM_error_of (I := fun _ => True) (fun _ _ => trivial) (fun _ => hstep) xs trivial h

/-- Where the steps succeed on their items alone, the fold succeeds on all of them. -/
theorem foldlM_succeeds_iff {f : β → α → Except ε β} {I : β → Prop} {P : α → Prop}
    (hok : ∀ {b a}, I b → ((∃ b', f b a = .ok b') ↔ P a))
    (hstep : ∀ {b a b'}, I b → f b a = .ok b' → I b') (xs : List α) :
    ∀ {b}, I b → ((∃ b', xs.foldlM f b = .ok b') ↔ ∀ x ∈ xs, P x) := by
  induction xs with
  | nil =>
      intro b _
      simp
  | cons x xs ih =>
      intro b hb
      rw [List.foldlM_cons]
      refine ⟨?_, ?_⟩
      · intro hc
        obtain ⟨b', h⟩ := hc
        obtain ⟨c, hc, h⟩ := bind_eq_ok.mp h
        intro y hy
        rcases List.mem_cons.mp hy with rfl | hy
        · exact (hok hb).mp ⟨c, hc⟩
        · exact (ih (hstep hb hc)).mp ⟨b', h⟩ y hy
      · intro h
        obtain ⟨c, hc⟩ := (hok hb).mpr (h x List.mem_cons_self)
        obtain ⟨b', hb'⟩ := (ih (hstep hb hc)).mpr fun y hy => h y (List.mem_cons_of_mem _ hy)
        exact ⟨b', bind_eq_ok.mpr ⟨c, hc, hb'⟩⟩

/-- Where any two steps may be swapped, the whole fold may be taken in any order. -/
theorem foldlM_perm {f : β → α → Except ε β} {I : β → Prop}
    (hstep : ∀ {b a b'}, I b → f b a = .ok b' → I b') {xs ys : List α} (hperm : xs.Perm ys) :
    (∀ x ∈ xs, ∀ y ∈ xs, ∀ {b}, I b → (f b x >>= (f · y)) = (f b y >>= (f · x))) →
      ∀ {b}, I b → xs.foldlM f b = ys.foldlM f b := by
  induction hperm with
  | nil => intro _ b _; rfl
  | cons x _ ih =>
      intro hswap b hb
      rw [List.foldlM_cons, List.foldlM_cons]
      cases hx : f b x with
      | error e => rfl
      | ok c =>
          exact ih (fun y hy z hz => hswap y (List.mem_cons_of_mem _ hy) z
            (List.mem_cons_of_mem _ hz)) (hstep hb hx)
  | swap x y xs =>
      intro hswap b hb
      have hboth := hswap y List.mem_cons_self x (List.mem_cons_of_mem _ List.mem_cons_self) hb
      simp only [List.foldlM_cons, ← bind_assoc]
      rw [hboth]
  | trans hxy _ ih₁ ih₂ =>
      intro hswap b hb
      rw [ih₁ hswap hb]
      exact ih₂ (fun x hx y hy => hswap x (hxy.mem_iff.mpr hx) y (hxy.mem_iff.mpr hy)) hb

/-- A map of the last part's result is one of the whole's. -/
theorem bind_map {γ : Type} {g : β → γ} (x : Except ε α) {f : α → Except ε β}
    {f' : α → Except ε γ} (h : ∀ a, f' a = (f a).map g) : (x >>= f') = (x >>= f).map g := by
  cases x with
  | error e => rfl
  | ok a => exact h a

/-- Sequences end alike up to `g` where what comes after their first part does. -/
theorem bind_map_congr {γ : Type} {g : β → γ} (x : Except ε α) {f f' : α → Except ε β}
    (h : ∀ a, (f a).map g = (f' a).map g) : (x >>= f).map g = (x >>= f').map g := by
  cases x with
  | error e => rfl
  | ok a => exact h a

/-- So do series, item by item. -/
theorem mapM_map_congr {γ : Type} {f : α → Except ε β} {g : β → γ} {xs ys : List α}
    (h : List.Forall₂ (fun x y => (f x).map g = (f y).map g) xs ys) :
    (xs.mapM f).map (List.map g) = (ys.mapM f).map (List.map g) := by
  induction h with
  | nil => rfl
  | @cons x y xs ys hfirst _ ih =>
      rw [List.mapM_cons, List.mapM_cons]
      cases hx : f x with
      | error e =>
          rw [hx] at hfirst
          rw [map_eq_error.mp hfirst.symm]
          rfl
      | ok b =>
          rw [hx] at hfirst
          obtain ⟨b', hy, hb⟩ := map_eq_ok.mp hfirst.symm
          rw [hy, ok_bind, ok_bind]
          cases hxs : xs.mapM f with
          | error e =>
              rw [hxs] at ih
              rw [map_eq_error.mp ih.symm]
              rfl
          | ok bs =>
              rw [hxs] at ih
              obtain ⟨bs', hys, hbs⟩ := map_eq_ok.mp ih.symm
              rw [hys]
              exact congrArg Except.ok (congrArg₂ List.cons hb.symm hbs.symm)

/-- Items and states may be mapped before a fold or its result after it. -/
theorem foldlM_hom {α' β' : Type} {f : β → α → Except ε β} {f' : β' → α' → Except ε β'}
    {g : β → β'} {k : α → α'} (h : ∀ b a, f' (g b) (k a) = (f b a).map g) (xs : List α) :
    ∀ b, (xs.map k).foldlM f' (g b) = (xs.foldlM f b).map g := by
  induction xs with
  | nil => intro b; rfl
  | cons x xs ih =>
      intro b
      rw [List.map_cons, List.foldlM_cons, List.foldlM_cons, h]
      cases f b x with
      | error e => rfl
      | ok c => exact ih c

end Fallible
