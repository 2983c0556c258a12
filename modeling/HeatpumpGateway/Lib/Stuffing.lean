import Mathlib.Data.List.Basic

/-!
# Stuffing symbols into a stream

A stuffed stream follows some of its symbols by a mark, so that a terminator
built from the same alphabet cannot be met by accident. The codec is given by
`mark`: `mark x = some y` says that `x` travels as `x y`.

Two facts carry every use. Reading back in one scan undoes the stuffing for any
marks whatever (`unstuff_stuff`), and two scans that replace one pair each are
that one scan as soon as their pairs cannot overlap (`collapse_collapse`). When
the escape symbol `e` is its own mark, runs of `e` in stuffed text have even
length, so the terminator `e z` is the only place where a `z` follows an odd run
of `e` (`not_ends_prefix`, `ends_stuff`).
-/

namespace Stuffing

variable {α : Type} [DecidableEq α]

/-- Every symbol, followed by its mark when it has one. -/
def stuff (mark : α → Option α) : List α → List α
  | [] => []
  | x :: xs => x :: ((mark x).toList ++ stuff mark xs)

/-- One scan from the left that drops the mark after a marked symbol. -/
def unstuff (mark : α → Option α) : List α → List α
  | x :: y :: xs =>
      if mark x = some y then x :: unstuff mark xs else x :: unstuff mark (y :: xs)
  | xs => xs

/-- One scan from the left that replaces every `a b` by `a`. -/
def collapse (a b : α) : List α → List α
  | x :: y :: xs =>
      if x = a ∧ y = b then a :: collapse a b xs else x :: collapse a b (y :: xs)
  | xs => xs

section codec

variable {mark : α → Option α}

omit [DecidableEq α] in
@[simp] theorem stuff_nil : stuff mark [] = [] := rfl

omit [DecidableEq α] in
theorem stuff_cons (x : α) (xs : List α) :
    stuff mark (x :: xs) = x :: ((mark x).toList ++ stuff mark xs) := rfl

omit [DecidableEq α] in
theorem stuff_length_le (xs : List α) : (stuff mark xs).length ≤ 2 * xs.length := by
  induction xs with
  | nil => simp
  | cons x xs ih =>
      have hx : (mark x).toList.length ≤ 1 := by cases mark x <;> simp
      simp only [stuff_cons, List.length_cons, List.length_append]
      omega

omit [DecidableEq α] in
theorem length_le_stuff (xs : List α) : xs.length ≤ (stuff mark xs).length := by
  induction xs with
  | nil => simp
  | cons x xs ih =>
      simp only [stuff_cons, List.length_cons, List.length_append]
      omega

theorem unstuff_cons_unmarked {x : α} (hx : mark x = none) (xs : List α) :
    unstuff mark (x :: xs) = x :: unstuff mark xs := by
  cases xs with
  | nil => rfl
  | cons y ys => rw [unstuff, if_neg (by simp [hx])]

theorem unstuff_cons_marked {x y : α} (hx : mark x = some y) (xs : List α) :
    unstuff mark (x :: y :: xs) = x :: unstuff mark xs := by
  rw [unstuff, if_pos hx]

omit [DecidableEq α] in
theorem stuff_append (xs ys : List α) :
    stuff mark (xs ++ ys) = stuff mark xs ++ stuff mark ys := by
  induction xs with
  | nil => rfl
  | cons x xs ih => rw [List.cons_append, stuff_cons, ih, stuff_cons, List.cons_append,
      List.append_assoc]

/-- What follows a stuffed text is read on its own. -/
theorem unstuff_stuff_append (xs ys : List α) :
    unstuff mark (stuff mark xs ++ ys) = xs ++ unstuff mark ys := by
  induction xs with
  | nil => rfl
  | cons x xs ih =>
      cases hx : mark x with
      | none =>
          rw [stuff_cons, hx]
          simp only [Option.toList_none, List.nil_append, List.cons_append]
          rw [unstuff_cons_unmarked hx, ih]
      | some y =>
          rw [stuff_cons, hx]
          simp only [Option.toList_some, List.cons_append, List.nil_append]
          rw [unstuff_cons_marked hx, ih]

/-- The scan undoes the stuffing, whatever the marks are. -/
theorem unstuff_stuff (xs : List α) : unstuff mark (stuff mark xs) = xs := by
  have h := @unstuff_stuff_append α _ mark xs []
  have hend : unstuff mark ([] : List α) = [] := rfl
  rwa [List.append_nil, hend, List.append_nil] at h

omit [DecidableEq α] in
/-- A place of a stuffed text is that of a symbol or of a symbol's mark. -/
theorem stuff_place (xs : List α) : ∀ {j : Nat}, j < (stuff mark xs).length →
    ∃ pre x post, xs = pre ++ x :: post ∧
      (j = (stuff mark pre).length ∨
        ∃ m, mark x = some m ∧ j = (stuff mark pre).length + 1) := by
  induction xs with
  | nil => intro j hj; cases hj
  | cons x xs ih =>
      intro j hj
      rw [stuff_cons, List.length_cons, List.length_append] at hj
      match j, hj with
      | 0, _ => exact ⟨[], x, xs, rfl, .inl rfl⟩
      | j + 1, hj =>
          by_cases hmark : j < (mark x).toList.length
          · cases hx : mark x with
            | none =>
                rw [hx] at hmark
                cases hmark
            | some m =>
                rw [hx, Option.toList_some, List.length_singleton] at hmark
                obtain rfl : j = 0 := by omega
                exact ⟨[], x, xs, rfl, .inr ⟨m, hx, rfl⟩⟩
          · obtain ⟨pre, x', post, rfl, hplace⟩ := @ih (j - (mark x).toList.length) (by omega)
            refine ⟨x :: pre, x', post, rfl, ?_⟩
            rw [stuff_cons, List.length_cons, List.length_append]
            rcases hplace with hplace | ⟨m, hm, hplace⟩
            · exact .inl (by omega)
            · exact .inr ⟨m, hm, by omega⟩

end codec

/-! ## Two scans against one -/

theorem collapse_cons_ne {a b x : α} (hx : x ≠ a) (xs : List α) :
    collapse a b (x :: xs) = x :: collapse a b xs := by
  cases xs with
  | nil => rfl
  | cons y ys => rw [collapse, if_neg (fun h => hx h.1)]

theorem collapse_cons_pair (a b : α) (xs : List α) :
    collapse a b (a :: b :: xs) = a :: collapse a b xs := by
  rw [collapse, if_pos ⟨rfl, rfl⟩]

theorem collapse_cons_next_ne {a b y : α} (hy : y ≠ b) (x : α) (xs : List α) :
    collapse a b (x :: y :: xs) = x :: collapse a b (y :: xs) := by
  rw [collapse, if_neg (fun h => hy h.2)]

/-- A scan keeps the head of what it reads. -/
theorem collapse_cons_head (a b x : α) (xs : List α) :
    ∃ ys, collapse a b (x :: xs) = x :: ys := by
  cases xs with
  | nil => exact ⟨[], rfl⟩
  | cons y ys =>
      rw [collapse]
      split <;> rename_i h
      · exact ⟨_, by rw [h.1]⟩
      · exact ⟨_, rfl⟩

/-- The marks of a codec with a doubled escape `e` and one more pair `s t`. -/
def doubled (e s t : α) (x : α) : Option α :=
  if x = e then some e else if x = s then some t else none

/-- Replacing `e e` first and `s t` after that is one scan with both marks, on
any text at all, as long as the second pair has no `e` in it. -/
theorem collapse_collapse {e s t : α} (hs : s ≠ e) (ht : t ≠ e) (xs : List α) :
    collapse s t (collapse e e xs) = unstuff (doubled e s t) xs := by
  induction xs using unstuff.induct (doubled e s t) with
  | case1 x y xs hxy ih =>
      rw [unstuff_cons_marked hxy]
      by_cases hx : x = e
      · obtain rfl : e = y := by simpa [doubled, hx] using hxy
        subst hx
        rw [collapse_cons_pair, collapse_cons_ne hs.symm, ih]
      · have hxs : x = s := by
          by_contra hne
          simp [doubled, hx, hne] at hxy
        subst hxs
        obtain rfl : t = y := by simpa [doubled, hx] using hxy
        rw [collapse_cons_ne hx, collapse_cons_ne ht, collapse_cons_pair, ih]
  | case2 x y xs hxy ih =>
      rw [unstuff, if_neg hxy]
      by_cases hx : x = e
      · subst hx
        have hy : y ≠ x := fun hy => hxy (by simp [doubled, hy])
        rw [collapse_cons_next_ne hy, collapse_cons_ne hs.symm, ih]
      · rw [collapse_cons_ne hx]
        by_cases hxs : x = s
        · subst hxs
          have hy : y ≠ t := fun hy => hxy (by simp [doubled, hx, hy])
          obtain ⟨ys, hys⟩ := collapse_cons_head e e y xs
          rw [hys] at ih ⊢
          rw [collapse_cons_next_ne hy, ih]
        · rw [collapse_cons_ne hxs, ih]
  | case3 xs hxs =>
      match xs, hxs with
      | [], _ => rfl
      | [x], _ => rfl
      | x :: y :: ys, h => exact absurd rfl (h x y ys)

/-! ## The terminator -/

/-- How many `e` the text ends in. -/
def trailing (e : α) (xs : List α) : Nat :=
  (xs.reverse.takeWhile (· = e)).length

@[simp] theorem trailing_nil (e : α) : trailing e [] = 0 := rfl

theorem trailing_concat (e : α) (xs : List α) (x : α) :
    trailing e (xs ++ [x]) = if x = e then trailing e xs + 1 else 0 := by
  unfold trailing
  rw [List.reverse_append, List.reverse_singleton, List.singleton_append]
  by_cases h : x = e <;> simp [h]

/-- The text ends in `z` after an odd run of `e`. -/
def Ends (e z : α) (xs : List α) : Prop :=
  ∃ ys, xs = ys ++ [z] ∧ trailing e ys % 2 = 1

omit [DecidableEq α] in
theorem concat_eq_concat {xs ys : List α} {x y : α} (h : xs ++ [x] = ys ++ [y]) :
    xs = ys ∧ x = y := by
  obtain ⟨h₁, h₂⟩ := List.append_inj' h rfl
  exact ⟨h₁, List.singleton_inj.mp h₂⟩

theorem ends_concat_iff {e z x : α} {xs : List α} :
    Ends e z (xs ++ [x]) ↔ x = z ∧ trailing e xs % 2 = 1 := by
  refine ⟨?_, ?_⟩
  · intro hc
    obtain ⟨ys, h, hodd⟩ := hc
    obtain ⟨rfl, rfl⟩ := concat_eq_concat h
    exact ⟨rfl, hodd⟩
  · intro hc
    obtain ⟨rfl, hodd⟩ := hc
    exact ⟨xs, rfl, hodd⟩

section terminator

variable {mark : α → Option α} {e z : α}

/-- Stuffing keeps the runs of `e` even. -/
theorem trailing_append_stuff (he : mark e = some e)
    (hne : ∀ x, x ≠ e → mark x ≠ some e) (ps : List α) :
    ∀ hdr : List α, trailing e hdr % 2 = 0 →
      trailing e (hdr ++ stuff mark ps) % 2 = 0 := by
  induction ps with
  | nil => intro hdr hpar; simpa using hpar
  | cons x ps ih =>
      intro hdr hpar
      have hsplit : hdr ++ stuff mark (x :: ps)
          = (hdr ++ x :: (mark x).toList) ++ stuff mark ps := by
        simp [stuff_cons]
      rw [hsplit]
      refine ih _ ?_
      cases hx : mark x with
      | none =>
          have hxe : x ≠ e := fun h => by simp [h, he] at hx
          rw [Option.toList_none, trailing_concat, if_neg hxe]
      | some y =>
          rw [Option.toList_some, show hdr ++ [x, y] = (hdr ++ [x]) ++ [y] by simp,
            trailing_concat, trailing_concat]
          by_cases hxe : x = e
          · obtain rfl : e = y := by simpa [hxe, he] using hx
            rw [if_pos rfl, if_pos hxe]
            omega
          · rw [if_neg (fun h : y = e => hne x hxe (by rw [hx, h]))]

/-- A stuffed text with its terminator does end in the terminator. -/
theorem ends_stuff (he : mark e = some e) (hne : ∀ x, x ≠ e → mark x ≠ some e)
    {hdr : List α} (hpar : trailing e hdr % 2 = 0) (ps : List α) :
    Ends e z (hdr ++ stuff mark ps ++ [e, z]) := by
  rw [show hdr ++ stuff mark ps ++ [e, z] = (hdr ++ stuff mark ps ++ [e]) ++ [z] by simp]
  rw [ends_concat_iff, trailing_concat, if_pos rfl]
  have := trailing_append_stuff he hne ps hdr hpar
  exact ⟨rfl, by omega⟩

/-- No shorter prefix that reaches past the header does. -/
theorem not_ends_prefix (he : mark e = some e)
    (hne : ∀ x, x ≠ e → mark x ≠ some e) (hz : z ≠ e) (ps : List α) :
    ∀ (hdr : List α) (n : Nat), trailing e hdr % 2 = 0 → hdr.length < n →
      n < (hdr ++ stuff mark ps ++ [e, z]).length →
      ¬ Ends e z ((hdr ++ stuff mark ps ++ [e, z]).take n) := by
  induction ps with
  | nil =>
      intro hdr n _ hlo hhi
      obtain rfl : n = hdr.length + 1 := by simp at hhi; omega
      rw [stuff_nil, List.append_nil, List.take_length_add_append]
      show ¬ Ends e z (hdr ++ [e])
      rw [ends_concat_iff]
      exact fun h => hz h.1.symm
  | cons x ps ih =>
      intro hdr n hpar hlo hhi
      have hsplit : hdr ++ stuff mark (x :: ps) ++ [e, z]
          = (hdr ++ x :: (mark x).toList) ++ stuff mark ps ++ [e, z] := by
        simp [stuff_cons]
      have hpar' : trailing e (hdr ++ x :: (mark x).toList) % 2 = 0 := by
        have := trailing_append_stuff he hne [x] hdr hpar
        simpa [stuff_cons] using this
      rw [hsplit] at hhi ⊢
      by_cases hn : (hdr ++ x :: (mark x).toList).length < n
      · exact ih _ n hpar' hn hhi
      · -- The prefix stops inside the block of `x`: after `x`, or after its mark.
        have hx1 : ∀ rest : List α, ¬ Ends e z ((hdr ++ x :: rest).take (hdr.length + 1)) := by
          intro rest
          rw [List.take_length_add_append]
          show ¬ Ends e z (hdr ++ [x])
          rw [ends_concat_iff]
          intro hc
          obtain ⟨_, hodd⟩ := hc
          omega
        cases hx : mark x with
        | none =>
            obtain rfl : n = hdr.length + 1 := by simp [hx] at hn; omega
            simpa using hx1 (stuff mark ps ++ [e, z])
        | some y =>
            rcases Nat.lt_or_ge (hdr.length + 1) n with h2 | h1
            · obtain rfl : n = hdr.length + 2 := by simp [hx] at hn; omega
              rw [show hdr ++ x :: (some y).toList ++ stuff mark ps ++ [e, z]
                  = (hdr ++ [x, y]) ++ (stuff mark ps ++ [e, z]) by simp]
              rw [show hdr.length + 2 = (hdr ++ [x, y]).length by simp, List.take_left,
                show hdr ++ [x, y] = (hdr ++ [x]) ++ [y] by simp, ends_concat_iff,
                trailing_concat]
              intro hc
              obtain ⟨rfl, hodd⟩ := hc
              by_cases hxe : x = e
              · exact hz (by simpa [hxe, he] using hx.symm)
              · rw [if_neg hxe] at hodd
                omega
            · obtain rfl : n = hdr.length + 1 := by omega
              simpa using hx1 (y :: (stuff mark ps ++ [e, z]))

end terminator

end Stuffing
