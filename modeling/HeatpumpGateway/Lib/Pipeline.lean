import Mathlib.Data.List.ReduceOption

/-!
# Workers that fill a queue

A worker takes one item at a time from outside, has it in hand for a while, and puts it at
the end of a queue, which is emptied from the front. Any number of workers do so at once and
new ones are hired as one goes; nothing is said about whose turn it is.

What went in is what came out with what is still there. That is an equation of lists while
there is never more than one item in hand, and one up to order whatever the workers do: two
of them can overtake each other between taking and putting.
-/

variable {α : Type}

structure Pipeline (α : Type) where
  hands : List (Option α) := []
  queue : List α := []

namespace Pipeline

inductive Event (α : Type) where
  | input (x : α)
  | output (x : α)
  | silent

inductive Step : Pipeline α → Event α → Pipeline α → Prop
  | hire (p : Pipeline α) : Step p .silent { p with hands := p.hands ++ [none] }
  | take {p : Pipeline α} {i : Nat} (x : α) : p.hands[i]? = some none →
      Step p (.input x) { p with hands := p.hands.set i (some x) }
  | put {p : Pipeline α} {i : Nat} {x : α} : p.hands[i]? = some (some x) →
      Step p .silent { hands := p.hands.set i none, queue := p.queue ++ [x] }
  | get {p : Pipeline α} {x : α} {queue : List α} : p.queue = x :: queue →
      Step p (.output x) { p with queue := queue }

/-- Steps that end in states of which `P` holds. -/
inductive Steps (P : Pipeline α → Prop) : Pipeline α → List (Event α) → Pipeline α → Prop
  | refl (p : Pipeline α) : Steps P p [] p
  | step {p p' p'' : Pipeline α} {e : Event α} {es : List (Event α)} :
      Steps P p es p' → Step p' e p'' → P p'' → Steps P p (es ++ [e]) p''

def inputs (es : List (Event α)) : List α :=
  es.filterMap fun
    | .input x => some x
    | _ => none

def outputs (es : List (Event α)) : List α :=
  es.filterMap fun
    | .output x => some x
    | _ => none

@[simp] theorem inputs_nil : inputs ([] : List (Event α)) = [] := rfl
@[simp] theorem outputs_nil : outputs ([] : List (Event α)) = [] := rfl

@[simp] theorem inputs_append (es es' : List (Event α)) :
    inputs (es ++ es') = inputs es ++ inputs es' := List.filterMap_append

@[simp] theorem outputs_append (es es' : List (Event α)) :
    outputs (es ++ es') = outputs es ++ outputs es' := List.filterMap_append

/-- What the workers have in hand. -/
def held (p : Pipeline α) : List α := p.hands.reduceOption

/-! ## Hands that are filled and emptied -/

theorem reduceOption_set {hands : List (Option α)} {i : Nat} {old : Option α} (new : Option α)
    (h : hands[i]? = some old) : ∃ before after : List (Option α),
      hands.reduceOption = before.reduceOption ++ old.toList ++ after.reduceOption ∧
      (hands.set i new).reduceOption
        = before.reduceOption ++ new.toList ++ after.reduceOption := by
  obtain ⟨hlt, hget⟩ := List.getElem?_eq_some_iff.mp h
  obtain ⟨before, after, hold, _, hnew⟩ := @List.exists_of_set _ _ new hands hlt
  rw [hget] at hold
  refine ⟨before, after, ?_, ?_⟩
  · rw [hold, List.reduceOption_append]
    cases old <;> simp
  · rw [hnew, List.reduceOption_append]
    cases new <;> simp

theorem held_take {p : Pipeline α} {i : Nat} (x : α) (h : p.hands[i]? = some none) :
    (p.hands.set i (some x)).reduceOption.Perm (p.held ++ [x]) := by
  obtain ⟨before, after, hold, hnew⟩ := reduceOption_set (some x) h
  rw [held, hold, hnew, List.append_assoc, List.append_assoc, List.append_assoc]
  exact List.Perm.append_left _ List.perm_append_comm

theorem held_put {p : Pipeline α} {i : Nat} {x : α} (h : p.hands[i]? = some (some x)) :
    p.held.Perm ((p.hands.set i none).reduceOption ++ [x]) := by
  obtain ⟨before, after, hold, hnew⟩ := reduceOption_set none h
  rw [held, hold, hnew, List.append_assoc, List.append_assoc, List.append_assoc]
  exact List.Perm.append_left _ List.perm_append_comm

/-! ## Nothing is lost or doubled -/

theorem Step.conserved {p p' : Pipeline α} {e : Event α} (h : Step p e p') :
    (p.queue ++ p.held ++ inputs [e]).Perm (outputs [e] ++ p'.queue ++ p'.held) := by
  cases h with
  | hire =>
      refine List.Perm.of_eq ?_
      simp [held, inputs, outputs, List.reduceOption_append]
  | take x hnone =>
      rw [List.append_assoc]
      exact List.Perm.append_left _ (held_take x hnone).symm
  | put hsome =>
      refine (List.Perm.of_eq (List.append_nil _)).trans ?_
      refine (List.Perm.append_left _ ((held_put hsome).trans List.perm_append_comm)).trans ?_
      exact List.Perm.of_eq (List.append_assoc _ _ _).symm
  | get hqueue =>
      refine List.Perm.of_eq ?_
      rw [hqueue]
      exact List.append_nil _

variable {P : Pipeline α → Prop} {p p' : Pipeline α} {es : List (Event α)}

theorem Steps.conserved (h : Steps P p es p') :
    (p.queue ++ p.held ++ inputs es).Perm (outputs es ++ p'.queue ++ p'.held) := by
  induction h with
  | refl => exact List.Perm.of_eq (List.append_nil _)
  | @step p₁ p₂ e es _ hstep _ ih =>
      calc p.queue ++ p.held ++ inputs (es ++ [e])
          = p.queue ++ p.held ++ inputs es ++ inputs [e] := by
            rw [inputs_append, ← List.append_assoc]
        List.Perm _ (outputs es ++ p₁.queue ++ p₁.held ++ inputs [e]) := ih.append_right _
        _ = outputs es ++ (p₁.queue ++ p₁.held ++ inputs [e]) := by
            simp only [List.append_assoc]
        List.Perm _ (outputs es ++ (outputs [e] ++ p₂.queue ++ p₂.held)) :=
          hstep.conserved.append_left _
        _ = outputs (es ++ [e]) ++ p₂.queue ++ p₂.held := by
            simp only [outputs_append, List.append_assoc]

/-! ## One after another -/

/-- At most one item is in hand. -/
def Single (p : Pipeline α) : Prop := p.held.length ≤ 1

theorem held_eq_of_single (hsingle : p.Single) {x : α} {rest : List α}
    (h : p.held.Perm (rest ++ [x])) : p.held = [x] ∧ rest = [] := by
  have hlen := h.length_eq
  rw [List.length_append, List.length_singleton] at hlen
  have hrest : rest = [] := List.eq_nil_of_length_eq_zero (by unfold Single at hsingle; omega)
  rw [hrest] at h
  exact ⟨List.perm_singleton.mp h, hrest⟩

theorem Step.in_order {e : Event α} (h : Step p e p') (hp : p.Single) (hp' : p'.Single) :
    p.queue ++ p.held ++ inputs [e] = outputs [e] ++ p'.queue ++ p'.held := by
  cases h with
  | hire => simp [held, inputs, outputs, List.reduceOption_append]
  | @take i x hnone =>
      obtain ⟨hnew, hheld⟩ := held_eq_of_single hp' (held_take x hnone)
      rw [hheld, List.append_nil, hnew]
      rfl
  | @put i x hsome =>
      obtain ⟨hheld, hnew⟩ := held_eq_of_single hp (held_put hsome)
      rw [hheld, held, hnew, List.append_nil]
      exact List.append_nil _
  | get hqueue =>
      rw [hqueue]
      exact List.append_nil _

/-- First in, first out. -/
theorem Steps.in_order (h : Steps Single p es p') (hp : p.Single) :
    p.queue ++ p.held ++ inputs es = outputs es ++ p'.queue ++ p'.held ∧ p'.Single := by
  induction h with
  | refl => exact ⟨List.append_nil _, hp⟩
  | @step p₁ p₂ e es _ hstep hsingle ih =>
      obtain ⟨heq, hmid⟩ := ih
      refine ⟨?_, hsingle⟩
      calc p.queue ++ p.held ++ inputs (es ++ [e])
          = p.queue ++ p.held ++ inputs es ++ inputs [e] := by
            rw [inputs_append, ← List.append_assoc]
        _ = outputs es ++ (p₁.queue ++ p₁.held ++ inputs [e]) := by
            rw [heq]
            simp only [List.append_assoc]
        _ = outputs es ++ (outputs [e] ++ p₂.queue ++ p₂.held) := by
            rw [hstep.in_order hmid hsingle]
        _ = outputs (es ++ [e]) ++ p₂.queue ++ p₂.held := by
            simp only [outputs_append, List.append_assoc]

end Pipeline
