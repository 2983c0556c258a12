import HeatpumpGateway.Lib.Dialogue

/-!
# What programs cost

Every exchange has a price, and what a program spends along a path is the sum of the prices
(`spent`). `Spends price p n` says that no path of `p` spends more than `n`; the rules take it
through sequences and handlers, whatever the answers are.
-/

variable {Op : Type} {Ans : Op → Type} {ε α β : Type}

namespace Dialogue

/-- The price of a series of exchanges. -/
def spent (price : Event Op Ans → Nat) : List (Event Op Ans) → Nat
  | [] => 0
  | ev :: tr => price ev + spent price tr

@[simp] theorem spent_nil (price : Event Op Ans → Nat) : spent price [] = 0 := rfl

@[simp] theorem spent_cons (price : Event Op Ans → Nat) (ev : Event Op Ans)
    (tr : List (Event Op Ans)) : spent price (ev :: tr) = price ev + spent price tr := rfl

@[simp] theorem spent_append (price : Event Op Ans → Nat) (tr tr' : List (Event Op Ans)) :
    spent price (tr ++ tr') = spent price tr + spent price tr' := by
  induction tr with
  | nil => simp
  | cons ev tr ih =>
    simp only [List.cons_append, spent_cons, ih]
    omega

/-- No path spends more than `n`. -/
def Spends (price : Event Op Ans → Nat) (p : Dialogue Op Ans ε α) (n : Nat) : Prop :=
  ∀ tr r, Path p tr r → spent price tr ≤ n

namespace Spends

variable {price : Event Op Ans → Nat} {m n : Nat}

theorem ret (a : α) : Spends price (.ret a : Dialogue Op Ans ε α) n := by
  intro tr r h
  obtain ⟨rfl, _⟩ := Path.ret_iff.mp h
  simp

theorem raise (e : ε) : Spends price (.raise e : Dialogue Op Ans ε α) n := by
  intro tr r h
  obtain ⟨rfl, _⟩ := Path.raise_iff.mp h
  simp

theorem ofExcept (x : Except ε α) : Spends price (ofExcept x : Dialogue Op Ans ε α) n := by
  cases x with
  | ok a => exact ret a
  | error e => exact raise e

/-- After its first exchange a program may have a share that depends on the answer. -/
theorem ask {o : Op} {k : Ans o → Dialogue Op Ans ε α}
    (h : ∀ a, ∃ m, price ⟨o, a⟩ + m ≤ n ∧ Spends price (k a) m) : Spends price (.ask o k) n := by
  intro tr r hp
  obtain ⟨a, tr', rfl, hrest⟩ := Path.ask_iff.mp hp
  obtain ⟨m, hm, hk⟩ := h a
  have hspent := hk tr' r hrest
  simp only [spent_cons]
  omega

/-- Each part spends its own share, the second after what the first can return. -/
theorem bind_path {p : Dialogue Op Ans ε α} {f : α → Dialogue Op Ans ε β} (hp : Spends price p m)
    (hf : ∀ a tr, Path p tr (.ok a) → Spends price (f a) n) : Spends price (p >>= f) (m + n) := by
  intro tr r h
  rcases Path.bind_iff.mp h with ⟨e, _, hfirst⟩ | ⟨a, tr₁, tr₂, rfl, hfirst, hsecond⟩
  · have hspent := hp tr _ hfirst
    omega
  · have hspent := hp tr₁ _ hfirst
    have hspent' := hf a tr₁ hfirst tr₂ r hsecond
    simp only [spent_append]
    omega

theorem bind {p : Dialogue Op Ans ε α} {f : α → Dialogue Op Ans ε β} (hp : Spends price p m)
    (hf : ∀ a, Spends price (f a) n) : Spends price (p >>= f) (m + n) :=
  hp.bind_path fun a _ _ => hf a

/-- What comes after without exchanges is free. -/
theorem bind_free {p : Dialogue Op Ans ε α} {f : α → Dialogue Op Ans ε β} (hp : Spends price p n)
    (hf : ∀ a, Spends price (f a) 0) : Spends price (p >>= f) n :=
  hp.bind hf

theorem ofExcept_bind {x : Except ε α} {f : α → Dialogue Op Ans ε β}
    (hf : ∀ a, x = .ok a → Spends price (f a) n) : Spends price (Dialogue.ofExcept x >>= f) n := by
  cases x with
  | ok a => exact hf a rfl
  | error e => exact raise e

theorem handle {p : Dialogue Op Ans ε α} {h : ε → Dialogue Op Ans ε α} (hp : Spends price p m)
    (hh : ∀ e, Spends price (h e) n) : Spends price (p.handle h) (m + n) := by
  intro tr r hpath
  rcases Path.handle_iff.mp hpath with ⟨a, _, hbody⟩ | ⟨e, tr₁, tr₂, rfl, hbody, hrest⟩
  · have hspent := hp tr _ hbody
    omega
  · have hspent := hp tr₁ _ hbody
    have hspent' := hh e tr₂ r hrest
    simp only [spent_append]
    omega

end Spends

end Dialogue
