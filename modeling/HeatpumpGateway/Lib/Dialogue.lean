/-!
# Programs that talk to an environment

A `Dialogue` is a program that may put requests to its surroundings and go on
with whatever it is answered. It ends in a value or in an exception, and it is
an ordinary inductive tree, so every such program stops whatever it is told.

Two readings of one tree are used. `Path` leaves the environment open: a path
is a list of requests with the answers they got, and a property of every path
is a property against every behaviour of the surroundings, the spiteful ones
included. `run` closes it with an `Environment`, a state machine that answers.
`path_run` says the second is an instance of the first, and `Follows` keeps the
environment's state in view along a path, so that a run can be taken apart where
its path is.

The two tables of equations, `Path.*_iff` and `run_*`, are what proofs about
programs use; nothing outside this file opens the tree.
-/

variable {Op : Type} {Ans : Op → Type} {ε α β γ σ : Type}

/-- A program over requests `Op`, each answered in its own type. -/
inductive Dialogue (Op : Type) (Ans : Op → Type) (ε α : Type) : Type where
  | ret (a : α)
  | raise (e : ε)
  | ask (o : Op) (k : Ans o → Dialogue Op Ans ε α)

namespace Dialogue

/-- Sequencing: the exception of the first part ends the whole. -/
def bind : Dialogue Op Ans ε α → (α → Dialogue Op Ans ε β) → Dialogue Op Ans ε β
  | ret a, f => f a
  | raise e, _ => raise e
  | ask o k, f => ask o fun a => bind (k a) f

/-- `try ... except`: the handler sees the exceptions of the body, not its own. -/
def handle : Dialogue Op Ans ε α → (ε → Dialogue Op Ans ε α) → Dialogue Op Ans ε α
  | ret a, _ => ret a
  | raise e, h => h e
  | ask o k, h => ask o fun a => handle (k a) h

instance : Monad (Dialogue Op Ans ε) where
  pure := ret
  bind := bind

instance : MonadExcept ε (Dialogue Op Ans ε) where
  throw := raise
  tryCatch := handle

/-- A computation without requests, as a program. -/
def ofExcept : Except ε α → Dialogue Op Ans ε α
  | .ok a => ret a
  | .error e => raise e

@[simp] theorem pure_eq (a : α) :
    (pure a : Dialogue Op Ans ε α) = ret a := rfl

@[simp] theorem throw_eq (e : ε) :
    (throw e : Dialogue Op Ans ε α) = raise e := rfl

@[simp] theorem ret_bind (a : α) (f : α → Dialogue Op Ans ε β) :
    (ret a >>= f) = f a := rfl

@[simp] theorem raise_bind (e : ε) (f : α → Dialogue Op Ans ε β) :
    (raise e >>= f) = raise e := rfl

@[simp] theorem ask_bind (o : Op) (k : Ans o → Dialogue Op Ans ε α)
    (f : α → Dialogue Op Ans ε β) :
    (ask o k >>= f) = ask o fun a => k a >>= f := rfl

@[simp] theorem ofExcept_ok (a : α) :
    (ofExcept (.ok a) : Dialogue Op Ans ε α) = ret a := rfl

@[simp] theorem ofExcept_error (e : ε) :
    (ofExcept (.error e) : Dialogue Op Ans ε α) = raise e := rfl

/-! ## Against every environment -/

/-- One exchange: a request and its answer. -/
abbrev Event (Op : Type) (Ans : Op → Type) := (o : Op) × Ans o

/-- `Path p tr r`: answered as `tr` records, the program `p` asks exactly what
`tr` records and ends in `r`. -/
inductive Path : Dialogue Op Ans ε α → List (Event Op Ans) → Except ε α → Prop
  | ret (a : α) : Path (.ret a) [] (.ok a)
  | raise (e : ε) : Path (.raise e) [] (.error e)
  | ask {o : Op} {k : Ans o → Dialogue Op Ans ε α} (a : Ans o)
      {tr : List (Event Op Ans)} {r : Except ε α} :
      Path (k a) tr r → Path (.ask o k) (⟨o, a⟩ :: tr) r

namespace Path

@[simp] theorem ret_iff {a : α} {tr : List (Event Op Ans)} {r : Except ε α} :
    Path (.ret a) tr r ↔ tr = [] ∧ r = .ok a := by
  refine ⟨?_, ?_⟩
  · intro h
    cases h
    exact ⟨rfl, rfl⟩
  · intro hc
    obtain ⟨rfl, rfl⟩ := hc
    exact .ret a

@[simp] theorem raise_iff {e : ε} {tr : List (Event Op Ans)} {r : Except ε α} :
    Path (.raise e) tr r ↔ tr = [] ∧ r = .error e := by
  refine ⟨?_, ?_⟩
  · intro h
    cases h
    exact ⟨rfl, rfl⟩
  · intro hc
    obtain ⟨rfl, rfl⟩ := hc
    exact .raise e

@[simp] theorem ask_iff {o : Op} {k : Ans o → Dialogue Op Ans ε α}
    {tr : List (Event Op Ans)} {r : Except ε α} :
    Path (.ask o k) tr r ↔ ∃ a tr', tr = ⟨o, a⟩ :: tr' ∧ Path (k a) tr' r := by
  refine ⟨?_, ?_⟩
  · intro h
    cases h with
    | ask a h => exact ⟨a, _, rfl, h⟩
  · intro hc
    obtain ⟨a, tr', rfl, h⟩ := hc
    exact .ask a h

/-- A path through a sequence is a failing path through its first part, or a
path through the first part followed by one through the second. -/
theorem bind_iff {p : Dialogue Op Ans ε α} {f : α → Dialogue Op Ans ε β}
    {tr : List (Event Op Ans)} {r : Except ε β} :
    Path (p >>= f) tr r ↔
      (∃ e, r = .error e ∧ Path p tr (.error e)) ∨
      ∃ a tr₁ tr₂, tr = tr₁ ++ tr₂ ∧ Path p tr₁ (.ok a) ∧ Path (f a) tr₂ r := by
  induction p generalizing tr with
  | ret a =>
      simp only [ret_bind, ret_iff, reduceCtorEq, and_false, exists_false, false_or,
        Except.ok.injEq]
      refine ⟨?_, ?_⟩
      · intro h
        exact ⟨a, [], tr, rfl, ⟨rfl, rfl⟩, h⟩
      · intro hc
        obtain ⟨_, _, _, rfl, ⟨rfl, rfl⟩, h⟩ := hc
        exact h
  | raise e =>
      simp only [raise_bind, raise_iff, reduceCtorEq, and_false, false_and, exists_false,
        or_false, Except.error.injEq]
      refine ⟨?_, ?_⟩
      · intro hc
        obtain ⟨rfl, rfl⟩ := hc
        exact ⟨e, rfl, rfl, rfl⟩
      · intro hc
        obtain ⟨_, rfl, rfl, rfl⟩ := hc
        exact ⟨rfl, rfl⟩
  | ask o k ih =>
      simp only [ask_bind, ask_iff, ih]
      refine ⟨?_, ?_⟩
      · intro hc
        obtain ⟨a, tr', rfl, ⟨e, rfl, h⟩ | ⟨b, tr₁, tr₂, rfl, h₁, h₂⟩⟩ := hc
        · exact .inl ⟨e, rfl, a, tr', rfl, h⟩
        · exact .inr ⟨b, ⟨o, a⟩ :: tr₁, tr₂, rfl, ⟨a, tr₁, rfl, h₁⟩, h₂⟩
      · intro hc
        rcases hc with ⟨e, rfl, a, tr', rfl, h⟩ | ⟨b, _, tr₂, rfl, ⟨a, tr₁, rfl, h₁⟩, h₂⟩
        · exact ⟨a, tr', rfl, .inl ⟨e, rfl, h⟩⟩
        · exact ⟨a, tr₁ ++ tr₂, rfl, .inr ⟨b, tr₁, tr₂, rfl, h₁, h₂⟩⟩

/-- The `ok` half of `bind_iff`. -/
theorem bind_ok {p : Dialogue Op Ans ε α} {f : α → Dialogue Op Ans ε β}
    {tr : List (Event Op Ans)} {b : β} (h : Path (p >>= f) tr (.ok b)) :
    ∃ a tr₁ tr₂, tr = tr₁ ++ tr₂ ∧ Path p tr₁ (.ok a) ∧
      Path (f a) tr₂ (.ok b) := by
  rcases bind_iff.mp h with ⟨e, he, _⟩ | h
  · cases he
  · exact h

/-- Two continuations that agree on what the first part can return. -/
theorem bind_congr {p : Dialogue Op Ans ε α} {f g : α → Dialogue Op Ans ε β}
    (h : ∀ a tr, Path p tr (.ok a) → f a = g a) : p >>= f = p >>= g := by
  induction p with
  | ret a => exact h a [] (.ret a)
  | raise e => rfl
  | ask o k ih =>
      simp only [ask_bind]
      congr 1
      funext a
      exact ih a fun b tr hb => h b (⟨o, a⟩ :: tr) (.ask a hb)

/-- A path through a guarded body is a path of the body that needed no
handler, or a failing one continued by the handler. -/
theorem handle_iff {p : Dialogue Op Ans ε α} {h : ε → Dialogue Op Ans ε α}
    {tr : List (Event Op Ans)} {r : Except ε α} :
    Path (p.handle h) tr r ↔
      (∃ a, r = .ok a ∧ Path p tr (.ok a)) ∨
      ∃ e tr₁ tr₂, tr = tr₁ ++ tr₂ ∧ Path p tr₁ (.error e) ∧ Path (h e) tr₂ r := by
  induction p generalizing tr with
  | ret a =>
      simp only [handle, ret_iff, reduceCtorEq, and_false, false_and, exists_false,
        or_false, Except.ok.injEq]
      refine ⟨?_, ?_⟩
      · intro hc
        obtain ⟨rfl, rfl⟩ := hc
        exact ⟨a, rfl, rfl, rfl⟩
      · intro hc
        obtain ⟨_, rfl, rfl, rfl⟩ := hc
        exact ⟨rfl, rfl⟩
  | raise e =>
      simp only [handle, raise_iff, reduceCtorEq, and_false, exists_false, false_or,
        Except.error.injEq]
      refine ⟨?_, ?_⟩
      · intro h'
        exact ⟨e, [], tr, rfl, ⟨rfl, rfl⟩, h'⟩
      · intro hc
        obtain ⟨_, _, _, rfl, ⟨rfl, rfl⟩, h'⟩ := hc
        exact h'
  | ask o k ih =>
      simp only [handle, ask_iff, ih]
      refine ⟨?_, ?_⟩
      · intro hc
        obtain ⟨a, tr', rfl, ⟨b, rfl, hb⟩ | ⟨e, tr₁, tr₂, rfl, h₁, h₂⟩⟩ := hc
        · exact .inl ⟨b, rfl, a, tr', rfl, hb⟩
        · exact .inr ⟨e, ⟨o, a⟩ :: tr₁, tr₂, rfl, ⟨a, tr₁, rfl, h₁⟩, h₂⟩
      · intro hc
        rcases hc with ⟨b, rfl, a, tr', rfl, hb⟩ | ⟨e, _, tr₂, rfl, ⟨a, tr₁, rfl, h₁⟩, h₂⟩
        · exact ⟨a, tr', rfl, .inl ⟨b, rfl, hb⟩⟩
        · exact ⟨a, tr₁ ++ tr₂, rfl, .inr ⟨e, tr₁, tr₂, rfl, h₁, h₂⟩⟩

@[simp] theorem ofExcept_iff {x : Except ε α} {tr : List (Event Op Ans)}
    {r : Except ε α} : Path (ofExcept x) tr r ↔ tr = [] ∧ r = x := by
  cases x <;> simp

end Path

/-! ## What a program may ask

`Within P p` bounds the exchanges of `p`, answers included, without following
its paths; it is how a part of a program is known not to do something. `AtMost`
bounds how often it does something. -/

/-- Every exchange `p` can have satisfies `P`. -/
def Within (P : Event Op Ans → Prop) : Dialogue Op Ans ε α → Prop
  | ret _ => True
  | raise _ => True
  | ask o k => ∀ a, P ⟨o, a⟩ ∧ Within P (k a)

namespace Within

variable {P : Event Op Ans → Prop}

@[simp] theorem ret (a : α) : Within P (.ret a : Dialogue Op Ans ε α) := trivial

@[simp] theorem raise (e : ε) : Within P (.raise e : Dialogue Op Ans ε α) := trivial

theorem bind {p : Dialogue Op Ans ε α} {f : α → Dialogue Op Ans ε β}
    (hp : Within P p) (hf : ∀ a, Within P (f a)) : Within P (p >>= f) := by
  induction p with
  | ret a => exact hf a
  | raise e => trivial
  | ask o k ih => exact fun a => ⟨(hp a).1, ih a (hp a).2⟩

theorem handle {p : Dialogue Op Ans ε α} {h : ε → Dialogue Op Ans ε α}
    (hp : Within P p) (hh : ∀ e, Within P (h e)) : Within P (p.handle h) := by
  induction p with
  | ret a => trivial
  | raise e => exact hh e
  | ask o k ih => exact fun a => ⟨(hp a).1, ih a (hp a).2⟩

theorem path {p : Dialogue Op Ans ε α} {tr : List (Event Op Ans)} {r : Except ε α}
    (hp : Within P p) (h : Path p tr r) : ∀ ev ∈ tr, P ev := by
  induction h with
  | ret a => simp
  | raise e => simp
  | ask a _ ih =>
      intro ev hev
      rcases List.mem_cons.mp hev with rfl | hev
      · exact (hp a).1
      · exact ih (hp a).2 ev hev

end Within

/-- Along every path `p` has at most `n` exchanges of the kind `P`. -/
def AtMost (P : Event Op Ans → Bool) : Dialogue Op Ans ε α → Nat → Prop
  | ret _, _ => True
  | raise _, _ => True
  | ask o k, n => ∀ a, ∃ m, (P ⟨o, a⟩).toNat + m ≤ n ∧ AtMost P (k a) m

namespace AtMost

variable {P : Event Op Ans → Bool} {m n : Nat}

@[simp] theorem ret (a : α) : AtMost P (.ret a : Dialogue Op Ans ε α) n := trivial

@[simp] theorem raise (e : ε) : AtMost P (.raise e : Dialogue Op Ans ε α) n := trivial

theorem mono {p : Dialogue Op Ans ε α} (h : AtMost P p m) (hle : m ≤ n) : AtMost P p n := by
  cases p with
  | ret a => trivial
  | raise e => trivial
  | ask o k =>
      intro a
      obtain ⟨l, hl, hk⟩ := h a
      exact ⟨l, Nat.le_trans hl hle, hk⟩

/-- Each part spends its own share; the second needs to keep to it only after what the
first can return. -/
theorem bind_path {p : Dialogue Op Ans ε α} {f : α → Dialogue Op Ans ε β} (hp : AtMost P p m)
    (hf : ∀ a tr, Path p tr (.ok a) → AtMost P (f a) n) : AtMost P (p >>= f) (m + n) := by
  induction p generalizing m with
  | ret a => exact (hf a [] (.ret a)).mono (Nat.le_add_left n m)
  | raise e => trivial
  | ask o k ih =>
      intro a
      obtain ⟨l, hl, hk⟩ := hp a
      exact ⟨l + n, by omega, ih a hk fun b tr hb => hf b (⟨o, a⟩ :: tr) (.ask a hb)⟩

theorem bind {p : Dialogue Op Ans ε α} {f : α → Dialogue Op Ans ε β}
    (hp : AtMost P p m) (hf : ∀ a, AtMost P (f a) n) : AtMost P (p >>= f) (m + n) :=
  hp.bind_path fun a _ _ => hf a

theorem path {p : Dialogue Op Ans ε α} {tr : List (Event Op Ans)} {r : Except ε α}
    (hp : AtMost P p n) (h : Path p tr r) : tr.countP P ≤ n := by
  induction h generalizing n with
  | ret a => exact Nat.zero_le n
  | raise e => exact Nat.zero_le n
  | @ask o k a tr r _ ih =>
      obtain ⟨m, hm, hk⟩ := hp a
      have hrest : tr.countP P ≤ m := ih hk
      have hfirst : (if P ⟨o, a⟩ then 1 else 0) = (P ⟨o, a⟩).toNat := by cases P ⟨o, a⟩ <;> rfl
      rw [List.countP_cons, hfirst]
      omega

end AtMost

/-! ## Against one environment -/

/-- Surroundings with a state of their own. -/
abbrev Environment (Op : Type) (Ans : Op → Type) (σ : Type) :=
  (o : Op) → σ → Ans o × σ

/-- The outcome of a program against an environment, with the state it leaves. -/
def run (env : Environment Op Ans σ) :
    Dialogue Op Ans ε α → σ → Except ε α × σ
  | ret a, s => (.ok a, s)
  | raise e, s => (.error e, s)
  | ask o k, s => run env (k (env o s).1) (env o s).2

/-- What was asked and answered along `run`. -/
def trace (env : Environment Op Ans σ) :
    Dialogue Op Ans ε α → σ → List (Event Op Ans)
  | ret _, _ => []
  | raise _, _ => []
  | ask o k, s => ⟨o, (env o s).1⟩ :: trace env (k (env o s).1) (env o s).2

section

variable (env : Environment Op Ans σ)

@[simp] theorem run_ret (a : α) (s : σ) :
    run env (.ret a : Dialogue Op Ans ε α) s = (.ok a, s) := rfl

@[simp] theorem run_raise (e : ε) (s : σ) :
    run env (.raise e : Dialogue Op Ans ε α) s = (.error e, s) := rfl

@[simp] theorem run_ask (o : Op) (k : Ans o → Dialogue Op Ans ε α) (s : σ) :
    run env (.ask o k) s = run env (k (env o s).1) (env o s).2 := rfl

@[simp] theorem run_ofExcept (x : Except ε α) (s : σ) :
    run env (ofExcept x : Dialogue Op Ans ε α) s = (x, s) := by
  cases x <;> rfl

theorem run_bind (p : Dialogue Op Ans ε α) (f : α → Dialogue Op Ans ε β) (s : σ) :
    run env (p >>= f) s =
      match run env p s with
      | (.ok a, s') => run env (f a) s'
      | (.error e, s') => (.error e, s') := by
  induction p generalizing s with
  | ret a => rfl
  | raise e => rfl
  | ask o k ih => exact ih _ _

theorem run_handle (p : Dialogue Op Ans ε α) (h : ε → Dialogue Op Ans ε α) (s : σ) :
    run env (p.handle h) s =
      match run env p s with
      | (.ok a, s') => (.ok a, s')
      | (.error e, s') => run env (h e) s' := by
  induction p generalizing s with
  | ret a => rfl
  | raise e => rfl
  | ask o k ih => exact ih _ _

/-- States that are mapped to those of another environment, which answers the same. -/
theorem run_hom {τ : Type} {env : Environment Op Ans σ} {env' : Environment Op Ans τ} {f : σ → τ}
    (h : ∀ o s, env' o (f s) = ((env o s).1, f (env o s).2)) (p : Dialogue Op Ans ε α) :
    ∀ s, run env' p (f s) = ((run env p s).1, f (run env p s).2) := by
  induction p with
  | ret a => intro s; rfl
  | raise e => intro s; rfl
  | ask o k ih =>
      intro s
      rw [run_ask, run_ask, h]
      exact ih _ _

/-- The rule for a first part known to succeed. -/
theorem run_bind_ok {p : Dialogue Op Ans ε α} {f : α → Dialogue Op Ans ε β}
    {s s' : σ} {a : α} (h : run env p s = (.ok a, s')) :
    run env (p >>= f) s = run env (f a) s' := by
  rw [run_bind, h]

/-- The rule for a first part known to fail. -/
theorem run_bind_error {p : Dialogue Op Ans ε α} {f : α → Dialogue Op Ans ε β}
    {s s' : σ} {e : ε} (h : run env p s = (.error e, s')) :
    run env (p >>= f) s = (.error e, s') := by
  rw [run_bind, h]

/-- A sequence that succeeds is two programs that do. -/
theorem run_bind_eq_ok {p : Dialogue Op Ans ε α} {f : α → Dialogue Op Ans ε β} {s s' : σ} {b : β} :
    run env (p >>= f) s = (.ok b, s') ↔
      ∃ a s₁, run env p s = (.ok a, s₁) ∧ run env (f a) s₁ = (.ok b, s') := by
  rw [run_bind]
  rcases run env p s with ⟨r, s₁⟩
  cases r with
  | error e => simp
  | ok a =>
      refine ⟨fun h => ⟨a, s₁, rfl, h⟩, fun hc => ?_⟩
      obtain ⟨_, _, heq, h⟩ := hc
      cases heq
      exact h

/-- Asked `o` again and again from `s`, the environment gives these answers and
is then in `s'`. -/
inductive Answers (o : Op) : σ → List (Ans o) → σ → Prop
  | nil (s : σ) : Answers o s [] s
  | cons {s s' : σ} {a : Ans o} {as : List (Ans o)} :
      (env o s).1 = a → Answers o (env o s).2 as s' → Answers o s (a :: as) s'

@[simp] theorem answers_nil_iff {o : Op} {s s' : σ} :
    Answers env o s [] s' ↔ s' = s := by
  refine ⟨?_, ?_⟩
  · intro h
    cases h
    rfl
  · intro hc
    obtain rfl := hc
    exact .nil _

@[simp] theorem answers_cons_iff {o : Op} {s s' : σ} {a : Ans o} {as : List (Ans o)} :
    Answers env o s (a :: as) s' ↔
      (env o s).1 = a ∧ Answers env o (env o s).2 as s' := by
  refine ⟨?_, ?_⟩
  · intro h
    cases h with
    | cons ha h => exact ⟨ha, h⟩
  · intro hc
    obtain ⟨ha, h⟩ := hc
    exact .cons ha h

/-- The environment answers as the exchanges record, and is then in this state. -/
def Follows : σ → List (Event Op Ans) → σ → Prop
  | s, [], s' => s' = s
  | s, ⟨o, a⟩ :: tr, s' => a = (env o s).1 ∧ Follows (env o s).2 tr s'

@[simp] theorem follows_nil {s s' : σ} : Follows env s [] s' ↔ s' = s := Iff.rfl

@[simp] theorem follows_cons {s s' : σ} {o : Op} {a : Ans o} {tr : List (Event Op Ans)} :
    Follows env s (⟨o, a⟩ :: tr) s' ↔ a = (env o s).1 ∧ Follows env (env o s).2 tr s' := Iff.rfl

theorem follows_append {s s' : σ} {tr tr' : List (Event Op Ans)} :
    Follows env s (tr ++ tr') s' ↔ ∃ s₁, Follows env s tr s₁ ∧ Follows env s₁ tr' s' := by
  induction tr generalizing s with
  | nil => simp
  | cons ev tr ih =>
      obtain ⟨o, a⟩ := ev
      rw [List.cons_append, follows_cons, ih]
      simp only [follows_cons, and_assoc, exists_and_left]

/-- What every event keeps holds at the end. -/
theorem Follows.keeps {I : σ → Prop} {P : Event Op Ans → Prop}
    (hstep : ∀ o s, P ⟨o, (env o s).1⟩ → I s → I (env o s).2) {tr : List (Event Op Ans)} :
    ∀ {s s' : σ}, Follows env s tr s' → (∀ ev ∈ tr, P ev) → I s → I s' := by
  induction tr with
  | nil =>
      intro s s' h _ hs
      obtain rfl := h
      exact hs
  | cons ev tr ih =>
      intro s s' h hall hs
      obtain ⟨o, a⟩ := ev
      obtain ⟨rfl, hrest⟩ := h
      exact ih hrest (fun ev hev => hall ev (List.mem_cons_of_mem _ hev))
        (hstep o s (hall _ List.mem_cons_self) hs)

/-- The exchanges of a run are the environment's. -/
theorem follows_run (p : Dialogue Op Ans ε α) (s : σ) :
    Follows env s (trace env p s) (run env p s).2 := by
  induction p generalizing s with
  | ret a => rfl
  | raise e => rfl
  | ask o k ih => exact ⟨rfl, ih _ _⟩

/-- Every run is a path. -/
theorem path_run (p : Dialogue Op Ans ε α) (s : σ) :
    Path p (trace env p s) (run env p s).1 := by
  induction p generalizing s with
  | ret a => exact .ret a
  | raise e => exact .raise e
  | ask o k ih => exact .ask _ (ih _ _)

/-- The path of a run whose outcome is known. -/
theorem path_of_run {p : Dialogue Op Ans ε α} {s : σ} {r : Except ε α}
    (h : (run env p s).1 = r) : Path p (trace env p s) r := by
  rw [← h]
  exact path_run env p s

end

/-! ## On a device that keeps a state -/

section
variable (after : σ → Event Op Ans → Option σ) {s s' : σ} {tr tr' : List (Event Op Ans)}

/-- The events take the device from one state to the other. `after` has no value where the
device does not answer so. -/
def Takes (s : σ) (tr : List (Event Op Ans)) (s' : σ) : Prop := tr.foldlM after s = some s'

instance [DecidableEq σ] : Decidable (Takes after s tr s') :=
  inferInstanceAs (Decidable (_ = _))

@[simp] theorem takes_nil : Takes after s [] s' ↔ s' = s := by
  simp [Takes, eq_comm]

@[simp] theorem takes_cons {ev : Event Op Ans} :
    Takes after s (ev :: tr) s' ↔ ∃ s₁, after s ev = some s₁ ∧ Takes after s₁ tr s' := by
  simp [Takes, List.foldlM_cons, Option.bind_eq_some_iff]

theorem takes_append :
    Takes after s (tr ++ tr') s' ↔ ∃ s₁, Takes after s tr s₁ ∧ Takes after s₁ tr' s' := by
  simp [Takes, List.foldlM_append, Option.bind_eq_some_iff]

/-- Events that change nothing together change nothing. -/
theorem takes_unchanged (h : ∀ ev ∈ tr, ∀ s s', after s ev = some s' → s' = s) :
    ∀ {s s' : σ}, Takes after s tr s' → s' = s := by
  induction tr with
  | nil => intro s s' ht; exact (takes_nil after).mp ht
  | cons ev tr ih =>
      intro s s' ht
      obtain ⟨s₁, hfirst, hrest⟩ := (takes_cons after).mp ht
      obtain rfl := h ev List.mem_cons_self _ _ hfirst
      exact ih (fun ev' hev => h ev' (List.mem_cons_of_mem _ hev)) hrest

end

end Dialogue
