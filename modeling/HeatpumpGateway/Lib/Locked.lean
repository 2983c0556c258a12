import HeatpumpGateway.Lib.Dialogue

/-!
# Conversations under one lock

Any number of clients put calls to a service that owns one device. A call first
prepares itself, which may fail at once; what it prepares is a dialogue with the
device, held under the one lock there is. A client waits, gets the lock, has its
dialogue one request at a time, lets go of the lock, and returns. Nothing is said
about who gets the lock next or how the steps of different clients are ordered.

The history records three events of a call: it is invoked, it is served, which is
the moment it lets go of the lock or fails to prepare, and it returns.
`Reachable.serial` is what the lock is for: the served calls, in the order they
were served, are a run of the whole calls one after another. `Reachable.alternates`
puts that order between the events a client sees: each of its calls is invoked,
then served, then returned with the result it was served, before its next.
-/

variable {Op : Type} {Ans : Op → Type} {ε α σ μ C ι : Type}

namespace Locked

open Dialogue

inductive Event (ι C ε α : Type) where
  | invoked (i : ι) (c : C)
  | served (i : ι) (c : C) (r : Except ε α)
  | returned (i : ι) (c : C) (r : Except ε α)

/-- Where a client is in its call. -/
inductive Phase (C ε α : Type) where
  | away
  | waiting (c : C)
  | inside (c : C)
  | leaving (c : C) (r : Except ε α)

/-- The clients, the device, and the one dialogue that has the lock. -/
structure System (Op : Type) (Ans : Op → Type) (ε α σ C ι : Type) where
  device : σ
  phase : ι → Phase C ε α
  running : Option (ι × C × Dialogue Op Ans ε α) := none

/-- A whole call, as its caller sees it. -/
def whole (prepare : C → Except ε (Dialogue Op Ans ε α)) (c : C) : Dialogue Op Ans ε α :=
  match prepare c with
  | .ok p => p
  | .error e => .raise e

section steps

variable [DecidableEq ι]

/-- The phases after one client has moved. -/
def move (phase : ι → Phase C ε α) (i : ι) (p : Phase C ε α) : ι → Phase C ε α :=
  fun j => if j = i then p else phase j

@[simp] theorem move_self (phase : ι → Phase C ε α) (i : ι) (p : Phase C ε α) :
    move phase i p i = p := if_pos rfl

theorem move_ne (phase : ι → Phase C ε α) {i j : ι} (h : j ≠ i) (p : Phase C ε α) :
    move phase i p j = phase j := if_neg h

variable (env : Environment Op Ans σ) (prepare : C → Except ε (Dialogue Op Ans ε α))

/-- One step of the system, with the events it adds to the history. -/
inductive Step : System Op Ans ε α σ C ι → List (Event ι C ε α) →
    System Op Ans ε α σ C ι → Prop
  | invoke {s : System Op Ans ε α σ C ι} (i : ι) (c : C) : s.phase i = .away →
      Step s [.invoked i c] { s with phase := move s.phase i (.waiting c) }
  | refuse {s : System Op Ans ε α σ C ι} (i : ι) (c : C) (e : ε) : s.phase i = .waiting c →
      prepare c = .error e →
      Step s [.served i c (.error e)] { s with phase := move s.phase i (.leaving c (.error e)) }
  | acquire {s : System Op Ans ε α σ C ι} (i : ι) (c : C) (p : Dialogue Op Ans ε α) :
      s.phase i = .waiting c → prepare c = .ok p → s.running = none →
      Step s [] { s with phase := move s.phase i (.inside c), running := some (i, c, p) }
  | exchange {s : System Op Ans ε α σ C ι} (i : ι) (c : C) (o : Op)
      (k : Ans o → Dialogue Op Ans ε α) : s.running = some (i, c, .ask o k) →
      Step s [] { s with
        device := (env o s.device).2, running := some (i, c, k (env o s.device).1) }
  | finish {s : System Op Ans ε α σ C ι} (i : ι) (c : C) (a : α) :
      s.running = some (i, c, .ret a) →
      Step s [.served i c (.ok a)]
        { s with phase := move s.phase i (.leaving c (.ok a)), running := none }
  | fail {s : System Op Ans ε α σ C ι} (i : ι) (c : C) (e : ε) :
      s.running = some (i, c, .raise e) →
      Step s [.served i c (.error e)]
        { s with phase := move s.phase i (.leaving c (.error e)), running := none }
  | depart {s : System Op Ans ε α σ C ι} (i : ι) (c : C) (r : Except ε α) :
      s.phase i = .leaving c r →
      Step s [.returned i c r] { s with phase := move s.phase i .away }

/-- The systems that come about from a device and no calls, with their histories. -/
inductive Reachable (device : σ) : List (Event ι C ε α) → System Op Ans ε α σ C ι → Prop
  | start : Reachable device [] { device := device, phase := fun _ => .away }
  | step {history events : List (Event ι C ε α)} {s s' : System Op Ans ε α σ C ι} :
      Reachable device history s → Step env prepare s events s' →
      Reachable device (history ++ events) s'

end steps

/-! ## One after another -/

/-- The calls of a history with their results, in the order they were served. -/
def served (history : List (Event ι C ε α)) : List (C × Except ε α) :=
  history.filterMap fun
    | .served _ c r => some (c, r)
    | _ => none

@[simp] theorem served_nil : served ([] : List (Event ι C ε α)) = [] := rfl

@[simp] theorem served_append (history events : List (Event ι C ε α)) :
    served (history ++ events) = served history ++ served events :=
  List.filterMap_append

section serial

variable (env : Environment Op Ans σ) (prepare : C → Except ε (Dialogue Op Ans ε α))

/-- Whole calls with their results, one after another, from one device state to
another. -/
inductive Serial : σ → List (C × Except ε α) → σ → Prop
  | nil (s : σ) : Serial s [] s
  | cons {s s' s'' : σ} {c : C} {r : Except ε α} {log : List (C × Except ε α)} :
      run env (whole prepare c) s = (r, s') → Serial s' log s'' → Serial s ((c, r) :: log) s''

variable {env prepare}

theorem serial_append {s s' : σ} {log log' : List (C × Except ε α)} :
    Serial env prepare s (log ++ log') s' ↔
      ∃ s₁, Serial env prepare s log s₁ ∧ Serial env prepare s₁ log' s' := by
  induction log generalizing s with
  | nil =>
      refine ⟨fun h => ⟨s, .nil s, h⟩, fun h => ?_⟩
      obtain ⟨_, hnil, h⟩ := h
      cases hnil
      exact h
  | cons entry log ih =>
      refine ⟨fun h => ?_, fun h => ?_⟩
      · cases h with
        | cons hrun hrest =>
            obtain ⟨s₁, hlog, hlog'⟩ := ih.mp hrest
            exact ⟨s₁, .cons hrun hlog, hlog'⟩
      · obtain ⟨s₁, hlog, hlog'⟩ := h
        cases hlog with
        | cons hrun hrest => exact .cons hrun (ih.mpr ⟨s₁, hrest, hlog'⟩)

theorem Serial.unique {s s' : σ} {log : List (C × Except ε α)}
    (h : Serial env prepare s log s') : ∀ {s''}, Serial env prepare s log s'' → s'' = s' := by
  induction h with
  | nil s =>
      intro s'' h'
      cases h'
      rfl
  | cons hrun _ ih =>
      intro s'' h'
      cases h' with
      | cons hrun' hrest =>
          obtain rfl := congrArg Prod.snd (hrun.symm.trans hrun')
          exact ih hrest

theorem Serial.concat {s s' s'' : σ} {c : C} {r : Except ε α} {log : List (C × Except ε α)}
    (h : Serial env prepare s log s') (hlast : run env (whole prepare c) s' = (r, s'')) :
    Serial env prepare s (log ++ [(c, r)]) s'' :=
  serial_append.mpr ⟨s', h, .cons hlast (.nil _)⟩

/-- One more call, with what comes of it. -/
theorem Serial.next {s s' : σ} {log : List (C × Except ε α)} (h : Serial env prepare s log s')
    (c : C) : Serial env prepare s (log ++ [(c, (run env (whole prepare c) s').1)])
      (run env (whole prepare c) s').2 :=
  h.concat (Prod.ext rfl rfl)

/-- An object that answers every call at once. -/
abbrev Object (C μ ε α : Type) := C → μ → Except ε α × μ

/-- The answers an object gives to a series of calls, and the state it ends in. -/
def Behaves (spec : Object C μ ε α) : μ → List (C × Except ε α) → μ → Prop
  | m, [], m' => m' = m
  | m, (c, r) :: log, m' => r = (spec c m).1 ∧ Behaves spec (spec c m).2 log m'

theorem behaves_append {spec : Object C μ ε α} {log log' : List (C × Except ε α)} {m' : μ} :
    ∀ {m : μ}, Behaves spec m (log ++ log') m' ↔
      ∃ m₁, Behaves spec m log m₁ ∧ Behaves spec m₁ log' m' := by
  induction log with
  | nil => intro m; simp [Behaves]
  | cons entry log ih =>
      intro m
      obtain ⟨c, r⟩ := entry
      rw [List.cons_append, Behaves, ih]
      simp only [Behaves, exists_and_left, and_assoc]

/-- What no call of a series changes is the same after it. -/
theorem Behaves.unchanged {spec : Object C μ ε α} {β : Type} {f : μ → β}
    {P : C × Except ε α → Prop} (hstep : ∀ c m, ¬ P (c, (spec c m).1) → f (spec c m).2 = f m)
    {log : List (C × Except ε α)} {m' : μ} :
    ∀ {m : μ}, Behaves spec m log m' → (∀ entry ∈ log, ¬ P entry) → f m' = f m := by
  induction log with
  | nil =>
      intro m h _
      rw [show m' = m from h]
  | cons entry log ih =>
      intro m h hall
      obtain ⟨c, r⟩ := entry
      obtain ⟨rfl, hrest⟩ := h
      rw [ih hrest fun entry he => hall entry (List.mem_cons_of_mem _ he),
        hstep c m (hall _ List.mem_cons_self)]

/-- Where each whole call answers as the object does, a series of them does. -/
theorem Serial.simulates {spec : Object C μ ε α} {R : σ → μ → Prop}
    (hcall : ∀ (c : C) (s : σ) (m : μ), R s m →
      (run env (whole prepare c) s).1 = (spec c m).1 ∧
        R (run env (whole prepare c) s).2 (spec c m).2)
    {s s' : σ} {log : List (C × Except ε α)} (h : Serial env prepare s log s') :
    ∀ {m : μ}, R s m → ∃ m', Behaves spec m log m' ∧ R s' m' := by
  induction h with
  | nil s =>
      intro m hm
      exact ⟨m, rfl, hm⟩
  | @cons s s' _ c r _ hfirst _ ih =>
      intro m hm
      obtain ⟨hanswer, hnext⟩ := hcall c s m hm
      rw [hfirst] at hanswer hnext
      obtain ⟨m', hlog, hend⟩ := ih hnext
      exact ⟨m', ⟨hanswer, hlog⟩, hend⟩

variable [DecidableEq ι]

/-- What holds between calls, and what every call returns that begins there. -/
theorem Serial.keeps {I : σ → Prop} {Q : C → Except ε α → Prop}
    (hcall : ∀ c s, I s →
      Q c (run env (whole prepare c) s).1 ∧ I (run env (whole prepare c) s).2)
    {s s' : σ} {log : List (C × Except ε α)} (h : Serial env prepare s log s') :
    I s → (∀ entry ∈ log, Q entry.1 entry.2) ∧ I s' := by
  induction h with
  | nil s => exact fun hs => ⟨fun entry hentry => (by cases hentry), hs⟩
  | @cons s s' _ c r log hfirst _ ih =>
      intro hs
      obtain ⟨hresult, hnext⟩ := hcall c s hs
      rw [hfirst] at hresult hnext
      obtain ⟨hall, hend⟩ := ih hnext
      exact ⟨List.forall_mem_cons.mpr ⟨hresult, hall⟩, hend⟩

/-- The device is where the served calls have left it, and from there on where the
running dialogue has got to. -/
def Accounted (env : Environment Op Ans σ) (prepare : C → Except ε (Dialogue Op Ans ε α))
    (device : σ) (log : List (C × Except ε α)) (s : System Op Ans ε α σ C ι) : Prop :=
  ∃ rest : σ, Serial env prepare device log rest ∧
    match s.running with
    | none => s.device = rest
    | some (_, c, p) => run env (whole prepare c) rest = run env p s.device ∧
        ∃ tr, Follows env rest tr s.device ∧
          trace env (whole prepare c) rest = tr ++ trace env p s.device

theorem Accounted.step {device : σ} {log : List (C × Except ε α)}
    {s s' : System Op Ans ε α σ C ι} {events : List (Event ι C ε α)}
    (h : Accounted env prepare device log s) (hstep : Step env prepare s events s') :
    Accounted env prepare device (log ++ served events) s' := by
  obtain ⟨rest, hserial, hrest⟩ := h
  cases hstep with
  | invoke i c _ =>
      refine ⟨rest, ?_, hrest⟩
      rw [show served [Event.invoked i c] = ([] : List (C × Except ε α)) from rfl, List.append_nil]
      exact hserial
  | refuse i c e _ hprepare =>
      -- The call ends where it began, whoever has the lock meanwhile.
      refine ⟨rest, hserial.concat ?_, hrest⟩
      rw [whole, hprepare]
      rfl
  | acquire i c p _ hprepare hfree =>
      refine ⟨rest, ?_, ?_⟩
      · rw [served_nil, List.append_nil]
        exact hserial
      · rw [hfree] at hrest
        have hwhole : whole prepare c = p := by rw [whole, hprepare]
        obtain rfl : s.device = rest := hrest
        exact ⟨by rw [hwhole], [], rfl, by rw [hwhole]; rfl⟩
  | exchange i c o k hrunning =>
      refine ⟨rest, ?_, ?_⟩
      · rw [served_nil, List.append_nil]
        exact hserial
      · rw [hrunning] at hrest
        obtain ⟨hrun, tr, hfollows, htrace⟩ := hrest
        refine ⟨hrun, tr ++ [⟨o, (env o s.device).1⟩], ?_, ?_⟩
        · exact (follows_append env).mpr ⟨_, hfollows, rfl, rfl⟩
        · rw [htrace, List.append_assoc]
          rfl
  | finish i c a hrunning =>
      rw [hrunning] at hrest
      exact ⟨s.device, hserial.concat hrest.1, rfl⟩
  | fail i c e hrunning =>
      rw [hrunning] at hrest
      exact ⟨s.device, hserial.concat hrest.1, rfl⟩
  | depart i c r _ =>
      refine ⟨rest, ?_, hrest⟩
      rw [show served [Event.returned i c r] = ([] : List (C × Except ε α)) from rfl,
        List.append_nil]
      exact hserial

omit [DecidableEq ι] in
/-- What holds of the device between calls, and is kept by every event of a call that begins
there, holds at every moment. -/
theorem Accounted.always {I : σ → Prop} {P : Dialogue.Event Op Ans → Prop}
    (hstep : ∀ o s, P ⟨o, (env o s).1⟩ → I s → I (env o s).2)
    (hcall : ∀ c s, I s → ∀ ev ∈ trace env (whole prepare c) s, P ev)
    {device : σ} {log : List (C × Except ε α)} {s : System Op Ans ε α σ C ι}
    (h : Accounted env prepare device log s)
    (hrest : ∀ rest, Serial env prepare device log rest → I rest) : I s.device := by
  obtain ⟨rest, hserial, hnow⟩ := h
  have hbetween := hrest rest hserial
  cases hrunning : s.running with
  | none =>
      rw [hrunning] at hnow
      rwa [show s.device = rest from hnow]
  | some call =>
      obtain ⟨i, c, p⟩ := call
      rw [hrunning] at hnow
      obtain ⟨_, tr, hfollows, htrace⟩ := hnow
      refine Follows.keeps env hstep hfollows (fun ev hev => hcall c rest hbetween ev ?_) hbetween
      rw [htrace]
      exact List.mem_append_left _ hev

/-- However the clients' steps are ordered, the calls served so far are a run of
whole calls. -/
theorem Reachable.serial {device : σ} {history : List (Event ι C ε α)}
    {s : System Op Ans ε α σ C ι} (h : Reachable env prepare device history s) :
    Accounted env prepare device (served history) s := by
  induction h with
  | start => exact ⟨device, .nil _, rfl⟩
  | step _ hstep ih =>
      rw [served_append]
      exact ih.step hstep

/-- A dialogue that has the lock can go on to its end. -/
theorem Reachable.exchanges {device : σ} {history : List (Event ι C ε α)} {i : ι} {c : C}
    (p : Dialogue Op Ans ε α) : ∀ {s : System Op Ans ε α σ C ι},
    Reachable env prepare device history s → s.running = some (i, c, p) →
    Reachable env prepare device history { s with
      device := (run env p s.device).2
      running := some (i, c, .ofExcept (run env p s.device).1) } := by
  induction p with
  | ret a =>
      intro s h hrunning
      obtain ⟨d, phase, running⟩ := s
      obtain rfl : running = some (i, c, .ret a) := hrunning
      exact h
  | raise e =>
      intro s h hrunning
      obtain ⟨d, phase, running⟩ := s
      obtain rfl : running = some (i, c, .raise e) := hrunning
      exact h
  | ask o k ih =>
      intro s h hrunning
      have hnext := h.step (.exchange i c o k hrunning)
      rw [List.append_nil] at hnext
      exact ih _ hnext rfl

/-- So a call that has the lock can be served what a whole run of it returns. -/
theorem Reachable.serve {device : σ} {history : List (Event ι C ε α)} {i : ι} {c : C}
    {p : Dialogue Op Ans ε α} {s : System Op Ans ε α σ C ι}
    (h : Reachable env prepare device history s) (hrunning : s.running = some (i, c, p)) :
    Reachable env prepare device (history ++ [.served i c (run env p s.device).1])
      { device := (run env p s.device).2
        phase := move s.phase i (.leaving c (run env p s.device).1) } := by
  have hended := h.exchanges p hrunning
  cases hr : (run env p s.device).1 with
  | ok a =>
      rw [hr] at hended
      exact hended.step (.finish i c a rfl)
  | error e =>
      rw [hr] at hended
      exact hended.step (.fail i c e rfl)

/-- And any run of whole calls comes about, if one client makes them all. -/
theorem Serial.reachable {device s s' : σ} {log : List (C × Except ε α)} (i : ι)
    (h : Serial env prepare s log s') : ∀ {history : List (Event ι C ε α)}
    {system : System Op Ans ε α σ C ι}, Reachable env prepare device history system →
    system.device = s → system.running = none → system.phase i = .away →
    ∃ (history' : List (Event ι C ε α)) (system' : System Op Ans ε α σ C ι),
      Reachable env prepare device history' system' ∧ served history' = served history ++ log := by
  induction h with
  | nil s =>
      intro history system hr _ _ _
      exact ⟨history, system, hr, (List.append_nil _).symm⟩
  | @cons s _ _ c r log hrun _ ih =>
      intro history system hr hdevice hfree haway
      subst hdevice
      have hwaiting := hr.step (.invoke i c haway)
      cases hp : prepare c with
      | error e =>
          rw [whole, hp] at hrun
          cases hrun
          have hdone := (hwaiting.step (.refuse i c e (move_self ..) hp)).step
            (.depart i c _ (move_self ..))
          obtain ⟨history', system', hr', hserved⟩ := ih hdone rfl hfree (move_self ..)
          exact ⟨history', system', hr', by rw [hserved]; simp [served]⟩
      | ok p =>
          rw [whole, hp] at hrun
          have hdone := ((hwaiting.step (.acquire i c p (move_self ..) hp hfree)).serve rfl).step
            (.depart i c _ (move_self ..))
          obtain ⟨history', system', hr', hserved⟩ :=
            ih hdone (congrArg Prod.snd hrun) rfl (move_self ..)
          have hresult : (run env p system.device).1 = r := congrArg Prod.fst hrun
          exact ⟨history', system', hr', by rw [hserved]; simp [served, hresult]⟩

end serial

/-! ## Between invocation and return -/

/-- The events of one client. -/
def ofClient [DecidableEq ι] (i : ι) (history : List (Event ι C ε α)) :
    List (Event ι C ε α) :=
  history.filter fun
    | .invoked j _ => j = i
    | .served j _ _ => j = i
    | .returned j _ _ => j = i

/-- Calls invoked, served and returned in turn, up to the phase of the last one. -/
inductive Alternates (i : ι) : List (Event ι C ε α) → Phase C ε α → Prop
  | start : Alternates i [] .away
  | invoked {events : List (Event ι C ε α)} (c : C) : Alternates i events .away →
      Alternates i (events ++ [.invoked i c]) (.waiting c)
  | entered {events : List (Event ι C ε α)} {c : C} : Alternates i events (.waiting c) →
      Alternates i events (.inside c)
  | refused {events : List (Event ι C ε α)} {c : C} (r : Except ε α) :
      Alternates i events (.waiting c) →
      Alternates i (events ++ [.served i c r]) (.leaving c r)
  | served {events : List (Event ι C ε α)} {c : C} (r : Except ε α) :
      Alternates i events (.inside c) →
      Alternates i (events ++ [.served i c r]) (.leaving c r)
  | returned {events : List (Event ι C ε α)} {c : C} {r : Except ε α} :
      Alternates i events (.leaving c r) →
      Alternates i (events ++ [.returned i c r]) .away

section order

variable [DecidableEq ι] {env : Environment Op Ans σ}
  {prepare : C → Except ε (Dialogue Op Ans ε α)}

theorem ofClient_append (i : ι) (history events : List (Event ι C ε α)) :
    ofClient i (history ++ events) = ofClient i history ++ ofClient i events :=
  List.filter_append ..

/-- Each client's calls alternate, and whoever has the lock is inside its call. -/
structure Orderly (history : List (Event ι C ε α)) (s : System Op Ans ε α σ C ι) : Prop where
  alternates : ∀ i, Alternates i (ofClient i history) (s.phase i)
  inside : ∀ i c p, s.running = some (i, c, p) → s.phase i = .inside c

/-- One client has moved, and with it only its own events. -/
theorem alternates_move {history : List (Event ι C ε α)} {phase : ι → Phase C ε α} {i : ι}
    {p : Phase C ε α} {event : Event ι C ε α} (h : ∀ j, Alternates j (ofClient j history) (phase j))
    (hself : ofClient i [event] = [event]) (hother : ∀ j, j ≠ i → ofClient j [event] = [])
    (hnext : Alternates i (ofClient i history ++ [event]) p) (j : ι) :
    Alternates j (ofClient j (history ++ [event])) (move phase i p j) := by
  rw [ofClient_append]
  by_cases hj : j = i
  · rw [hj, hself, move_self]
    exact hnext
  · rw [hother j hj, List.append_nil, move_ne phase hj]
    exact h j

theorem ofClient_invoked (i : ι) (c : C) :
    ofClient i [(.invoked i c : Event ι C ε α)] = [.invoked i c] ∧
      ∀ j, j ≠ i → ofClient j [(.invoked i c : Event ι C ε α)] = [] := by
  refine ⟨by simp [ofClient], fun j hj => ?_⟩
  simp [ofClient, Ne.symm hj]

theorem ofClient_served (i : ι) (c : C) (r : Except ε α) :
    ofClient i [Event.served i c r] = [.served i c r] ∧
      ∀ j, j ≠ i → ofClient j [Event.served i c r] = [] := by
  refine ⟨by simp [ofClient], fun j hj => ?_⟩
  simp [ofClient, Ne.symm hj]

theorem ofClient_returned (i : ι) (c : C) (r : Except ε α) :
    ofClient i [Event.returned i c r] = [.returned i c r] ∧
      ∀ j, j ≠ i → ofClient j [Event.returned i c r] = [] := by
  refine ⟨by simp [ofClient], fun j hj => ?_⟩
  simp [ofClient, Ne.symm hj]

theorem Orderly.step {history events : List (Event ι C ε α)} {s s' : System Op Ans ε α σ C ι}
    (h : Orderly history s) (hstep : Step env prepare s events s') :
    Orderly (history ++ events) s' := by
  obtain ⟨halt, hin⟩ := h
  -- A client that is not inside does not have the lock, so it may move freely.
  have outside : ∀ {i : ι} {p : Phase C ε α}, (∀ c, s.phase i ≠ .inside c) →
      ∀ j c q, s.running = some (j, c, q) → move s.phase i p j = .inside c := by
    intro i p hi j c q hrunning
    have hj := hin j c q hrunning
    have hne : j ≠ i := by
      intro heq
      rw [heq] at hj
      exact hi c hj
    rw [move_ne _ hne, hj]
  cases hstep with
  | invoke i c hphase =>
      have hnow := halt i
      rw [hphase] at hnow
      exact ⟨alternates_move halt (ofClient_invoked i c).1 (ofClient_invoked i c).2
          (.invoked c hnow),
        outside fun _ hc => by rw [hphase] at hc; cases hc⟩
  | refuse i c e hphase _ =>
      have hnow := halt i
      rw [hphase] at hnow
      exact ⟨alternates_move halt (ofClient_served i c _).1 (ofClient_served i c _).2
          (.refused _ hnow),
        outside fun _ hc => by rw [hphase] at hc; cases hc⟩
  | acquire i c p hphase _ hfree =>
      refine ⟨?_, ?_⟩
      · intro j
        rw [List.append_nil]
        by_cases hj : j = i
        · have hnow := halt i
          rw [hphase] at hnow
          rw [hj]
          show Alternates i _ (move s.phase i (.inside c) i)
          rw [move_self]
          exact .entered hnow
        · show Alternates j _ (move s.phase i (.inside c) j)
          rw [move_ne _ hj]
          exact halt j
      · intro j c' q hrunning
        cases hrunning
        exact move_self _ _ _
  | exchange i c o k hrunning =>
      rw [List.append_nil]
      refine ⟨halt, ?_⟩
      intro j c' q hrunning'
      cases hrunning'
      exact hin i c _ hrunning
  | finish i c a hrunning =>
      have hnow := halt i
      rw [hin i c _ hrunning] at hnow
      refine ⟨alternates_move halt (ofClient_served i c _).1 (ofClient_served i c _).2
        (.served _ hnow), ?_⟩
      intro _ _ _ hnone
      cases hnone
  | fail i c e hrunning =>
      have hnow := halt i
      rw [hin i c _ hrunning] at hnow
      refine ⟨alternates_move halt (ofClient_served i c _).1 (ofClient_served i c _).2
        (.served _ hnow), ?_⟩
      intro _ _ _ hnone
      cases hnone
  | depart i c r hphase =>
      have hnow := halt i
      rw [hphase] at hnow
      exact ⟨alternates_move halt (ofClient_returned i c r).1 (ofClient_returned i c r).2
          (.returned hnow),
        outside fun _ hc => by rw [hphase] at hc; cases hc⟩

/-- A client's calls are invoked, served and returned in turn, so a call that is
invoked after another has returned is also served after it. -/
theorem Reachable.alternates {device : σ} {history : List (Event ι C ε α)}
    {s : System Op Ans ε α σ C ι} (h : Reachable env prepare device history s) :
    Orderly history s := by
  induction h with
  | start =>
      refine ⟨fun i => .start, ?_⟩
      intro _ _ _ hnone
      cases hnone
  | step _ hstep ih => exact ih.step hstep

end order

end Locked
