import HeatpumpGateway.Lib.Pipeline
import HeatpumpGateway.Model.Transport
import HeatpumpGateway.Proofs.Connection
import HeatpumpGateway.Proofs.Parts

/-!
# The reader threads

The protocol stack is written against a transport that is open or is not and answers with
bytes. The serial transport is a queue that threads fill while the stack waits. This file
takes it, with any order of the steps of its threads and its client, to both of the views
that the rest needs: to a link with one bit of state (`SerialTransport.after`), and to a
queue (`Pipeline`) whose bytes come out as they went in.

How many threads are alive is the invariant that the order of the bytes rests on. It is one
at most while the port is not opened twice and no `join` gives up, and the service sees to
the first.
-/

namespace HeatpumpGateway

open Dialogue CommunicationService

variable {config : HeatPumpConfig} {waitingTime : Nat}

namespace SerialTransport

variable {s s' : SerialTransport} {label : Label} {labels : List Label}

@[simp] theorem calls_append (labels labels' : List Label) :
    calls (labels ++ labels') = calls labels ++ calls labels' := List.filterMap_append

@[simp] theorem bytesRead_append (labels labels' : List Label) :
    bytesRead (labels ++ labels') = bytesRead labels ++ bytesRead labels' :=
  List.filterMap_append

/-! ## As a link -/

/-- The threads and the parts of `close` leave `_serial` alone, and the calls answer as the
link does. -/
theorem Step.takes (h : Step s label s') :
    Takes SerialTransport.after s.isOpen (calls [label]) s'.isOpen := by
  cases h with
  | move | read | put | stop | joined | gaveUp => exact (takes_nil _).mpr rfl
  | opened | openRefused | closed | got | noData | slept | marked => rfl
  | closeRefused _ _ hopen =>
      show Takes _ s.isOpen _ false
      rw [hopen]
      rfl
  | written _ _ hopen | writeRefused _ _ _ hopen =>
      rw [hopen]
      rfl
  | notOpen _ _ hclosed =>
      rw [hclosed]
      rfl

theorem Execution.takes (h : Execution s labels s') :
    Takes SerialTransport.after s.isOpen (calls labels) s'.isOpen := by
  induction h with
  | refl => exact (takes_nil _).mpr rfl
  | step _ hstep ih =>
      rw [calls_append]
      exact (takes_append _).mpr ⟨_, ih, hstep.takes⟩

/-! ## As a queue -/

/-- The threads as workers: each has a byte in hand or none. -/
def pipeline (s : SerialTransport) : Pipeline UInt8 :=
  { hands := s.threads.map ReaderPhase.held, queue := s.queue }

def Label.event : Label → Pipeline.Event UInt8
  | .received byte => .input byte
  | .call ⟨.get, some byte⟩ => .output byte
  | _ => .silent

theorem ReaderPhase.held_next {phase phase' : ReaderPhase} {isOpen running : Bool}
    (h : phase.next isOpen running = some phase') : phase.held = none ∧ phase'.held = none := by
  cases phase with
  | starting =>
      cases isOpen <;> cases h <;> exact ⟨rfl, rfl⟩
  | checking =>
      cases running <;> cases isOpen <;> cases h <;> exact ⟨rfl, rfl⟩
  | reading | resting =>
      cases h
      exact ⟨rfl, rfl⟩
  | holding _ | ended => cases h

theorem hand_eq {i : Nat} {phase : ReaderPhase} (h : s.threads[i]? = some phase) :
    s.pipeline.hands[i]? = some phase.held := by
  rw [pipeline, List.getElem?_map, h]
  rfl

theorem pipeline_setThread (s : SerialTransport) (i : Nat) (phase : ReaderPhase) :
    (s.setThread i phase).pipeline
      = { s.pipeline with hands := s.pipeline.hands.set i phase.held } :=
  congrArg (Pipeline.mk · s.queue) List.map_set

/-- A step is one of the queue's, or none. -/
theorem Step.pipeline (h : Step s label s') :
    Pipeline.Step s.pipeline label.event s'.pipeline ∨
      (label.event = .silent ∧ s'.pipeline = s.pipeline) := by
  cases h with
  | @move i phase phase' hthread hnext =>
      obtain ⟨hbefore, hafter⟩ := ReaderPhase.held_next hnext
      have hhand := hand_eq hthread
      rw [hbefore, ← hafter] at hhand
      obtain ⟨hlt, hget⟩ := List.getElem?_eq_some_iff.mp hhand
      refine .inr ⟨rfl, ?_⟩
      rw [pipeline_setThread, ← hget, List.set_getElem_self hlt]
  | @read i byte hthread =>
      rw [pipeline_setThread]
      exact .inl (.take byte (hand_eq hthread))
  | @put i byte hthread =>
      have hput := Pipeline.Step.put (hand_eq hthread)
      have hset := pipeline_setThread s i .checking
      refine .inl ?_
      rw [show s.pipeline.hands.set i none = (s.setThread i .checking).pipeline.hands by
        rw [hset]; rfl] at hput
      exact hput
  | opened =>
      refine .inl ?_
      have hhands : (s.threads ++ [ReaderPhase.starting]).map ReaderPhase.held
          = s.pipeline.hands ++ [none] := List.map_append
      show Pipeline.Step s.pipeline .silent
        { hands := (s.threads ++ [ReaderPhase.starting]).map ReaderPhase.held, queue := s.queue }
      rw [hhands]
      exact .hire _
  | got _ hqueue => exact .inl (.get hqueue)
  | openRefused | stop | joined | gaveUp | closed | closeRefused | written | writeRefused
  | notOpen | noData | slept | marked => exact .inr ⟨rfl, rfl⟩

theorem inputs_event (labels : List Label) :
    Pipeline.inputs (labels.map Label.event) = bytesRead labels := by
  rw [Pipeline.inputs, bytesRead, List.filterMap_map]
  congr 1
  funext label
  rcases label with ⟨o, a⟩ | _ | _ | _
  · cases o with
    | get => cases a <;> rfl
    | openPort | closePort | write _ | sleep _ | mark _ => rfl
  all_goals rfl

theorem outputs_event (labels : List Label) :
    Pipeline.outputs (labels.map Label.event) = HeatpumpGateway.received (calls labels) := by
  rw [Pipeline.outputs, HeatpumpGateway.received, calls, List.filterMap_map,
    List.filterMap_filterMap]
  congr 1
  funext label
  rcases label with ⟨o, a⟩ | _ | _ | _
  · cases o with
    | get => cases a <;> rfl
    | openPort | closePort | write _ | sleep _ | mark _ => rfl
  all_goals rfl

/-- An execution is one of the queue's, whatever holds of the states on its way. -/
theorem Execution.pipeline {P : Pipeline UInt8 → Prop} (h : Execution s labels s')
    (hP : ∀ labels' s'', labels' <+: labels → Execution s labels' s'' → P s''.pipeline) :
    ∃ es, Pipeline.Steps P s.pipeline es s'.pipeline ∧
      Pipeline.inputs es = bytesRead labels ∧
      Pipeline.outputs es = HeatpumpGateway.received (calls labels) := by
  induction h with
  | refl => exact ⟨[], .refl _, rfl, rfl⟩
  | @step s₁ s₂ label labels hrun hstep ih =>
      obtain ⟨es, hsteps, hin, hout⟩ :=
        ih fun labels' s'' hpre => hP labels' s'' (hpre.trans (List.prefix_append _ _))
      have hfirst := inputs_event [label]
      have hsecond := outputs_event [label]
      rcases hstep.pipeline with hmoved | ⟨hsilent, hsame⟩
      · refine ⟨es ++ [label.event],
          .step hsteps hmoved (hP _ _ (List.prefix_refl _) (.step hrun hstep)), ?_, ?_⟩
        · rw [Pipeline.inputs_append, bytesRead_append, hin]
          exact congrArg _ hfirst
        · rw [Pipeline.outputs_append, calls_append, received_append, hout]
          exact congrArg _ hsecond
      · rw [List.map_singleton, hsilent] at hfirst hsecond
        rw [hsame, bytesRead_append, calls_append, received_append, ← hfirst, ← hsecond]
        exact ⟨es, hsteps, hin.trans (List.append_nil _).symm,
          hout.trans (List.append_nil _).symm⟩

/-! ## How many threads are alive -/

def live (s : SerialTransport) : Nat := s.threads.countP ReaderPhase.isLive

/-- The threads with `_reader` struck out. -/
def withoutReader (s : SerialTransport) : List ReaderPhase :=
  match s.reader with
  | some i => s.threads.set i .ended
  | none => s.threads

/-- The live threads that no `join` will wait for. -/
def leftover (s : SerialTransport) : Nat := s.withoutReader.countP ReaderPhase.isLive

theorem countP_set_le {threads : List ReaderPhase} {i : Nat} {old : ReaderPhase}
    (new : ReaderPhase) (h : threads[i]? = some old)
    (hle : new.isLive = true → old.isLive = true) :
    (threads.set i new).countP ReaderPhase.isLive ≤ threads.countP ReaderPhase.isLive := by
  obtain ⟨hlt, hget⟩ := List.getElem?_eq_some_iff.mp h
  rw [List.countP_set hlt, hget]
  cases hnew : new.isLive with
  | false => simp
  | true =>
      have hold := hle hnew
      have hpos : 0 < threads.countP ReaderPhase.isLive := by
        refine List.countP_pos_iff.mpr ⟨old, ?_, hold⟩
        rw [← hget]
        exact List.getElem_mem hlt
      rw [if_pos hold, if_pos rfl]
      omega

theorem countP_le_set (threads : List ReaderPhase) (i : Nat) (new : ReaderPhase) :
    threads.countP ReaderPhase.isLive
      ≤ (threads.set i new).countP ReaderPhase.isLive + 1 := by
  rcases Nat.lt_or_ge i threads.length with hlt | hge
  · rw [List.countP_set hlt]
    split <;> split <;> omega
  · rw [List.set_eq_of_length_le hge]
    exact Nat.le_succ _

theorem live_le (s : SerialTransport) : s.live ≤ s.leftover + 1 := by
  rw [live, leftover, withoutReader]
  split
  · exact countP_le_set _ _ _
  · exact Nat.le_succ _

/-- A thread that moves does not come to life. -/
theorem leftover_setThread {i : Nat} {old : ReaderPhase} (new : ReaderPhase)
    (h : s.threads[i]? = some old) (hle : new.isLive = true → old.isLive = true) :
    (s.setThread i new).leftover ≤ s.leftover := by
  rw [leftover, leftover, withoutReader, withoutReader]
  cases hreader : s.reader with
  | none =>
      simp only [setThread, hreader]
      exact countP_set_le new h hle
  | some j =>
      simp only [setThread, hreader]
      by_cases hij : i = j
      · rw [hij, List.set_set]
      · rw [List.set_comm _ _ hij]
        refine countP_set_le new ?_ hle
        rw [List.getElem?_set_ne (Ne.symm hij)]
        exact h

/-- The number of times a `join` gave up. -/
def timeouts (labels : List Label) : Nat :=
  labels.countP fun
    | .timedOut => true
    | _ => false

/-- Between the calls of `close` and on a closed port there is no thread to wait for, and
every thread left over is one that a `join` gave up on. -/
structure Accounted (gaveUp : Nat) (s : SerialTransport) : Prop where
  leftover : s.leftover ≤ gaveUp
  closing : s.client = .closing → s.reader = none
  closed : s.client = .ready → s.isOpen = false → s.reader = none

theorem Accounted.start : Accounted 0 {} :=
  ⟨Nat.le_refl 0, nofun, fun _ _ => rfl⟩

theorem leftover_none (h : s.reader = none) : s.leftover = s.live := by
  rw [leftover, withoutReader, h]
  rfl

/-- One step keeps the account, unless it opens a port that is open. -/
theorem Step.accounted {gaveUp : Nat} (h : Step s label s') (hs : Accounted gaveUp s)
    (hopen : label = .call ⟨.openPort, none⟩ → s.isOpen = false) :
    Accounted (gaveUp + timeouts [label]) s' := by
  cases h with
  | @move i phase phase' hthread hnext =>
      have hlive : phase'.isLive = true → phase.isLive = true := by
        intro _
        cases phase <;> first | rfl | cases hnext
      exact ⟨(leftover_setThread phase' hthread hlive).trans hs.leftover, hs.closing, hs.closed⟩
  | read byte hthread =>
      exact ⟨(leftover_setThread _ hthread fun _ => rfl).trans hs.leftover, hs.closing,
        hs.closed⟩
  | put hthread =>
      exact ⟨(leftover_setThread _ hthread fun _ => rfl).trans hs.leftover, hs.closing,
        hs.closed⟩
  | opened hready =>
      have hnone := hs.closed hready (hopen rfl)
      refine ⟨?_, fun hc => ?_, nofun⟩
      · rw [leftover, withoutReader]
        simp only [List.set_append_right _ _ (Nat.le_refl s.threads.length), Nat.sub_self,
          List.set_cons_zero, List.countP_append]
        have hleft := hs.leftover
        rw [leftover_none hnone, live] at hleft
        simpa [ReaderPhase.isLive, timeouts] using hleft
      · rw [hready] at hc
        cases hc
  | openRefused | written | writeRefused | notOpen | got | noData | slept | marked =>
      exact ⟨hs.leftover, hs.closing, hs.closed⟩
  | stop => exact ⟨hs.leftover, nofun, nofun⟩
  | joined hjoining hended =>
      refine ⟨?_, fun _ => rfl, nofun⟩
      refine Nat.le_trans (Nat.le_of_eq ?_) hs.leftover
      rw [leftover_none rfl, leftover, withoutReader]
      cases hreader : s.reader with
      | none => rfl
      | some i =>
          obtain ⟨hlt, hget⟩ := List.getElem?_eq_some_iff.mp (hended i hreader)
          simp only []
          rw [← hget, List.set_getElem_self hlt]
          rfl
  | gaveUp _ _ _ _ =>
      refine ⟨?_, fun _ => rfl, nofun⟩
      rw [leftover_none rfl]
      exact (live_le s).trans (Nat.succ_le_succ hs.leftover)
  | closed hclosing | closeRefused _ hclosing _ =>
      exact ⟨hs.leftover, nofun, fun _ _ => hs.closing hclosing⟩

/-- A port is opened only where it is not open. -/
def OpensClosed : Bool → Trace → Prop
  | _, [] => True
  | isOpen, ev :: tr =>
      (ev = ⟨.openPort, none⟩ → isOpen = false) ∧
        ∀ isOpen', SerialTransport.after isOpen ev = some isOpen' → OpensClosed isOpen' tr

theorem opensClosed_append {isOpen : Bool} {tr tr' : Trace} :
    OpensClosed isOpen (tr ++ tr') ↔ OpensClosed isOpen tr ∧
      ∀ isOpen', Takes SerialTransport.after isOpen tr isOpen' → OpensClosed isOpen' tr' := by
  induction tr generalizing isOpen with
  | nil => simp [OpensClosed]
  | cons ev tr ih =>
      simp only [List.cons_append, OpensClosed, ih, takes_cons]
      refine ⟨?_, ?_⟩
      · intro hc
        obtain ⟨hfirst, hrest⟩ := hc
        refine ⟨⟨hfirst, fun b hb => (hrest b hb).1⟩, fun b hb => ?_⟩
        obtain ⟨b₁, hafter, htakes⟩ := hb
        exact (hrest b₁ hafter).2 b htakes
      · intro hc
        obtain ⟨⟨hfirst, hmid⟩, hrest⟩ := hc
        exact ⟨hfirst, fun b hb => ⟨hmid b hb, fun b' hb' => hrest b' ⟨b, hb, hb'⟩⟩⟩

@[simp] theorem timeouts_append (labels labels' : List Label) :
    timeouts (labels ++ labels') = timeouts labels + timeouts labels' := List.countP_append

theorem Execution.accounted {gaveUp : Nat} (h : Execution s labels s') (hs : Accounted gaveUp s)
    (hopen : OpensClosed s.isOpen (calls labels)) : Accounted (gaveUp + timeouts labels) s' := by
  induction h with
  | refl => exact hs
  | @step s₁ s₂ label labels hrun hstep ih =>
      rw [calls_append, opensClosed_append] at hopen
      rw [timeouts_append, ← Nat.add_assoc]
      refine hstep.accounted (ih hopen.1) fun hlabel => ?_
      obtain rfl := hlabel
      exact (hopen.2 _ hrun.takes).1 rfl

theorem held_le_live (s : SerialTransport) : s.pipeline.held.length ≤ s.live := by
  rw [Pipeline.held, pipeline, live]
  induction s.threads with
  | nil => exact Nat.le_refl 0
  | cons phase threads ih =>
      rw [List.map_cons, List.countP_cons]
      cases phase with
      | holding byte => exact Nat.succ_le_succ ih
      | starting | checking | reading | resting | ended => exact ih.trans (Nat.le_add_right _ _)

end SerialTransport

/-! ## What the service does to the transport -/

open SerialTransport

/-- On its way the program opens no port that is open. -/
def Opens {α : Type} (p : Talk α) : Prop :=
  ∀ (tr : Trace) (r : Except Exc α) (b b' : Bool), Path p tr r →
    Takes SerialTransport.after b tr b' → OpensClosed b tr

theorem opensClosed_of_leavesPort {tr : Trace} (h : ∀ ev ∈ tr, LeavesPort ev) :
    ∀ b, OpensClosed b tr := by
  induction tr with
  | nil => intro b; trivial
  | cons ev tr ih =>
      intro b
      refine ⟨fun hev => ?_,
        fun b' _ => ih (fun ev' hev' => h ev' (List.mem_cons_of_mem _ hev')) b'⟩
      obtain rfl := hev
      exact absurd rfl (h _ List.mem_cons_self).1

namespace Opens

variable {α β : Type}

theorem of_leavesPort {p : Talk α} (h : Within LeavesPort p) : Opens p :=
  fun _ _ b _ hpath _ => opensClosed_of_leavesPort (h.path hpath) b

theorem bind {p : Talk α} {f : α → Talk β} (hp : Opens p) (hf : ∀ a, Opens (f a)) :
    Opens (p >>= f) := by
  intro tr r b b' hpath htakes
  rcases Path.bind_iff.mp hpath with ⟨e, rfl, hp'⟩ | ⟨a, tr₁, tr₂, rfl, hp₁, hp₂⟩
  · exact hp _ _ _ _ hp' htakes
  · obtain ⟨b₁, htakes₁, htakes₂⟩ := (takes_append _).mp htakes
    refine opensClosed_append.mpr ⟨hp _ _ _ _ hp₁ htakes₁, fun b₂ htakes' => ?_⟩
    obtain rfl := Option.some.inj (htakes'.symm.trans htakes₁)
    exact hf a _ _ _ _ hp₂ htakes₂

theorem handle {p : Talk α} {h : Exc → Talk α} (hp : Opens p) (hh : ∀ e, Opens (h e)) :
    Opens (p.handle h) := by
  intro tr r b b' hpath htakes
  rcases Path.handle_iff.mp hpath with ⟨a, rfl, hp'⟩ | ⟨e, tr₁, tr₂, rfl, hp₁, hp₂⟩
  · exact hp _ _ _ _ hp' htakes
  · obtain ⟨b₁, htakes₁, htakes₂⟩ := (takes_append _).mp htakes
    refine opensClosed_append.mpr ⟨hp _ _ _ _ hp₁ htakes₁, fun b₂ htakes' => ?_⟩
    obtain rfl := Option.some.inj (htakes'.symm.trans htakes₁)
    exact hh e _ _ _ _ hp₂ htakes₂

theorem raise (e : Exc) : Opens (.raise e : Talk α) := of_leavesPort trivial

end Opens

/-- A restart closes first, and does not open what it could not close. -/
theorem restart_opens : Opens restart := by
  intro tr r b b' hpath htakes
  rw [restart, Transport.closePort, ask_bind, Path.ask_iff] at hpath
  obtain ⟨a, tr', rfl, hclosed⟩ := hpath
  refine ⟨fun hsame => (by cases hsame), fun b₁ hafter => ?_⟩
  cases a with
  | some e =>
      obtain ⟨rfl, _⟩ := Path.raise_iff.mp hclosed
      trivial
  | none =>
      obtain ⟨tr₂, rfl, hopen⟩ := path_sleep.mp hclosed
      refine ⟨fun hsame => (by cases hsame), fun b₂ hsleep => ?_⟩
      cases hafter
      cases hsleep
      rw [Transport.openPort, Path.ask_iff] at hopen
      obtain ⟨a, tr₃, rfl, hend⟩ := hopen
      refine ⟨fun _ => rfl, fun b₃ _ => ?_⟩
      cases a with
      | some e =>
          obtain ⟨rfl, _⟩ := Path.raise_iff.mp hend
          trivial
      | none =>
          obtain ⟨rfl, _⟩ := Path.ret_iff.mp hend
          trivial

theorem readLoop_opens (request : Request) (attempts : Nat) :
    ∀ lastError, Opens (readLoop waitingTime request attempts lastError) := by
  induction attempts with
  | zero => exact fun _ => Opens.raise _
  | succ attempts ih =>
      intro lastError
      refine Opens.handle (.of_leavesPort (readAttempt_leavesPort request)) fun e => ?_
      split
      · exact Opens.bind restart_opens fun _ => ih _
      · exact Opens.raise _

theorem opens_modular : Modular @Opens :=
  ⟨fun _ => .of_leavesPort trivial, fun e _ => Opens.raise e, Opens.bind⟩

theorem call_opens (call : ServiceCall) : Opens (call.talk config waitingTime) := by
  have hread : ∀ request ∈ config.requests, Opens (readRequest waitingTime request) :=
    fun request _ => readLoop_opens request _ _
  have hsleep : Opens (HeatpumpGateway.sleep waitingTime) := .of_leavesPort (sleep_leavesPort _)
  have hdone : ∀ {α : Type} {p : Talk α}, Opens p → Opens (p >>= fun _ => pure ()) :=
    fun hp => Opens.bind hp fun _ => .of_leavesPort trivial
  cases call with
  | readChannel channelId => exact hdone (opens_modular.readChannel hread channelId)
  | readChannels channelIds => exact hdone (opens_modular.readChannels hsleep hread channelIds)
  | readAll dataTypes => exact hdone (opens_modular.readAll hsleep hread dataTypes)
  | getVersion => exact hdone (opens_modular.getVersion hread)
  | setTime now => exact hdone (.of_leavesPort (setTime_leavesPort _ _ _))
  | writeChannel channelId value =>
      exact hdone (opens_modular.writeChannel
        (fun v record _ _ => .of_leavesPort (writeValues_leavesPort [(v, record)]))
        channelId value)

/-- A service that does not take itself to be connected has no open port. -/
theorem operation_opens {op : Operation} {connected isOpen isOpen' : Bool} {tr : Trace}
    {r : Except Exc Bool} (hflag : connected = false → isOpen = false)
    (hpath : Path (op.talk config waitingTime connected) tr r)
    (htakes : Takes SerialTransport.after isOpen tr isOpen') :
    OpensClosed isOpen tr ∧ (flagAfter connected r = false → isOpen' = false) := by
  cases op with
  | connect =>
      cases connected with
      | true =>
          obtain ⟨rfl, rfl⟩ := Path.ret_iff.mp hpath
          exact ⟨trivial, nofun⟩
      | false =>
          obtain rfl := hflag rfl
          obtain ⟨a, rfl, _⟩ := connect_path hpath
          exact ⟨⟨fun _ => rfl, fun _ _ => trivial⟩, fun hclosed =>
            (connect_step hpath htakes).symm.trans hclosed⟩
  | close =>
      cases connected with
      | false =>
          obtain ⟨rfl, rfl⟩ := Path.ret_iff.mp hpath
          obtain rfl := hflag rfl
          exact ⟨trivial, fun _ => (takes_nil _).mp htakes⟩
      | true =>
          obtain ⟨a, rfl, ⟨rfl, rfl⟩ | ⟨e, rfl, rfl⟩⟩ := close_path hpath
          · refine ⟨⟨nofun, fun _ _ => trivial⟩, fun _ => ?_⟩
            obtain ⟨b, hafter, hnil⟩ := (takes_cons _).mp htakes
            cases hafter
            exact (takes_nil _).mp hnil
          · exact ⟨⟨nofun, fun _ _ => trivial⟩, nofun⟩
  | call c =>
      have hopens : Opens (do c.talk config waitingTime; return connected : Talk Bool) :=
        Opens.bind (call_opens c) fun _ => .of_leavesPort trivial
      refine ⟨hopens _ _ _ _ hpath htakes, fun hafter => ?_⟩
      have hsame : flagAfter connected r = connected := by
        rcases Path.bind_iff.mp hpath with ⟨e, rfl, _⟩ | ⟨_, tr₁, tr₂, _, _, hret⟩
        · rfl
        · obtain ⟨_, rfl⟩ := Path.ret_iff.mp hret
          rfl
      rw [hsame] at hafter
      have hclosed := hflag hafter
      have hkept : Kept (do c.talk config waitingTime; return connected : Talk Bool) :=
        Kept.bind (call_kept config c) fun _ => Kept.ret _
      rcases hkept _ _ _ _ hpath htakes with ⟨_, hb⟩ | ⟨_, hb, _⟩
      · exact hb.trans hclosed
      · rw [hclosed] at hb
        cases hb

/-! ## Every lifetime of the service -/

/-- Operations one after another on a serial transport, each with the steps that were taken
in its time: its own calls, and whatever the threads did. -/
inductive TransportRun (config : HeatPumpConfig) (waitingTime : Nat) :
    Bool → SerialTransport → List (Operation × List Label) → Bool → SerialTransport → Prop
  | nil (connected : Bool) (s : SerialTransport) :
      TransportRun config waitingTime connected s [] connected s
  | cons {connected connected' : Bool} {s s' s'' : SerialTransport} {op : Operation}
      {labels : List Label} {r : Except Exc Bool} {rest : List (Operation × List Label)} :
      Execution s labels s' → Path (op.talk config waitingTime connected) (calls labels) r →
      TransportRun config waitingTime (flagAfter connected r) s' rest connected' s'' →
      TransportRun config waitingTime connected s ((op, labels) :: rest) connected' s''

/-- All the steps of a lifetime. -/
def steps (history : List (Operation × List Label)) : List Label := history.flatMap (·.2)

/-- What the rest of the development takes a link to be is what the serial transport is,
whatever its threads do: each lifetime of the service on it is one on the link. -/
theorem TransportRun.on_link {connected connected' : Bool} {s s' : SerialTransport}
    {history : List (Operation × List Label)}
    (h : TransportRun config waitingTime connected s history connected' s') :
    ∃ states : List Connection, states.length = history.length ∧
      LinkRun config waitingTime ⟨connected, s.isOpen⟩
        ((history.zip states).map fun entry => (entry.1.1, calls entry.1.2, entry.2)) ∧
      (⟨connected', s'.isOpen⟩ : Connection)
        = states.getLast?.getD ⟨connected, s.isOpen⟩ := by
  induction h with
  | nil connected s => exact ⟨[], rfl, .nil _, rfl⟩
  | @cons connected connected' s s' s'' op labels r rest hexec hpath _ ih =>
      obtain ⟨states, hlen, hlink, hlast⟩ := ih
      refine ⟨⟨flagAfter connected r, s'.isOpen⟩ :: states, congrArg (· + 1) hlen,
        .cons (.mk hpath hexec.takes) hlink, ?_⟩
      rw [hlast, List.getLast?_cons]
      rfl

theorem Execution.trans {s s' s'' : SerialTransport} {labels labels' : List Label}
    (h : Execution s labels s') (h' : Execution s' labels' s'') :
    Execution s (labels ++ labels') s'' := by
  induction h' with
  | refl => rw [List.append_nil]; exact h
  | step _ hstep ih =>
      rw [← List.append_assoc]
      exact .step ih hstep

/-- The whole lifetime as one execution, in which no open port is opened. -/
theorem TransportRun.execution {connected connected' : Bool} {s s' : SerialTransport}
    {history : List (Operation × List Label)}
    (h : TransportRun config waitingTime connected s history connected' s')
    (hflag : connected = false → s.isOpen = false) :
    Execution s (steps history) s' ∧ OpensClosed s.isOpen (calls (steps history)) := by
  induction h with
  | nil connected s => exact ⟨.refl _, trivial⟩
  | @cons connected connected' s s' s'' op labels r rest hexec hpath _ ih =>
      obtain ⟨hopens, hflag'⟩ := operation_opens hflag hpath hexec.takes
      obtain ⟨hrest, hopens'⟩ := ih hflag'
      refine ⟨Execution.trans hexec hrest, ?_⟩
      rw [steps, List.flatMap_cons, calls_append]
      refine opensClosed_append.mpr ⟨hopens, fun b hb => ?_⟩
      obtain rfl := Option.some.inj (hb.symm.trans hexec.takes)
      exact hopens'

theorem opensClosed_initial {isOpen : Bool} {labels labels' : List Label}
    (h : OpensClosed isOpen (calls labels)) (hpre : labels' <+: labels) :
    OpensClosed isOpen (calls labels') := by
  obtain ⟨rest, rfl⟩ := hpre
  rw [calls_append] at h
  exact (opensClosed_append.mp h).1

/-- In every lifetime of the service, however long its threads outlive their ports, the
bytes that its conversations were given, with those in the queue and in the hands of
threads, are the bytes the port gave: none is lost or doubled. And at most one thread more
is alive than the number of times that `close` gave up on one. -/
theorem bytes_conserved {connected : Bool} {s : SerialTransport}
    {history : List (Operation × List Label)}
    (h : TransportRun config waitingTime false {} history connected s) :
    (bytesRead (steps history)).Perm
        (received (calls (steps history)) ++ s.queue ++ s.pipeline.held) ∧
      s.live ≤ timeouts (steps history) + 1 ∧
      (s.client = .ready → s.isOpen = false → s.live ≤ timeouts (steps history)) := by
  obtain ⟨hexec, hopens⟩ := h.execution fun _ => rfl
  obtain ⟨es, hsteps, hin, hout⟩ := hexec.pipeline (P := fun _ => True) fun _ _ _ _ => trivial
  have hconserved := hsteps.conserved
  have haccount := hexec.accounted Accounted.start hopens
  rw [hin, hout] at hconserved
  rw [Nat.zero_add] at haccount
  refine ⟨hconserved, (live_le s).trans (Nat.succ_le_succ haccount.leftover), ?_⟩
  intro hready hclosed
  rw [← leftover_none (haccount.closed hready hclosed)]
  exact haccount.leftover

/-- In every lifetime in which no `close` gives up on a thread, the conversations are given
the bytes in the order in which the port gave them, across every closing and opening of the
port: what is in the queue when it is closed is read first when it is open again. -/
theorem bytes_in_order {connected : Bool} {s : SerialTransport}
    {history : List (Operation × List Label)}
    (h : TransportRun config waitingTime false {} history connected s)
    (hjoined : Label.timedOut ∉ steps history) :
    bytesRead (steps history)
      = received (calls (steps history)) ++ s.queue ++ s.pipeline.held := by
  obtain ⟨hexec, hopens⟩ := h.execution fun _ => rfl
  have hsingle : ∀ labels' s'', labels' <+: steps history → Execution {} labels' s'' →
      s''.pipeline.Single := by
    intro labels' s'' hpre hrun
    have haccount := hrun.accounted Accounted.start (opensClosed_initial hopens hpre)
    have hnone : timeouts labels' = 0 := by
      refine List.countP_eq_zero.mpr fun label hlabel htimeout => ?_
      cases label with
      | timedOut => exact hjoined (hpre.subset hlabel)
      | call _ | received _ | silent => cases htimeout
    rw [Nat.zero_add, hnone] at haccount
    exact (held_le_live s'').trans ((live_le s'').trans (Nat.succ_le_succ haccount.leftover))
  obtain ⟨es, hsteps, hin, hout⟩ := hexec.pipeline hsingle
  obtain ⟨horder, _⟩ := hsteps.in_order (Nat.zero_le 1)
  rw [hin, hout] at horder
  exact horder

/-- A device that says the same byte to everything, on a port that cannot be closed. -/
def babbling : Environment Op Op.Ans Unit
  | .get, s => (some 0x55, s)
  | .write _, s => (none, s)
  | .openPort, s => (none, s)
  | .closePort, s => (some (.os "could not close port"), s)
  | .sleep _, s => ((), s)
  | .mark _, s => ((), s)

def firstStay : List Label :=
  [.call ⟨.openPort, none⟩, .silent, .silent, .received 0x55, .silent]

def firstLeave : List Label := [.silent, .silent, .silent, .call ⟨.closePort, none⟩]

def secondStay : List Label := [.call ⟨.openPort, none⟩, .silent, .silent, .received 0x56]

def staleRead : List Label :=
  [.call ⟨.mark (.getData [0x01, 0x00, 0x11, 0x0B, 0x00, 0x05, 0x10, 0x03]), ()⟩,
    .call ⟨.write [START_COMMUNICATION], none⟩, .call ⟨.get, some 0x55⟩,
    .silent, .silent, .silent, .silent,
    .call ⟨.closePort, some (.os "could not close port")⟩]

/-- A byte comes in before the port is closed; the read on the port that is opened next gets
it for an answer, and cannot start again. -/
def babble : List (Operation × List Label) :=
  [(.connect, firstStay), (.close, firstLeave), (.connect, secondStay), (roomTempRead, staleRead)]

theorem babble_run : TransportRun roomTempConfig 0 false {} babble true
    { queue := [0x56], threads := [.ended, .ended] } := by
  have hread : calls staleRead
      = trace babbling (roomTempRead.talk roomTempConfig 0 true) () := by
    decide +kernel
  have houtcome : (run babbling (roomTempRead.talk roomTempConfig 0 true) ()).1
      = .error (.osError "could not close port") := by
    decide +kernel
  have hpath := path_run babbling (roomTempRead.talk roomTempConfig 0 true) ()
  rw [← hread, houtcome] at hpath
  -- The first thread reads a byte and puts it.
  have hstarted : Execution {} [.call ⟨.openPort, none⟩, .silent, .silent]
      { isOpen := true, running := true, threads := [.reading], reader := some 0 } :=
    .step (.step (.step (.refl _) (.opened rfl)) (.move (i := 0) rfl rfl)) (.move (i := 0) rfl rfl)
  have hput : Step
      { isOpen := true, running := true, threads := [.holding 0x55], reader := some 0 } .silent
      { isOpen := true, running := true, queue := [0x55], threads := [.checking]
        reader := some 0 } := .put (i := 0) rfl
  have hopened := (hstarted.step (.read (i := 0) 0x55 rfl)).step hput
  -- It ends while `close` waits for it.
  have hclosed : Execution
      { isOpen := true, running := true, queue := [0x55], threads := [.checking]
        reader := some 0 } firstLeave
      { queue := [0x55], threads := [.ended] } :=
    .step (.step (.step (.step (.refl _) (.stop rfl)) (.move (i := 0) rfl rfl))
      (.joined rfl fun i hi => by cases hi; rfl)) (.closed rfl)
  -- The second has a byte in hand while the first byte is got.
  have hagain : Execution { queue := [0x55], threads := [.ended] } secondStay
      { isOpen := true, running := true, queue := [0x55], threads := [.ended, .holding 0x56]
        reader := some 1 } :=
    .step (.step (.step (.step (.refl _) (.opened rfl)) (.move (i := 1) rfl rfl))
      (.move (i := 1) rfl rfl)) (.read (i := 1) 0x56 rfl)
  have hgot : Execution
      { isOpen := true, running := true, queue := [0x55], threads := [.ended, .holding 0x56]
        reader := some 1 } (staleRead.take 4)
      { isOpen := true, queue := [], threads := [.ended, .holding 0x56]
        reader := some 1, client := .joining } :=
    .step (.step (.step (.step (.refl _) (.marked _ rfl)) (.written _ rfl rfl)) (.got rfl rfl))
      (.stop rfl)
  have hputLate : Step
      { isOpen := true, queue := [], threads := [.ended, .holding 0x56]
        reader := some 1, client := .joining } .silent
      { isOpen := true, queue := [0x56], threads := [.ended, .checking]
        reader := some 1, client := .joining } := .put (i := 1) rfl
  have hfailed : Execution
      { isOpen := true, running := true, queue := [0x55], threads := [.ended, .holding 0x56]
        reader := some 1 } staleRead
      { queue := [0x56], threads := [.ended, .ended] } :=
    .step (.step (.step (hgot.step hputLate) (.move (i := 1) rfl rfl))
      (.joined rfl fun i hi => by cases hi; rfl)) (.closeRefused _ rfl rfl)
  have hconnect : Path (Operation.connect.talk roomTempConfig 0 false) [⟨.openPort, none⟩]
      (.ok true) := Path.ask_iff.mpr ⟨none, [], rfl, .ret true⟩
  have hclose : Path (Operation.close.talk roomTempConfig 0 true) [⟨.closePort, none⟩]
      (.ok false) := Path.ask_iff.mpr ⟨none, [], rfl, .ret false⟩
  exact .cons hopened hconnect (.cons hclosed hclose (.cons hagain hconnect
    (.cons hfailed hpath (.nil _ _))))

theorem on_link_babble : ∃ states : List Connection, states.length = babble.length ∧
    LinkRun roomTempConfig 0 ⟨false, false⟩
      ((babble.zip states).map fun entry => (entry.1.1, calls entry.1.2, entry.2)) ∧
    (⟨true, false⟩ : Connection) = states.getLast?.getD ⟨false, false⟩ :=
  babble_run.on_link

theorem bytes_in_order_babble : bytesRead (steps babble) = [0x55] ++ [0x56] ++ [] := by
  refine bytes_in_order babble_run ?_
  simp [steps, babble, firstStay, firstLeave, secondStay, staleRead]

/-- `close` gives up on a thread before it has read anything. Both that thread and the next
one take a byte from the next port, and the later byte is put first. -/
def overtaken : List (Operation × List Label) :=
  [(.connect, [.call ⟨.openPort, none⟩, .silent, .silent]),
    (.close, [.silent, .timedOut, .call ⟨.closePort, none⟩]),
    (.connect, [.call ⟨.openPort, none⟩, .silent, .silent, .received 0x01, .received 0x02] ++
      [.silent])]

theorem overtaken_run : TransportRun roomTempConfig 0 false {} overtaken true
    { isOpen := true, running := true, queue := [0x02], threads := [.holding 0x01, .checking]
      reader := some 1 } := by
  have hopened : Execution {} [.call ⟨.openPort, none⟩, .silent, .silent]
      { isOpen := true, running := true, threads := [.reading], reader := some 0 } :=
    .step (.step (.step (.refl _) (.opened rfl)) (.move (i := 0) rfl rfl)) (.move (i := 0) rfl rfl)
  have hstopped : Execution
      { isOpen := true, running := true, threads := [.reading], reader := some 0 }
      [.silent, .timedOut] _ :=
    .step (.step (.refl _) (.stop rfl)) (@Step.gaveUp _ 0 .reading rfl rfl rfl nofun)
  have hclosed : Execution
      { isOpen := true, running := true, threads := [.reading], reader := some 0 }
      [.silent, .timedOut, .call ⟨.closePort, none⟩] { threads := [.reading] } :=
    .step hstopped (.closed rfl)
  have hboth : Execution { threads := [.reading] }
      [.call ⟨.openPort, none⟩, .silent, .silent, .received 0x01, .received 0x02]
      { isOpen := true, running := true, threads := [.holding 0x01, .holding 0x02]
        reader := some 1 } :=
    .step (.step (.step (.step (.step (.refl _) (.opened rfl)) (.move (i := 1) rfl rfl))
      (.move (i := 1) rfl rfl)) (.read (i := 0) 0x01 rfl)) (.read (i := 1) 0x02 rfl)
  have hput : Step
      { isOpen := true, running := true, threads := [.holding 0x01, .holding 0x02]
        reader := some 1 } .silent
      { isOpen := true, running := true, queue := [0x02], threads := [.holding 0x01, .checking]
        reader := some 1 } := .put (i := 1) rfl
  have hconnect : Path (Operation.connect.talk roomTempConfig 0 false) [⟨.openPort, none⟩]
      (.ok true) := Path.ask_iff.mpr ⟨none, [], rfl, .ret true⟩
  have hclose : Path (Operation.close.talk roomTempConfig 0 true) [⟨.closePort, none⟩]
      (.ok false) := Path.ask_iff.mpr ⟨none, [], rfl, .ret false⟩
  exact .cons hopened hconnect (.cons hclosed hclose (.cons (hboth.step hput) hconnect (.nil _ _)))

theorem bytes_conserved_overtaken :
    ([0x01, 0x02] : Bytes).Perm ([] ++ [0x02] ++ [0x01]) ∧ 2 ≤ timeouts (steps overtaken) + 1 :=
  have h := bytes_conserved overtaken_run
  ⟨h.1, h.2.1⟩

/-- A thread that `close` gave up on reads from the next port beside the next thread, and is
overtaken by it. -/
theorem bytes_overtaken : ∃ (history : List (Operation × List Label)) (s : SerialTransport),
    TransportRun roomTempConfig 0 false {} history true s ∧
      bytesRead (steps history) = [0x01, 0x02] ∧
      received (calls (steps history)) ++ s.queue ++ s.pipeline.held = [0x02, 0x01] :=
  ⟨overtaken, _, overtaken_run, rfl, rfl⟩

end HeatpumpGateway
