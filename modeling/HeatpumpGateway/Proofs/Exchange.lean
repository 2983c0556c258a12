import HeatpumpGateway.Proofs.Receive

/-!
# What one exchange can have done

`get_data` and `set_data` against any transport whatever. The first part is the
vocabulary for traces: the marks, the bytes received, the bytes since the final
acknowledge, a refused command at the very end. Then each program of the
connector gets one lemma that says what its paths look like; later files quote
these and do not open the programs again.
-/

namespace HeatpumpGateway

open Dialogue

abbrev Exchange := Event Op Op.Ans

instance (o : Op) : DecidableEq (Op.Ans o) := by
  cases o <;> unfold Op.Ans <;> infer_instance

/-! ## Reading a trace -/

def markOf : Exchange → Option Mark
  | ⟨.mark m, _⟩ => some m
  | _ => none

def marks (tr : Trace) : List Mark := tr.filterMap markOf

def byteOf : Exchange → Option UInt8
  | ⟨.get, a⟩ => a
  | _ => none

/-- The bytes the transport delivered. -/
def received (tr : Trace) : Bytes := tr.filterMap byteOf

def isWrite : Exchange → Bool
  | ⟨.write _, _⟩ => true
  | _ => false

/-- The acknowledge byte, written without complaint. -/
def acked : Exchange := ⟨.write [ESCAPE], none⟩

/-- The bytes received since the last thing written, if that was the acknowledge. -/
def sinceAck : Trace → Bytes
  | [] => []
  | ev :: tr =>
      if ev = acked ∧ tr.all (fun ev => !isWrite ev) then received tr else sinceAck tr

def refusal : Exchange → Option LinkError
  | ⟨.openPort, r⟩ => r
  | ⟨.closePort, r⟩ => r
  | ⟨.write _, r⟩ => r
  | _ => none

/-- The error of a command the transport refused as the last thing of all. -/
def refusedLast (tr : Trace) : Option LinkError := tr.getLast?.bind refusal

def gets (answers : List (Option UInt8)) : Trace :=
  answers.map fun a => ⟨.get, a⟩

@[simp] theorem marks_append (tr tr' : Trace) : marks (tr ++ tr') = marks tr ++ marks tr' :=
  List.filterMap_append

@[simp] theorem marks_nil : marks [] = [] := rfl

@[simp] theorem marks_cons (ev : Exchange) (tr : Trace) :
    marks (ev :: tr) = (markOf ev).toList ++ marks tr := by
  cases h : markOf ev <;> simp [marks, h]

@[simp] theorem received_append (tr tr' : Trace) :
    received (tr ++ tr') = received tr ++ received tr' :=
  List.filterMap_append

@[simp] theorem gets_cons (a : Option UInt8) (answers : List (Option UInt8)) :
    gets (a :: answers) = ⟨.get, a⟩ :: gets answers := rfl

@[simp] theorem received_gets (answers : List (Option UInt8)) :
    received (gets answers) = answers.reduceOption := by
  induction answers with
  | nil => rfl
  | cons a answers ih =>
      rw [gets_cons]
      cases a with
      | none => exact ih
      | some b => exact congrArg (b :: ·) ih

@[simp] theorem marks_gets (answers : List (Option UInt8)) : marks (gets answers) = [] := by
  induction answers with
  | nil => rfl
  | cons a answers ih => exact ih

theorem isWrite_of_mem_gets {answers : List (Option UInt8)} {ev : Exchange}
    (h : ev ∈ gets answers) : isWrite ev = false := by
  obtain ⟨a, _, rfl⟩ := List.mem_map.mp h
  rfl

theorem marks_eq_nil {tr : Trace} (h : ∀ ev ∈ tr, markOf ev = none) : marks tr = [] := by
  rw [marks, List.filterMap_eq_nil_iff]
  exact h

theorem refusedLast_append {tr tr' : Trace} (h : tr' ≠ []) :
    refusedLast (tr ++ tr') = refusedLast tr' := by
  rw [refusedLast, List.getLast?_append_of_ne_nil _ h]
  rfl

theorem refusedLast_append_of_none {tr tr' : Trace} (h : refusedLast tr = none) :
    refusedLast (tr ++ tr') = refusedLast tr' := by
  by_cases hnil : tr' = []
  · rw [hnil, List.append_nil, h]
    rfl
  · exact refusedLast_append hnil

/-- The acknowledge that is followed by no write is the final one. -/
theorem sinceAck_final (pre : Trace) {post : Trace} (h : ∀ ev ∈ post, isWrite ev = false) :
    sinceAck (pre ++ acked :: post) = received post := by
  induction pre with
  | nil =>
      rw [List.nil_append, sinceAck, if_pos]
      exact ⟨rfl, List.all_eq_true.mpr fun ev hev => by rw [h ev hev]; rfl⟩
  | cons ev pre ih =>
      rw [List.cons_append, sinceAck, if_neg, ih]
      intro hc
      obtain ⟨_, hall⟩ := hc
      have hw := List.all_eq_true.mp hall acked (by simp)
      exact absurd hw (by decide)

theorem sinceAck_eq_nil {tr : Trace} (h : ∀ ev ∈ tr, ev ≠ acked) : sinceAck tr = [] := by
  induction tr with
  | nil => rfl
  | cons ev tr ih =>
      rw [sinceAck, if_neg (fun hc => h ev (by simp) hc.1)]
      exact ih fun ev' hev => h ev' (by simp [hev])

/-! ## One request at a time -/

variable {α : Type}

theorem path_get {f : Option UInt8 → Talk α} {tr : Trace} {r : Except Exc α} :
    Path (Transport.get >>= f) tr r ↔ ∃ a tr', tr = ⟨.get, a⟩ :: tr' ∧ Path (f a) tr' r :=
  Path.ask_iff

theorem path_write {data : Bytes} {f : Unit → Talk α} {tr : Trace} {r : Except Exc α} :
    Path (Transport.write data >>= f) tr r ↔
      (∃ e, tr = [⟨.write data, some e⟩] ∧ r = .error e.toExc) ∨
        ∃ tr', tr = ⟨.write data, none⟩ :: tr' ∧ Path (f ()) tr' r := by
  rw [Transport.write, ask_bind, Path.ask_iff]
  refine ⟨?_, ?_⟩
  · intro hc
    obtain ⟨_ | e, tr', rfl, h⟩ := hc
    · exact .inr ⟨tr', rfl, h⟩
    · obtain ⟨rfl, rfl⟩ := Path.raise_iff.mp h
      exact .inl ⟨e, rfl, rfl⟩
  · intro hc
    rcases hc with ⟨e, rfl, rfl⟩ | ⟨tr', rfl, h⟩
    · exact ⟨some e, [], rfl, .raise _⟩
    · exact ⟨none, tr', rfl, h⟩

theorem path_mark {m : Mark} {f : Unit → Talk α} {tr : Trace} {r : Except Exc α} :
    Path (mark m >>= f) tr r ↔ ∃ tr', tr = ⟨.mark m, ()⟩ :: tr' ∧ Path (f ()) tr' r := by
  rw [mark, ask_bind, Path.ask_iff]
  simp only [ret_bind]
  refine ⟨?_, ?_⟩
  · intro hc
    obtain ⟨_, tr', rfl, h⟩ := hc
    exact ⟨tr', rfl, h⟩
  · intro hc
    obtain ⟨tr', rfl, h⟩ := hc
    exact ⟨(), tr', rfl, h⟩

theorem path_sleep {n : Nat} {f : Unit → Talk α} {tr : Trace} {r : Except Exc α} :
    Path (sleep n >>= f) tr r ↔ ∃ tr', tr = ⟨.sleep n, ()⟩ :: tr' ∧ Path (f ()) tr' r := by
  rw [sleep, ask_bind, Path.ask_iff]
  simp only [ret_bind]
  refine ⟨?_, ?_⟩
  · intro hc
    obtain ⟨_, tr', rfl, h⟩ := hc
    exact ⟨tr', rfl, h⟩
  · intro hc
    obtain ⟨tr', rfl, h⟩ := hc
    exact ⟨(), tr', rfl, h⟩

/-! ## The parts of the handshake -/

/-- Not a mark, and an acknowledge only where the message itself is one. -/
def Preliminary (message : Bytes) (ev : Exchange) : Prop :=
  markOf ev = none ∧ (ev = acked → message = [ESCAPE])

/-- What holds of every write and every `get` of a handshake. -/
structure Handshaking (message : Bytes) (P : Exchange → Prop) : Prop where
  start : ∀ a, P ⟨.write [START_COMMUNICATION], a⟩
  request : ∀ a, P ⟨.write message, a⟩
  get : ∀ a, P ⟨.get, a⟩

theorem within_write {P : Exchange → Prop} {data : Bytes} (h : ∀ a, P ⟨.write data, a⟩) :
    Within P (Transport.write data) := by
  intro a
  exact ⟨h a, by cases a <;> trivial⟩

theorem within_get {P : Exchange → Prop} (h : ∀ a, P ⟨.get, a⟩) : Within P Transport.get :=
  fun a => ⟨h a, trivial⟩

namespace Handshaking
variable {message : Bytes} {P : Exchange → Prop} (h : Handshaking message P)
include h

theorem startCommunication : Within P Connector.startCommunication := by
  refine Within.bind (within_write h.start) fun _ => Within.bind (within_get h.get) fun a => ?_
  cases a with
  | none => trivial
  | some b =>
      simp only []
      split <;> trivial

theorem awaitDataAvailable (fuel : Nat) :
    ∀ bufferRetry numRead buffer,
      Within P (Connector.awaitDataAvailable fuel bufferRetry numRead buffer) := by
  induction fuel with
  | zero => intro _ _ _; trivial
  | succ fuel ih =>
      intro bufferRetry numRead buffer
      rw [Connector.awaitDataAvailable]
      split
      · refine Within.bind (within_get h.get) fun a => ?_
        cases a with
        | none => exact ih _ _ _
        | some b =>
            simp only []
            split
            · trivial
            · split
              · exact ih _ _ _
              · trivial
      · trivial

theorem establishLoop (tries : Nat) :
    ∀ buffer, Within P (Connector.establishLoop message tries buffer) := by
  induction tries with
  | zero => intro _; trivial
  | succ tries ih =>
      intro buffer
      rw [Connector.establishLoop]
      refine Within.bind (within_write h.request) fun _ =>
        Within.bind (h.awaitDataAvailable _ _ _ _) fun res => ?_
      obtain ⟨available, buffer'⟩ := res
      cases available with
      | true => trivial
      | false => exact Within.bind h.startCommunication fun _ => ih buffer'

theorem establishRequest : Within P (Connector.establishRequest message) :=
  h.establishLoop _ _

end Handshaking

theorem handshaking_preliminary (message : Bytes) : Handshaking message (Preliminary message) := by
  refine ⟨?_, ?_, ?_⟩
  · intro a
    refine ⟨rfl, fun h => ?_⟩
    rw [acked] at h
    injection h with ho _
    exact absurd (Op.write.inj ho) (by decide)
  · intro a
    refine ⟨rfl, fun h => ?_⟩
    rw [acked] at h
    injection h with ho _
    exact Op.write.inj ho
  · intro a
    refine ⟨rfl, fun h => ?_⟩
    rw [acked] at h
    injection h with ho _
    cases ho

theorem within_startCommunication {message : Bytes} :
    Within (Preliminary message) Connector.startCommunication :=
  (handshaking_preliminary message).startCommunication

theorem within_establishRequest (message : Bytes) :
    Within (Preliminary message) (Connector.establishRequest message) :=
  (handshaking_preliminary message).establishRequest

/-- What the receive loop can have seen when it stops. With enough rounds it never
runs out of them: each one costs a timeout or fills a byte of the buffer. -/
theorem receiveLoop_path (fuel : Nat) :
    ∀ {retry : Nat} {buffer : Bytes} {tr : Trace} {r : Except Exc Bytes},
      (MAX_RETRY - retry) + (INPUT_BUFFER_LENGTH + 1 - buffer.length) ≤ fuel →
      buffer.length ≤ INPUT_BUFFER_LENGTH →
      Path (Connector.receiveLoop fuel retry buffer) tr r →
      ∃ answers, tr = gets answers ∧
        ((r = .ok (buffer ++ answers.reduceOption) ∧
            (buffer ++ answers.reduceOption).length ≤ INPUT_BUFFER_LENGTH) ∨
          ((∃ text, r = .error (.protocolError text)) ∧
            INPUT_BUFFER_LENGTH < (buffer ++ answers.reduceOption).length)) := by
  induction fuel with
  | zero => intro _ _ _ _ hfuel hlen _; omega
  | succ fuel ih =>
      intro retry buffer tr r hfuel hlen h
      rw [Connector.receiveLoop] at h
      split at h
      · next hretry =>
          rcases path_get.mp h with ⟨_ | b, tr', rfl, hrest⟩
          · obtain ⟨answers, rfl, hr⟩ := ih (by omega) hlen hrest
            exact ⟨none :: answers, rfl, hr⟩
          · simp only [] at hrest
            split at hrest
            · next hfull =>
                obtain ⟨rfl, rfl⟩ := Path.raise_iff.mp hrest
                refine ⟨[some b], rfl, .inr ⟨⟨_, rfl⟩, ?_⟩⟩
                rw [List.length_append]
                exact Nat.lt_succ_of_le hfull
            · next hroom =>
                have hlen' : (buffer ++ [b]).length ≤ INPUT_BUFFER_LENGTH := by
                  rw [List.length_append, List.length_singleton]
                  omega
                split at hrest
                · obtain ⟨rfl, rfl⟩ := Path.ret_iff.mp hrest
                  exact ⟨[some b], rfl, .inl ⟨rfl, hlen'⟩⟩
                · obtain ⟨answers, rfl, hr⟩ := ih (by
                    rw [List.length_append, List.length_singleton]
                    omega) hlen' hrest
                  refine ⟨some b :: answers, rfl, ?_⟩
                  rwa [List.append_assoc] at hr
      · obtain ⟨rfl, rfl⟩ := Path.ret_iff.mp h
        refine ⟨[], rfl, .inl ?_⟩
        rw [List.reduceOption_nil, List.append_nil]
        exact ⟨rfl, hlen⟩

theorem receiveData_path {tr : Trace} {r : Except Exc Bytes}
    (h : Path Connector.receiveData tr r) :
    ∃ answers, tr = gets answers ∧
      ((r = .ok (fixDuplicatedBytes answers.reduceOption) ∧
          answers.reduceOption.length ≤ INPUT_BUFFER_LENGTH) ∨
        ((∃ text, r = .error (.protocolError text)) ∧
          INPUT_BUFFER_LENGTH < answers.reduceOption.length)) := by
  have hfuel : (MAX_RETRY - 0) + (INPUT_BUFFER_LENGTH + 1 - ([] : Bytes).length) ≤ LOOP_FUEL := by
    decide
  rw [Connector.receiveData] at h
  rcases Path.bind_iff.mp h with ⟨e, rfl, hloop⟩ | ⟨buffer, tr₁, tr₂, rfl, hloop, hret⟩
  · obtain ⟨answers, rfl, ⟨hr, _⟩ | hr⟩ := receiveLoop_path _ hfuel (Nat.zero_le _) hloop
    · cases hr
    · exact ⟨answers, rfl, .inr hr⟩
  · obtain ⟨rfl, rfl⟩ := Path.ret_iff.mp hret
    obtain ⟨answers, rfl, ⟨hr, hlen⟩ | ⟨⟨_, hr⟩, _⟩⟩ :=
      receiveLoop_path _ hfuel (Nat.zero_le _) hloop
    · cases hr
      exact ⟨answers, List.append_nil _, .inl ⟨rfl, hlen⟩⟩
    · cases hr

/-- The guarded end of `get_data` never fails; without a complete acknowledge it
has seen nothing. -/
theorem acknowledgeAndReceive_path {tr : Trace} {r : Except Exc Bytes}
    (h : Path Connector.acknowledgeAndReceive tr r) :
    (∃ e, tr = [⟨.write [ESCAPE], some e⟩] ∧ r = .ok []) ∨
      ∃ answers, tr = acked :: gets answers ∧
        r = .ok (if answers.reduceOption.length ≤ INPUT_BUFFER_LENGTH
          then fixDuplicatedBytes answers.reduceOption else []) := by
  rw [Connector.acknowledgeAndReceive] at h
  rcases Path.handle_iff.mp h with ⟨reply, rfl, hbody⟩ | ⟨e, tr₁, tr₂, rfl, hbody, hret⟩
  · rcases path_write.mp hbody with ⟨e, _, hr⟩ | ⟨tr, rfl, hdata⟩
    · cases hr
    · obtain ⟨answers, rfl, ⟨hr, hlen⟩ | ⟨⟨_, hr⟩, _⟩⟩ := receiveData_path hdata
      · exact .inr ⟨answers, rfl, by rw [if_pos hlen, hr]⟩
      · cases hr
  · obtain ⟨rfl, rfl⟩ := Path.ret_iff.mp hret
    rw [List.append_nil]
    rcases path_write.mp hbody with ⟨e, rfl, _⟩ | ⟨tr, rfl, hdata⟩
    · exact .inl ⟨e, rfl, rfl⟩
    · obtain ⟨answers, rfl, ⟨hr, _⟩ | ⟨_, hlen⟩⟩ := receiveData_path hdata
      · cases hr
      · exact .inr ⟨answers, rfl, by rw [if_neg (by omega)]⟩

/-! ## The two public methods -/

/-- What the end of an exchange saw and made of it: no acknowledge went out, or
one did and the bytes after it became the reply. -/
inductive Reception : Trace → Bytes → Prop
  | unasked : Reception [] []
  | refused (e : LinkError) : Reception [⟨.write [ESCAPE], some e⟩] []
  | heard (answers : List (Option UInt8)) : Reception (acked :: gets answers)
      (if answers.reduceOption.length ≤ INPUT_BUFFER_LENGTH
        then fixDuplicatedBytes answers.reduceOption else [])

theorem Reception.marks_eq {seen : Trace} {reply : Bytes} (h : Reception seen reply) :
    marks seen = [] := by
  cases h with
  | unasked => rfl
  | refused e => rfl
  | heard answers =>
      rw [marks_cons, marks_gets]
      rfl

@[simp] theorem received_heard (answers : List (Option UInt8)) :
    received (acked :: gets answers) = answers.reduceOption :=
  received_gets answers

theorem Reception.reply_eq {seen : Trace} {reply : Bytes} (h : Reception seen reply) :
    reply = if (received seen).length ≤ INPUT_BUFFER_LENGTH
      then fixDuplicatedBytes (received seen) else [] := by
  cases h with
  | unasked => rfl
  | refused e => rfl
  | heard answers => rw [received_heard]

theorem mark_ne_acked (m : Mark) : (⟨.mark m, ()⟩ : Exchange) ≠ acked := by
  intro hc
  rw [acked] at hc
  injection hc with ho _
  cases ho

/-- The bytes since the final acknowledge are those the end of the exchange saw. -/
theorem Reception.sinceAck_eq {message : Bytes} {m m' : Mark} {pre seen : Trace} {reply : Bytes}
    (hm : message ≠ [ESCAPE]) (hpre : ∀ ev ∈ pre, Preliminary message ev)
    (h : Reception seen reply) :
    sinceAck (⟨.mark m, ()⟩ :: (pre ++ seen ++ [⟨.mark m', ()⟩])) = received seen := by
  have hquiet : ∀ ev ∈ pre, ev ≠ acked := fun ev hev hc => hm ((hpre ev hev).2 hc)
  cases h with
  | unasked =>
      rw [sinceAck_eq_nil]
      · rfl
      · intro ev hev
        simp only [List.append_nil, List.mem_cons, List.mem_append, List.not_mem_nil,
          or_false] at hev
        rcases hev with rfl | hev | rfl
        · exact mark_ne_acked m
        · exact hquiet ev hev
        · exact mark_ne_acked m'
  | refused e =>
      rw [sinceAck_eq_nil]
      · rfl
      · intro ev hev
        simp only [List.mem_cons, List.mem_append, List.not_mem_nil, or_false] at hev
        rcases hev with rfl | (hev | rfl) | rfl
        · exact mark_ne_acked m
        · exact hquiet ev hev
        · rw [acked]
          intro hc
          injection hc with _ ha
          cases ha
        · exact mark_ne_acked m'
  | heard answers =>
      have hsplit : (⟨.mark m, ()⟩ : Exchange) ::
            (pre ++ acked :: gets answers ++ [⟨.mark m', ()⟩])
          = (⟨.mark m, ()⟩ :: pre) ++ acked :: (gets answers ++ [⟨.mark m', ()⟩]) := by
        simp
      have hpost : ∀ ev ∈ gets answers ++ [(⟨.mark m', ()⟩ : Exchange)],
          isWrite ev = false := by
        intro ev hev
        rcases List.mem_append.mp hev with hev | hev
        · exact isWrite_of_mem_gets hev
        · rw [List.mem_singleton.mp hev]
          rfl
      rw [hsplit, sinceAck_final _ hpost, received_append, received_heard, received_gets]
      exact List.append_nil _

/-- The end of a read, after the handshake. It returns a reply in any case; `10` is written
exactly where the handshake was established. -/
theorem replied_path {established : Bool} {tr : Trace} {r : Except Exc Bytes}
    (h : Path (do
      let reply ← (if !established then pure [] else Connector.acknowledgeAndReceive)
      mark (.gotData reply)
      return reply) tr r) :
    ∃ reply seen, r = .ok reply ∧ tr = seen ++ [⟨.mark (.gotData reply), ()⟩] ∧
      Reception seen reply ∧ (established = false ↔ seen = []) := by
  have hlast : ∀ {reply : Bytes} {last : Trace},
      Path (do mark (.gotData reply); return reply) last r →
      r = .ok reply ∧ last = [⟨.mark (.gotData reply), ()⟩] := by
    intro reply last h
    obtain ⟨last, rfl, hret⟩ := path_mark.mp h
    obtain ⟨rfl, rfl⟩ := Path.ret_iff.mp hret
    exact ⟨rfl, rfl⟩
  cases established with
  | false =>
      obtain ⟨rfl, rfl⟩ := hlast h
      exact ⟨[], [], rfl, rfl, .unasked, by simp⟩
  | true =>
      rcases Path.bind_iff.mp h with ⟨e, rfl, hp⟩ | ⟨reply, tr₁, tr₂, rfl, hp, htail⟩
      · rcases acknowledgeAndReceive_path hp with ⟨_, _, hr⟩ | ⟨_, _, hr⟩ <;> cases hr
      · obtain ⟨rfl, rfl⟩ := hlast htail
        rcases acknowledgeAndReceive_path hp with ⟨e, rfl, hr⟩ | ⟨answers, rfl, hr⟩
        · cases hr
          exact ⟨_, _, rfl, rfl, .refused e, by simp⟩
        · cases hr
          exact ⟨_, _, rfl, rfl, .heard answers, by simp⟩

theorem getData_path {message : Bytes} {tr : Trace} {r : Except Exc Bytes}
    (h : Path (Connector.getData message) tr r) :
    ∃ pre, (∀ ev ∈ pre, Preliminary message ev) ∧
      ((∃ e, r = .error e ∧ tr = ⟨.mark (.getData message), ()⟩ :: pre) ∨
        ∃ reply seen, r = .ok reply ∧ Reception seen reply ∧
          tr = ⟨.mark (.getData message), ()⟩ ::
            (pre ++ seen ++ [⟨.mark (.gotData reply), ()⟩])) := by
  rw [Connector.getData] at h
  obtain ⟨tr, rfl, hstart⟩ := path_mark.mp h
  rcases Path.bind_iff.mp hstart with ⟨e, rfl, hp⟩ | ⟨_, tr₁, tr₂, rfl, hp₁, hrest⟩
  · exact ⟨tr, within_startCommunication.path hp, .inl ⟨e, rfl, rfl⟩⟩
  rcases Path.bind_iff.mp hrest with ⟨e, rfl, hp⟩ | ⟨established, tr₂, tr₃, rfl, hp₂, htail⟩
  · refine ⟨tr₁ ++ tr₂, ?_, .inl ⟨e, rfl, rfl⟩⟩
    intro ev hev
    rcases List.mem_append.mp hev with hev | hev
    · exact within_startCommunication.path hp₁ ev hev
    · exact (within_establishRequest message).path hp ev hev
  refine ⟨tr₁ ++ tr₂, ?_, .inr ?_⟩
  · intro ev hev
    rcases List.mem_append.mp hev with hev | hev
    · exact within_startCommunication.path hp₁ ev hev
    · exact (within_establishRequest message).path hp₂ ev hev
  obtain ⟨reply, seen, rfl, rfl, hseen, _⟩ := replied_path htail
  exact ⟨reply, seen, rfl, hseen, by simp⟩

theorem getData_marks {message : Bytes} {tr : Trace} {r : Except Exc Bytes}
    (h : Path (Connector.getData message) tr r) :
    marks tr = .getData message :: (r.toOption.map Mark.gotData).toList := by
  obtain ⟨pre, hpre, ⟨e, rfl, rfl⟩ | ⟨reply, seen, rfl, hrec, rfl⟩⟩ := getData_path h
  · rw [marks_cons, marks_eq_nil fun ev hev => (hpre ev hev).1]
    rfl
  · rw [marks_cons, marks_append, marks_append, marks_eq_nil fun ev hev => (hpre ev hev).1,
      hrec.marks_eq]
    rfl

theorem getData_ok_marks {message reply : Bytes} {tr : Trace}
    (h : Path (Connector.getData message) tr (.ok reply)) :
    marks tr = [.getData message, .gotData reply] :=
  getData_marks h

theorem getData_reply {message : Bytes} (hm : message ≠ [ESCAPE]) {tr : Trace}
    {reply : Bytes} (h : Path (Connector.getData message) tr (.ok reply)) :
    reply = if (sinceAck tr).length ≤ INPUT_BUFFER_LENGTH
      then fixDuplicatedBytes (sinceAck tr) else [] := by
  obtain ⟨pre, hpre, ⟨e, he, _⟩ | ⟨reply', seen, hr, hrec, rfl⟩⟩ := getData_path h
  · cases he
  · cases hr
    rw [hrec.sinceAck_eq hm hpre]
    exact hrec.reply_eq

/-- A handshake that comes to an end has sent the message at least once. -/
theorem establishRequest_written {message : Bytes} {tr : Trace} {available : Bool}
    (h : Path (Connector.establishRequest message) tr (.ok available)) :
    (⟨.write message, none⟩ : Exchange) ∈ tr := by
  rw [Connector.establishRequest, MAX_RETRY, Connector.establishLoop] at h
  rcases path_write.mp h with ⟨e, _, hr⟩ | ⟨tr', rfl, _⟩
  · cases hr
  · exact List.mem_cons_self

/-- The guarded part of `set_data` never fails, and only a whole handshake counts. -/
theorem transmit_path {message : Bytes} {tr : Trace} {r : Except Exc Bool}
    (h : Path (Connector.transmit message) tr r) :
    ∃ pre, (∀ ev ∈ pre, Preliminary message ev) ∧
      ((r = .ok false ∧ tr = pre) ∨
        ((⟨.write message, none⟩ : Exchange) ∈ pre ∧
          ((∃ e, r = .ok false ∧ tr = pre ++ [⟨.write [ESCAPE], some e⟩]) ∨
            r = .ok true ∧ tr = pre ++ [acked]))) := by
  rw [Connector.transmit] at h
  -- The body's own paths; the handler adds nothing to the trace.
  have hbody : ∀ {tr : Trace} {r : Except Exc Bool},
      Path (do
        Connector.startCommunication
        let _ ← Connector.establishRequest message
        Transport.write [ESCAPE]
        return true) tr r →
      ∃ pre, (∀ ev ∈ pre, Preliminary message ev) ∧
        (((∃ e, r = .error e) ∧ tr = pre) ∨
          ((⟨.write message, none⟩ : Exchange) ∈ pre ∧
            ((∃ e, r = .error e.toExc ∧ tr = pre ++ [⟨.write [ESCAPE], some e⟩]) ∨
              r = .ok true ∧ tr = pre ++ [acked]))) := by
    intro tr r hp
    rcases Path.bind_iff.mp hp with ⟨e, rfl, hp₁⟩ | ⟨_, tr₁, tr₂, rfl, hp₁, hrest⟩
    · exact ⟨tr, within_startCommunication.path hp₁, .inl ⟨⟨e, rfl⟩, rfl⟩⟩
    rcases Path.bind_iff.mp hrest with ⟨e, rfl, hp₂⟩ | ⟨available, tr₂, tr₃, rfl, hp₂, hack⟩
    · refine ⟨tr₁ ++ tr₂, ?_, .inl ⟨⟨e, rfl⟩, rfl⟩⟩
      intro ev hev
      rcases List.mem_append.mp hev with hev | hev
      · exact within_startCommunication.path hp₁ ev hev
      · exact (within_establishRequest message).path hp₂ ev hev
    refine ⟨tr₁ ++ tr₂, ?_, .inr ⟨?_, ?_⟩⟩
    · intro ev hev
      rcases List.mem_append.mp hev with hev | hev
      · exact within_startCommunication.path hp₁ ev hev
      · exact (within_establishRequest message).path hp₂ ev hev
    · exact List.mem_append_right _ (establishRequest_written hp₂)
    · rcases path_write.mp hack with ⟨e, rfl, rfl⟩ | ⟨tr', rfl, hret⟩
      · exact .inl ⟨e, rfl, by simp⟩
      · obtain ⟨rfl, rfl⟩ := Path.ret_iff.mp hret
        exact .inr ⟨rfl, by simp [acked]⟩
  rcases Path.handle_iff.mp h with ⟨b, rfl, hp⟩ | ⟨e, tr₁, tr₂, rfl, hp, hret⟩
  · obtain ⟨pre, hpre, ⟨⟨e, he⟩, _⟩ | ⟨hw, ⟨e, he, _⟩ | hdone⟩⟩ := hbody hp
    · cases he
    · cases he
    · exact ⟨pre, hpre, .inr ⟨hw, .inr hdone⟩⟩
  · obtain ⟨rfl, rfl⟩ := Path.ret_iff.mp hret
    rw [List.append_nil]
    obtain ⟨pre, hpre, ⟨_, rfl⟩ | ⟨hw, ⟨e', _, rfl⟩ | ⟨he, _⟩⟩⟩ := hbody hp
    · exact ⟨tr₁, hpre, .inl ⟨rfl, rfl⟩⟩
    · exact ⟨pre, hpre, .inr ⟨hw, .inl ⟨e', rfl, rfl⟩⟩⟩
    · cases he

theorem setData_path {message : Bytes} {tr : Trace} {r : Except Exc Bytes}
    (h : Path (Connector.setData message) tr r) :
    ∃ pre, (∀ ev ∈ pre, Preliminary message ev) ∧
      ((∃ text answers, r = .error (.protocolError text) ∧
          INPUT_BUFFER_LENGTH < answers.reduceOption.length ∧
          tr = ⟨.mark (.setData message), ()⟩ :: (pre ++ acked :: gets answers)) ∨
        ∃ reply seen, r = .ok reply ∧ Reception seen reply ∧
          (received seen).length ≤ INPUT_BUFFER_LENGTH ∧
          (seen = [] ∨ (⟨.write message, none⟩ : Exchange) ∈ pre) ∧
          tr = ⟨.mark (.setData message), ()⟩ ::
            (pre ++ seen ++ [⟨.mark (.didSet reply), ()⟩])) := by
  rw [Connector.setData] at h
  obtain ⟨tr, rfl, hrest⟩ := path_mark.mp h
  rcases Path.bind_iff.mp hrest with ⟨e, rfl, hp⟩ | ⟨transmitted, tr₁, tr₂, rfl, hp, htail⟩
  · obtain ⟨pre, _, ⟨hr, _⟩ | ⟨_, ⟨e, hr, _⟩ | ⟨hr, _⟩⟩⟩ := transmit_path hp <;> cases hr
  obtain ⟨pre, hpre, hcases⟩ := transmit_path hp
  refine ⟨pre, hpre, ?_⟩
  rcases hcases with ⟨hr, rfl⟩ | ⟨hw, ⟨e, hr, rfl⟩ | ⟨hr, rfl⟩⟩
  · cases hr
    obtain ⟨last, rfl, hret⟩ := path_mark.mp htail
    obtain ⟨rfl, rfl⟩ := Path.ret_iff.mp hret
    exact .inr ⟨[], [], rfl, .unasked, Nat.zero_le _, .inl rfl, by simp⟩
  · cases hr
    obtain ⟨last, rfl, hret⟩ := path_mark.mp htail
    obtain ⟨rfl, rfl⟩ := Path.ret_iff.mp hret
    exact .inr ⟨[], _, rfl, .refused e, Nat.zero_le _, .inr hw, by simp⟩
  · cases hr
    rcases Path.bind_iff.mp htail with ⟨e, rfl, hp₂⟩ | ⟨reply, tr₂, tr₃, rfl, hp₂, hlast⟩
    · obtain ⟨answers, rfl, ⟨he, _⟩ | ⟨⟨text, he⟩, hlen⟩⟩ := receiveData_path hp₂
      · cases he
      · cases he
        exact .inl ⟨text, answers, rfl, hlen, by simp⟩
    · obtain ⟨answers, rfl, ⟨he, hlen⟩ | ⟨⟨_, he⟩, _⟩⟩ := receiveData_path hp₂
      · cases he
        obtain ⟨last, rfl, hret⟩ := path_mark.mp hlast
        obtain ⟨rfl, rfl⟩ := Path.ret_iff.mp hret
        refine .inr ⟨_, acked :: gets answers, rfl, ?_, ?_, .inr hw, by simp⟩
        · have hrec := Reception.heard answers
          rwa [if_pos hlen] at hrec
        · rwa [received_heard]
      · cases he

theorem setData_marks {message : Bytes} {tr : Trace} {r : Except Exc Bytes}
    (h : Path (Connector.setData message) tr r) :
    marks tr = .setData message :: (r.toOption.map Mark.didSet).toList := by
  obtain ⟨pre, hpre, ⟨text, answers, rfl, _, rfl⟩ | ⟨reply, seen, rfl, hrec, _, _, rfl⟩⟩ :=
    setData_path h
  · rw [marks_cons, marks_append, marks_eq_nil fun ev hev => (hpre ev hev).1, marks_cons,
      marks_gets]
    rfl
  · rw [marks_cons, marks_append, marks_append, marks_eq_nil fun ev hev => (hpre ev hev).1,
      hrec.marks_eq]
    rfl

theorem setData_ok_marks {message reply : Bytes} {tr : Trace}
    (h : Path (Connector.setData message) tr (.ok reply)) :
    marks tr = [.setData message, .didSet reply] :=
  setData_marks h

/-- More bytes than the buffer holds are an error, any others make the reply. -/
theorem setData_heard {message : Bytes} (hm : message ≠ [ESCAPE]) {tr : Trace}
    {r : Except Exc Bytes} (h : Path (Connector.setData message) tr r) :
    (INPUT_BUFFER_LENGTH < (sinceAck tr).length ∧ ∃ text, r = .error (.protocolError text)) ∨
      ((sinceAck tr).length ≤ INPUT_BUFFER_LENGTH ∧
        r = .ok (fixDuplicatedBytes (sinceAck tr))) := by
  obtain ⟨pre, hpre, ⟨text, answers, rfl, hlen, rfl⟩ | ⟨reply, seen, rfl, hrec, hlen, _, rfl⟩⟩ :=
    setData_path h
  · rw [← List.cons_append, sinceAck_final _ fun ev hev => isWrite_of_mem_gets hev,
      received_gets]
    exact .inl ⟨hlen, text, rfl⟩
  · rw [hrec.sinceAck_eq hm hpre]
    refine .inr ⟨hlen, ?_⟩
    rw [hrec.reply_eq, if_pos hlen]

/-- The reply of a SET that came to an end. -/
theorem setData_ended {message : Bytes} (hm : message ≠ [ESCAPE]) {tr : Trace}
    {reply : Bytes} (h : Path (Connector.setData message) tr (.ok reply)) :
    (sinceAck tr).length ≤ INPUT_BUFFER_LENGTH ∧ reply = fixDuplicatedBytes (sinceAck tr) := by
  rcases setData_heard hm h with ⟨_, _, hr⟩ | ⟨hlen, hr⟩
  · cases hr
  · cases hr
    exact ⟨hlen, rfl⟩

/-- A reply that is not empty answers a message that was sent. -/
theorem setData_written {message : Bytes} {tr : Trace} {reply : Bytes}
    (h : Path (Connector.setData message) tr (.ok reply)) (hne : reply ≠ []) :
    (⟨.write message, none⟩ : Exchange) ∈ tr := by
  obtain ⟨pre, _, ⟨_, _, he, _⟩ | ⟨reply', seen, hr, hrec, _, hw, rfl⟩⟩ := setData_path h
  · cases he
  · cases hr
    rcases hw with rfl | hw
    · cases hrec
      exact absurd rfl hne
    · simp [hw]

end HeatpumpGateway
