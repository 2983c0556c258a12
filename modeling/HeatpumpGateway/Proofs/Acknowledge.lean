import HeatpumpGateway.Proofs.Exchange
import HeatpumpGateway.Proofs.Receive
import Mathlib.Data.List.TakeWhile

/-!
# What an acknowledge answers

`_establish_request` looks for `10 02` at the front of a buffer that it shares
between its tries. The first byte of a try is compared together with the second
byte an earlier try left there, so a lone `10` is taken for the signal when that
byte is `02` (`Stale`). And the caller that ignores the verdict acknowledges after
the last try as well, once the start handshake behind it is answered.
-/

namespace HeatpumpGateway

open Dialogue Connector

/-! ## Tries in a trace -/

/-- A transmission that went out. -/
def sent (message : Bytes) : Exchange := ⟨.write message, none⟩

/-- The bytes received after the last transmission of a message. -/
def sinceSent (message : Bytes) : Trace → Bytes
  | [] => []
  | ev :: tr =>
      if ev = sent message ∧ sent message ∉ tr then received tr else sinceSent message tr

/-- The bytes each transmission of the message was followed by, up to the next write. -/
def tries (message : Bytes) : Trace → List Bytes
  | [] => []
  | ev :: tr =>
      if ev = sent message then
        received (tr.takeWhile fun ev => !isWrite ev) :: tries message tr
      else tries message tr

/-- Some try begins with `10` while the last byte that came second in a try before it
is `02`; `left` is what the buffer holds there at first. -/
def Stale (left : UInt8) : List Bytes → Prop
  | [] => False
  | bytes :: rest =>
      (bytes.head? = some ESCAPE ∧ left = START_COMMUNICATION) ∨
        Stale (bytes[1]?.getD left) rest

def started : Exchange := sent [START_COMMUNICATION]
def answered : Exchange := ⟨.get, some ESCAPE⟩

/-- The start handshakes that were answered by `10`. -/
def answeredStarts : Trace → Nat
  | [] => 0
  | ev :: tr =>
      (if ev = started ∧ tr.head? = some answered then 1 else 0) + answeredStarts tr

/-- A write of the acknowledge byte, whether it went out or not. -/
def isAck : Exchange → Bool
  | ⟨.write data, _⟩ => data = [ESCAPE]
  | _ => false

/-- Every acknowledge follows `10 02` as the first bytes after the last transmission. -/
def AckedOnSignal (message : Bytes) (tr : Trace) : Prop :=
  ∀ pre ev post, tr = pre ++ ev :: post → isAck ev = true →
    (sinceSent message pre).take 2 = DATA_AVAILABLE

instance (left : UInt8) (bytes : List Bytes) : Decidable (Stale left bytes) := by
  induction bytes generalizing left with
  | nil => exact instDecidableFalse
  | cons bytes rest ih =>
      have := ih (bytes[1]?.getD left)
      exact instDecidableOr

variable {message : Bytes} {left : UInt8}

theorem sinceSent_final (pre : Trace) {post : Trace} (h : sent message ∉ post) :
    sinceSent message (pre ++ sent message :: post) = received post := by
  induction pre with
  | nil => rw [List.nil_append, sinceSent, if_pos ⟨rfl, h⟩]
  | cons ev pre ih =>
      have hmem : sent message ∈ pre ++ sent message :: post := by simp
      rw [List.cons_append, sinceSent, if_neg fun hc => hc.2 hmem, ih]

theorem sinceSent_append {tr tr' : Trace} (h : sent message ∈ tr') :
    sinceSent message (tr ++ tr') = sinceSent message tr' := by
  induction tr with
  | nil => rfl
  | cons ev tr ih =>
      have hmem : sent message ∈ tr ++ tr' := List.mem_append_right _ h
      rw [List.cons_append, sinceSent, if_neg fun hc => hc.2 hmem, ih]

theorem tries_skip {tr : Trace} (h : sent message ∉ tr) (tr' : Trace) :
    tries message (tr ++ tr') = tries message tr' := by
  induction tr with
  | nil => rfl
  | cons ev tr ih =>
      rw [List.mem_cons, not_or] at h
      rw [List.cons_append, tries, if_neg (Ne.symm h.1), ih h.2]

/-- What follows without a byte before its first write belongs to no try before it. -/
theorem tries_append (tr : Trace) {tr' : Trace}
    (h : received (tr'.takeWhile fun ev => !isWrite ev) = []) :
    tries message (tr ++ tr') = tries message tr ++ tries message tr' := by
  induction tr with
  | nil => rfl
  | cons ev tr ih =>
      have hbytes : received ((tr ++ tr').takeWhile fun ev => !isWrite ev)
          = received (tr.takeWhile fun ev => !isWrite ev) := by
        rw [List.takeWhile_append]
        split
        · next hall =>
            rw [received_append, h, List.append_nil]
            rw [(List.takeWhile_prefix _).eq_of_length hall]
        · rfl
      rw [List.cons_append, tries, tries, hbytes, ih]
      split
      · rfl
      · rfl

theorem answeredStarts_append (tr : Trace) {tr' : Trace} (h : tr'.head? ≠ some answered) :
    answeredStarts (tr ++ tr') = answeredStarts tr + answeredStarts tr' := by
  induction tr with
  | nil => rw [List.nil_append, answeredStarts, Nat.zero_add]
  | cons ev tr ih =>
      have hhead : (tr ++ tr').head? = some answered ↔ tr.head? = some answered := by
        cases tr with
        | nil => exact iff_of_false h fun hc => by cases hc
        | cons ev' tr => rfl
      rw [List.cons_append, answeredStarts, answeredStarts, ih, Nat.add_assoc]
      simp only [hhead]

theorem answeredStarts_eq_zero {tr : Trace} (h : started ∉ tr) : answeredStarts tr = 0 := by
  induction tr with
  | nil => rfl
  | cons ev tr ih =>
      rw [List.mem_cons, not_or] at h
      rw [answeredStarts, if_neg fun hc => h.1 hc.1.symm, ih h.2]

theorem ne_sent_of_gets {answers : List (Option UInt8)} (message : Bytes) :
    sent message ∉ gets answers := by
  intro hc
  have hwrite := isWrite_of_mem_gets hc
  cases hwrite

/-! ## Waiting for the signal -/

/-- The buffer of a wait: the bytes received so far over what was there. -/
def overlay (old got : Bytes) : Bytes := got ++ old.drop got.length

/-- Whether one of the bytes, as it comes in, shows the signal. -/
def Hears (old : Bytes) : Bytes → Bytes → Prop
  | _, [] => False
  | got, b :: bytes =>
      (overlay old (got ++ [b])).take 2 = DATA_AVAILABLE ∨ Hears old (got ++ [b]) bytes

theorem overlay_set {old got : Bytes} (b : UInt8) (h : got.length < old.length) :
    (overlay old got).set got.length b = overlay old (got ++ [b]) := by
  rw [overlay, overlay, List.set_append_right _ _ (Nat.le_refl _), Nat.sub_self,
    List.drop_eq_getElem_cons h, List.set_cons_zero, List.length_append, List.length_singleton,
    List.append_assoc]
  rfl

theorem awaitDataAvailable_path {old : Bytes} (hold : old.length = INPUT_BUFFER_LENGTH)
    (fuel : Nat) :
    ∀ {retry : Nat} {got : Bytes} {tr : Trace} {r : Except Exc (Bool × Bytes)},
      (MAX_RETRY - retry) + (INPUT_BUFFER_LENGTH + 1 - got.length) ≤ fuel →
      got.length ≤ INPUT_BUFFER_LENGTH →
      Path (awaitDataAvailable fuel retry got.length (overlay old got)) tr r →
      ∃ answers, tr = gets answers ∧
        ((∃ front b, answers.reduceOption = front ++ [b] ∧ ¬ Hears old got front ∧
            Hears old got (front ++ [b]) ∧ ∃ buffer, r = .ok (true, buffer)) ∨
          (¬ Hears old got answers.reduceOption ∧
            got.length + answers.reduceOption.length ≤ INPUT_BUFFER_LENGTH ∧
            r = .ok (false, overlay old (got ++ answers.reduceOption))) ∨
          ∃ front b text, answers.reduceOption = front ++ [b] ∧ ¬ Hears old got front ∧
            got.length + front.length = INPUT_BUFFER_LENGTH ∧
            r = .error (.protocolError text)) := by
  induction fuel with
  | zero => intro _ _ _ _ hfuel hlen _; omega
  | succ fuel ih =>
      intro retry got tr r hfuel hlen h
      rw [awaitDataAvailable] at h
      split at h
      swap
      · obtain ⟨rfl, rfl⟩ := Path.ret_iff.mp h
        refine ⟨[], rfl, .inr (.inl ⟨id, by simpa using hlen, ?_⟩)⟩
        rw [List.reduceOption_nil, List.append_nil]
      rcases path_get.mp h with ⟨_ | b, tr', rfl, hrest⟩
      · obtain ⟨answers, rfl, hr⟩ := ih (by omega) hlen hrest
        exact ⟨none :: answers, rfl, hr⟩
      have hsize : (overlay old got).length = INPUT_BUFFER_LENGTH := by
        rw [overlay, List.length_append, List.length_drop, hold]
        omega
      simp only [ge_iff_le, hsize] at hrest
      split at hrest
      · next hfull =>
          obtain ⟨rfl, rfl⟩ := Path.raise_iff.mp hrest
          exact ⟨[some b], rfl, .inr (.inr ⟨[], b, _, rfl, id, by simp; omega, rfl⟩)⟩
      next hroom =>
        rw [overlay_set b (by omega)] at hrest
        split at hrest
        swap
        · next hsignal =>
            obtain ⟨rfl, rfl⟩ := Path.ret_iff.mp hrest
            exact ⟨[some b], rfl, .inl ⟨[], b, rfl, id, .inl (not_not.mp hsignal), _, rfl⟩⟩
        next hsilent =>
          have hnext : got.length + 1 = (got ++ [b]).length := by simp
          rw [hnext] at hrest
          obtain ⟨answers, rfl, hr⟩ := ih (by rw [← hnext]; omega) (by omega) hrest
          have hreduce : (some b :: answers).reduceOption = b :: answers.reduceOption :=
            List.reduceOption_cons_of_some b answers
          refine ⟨some b :: answers, rfl, ?_⟩
          rw [hreduce]
          have hhears : ∀ bytes, Hears old got (b :: bytes) ↔ Hears old (got ++ [b]) bytes :=
            fun bytes => or_iff_right hsilent
          rcases hr with ⟨front, b', hfront, hquiet, hheard, hr⟩ | ⟨hquiet, hfits, hr⟩ |
            ⟨front, b', text, hfront, hquiet, hfull, hr⟩
          · refine .inl ⟨b :: front, b', by rw [hfront]; rfl, ?_, ?_, hr⟩
            · rwa [hhears]
            · rwa [List.cons_append, hhears]
          · refine .inr (.inl ⟨by rwa [hhears], by rw [List.length_cons]; omega, ?_⟩)
            rw [hr, List.append_assoc]
            rfl
          · exact .inr (.inr ⟨b :: front, b', text, by rw [hfront]; rfl, by rwa [hhears],
              by rw [List.length_cons]; omega, hr⟩)

/-- Only the first two bytes matter, and before the second one what was left there. -/
theorem hears_iff {old : Bytes} (hleft : old[1]? = some left) (bytes : Bytes) :
    Hears old [] bytes ↔
      (bytes.head? = some ESCAPE ∧ left = START_COMMUNICATION) ∨
        bytes.take 2 = DATA_AVAILABLE := by
  have hlater : ∀ {bytes got : Bytes}, 2 ≤ got.length → got.take 2 ≠ DATA_AVAILABLE →
      ¬ Hears old got bytes := by
    intro bytes
    induction bytes with
    | nil => intro _ _ _ hc; exact hc
    | cons b bytes ih =>
        intro got hlong hquiet hc
        rcases hc with hc | hc
        · rw [overlay, List.append_assoc, List.take_append_of_le_length hlong] at hc
          exact hquiet hc
        · refine ih ?_ ?_ hc
          · rw [List.length_append]
            omega
          · rwa [List.take_append_of_le_length hlong]
  obtain ⟨x, old', hold⟩ : ∃ x old', old = x :: left :: old' := by
    match old, hleft with
    | x :: y :: old', hleft =>
        cases hleft
        exact ⟨x, old', rfl⟩
  match bytes with
  | [] => simp [Hears, DATA_AVAILABLE]
  | [b] => simp [Hears, overlay, hold, DATA_AVAILABLE]
  | b :: b' :: bytes =>
      have htail : Hears old [b, b'] bytes → [b, b'] = DATA_AVAILABLE := by
        intro hc
        by_contra hquiet
        exact hlater (show 2 ≤ [b, b'].length from Nat.le_refl 2) hquiet hc
      have hfirst : (overlay old [b]).take 2 = [b, left] := by rw [overlay, hold]; rfl
      have hsecond : (overlay old [b, b']).take 2 = [b, b'] := by rw [overlay, hold]; rfl
      rw [Hears, Hears, List.nil_append, List.singleton_append, hfirst, hsecond,
        or_iff_left_of_imp htail]
      simp [DATA_AVAILABLE]

/-- Whether a wait ends with the signal, by the bytes it receives. -/
def Signals (left : UInt8) (bytes : Bytes) : Prop :=
  (bytes.head? = some ESCAPE ∧ left = START_COMMUNICATION) ∨ bytes.take 2 = DATA_AVAILABLE

/-- The bytes of a wait that ended with the signal: the signal itself, or its first byte alone
on what was left of an earlier try. -/
theorem signals_last {front : Bytes} {b : UInt8} (hquiet : ¬ Signals left front)
    (h : Signals left (front ++ [b])) :
    (front ++ [b] = DATA_AVAILABLE ∧ left ≠ START_COMMUNICATION) ∨
      (front ++ [b] = [ESCAPE] ∧ left = START_COMMUNICATION) := by
  rw [Signals, not_or, not_and] at hquiet
  match front, h with
  | [], h =>
      rcases h with ⟨hhead, hleft⟩ | hc
      · cases hhead
        exact .inr ⟨rfl, hleft⟩
      · cases hc
  | [x], h =>
      have hleft : x = ESCAPE → left ≠ START_COMMUNICATION := fun hx => hquiet.1 (by rw [hx]; rfl)
      rcases h with ⟨hhead, hstale⟩ | hc
      · cases hhead
        exact absurd hstale (hleft rfl)
      · have hx : x = ESCAPE := (List.cons.inj hc).1
        exact .inl ⟨hc, hleft hx⟩
  | x :: y :: front, h =>
      rcases h with ⟨hhead, hstale⟩ | hc
      · exact absurd hstale (hquiet.1 hhead)
      · exact absurd hc hquiet.2

/-- The first two bytes decide. -/
theorem signals_append {left : UInt8} {front rest : Bytes} (h : 2 ≤ front.length) :
    Signals left (front ++ rest) ↔ Signals left front := by
  have hne : front ≠ [] := List.ne_nil_of_length_pos (by omega)
  rw [Signals, Signals, List.take_append_of_le_length h, List.head?_append_of_ne_nil _ hne]

/-! ## The ways out of the handshake -/

/-- A start handshake that does not answer `10`. -/
def Unanswered (tr : Trace) : Prop :=
  (∃ e, tr = [⟨.write [START_COMMUNICATION], some e⟩]) ∨
    ∃ a : Option UInt8, a ≠ some ESCAPE ∧ tr = [started, ⟨.get, a⟩]

/-- What the connector raises: its own complaints, and what the transport refused with. -/
def FromLink (e : Exc) : Prop :=
  (∃ text, e = .protocolError text) ∨ ∃ l : LinkError, e = l.toExc

theorem startCommunication_path {tr : Trace} {r : Except Exc Unit}
    (h : Path startCommunication tr r) :
    (r = .ok () ∧ tr = [started, answered]) ∨
      ((∃ e, r = .error e ∧ FromLink e) ∧ Unanswered tr) := by
  rw [startCommunication] at h
  rcases path_write.mp h with ⟨e, rfl, rfl⟩ | ⟨tr', rfl, hget⟩
  · exact .inr ⟨⟨_, rfl, .inr ⟨e, rfl⟩⟩, .inl ⟨e, rfl⟩⟩
  obtain ⟨a, tr', rfl, hrest⟩ := path_get.mp hget
  cases a with
  | none =>
      obtain ⟨rfl, rfl⟩ := Path.raise_iff.mp hrest
      exact .inr ⟨⟨_, rfl, .inl ⟨_, rfl⟩⟩, .inr ⟨none, by decide, rfl⟩⟩
  | some b =>
      simp only at hrest
      split at hrest
      · next hb =>
          obtain ⟨rfl, rfl⟩ := Path.raise_iff.mp hrest
          exact .inr ⟨⟨_, rfl, .inl ⟨_, rfl⟩⟩,
            .inr ⟨some b, fun hc => hb (Option.some.inj hc), rfl⟩⟩
      · next hb =>
          obtain ⟨rfl, rfl⟩ := Path.ret_iff.mp hrest
          refine .inl ⟨rfl, ?_⟩
          rw [not_not.mp hb]
          rfl

theorem Unanswered.no_ack {tr : Trace} (h : Unanswered tr) : ∀ ev ∈ tr, isAck ev = false := by
  rcases h with ⟨e, rfl⟩ | ⟨a, _, rfl⟩ <;>
    simp [started, sent, isAck, START_COMMUNICATION, ESCAPE]

theorem Unanswered.starts {tr : Trace} (h : Unanswered tr) :
    answeredStarts tr = 0 ∧ tr.head? ≠ some answered := by
  rcases h with ⟨e, rfl⟩ | ⟨a, ha, rfl⟩
  · exact ⟨rfl, by simp [answered]⟩
  · refine ⟨?_, by simp [started, sent, answered]⟩
    simp [answeredStarts, started, sent, answered, ha]

theorem Unanswered.not_sent {tr : Trace} (h : Unanswered tr) (hm : sent message ≠ started) :
    sent message ∉ tr := by
  rcases h with ⟨e, rfl⟩ | ⟨a, _, rfl⟩
  · simp [sent]
  · simpa [sent] using hm

theorem Unanswered.no_bytes {tr : Trace} (h : Unanswered tr) :
    received (tr.takeWhile fun ev => !isWrite ev) = [] := by
  rcases h with ⟨e, rfl⟩ | ⟨a, _, rfl⟩ <;> rfl

/-- How the tries of `_establish_request` go, with what the buffer holds in second place. -/
inductive EstablishRun (message : Bytes) : UInt8 → Nat → Trace → Except Exc Bool → Prop
  | spent {left : UInt8} : EstablishRun message left 0 [] (.ok false)
  | unsent {left : UInt8} {n : Nat} (e : LinkError) :
      EstablishRun message left (n + 1) [⟨.write message, some e⟩] (.error e.toExc)
  | flooded {left : UInt8} {n : Nat} {answers : List (Option UInt8)} (text : String) :
      ¬ Signals left answers.reduceOption →
      EstablishRun message left (n + 1) (sent message :: gets answers)
        (.error (.protocolError text))
  | signalled {left : UInt8} {n : Nat} {answers : List (Option UInt8)} :
      answers.reduceOption = DATA_AVAILABLE → left ≠ START_COMMUNICATION →
      EstablishRun message left (n + 1) (sent message :: gets answers) (.ok true)
  | misled {left : UInt8} {n : Nat} {answers : List (Option UInt8)} :
      answers.reduceOption = [ESCAPE] → left = START_COMMUNICATION →
      EstablishRun message left (n + 1) (sent message :: gets answers) (.ok true)
  | broken {left : UInt8} {n : Nat} {answers : List (Option UInt8)} {tr : Trace} {e : Exc} :
      ¬ Signals left answers.reduceOption → Unanswered tr → FromLink e →
      EstablishRun message left (n + 1) (sent message :: (gets answers ++ tr)) (.error e)
  | again {left : UInt8} {n : Nat} {answers : List (Option UInt8)} {tr : Trace}
      {r : Except Exc Bool} :
      ¬ Signals left answers.reduceOption →
      EstablishRun message (answers.reduceOption[1]?.getD left) n tr r →
      EstablishRun message left (n + 1)
        (sent message :: (gets answers ++ started :: answered :: tr)) r

theorem overlay_second {old bytes : Bytes} (hold : old[1]? = some left) :
    (overlay old bytes)[1]? = some (bytes[1]?.getD left) := by
  match bytes with
  | [] => rw [overlay, List.nil_append]; exact hold
  | [b] =>
      match old, hold with
      | _ :: _ :: _, hold => exact hold
  | _ :: _ :: _ => rfl

theorem establishLoop_path (n : Nat) :
    ∀ {left : UInt8} {buffer : Bytes} {tr : Trace} {r : Except Exc Bool},
      buffer.length = INPUT_BUFFER_LENGTH → buffer[1]? = some left →
      Path (establishLoop message n buffer) tr r → EstablishRun message left n tr r := by
  induction n with
  | zero =>
      intro left buffer tr r _ _ h
      obtain ⟨rfl, rfl⟩ := Path.ret_iff.mp h
      exact .spent
  | succ n ih =>
      intro left buffer tr r hlen hleft h
      rw [establishLoop] at h
      rcases path_write.mp h with ⟨e, rfl, rfl⟩ | ⟨tr', rfl, hwait⟩
      · exact .unsent e
      have hfuel : (MAX_RETRY - 0) + (INPUT_BUFFER_LENGTH + 1 - ([] : Bytes).length)
          ≤ LOOP_FUEL := by
        decide
      -- A wait starts with nothing of its own in the buffer.
      have hspec : ∀ {tr : Trace} {r : Except Exc (Bool × Bytes)},
          Path (awaitDataAvailable LOOP_FUEL 0 0 buffer) tr r →
          ∃ answers, tr = gets answers ∧
            ((Signals left answers.reduceOption ∧
                (answers.reduceOption = DATA_AVAILABLE ∧ left ≠ START_COMMUNICATION ∨
                  answers.reduceOption = [ESCAPE] ∧ left = START_COMMUNICATION) ∧
                ∃ buffer', r = .ok (true, buffer')) ∨
              ¬ Signals left answers.reduceOption ∧
                (r = .ok (false, overlay buffer answers.reduceOption) ∧
                    answers.reduceOption.length ≤ INPUT_BUFFER_LENGTH ∨
                  ∃ text, r = .error (.protocolError text))) := by
        intro tr r hp
        obtain ⟨answers, rfl, hr⟩ := awaitDataAvailable_path hlen LOOP_FUEL hfuel
          (Nat.zero_le _) hp
        simp only [hears_iff hleft, List.nil_append, List.length_nil, Nat.zero_add] at hr
        refine ⟨answers, rfl, ?_⟩
        rcases hr with ⟨front, b, hfront, hquiet, hheard, hr⟩ | ⟨hquiet, hfits, hr⟩ |
          ⟨front, b, text, hfront, hquiet, hfull, hr⟩
        · rw [hfront]
          exact .inl ⟨hheard, signals_last hquiet hheard, hr⟩
        · exact .inr ⟨hquiet, .inl ⟨hr, hfits⟩⟩
        · refine .inr ⟨?_, .inr ⟨text, hr⟩⟩
          -- What the full buffer did not show, one more byte does not either.
          rw [hfront, signals_append (by rw [INPUT_BUFFER_LENGTH] at hfull; omega)]
          exact hquiet
      rcases Path.bind_iff.mp hwait with ⟨e, rfl, hp⟩ | ⟨⟨available, buffer'⟩, tr₁, tr₂, rfl, hp,
        hrest⟩
      · obtain ⟨answers, rfl, ⟨_, _, _, hr⟩ | ⟨hquiet, ⟨hr, _⟩ | ⟨text, hr⟩⟩⟩ := hspec hp
        · cases hr
        · cases hr
        · cases hr
          exact .flooded text hquiet
      obtain ⟨answers, rfl, ⟨_, hbytes, buffer'', hr⟩ | ⟨hquiet, ⟨hr, hfits⟩ | ⟨text, hr⟩⟩⟩ :=
        hspec hp
      · cases hr
        obtain ⟨rfl, rfl⟩ := Path.ret_iff.mp hrest
        rw [List.append_nil]
        rcases hbytes with ⟨hbytes, hfresh⟩ | ⟨hbytes, hstale⟩
        · exact .signalled hbytes hfresh
        · exact .misled hbytes hstale
      · cases hr
        rcases Path.bind_iff.mp hrest with ⟨e, rfl, hp₂⟩ | ⟨_, tr₃, tr₄, rfl, hp₂, hloop⟩
        · rcases startCommunication_path hp₂ with ⟨hr, _⟩ | ⟨⟨_, he, hlink⟩, hstart⟩
          · cases hr
          · cases he
            exact .broken hquiet hstart hlink
        · rcases startCommunication_path hp₂ with ⟨_, rfl⟩ | ⟨⟨_, hr, _⟩, _⟩
          · refine .again hquiet (ih ?_ (overlay_second hleft) hloop)
            rw [overlay, List.length_append, List.length_drop, hlen]
            omega
          · cases hr
      · cases hr

theorem establishRequest_path {tr : Trace} {r : Except Exc Bool}
    (h : Path (establishRequest message) tr r) : EstablishRun message 0 MAX_RETRY tr r :=
  establishLoop_path MAX_RETRY List.length_replicate rfl h

/-! ## What the tries come to -/

theorem tries_wait {answers : List (Option UInt8)} {tr : Trace}
    (h : received (tr.takeWhile fun ev => !isWrite ev) = []) :
    tries message (sent message :: (gets answers ++ tr))
      = answers.reduceOption :: tries message tr := by
  have hwait : (gets answers).takeWhile (fun ev => !isWrite ev) = gets answers := by
    refine List.takeWhile_eq_self_iff.mpr fun ev hev => ?_
    rw [isWrite_of_mem_gets hev]
    rfl
  rw [← List.cons_append, tries_append _ h, tries, if_pos rfl, hwait, received_gets]
  have hnone : tries message (gets answers) = [] := by
    have hskip := tries_skip (@ne_sent_of_gets answers message) []
    rwa [List.append_nil] at hskip
  rw [hnone]
  rfl

theorem answeredStarts_wait (hm : sent message ≠ started) {answers : List (Option UInt8)}
    {tr : Trace} (h : tr.head? ≠ some answered) :
    answeredStarts (sent message :: (gets answers ++ tr)) = answeredStarts tr := by
  have hnone : started ∉ sent message :: gets answers := by
    rw [List.mem_cons, not_or]
    exact ⟨Ne.symm hm, ne_sent_of_gets [START_COMMUNICATION]⟩
  rw [← List.cons_append, answeredStarts_append _ h, answeredStarts_eq_zero hnone, Nat.zero_add]

theorem EstablishRun.head {n : Nat} {tr : Trace} {r : Except Exc Bool}
    (h : EstablishRun message left n tr r) : tr.head? ≠ some answered := by
  cases h <;> simp [sent, answered]

theorem EstablishRun.no_ack (hm : message ≠ [ESCAPE]) {n : Nat} {tr : Trace}
    {r : Except Exc Bool} (h : EstablishRun message left n tr r) :
    ∀ ev ∈ tr, isAck ev = false := by
  have hsent : ∀ a, isAck ⟨.write message, a⟩ = false := fun a => decide_eq_false hm
  have hwait : ∀ answers, ∀ ev ∈ gets answers, isAck ev = false := by
    intro answers ev hev
    obtain ⟨a, _, rfl⟩ := List.mem_map.mp hev
    rfl
  induction h with
  | spent => intro ev hev; cases hev
  | unsent e =>
      intro ev hev
      rw [List.mem_singleton.mp hev]
      exact hsent _
  | flooded text _ | signalled _ _ | misled _ _ =>
      intro ev hev
      rcases List.mem_cons.mp hev with rfl | hev
      · exact hsent _
      · exact hwait _ ev hev
  | broken _ hstart _ =>
      intro ev hev
      rcases List.mem_cons.mp hev with rfl | hev
      · exact hsent _
      rcases List.mem_append.mp hev with hev | hev
      · exact hwait _ ev hev
      · exact hstart.no_ack ev hev
  | again _ _ ih =>
      intro ev hev
      rcases List.mem_cons.mp hev with rfl | hev
      · exact hsent _
      rcases List.mem_append.mp hev with hev | hev
      · exact hwait _ ev hev
      · rw [List.mem_cons, List.mem_cons] at hev
        rcases hev with rfl | rfl | hev
        · rfl
        · rfl
        · exact ih ev hev

/-- The start handshake behind the last try is answered just when the tries run out. -/
theorem EstablishRun.starts (hm : sent message ≠ started) {n : Nat} {tr : Trace}
    {r : Except Exc Bool} (h : EstablishRun message left n tr r) :
    answeredStarts tr ≤ n ∧ (answeredStarts tr = n ↔ r = .ok false) := by
  have hwait : ∀ {answers : List (Option UInt8)} {tr : Trace}, tr.head? ≠ some answered →
      answeredStarts (sent message :: (gets answers ++ tr)) = answeredStarts tr :=
    fun h => answeredStarts_wait hm h
  have hquiet : ∀ answers : List (Option UInt8),
      answeredStarts (sent message :: gets answers) = 0 := by
    intro answers
    have hnil := @hwait answers [] (by simp)
    rwa [List.append_nil] at hnil
  induction h with
  | spent => exact ⟨Nat.le_refl _, iff_of_true rfl rfl⟩
  | unsent e =>
      have hnone : answeredStarts [⟨.write message, some e⟩] = 0 :=
        answeredStarts_eq_zero (by simp [started, sent])
      rw [hnone]
      exact ⟨Nat.zero_le _, by simp⟩
  | flooded text _ | signalled _ _ | misled _ _ =>
      rw [hquiet]
      exact ⟨Nat.zero_le _, by simp⟩
  | broken _ hstart _ =>
      rw [hwait hstart.starts.2, hstart.starts.1]
      exact ⟨Nat.zero_le _, by simp⟩
  | again _ hrun ih =>
      rw [hwait (by simp [started, sent, answered]), answeredStarts, answeredStarts,
        if_pos ⟨rfl, rfl⟩, if_neg fun hc => absurd hc.1 (by simp [started, sent, answered])]
      rw [← ih.2]
      omega

theorem Signals.of_stale {bytes : Bytes} {rest : List Bytes} (hquiet : ¬ Signals left bytes) :
    Stale left (bytes :: rest) ↔ Stale (bytes[1]?.getD left) rest :=
  or_iff_right fun hc => hquiet (.inl hc)

theorem EstablishRun.transmitted {n : Nat} {tr : Trace}
    (h : EstablishRun message left n tr (.ok true)) : sent message ∈ tr := by
  cases h <;> exact List.mem_cons_self

/-- A handshake that succeeds has heard the signal, or half of it where a try was stale. -/
theorem EstablishRun.stale {n : Nat} (hm : sent message ≠ started) {tr : Trace}
    {r : Except Exc Bool} (h : EstablishRun message left n tr r) :
    (Stale left (tries message tr) → r = .ok true ∧ sinceSent message tr = [ESCAPE]) ∧
      (¬ Stale left (tries message tr) → r = .ok true →
        sinceSent message tr = DATA_AVAILABLE) := by
  have hsince : ∀ answers, sinceSent message (sent message :: gets answers)
      = answers.reduceOption := by
    intro answers
    rw [← List.nil_append (sent message :: gets answers),
      sinceSent_final [] (ne_sent_of_gets message), received_gets]
  have htries : ∀ answers, tries message (sent message :: gets answers)
      = [answers.reduceOption] := by
    intro answers
    have hnil := @tries_wait message answers [] rfl
    rwa [List.append_nil] at hnil
  induction h with
  | spent => exact ⟨fun hc => hc.elim, fun _ hr => by cases hr⟩
  | unsent e =>
      refine ⟨fun hc => ?_, fun _ hr => by cases hr⟩
      simp [tries, sent, Stale] at hc
  | flooded text hquiet =>
      refine ⟨fun hc => ?_, fun _ hr => by cases hr⟩
      rw [htries, Signals.of_stale hquiet] at hc
      cases hc
  | signalled hbytes hfresh =>
      rw [htries, hsince]
      refine ⟨fun hc => ?_, fun _ _ => hbytes⟩
      rcases hc with ⟨_, hleft⟩ | hc
      · exact absurd hleft hfresh
      · cases hc
  | misled hbytes hleft =>
      rw [htries, hsince]
      refine ⟨fun _ => ⟨rfl, hbytes⟩, fun hc _ => ?_⟩
      exact absurd (.inl ⟨by rw [hbytes]; rfl, hleft⟩) hc
  | broken hquiet hstart _ =>
      refine ⟨fun hc => ?_, fun _ hr => by cases hr⟩
      rw [tries_wait hstart.no_bytes, Signals.of_stale hquiet] at hc
      have hnone := tries_skip (hstart.not_sent hm) []
      rw [List.append_nil] at hnone
      rw [hnone] at hc
      cases hc
  | @again left n answers tr r hquiet hrun ih =>
      have hskip : sent message ∉ [started, answered] := by
        simp only [List.mem_cons, List.not_mem_nil, or_false, not_or]
        exact ⟨hm, by simp [sent, answered]⟩
      have hlater : r = .ok true → sinceSent message (sent message ::
          (gets answers ++ started :: answered :: tr)) = sinceSent message tr := by
        intro hr
        subst hr
        have hsplit : sent message :: (gets answers ++ started :: answered :: tr)
            = sent message :: (gets answers ++ [started, answered]) ++ tr := by
          simp
        rw [hsplit, sinceSent_append hrun.transmitted]
      rw [tries_wait rfl, Signals.of_stale hquiet]
      rw [show started :: answered :: tr = [started, answered] ++ tr from rfl, tries_skip hskip]
      refine ⟨fun hc => ?_, fun hc hr => ?_⟩
      · obtain ⟨hr, hbytes⟩ := ih.1 hc
        exact ⟨hr, (hlater hr).trans hbytes⟩
      · exact (hlater hr).trans (ih.2 hc hr)

/-- The tries run out without the signal. -/
theorem EstablishRun.unheard (hm : sent message ≠ started) {n : Nat} {tr : Trace}
    (h : EstablishRun message left n tr (.ok false))
    (hsent : sent message ∈ tr) : (sinceSent message tr).take 2 ≠ DATA_AVAILABLE := by
  generalize hr : (Except.ok false : Except Exc Bool) = r at h
  induction h with
  | spent => cases hsent
  | unsent e => cases hr
  | flooded text _ => cases hr
  | signalled _ _ => cases hr
  | misled _ _ => cases hr
  | broken _ _ _ => cases hr
  | @again left n answers tr r hquiet hrun ih =>
      subst hr
      by_cases hmore : sent message ∈ tr
      · have hsplit : sent message :: (gets answers ++ started :: answered :: tr)
            = sent message :: (gets answers ++ [started, answered]) ++ tr := by
          simp
        rw [hsplit, sinceSent_append hmore]
        exact ih hmore rfl
      · -- Behind the last try there is only the answered start.
        have hlast : tr = [] := by
          cases hrun with
          | spent => rfl
          | again _ _ => exact absurd List.mem_cons_self hmore
        have hnone : sent message ∉ gets answers ++ [started, answered] := by
          rw [List.mem_append, not_or]
          refine ⟨ne_sent_of_gets message, ?_⟩
          simp only [List.mem_cons, List.not_mem_nil, or_false, not_or]
          exact ⟨hm, by simp [sent, answered]⟩
        have hbytes : sinceSent message
            (sent message :: (gets answers ++ started :: answered :: tr))
            = answers.reduceOption ++ [ESCAPE] := by
          rw [hlast]
          refine (sinceSent_final [] hnone).trans ?_
          rw [received_append, received_gets]
          rfl
        rw [hbytes]
        rw [Signals, not_or] at hquiet
        match answers.reduceOption, hquiet.2 with
        | [], _ => decide
        | [b], _ =>
            intro hc
            cases (List.cons.inj (List.cons.inj hc).2).1
        | b :: b' :: bytes, hsilent => exact hsilent

theorem EstablishRun.fromLink {n : Nat} {tr : Trace} {e : Exc}
    (h : EstablishRun message left n tr (.error e)) : FromLink e := by
  generalize hr : (Except.error e : Except Exc Bool) = r at h
  induction h with
  | spent => cases hr
  | unsent l =>
      cases hr
      exact .inr ⟨l, rfl⟩
  | flooded text _ =>
      cases hr
      exact .inl ⟨text, rfl⟩
  | signalled _ _ => cases hr
  | misled _ _ => cases hr
  | broken _ _ hlink =>
      cases hr
      exact hlink
  | again _ _ ih => exact ih hr

/-- `get_data` passes on what goes wrong before its acknowledge, and nothing after it. -/
theorem getData_fromLink {tr : Trace} {e : Exc} (h : Path (getData message) tr (.error e)) :
    FromLink e := by
  rw [getData] at h
  obtain ⟨tr, rfl, hstart⟩ := path_mark.mp h
  rcases Path.bind_iff.mp hstart with ⟨_, he, hp⟩ | ⟨_, tr₁, tr₂, rfl, _, hrest⟩
  · cases he
    rcases startCommunication_path hp with ⟨hr, _⟩ | ⟨⟨_, hr, hlink⟩, _⟩
    · cases hr
    · cases hr
      exact hlink
  rcases Path.bind_iff.mp hrest with ⟨_, he, hp⟩ | ⟨established, tr₂, tr₃, rfl, _, htail⟩
  · cases he
    exact (establishRequest_path hp).fromLink
  obtain ⟨_, _, hr, _⟩ := replied_path htail
  cases hr

/-! ## Whole conversations -/

/-- Neither a write nor a byte. -/
def Mute (ev : Exchange) : Prop := isWrite ev = false ∧ byteOf ev = none

/-- How a conversation ends: in a failure of the handshake, without an acknowledge as the
tries ran out, or with one that followed the handshake's verdict. -/
inductive Ending where
  | failed
  | abandoned
  | acknowledged (available : Bool)

inductive Conversation (message : Bytes) : Ending → Trace → Prop
  | unstarted {tr tail : Trace} :
      Unanswered tr → (∀ ev ∈ tail, Mute ev) → Conversation message .failed (tr ++ tail)
  | unestablished {tr tail : Trace} {e : Exc} :
      EstablishRun message 0 MAX_RETRY tr (.error e) → (∀ ev ∈ tail, Mute ev) →
      Conversation message .failed (started :: answered :: (tr ++ tail))
  | abandoned {tr tail : Trace} :
      EstablishRun message 0 MAX_RETRY tr (.ok false) → (∀ ev ∈ tail, Mute ev) →
      Conversation message .abandoned (started :: answered :: (tr ++ tail))
  | acknowledged {tr tail : Trace} {available : Bool} (a : Option LinkError) :
      EstablishRun message 0 MAX_RETRY tr (.ok available) → (∀ ev ∈ tail, isWrite ev = false) →
      Conversation message (.acknowledged available)
        (started :: answered :: (tr ++ ⟨.write [ESCAPE], a⟩ :: tail))

theorem isAck_of_not_write {ev : Exchange} (h : isWrite ev = false) : isAck ev = false := by
  match ev, h with
  | ⟨.openPort, _⟩, _ => rfl
  | ⟨.closePort, _⟩, _ => rfl
  | ⟨.get, _⟩, _ => rfl
  | ⟨.sleep _, _⟩, _ => rfl
  | ⟨.mark _, _⟩, _ => rfl

theorem mute_mark (m : Mark) : Mute ⟨.mark m, ()⟩ := ⟨rfl, rfl⟩

/-- There is one acknowledge, and it is judged by what came before it. -/
theorem ackedOnSignal_iff {pre post : Trace} {ack : Exchange}
    (hpre : ∀ ev ∈ pre, isAck ev = false) (hack : isAck ack = true)
    (hpost : ∀ ev ∈ post, isAck ev = false) :
    AckedOnSignal message (pre ++ ack :: post) ↔
      (sinceSent message pre).take 2 = DATA_AVAILABLE := by
  refine ⟨fun h => h pre ack post rfl hack, ?_⟩
  intro h pre' ev post' hsplit hev
  rcases List.append_eq_append_iff.mp hsplit with ⟨mid, rfl, hmid⟩ | ⟨mid, rfl, hmid⟩
  · match mid, hmid with
    | [], _ =>
        rw [List.append_nil]
        exact h
    | _ :: mid, hmid =>
        obtain ⟨_, rfl⟩ := List.cons.inj hmid
        rw [hpost ev (by simp)] at hev
        cases hev
  · match mid, hmid with
    | [], _ =>
        rw [List.append_nil] at h
        exact h
    | _ :: mid, hmid =>
        obtain ⟨rfl, _⟩ := List.cons.inj hmid
        rw [hpre ev (by simp)] at hev
        cases hev

theorem ackedOnSignal_of_none {tr : Trace} (h : ∀ ev ∈ tr, isAck ev = false) :
    AckedOnSignal message tr := by
  intro pre ev post hsplit hev
  rw [h ev (by rw [hsplit]; simp)] at hev
  cases hev

theorem received_mute {tail : Trace} (h : ∀ ev ∈ tail, Mute ev) : received tail = [] := by
  rw [received, List.filterMap_eq_nil_iff]
  exact fun ev hev => (h ev hev).2

theorem tries_of_not_write {tail : Trace} (h : ∀ ev ∈ tail, isWrite ev = false) :
    tries message tail = [] := by
  have hnone : sent message ∉ tail := fun hc => by
    have hwrite := h _ hc
    cases hwrite
  have hskip := tries_skip hnone []
  rwa [List.append_nil] at hskip

theorem no_bytes_of_mute {tail : Trace} (h : ∀ ev ∈ tail, Mute ev) :
    received (tail.takeWhile fun ev => !isWrite ev) = [] :=
  received_mute fun ev hev => h ev (List.takeWhile_subset _ hev)

theorem head_of_mute {tail : Trace} (h : ∀ ev ∈ tail, Mute ev) :
    tail.head? ≠ some answered := by
  intro hc
  cases (h _ (List.mem_of_mem_head? hc)).2

theorem answeredStarts_of_not_write {tail : Trace} (h : ∀ ev ∈ tail, isWrite ev = false) :
    answeredStarts tail = 0 :=
  answeredStarts_eq_zero fun hc => by
    have hwrite := h _ hc
    cases hwrite

theorem tries_mark (m : Mark) (tr : Trace) :
    tries message (⟨.mark m, ()⟩ :: tr) = tries message tr := by
  rw [tries, if_neg (by simp [sent])]

theorem answeredStarts_mark (m : Mark) (tr : Trace) :
    answeredStarts (⟨.mark m, ()⟩ :: tr) = answeredStarts tr := by
  rw [answeredStarts, if_neg fun hc => absurd hc.1 (by simp [started, sent]), Nat.zero_add]

theorem tries_started (hs : sent message ≠ started) (tr : Trace) :
    tries message (started :: answered :: tr) = tries message tr := by
  refine @tries_skip message [started, answered] ?_ tr
  simp only [List.mem_cons, List.not_mem_nil, or_false, not_or]
  exact ⟨hs, by simp [sent, answered]⟩

/-- Without an acknowledge there was no stale try either. -/
theorem Conversation.unacknowledged (hm : message ≠ [ESCAPE]) (hs : sent message ≠ started)
    {ending : Ending} {tr : Trace} (h : Conversation message ending tr)
    (hend : ∀ available, ending ≠ .acknowledged available) :
    (∀ ev ∈ tr, isAck ev = false) ∧ ¬ Stale 0 (tries message tr) := by
  have hmute : ∀ {tail : Trace}, (∀ ev ∈ tail, Mute ev) →
      (∀ ev ∈ tail, isAck ev = false) ∧ tries message tail = [] := fun htail =>
    ⟨fun ev hev => isAck_of_not_write (htail ev hev).1,
      tries_of_not_write fun ev hev => (htail ev hev).1⟩
  have hrun : ∀ {tr tail : Trace} {r : Except Exc Bool}, EstablishRun message 0 MAX_RETRY tr r →
      r ≠ .ok true → (∀ ev ∈ tail, Mute ev) →
      (∀ ev ∈ started :: answered :: (tr ++ tail), isAck ev = false) ∧
        ¬ Stale 0 (tries message (started :: answered :: (tr ++ tail))) := by
    intro tr tail r hrun hr htail
    refine ⟨?_, ?_⟩
    · intro ev hev
      rw [List.mem_cons, List.mem_cons, List.mem_append] at hev
      rcases hev with rfl | rfl | hev | hev
      · rfl
      · rfl
      · exact hrun.no_ack hm ev hev
      · exact (hmute htail).1 ev hev
    · rw [tries_started hs, tries_append tr (no_bytes_of_mute htail), (hmute htail).2,
        List.append_nil]
      exact fun hc => hr ((hrun.stale hs).1 hc).1
  cases h with
  | @unstarted tr tail hstart htail =>
      refine ⟨?_, ?_⟩
      · intro ev hev
        rcases List.mem_append.mp hev with hev | hev
        · exact hstart.no_ack ev hev
        · exact (hmute htail).1 ev hev
      · rw [tries_skip (hstart.not_sent hs), (hmute htail).2]
        exact id
  | unestablished hestablish htail => exact hrun hestablish (by simp) htail
  | abandoned hestablish htail => exact hrun hestablish (by simp) htail
  | acknowledged a _ _ => exact absurd rfl (hend _)

theorem Conversation.starts (hs : sent message ≠ started) {ending : Ending} {tr : Trace}
    (h : Conversation message ending tr) (hend : ending ≠ .abandoned) :
    answeredStarts tr ≤ MAX_RETRY ↔ ending ≠ .acknowledged false := by
  have hfirst : ∀ {tr : Trace}, tr.head? ≠ some answered →
      answeredStarts (started :: answered :: tr) = 1 + answeredStarts tr := by
    intro tr _
    rw [answeredStarts, answeredStarts, if_pos ⟨rfl, rfl⟩,
      if_neg fun hc => absurd hc.1 (by decide), Nat.zero_add]
  cases h with
  | @unstarted tr tail hstart htail =>
      rw [answeredStarts_append _ (head_of_mute htail), hstart.starts.1,
        answeredStarts_of_not_write fun ev hev => (htail ev hev).1]
      exact iff_of_true (Nat.zero_le _) (by simp)
  | @unestablished tr tail e hrun htail =>
      obtain ⟨hle, heq⟩ := hrun.starts hs
      have hne : answeredStarts tr ≠ MAX_RETRY := fun hc => by cases heq.mp hc
      rw [← List.cons_append, ← List.cons_append,
        answeredStarts_append _ (head_of_mute htail), hfirst hrun.head,
        answeredStarts_of_not_write fun ev hev => (htail ev hev).1]
      refine iff_of_true ?_ (by simp)
      omega
  | abandoned _ _ => exact absurd rfl hend
  | @acknowledged tr tail available a hrun htail =>
      obtain ⟨hle, heq⟩ := hrun.starts hs
      have hack : answeredStarts (⟨.write [ESCAPE], a⟩ :: tail) = 0 := by
        rw [answeredStarts, answeredStarts_of_not_write htail,
          if_neg fun hc => absurd hc.1 (by simp [started, sent, ESCAPE, START_COMMUNICATION])]
      rw [← List.cons_append, ← List.cons_append,
        answeredStarts_append _ (by simp [answered]), hfirst hrun.head, hack]
      cases available with
      | true =>
          have hne : answeredStarts tr ≠ MAX_RETRY := fun hc => by cases heq.mp hc
          refine iff_of_true ?_ (by simp)
          omega
      | false =>
          have hall := heq.mpr rfl
          refine iff_of_false ?_ (by simp)
          omega

/-- An acknowledge is on the signal when the handshake took it and no try was stale. -/
theorem Conversation.acked_iff (hm : message ≠ [ESCAPE]) (hs : sent message ≠ started)
    {available : Bool} {tr : Trace} (h : Conversation message (.acknowledged available) tr)
    (m : Mark) :
    AckedOnSignal message (⟨.mark m, ()⟩ :: tr) ↔
      available = true ∧ ¬ Stale 0 (tries message tr) := by
  cases h with
  | @acknowledged tr tail _ a hrun htail =>
      have hpre : ∀ ev ∈ ⟨.mark m, ()⟩ :: started :: answered :: tr, isAck ev = false := by
        intro ev hev
        rw [List.mem_cons, List.mem_cons, List.mem_cons] at hev
        rcases hev with rfl | rfl | rfl | hev
        · rfl
        · rfl
        · rfl
        · exact hrun.no_ack hm ev hev
      have hsplit : (⟨.mark m, ()⟩ : Exchange) :: started :: answered ::
            (tr ++ ⟨.write [ESCAPE], a⟩ :: tail)
          = (⟨.mark m, ()⟩ :: started :: answered :: tr) ++ ⟨.write [ESCAPE], a⟩ :: tail := rfl
      have hafter : tries message (⟨.write [ESCAPE], a⟩ :: tail) = [] := by
        rw [tries, if_neg fun hc => hm ?_, tries_of_not_write htail]
        rw [sent] at hc
        injection hc with ho _
        exact (Op.write.inj ho).symm
      rw [hsplit, ackedOnSignal_iff hpre rfl fun ev hev => isAck_of_not_write (htail ev hev),
        tries_started hs, tries_append tr rfl, hafter, List.append_nil]
      have hsince : sent message ∈ tr →
          sinceSent message (⟨.mark m, ()⟩ :: started :: answered :: tr)
            = sinceSent message tr :=
        fun hin => @sinceSent_append message [⟨.mark m, ()⟩, started, answered] tr hin
      cases available with
      | true =>
          obtain ⟨hstale, hfresh⟩ := hrun.stale hs
          rw [hsince hrun.transmitted]
          refine ⟨fun hc => ⟨rfl, fun hs => ?_⟩, fun hc => ?_⟩
          · rw [(hstale hs).2] at hc
            cases hc
          · rw [hfresh hc.2 rfl]
            rfl
      | false =>
          have hin : sent message ∈ tr := by
            cases hrun
            exact List.mem_cons_self
          rw [hsince hin]
          exact iff_of_false (hrun.unheard hs hin) (by simp)

theorem getData_conversation {tr : Trace} {r : Except Exc Bytes}
    (h : Path (getData message) tr r) :
    ∃ ending rest, tr = ⟨.mark (.getData message), ()⟩ :: rest ∧
      Conversation message ending rest ∧ ending ≠ .acknowledged false := by
  have hmark : ∀ m : Mark, ∀ ev ∈ [(⟨.mark m, ()⟩ : Exchange)], Mute ev := by
    intro m ev hev
    rw [List.mem_singleton.mp hev]
    exact mute_mark m
  rw [getData] at h
  obtain ⟨tr, rfl, hstart⟩ := path_mark.mp h
  rcases Path.bind_iff.mp hstart with ⟨e, rfl, hp⟩ | ⟨_, tr₁, tr₂, rfl, hp₁, hrest⟩
  · rcases startCommunication_path hp with ⟨hr, _⟩ | ⟨_, hun⟩
    · cases hr
    · have hc := @Conversation.unstarted message tr [] hun (by simp)
      rw [List.append_nil] at hc
      exact ⟨_, tr, rfl, hc, by simp⟩
  rcases startCommunication_path hp₁ with ⟨_, rfl⟩ | ⟨⟨_, hr, _⟩, _⟩
  swap
  · cases hr
  rcases Path.bind_iff.mp hrest with ⟨e, rfl, hp⟩ | ⟨established, tr₂, tr₃, rfl, hp₂, htail⟩
  · have hc := @Conversation.unestablished message tr₂ [] e (establishRequest_path hp) (by simp)
    rw [List.append_nil] at hc
    exact ⟨_, _, rfl, hc, by simp⟩
  have hrun := establishRequest_path hp₂
  obtain ⟨reply, seen, rfl, rfl, hseen, hasked⟩ := replied_path htail
  cases hseen with
  | unasked =>
      obtain rfl := hasked.mpr rfl
      exact ⟨_, _, rfl, @Conversation.abandoned message tr₂ _ hrun (hmark _), by simp⟩
  | refused e =>
      obtain rfl : established = true := by simpa using hasked
      exact ⟨_, _, rfl, .acknowledged (some e) hrun (fun ev hev => (hmark _ ev hev).1), by simp⟩
  | heard answers =>
      obtain rfl : established = true := by simpa using hasked
      refine ⟨_, _, rfl, @Conversation.acknowledged message tr₂
        (gets answers ++ [⟨.mark (.gotData _), ()⟩]) _ none hrun ?_, by simp⟩
      intro ev hev
      rcases List.mem_append.mp hev with hev | hev
      · exact isWrite_of_mem_gets hev
      · exact (hmark _ ev hev).1

theorem setData_conversation {tr : Trace} {r : Except Exc Bytes}
    (h : Path (setData message) tr r) :
    ∃ ending rest, tr = ⟨.mark (.setData message), ()⟩ :: rest ∧
      Conversation message ending rest ∧ ending ≠ .abandoned := by
  have hmark : ∀ m : Mark, ∀ ev ∈ [(⟨.mark m, ()⟩ : Exchange)], Mute ev := by
    intro m ev hev
    rw [List.mem_singleton.mp hev]
    exact mute_mark m
  rw [setData] at h
  obtain ⟨tr, rfl, hrest⟩ := path_mark.mp h
  -- The guarded part ends in a failure, which the handler hides, or in a write of the acknowledge.
  have hbody : ∀ {tr : Trace} {r : Except Exc Bool}, Path (do
        startCommunication
        let _ ← establishRequest message
        Transport.write [ESCAPE]
        return true) tr r →
      ((∃ e, r = .error e) ∧
          (Unanswered tr ∨ ∃ tr' e, tr = started :: answered :: tr' ∧
            EstablishRun message 0 MAX_RETRY tr' (.error e))) ∨
        ∃ tr' available a, tr = started :: answered :: (tr' ++ [⟨.write [ESCAPE], a⟩]) ∧
          EstablishRun message 0 MAX_RETRY tr' (.ok available) ∧ (a = none ↔ r = .ok true) ∧
          (a = none ∨ ∃ e, r = .error e) := by
    intro tr r hp
    rcases Path.bind_iff.mp hp with ⟨e, rfl, hp₁⟩ | ⟨_, tr₁, tr₂, rfl, hp₁, hrest⟩
    · rcases startCommunication_path hp₁ with ⟨hr, _⟩ | ⟨_, hun⟩
      · cases hr
      · exact .inl ⟨⟨e, rfl⟩, .inl hun⟩
    rcases startCommunication_path hp₁ with ⟨_, rfl⟩ | ⟨⟨_, hr, _⟩, _⟩
    swap
    · cases hr
    rcases Path.bind_iff.mp hrest with ⟨e, rfl, hp₂⟩ | ⟨available, tr₂, tr₃, rfl, hp₂, hack⟩
    · exact .inl ⟨⟨e, rfl⟩, .inr ⟨tr₂, e, rfl, establishRequest_path hp₂⟩⟩
    rcases path_write.mp hack with ⟨e, rfl, rfl⟩ | ⟨tr', rfl, hret⟩
    · exact .inr ⟨tr₂, available, some e, rfl, establishRequest_path hp₂, by simp, .inr ⟨_, rfl⟩⟩
    · obtain ⟨rfl, rfl⟩ := Path.ret_iff.mp hret
      exact .inr ⟨tr₂, available, none, rfl, establishRequest_path hp₂, by simp, .inl rfl⟩
  -- What follows a guarded part that did not get through.
  have hsilent : ∀ {tr last : Trace} {r : Except Exc Bytes},
      Path (do mark (.didSet []); return []) last r →
      (Unanswered tr ∨ ∃ tr' e, tr = started :: answered :: tr' ∧
          EstablishRun message 0 MAX_RETRY tr' (.error e)) →
      Conversation message .failed (tr ++ last) := by
    intro tr last r hlast hcases
    obtain ⟨last, rfl, hret⟩ := path_mark.mp hlast
    obtain ⟨rfl, rfl⟩ := Path.ret_iff.mp hret
    rcases hcases with hun | ⟨tr', e, rfl, hrun⟩
    · exact .unstarted hun (hmark _)
    · exact .unestablished hrun (hmark _)
  rcases Path.bind_iff.mp hrest with ⟨e, rfl, hp⟩ | ⟨transmitted, tr₁, tr₂, rfl, hp, htail⟩
  · obtain ⟨_, _, ⟨hr, _⟩ | ⟨_, ⟨_, hr, _⟩ | ⟨hr, _⟩⟩⟩ := transmit_path hp <;> cases hr
  rw [transmit] at hp
  rcases Path.handle_iff.mp hp with ⟨b, hb, hp'⟩ | ⟨e, tr₃, tr₄, rfl, hp', hret⟩
  · cases hb
    rcases hbody hp' with ⟨⟨_, hr⟩, _⟩ | ⟨tr', available, a, rfl, hrun, hiff, ha⟩
    · cases hr
    have hnone : a = none := ha.resolve_right fun hc => by obtain ⟨_, hr⟩ := hc; cases hr
    have hb := hiff.mp hnone
    cases hb
    refine ⟨.acknowledged available, _, rfl, ?_, by simp⟩
    have hconv : ∀ tail : Trace, (∀ ev ∈ tail, isWrite ev = false) →
        Conversation message (.acknowledged available)
          (started :: answered :: (tr' ++ [⟨.write [ESCAPE], a⟩]) ++ tail) := by
      intro tail htail
      have hc := Conversation.acknowledged a hrun htail
      simpa using hc
    refine hconv tr₂ ?_
    rcases Path.bind_iff.mp htail with ⟨e, rfl, hp₂⟩ | ⟨reply, tr₃, tr₄, rfl, hp₂, hlast⟩
    · obtain ⟨answers, rfl, _⟩ := receiveData_path hp₂
      exact fun ev hev => isWrite_of_mem_gets hev
    · obtain ⟨answers, rfl, _⟩ := receiveData_path hp₂
      obtain ⟨last, rfl, hret⟩ := path_mark.mp hlast
      obtain ⟨rfl, rfl⟩ := Path.ret_iff.mp hret
      intro ev hev
      rcases List.mem_append.mp hev with hev | hev
      · exact isWrite_of_mem_gets hev
      · exact (hmark _ ev hev).1
  · obtain ⟨rfl, hb⟩ := Path.ret_iff.mp hret
    cases hb
    rw [List.append_nil]
    rcases hbody hp' with ⟨_, hcases⟩ | ⟨tr', available, a, rfl, hrun, hiff, _⟩
    · exact ⟨.failed, _, rfl, hsilent htail hcases, by simp⟩
    · obtain ⟨last, rfl, hret⟩ := path_mark.mp htail
      obtain ⟨rfl, rfl⟩ := Path.ret_iff.mp hret
      refine ⟨.acknowledged available, _, rfl, ?_, by simp⟩
      have hc := @Conversation.acknowledged message tr' [⟨.mark (.didSet []), ()⟩] available a hrun
        fun ev hev => (hmark _ ev hev).1
      simpa using hc

section frames
variable (hm : 1 < message.length)
include hm

theorem ne_escape_of_long : message ≠ [ESCAPE] := by
  intro hc
  rw [hc] at hm
  exact absurd hm (by decide)

theorem sent_ne_started : sent message ≠ started := by
  intro hc
  injection hc with ho _
  rw [Op.write.inj ho] at hm
  exact absurd hm (by decide)

theorem Conversation.quiet {ending : Ending} {tr : Trace} (h : Conversation message ending tr)
    (hend : ∀ available, ending ≠ .acknowledged available) (m : Mark) :
    AckedOnSignal message (⟨.mark m, ()⟩ :: tr) ∧ ¬ Stale 0 (tries message tr) := by
  obtain ⟨hnone, hfresh⟩ := h.unacknowledged (ne_escape_of_long hm) (sent_ne_started hm) hend
  refine ⟨ackedOnSignal_of_none ?_, hfresh⟩
  intro ev hev
  rcases List.mem_cons.mp hev with rfl | hev
  · rfl
  · exact hnone ev hev

theorem getData_acked_iff {tr : Trace} {r : Except Exc Bytes} (h : Path (getData message) tr r) :
    AckedOnSignal message tr ↔ ¬ Stale 0 (tries message tr) := by
  obtain ⟨ending, rest, rfl, hc, hend⟩ := getData_conversation h
  rw [tries_mark]
  match ending, hc, hend with
  | .failed, hc, _ =>
      obtain ⟨hacked, hfresh⟩ := hc.quiet hm (by simp) (.getData message)
      exact iff_of_true hacked hfresh
  | .abandoned, hc, _ =>
      obtain ⟨hacked, hfresh⟩ := hc.quiet hm (by simp) (.getData message)
      exact iff_of_true hacked hfresh
  | .acknowledged true, hc, _ =>
      rw [hc.acked_iff (ne_escape_of_long hm) (sent_ne_started hm)]
      exact and_iff_right rfl
  | .acknowledged false, _, hend => exact absurd rfl hend

theorem setData_acked_iff {tr : Trace} {r : Except Exc Bytes} (h : Path (setData message) tr r) :
    AckedOnSignal message tr ↔
      ¬ Stale 0 (tries message tr) ∧ answeredStarts tr ≤ MAX_RETRY := by
  obtain ⟨ending, rest, rfl, hc, hend⟩ := setData_conversation h
  rw [tries_mark, answeredStarts_mark, hc.starts (sent_ne_started hm) hend]
  match ending, hc, hend with
  | .failed, hc, _ =>
      obtain ⟨hacked, hfresh⟩ := hc.quiet hm (by simp) (.setData message)
      exact iff_of_true hacked ⟨hfresh, by simp⟩
  | .abandoned, _, hend => exact absurd rfl hend
  | .acknowledged available, hc, _ =>
      rw [hc.acked_iff (ne_escape_of_long hm) (sent_ne_started hm), and_comm]
      cases available with
      | true => exact and_congr_right fun _ => iff_of_true rfl (by simp)
      | false => exact and_congr_right fun _ => iff_of_false (by simp) (by simp)

/-- Where no try is stale, `get_data` acknowledges on the signal alone, and `set_data` does
so as well if the tries do not run out. Frames are longer than the one byte of a start or
an acknowledge. -/
theorem ack_follows_signal_iff :
    (∀ tr r, Path (getData message) tr r →
      (AckedOnSignal message tr ↔ ¬ Stale 0 (tries message tr))) ∧
    (∀ tr r, Path (setData message) tr r →
      (AckedOnSignal message tr ↔
        ¬ Stale 0 (tries message tr) ∧ answeredStarts tr ≤ MAX_RETRY)) ∧
    ∀ tr, Path (establishRequest message) tr (.ok true) →
      ((sinceSent message tr).take 2 = DATA_AVAILABLE ↔ ¬ Stale 0 (tries message tr)) := by
  refine ⟨fun tr r h => getData_acked_iff hm h, fun tr r h => setData_acked_iff hm h, ?_⟩
  intro tr h
  obtain ⟨hstale, hfresh⟩ := (establishRequest_path h).stale (sent_ne_started hm)
  refine ⟨fun hc hst => ?_, fun hc => ?_⟩
  · rw [(hstale hst).2] at hc
    cases hc
  · rw [hfresh hc rfl]
    rfl

end frames

/-- The request for the room temperature by day. -/
def roomTempRequest : Bytes := createRequestMessage [0x0B, 0x00, 0x05] GET

/-- Noise whose second byte is `02`, silence, and after the next start a `10` alone. -/
def noiseScript : List (Option UInt8) :=
  [some 0x10, some 0x00, some 0x02] ++ List.replicate 5 none ++ [some 0x10, some 0x10]

/-- Five tries without a byte, each start handshake answered. -/
def deafScript : List (Option UInt8) :=
  some 0x10 :: (List.replicate 5 (List.replicate 5 none ++ [some 0x10])).flatten

theorem ack_follows_signal_noise :
    (AckedOnSignal roomTempRequest (trace scripted (getData roomTempRequest) noiseScript) ↔
      ¬ Stale 0 (tries roomTempRequest (trace scripted (getData roomTempRequest) noiseScript))) ∧
    (AckedOnSignal roomTempRequest (trace scripted (setData roomTempRequest) deafScript) ↔
      ¬ Stale 0 (tries roomTempRequest (trace scripted (setData roomTempRequest) deafScript)) ∧
        answeredStarts (trace scripted (setData roomTempRequest) deafScript) ≤ MAX_RETRY) := by
  obtain ⟨hget, hset, _⟩ := @ack_follows_signal_iff roomTempRequest (by decide)
  exact ⟨hget _ _ (path_run ..), hset _ _ (path_run ..)⟩

/-- A stale byte completes the signal for both callers, and one of them needs no signal. -/
theorem acked_without_signal :
    (∃ tr r, Path (getData roomTempRequest) tr r ∧ ¬ AckedOnSignal roomTempRequest tr) ∧
    (∃ tr r, Path (setData roomTempRequest) tr r ∧ ¬ AckedOnSignal roomTempRequest tr) ∧
    ∃ tr, Path (establishRequest roomTempRequest) tr (.ok true) ∧
      sinceSent roomTempRequest tr = [0x10] := by
  refine ⟨⟨trace scripted (getData roomTempRequest) noiseScript, _, path_run .., ?_⟩,
    ⟨trace scripted (setData roomTempRequest) deafScript, _, path_run .., ?_⟩,
    trace scripted (establishRequest roomTempRequest) (noiseScript.drop 1), ?_, ?_⟩
  · intro hc
    have hack := hc ((trace scripted (getData roomTempRequest) noiseScript).take 15) acked
      ((trace scripted (getData roomTempRequest) noiseScript).drop 16) (by decide +kernel) rfl
    revert hack
    decide +kernel
  · intro hc
    have hack := hc ((trace scripted (setData roomTempRequest) deafScript).take 43) acked
      ((trace scripted (setData roomTempRequest) deafScript).drop 44) (by decide +kernel) rfl
    revert hack
    decide +kernel
  · exact path_of_run scripted (by decide +kernel)
  · decide +kernel

end HeatpumpGateway
