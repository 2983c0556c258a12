import HeatpumpGateway.Proofs.Sweep

/-!
# A counter read in two parts

A channel with two commands is a counter that does not fit in one field: the first command
has it modulo 1000, the second has the thousands. The two are asked for one after the
other, and the counter may have moved on in between.

The file says what the parts of a counter make when they are of different times, and that
this is what a read returns.
-/

namespace HeatpumpGateway
open CommunicationService Dialogue

/-! ## Parts of different times -/

section parts
variable {base c₁ c₂ : ℕ}

/-- The low part of one number under the high part of another. -/
def torn (base c₁ c₂ : ℕ) : ℕ := c₂ / base * base + c₁ % base

theorem le_torn (h : c₁ ≤ c₂) : c₁ ≤ torn base c₁ c₂ := by
  have hhigh : c₁ / base * base ≤ c₂ / base * base :=
    Nat.mul_le_mul_right base (Nat.div_le_div_right h)
  calc c₁ = c₁ / base * base + c₁ % base := (Nat.div_add_mod' c₁ base).symm
    _ ≤ torn base c₁ c₂ := Nat.add_le_add_right hhigh _

/-- What is too much is what the low part has lost in between. -/
theorem torn_add (base c₁ c₂ : ℕ) : torn base c₁ c₂ + c₂ % base = c₂ + c₁ % base := by
  have hsplit := Nat.div_add_mod' c₂ base
  rw [torn]
  omega

theorem torn_lt (hbase : 0 < base) : torn base c₁ c₂ < c₂ + base := by
  have hadd := torn_add base c₁ c₂
  have hlow : c₁ % base < base := Nat.mod_lt c₁ hbase
  omega

theorem torn_le_iff : torn base c₁ c₂ ≤ c₂ ↔ c₁ % base ≤ c₂ % base := by
  have hadd := torn_add base c₁ c₂
  omega

end parts

/-! ## The counter on the line -/

/-- The device answers the two commands with the parts of its counter, each as it is when
the reply arrives. Times are places in the list of marks. -/
structure Counts (counter : ℕ → ℕ) (command command2 : Bytes)
    (records : List ChannelDefinition) (channelId : String) (ms : List Mark) : Prop where
  low : ∀ i reply, ms[i]? = some (.getData (createRequestMessage command GET)) →
    ms[i + 1]? = some (.gotData reply) → headerCheck reply = true →
    ∀ record ∈ records, record.channelId = channelId →
      parseRecord reply record = .ok (.int (counter (i + 1) % 1000 : ℕ))
  high : ∀ i reply, ms[i]? = some (.getData (createRequestMessage command2 GET)) →
    ms[i + 1]? = some (.gotData reply) → headerCheck reply = true →
    ∀ record ∈ records, record.channelId = channelId →
      parseRecord reply record = .ok (.int (counter (i + 1) / 1000 : ℕ))

theorem parseCombined_torn {reply reply2 : Bytes} {record : ChannelDefinition} {c₁ c₂ : ℕ}
    (hlength : record.length ≠ 4) (hlow : parseRecord reply record = .ok (.int (c₁ % 1000 : ℕ)))
    (hhigh : parseRecord reply2 record = .ok (.int (c₂ / 1000 : ℕ))) :
    parseCombined reply (some reply2) record = .ok (.int (torn 1000 c₁ c₂)) := by
  rw [parseCombined_int hlength hlow hhigh, torn]
  push_cast
  rfl

section reads
variable {waitingTime : Nat} {request : Request} {command command2 : Bytes}
  {channelId : String} {counter : ℕ → ℕ} {tr : Trace} {values : Dict String DecodedValue}

/-- The attempt that succeeds is the last, and its two replies make the channel's value. -/
theorem readRequest_torn (hcommands : requestCommands request = .ok [command, command2])
    (hchannel : ∃ record ∈ request.records, record.channelId = channelId)
    (hlength : ∀ record ∈ request.records, record.channelId = channelId → record.length ≠ 4)
    (hdevice : Counts counter command command2 request.records channelId (marks tr))
    (h : Path (readRequest waitingTime request) tr (.ok values)) :
    ∃ front reply reply2, marks tr = front ++
        [.getData (createRequestMessage command GET), .gotData reply,
          .getData (createRequestMessage command2 GET), .gotData reply2] ∧
      values.get? channelId =
        some (.int (torn 1000 (counter (front.length + 1)) (counter (front.length + 3)))) := by
  obtain ⟨frames, ⟨hframes, hvalid, _⟩, ⟨front, hfront⟩, hdecode, _⟩ :=
    (readRequest_path h).decoded hcommands
  match frames, hframes with
  | [reply, reply2], _ =>
      simp only [exchangeMarks] at hfront
      refine ⟨front, reply, reply2, hfront.symm, ?_⟩
      have hpart : ∀ record ∈ request.records, record.channelId = channelId →
          decodeRecord record [reply, reply2] = .ok (.int
            (torn 1000 (counter (front.length + 1)) (counter (front.length + 3)))) := by
        intro record hrecord hid
        refine parseCombined_torn (hlength record hrecord hid) ?_ ?_
        · refine hdevice.low front.length reply ?_ ?_ (hvalid reply (by simp)) record hrecord hid
          · simp [← hfront]
          · simp [← hfront]
        · refine hdevice.high (front.length + 2) reply2 ?_ ?_ (hvalid reply2 (by simp)) record
            hrecord hid
          · simp [← hfront]
          · rw [← hfront, List.getElem?_append_right (by omega),
              show front.length + 2 + 1 - front.length = 3 by omega]
            rfl
      rw [decodeFrames_ofPairs hvalid hdecode]
      refine Dict.get?_ofPairs_of_forall ?_ ?_
      · obtain ⟨record, hrecord, hid⟩ := hchannel
        refine List.mem_filterMap.mpr ⟨record, hrecord, ?_⟩
        simp [hpart record hrecord hid, Except.toOption, hid]
      · intro v hv
        obtain ⟨record, hrecord, hentry⟩ := List.mem_filterMap.mp hv
        obtain ⟨v', hv', heq⟩ := Option.map_eq_some_iff.mp hentry
        obtain ⟨hid, rfl⟩ := Prod.mk.inj heq
        rw [hpart record hrecord hid] at hv'
        exact (Option.some.inj hv').symm

/-- The value of a growing counter is never behind its first reply, less than a thousand
ahead of its second, and ahead of that only where the low part has started anew. -/
theorem counter_read_bounds (hcommands : requestCommands request = .ok [command, command2])
    (hchannel : ∃ record ∈ request.records, record.channelId = channelId)
    (hlength : ∀ record ∈ request.records, record.channelId = channelId → record.length ≠ 4)
    (hgrows : Monotone counter)
    (hdevice : Counts counter command command2 request.records channelId (marks tr))
    (h : Path (readRequest waitingTime request) tr (.ok values)) :
    ∃ front reply reply2, ∃ n : ℕ, marks tr = front ++
        [.getData (createRequestMessage command GET), .gotData reply,
          .getData (createRequestMessage command2 GET), .gotData reply2] ∧
      values.get? channelId = some (.int n) ∧
      counter (front.length + 1) ≤ n ∧ n < counter (front.length + 3) + 1000 ∧
      (n ≤ counter (front.length + 3) ↔
        counter (front.length + 1) % 1000 ≤ counter (front.length + 3) % 1000) := by
  obtain ⟨front, reply, reply2, hmarks, hvalue⟩ :=
    readRequest_torn hcommands hchannel hlength hdevice h
  have hle : counter (front.length + 1) ≤ counter (front.length + 3) := hgrows (by omega)
  exact ⟨front, reply, reply2, _, hmarks, hvalue, le_torn hle, torn_lt (by omega), torn_le_iff⟩

end reads

/-- The electrical energy spent on hot water today. -/
def energyRequest : Request :=
  { requestByte := "0A091A", requestByte2 := some "0A091B"
    records := [{ channelId := "electrDHWDay", requestByte := "0A091A"
                  requestByte2 := some "0A091B", dataType := .sensor
                  position := 6, length := 2 }] }

def energyRead : Talk (Dict String DecodedValue) := readRequest 0 energyRequest

/-- The low part is read as 501, the high part as 1. -/
def energyScript : List (Option UInt8) :=
  [0x10, 0x10, 0x02, 0x01, 0x00, 0x24, 0x0A, 0x09, 0x1A, 0x01, 0xF5, 0x10, 0x03,
    0x10, 0x10, 0x02, 0x01, 0x00, 0x30, 0x0A, 0x09, 0x1B, 0x00, 0x01, 0x10, 0x03].map some

/-- The low part is read as 999, the high part as 1. -/
def carryScript : List (Option UInt8) :=
  [0x10, 0x10, 0x02, 0x01, 0x00, 0x18, 0x0A, 0x09, 0x1A, 0x03, 0xE7, 0x10, 0x03,
    0x10, 0x10, 0x02, 0x01, 0x00, 0x30, 0x0A, 0x09, 0x1B, 0x00, 0x01, 0x10, 0x03].map some

theorem energyCommands :
    requestCommands energyRequest = .ok [[0x0A, 0x09, 0x1A], [0x0A, 0x09, 0x1B]] := by
  decide +kernel

/-- Two replies with the parts of a counter at their times. -/
theorem counts_energy {counter : ℕ → ℕ} {low high : Bytes} {ms : List Mark}
    (hms : ms = [.getData (createRequestMessage [0x0A, 0x09, 0x1A] GET), .gotData low,
      .getData (createRequestMessage [0x0A, 0x09, 0x1B] GET), .gotData high])
    (hlow : ∀ record ∈ energyRequest.records,
      parseRecord low record = .ok (.int (counter 1 % 1000 : ℕ)))
    (hhigh : ∀ record ∈ energyRequest.records,
      parseRecord high record = .ok (.int (counter 3 / 1000 : ℕ))) :
    Counts counter [0x0A, 0x09, 0x1A] [0x0A, 0x09, 0x1B] energyRequest.records "electrDHWDay"
      ms := by
  have hdiff : createRequestMessage [0x0A, 0x09, 0x1A] GET
      ≠ createRequestMessage [0x0A, 0x09, 0x1B] GET := by decide +kernel
  subst hms
  refine ⟨?_, ?_⟩
  · intro i reply hcall hreply _ record hrecord _
    match i with
    | 0 =>
        cases hreply
        exact hlow record hrecord
    | 1 => cases hcall
    | 2 => exact absurd (Mark.getData.inj (Option.some.inj hcall)).symm hdiff
    | n + 3 => simp at hreply
  · intro i reply hcall hreply _ record hrecord _
    match i with
    | 0 => exact absurd (Mark.getData.inj (Option.some.inj hcall)) hdiff
    | 1 => cases hcall
    | 2 =>
        cases hreply
        exact hhigh record hrecord
    | n + 3 => simp at hreply

/-- A counter that moves on by two between the replies, and does not carry. -/
theorem energyRead_path :
    Path energyRead (trace scripted energyRead energyScript)
      (.ok [("electrDHWDay", .int 1501)]) :=
  path_of_run scripted (by decide +kernel)

theorem energy_marks :
    marks (trace scripted energyRead energyScript)
      = [.getData (createRequestMessage [0x0A, 0x09, 0x1A] GET),
        .gotData [0x01, 0x00, 0x24, 0x0A, 0x09, 0x1A, 0x01, 0xF5, 0x10, 0x03],
        .getData (createRequestMessage [0x0A, 0x09, 0x1B] GET),
        .gotData [0x01, 0x00, 0x30, 0x0A, 0x09, 0x1B, 0x00, 0x01, 0x10, 0x03]] := by
  decide +kernel

theorem counter_read_energy :
    ∃ front reply reply2, ∃ n : ℕ, marks (trace scripted energyRead energyScript) = front ++
        [.getData (createRequestMessage [0x0A, 0x09, 0x1A] GET), .gotData reply,
          .getData (createRequestMessage [0x0A, 0x09, 0x1B] GET), .gotData reply2] ∧
      Dict.get? [("electrDHWDay", DecodedValue.int 1501)] "electrDHWDay" = some (.int n) ∧
      1500 + (front.length + 1) ≤ n ∧ n < 1500 + (front.length + 3) + 1000 ∧
      (n ≤ 1500 + (front.length + 3) ↔
        (1500 + (front.length + 1)) % 1000 ≤ (1500 + (front.length + 3)) % 1000) := by
  refine @counter_read_bounds 0 energyRequest [0x0A, 0x09, 0x1A] [0x0A, 0x09, 0x1B]
    "electrDHWDay" (1500 + ·) _ _ energyCommands ?_ ?_ ?_ ?_ energyRead_path
  · decide +kernel
  · decide +kernel
  · intro i j hij
    exact Nat.add_le_add_left hij 1500
  · refine counts_energy energy_marks ?_ ?_
    · decide +kernel
    · decide +kernel

/-- The counter goes from 999 to 1000 between the replies and is read as 1999. -/
theorem carry_misread :
    ∃ counter : ℕ → ℕ, ∃ tr, Monotone counter ∧ (∀ i, counter i ≤ 1000) ∧
      Counts counter [0x0A, 0x09, 0x1A] [0x0A, 0x09, 0x1B] energyRequest.records "electrDHWDay"
        (marks tr) ∧
      Path energyRead tr (.ok [("electrDHWDay", .int 1999)]) := by
  have hrun : (run scripted energyRead carryScript).1 = .ok [("electrDHWDay", .int 1999)] := by
    decide +kernel
  have hmarks : marks (trace scripted energyRead carryScript)
      = [.getData (createRequestMessage [0x0A, 0x09, 0x1A] GET),
        .gotData [0x01, 0x00, 0x18, 0x0A, 0x09, 0x1A, 0x03, 0xE7, 0x10, 0x03],
        .getData (createRequestMessage [0x0A, 0x09, 0x1B] GET),
        .gotData [0x01, 0x00, 0x30, 0x0A, 0x09, 0x1B, 0x00, 0x01, 0x10, 0x03]] := by
    decide +kernel
  refine ⟨fun i => if i < 2 then 999 else 1000, _, ?_, ?_, counts_energy hmarks ?_ ?_,
    path_of_run scripted hrun⟩
  · intro i j hij
    simp only
    split <;> split <;> omega
  · intro i
    simp only
    split <;> omega
  · decide +kernel
  · decide +kernel

end HeatpumpGateway
