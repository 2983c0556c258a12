import HeatpumpGateway.Proofs.Write

/-!
# Fields that lie over the frame

A record's position is any integer, and `compose_record` writes wherever it
points. The header, the command and the footer of the register's frame survive
exactly when none of the field's bytes lands on one of them with another value;
the checksum is made afresh, so a frame that lost its command is still a valid
frame, of another register.
-/

namespace HeatpumpGateway

open Dialogue Fallible CommunicationService

/-- A SET frame for a command: header, command bytes and footer. -/
def Intact (command frame : Bytes) : Prop :=
  frame[0]? = some HEADER_START ∧ frame[1]? = some SET ∧
    (frame.drop 3).take command.length = command ∧
    frame.drop (frame.length - 2) = FOOTER

/-- The places of header, command and footer in a frame of length `n`. -/
def Framing (command : Bytes) (n j : Nat) : Prop :=
  j < 2 ∨ (3 ≤ j ∧ j < 3 + command.length) ∨ n - 2 ≤ j

/-- No byte of the field changes the framing of the frame it is written into. -/
def Spares (command frame : Bytes) (ws : Writes) : Prop :=
  ∀ w ∈ ws, Framing command frame.length (place frame.length w.1) →
    frame[place frame.length w.1]? = some w.2

/-- A frame agrees with an intact one on its framing exactly when it is intact. -/
theorem intact_iff_agrees {command frame base : Bytes}
    (hlen : frame.length = base.length) (hbase : Intact command base) :
    Intact command frame ↔
      ∀ j, Framing command base.length j → frame[j]? = base[j]? := by
  obtain ⟨h₀, h₁, hcommand, hfooter⟩ := hbase
  refine ⟨?_, ?_⟩
  · intro hc j hj
    obtain ⟨g₀, g₁, gcommand, gfooter⟩ := hc
    rcases hj with hj | ⟨hlo, hhi⟩ | hj
    · match j, hj with
      | 0, _ => rw [g₀, h₀]
      | 1, _ => rw [g₁, h₁]
    · have heq := congrArg (·[j - 3]?) (gcommand.trans hcommand.symm)
      simp only [List.getElem?_take, List.getElem?_drop] at heq
      rw [if_pos (by omega), if_pos (by omega), show 3 + (j - 3) = j by omega] at heq
      exact heq
    · have heq := congrArg (·[j - (base.length - 2)]?) (gfooter.trans hfooter.symm)
      simp only [List.getElem?_drop, hlen] at heq
      rw [show base.length - 2 + (j - (base.length - 2)) = j by omega] at heq
      exact heq
  · intro h
    refine ⟨?_, ?_, ?_, ?_⟩
    · rw [h 0 (.inl (by omega)), h₀]
    · rw [h 1 (.inl (by omega)), h₁]
    · refine Eq.trans (List.ext_getElem? fun j => ?_) hcommand
      rw [List.getElem?_take, List.getElem?_take]
      split
      · next hj =>
          rw [List.getElem?_drop, List.getElem?_drop]
          exact h _ (.inr (.inl ⟨by omega, by omega⟩))
      · rfl
    · rw [← hfooter]
      refine List.ext_getElem? fun j => ?_
      rw [List.getElem?_drop, List.getElem?_drop, hlen]
      exact h _ (.inr (.inr (by omega)))

/-- The composed frame is intact exactly when the field spares its frame. -/
theorem composed_intact_iff {command reply frame : Bytes} {v : DecodedValue}
    {record : ChannelDefinition} (hbase : Intact command (reply.set 1 SET))
    (h : composeRecord v reply record = .ok frame) :
    Intact command frame ↔
      Spares command (reply.set 1 SET) (fieldWrites v (reply.set 1 SET) record) := by
  obtain ⟨⟨hlen, _, hrange⟩, rfl⟩ := composeRecord_ok_iff.mp h
  have hbaseLength : (reply.set 1 SET).length = reply.length := List.length_set ..
  have hframeLength : ((fieldFrame v reply record).set 2
      (checksumOf (fieldFrame v reply record))).length = (reply.set 1 SET).length := by
    rw [List.length_set, fieldFrame_length, hbaseLength]
  obtain ⟨hnd, hlt⟩ := fieldWrites_places (reply.set 1 SET) (by omega) hrange
  rw [← hbaseLength] at hnd hlt
  rw [intact_iff_agrees hframeLength hbase, Spares,
    ← Writes.apply_agrees_iff (P := Framing command (reply.set 1 SET).length) hnd hlt]
  -- The checksum's place belongs to no part of the framing.
  refine forall₂_congr fun j hj => ?_
  have hj2 : 2 ≠ j := by
    rw [Framing] at hj
    omega
  rw [List.getElem?_set_ne hj2]
  rfl

/-- Whatever comes in ends in a footer, since the connector appends it. -/
theorem getData_footer {message reply : Bytes} (hm : message ≠ [ESCAPE]) {tr : Trace}
    (h : Path (Connector.getData message) tr (.ok reply)) (hlen : 2 ≤ reply.length) :
    reply.drop (reply.length - 2) = FOOTER := by
  have hreply := getData_reply hm h
  split at hreply
  · rcases Nat.lt_or_ge (sinceAck tr).length 2 with hlt | hge
    · rw [fixDuplicatedBytes, if_pos hlt] at hreply
      rw [hreply] at hlen
      omega
    · rw [fixDuplicatedBytes_eq _ hge] at hreply
      rw [hreply, List.length_append, show FOOTER.length = 2 from rfl, Nat.add_sub_cancel,
        List.drop_left]
  · rw [hreply] at hlen
    simp at hlen

/-- A valid frame of a register is intact once its status byte says SET. -/
theorem intact_set_status {command reply : Bytes} (hlen : 5 ≤ reply.length)
    (hcheck : headerCheck reply = true) (hown : (reply.drop 3).take command.length = command)
    (hfooter : reply.drop (reply.length - 2) = FOOTER) :
    Intact command (reply.set 1 SET) := by
  obtain ⟨b₀, b₁, b₂, rest, x, y, rfl⟩ := exists_split hlen
  obtain ⟨rfl, _⟩ := headerCheck_split_iff.mp hcheck
  refine ⟨rfl, rfl, hown, ?_⟩
  rw [List.length_set]
  simp only [List.length_cons, List.length_append, List.length_nil] at hfooter ⊢
  exact hfooter

/-- A SET frame sent for a valid frame of the record's own register keeps header,
command and footer exactly when the field's bytes spare them. -/
theorem set_frame_intact_iff {config : HeatPumpConfig} {waitingTime : Nat}
    {channelId : String} {value : CallerValue} {record : ChannelDefinition}
    {coerced : DecodedValue} {command reply message : Bytes} {tr : Trace}
    {r : Except Exc ChannelValue}
    (h : Path (HeatPumpService.writeChannel config waitingTime channelId value) tr r)
    (hrecord : config.channel channelId = some record)
    (hcoerced : HeatPumpService.coerce record value = .ok coerced)
    (hcommand : fromHex record.requestByte = .ok command)
    (hgot : .gotData reply ∈ marks tr) (hcheck : headerCheck reply = true)
    (hown : (reply.drop 3).take command.length = command)
    (hset : .setData message ∈ marks tr) :
    (∃ frame, message = addDuplicatedBytes frame ∧ 4 ≤ frame.length ∧ Intact command frame) ↔
      Spares command (reply.set 1 SET) (fieldWrites coerced (reply.set 1 SET) record) := by
  obtain ⟨record', coerced', hrecord', hwritable, hcoerced'⟩ :=
    writeChannel_checked h (.inl (by rintro rfl; cases hgot))
  obtain rfl : record' = record := by
    rw [hrecord] at hrecord'
    exact (Option.some.inj hrecord').symm
  obtain ⟨r', hdata, _⟩ := (writeChannel_path hrecord hwritable hcoerced).mp h
  have hrun := writeValues_path hcommand hdata
  obtain ⟨_, hread⟩ := hrun.read hgot
  rcases hrun.marks_cases with hm | ⟨reply', hcases⟩
  · rw [hm] at hset
    simp at hset
  rcases hcases with ⟨hm, _⟩ | ⟨_, _, frame, last, hframe, hm, hlast⟩
  · rw [hm] at hset
    simp at hset
  obtain ⟨rfl, rfl⟩ : reply = reply' ∧ message = addDuplicatedBytes frame := by
    rcases hlast with rfl | ⟨_, rfl⟩
    · rw [hm] at hgot hset
      exact ⟨by simpa using hgot, by simpa using hset⟩
    · rw [hm] at hgot hset
      exact ⟨by simpa using hgot, by simpa using hset⟩
  rw [composeAll_single] at hframe
  have hlen : 5 ≤ reply.length := (composeRecord_ok_iff.mp hframe).1.1
  have hfooter := getData_footer (createRequestMessage_ne_escape command GET) hread (by omega)
  have hbase := intact_set_status hlen hcheck hown hfooter
  have hlength := composeRecord_length hframe
  rw [← composed_intact_iff hbase hframe]
  refine ⟨?_, ?_⟩
  · intro hc
    obtain ⟨g, hg, hglen, hintact⟩ := hc
    rwa [addDuplicatedBytes_inj (by omega) hglen hg]
  · intro hintact
    exact ⟨frame, rfl, by omega, hintact⟩

/-- A channel of the example configuration: its field starts on the second byte of
its three-byte command. -/
def dhwSetTemperatureDay : ChannelDefinition :=
  { channelId := "dhwSetTemperatureDay", requestByte := "0A0013", dataType := .settings
    position := 4, length := 2, scale := .ofRat (1 / 10), min := .finite 10
    max := .finite 55, step := .ofRat (1 / 10), unit := some "°C" }

def dhwCall : Talk ChannelValue :=
  HeatPumpService.writeChannel { channels := [dhwSetTemperatureDay] } 0
    "dhwSetTemperatureDay" (.int 50)

/-- The register holds 45.0 in the two bytes after its command. -/
def dhwScript : List (Option UInt8) :=
  [0x10, 0x10, 0x02, 0x01, 0x00, 0xE1, 0x0A, 0x00, 0x13, 0x01, 0xC2, 0x10, 0x03,
    0x10, 0x10, 0x02, 0x01, 0x80, 0x9E, 0x0A, 0x00, 0x13, 0x10, 0x03].map some

theorem dhwCall_marks :
    marks (trace scripted dhwCall dhwScript)
      = [.getData [0x01, 0x00, 0x1E, 0x0A, 0x00, 0x13, 0x10, 0x03],
        .gotData [0x01, 0x00, 0xE1, 0x0A, 0x00, 0x13, 0x01, 0xC2, 0x10, 0x03],
        .setData (addDuplicatedBytes
          [0x01, 0x80, 0x43, 0x0A, 0x01, 0xF4, 0x01, 0xC2, 0x10, 0x03]),
        .didSet [0x01, 0x80, 0x9E, 0x0A, 0x00, 0x13, 0x10, 0x03]] := by
  decide +kernel

theorem dhwCall_got :
    .gotData [0x01, 0x00, 0xE1, 0x0A, 0x00, 0x13, 0x01, 0xC2, 0x10, 0x03]
      ∈ marks (trace scripted dhwCall dhwScript) := by
  rw [dhwCall_marks]
  exact List.mem_cons_of_mem _ List.mem_cons_self

theorem dhwCall_set :
    .setData (addDuplicatedBytes
        [0x01, 0x80, 0x43, 0x0A, 0x01, 0xF4, 0x01, 0xC2, 0x10, 0x03])
      ∈ marks (trace scripted dhwCall dhwScript) := by
  rw [dhwCall_marks]
  exact List.mem_cons_of_mem _ (List.mem_cons_of_mem _ List.mem_cons_self)

theorem set_frame_intact_dhw :
    (∃ frame, addDuplicatedBytes [0x01, 0x80, 0x43, 0x0A, 0x01, 0xF4, 0x01, 0xC2, 0x10, 0x03]
        = addDuplicatedBytes frame ∧ 4 ≤ frame.length ∧ Intact [0x0A, 0x00, 0x13] frame) ↔
      Spares [0x0A, 0x00, 0x13] [0x01, 0x80, 0xE1, 0x0A, 0x00, 0x13, 0x01, 0xC2, 0x10, 0x03]
        (fieldWrites (.float (.finite 50))
          [0x01, 0x80, 0xE1, 0x0A, 0x00, 0x13, 0x01, 0xC2, 0x10, 0x03] dhwSetTemperatureDay) :=
  set_frame_intact_iff (path_run scripted dhwCall dhwScript)
    (show HeatPumpConfig.channel _ _ = some dhwSetTemperatureDay by decide +kernel)
    (by decide +kernel) (by decide +kernel) dhwCall_got (by decide +kernel) (by decide)
    dhwCall_set

/-- Writing 50 degrees to the register `0A0013` sends a valid SET frame for the
register `0A01F4`. -/
theorem write_addresses_other_register :
    ∃ tr r reply message, Path dhwCall tr r ∧
      .gotData reply ∈ marks tr ∧ headerCheck reply = true ∧
      (reply.drop 3).take 3 = [0x0A, 0x00, 0x13] ∧ .setData message ∈ marks tr ∧
      ¬ ∃ frame, message = addDuplicatedBytes frame ∧ 4 ≤ frame.length ∧
        Intact [0x0A, 0x00, 0x13] frame := by
  refine ⟨_, _, _, _, path_run scripted dhwCall dhwScript, dhwCall_got, by decide +kernel,
    by decide, dhwCall_set, ?_⟩
  intro h
  obtain ⟨frame, hmessage, hlen, _, _, hcommand, _⟩ := h
  rw [← addDuplicatedBytes_inj (by decide) hlen hmessage] at hcommand
  exact absurd hcommand (by decide)

end HeatpumpGateway
