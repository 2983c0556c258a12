import HeatpumpGateway.Proofs.Exchange
import HeatpumpGateway.Proofs.Frame
import HeatpumpGateway.Model.Communication

/-!
# Responses that stop before their footer

The receive loop leaves on a footer and on the fifth timeout, and
`fix_duplicated_bytes` treats both alike: it drops two bytes and appends a footer.
A response that broke off therefore reaches the header check looking complete,
and only the additive checksum is left to object. It does not object when the
bytes that were lost add up to nothing, a zero at the end being the plain case.
-/

namespace HeatpumpGateway

open Dialogue Stuffing

/-- Received bytes that do not end in a footer but, short of their last two, still
read as a frame whose checksum is right. -/
def CutButPlausible (bytes : Bytes) : Prop :=
  bytes.length ≤ INPUT_BUFFER_LENGTH ∧ isFrameEnd bytes bytes.length = false ∧
    ∃ b₁ rest, (b₁ = GET ∨ b₁ = SET) ∧
      unstuff escapeMark (bytes.take (bytes.length - 2))
        = HEADER_START :: b₁ :: byteSum (HEADER_START :: b₁ :: rest) :: rest

theorem headerCheck_fix_iff {bytes : Bytes} :
    headerCheck (fixDuplicatedBytes bytes) = true ↔
      ∃ b₁ rest, (b₁ = GET ∨ b₁ = SET) ∧
        unstuff escapeMark (bytes.take (bytes.length - 2))
          = HEADER_START :: b₁ :: byteSum (HEADER_START :: b₁ :: rest) :: rest := by
  rcases Nat.lt_or_ge bytes.length 2 with hlt | hge
  · rw [fixDuplicatedBytes, if_pos hlt, headerCheck_short (by omega),
      show bytes.length - 2 = 0 by omega, List.take_zero]
    simp [unstuff]
  · rw [fixDuplicatedBytes_eq _ hge, headerCheck_footer_iff]

/-- Exactly the plausible cuts are mistaken for frames, in a read and in the
confirmation of a write. -/
theorem accepted_only_complete_iff {message : Bytes} (hm : message ≠ [ESCAPE]) {tr : Trace}
    {reply : Bytes}
    (h : Path (Connector.getData message) tr (.ok reply) ∨
      Path (Connector.setData message) tr (.ok reply)) :
    (headerCheck reply = true → isFrameEnd (sinceAck tr) (sinceAck tr).length = true) ↔
      ¬ CutButPlausible (sinceAck tr) := by
  have hreply : reply = if (sinceAck tr).length ≤ INPUT_BUFFER_LENGTH
      then fixDuplicatedBytes (sinceAck tr) else [] := by
    rcases h with h | h
    · exact getData_reply hm h
    · obtain ⟨hlen, hreply⟩ := setData_ended hm h
      rw [if_pos hlen, hreply]
  rw [hreply, CutButPlausible]
  split
  · next hlen =>
      rw [headerCheck_fix_iff]
      refine ⟨?_, ?_⟩
      · intro himp hc
        obtain ⟨_, hend, hplausible⟩ := hc
        rw [himp hplausible] at hend
        cases hend
      · intro hcut hplausible
        by_contra hend
        exact hcut ⟨hlen, by simpa using hend, hplausible⟩
  · next hlen =>
      rw [headerCheck_short (by simp)]
      simp [hlen]

/-- An exchange about the register `0B0287` whose last byte gets lost. -/
def cutScript : List (Option UInt8) :=
  [some 0x10, some 0x10, some 0x02, some 0x01, some 0x00, some 0x95, some 0x0B, some 0x02,
    some 0x87, some 0x00, some 0x00, some 0x10]

def cutRead : Talk Bytes := Connector.getData (createRequestMessage [0x0B, 0x02, 0x87] GET)

theorem cutRead_path :
    Path cutRead (trace scripted cutRead cutScript)
      (.ok [0x01, 0x00, 0x95, 0x0B, 0x02, 0x87, 0x00, 0x10, 0x03]) :=
  path_of_run scripted (by decide +kernel)

theorem accepted_only_complete_cut :
    (headerCheck [0x01, 0x00, 0x95, 0x0B, 0x02, 0x87, 0x00, 0x10, 0x03] = true →
      isFrameEnd (sinceAck (trace scripted cutRead cutScript))
        (sinceAck (trace scripted cutRead cutScript)).length = true) ↔
      ¬ CutButPlausible (sinceAck (trace scripted cutRead cutScript)) :=
  accepted_only_complete_iff
    (show createRequestMessage [0x0B, 0x02, 0x87] GET ≠ [ESCAPE] by decide +kernel)
    (.inl cutRead_path)

def cutRecord : ChannelDefinition :=
  { channelId := "dhwTemp", requestByte := "0B0287", dataType := .sensor, position := 6
    length := 2 }

/-- The response is accepted without its end, and the read takes a byte of a footer
that was never sent for the field's low byte. -/
theorem cut_response_decoded :
    ∃ tr reply, Path cutRead tr (.ok reply) ∧ headerCheck reply = true ∧
      isFrameEnd (sinceAck tr) (sinceAck tr).length = false ∧
      (run scripted (CommunicationService.readRequest 0
        { requestByte := "0B0287", requestByte2 := none, records := [cutRecord] })
        cutScript).1 = .ok [("dhwTemp", .int 0x0010)] := by
  refine ⟨_, _, cutRead_path, ?_, ?_, ?_⟩
  · decide +kernel
  · decide +kernel
  · decide +kernel

end HeatpumpGateway
