import HeatpumpGateway.Proofs.Sweep
import HeatpumpGateway.Proofs.WriteBack

/-!
# Values read out of a footer

A reply is long enough for a record when the record does not reach beyond its end, and
the end includes the footer. So a reply that is one or two bytes short of what the
record expects decodes all the same, the footer's bytes taken for the value's.

`footer_unread_iff` follows every returned value back to the record and the frames it
was decoded from, and says when these are of such a length.
-/

namespace HeatpumpGateway

open Dialogue CommunicationService Fallible

/-- Byte `j` of a frame of length `n` is one of the record's. -/
def FieldByte (n : Nat) (record : ChannelDefinition) (j : Nat) : Prop :=
  normIndex n record.position ≤ j ∧ (j : Int) < normIndex n record.position + record.length

/-- All of the record's bytes come before the last two of a frame of length `n`. -/
def BeforeFooter (n : Nat) (record : ChannelDefinition) : Prop :=
  ∀ j, FieldByte n record j → j + 2 < n

/-- A frame of length `n` is one or two bytes short for the record with its footer; or
the record is counted from the end and ends among the last two. -/
def CutShort (n : Nat) (record : ChannelDefinition) : Prop :=
  if record.position < 0 then -1 ≤ record.position + record.length
  else (n : Int) = record.position + record.length ∨
    (n : Int) = record.position + record.length + 1

instance (n : Nat) (record : ChannelDefinition) : Decidable (CutShort n record) := by
  unfold CutShort
  infer_instance

/-- A record that is decoded has bytes, and they are in the frame. -/
theorem decoded_extent {frame : Bytes} {record : ChannelDefinition} {v : DecodedValue}
    (h : parseRecord frame record = .ok v) :
    0 < record.length ∧ 0 ≤ normIndex frame.length record.position ∧
      normIndex frame.length record.position + record.length ≤ frame.length := by
  have hfield := parseRecord_decodeField h
  rw [decodeField] at hfield
  have wide : ∀ {w : Nat} {number : Int}, 0 < w → record.length = w →
      unpackSigned w (slice frame record.position (record.position + record.length))
        = .ok number →
      0 ≤ normIndex frame.length record.position ∧
        normIndex frame.length record.position + record.length ≤ frame.length := by
    intro w number hw hlen hunpack
    rw [unpackSigned] at hunpack
    split at hunpack
    · next hfull =>
        rw [slice_length, hlen] at hfull
        obtain ⟨hnorm, hbound⟩ := sliceBound_full hw hfull
        refine ⟨hnorm, ?_⟩
        have hend : sliceBound frame.length (record.position + w) ≤ frame.length := by
          rw [sliceBound]
          omega
        omega
    · cases hunpack
  by_cases h1 : record.length = 1
  · rw [if_pos h1] at hfield
    obtain ⟨b, hb, _⟩ := bind_eq_ok.mp hfield
    obtain ⟨⟨hlo, hhi⟩, _⟩ := getItem_ok_iff.mp hb
    exact ⟨by omega, hlo, by omega⟩
  · rw [if_neg h1] at hfield
    by_cases h2 : record.length = 2
    · rw [if_pos h2] at hfield
      obtain ⟨number, hnumber, _⟩ := bind_eq_ok.mp hfield
      exact ⟨by omega, wide (by decide) h2 hnumber⟩
    · rw [if_neg h2] at hfield
      by_cases h4 : record.length = 4
      · rw [if_pos h4] at hfield
        obtain ⟨number, hnumber, _⟩ := bind_eq_ok.mp hfield
        exact ⟨by omega, wide (by decide) h4 hnumber⟩
      · rw [if_neg h4] at hfield
        cases hfield

/-- Where a record is decoded, it is clear of the footer unless the frame is short. -/
theorem beforeFooter_iff {frame : Bytes} {record : ChannelDefinition} {v : DecodedValue}
    (h : parseRecord frame record = .ok v) :
    BeforeFooter frame.length record ↔ ¬ CutShort frame.length record := by
  obtain ⟨hpos, hlo, hhi⟩ := decoded_extent h
  have hend : BeforeFooter frame.length record ↔
      normIndex frame.length record.position + record.length + 2 ≤ frame.length := by
    refine ⟨?_, ?_⟩
    · intro hbefore
      obtain ⟨j, hj⟩ := Int.eq_ofNat_of_zero_le
        (show 0 ≤ normIndex frame.length record.position + record.length - 1 by omega)
      have hlast := hbefore j ⟨by omega, by omega⟩
      omega
    · intro hle j hj
      obtain ⟨_, hj⟩ := hj
      omega
  rw [hend, CutShort]
  unfold normIndex at *
  split <;> omega

/-! ## The frames of a value -/

variable {waitingTime : Nat} {request : Request}

/-- The frames that a value of the record is decoded from: the second one where its
value is combined with the first one's. -/
def decodedFrom (record : ChannelDefinition) : List Bytes → List Bytes
  | [reply, reply2] =>
      match parseRecord reply record with
      | .ok value => if isShortResult value record then [reply, reply2] else [reply]
      | .error _ => [reply]
  | frames => frames

/-- What is decoded is decoded from each of these frames. -/
theorem decodedFrom_parsed {record : ChannelDefinition} {frames : List Bytes} {v : DecodedValue}
    (h : decodeRecord record frames = .ok v) :
    ∀ frame ∈ decodedFrom record frames, ∃ value, parseRecord frame record = .ok value := by
  match frames, h with
  | [reply], h =>
      obtain ⟨value, hvalue, _⟩ := bind_eq_ok.mp h
      intro frame hmem
      obtain rfl := List.mem_singleton.mp hmem
      exact ⟨value, hvalue⟩
  | [reply, reply2], h =>
      obtain ⟨value, hvalue, hrest⟩ := bind_eq_ok.mp h
      intro frame hmem
      rw [decodedFrom, hvalue] at hmem
      simp only at hmem
      split at hmem
      · next hshort =>
          simp only [List.mem_cons, List.not_mem_nil, or_false] at hmem
          rcases hmem with rfl | rfl
          · exact ⟨value, hvalue⟩
          · cases value with
            | bool b => cases hshort
            | float x => cases hshort
            | int n =>
                simp only [if_pos hshort] at hrest
                obtain ⟨value2, hvalue2, _⟩ := bind_eq_ok.mp hrest
                exact ⟨value2, hvalue2⟩
      · obtain rfl := List.mem_singleton.mp hmem
        exact ⟨value, hvalue⟩

/-- A reading belongs to the last record of its id that is decoded. -/
theorem reading_source {frames : List Bytes} {records : List ChannelDefinition} {id : String}
    {v : DecodedValue} (h : (Dict.ofPairs (readings frames records)).get? id = some v) :
    ∃ front record back, records = front ++ record :: back ∧ record.channelId = id ∧
      decodeRecord record frames = .ok v ∧
      ∀ later ∈ back, later.channelId = id → ¬ Readable frames later := by
  obtain ⟨front, back, hsplit, hback⟩ := Dict.get?_ofPairs_last h
  obtain ⟨records₁, rest, rfl, rfl, hrest⟩ := List.filterMap_eq_append_iff.mp hsplit
  obtain ⟨records₂, record, records₃, rfl, hnone, hsome, rfl⟩ :=
    List.filterMap_eq_cons_iff.mp hrest
  obtain ⟨value, hvalue, hpair⟩ := Option.map_eq_some_iff.mp hsome
  obtain ⟨hid, rfl⟩ := Prod.mk.inj hpair
  refine ⟨records₁ ++ records₂, record, records₃, by simp, hid, ?_, ?_⟩
  · cases hdecode : decodeRecord record frames with
    | error e =>
        rw [hdecode] at hvalue
        cases hvalue
    | ok value' =>
        rw [hdecode] at hvalue
        cases hvalue
        rfl
  · intro later hlater hid' hreadable
    exact hback (mem_readings_keys.mpr ⟨later, hlater, hid', hreadable⟩)

/-- Every value of a read is decoded from bytes before the footer exactly when none of
the frames it is decoded from is cut short for its record. -/
theorem footer_unread_iff {tr : Trace} {values : Dict String DecodedValue}
    (h : Path (readRequest waitingTime request) tr (.ok values)) :
    ∃ commands frames, requestCommands request = .ok commands ∧
      Answered commands frames (marks tr) ∧ exchangeMarks commands frames <:+ marks tr ∧
      decodeFrames request frames = some (.ok values) ∧
      ∀ id v, values.get? id = some v →
        ∃ front record back, request.records = front ++ record :: back ∧
          record.channelId = id ∧ decodeRecord record frames = .ok v ∧
          (∀ later ∈ back, later.channelId = id → ¬ Readable frames later) ∧
          ((∀ frame ∈ decodedFrom record frames, BeforeFooter frame.length record) ↔
            ∀ frame ∈ decodedFrom record frames, ¬ CutShort frame.length record) := by
  have hrun := readRequest_path h
  obtain ⟨commands, hcommands⟩ := hrun.commands
  obtain ⟨frames, hanswered, hsuffix, hdecode, _, _⟩ := hrun.decoded hcommands
  refine ⟨commands, frames, hcommands, hanswered, hsuffix, hdecode, ?_⟩
  intro id v hv
  rw [decodeFrames_ofPairs hanswered.2.1 hdecode] at hv
  obtain ⟨front, record, back, hsplit, hid, hrecord, hlater⟩ := reading_source hv
  refine ⟨front, record, back, hsplit, hid, hrecord, hlater, ?_⟩
  refine forall₂_congr fun frame hframe => ?_
  obtain ⟨value, hvalue⟩ := decodedFrom_parsed hrecord frame hframe
  exact beforeFooter_iff hvalue

/-- The version register, as it is shipped. -/
def versionRecord : ChannelDefinition :=
  { channelId := "version", requestByte := "FD", dataType := .status, position := 4, length := 2
    scale := .ofRat (1 / 100) }

def versionRequest : Request :=
  { requestByte := "FD", requestByte2 := none, records := [versionRecord] }

def versionRead : Talk (Dict String DecodedValue) := readRequest 0 versionRequest

/-- The reply is the command and no data. -/
def dataLessScript : List (Option UInt8) :=
  [0x10, 0x10, 0x02, 0x01, 0x00, 0xFE, 0xFD, 0x10, 0x03].map some

theorem versionRead_path :
    Path versionRead (trace scripted versionRead dataLessScript)
      (.ok [("version", .float (.ofRat (4099 / 100)))]) :=
  path_of_run scripted (by decide +kernel)

theorem footer_unread_version :
    ∃ commands frames, requestCommands versionRequest = .ok commands ∧
      Answered commands frames (marks (trace scripted versionRead dataLessScript)) ∧
      exchangeMarks commands frames <:+ marks (trace scripted versionRead dataLessScript) ∧
      decodeFrames versionRequest frames
        = some (.ok [("version", .float (.ofRat (4099 / 100)))]) ∧
      ∀ id v, Dict.get? [("version", .float (.ofRat (4099 / 100)))] id = some v →
        ∃ front record back, versionRequest.records = front ++ record :: back ∧
          record.channelId = id ∧ decodeRecord record frames = .ok v ∧
          (∀ later ∈ back, later.channelId = id → ¬ Readable frames later) ∧
          ((∀ frame ∈ decodedFrom record frames, BeforeFooter frame.length record) ↔
            ∀ frame ∈ decodedFrom record frames, ¬ CutShort frame.length record) :=
  footer_unread_iff versionRead_path

/-- The footer `10 03` is read as version 40.99. -/
theorem version_out_of_footer :
    ∃ tr, Path versionRead tr (.ok [("version", .float (.ofRat (4099 / 100)))]) ∧
      marks tr = [.getData (createRequestMessage [0xFD] GET),
        .gotData [0x01, 0x00, 0xFE, 0xFD, 0x10, 0x03]] ∧
      decodeRecord versionRecord [[0x01, 0x00, 0xFE, 0xFD, 0x10, 0x03]]
        = .ok (.float (.ofRat (4099 / 100))) ∧
      FieldByte 6 versionRecord 4 ∧ FieldByte 6 versionRecord 5 ∧
      ¬ BeforeFooter 6 versionRecord := by
  have hfirst : FieldByte 6 versionRecord 4 := by unfold FieldByte; decide
  have hlast : FieldByte 6 versionRecord 5 := by unfold FieldByte; decide
  refine ⟨_, versionRead_path, by decide +kernel, by decide +kernel, hfirst, hlast, ?_⟩
  intro hbefore
  exact absurd (hbefore 5 hlast) (by decide)

end HeatpumpGateway
