import HeatpumpGateway.Proofs.Bits
import HeatpumpGateway.Proofs.Fresh

/-!
# A seed in two frames

A value that is read with two commands is seeded into two frames: the remainder by a
thousand into the first, the quotient into the second. Reading puts them together again.
`seed_round_trip` is the way there and back for every integer whose quotient the field of
two bytes has room for.

A seed also puts a new checksum into both frames. A record that lies over the checksum
byte is decoded from it like from any other, so it is not among the channels that a seed
leaves alone (`checksum_channel_changes`).
-/

namespace HeatpumpGateway

open Fallible

/-- What `parse_records` makes of the frames that are stored for a request. -/
def HeatPumpSimulator.decoded (sim : HeatPumpSimulator) (request : Request) :
    Except Exc (Dict String DecodedValue) :=
  parseRecords (sim.frameOf request.requestByte) request.records
    (request.requestByte2.map sim.frameOf)

/-- A frame with the length, the header and the footer the constructor gives it. -/
structure Framed (records : List ChannelDefinition) (frame : Bytes) : Prop where
  length : (frame.length : Int) = HeatPumpSimulator.dataEnd records + 2
  header : frame.take 2 = [HEADER_START, GET]
  footer : frame.drop (frame.length - 2) = FOOTER

/-- A full field of two bytes for an integer. -/
structure IntegerRecord (record : ChannelDefinition) : Prop where
  length : record.length = 2
  scale : record.scale = .finite 1
  bit : record.bitPosition = 0
  switch : record.isSwitch = false

theorem IntegerRecord.decodeNumber {record : ChannelDefinition} (h : IntegerRecord record)
    (raw : Bytes) (number : Int) : decodeNumber raw number record = .ok (.int number) := by
  have hscale : (!record.scale.eq (.finite 1)) = false := by
    rw [h.scale]
    rfl
  rw [HeatpumpGateway.decodeNumber, if_neg (by rw [h.bit]; decide),
    if_neg (by rw [h.switch]; decide), hscale]
  rfl

/-! ## One frame -/

theorem headerCheck_sealed {frame : Bytes} (hlen : 5 ≤ frame.length)
    (h₀ : frame[0]? = some HEADER_START) (h₁ : frame[1]? = some GET) :
    headerCheck (sealed frame) = true := by
  obtain ⟨b₀, b₁, b₂, rest, x, y, rfl⟩ := exists_split hlen
  obtain rfl : b₀ = HEADER_START := Option.some.inj h₀
  obtain rfl : b₁ = GET := Option.some.inj h₁
  have hsealed : sealed (HEADER_START :: GET :: b₂ :: (rest ++ [x, y]))
      = HEADER_START :: GET :: byteSum (HEADER_START :: GET :: rest) :: (rest ++ [x, y]) := by
    rw [sealed, checksumOf_footer]
    rfl
  rw [hsealed, headerCheck_split_iff]
  exact ⟨rfl, .inl rfl, rfl⟩

/-- A frame after a number was encoded into it and it got its checksum. -/
structure Seeded (record : ChannelDefinition) (n : Int) (frame out : Bytes) : Prop where
  length : out.length = frame.length
  header : headerCheck out = true
  value : parseRecord out record = .ok (.int (n.bmod 65536))
  rest : ∀ j : Nat, j ≠ 2 → ¬ (record.position ≤ j ∧ j < record.position + 2) →
    out[j]? = frame[j]?

theorem seed_frame {record : ChannelDefinition} (hint : IntegerRecord record) {frame : Bytes}
    (hheader : frame.take 2 = [HEADER_START, GET]) (hfront : 3 ≤ record.position)
    (hback : record.position + 2 + 2 ≤ frame.length) (n : Int) :
    ∃ mid out, HeatPumpSimulator.encode frame record (.int n) = .ok mid ∧
      HeatPumpSimulator.finishFrame mid = .ok out ∧ Seeded record n frame out := by
  have hlen := hint.length
  have hfield : Contained frame.length record := ⟨by omega, by omega⟩
  obtain ⟨p, hp, hpn⟩ := hfield.exists_place (k := 2) hlen
  -- The field is written, and nothing else.
  have hmid : (shortWrites n record).apply frame
      = (frame.set p (shortToBytes n).2).set (p + 1) (shortToBytes n).1 :=
    shortWrites_apply_two hp hlen n
  generalize hframe' : (shortWrites n record).apply frame = mid at hmid
  have hmidlen : mid.length = frame.length := by rw [← hframe', Writes.apply_length]
  have hkept : ∀ j, j ≠ p → j ≠ p + 1 → mid[j]? = frame[j]? := by
    intro j h₁ h₂
    rw [hmid, List.getElem?_set_ne (Ne.symm h₂), List.getElem?_set_ne (Ne.symm h₁)]
  -- The header is as it was, so that setting it again changes nothing.
  have hhead : ∀ j, j < 2 → mid[j]? = [HEADER_START, GET][j]? := by
    intro j hj
    rw [hkept j (by omega) (by omega), ← hheader, List.getElem?_take_of_lt hj]
  have hget : mid.set 1 GET = mid := by
    obtain ⟨hlt, hval⟩ := List.getElem?_eq_some_iff.mp (hhead 1 (by decide))
    rw [← hval, List.set_getElem_self]
  have hfinish : HeatPumpSimulator.finishFrame mid = .ok (sealed mid) := by
    rw [finishFrame_eq (by omega), hget]
  refine ⟨mid, sealed mid, ?_, hfinish, ?_, ?_, ?_, ?_⟩
  · rw [← hframe']
    exact writeShort_ok_iff.mpr ⟨hfield.fieldInRange (by omega) (.int n), rfl⟩
  · rw [sealed_length, hmidlen]
  · exact headerCheck_sealed (by omega) (hhead 0 (by decide)) (hhead 1 (by decide))
  · have hfield' : Contained (sealed mid).length record := by
      rwa [sealed_length, hmidlen]
    have hnumber : numberAt (sealed mid) record = n.bmod 65536 := by
      have hbytes : fieldBytes (sealed mid) record = fieldBytes mid record :=
        fieldBytes_set (by rwa [hmidlen]) (show record.length = (2 : Nat) from hlen)
          (.inl (by omega))
      rw [numberAt, hbytes, ← hframe', fieldBytes_written hfield (.inr hlen),
        signedNumber_shortBytes (.inr hlen), fieldRange, hlen]
      rfl
    rw [parseRecord_ok_iff hfield' (by rw [sealed_length]; omega),
      decodeField_two hfield' hlen, hint.decodeNumber, hnumber]
  · intro j hj hout
    rw [sealed, List.getElem?_set_ne (Ne.symm hj)]
    exact hkept j (by omega) (by omega)

/-- The byte of the checksum is none of the record's. -/
def OffChecksum (n : Nat) (record : ChannelDefinition) : Prop :=
  ∀ i, i < 8 → ¬ FieldBit n record 2 i

instance (n : Nat) (record : ChannelDefinition) : Decidable (OffChecksum n record) :=
  inferInstanceAs (Decidable (∀ i, i < 8 → _))

/-- No bit is decoded for both records. -/
def Apart (n : Nat) (record other : ChannelDefinition) : Prop :=
  ∀ j i, i < 8 → FieldBit n record j i → ¬ FieldBit n other j i

theorem Seeded.others {record other : ChannelDefinition} (hint : IntegerRecord record)
    (hfront : 3 ≤ record.position) {n : Int} {frame out : Bytes} (h : Seeded record n frame out)
    (hsum : OffChecksum frame.length other) (hapart : Apart frame.length record other) :
    (parseRecord out other).toOption = (parseRecord frame other).toOption := by
  have hbits : ∀ j i, i < 8 → FieldBit frame.length other j i →
      bitAt frame j i = bitAt out j i := by
    intro j i hi hbit
    refine bitAt_congr (h.rest j ?_ ?_).symm i
    · rintro rfl
      exact hsum i hi hbit
    · intro hin
      refine hapart j i hi ?_ hbit
      have hnorm : normIndex frame.length record.position = record.position := if_neg (by omega)
      rw [FieldBit, if_neg (by rw [hint.bit]; omega), hnorm, hint.length]
      exact hin
  refine Option.ext fun v => ?_
  have hiff := parseRecord_congr (f := frame) (g := out) h.length.symm hbits v
  rw [toOption_eq_some, toOption_eq_some]
  exact hiff.symm

/-- What is decoded from two frames depends on what is decoded from each. -/
theorem parseCombined_congr {f f' g g' : Bytes} {record : ChannelDefinition}
    (hf : (parseRecord f' record).toOption = (parseRecord f record).toOption)
    (hg : (parseRecord g' record).toOption = (parseRecord g record).toOption) :
    (parseCombined f' (some g') record).toOption
      = (parseCombined f (some g) record).toOption := by
  rw [parseCombined, parseCombined, toOption_bind, toOption_bind, hf]
  congr 1
  funext value
  cases value with
  | bool b => rfl
  | float x => rfl
  | int n =>
      simp only []
      split
      · rw [toOption_bind, toOption_bind, hg]
      · rfl

/-! ## Both frames -/

/-- The length of the frames the constructor makes for some records. -/
def frameLength (records : List ChannelDefinition) : Nat :=
  (HeatPumpSimulator.dataEnd records + 2).toNat

/-- An integer channel behind the commands of its request, which are two and not those of
another request, with no bit that another record of the request has, too. -/
structure SplitChannel (config : HeatPumpConfig) (request : Request)
    (record : ChannelDefinition) (second : String) : Prop where
  request_mem : request ∈ config.requests
  record_mem : record ∈ request.records
  pair : request.requestByte2 = some second
  distinct : second ≠ request.requestByte
  own : ∀ other ∈ config.requests, other ≠ request → ∀ text ∈ other.texts, text ∉ request.texts
  integer : IntegerRecord record
  behind : ∀ text ∈ request.texts, ∃ command, fromHex text = .ok command ∧
    3 + (command.length : Int) ≤ record.position
  apart : ∀ other ∈ request.records, other ≠ record →
    Apart (frameLength request.records) record other

theorem Framed.frameLength {records : List ChannelDefinition} {frame : Bytes}
    (h : Framed records frame) : frame.length = frameLength records := by
  have hlen := h.length
  rw [HeatpumpGateway.frameLength]
  omega

theorem two_le_of_headerCheck {frame : Bytes} (h : headerCheck frame = true) :
    2 ≤ frame.length := by
  by_contra hc
  rw [headerCheck_short (by omega)] at h
  cases h

theorem bmod_of_short {n : Int} (hlo : -32768 ≤ n) (hhi : n < 32768) : n.bmod 65536 = n := by
  rw [Int.bmod_def]
  split
  · omega
  · omega

namespace SplitChannel
variable {config : HeatPumpConfig} {request : Request} {record : ChannelDefinition}
  {second : String} (h : SplitChannel config request record second)
include h

theorem mem_texts {text : String} :
    text ∈ request.texts ↔ text = request.requestByte ∨ text = second := by
  rw [Request.texts, h.pair]
  simp

theorem front : 3 ≤ record.position := by
  obtain ⟨command, _, hbehind⟩ := h.behind _ (h.mem_texts.mpr (.inl rfl))
  omega

/-- Of another request nothing is kept under these commands. -/
theorem decoded_congr {sim sim' : HeatPumpSimulator}
    (hkept : ∀ text, text ∉ request.texts → sim'.frameOf text = sim.frameOf text)
    {other : Request} (hother : other ∈ config.requests) (hne : other ≠ request) :
    sim'.decoded other = sim.decoded other := by
  have hown := h.own other hother hne
  have hone := hkept other.requestByte (hown _ List.mem_cons_self)
  have htwo : other.requestByte2.map sim'.frameOf = other.requestByte2.map sim.frameOf := by
    refine Option.map_congr fun text htext => hkept text (hown text ?_)
    rw [Request.texts, htext]
    exact List.mem_cons_of_mem _ (List.mem_singleton_self _)
  rw [HeatPumpSimulator.decoded, HeatPumpSimulator.decoded, hone, htwo]

end SplitChannel

/-- Seeding an integer into two frames leaves each with its part, and all others alone. -/
theorem setValue_split {sim : HeatPumpSimulator}
    (hids : (sim.config.channels.map ChannelDefinition.channelId).Nodup) {request : Request}
    {record : ChannelDefinition} {second : String}
    (h : SplitChannel sim.config request record second) {v : Int} {mid₁ out₁ mid₂ out₂ : Bytes}
    (hmid₁ : HeatPumpSimulator.encode (sim.frameOf request.requestByte) record (.int (v % 1000))
      = .ok mid₁)
    (hout₁ : HeatPumpSimulator.finishFrame mid₁ = .ok out₁)
    (hmid₂ : HeatPumpSimulator.encode (sim.frameOf second) record (.int (v / 1000)) = .ok mid₂)
    (hout₂ : HeatPumpSimulator.finishFrame mid₂ = .ok out₂) :
    ∃ sim', sim.setValue record.channelId (.int v) = .ok sim' ∧
      sim'.frameOf request.requestByte = out₁ ∧ sim'.frameOf second = out₂ ∧
      ∀ text, text ∉ request.texts → sim'.frameOf text = sim.frameOf text := by
  have hchannel := ((HeatPumpConfig.mem_records h.request_mem).mp h.record_mem).1
  have hsecond : (((sim.store.set request.requestByte mid₁).get? second).getD [])
      = sim.frameOf second := by
    rw [Dict.get?_set_ne _ h.distinct.symm, HeatPumpSimulator.frameOf]
  have hfirst : ((((sim.store.set request.requestByte mid₁).set second out₂).get?
      request.requestByte).getD []) = mid₁ := by
    rw [Dict.get?_set_ne _ h.distinct, Dict.get?_set_self, Option.getD_some]
  refine ⟨{ sim with
    store := ((sim.store.set request.requestByte mid₁).set second out₂).set
      request.requestByte out₁ }, ?_, ?_, ?_, ?_⟩
  · rw [HeatPumpSimulator.setValue, HeatPumpConfig.channel_of_mem hids hchannel,
      HeatPumpConfig.requestForChannel_eq hids h.request_mem h.record_mem]
    simp only [h.pair, if_neg (HeatPumpConfig.second_ne_empty h.request_mem h.pair),
      HeatPumpSimulator.seedInt, ok_bind, hmid₁, hsecond, hmid₂, hout₂, hfirst, hout₁, pure_eq]
  · rw [HeatPumpSimulator.frameOf, Dict.get?_set_self, Option.getD_some]
  · rw [HeatPumpSimulator.frameOf, Dict.get?_set_ne _ h.distinct.symm, Dict.get?_set_self,
      Option.getD_some]
  · intro text htext
    rw [h.mem_texts, not_or] at htext
    obtain ⟨h₁, h₂⟩ := htext
    rw [HeatPumpSimulator.frameOf, Dict.get?_set_ne _ (Ne.symm h₁), Dict.get?_set_ne _ (Ne.symm h₂),
      Dict.get?_set_ne _ (Ne.symm h₁)]
    rfl

/-- Two frames of a request, decoded. -/
theorem decoded_pair {sim : HeatPumpSimulator} {request : Request} {second : String}
    (hids : (request.records.map ChannelDefinition.channelId).Nodup)
    (hpair : request.requestByte2 = some second)
    (h₁ : 2 ≤ (sim.frameOf request.requestByte).length) (h₂ : 2 ≤ (sim.frameOf second).length) :
    sim.decoded request = .ok (readings
      [sim.frameOf request.requestByte, sim.frameOf second] request.records) := by
  rw [HeatPumpSimulator.decoded, hpair, Option.map_some, parseRecords_two h₁ h₂,
    Dict.ofPairs_of_nodup ((readings_keys_sublist _ _).nodup hids)]

/-- A seed is read back, and the other channels are as they were, except where one is
decoded from the checksum. -/
theorem seed_round_trip {sim : HeatPumpSimulator}
    (hids : (sim.config.channels.map ChannelDefinition.channelId).Nodup) {request : Request}
    {record : ChannelDefinition} {second : String}
    (h : SplitChannel sim.config request record second)
    (hframes : ∀ text ∈ request.texts, Framed request.records (sim.frameOf text)) {v : Int}
    (hlo : -32768000 ≤ v) (hhi : v ≤ 32767999) :
    ∃ sim', sim.setValue record.channelId (.int v) = .ok sim' ∧
      (∀ text ∈ request.texts, headerCheck (sim'.frameOf text) = true) ∧
      (∃ values, sim'.decoded request = .ok values ∧
        values.get? record.channelId = some (.int v)) ∧
      ∀ other ∈ sim.config.requests, ∃ before after, sim.decoded other = .ok before ∧
        sim'.decoded other = .ok after ∧ ∀ channel ∈ other.records, channel ≠ record →
          (other = request → OffChecksum (frameLength request.records) channel) →
          after.get? channel.channelId = before.get? channel.channelId := by
  have hframe₁ := hframes _ (h.mem_texts.mpr (.inl rfl))
  have hframe₂ := hframes _ (h.mem_texts.mpr (.inr rfl))
  have hlen₁ := hframe₁.length
  have hlen₂ := hframe₂.length
  have hend := le_dataEnd h.record_mem
  have hlen := h.integer.length
  have hfront := h.front
  obtain ⟨mid₁, out₁, hmid₁, hout₁, hseed₁⟩ :=
    seed_frame h.integer hframe₁.header hfront (by omega) (v % 1000)
  obtain ⟨mid₂, out₂, hmid₂, hout₂, hseed₂⟩ :=
    seed_frame h.integer hframe₂.header hfront (by omega) (v / 1000)
  obtain ⟨sim', hset, rfl, rfl, hkept⟩ := setValue_split hids h hmid₁ hout₁ hmid₂ hout₂
  have hnodup := HeatPumpConfig.records_ids_nodup hids h.request_mem
  have hbefore := @decoded_pair sim _ _ hnodup h.pair (by omega) (by omega)
  have hafter := @decoded_pair sim' _ _ hnodup h.pair (two_le_of_headerCheck hseed₁.header)
    (two_le_of_headerCheck hseed₂.header)
  refine ⟨sim', hset, ?_, ⟨_, hafter, ?_⟩, ?_⟩
  · intro text htext
    rcases h.mem_texts.mp htext with rfl | rfl
    · exact hseed₁.header
    · exact hseed₂.header
  · have hvalue₁ := hseed₁.value
    have hvalue₂ := hseed₂.value
    rw [bmod_of_short (by omega) (by omega)] at hvalue₁ hvalue₂
    have hcombined := parseCombined_int (by omega) hvalue₁ hvalue₂
    rw [Int.ediv_mul_add_emod] at hcombined
    rw [get?_readings hnodup h.record_mem, decodeRecord, hcombined]
    rfl
  · intro other hother
    by_cases heq : other = request
    · subst heq
      refine ⟨_, _, hbefore, hafter, fun channel hchannel hne hsum => ?_⟩
      have hoff := hsum rfl
      have hapart := h.apart channel hchannel hne
      rw [get?_readings hnodup hchannel, get?_readings hnodup hchannel]
      refine parseCombined_congr ?_ ?_
      · exact hseed₁.others h.integer hfront (by rwa [hframe₁.frameLength])
          (by rwa [hframe₁.frameLength])
      · exact hseed₂.others h.integer hfront (by rwa [hframe₂.frameLength])
          (by rwa [hframe₂.frameLength])
    · obtain ⟨values, hvalues⟩ := parseRecords_succeeds (sim.frameOf other.requestByte)
        other.records (other.requestByte2.map sim.frameOf)
      have hsame := h.decoded_congr hkept hother heq
      exact ⟨values, values, hvalues, hsame.trans hvalues, fun _ _ _ _ => rfl⟩

/-- The energy counters as they are shipped, with nothing counted yet. -/
def electrSimulator : HeatPumpSimulator where
  config := electrConfig
  store :=
    [("0A091A", [0x01, 0x00, 0x2E, 0x0A, 0x09, 0x1A, 0x00, 0x00, 0x10, 0x03]),
      ("0A091B", [0x01, 0x00, 0x2F, 0x0A, 0x09, 0x1B, 0x00, 0x00, 0x10, 0x03]),
      ("0A091E", [0x01, 0x00, 0x32, 0x0A, 0x09, 0x1E, 0x00, 0x00, 0x10, 0x03]),
      ("0A091F", [0x01, 0x00, 0x33, 0x0A, 0x09, 0x1F, 0x00, 0x00, 0x10, 0x03])]

theorem electrDHWDay_integer : IntegerRecord electrDHWDay :=
  ⟨rfl, rfl, rfl, by decide +kernel⟩

theorem electrDHWDay_behind : ∀ text ∈ ["0A091A", "0A091B"], ∃ command,
    fromHex text = .ok command ∧ 3 + (command.length : Int) ≤ electrDHWDay.position := by
  intro text htext
  rcases List.mem_cons.mp htext with rfl | htext
  · exact ⟨[0x0A, 0x09, 0x1A], by decide +kernel, by decide⟩
  · obtain rfl := List.mem_singleton.mp htext
    exact ⟨[0x0A, 0x09, 0x1B], by decide +kernel, by decide⟩

theorem seed_round_trip_electr :
    ∃ sim', electrSimulator.setValue "electrDHWDay" (.int (-1511)) = .ok sim' ∧
      (∀ text ∈ ["0A091A", "0A091B"], headerCheck (sim'.frameOf text) = true) ∧
      (∃ values, sim'.decoded ⟨"0A091A", some "0A091B", [electrDHWDay]⟩ = .ok values ∧
        values.get? "electrDHWDay" = some (.int (-1511))) ∧
      ∀ other ∈ electrConfig.requests, ∃ before after,
        electrSimulator.decoded other = .ok before ∧
        sim'.decoded other = .ok after ∧ ∀ channel ∈ other.records, channel ≠ electrDHWDay →
          (other = ⟨"0A091A", some "0A091B", [electrDHWDay]⟩ →
            OffChecksum (frameLength [electrDHWDay]) channel) →
          after.get? channel.channelId = before.get? channel.channelId := by
  have hsplit : SplitChannel electrSimulator.config ⟨"0A091A", some "0A091B", [electrDHWDay]⟩
      electrDHWDay "0A091B" := by
    refine ⟨by decide +kernel, List.mem_singleton_self _, rfl, by decide, ?_,
      electrDHWDay_integer, electrDHWDay_behind, ?_⟩
    · decide +kernel
    · intro other hother hne
      exact absurd (List.mem_singleton.mp hother) hne
  have hframes : ∀ text ∈ ["0A091A", "0A091B"],
      Framed [electrDHWDay] (electrSimulator.frameOf text) := by
    intro text htext
    rcases List.mem_cons.mp htext with rfl | htext
    · exact ⟨by decide +kernel, by decide +kernel, by decide +kernel⟩
    · obtain rfl := List.mem_singleton.mp htext
      exact ⟨by decide +kernel, by decide +kernel, by decide +kernel⟩
  exact seed_round_trip (by decide +kernel) hsplit hframes (by decide) (by decide)

/-- A channel that is decoded from the checksum bytes of the same two frames. -/
def checksumDHW : ChannelDefinition :=
  { channelId := "checksumDHW", requestByte := "0A091A", requestByte2 := some "0A091B"
    dataType := .sensor, position := 2, length := 1 }

def checksumSimulator : HeatPumpSimulator :=
  { electrSimulator with config := { channels := [electrDHWDay, checksumDHW] } }

def checksumRequest : Request := ⟨"0A091A", some "0A091B", [electrDHWDay, checksumDHW]⟩

/-- It shares no bit with the seeded channel, and does not decode as before. -/
theorem checksum_channel_changes :
    (checksumSimulator.config.channels.map ChannelDefinition.channelId).Nodup ∧
      SplitChannel checksumSimulator.config checksumRequest electrDHWDay "0A091B" ∧
      (∀ text ∈ checksumRequest.texts,
        Framed checksumRequest.records (checksumSimulator.frameOf text)) ∧
      ∃ sim' before after,
        checksumSimulator.setValue "electrDHWDay" (.int 1511) = .ok sim' ∧
        checksumSimulator.decoded checksumRequest = .ok before ∧
        sim'.decoded checksumRequest = .ok after ∧
        before.get? "checksumDHW" = some (.int 47046) ∧
        after.get? "checksumDHW" = some (.int 48046) := by
  refine ⟨by decide +kernel, ?_, ?_, ?_⟩
  · refine ⟨by decide +kernel, List.mem_cons_self, rfl, by decide, by decide +kernel,
      electrDHWDay_integer, electrDHWDay_behind, ?_⟩
    intro other hother hne j i _ hbit hbit'
    rcases List.mem_cons.mp hother with rfl | hother
    · exact hne rfl
    · obtain rfl := List.mem_singleton.mp hother
      have hlow : (6 : Int) ≤ j := hbit.1
      have hhigh : (j : Int) < 2 + 1 := hbit'.2
      omega
  · intro text htext
    rcases List.mem_cons.mp htext with rfl | htext
    · exact ⟨by decide +kernel, by decide +kernel, by decide +kernel⟩
    · obtain rfl := List.mem_singleton.mp htext
      exact ⟨by decide +kernel, by decide +kernel, by decide +kernel⟩
  · have hset : (checksumSimulator.setValue "electrDHWDay" (.int 1511)).toOption.map
        (fun sim => sim.decoded checksumRequest)
        = some (.ok [("electrDHWDay", .int 1511), ("checksumDHW", .int 48046)]) := by
      decide +kernel
    obtain ⟨sim', hsim', hafter⟩ := Option.map_eq_some_iff.mp hset
    refine ⟨sim', [("electrDHWDay", .int 0), ("checksumDHW", .int 47046)], _,
      toOption_eq_some.mp hsim', by decide +kernel, hafter, by decide, by decide⟩

end HeatpumpGateway
