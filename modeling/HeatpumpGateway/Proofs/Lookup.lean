import HeatpumpGateway.Proofs.Grouping
import Mathlib.Data.List.Induction

/-!
# The two lookups of a channel id

`channel` has the last definition of an id, `request_for_channel` the first request
with a record of the id. Requests stand in the order in which their command pairs
come up among the definitions (`requests_ordered`), so the two belong together unless
another definition of the id has a command pair that comes up earlier.
-/

namespace HeatpumpGateway

/-- The place among some definitions at which a command pair comes up. -/
def firstSeen (channels : List ChannelDefinition) (key : RequestKey) : Nat :=
  (channels.map ChannelDefinition.requestKey).idxOf key

theorem firstSeen_append {cs : List ChannelDefinition} {key : RequestKey}
    (h : key ∈ cs.map ChannelDefinition.requestKey) (c : ChannelDefinition) :
    firstSeen (cs ++ [c]) key = firstSeen cs key := by
  rw [firstSeen, firstSeen, List.map_append, List.idxOf_append_of_mem h]

theorem firstSeen_lt {cs : List ChannelDefinition} {key : RequestKey}
    (h : key ∈ cs.map ChannelDefinition.requestKey) : firstSeen cs key < cs.length := by
  have hlt := List.idxOf_lt_length_iff.mpr h
  rwa [List.length_map] at hlt

theorem firstSeen_new {cs : List ChannelDefinition} {c : ChannelDefinition}
    (h : c.requestKey ∉ cs.map ChannelDefinition.requestKey) :
    firstSeen (cs ++ [c]) c.requestKey = cs.length := by
  rw [firstSeen, List.map_append, List.idxOf_append_of_notMem h, List.map_singleton,
    List.idxOf_cons_self, List.length_map, Nat.add_zero]

/-- The requests in the order in which their command pairs come up. -/
def Grouping.Ordered (g : Grouping) (cs : List ChannelDefinition) : Prop :=
  (g.requests.map Request.key).Pairwise fun key key' => firstSeen cs key < firstSeen cs key'

theorem Grouping.Ordered.add {g : Grouping} {cs : List ChannelDefinition} (hg : g.Sound cs)
    (h : g.Ordered cs) (c : ChannelDefinition) : (g.add c).Ordered (cs ++ [c]) := by
  have hold : (g.requests.map Request.key).Pairwise fun key key' =>
      firstSeen (cs ++ [c]) key < firstSeen (cs ++ [c]) key' := by
    refine h.imp_of_mem fun {key key'} hk hk' hlt => ?_
    rw [firstSeen_append ((hg.keys key).mp hk), firstSeen_append ((hg.keys key').mp hk')]
    exact hlt
  rw [Grouping.Ordered, Grouping.add]
  cases hget : g.index.get? c.requestKey with
  | some i =>
      show ((g.requests.modify i fun r => { r with records := r.records ++ [c] }).map
        Request.key).Pairwise _
      rw [map_key_modify]
      exact hold
  | none =>
      have hnew : c.requestKey ∉ cs.map ChannelDefinition.requestKey := by
        intro hmem
        obtain ⟨i, hi⟩ := List.mem_iff_getElem?.mp ((hg.keys _).mpr hmem)
        rw [(hg.index _ _).mpr hi] at hget
        cases hget
      show ((g.requests ++ [_]).map Request.key).Pairwise _
      rw [List.map_append, List.pairwise_append]
      refine ⟨hold, List.pairwise_singleton _ _, ?_⟩
      intro key hkey key' hkey'
      obtain rfl : key' = c.requestKey := List.mem_singleton.mp hkey'
      have hmem := (hg.keys key).mp hkey
      rw [firstSeen_append hmem, firstSeen_new hnew]
      exact firstSeen_lt hmem

theorem groupRequests_ordered (channels : List ChannelDefinition) :
    (channels.foldl Grouping.add {}).Ordered channels := by
  induction channels using List.reverseRecOn with
  | nil => exact List.Pairwise.nil
  | append_singleton cs c ih =>
      rw [List.foldl_append]
      exact Grouping.Ordered.add (groupRequests_sound cs) ih c

namespace HeatPumpConfig

variable {config : HeatPumpConfig}

theorem requests_ordered (config : HeatPumpConfig) : config.requests.Pairwise fun r r' =>
    firstSeen config.channels r.key < firstSeen config.channels r'.key := by
  have h := groupRequests_ordered config.channels
  rw [Grouping.Ordered, List.pairwise_map] at h
  exact h

/-- The request that is found comes up before the others that would do. -/
theorem requestForChannel_first {channelId : String} {request request' : Request}
    (h : config.requestForChannel channelId = some request) (hmem : request' ∈ config.requests)
    (hid : ∃ c ∈ request'.records, c.channelId = channelId) :
    firstSeen config.channels request.key ≤ firstSeen config.channels request'.key := by
  obtain ⟨_, front, back, hsplit, hfront⟩ := List.find?_eq_some_iff_append.mp h
  have hordered := config.requests_ordered
  rw [hsplit] at hordered hmem
  rcases List.mem_append.mp hmem with hin | hin
  · obtain ⟨c, hc, hcid⟩ := hid
    have hno := hfront request' hin
    rw [Bool.not_eq_true', List.any_eq_false] at hno
    exact absurd (decide_eq_true hcid) (hno c hc)
  · rcases List.mem_cons.mp hin with rfl | hin
    · exact Nat.le_refl _
    · have hback := (List.pairwise_append.mp hordered).2.1
      exact Nat.le_of_lt ((List.pairwise_cons.mp hback).1 request' hin)

/-- Both lookups lead to one record exactly where no other definition of the id has a
command pair that comes up before the record's own. -/
theorem lookups_agree_iff {channelId : String} {record : ChannelDefinition}
    (h : config.channel channelId = some record) :
    (∃ request, config.requestForChannel channelId = some request ∧
        request.key = record.requestKey ∧ record ∈ request.records) ↔
      ∀ c ∈ config.channels, c.channelId = channelId →
        firstSeen config.channels record.requestKey
          ≤ firstSeen config.channels c.requestKey := by
  obtain ⟨hmem, hid⟩ := channel_mem h
  refine ⟨?_, ?_⟩
  · intro hc c hcmem hcid
    obtain ⟨request, hrequest, hkey, _⟩ := hc
    obtain ⟨request', hrequest', hkey', hcin⟩ := exists_request_of_channel hcmem
    have hfirst := requestForChannel_first hrequest hrequest' ⟨c, hcin, hcid⟩
    rwa [hkey, hkey'] at hfirst
  · intro hfirst
    obtain ⟨request, hrequest, hin⟩ := requestForChannel_isSome hmem hid
    obtain ⟨own, hown, hownkey, hownmem⟩ := exists_request_of_channel hmem
    -- The record that `request` was found by is a definition of the id too.
    have hany := List.find?_some (p := fun request : Request =>
      request.records.any fun c => decide (c.channelId = channelId)) hrequest
    obtain ⟨c, hc, hcid⟩ := List.any_eq_true.mp hany
    obtain ⟨hcmem, hckey⟩ := (mem_records hin).mp hc
    have hle := hfirst c hcmem (of_decide_eq_true hcid)
    have hge := requestForChannel_first hrequest hown ⟨record, hownmem, hid⟩
    rw [hownkey, ← hckey] at hge
    have hkey : record.requestKey = c.requestKey :=
      (List.idxOf_inj (List.mem_map_of_mem hmem)).mp (Nat.le_antisymm hle hge)
    exact ⟨request, hrequest, hckey ▸ hkey.symm,
      (mem_records hin).mpr ⟨hmem, hkey.trans hckey⟩⟩

end HeatPumpConfig

/-- A channel id that is defined once for the read-only clock and once for a register
of its own. -/
def clockDay : ChannelDefinition :=
  { channelId := "day", requestByte := "FC", dataType := .settings, position := 12, length := 1
    min := .finite 1, max := .finite 31, step := .finite 1 }

def clockDayRegister : ChannelDefinition :=
  { clockDay with requestByte := "0A0122", position := 7 }

/-- The clock's day once more, at the end of the list. -/
def clockDayAgain : ChannelDefinition := { clockDay with position := 13 }

/-- The id is defined three times, but its last definition is one of the first command's. -/
theorem lookups_agree_repeated : ∃ request,
    HeatPumpConfig.requestForChannel { channels := [clockDay, clockDayRegister, clockDayAgain] }
        "day" = some request ∧
      request.key = clockDayAgain.requestKey ∧ clockDayAgain ∈ request.records :=
  (HeatPumpConfig.lookups_agree_iff (by decide)).mpr (by decide +kernel)

/-- A write goes to `0A0122`, a read to `FC`. -/
theorem lookups_disagree :
    HeatPumpConfig.channel { channels := [clockDay, clockDayRegister] } "day"
        = some clockDayRegister ∧
      HeatPumpConfig.requestForChannel { channels := [clockDay, clockDayRegister] } "day"
        = some { requestByte := "FC", requestByte2 := none, records := [clockDay] } ∧
      clockDayRegister.requestKey = ("0A0122", none) := by
  decide +kernel

end HeatpumpGateway