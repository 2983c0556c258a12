import HeatpumpGateway.Lib.Partition
import HeatpumpGateway.Proofs.Lookup

/-!
# Every channel in exactly one request

A list of definitions may repeat a channel, so what `_group_requests` splits is the
places of the list. The key of a request is the command pair of its channels with the
letters folded to upper case (`requestKey_eq`); folding a key again changes nothing, so
what the loop keeps about keys is said here about the commands as they are written,
compared without regard to case.
-/

namespace HeatpumpGateway

/-- The same commands up to case. -/
def SameCommands (p q : String × Option String) : Prop := foldCase p = foldCase q

instance (p q : String × Option String) : Decidable (SameCommands p q) :=
  inferInstanceAs (Decidable (_ = _))

theorem firstSeen_eq (channels : List ChannelDefinition) (key : RequestKey) :
    firstSeen channels key = channels.findIdx fun c => c.requestKey = key := by
  rw [firstSeen, List.idxOf, List.findIdx_map]
  refine congrArg (fun p => channels.findIdx p) (funext fun c => ?_)
  exact beq_eq_decide _ _

/-- The requests split the channels by their keys. -/
theorem groupRequests_splits (channels : List ChannelDefinition) :
    Partition.Splits channels ((groupRequests channels).map Request.records)
      (((groupRequests channels).map Request.key).map
        (Partition.places ChannelDefinition.requestKey channels)) := by
  have hsound := groupRequests_sound channels
  have hrecords : (groupRequests channels).map Request.records =
      ((groupRequests channels).map Request.key).map fun key =>
        channels.filter fun c => c.requestKey = key := by
    rw [List.map_map]
    exact List.map_congr_left hsound.records
  have hordered := groupRequests_ordered channels
  simp only [Grouping.Ordered, firstSeen_eq] at hordered
  rw [hrecords]
  exact Partition.splits_of_key hsound.keys hordered

/-- A request goes by commands that are folded already. -/
theorem foldCase_key {channels : List ChannelDefinition} {request : Request}
    (h : request ∈ groupRequests channels) : foldCase request.key = request.key := by
  obtain ⟨c, _, hkey⟩ :=
    @HeatPumpConfig.exists_channel_of_request { channels := channels } request h
  rw [← hkey, c.requestKey_eq, foldCase_foldCase]

/-- The requests that come out of the loop partition the channels: a place of the list is
in one request only, each request keeps the order and is of one command pair, and the
requests come in the order of their first channels. -/
theorem groupRequests_partition (channels : List ChannelDefinition) :
    (∃ parts, Partition.Splits channels ((groupRequests channels).map Request.records) parts) ∧
      (∀ request ∈ groupRequests channels, ∀ c ∈ request.records,
        SameCommands c.commands request.key) ∧
      (groupRequests channels).Pairwise fun request request' =>
        ¬ SameCommands request.key request'.key := by
  refine ⟨⟨_, groupRequests_splits channels⟩, ?_, ?_⟩
  · intro request h c hc
    have hkey : c.requestKey = request.key :=
      ((@HeatPumpConfig.mem_records { channels := channels } request h c).mp hc).2
    rw [SameCommands, foldCase_key h, ← c.requestKey_eq, hkey]
  · have hnodup := HeatPumpConfig.requests_keys_nodup { channels := channels }
    refine (List.pairwise_map.mp hnodup).imp_of_mem fun {request request'} h h' hne hsame => ?_
    rw [SameCommands, foldCase_key h, foldCase_key h'] at hsame
    exact hne hsame

/-- `fb` and `FB` are one command, whose first channel comes before that of `FC`. -/
example : (groupRequests [{ clockDay with requestByte := "fb" }, clockDay,
      { clockDay with requestByte := "FB" }]).map (fun r => (r.requestByte, r.records.length))
    = [("FB", 2), ("FC", 1)] := by
  decide +kernel

end HeatpumpGateway
