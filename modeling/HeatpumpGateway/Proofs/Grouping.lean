import HeatpumpGateway.Model.Service
import HeatpumpGateway.Proofs.Capitals

/-!
# Requests partition the channels

A request goes by the upper-cased text of its channels' commands. The grouping loop
keeps an index from command pairs to requests. Its invariant is that the index is right
and that each request holds the channels seen so far with its command pair, in their
order. What comes out is a partition: no command pair twice, and every channel in the
request of its own pair.

Where the channels' ids are distinct the lookups by id are its inverse: a channel's
id finds the channel, and the request it is a record of.
-/

namespace HeatpumpGateway

/-! ## Upper-cased commands -/

/-- The commands of a channel, as they are written. -/
def ChannelDefinition.commands (c : ChannelDefinition) : String × Option String :=
  (c.requestByte, c.requestByte2)

/-- Commands without the case of their letters. An empty second command is none. -/
def foldCase (commands : String × Option String) : String × Option String :=
  (upper commands.1, (commands.2.filter fun text => text ≠ "").map upper)

theorem ChannelDefinition.requestKey_eq (c : ChannelDefinition) :
    c.requestKey = foldCase c.commands := by
  rw [requestKey, foldCase, commands]
  cases c.requestByte2 with
  | none => rfl
  | some text =>
      by_cases hempty : text = ""
      · simp [hempty]
      · simp [hempty]

/-- There is nothing left to fold. -/
theorem foldCase_foldCase (p : String × Option String) : foldCase (foldCase p) = foldCase p := by
  obtain ⟨first, second⟩ := p
  rw [foldCase, foldCase, upper_upper]
  cases second with
  | none => rfl
  | some text =>
      by_cases hempty : text = ""
      · simp [Option.filter_some, hempty]
      · simp [Option.filter_some, hempty]

theorem second_ne_empty_of_foldCase {p : String × Option String} {second : String}
    (h : (foldCase p).2 = some second) : second ≠ "" := by
  obtain ⟨text, htext, hupper⟩ := Option.map_eq_some_iff.mp h
  have hne : text ≠ "" := of_decide_eq_true (Option.filter_eq_some_iff.mp htext).2
  rw [← hupper]
  exact mt upper_eq_empty_iff.mp hne

/-! ## The loop -/

def Request.key (r : Request) : RequestKey := (r.requestByte, r.requestByte2)

/-- The invariant of the loop after the channels `cs`. -/
structure Grouping.Sound (g : Grouping) (cs : List ChannelDefinition) : Prop where
  records : ∀ r ∈ g.requests, r.records = cs.filter fun c => c.requestKey = r.key
  keys : ∀ key, key ∈ g.requests.map Request.key ↔ key ∈ cs.map ChannelDefinition.requestKey
  nodup : (g.requests.map Request.key).Nodup
  index : ∀ key i, g.index.get? key = some i ↔ (g.requests.map Request.key)[i]? = some key

theorem Grouping.sound_empty : Grouping.Sound {} [] where
  records := by simp
  keys := by simp
  nodup := List.nodup_nil
  index := by simp

theorem map_key_modify (requests : List Request) (i : Nat) (c : ChannelDefinition) :
    (requests.modify i fun r => { r with records := r.records ++ [c] }).map Request.key
      = requests.map Request.key := by
  refine List.ext_getElem? fun j => ?_
  rw [List.getElem?_map, List.getElem?_map, List.getElem?_modify]
  cases requests[j]? with
  | none => rfl
  | some r =>
      simp only [Option.map_some]
      split <;> rfl

/-- The key at an index of its own belongs to no other request. -/
theorem key_eq_iff {requests : List Request} (hnd : (requests.map Request.key).Nodup)
    {i j : Nat} {key : RequestKey} {r : Request}
    (hi : (requests.map Request.key)[i]? = some key) (hj : requests[j]? = some r) :
    key = r.key ↔ i = j := by
  have hjkey : (requests.map Request.key)[j]? = some r.key := by
    rw [List.getElem?_map, hj]
    rfl
  refine ⟨?_, ?_⟩
  · intro heq
    rw [heq] at hi
    exact (List.getElem?_inj (List.getElem?_eq_some_iff.mp hi).1 hnd).mp (hi.trans hjkey.symm)
  · intro heq
    rw [heq, hjkey] at hi
    exact (Option.some.inj hi).symm

/-- A channel of a request that is there already. -/
theorem Grouping.Sound.extend {g : Grouping} {cs : List ChannelDefinition} (h : g.Sound cs)
    {c : ChannelDefinition} {i : Nat} (hget : g.index.get? c.requestKey = some i) :
    Grouping.Sound { g with requests := g.requests.modify i fun request =>
      { request with records := request.records ++ [c] } } (cs ++ [c]) := by
  have hi := (h.index _ _).mp hget
  have hmem : c.requestKey ∈ cs.map ChannelDefinition.requestKey :=
    (h.keys _).mp (List.mem_of_getElem? hi)
  refine ⟨?_, ?_, ?_, ?_⟩
  · intro r hr
    obtain ⟨j, hj⟩ := List.mem_iff_getElem?.mp hr
    rw [List.getElem?_modify] at hj
    obtain ⟨r₀, hr₀, rfl⟩ := Option.map_eq_some_iff.mp hj
    have hold := h.records r₀ (List.mem_of_getElem? hr₀)
    rw [List.filter_append]
    split
    · next heq =>
        have hkey := (key_eq_iff h.nodup hi hr₀).mpr heq
        show r₀.records ++ [c]
          = cs.filter (fun c' => c'.requestKey = r₀.key)
            ++ [c].filter fun c' => c'.requestKey = r₀.key
        rw [hold, List.filter_cons_of_pos (by rw [hkey]; exact decide_eq_true rfl),
          List.filter_nil]
    · next hne =>
        have hkey : ¬ c.requestKey = r₀.key := fun hc =>
          hne ((key_eq_iff h.nodup hi hr₀).mp hc)
        rw [List.filter_cons_of_neg (by simpa using hkey), List.filter_nil, List.append_nil]
        exact hold
  · intro key
    simp only [map_key_modify, List.map_append, List.mem_append, h.keys]
    refine ⟨?_, ?_⟩
    · intro hk
      exact .inl hk
    · intro hc
      rcases hc with hk | hk
      · exact hk
      · obtain rfl : key = c.requestKey := by simpa using hk
        exact hmem
  · simpa only [map_key_modify] using h.nodup
  · intro key j
    simpa only [map_key_modify] using h.index key j

/-- A channel with commands of its own. -/
theorem Grouping.Sound.append {g : Grouping} {cs : List ChannelDefinition} (h : g.Sound cs)
    {c : ChannelDefinition} (hget : g.index.get? c.requestKey = none) :
    Grouping.Sound
      { requests := g.requests ++
          [{ requestByte := c.requestKey.1, requestByte2 := c.requestKey.2, records := [c] }]
        index := g.index.set c.requestKey g.requests.length } (cs ++ [c]) := by
  have hnot : c.requestKey ∉ cs.map ChannelDefinition.requestKey := by
    rw [← h.keys]
    intro hmem
    obtain ⟨i, hi⟩ := List.mem_iff_getElem?.mp hmem
    rw [(h.index _ _).mpr hi] at hget
    cases hget
  refine ⟨?_, ?_, ?_, ?_⟩
  · intro r hr
    rw [List.filter_append]
    rcases List.mem_append.mp hr with hr | hr
    · have hkey : ¬ c.requestKey = r.key := by
        intro hc
        refine hnot ((h.keys _).mp ?_)
        rw [hc]
        exact List.mem_map_of_mem hr
      rw [List.filter_cons_of_neg (by simpa using hkey), List.filter_nil, List.append_nil]
      exact h.records r hr
    · rw [List.mem_singleton.mp hr, List.filter_eq_nil_iff.mpr ?_]
      · simp [Request.key]
      · intro c' hc' hkey
        refine hnot (List.mem_map.mpr ⟨c', hc', ?_⟩)
        simpa [Request.key] using hkey
  · intro key
    simp only [List.map_append, List.mem_append, h.keys]
    rfl
  · rw [List.map_append, List.nodup_append]
    refine ⟨h.nodup, by simp, ?_⟩
    intro key hkey key' hkey' heq
    obtain rfl : key' = c.requestKey := by simpa [Request.key] using hkey'
    rw [heq] at hkey
    exact hnot ((h.keys _).mp hkey)
  · intro key j
    have hindex := Dict.index_append h.index hget key j
    rw [List.length_map] at hindex
    rw [hindex, List.map_append]
    rfl

theorem Grouping.Sound.add {g : Grouping} {cs : List ChannelDefinition} (h : g.Sound cs)
    (c : ChannelDefinition) : (g.add c).Sound (cs ++ [c]) := by
  rw [Grouping.add]
  cases hget : g.index.get? c.requestKey with
  | some i => exact h.extend hget
  | none => exact h.append hget

theorem groupRequests_sound (channels : List ChannelDefinition) :
    (channels.foldl Grouping.add {}).Sound channels := by
  have hfold : ∀ (rest done : List ChannelDefinition) (g : Grouping), g.Sound done →
      (rest.foldl Grouping.add g).Sound (done ++ rest) := by
    intro rest
    induction rest with
    | nil => intro done g hg; rwa [List.append_nil]
    | cons c rest ih =>
        intro done g hg
        have hnext := ih (done ++ [c]) (g.add c) (hg.add c)
        rwa [List.append_assoc] at hnext
  exact hfold channels [] {} Grouping.sound_empty

namespace HeatPumpConfig

variable {config : HeatPumpConfig}

theorem records_eq {request : Request} (h : request ∈ config.requests) :
    request.records = config.channels.filter fun c => c.requestKey = request.key :=
  (groupRequests_sound config.channels).records request h

theorem requests_keys_nodup (config : HeatPumpConfig) :
    (config.requests.map Request.key).Nodup :=
  (groupRequests_sound config.channels).nodup

/-- A request has the commands of some channel. -/
theorem exists_channel_of_request {request : Request} (h : request ∈ config.requests) :
    ∃ c ∈ config.channels, c.requestKey = request.key := by
  have hkey : request.key ∈ config.requests.map Request.key := List.mem_map_of_mem h
  have hc := ((groupRequests_sound config.channels).keys _).mp hkey
  obtain ⟨c, hc, heq⟩ := List.mem_map.mp hc
  exact ⟨c, hc, heq⟩

/-- Every channel is a record of the request with its commands. -/
theorem exists_request_of_channel {c : ChannelDefinition} (h : c ∈ config.channels) :
    ∃ request ∈ config.requests, request.key = c.requestKey ∧ c ∈ request.records := by
  have hkey : c.requestKey ∈ config.channels.map ChannelDefinition.requestKey :=
    List.mem_map_of_mem h
  obtain ⟨request, hrequest, heq⟩ :=
    List.mem_map.mp (((groupRequests_sound config.channels).keys _).mpr hkey)
  refine ⟨request, hrequest, heq, ?_⟩
  rw [records_eq hrequest]
  simp [h, heq]

/-- An empty second command is no command. -/
theorem second_ne_empty {request : Request} (h : request ∈ config.requests) {second : String}
    (hsecond : request.requestByte2 = some second) : second ≠ "" := by
  obtain ⟨c, _, hkey⟩ := exists_channel_of_request h
  rw [c.requestKey_eq] at hkey
  refine second_ne_empty_of_foldCase (p := c.commands) ?_
  rw [hkey]
  exact hsecond

theorem requestForChannel_isSome {channelId : String} {record : ChannelDefinition}
    (h : record ∈ config.channels) (hid : record.channelId = channelId) :
    ∃ request, config.requestForChannel channelId = some request ∧
      request ∈ config.requests := by
  obtain ⟨request, hrequest, _, hmem⟩ := exists_request_of_channel h
  have hfind : (config.requestForChannel channelId).isSome := by
    rw [requestForChannel, List.find?_isSome]
    refine ⟨request, hrequest, List.any_eq_true.mpr ⟨record, hmem, ?_⟩⟩
    simp [hid]
  obtain ⟨found, hfound⟩ := Option.isSome_iff_exists.mp hfind
  exact ⟨found, hfound, List.mem_of_find?_eq_some hfound⟩

theorem channel_mem {channelId : String} {record : ChannelDefinition}
    (h : config.channel channelId = some record) :
    record ∈ config.channels ∧ record.channelId = channelId := by
  obtain ⟨c, hc, heq⟩ := List.mem_map.mp (Dict.mem_of_get?_ofPairs h)
  cases heq
  exact ⟨hc, rfl⟩

/-! ## The requests of some channels -/

/-- The loop of `_requests_for`, from the requests found so far. -/
theorem requestsFor_invariant (config : HeatPumpConfig) {P : List Request → Prop}
    (hnew : ∀ requests request, request ∈ config.requests → request ∉ requests → P requests →
      P (requests ++ [request])) (channelIds : List String) : ∀ requests, P requests →
      P (channelIds.foldl (fun requests channelId =>
        match config.requestForChannel channelId with
        | some request => if request ∈ requests then requests else requests ++ [request]
        | none => requests) requests) := by
  induction channelIds with
  | nil => intro requests h; exact h
  | cons channelId channelIds ih =>
      intro requests h
      refine ih _ ?_
      cases hfind : config.requestForChannel channelId with
      | none =>
          simp only [hfind]
          exact h
      | some found =>
          simp only [hfind]
          by_cases hin : found ∈ requests
          · rw [if_pos hin]
            exact h
          · rw [if_neg hin]
            exact hnew requests found (List.mem_of_find?_eq_some hfind) hin h

theorem requestsFor_subset (channelIds : List String) {request : Request}
    (h : request ∈ HeatPumpService.requestsFor config channelIds) :
    request ∈ config.requests := by
  have hall : ∀ r ∈ HeatPumpService.requestsFor config channelIds, r ∈ config.requests := by
    refine requestsFor_invariant config (P := fun requests => ∀ r ∈ requests, r ∈ config.requests)
      ?_ channelIds [] (by simp)
    intro requests found hfound _ hall r hr
    rcases List.mem_append.mp hr with hr | hr
    · exact hall r hr
    · rw [List.mem_singleton.mp hr]
      exact hfound
  exact hall request h

theorem requestsFor_nodup (config : HeatPumpConfig) (channelIds : List String) :
    (HeatPumpService.requestsFor config channelIds).Nodup := by
  refine requestsFor_invariant config (P := fun requests => requests.Nodup) ?_ channelIds []
    List.nodup_nil
  intro requests found _ hfresh hnd
  refine List.nodup_append.mpr ⟨hnd, by simp, ?_⟩
  intro r hr r' hr' heq
  rw [List.mem_singleton.mp hr'] at heq
  exact hfresh (heq ▸ hr)

theorem mem_requestsFor {channelIds : List String} {channelId : String} {request : Request}
    (h : config.requestForChannel channelId = some request) (hin : channelId ∈ channelIds) :
    request ∈ HeatPumpService.requestsFor config channelIds := by
  obtain ⟨before, after, rfl⟩ := List.append_of_mem hin
  rw [HeatPumpService.requestsFor, List.foldl_append, List.foldl_cons, h]
  refine requestsFor_invariant config (P := fun requests => request ∈ requests) ?_ after _ ?_
  · intro requests _ _ _ hmem
    exact List.mem_append_left _ hmem
  · simp only []
    split
    · next hmem => exact hmem
    · exact List.mem_append_right _ (List.mem_singleton_self request)

/-! ## Channels with ids of their own -/

theorem mem_records {request : Request} (h : request ∈ config.requests)
    {record : ChannelDefinition} :
    record ∈ request.records ↔ record ∈ config.channels ∧ record.requestKey = request.key := by
  rw [records_eq h, List.mem_filter, decide_eq_true_iff]

/-- A record is a record of one request only. -/
theorem request_unique {request request' : Request} (h : request ∈ config.requests)
    (h' : request' ∈ config.requests) {record : ChannelDefinition}
    (hr : record ∈ request.records) (hr' : record ∈ request'.records) : request = request' := by
  have hkey := ((mem_records h).mp hr).2
  have hkey' := ((mem_records h').mp hr').2
  exact List.inj_on_of_nodup_map (requests_keys_nodup config) h h' (hkey.symm.trans hkey')

variable (hids : (config.channels.map ChannelDefinition.channelId).Nodup)
include hids

theorem channel_of_mem {record : ChannelDefinition} (h : record ∈ config.channels) :
    config.channel record.channelId = some record := by
  have hpairs : config.byId = config.channels.map fun c => (c.channelId, c) := by
    refine Dict.ofPairs_of_nodup ?_
    rw [List.map_map]
    exact hids
  rw [channel, hpairs]
  refine Dict.get?_eq_some_of_mem ?_ (List.mem_map_of_mem h)
  rw [Dict.keys, List.map_map]
  exact hids

theorem record_unique {record record' : ChannelDefinition} (h : record ∈ config.channels)
    (h' : record' ∈ config.channels) (hid : record.channelId = record'.channelId) :
    record = record' :=
  List.inj_on_of_nodup_map hids h h' hid

theorem requestForChannel_eq {request : Request} (h : request ∈ config.requests)
    {record : ChannelDefinition} (hr : record ∈ request.records) :
    config.requestForChannel record.channelId = some request := by
  have hmem := ((mem_records h).mp hr).1
  obtain ⟨found, hfound, hin⟩ := requestForChannel_isSome hmem rfl
  have hany := List.find?_some hfound
  obtain ⟨record', hr', hid⟩ := List.any_eq_true.mp hany
  have heq : record' = record :=
    record_unique hids ((mem_records hin).mp hr').1 hmem (of_decide_eq_true hid)
  rw [heq] at hr'
  rw [hfound, request_unique hin h hr' hr]

theorem records_ids_nodup {request : Request} (h : request ∈ config.requests) :
    (request.records.map ChannelDefinition.channelId).Nodup := by
  rw [records_eq h]
  exact (List.filter_sublist.map _).nodup hids

/-- The ids of the records of distinct requests are distinct. -/
theorem flatMap_records_ids_nodup {requests : List Request} (hnd : requests.Nodup)
    (hsub : ∀ request ∈ requests, request ∈ config.requests) :
    ((requests.flatMap Request.records).map ChannelDefinition.channelId).Nodup := by
  have hrecords : (requests.flatMap Request.records).Nodup := by
    rw [List.nodup_flatMap]
    refine ⟨?_, ?_⟩
    · intro request hrequest
      rw [records_eq (hsub request hrequest)]
      exact (List.Nodup.of_map _ hids).filter _
    · refine List.Pairwise.imp_of_mem ?_ hnd
      intro request request' h h' hne record hr hr'
      exact hne (request_unique (hsub _ h) (hsub _ h') hr hr')
  refine List.Nodup.map_on ?_ hrecords
  intro record hr record' hr' hid
  obtain ⟨request, hrequest, hin⟩ := List.mem_flatMap.mp hr
  obtain ⟨request', hrequest', hin'⟩ := List.mem_flatMap.mp hr'
  exact record_unique hids ((mem_records (hsub _ hrequest)).mp hin).1
    ((mem_records (hsub _ hrequest')).mp hin').1 hid

end HeatPumpConfig

end HeatpumpGateway
