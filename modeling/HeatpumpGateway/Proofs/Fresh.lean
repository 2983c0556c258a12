import HeatpumpGateway.Proofs.Constructor
import HeatpumpGateway.Proofs.Sweep

/-!
# The simulator as it is built

The constructor stores a frame for every command of every request, and its seeds
only write into the fields of a frame. So each frame keeps the form of a register
that has room for all the records of its request (`Stocked`). A device that cannot
take one command for another then answers a read with such frames, each of which
decodes all the records, and the sweeps of the service are complete.

Two commands are told apart although the footer follows the command in a message:
none of them is another one followed by the footer's first byte, or by both.
-/

namespace HeatpumpGateway

open Dialogue Stuffing Fallible CommunicationService

/-- The commands of a request, as they are written in the configuration. -/
def Request.texts (request : Request) : List String :=
  request.requestByte :: request.requestByte2.toList

/-- The bytes of a request's commands. -/
def spelled (request : Request) : List Bytes :=
  (request.requestByte :: request.requestByte2.toList).filterMap fun text =>
    (fromHex text).toOption

theorem Names.spelled {request : Request} {c : Command} (h : Names request c) :
    c.bytes ∈ spelled request := by
  refine List.mem_filterMap.mpr ⟨c.text, ?_, by rw [c.hex]; rfl⟩
  rcases h with h | ⟨h, _⟩
  · rw [h]
    exact List.mem_cons_self
  · rw [h]
    exact List.mem_cons_of_mem _ (List.mem_singleton_self _)

/-- Commands that cannot be taken for one another, and records that fit behind them. -/
structure Tidy (config : HeatPumpConfig) : Prop where
  ids : (config.channels.map ChannelDefinition.channelId).Nodup
  command : ∀ request ∈ config.requests, ∀ c, Names request c → c.bytes ≠ []
  own : ∀ request ∈ config.requests, ∀ request' ∈ config.requests, ∀ c c', Names request c →
    Names request' c' → c.bytes = c'.bytes → request = request'
  footer : ∀ request ∈ config.requests, ∀ request' ∈ config.requests, ∀ c c',
    Names request c → Names request' c' →
    c.bytes ≠ c'.bytes ++ [ESCAPE] ∧ c.bytes ≠ c'.bytes ++ FOOTER
  length : ∀ c ∈ config.channels, c.length = 1 ∨ c.length = 2 ∨ c.length = 4
  bit : ∀ c ∈ config.channels, c.bitPosition < 8 * c.length
  behind : ∀ request ∈ config.requests, ∀ record ∈ request.records, ∀ c, Names request c →
    3 + (c.bytes.length : Int) ≤ record.position
  fits : ∀ request ∈ config.requests, HeatPumpSimulator.dataEnd request.records + 2 ≤ 512

/-- With a factor that takes no number out of the floats each record decodes from any
bytes. -/
structure Fitting (config : HeatPumpConfig) : Prop extends Tidy config where
  legible : ∀ c ∈ config.channels, Legible c

/-- Read off the commands' bytes, which are data. -/
theorem Tidy.of_spelled {config : HeatPumpConfig}
    (ids : (config.channels.map ChannelDefinition.channelId).Nodup)
    (command : ∀ request ∈ config.requests, ∀ b ∈ spelled request, b ≠ [])
    (own : ∀ request ∈ config.requests, ∀ request' ∈ config.requests, ∀ b ∈ spelled request,
      b ∈ spelled request' → request = request')
    (footer : ∀ request ∈ config.requests, ∀ request' ∈ config.requests, ∀ b ∈ spelled request,
      ∀ b' ∈ spelled request', b ≠ b' ++ [ESCAPE] ∧ b ≠ b' ++ FOOTER)
    (length : ∀ c ∈ config.channels, c.length = 1 ∨ c.length = 2 ∨ c.length = 4)
    (bit : ∀ c ∈ config.channels, c.bitPosition < 8 * c.length)
    (behind : ∀ request ∈ config.requests, ∀ record ∈ request.records, ∀ b ∈ spelled request,
      3 + (b.length : Int) ≤ record.position)
    (fits : ∀ request ∈ config.requests, HeatPumpSimulator.dataEnd request.records + 2 ≤ 512) :
    Tidy config where
  ids := ids
  command request hrequest _ hc := command request hrequest _ hc.spelled
  own request hrequest request' hrequest' _ _ hc hc' heq :=
    own request hrequest request' hrequest' _ hc.spelled (heq ▸ hc'.spelled)
  footer request hrequest request' hrequest' _ _ hc hc' :=
    footer request hrequest request' hrequest' _ hc.spelled _ hc'.spelled
  length := length
  bit := bit
  behind request hrequest record hrecord _ hc :=
    behind request hrequest record hrecord _ hc.spelled
  fits := fits

/-! ## Frames of a request -/

/-- A command's frame that has room for the records, its checksum aside. -/
def Shaped (records : List ChannelDefinition) (command frame : Bytes) : Prop :=
  ∃ x data, frame = HEADER_START :: GET :: x :: (command ++ data ++ FOOTER) ∧
    3 + (command.length : Int) + data.length = HeatPumpSimulator.dataEnd records

/-- The frame of a register that has room for the records. -/
def Roomy (records : List ChannelDefinition) (command frame : Bytes) : Prop :=
  ∃ data, frame = registerFrame GET command data ∧
    3 + (command.length : Int) + data.length = HeatPumpSimulator.dataEnd records

theorem Roomy.shaped {records : List ChannelDefinition} {command frame : Bytes}
    (h : Roomy records command frame) : Shaped records command frame := by
  obtain ⟨data, rfl, hlen⟩ := h
  exact ⟨_, data, rfl, hlen⟩

theorem finishFrame_eq {frame : Bytes} (h : 5 ≤ frame.length) :
    HeatPumpSimulator.finishFrame frame = .ok (sealed (frame.set 1 GET)) := by
  have hget : setItem frame 1 GET = .ok (frame.set 1 GET) := setItem_nat 1 GET (by omega)
  have hlong : 5 ≤ (frame.set 1 GET).length := by rwa [List.length_set]
  rw [HeatPumpSimulator.finishFrame, hget, ok_bind, calculateChecksum_eq hlong, ok_bind]
  exact setItem_nat 2 _ (by omega)

theorem finishFrame_roomy {records : List ChannelDefinition} {command frame out : Bytes}
    (h : Shaped records command frame) (hout : HeatPumpSimulator.finishFrame frame = .ok out) :
    Roomy records command out := by
  obtain ⟨x, data, rfl, hlen⟩ := h
  refine ⟨data, ?_, hlen⟩
  have hlong : 5 ≤ (HEADER_START :: GET :: x :: (command ++ data ++ FOOTER)).length := by
    simp only [List.length_cons, List.length_append, FOOTER, List.length_nil]
    omega
  rw [finishFrame_eq hlong] at hout
  rw [← sealed_register GET x command data]
  exact (Except.ok.inj hout).symm

/-- Seeding a field writes into the data of a frame. -/
theorem encode_writes {record : ChannelDefinition} {frame out : Bytes} {value : DecodedValue}
    (hlength : record.length = 1 ∨ record.length = 2 ∨ record.length = 4)
    (h : HeatPumpSimulator.encode frame record value = .ok out) :
    ∃ ws : Writes, out = ws.apply frame ∧
      ∀ w ∈ ws, record.position ≤ w.1 ∧ w.1 < record.position + record.length := by
  have hone : ∀ {b : UInt8}, setItem frame record.position b = .ok out →
      ∃ ws : Writes, out = ws.apply frame ∧
        ∀ w ∈ ws, record.position ≤ w.1 ∧ w.1 < record.position + record.length := by
    intro b hset
    refine ⟨[(record.position, b)], (setItem_ok_iff.mp hset).2, fun w hw => ?_⟩
    obtain rfl := List.mem_singleton.mp hw
    exact ⟨Int.le_refl _, by omega⟩
  have hshort : ∀ {raw : Int}, writeShort raw frame record = .ok out →
      ∃ ws : Writes, out = ws.apply frame ∧
        ∀ w ∈ ws, record.position ≤ w.1 ∧ w.1 < record.position + record.length := by
    intro raw hwrite
    refine ⟨shortWrites raw record, (writeShort_ok_iff.mp hwrite).2, fun w hw => ?_⟩
    rw [shortWrites] at hw
    split at hw
    · obtain rfl := List.mem_singleton.mp hw
      exact ⟨Int.le_refl _, by omega⟩
    · split at hw
      · rcases List.mem_cons.mp hw with rfl | hw
        · exact ⟨Int.le_refl _, by omega⟩
        · obtain rfl := List.mem_singleton.mp hw
          exact ⟨by omega, by omega⟩
      · cases hw
  cases value with
  | bool b =>
      simp only [HeatPumpSimulator.encode] at h
      split at h
      · obtain ⟨_, _, hset⟩ := bind_eq_ok.mp h
        exact hone hset
      · exact hone h
  | int n =>
      obtain ⟨_, _, hwrite⟩ := bind_eq_ok.mp h
      exact hshort hwrite
  | float x =>
      obtain ⟨_, _, hwrite⟩ := bind_eq_ok.mp h
      exact hshort hwrite

theorem encode_shaped {records : List ChannelDefinition} {record : ChannelDefinition}
    (hrecord : record ∈ records) {command frame out : Bytes} {value : DecodedValue}
    (hbehind : 3 + (command.length : Int) ≤ record.position)
    (hlength : record.length = 1 ∨ record.length = 2 ∨ record.length = 4)
    (h : Shaped records command frame)
    (hout : HeatPumpSimulator.encode frame record value = .ok out) :
    Shaped records command out := by
  obtain ⟨x, data, rfl, hlen⟩ := h
  have hend := le_dataEnd hrecord
  obtain ⟨ws, rfl, hws⟩ := encode_writes hlength hout
  obtain ⟨data', hdata', happly⟩ := ws.apply_middle (n := command.length + 3) FOOTER data (by
    intro w hw
    obtain ⟨hlo, hhi⟩ := hws w hw
    exact ⟨by omega, by omega⟩)
  exact ⟨x, data', happly (HEADER_START :: GET :: x :: command) rfl, by rw [hdata']; exact hlen⟩

/-- The constructor's frame of a command. -/
theorem buildFrame_roomy {request : Request} {command frame : Bytes}
    (hne : request.records ≠ [])
    (hbehind : ∀ record ∈ request.records, 3 + (command.length : Int) ≤ record.position)
    (hlength : ∀ record ∈ request.records, 0 < record.length)
    (h : HeatPumpSimulator.buildFrame request command = .ok frame) :
    Roomy request.records command frame := by
  obtain ⟨record, hrecord⟩ := List.exists_mem_of_ne_nil _ hne
  have hend := le_dataEnd hrecord
  have hpos := hbehind record hrecord
  have hlen := hlength record hrecord
  obtain ⟨k, hk⟩ : ∃ k : Nat,
      3 + (command.length : Int) + k = HeatPumpSimulator.dataEnd request.records :=
    ⟨(HeatPumpSimulator.dataEnd request.records - 3 - command.length).toNat, by omega⟩
  rw [buildFrame_eq hk.symm] at h
  exact ⟨List.replicate k 0, (Except.ok.inj h).symm, by rw [List.length_replicate]; exact hk⟩

/-! ## The store -/

/-- The store holds a frame for a request under one of its commands. -/
def Stored (store : Dict String Bytes) (request : Request) (c : Command) : Prop :=
  ∃ frame, store.get? c.text = some frame ∧ Roomy request.records c.bytes frame

theorem Stored.set {store : Dict String Bytes} {request request' : Request} {c c' : Command}
    {frame : Bytes} (hsame : c = c' → request' = request)
    (h : c ≠ c' → Stored store request' c') (hframe : Roomy request.records c.bytes frame) :
    Stored (store.set c.text frame) request' c' := by
  by_cases heq : c = c'
  · subst heq
    obtain rfl := hsame rfl
    exact ⟨frame, Dict.get?_set_self .., hframe⟩
  · obtain ⟨frame', hget, hroomy⟩ := h heq
    refine ⟨frame', ?_, hroomy⟩
    rw [Dict.get?_set_ne _ fun htext => heq (Command.ext_text htext)]
    exact hget

/-- A device at rest that knows some commands of requests and keeps a frame for each. -/
structure Stocked (named : Request → Command → Prop) (sim : HeatPumpSimulator) : Prop where
  idle : sim.state = .idle
  keys : ∀ c, c ∈ sim.commandToRequest.keys ↔ ∃ request, named request c
  frames : ∀ request c, named request c → Stored sim.store request c

/-- Entering the commands of a request, with frames that have room for its records. -/
theorem Stored.enter {request request' : Request} {c : Command}
    (entries : List (Command × Bytes)) : ∀ {sim : HeatPumpSimulator},
      (c ∈ entries.map Prod.fst → request' = request) →
      (∀ entry ∈ entries, Roomy request.records entry.1.bytes entry.2) →
      (c ∉ entries.map Prod.fst → Stored sim.store request' c) →
      Stored (entries.foldl (HeatPumpSimulator.enter request) sim).store request' c := by
  induction entries with
  | nil =>
      intro sim _ _ h
      exact h List.not_mem_nil
  | cons entry entries ih =>
      intro sim hown hroomy h
      rw [List.map_cons, List.mem_cons] at hown h
      refine ih (fun hin => hown (.inr hin))
        (fun entry' hentry' => hroomy entry' (List.mem_cons_of_mem _ hentry')) fun hnot => ?_
      exact Stored.set (fun heq => hown (.inl heq.symm))
        (fun hne => h (not_or.mpr ⟨Ne.symm hne, hnot⟩)) (hroomy entry List.mem_cons_self)

variable {config : HeatPumpConfig}

theorem Fitting.positive (h : Fitting config) {request : Request}
    (hrequest : request ∈ config.requests) : ∀ record ∈ request.records, 0 < record.length := by
  intro record hrecord
  have hlength := h.length record ((HeatPumpConfig.mem_records hrequest).mp hrecord).1
  omega

theorem records_ne_nil {request : Request} (h : request ∈ config.requests) :
    request.records ≠ [] := by
  obtain ⟨c, hc, hkey⟩ := HeatPumpConfig.exists_channel_of_request h
  exact List.ne_nil_of_mem ((HeatPumpConfig.mem_records h).mpr ⟨hc, hkey⟩)

/-- The commands of some requests. -/
def namedBy (requests : List Request) (request : Request) (c : Command) : Prop :=
  request ∈ requests ∧ Names request c

theorem addRequest_stocked (hfit : Fitting config) {requests : List Request} {request : Request}
    {sim sim' : HeatPumpSimulator} (hsub : ∀ r ∈ requests, r ∈ config.requests)
    (hrequest : request ∈ config.requests) (h : Stocked (namedBy requests) sim)
    (hadd : sim.addRequest request = .ok sim') :
    Stocked (namedBy (requests ++ [request])) sim' ∧ sim'.config = sim.config ∧ Spelt request := by
  obtain ⟨entries, rfl, hspelt, hnames, hbuilt⟩ := HeatPumpSimulator.addRequest_entries hadd
  obtain ⟨hstate, hconfig, hkeys⟩ := HeatPumpSimulator.enter_tables request entries sim
  have hnamed : ∀ r c, namedBy (requests ++ [request]) r c ↔
      namedBy requests r c ∨ r = request ∧ c ∈ entries.map Prod.fst := by
    intro r c
    rw [namedBy, namedBy, List.mem_append, List.mem_singleton, or_and_right, ← hnames]
    refine or_congr_right (and_congr_right fun heq => ?_)
    rw [heq]
  have hroomy : ∀ entry ∈ entries, Roomy request.records entry.1.bytes entry.2 := by
    intro entry hentry
    have hc : Names request entry.1 := (hnames _).mpr (List.mem_map_of_mem hentry)
    exact buildFrame_roomy (records_ne_nil hrequest)
      (fun record hrecord => hfit.behind request hrequest record hrecord _ hc)
      (hfit.positive hrequest) (hbuilt entry hentry)
  refine ⟨⟨hstate.trans h.idle, fun c => ?_, fun r c hr => ?_⟩, hconfig, hspelt⟩
  · rw [hkeys, h.keys]
    simp only [hnamed, exists_or, exists_eq_left]
  · refine Stored.enter entries (fun hin => ?_) hroomy fun hnot => ?_
    · rcases (hnamed r c).mp hr with hr | hr
      · exact hfit.own r (hsub r hr.1) request hrequest _ _ hr.2 ((hnames c).mpr hin) rfl
      · exact hr.1
    · exact h.frames r c (((hnamed r c).mp hr).resolve_right fun hc => hnot hc.2)

/-- Building the requests' frames one after another. -/
theorem addRequests_stocked (hfit : Fitting config) (rest : List Request) :
    ∀ {requests : List Request} {sim sim' : HeatPumpSimulator},
      (∀ r ∈ requests ++ rest, r ∈ config.requests) → (∀ r ∈ requests, Spelt r) →
      Stocked (namedBy requests) sim → rest.foldlM HeatPumpSimulator.addRequest sim = .ok sim' →
      Stocked (namedBy (requests ++ rest)) sim' ∧ sim'.config = sim.config ∧
        ∀ r ∈ requests ++ rest, Spelt r := by
  induction rest with
  | nil =>
      intro requests sim sim' _ hspelt h hfold
      cases hfold
      rw [List.append_nil]
      exact ⟨h, rfl, hspelt⟩
  | cons request rest ih =>
      intro requests sim sim' hsub hspelt h hfold
      rw [List.foldlM_cons] at hfold
      obtain ⟨sim₁, hadd, hfold⟩ := bind_eq_ok.mp hfold
      obtain ⟨h₁, hconfig, hrequest⟩ := addRequest_stocked hfit
        (fun r hr => hsub r (List.mem_append_left _ hr)) (hsub request (by simp)) h hadd
      rw [List.append_cons] at hsub ⊢
      obtain ⟨h₂, hconfig₂, hspelt₂⟩ := ih hsub (by
        intro r hr
        rcases List.mem_append.mp hr with hr | hr
        · exact hspelt r hr
        · exact List.mem_singleton.mp hr ▸ hrequest) h₁ hfold
      exact ⟨h₂, hconfig₂.trans hconfig, hspelt₂⟩

/-! ## Seeds -/

/-- A frame with room for the records, whose checksum may be wrong for now. -/
def Unsealed (store : Dict String Bytes) (request : Request) (c : Command) : Prop :=
  Shaped request.records c.bytes ((store.get? c.text).getD [])

theorem Stored.unsealed {store : Dict String Bytes} {request : Request} {c : Command}
    (h : Stored store request c) : Unsealed store request c := by
  obtain ⟨frame, hget, hroomy⟩ := h
  rw [Unsealed, hget]
  exact hroomy.shaped

theorem Unsealed.set {store : Dict String Bytes} {request : Request} {c c' : Command}
    {frame : Bytes} (h : Unsealed store request c')
    (hframe : Shaped request.records c.bytes frame) :
    Unsealed (store.set c.text frame) request c' := by
  by_cases heq : c = c'
  · subst heq
    rw [Unsealed, Dict.get?_set_self]
    exact hframe
  · rw [Unsealed, Dict.get?_set_ne _ fun htext => heq (Command.ext_text htext)]
    exact h

theorem Stocked.restock {named : Request → Command → Prop} {sim : HeatPumpSimulator}
    (h : Stocked named sim) {store : Dict String Bytes}
    (hframes : ∀ request c, named request c → Stored store request c) :
    Stocked named { sim with store := store } where
  idle := h.idle
  keys := h.keys
  frames := hframes

/-- A seed leaves all frames in form. -/
theorem setValue_stocked {sim sim' : HeatPumpSimulator} (hfit : Fitting sim.config)
    (hspelt : ∀ r ∈ sim.config.requests, Spelt r) (h : Stocked (namedBy sim.config.requests) sim)
    {channelId : String} {value : DecodedValue} (hset : sim.setValue channelId value = .ok sim') :
    Stocked (namedBy sim.config.requests) sim' ∧ sim'.config = sim.config := by
  rcases HeatPumpSimulator.setValue_seeds hset with rfl | ⟨record, request, hrecord, hfind, hseeds⟩
  · exact ⟨h, rfl⟩
  obtain ⟨hchannel, rfl⟩ := HeatPumpConfig.channel_mem hrecord
  obtain ⟨request', hrequest, _, hin⟩ := HeatPumpConfig.exists_request_of_channel hchannel
  obtain rfl : request' = request := by
    have heq := HeatPumpConfig.requestForChannel_eq hfit.ids hrequest hin
    rw [hfind] at heq
    exact (Option.some.inj heq).symm
  obtain ⟨⟨c, hc⟩, hspelt₂⟩ := hspelt request' hrequest
  have hnames : Names request' c := .inl hc
  -- Encoding into the frame of a command of the request.
  have hencode : ∀ {c' : Command} {frame out : Bytes} {v : DecodedValue}, Names request' c' →
      Shaped request'.records c'.bytes frame →
      HeatPumpSimulator.encode frame record v = .ok out →
      Shaped request'.records c'.bytes out := fun hc' hshaped hout =>
    encode_shaped hin (hfit.behind request' hrequest record hin _ hc')
      (hfit.length record hchannel) hshaped hout
  have hsame : ∀ {c' : Command}, Names request' c' → ∀ {r c''},
      namedBy sim.config.requests r c'' → c' = c'' → r = request' := by
    intro c' hc' r c'' hr heq
    subst heq
    exact hfit.own r hr.1 request' hrequest _ _ hr.2 hc' rfl
  have hunsealed : ∀ {c'}, Names request' c' → Unsealed sim.store request' c' :=
    fun hc' => (h.frames request' _ ⟨hrequest, hc'⟩).unsealed
  cases hseeds with
  | single hframe hout =>
      rw [← hc] at hframe
      have hroomy := finishFrame_roomy (hencode hnames (hunsealed hnames) hframe) hout
      refine ⟨h.restock fun r c' hr => ?_, rfl⟩
      rw [← hc]
      exact Stored.set (hsame hnames hr) (fun _ => h.frames r c' hr) hroomy
  | split hsecond hne hlow hhigh hout₂ hout =>
      obtain ⟨c₂, rfl⟩ := hspelt₂ _ hsecond hne
      have hnames₂ : Names request' c₂ := .inr ⟨hsecond, hne⟩
      rw [← hc] at hlow hhigh hout
      have hlow' := hencode hnames (hunsealed hnames) hlow
      have hhigh' := hencode hnames₂ ((hunsealed hnames₂).set hlow') hhigh
      have hroomy₂ := finishFrame_roomy hhigh' hout₂
      have hkept := ((hunsealed hnames).set hlow').set hroomy₂.shaped
      have hroomy := finishFrame_roomy hkept hout
      refine ⟨h.restock fun r c' hr => ?_, rfl⟩
      rw [← hc]
      refine Stored.set (hsame hnames hr) (fun hne₁ => ?_) hroomy
      refine Stored.set (hsame hnames₂ hr) (fun _ => ?_) hroomy₂
      obtain ⟨frame, hget, hframe⟩ := h.frames r c' hr
      refine ⟨frame, ?_, hframe⟩
      rw [Dict.get?_set_ne _ fun htext => hne₁ (Command.ext_text htext)]
      exact hget

/-- The device the constructor makes. -/
theorem create_stocked (hfit : Fitting config) {seedValues : Dict String DecodedValue}
    {sim : HeatPumpSimulator} (h : HeatPumpSimulator.create config seedValues = .ok sim) :
    Stocked (namedBy config.requests) sim ∧ ∀ r ∈ config.requests, Spelt r := by
  have hempty : Stocked (namedBy []) { config := config } := by
    refine ⟨rfl, fun c => iff_of_false List.not_mem_nil fun hc => ?_, fun request c hc => ?_⟩
    · obtain ⟨_, hr, _⟩ := hc
      cases hr
    · cases hc.1
  rw [HeatPumpSimulator.create] at h
  obtain ⟨sim₁, hrequests, h⟩ := bind_eq_ok.mp h
  obtain ⟨version, _, h⟩ := bind_eq_ok.mp h
  obtain ⟨hstocked, hconfig, hspelt⟩ := addRequests_stocked hfit config.requests
    (fun r hr => hr) (fun r hr => by cases hr) hempty hrequests
  rw [List.nil_append] at hstocked hspelt
  have hseed : ∀ {sim₁ : HeatPumpSimulator} {seed : String × DecodedValue}
      {sim₂ : HeatPumpSimulator},
      Stocked (namedBy config.requests) sim₁ ∧ sim₁.config = config →
      sim₁.setValue seed.1 seed.2 = .ok sim₂ →
      Stocked (namedBy config.requests) sim₂ ∧ sim₂.config = config := by
    intro sim₁ seed sim₂ hinv hset
    obtain ⟨hstocked, rfl⟩ := hinv
    exact setValue_stocked hfit hspelt hstocked hset
  exact ⟨(foldlM_invariant hseed _ ⟨hstocked, hconfig⟩ h).1, hspelt⟩

/-! ## Records that decode from any bytes -/

theorem decodeNumber_succeeds {record : ChannelDefinition} {raw : Bytes}
    (hraw : record.length = raw.length) (hlen : record.length = 1 ∨ record.length = 2)
    (hbit : record.bitPosition < 8 * record.length) (hlegible : Legible record) :
    ∃ d, decodeNumber raw (signedNumber raw) record = .ok d := by
  rw [decodeNumber]
  split
  · next hpos =>
      obtain ⟨j, hj⟩ : ∃ j : Nat, record.bitPosition / 8 = j :=
        ⟨(record.bitPosition / 8).toNat, by omega⟩
      have hlt : j < raw.length := by omega
      have hget : getItem raw (record.bitPosition / 8) = .ok raw[j] := by
        rw [hj, getItem_ok_iff, place_natCast]
        exact ⟨inRange_natCast.mpr hlt, List.getElem?_eq_getElem hlt⟩
      rw [getBitFromBytes, hget]
      exact ⟨_, rfl⟩
  · next hnobit =>
      split
      · exact ⟨_, rfl⟩
      · next hswitch =>
          split
          · next hscale =>
              have hne : raw ≠ [] := by
                rintro rfl
                simp only [List.length_nil] at hraw
                omega
              obtain ⟨x, hx⟩ := hlegible
                (valueKind_number hnobit hswitch hlen (by simpa using hscale)) _
                (fitsField_signedNumber hraw hne)
              rw [hx]
              exact ⟨_, rfl⟩
          · exact ⟨_, rfl⟩

/-- A record that lies in a frame decodes from it, whatever the bytes. -/
theorem parseRecord_succeeds {record : ChannelDefinition} {frame : Bytes}
    (h : Contained frame.length record) (hframe : 2 ≤ frame.length)
    (hlength : record.length = 1 ∨ record.length = 2 ∨ record.length = 4)
    (hbit : record.bitPosition < 8 * record.length) (hlegible : Legible record) :
    ∃ d, parseRecord frame record = .ok d := by
  obtain ⟨d, hd⟩ : ∃ d, decodeField frame record = .ok d := by
    rcases hlength with hlen | hlen | hlen
    · rw [decodeField_one h hlen]
      have hraw := fieldBytes_length (k := 1) h hlen
      exact decodeNumber_succeeds (by rw [hraw, hlen]; rfl) (.inl hlen) hbit hlegible
    · rw [decodeField_two h hlen]
      have hraw := fieldBytes_length (k := 2) h hlen
      exact decodeNumber_succeeds (by rw [hraw, hlen]; rfl) (.inr hlen) hbit hlegible
    · exact ⟨_, decodeField_four h hlen⟩
  exact ⟨d, (parseRecord_ok_iff h hframe).mpr hd⟩

/-- A frame from which every record of a request decodes. -/
def Complete (request : Request) (frame : Bytes) : Prop :=
  headerCheck frame = true ∧ ∀ record ∈ request.records, ∃ d, parseRecord frame record = .ok d

theorem Roomy.complete (hfit : Fitting config) {request : Request}
    (hrequest : request ∈ config.requests) {c : Command} (hc : Names request c) {frame : Bytes}
    (h : Roomy request.records c.bytes frame) : Complete request frame := by
  obtain ⟨data, rfl, hlen⟩ := h
  refine ⟨headerCheck_split_iff.mpr ⟨rfl, .inl rfl, rfl⟩, fun record hrecord => ?_⟩
  have hchannel := ((HeatPumpConfig.mem_records hrequest).mp hrecord).1
  have hend := le_dataEnd hrecord
  have hbehind := hfit.behind request hrequest record hrecord c hc
  refine parseRecord_succeeds ?_ (by rw [registerFrame_length]; omega)
    (hfit.length record hchannel) (hfit.bit record hchannel) (hfit.legible record hchannel)
  rw [registerFrame_length, Contained]
  omega

/-! ## Reading -/

/-- The simulator's transport between two calls. -/
structure AtRest (config : HeatPumpConfig) (t : SimulatorTransport) : Prop where
  quiet : t.rx = []
  stocked : Stocked (namedBy config.requests) t.simulator

theorem prefix_footer {command k : Bytes} (h : k <+: command ++ FOOTER)
    (hlen : command.length ≤ k.length) :
    k = command ∨ k = command ++ [ESCAPE] ∨ k = command ++ FOOTER := by
  obtain ⟨rest, rfl⟩ : ∃ rest, k = command ++ rest := by
    obtain ⟨rest, hrest⟩ := List.prefix_of_prefix_length_le (List.prefix_append _ _) h hlen
    exact ⟨rest, hrest.symm⟩
  rw [List.prefix_append_right_inj] at h
  match rest, h with
  | [], _ => exact .inl (List.append_nil _)
  | [a], h =>
      obtain ⟨ha, _⟩ := List.cons_prefix_cons.mp h
      exact .inr (.inl (by rw [ha]))
  | [a, b], h =>
      obtain ⟨ha, htail⟩ := List.cons_prefix_cons.mp h
      obtain ⟨hb, _⟩ := List.cons_prefix_cons.mp htail
      exact .inr (.inr (by rw [ha, hb]; rfl))
  | a :: b :: c :: rest, h => simpa [FOOTER] using h.length_le

/-- A message is taken for its own command, or for another of the same bytes and request. -/
theorem matchCommand_own (hfit : Fitting config) {sim : HeatPumpSimulator}
    (h : Stocked (namedBy config.requests) sim) {request : Request}
    (hrequest : request ∈ config.requests) {c : Command} (hc : Names request c) :
    ∃ k, sim.matchCommand (registerFrame GET c.bytes []) = some k ∧ k.bytes = c.bytes ∧
      Names request k := by
  have hknown : c ∈ sim.commandToRequest.keys := (h.keys c).mpr ⟨request, hrequest, hc⟩
  obtain ⟨k, hk, hmatch, hcarries, hlongest⟩ :=
    matchCommand_longest hknown (carries_register GET c.bytes [])
  obtain ⟨request', hrequest', hk'⟩ := (h.keys k).mp hk
  have hprefix : k.bytes <+: c.bytes ++ FOOTER := by
    have hdrop : (registerFrame GET c.bytes []).drop 3 = c.bytes ++ FOOTER := by
      rw [registerFrame, frameWith, List.append_nil]
      rfl
    rw [← hdrop]
    exact carries_iff_isPrefix_drop.mp hcarries
  have hapart := hfit.footer request' hrequest' request hrequest k c hk' hc
  have hbytes : k.bytes = c.bytes := by
    rcases prefix_footer hprefix (hlongest c hknown (carries_register ..)) with heq | heq | heq
    · exact heq
    · exact absurd heq hapart.1
    · exact absurd heq hapart.2
  obtain rfl := hfit.own request' hrequest' request hrequest k c hk' hc hbytes
  exact ⟨k, hmatch, hbytes, hk'⟩

theorem run_getData_stocked (hfit : Fitting config) {t : SimulatorTransport}
    (h : AtRest config t) {request : Request} (hrequest : request ∈ config.requests) {c : Command}
    (hc : Names request c) :
    ∃ frame t', run SimulatorTransport.answer
        (Connector.getData (createRequestMessage c.bytes GET)) t = (.ok frame, t') ∧
      Complete request frame ∧ AtRest config t' := by
  obtain ⟨k, hmatch, hbytes, hk⟩ := matchCommand_own hfit h.stocked hrequest hc
  obtain ⟨frame, hget, hroomy⟩ := h.stocked.frames request k ⟨hrequest, hk⟩
  obtain ⟨data, rfl, hlen⟩ := id hroomy
  have hfits : (registerFrame GET k.bytes data).length ≤ 512 := by
    have := hfit.fits request hrequest
    rw [registerFrame_length]
    omega
  have hrests : Rests t.simulator.commandToRequest t.simulator.store t :=
    ⟨h.stocked.idle, h.quiet, rfl, rfl⟩
  obtain ⟨t', hrun, hidle, hquiet, hcommands, hstore⟩ := run_get_matched hrests (k := k)
    (fun sim hsim => by
      rw [HeatPumpSimulator.matchCommand, hsim]
      exact hmatch) (hfit.command request hrequest c hc) hget hfits
  refine ⟨_, t', hrun, hroomy.complete hfit hrequest hk, hquiet, hidle, fun c' => ?_, ?_⟩
  · rw [hcommands]
    exact h.stocked.keys c'
  · rw [hstore]
    exact h.stocked.frames

/-- What a record decodes to from frames that all decode it. -/
theorem readable_of_complete {request : Request} {record : ChannelDefinition}
    (hrecord : record ∈ request.records) {frames : List Bytes}
    (hlen : frames.length = 1 ∨ frames.length = 2)
    (h : ∀ frame ∈ frames, Complete request frame) : Readable frames record := by
  match frames, hlen with
  | [frame], _ =>
      obtain ⟨d, hd⟩ := (h frame (by simp)).2 record hrecord
      rw [Readable, decodeRecord, parseCombined, hd, ok_bind]
      rfl
  | [frame, frame2], _ =>
      obtain ⟨d, hd⟩ := (h frame (by simp)).2 record hrecord
      obtain ⟨d2, hd2⟩ := (h frame2 (by simp)).2 record hrecord
      rw [Readable, decodeRecord, parseCombined, hd, ok_bind]
      cases d with
      | int n =>
          simp only [hd2, ok_bind]
          split <;> rfl
      | bool b => rfl
      | float x => rfl

theorem run_readRequest_stocked (waitingTime : Nat) (hfit : Fitting config)
    (hspelt : ∀ r ∈ config.requests, Spelt r) {t : SimulatorTransport} (h : AtRest config t)
    {request : Request} (hrequest : request ∈ config.requests) :
    ∃ frames t', run SimulatorTransport.answer (readRequest waitingTime request) t
        = (.ok (readings frames request.records), t') ∧ AtRest config t' ∧
      ∀ record ∈ request.records, Readable frames record := by
  obtain ⟨⟨c, hc⟩, hsecond⟩ := hspelt request hrequest
  obtain ⟨frame, t₁, hget, hcomplete, hrest⟩ := run_getData_stocked hfit h hrequest (.inl hc)
  have hids : (request.records.map ChannelDefinition.channelId).Nodup :=
    HeatPumpConfig.records_ids_nodup hfit.ids hrequest
  have hbytes : request.requestBytes = .ok c.bytes := by
    rw [Request.requestBytes, ← hc]
    exact c.hex
  -- The rest of the attempt, and how it decodes.
  obtain ⟨frames, t', hattempt, hrest', hlen, hall⟩ :
      ∃ frames t', run SimulatorTransport.answer (readAttempt waitingTime request) t
          = (.ok (readings frames request.records), t') ∧ AtRest config t' ∧
        (frames.length = 1 ∨ frames.length = 2) ∧
        ∀ frame ∈ frames, Complete request frame := by
    have hdone : ∀ {frames values}, (∀ frame ∈ frames, Complete request frame) →
        decodeFrames request frames = some (.ok values) →
        values = readings frames request.records := fun hall hdecode =>
      decodeFrames_readings hids (fun frame hframe => (hall frame hframe).1) hdecode
    have hfirst : ∀ frame' ∈ [frame], Complete request frame' := by simpa using hcomplete
    by_cases hnone : request.requestBytes2 = .ok none
    · obtain ⟨values, hvalues⟩ := parseRecords_succeeds frame request.records none
      refine ⟨[frame], t₁, ?_, hrest, .inl rfl, hfirst⟩
      rw [← hdone hfirst (congrArg some hvalues), readAttempt, hbytes]
      show run _ (Connector.getData _ >>= _) t = _
      rw [run_bind_ok _ hget, hcomplete.1, hnone]
      show run _ (Dialogue.ofExcept _) t₁ = _
      rw [hvalues]
      rfl
    · obtain ⟨second, hsome, hne⟩ : ∃ second, request.requestByte2 = some second ∧ second ≠ "" := by
        rw [Request.requestBytes2] at hnone
        split at hnone
        · exact absurd rfl hnone
        · next second hsome =>
            split at hnone
            · exact absurd rfl hnone
            · next hne => exact ⟨second, hsome, hne⟩
      obtain ⟨c₂, hc₂⟩ := hsecond second hsome hne
      obtain ⟨frame2, t₂, hget2, hcomplete2, hrest2⟩ := run_getData_stocked hfit hrest hrequest
        (c := c₂) (.inr ⟨by rw [hc₂]; exact hsome, by rw [hc₂]; exact hne⟩)
      have hbytes2 : request.requestBytes2 = .ok (some c₂.bytes) := by
        rw [Request.requestBytes2, hsome]
        simp only [if_neg hne]
        rw [← hc₂, c₂.hex]
        rfl
      have hboth : ∀ frame' ∈ [frame, frame2], Complete request frame' := by
        simpa using ⟨hcomplete, hcomplete2⟩
      obtain ⟨values, hvalues⟩ := parseRecords_succeeds frame request.records (some frame2)
      refine ⟨[frame, frame2], t₂, ?_, hrest2, .inr rfl, hboth⟩
      rw [← hdone hboth (congrArg some hvalues), readAttempt, hbytes]
      show run _ (Connector.getData _ >>= _) t = _
      rw [run_bind_ok _ hget, hcomplete.1, hbytes2]
      show run _ (Connector.getData _ >>= _) t₁ = _
      rw [run_bind_ok _ hget2, hcomplete2.1]
      show run _ (Dialogue.ofExcept _) t₂ = _
      rw [hvalues]
      rfl
  refine ⟨frames, t', ?_, hrest', fun record hrecord => readable_of_complete hrecord hlen hall⟩
  rw [readRequest, show MAX_TRIES = 2 + 1 from rfl, readLoop, run_handle, hattempt]

/-- Every request of a sweep is answered in full. -/
theorem run_readRequestsFrom_stocked (waitingTime : Nat) (hfit : Fitting config)
    (hspelt : ∀ r ∈ config.requests, Spelt r) (requests : List Request) :
    ∀ {t : SimulatorTransport} (data : Dict String DecodedValue),
      AtRest config t → (∀ request ∈ requests, request ∈ config.requests) →
      (data.keys ++ (requests.flatMap Request.records).map ChannelDefinition.channelId).Nodup →
      ∃ found t', run SimulatorTransport.answer (readRequestsFrom waitingTime requests data) t
          = (.ok (data ++ sweepReadings found), t') ∧ found.map Prod.fst = requests ∧
        ∀ p ∈ found, ∀ record ∈ p.1.records, Readable p.2 record := by
  induction requests with
  | nil =>
      intro t data _ _ _
      exact ⟨[], t, by rw [sweepReadings, List.flatMap_nil, List.append_nil]; rfl, rfl,
        fun _ hp => by cases hp⟩
  | cons request requests ih =>
      intro t data h hsub hnd
      obtain ⟨frames, t₁, hread, hrest, hreadable⟩ := run_readRequest_stocked waitingTime hfit
        hspelt h (hsub request List.mem_cons_self)
      rw [List.flatMap_cons, List.map_append] at hnd
      rw [readRequestsFrom, run_bind_ok _ hread, update_readings frames hnd]
      by_cases hlast : requests = []
      · subst hlast
        refine ⟨[(request, frames)], t₁, ?_, rfl, ?_⟩
        · rw [if_pos rfl, sweepReadings, List.flatMap_singleton]
          rfl
        · intro p hp
          obtain rfl := List.mem_singleton.mp hp
          exact hreadable
      · obtain ⟨found, t', hrun, hrequests, hall⟩ := ih (data ++ readings frames request.records)
          hrest (fun r hr => hsub r (List.mem_cons_of_mem _ hr)) (nodup_readings frames hnd)
        refine ⟨(request, frames) :: found, t', ?_, by rw [List.map_cons, hrequests], ?_⟩
        · rw [if_neg hlast, sweepReadings, List.flatMap_cons, ← List.append_assoc]
          exact hrun
        · intro p hp
          rcases List.mem_cons.mp hp with rfl | hp
          · exact hreadable
          · exact hall p hp

/-- A sweep over requests of the configuration that takes every wanted value out. -/
theorem sweep_complete {t : SimulatorTransport} (waitingTime : Nat) (hfit : Fitting config)
    (hspelt : ∀ r ∈ config.requests, Spelt r) (h : AtRest config t) {call : ReadCall}
    (htalk : call.talk config waitingTime = do
      let data ← readRequests waitingTime (call.requests config)
      return HeatPumpService.collect config call.wanted data) :
    ∃ values, (run SimulatorTransport.answer (call.talk config waitingTime) t).1 = .ok values ∧
      call.Complete config (.ok values) := by
  have hnd : ((Dict.keys ([] : Dict String DecodedValue))
      ++ ((call.requests config).flatMap Request.records).map ChannelDefinition.channelId).Nodup :=
    HeatPumpConfig.flatMap_records_ids_nodup hfit.ids (ReadCall.requests_nodup config call)
      fun _ hin => ReadCall.requests_subset hin
  obtain ⟨found, t', hrun, hfound, hall⟩ := run_readRequestsFrom_stocked waitingTime hfit hspelt
    (call.requests config) [] h (fun _ hin => ReadCall.requests_subset hin) hnd
  rw [htalk, readRequests, run_bind_ok _ hrun]
  refine ⟨_, rfl, ?_⟩
  rw [List.nil_append]
  refine (ReadCall.complete_collect_iff hfit.ids hfound).mpr ?_
  intro hc
  obtain ⟨p, hp, record, hrecord, _, hunreadable⟩ := hc
  exact hunreadable (hall p hp record hrecord)

/-- Against a new simulator a sweep has exactly one value for every channel it asks for. -/
theorem fresh_sweep_complete (hfit : Fitting config) {seedValues : Dict String DecodedValue}
    {sim : HeatPumpSimulator} (hcreate : HeatPumpSimulator.create config seedValues = .ok sim)
    (waitingTime : Nat) :
    (∀ dataTypes, ∃ values,
      (run SimulatorTransport.answer (HeatPumpService.readAll config waitingTime dataTypes)
        { simulator := sim }).1 = .ok values ∧
      (ReadCall.all dataTypes).Complete config (.ok values)) ∧
    ∀ channelIds, (ReadCall.channels channelIds).Configured config → ∃ values,
      (run SimulatorTransport.answer (HeatPumpService.readChannels config waitingTime channelIds)
        { simulator := sim }).1 = .ok values ∧
      (ReadCall.channels channelIds).Complete config (.ok values) := by
  obtain ⟨hstocked, hspelt⟩ := create_stocked hfit hcreate
  have hrest : AtRest config { simulator := sim } := ⟨rfl, hstocked⟩
  refine ⟨fun dataTypes => ?_, fun channelIds hconfigured => ?_⟩
  · exact @sweep_complete config _ waitingTime hfit hspelt hrest (.all dataTypes) rfl
  · refine @sweep_complete config _ waitingTime hfit hspelt hrest (.channels channelIds) ?_
    rw [ReadCall.talk, HeatPumpService.readChannels, HeatPumpService.prepareReadChannels,
      ReadCall.channels_known hconfigured hfit.ids]
    rfl

/-- The energy counters of a day, each kept in two registers. -/
def electrDHWDay : ChannelDefinition :=
  { channelId := "electrDHWDay", requestByte := "0A091A", requestByte2 := some "0A091B"
    dataType := .sensor, position := 6, length := 2 }

def electrHCDay : ChannelDefinition :=
  { channelId := "electrHCDay", requestByte := "0A091E", requestByte2 := some "0A091F"
    dataType := .sensor, position := 6, length := 2 }

def electrConfig : HeatPumpConfig := { channels := [electrDHWDay, electrHCDay] }

theorem electrConfig_fitting : Fitting electrConfig where
  toTidy := .of_spelled (by decide +kernel) (by decide +kernel) (by decide +kernel)
    (by decide +kernel) (by decide +kernel) (by decide +kernel) (by decide +kernel)
    (by decide +kernel)
  legible c hc := by
    have hchannels : c = electrDHWDay ∨ c = electrHCDay := by simpa [electrConfig] using hc
    rcases hchannels with rfl | rfl <;>
      exact legible_of_le (.inr rfl) rfl (by decide +kernel)

theorem fresh_sweep_complete_electr : ∃ sim,
    HeatPumpSimulator.create electrConfig [("electrDHWDay", .int 12345)] = .ok sim ∧
      ∃ values, (run SimulatorTransport.answer
          (HeatPumpService.readChannels electrConfig 0 ["electrHCDay", "electrDHWDay"])
          { simulator := sim }).1 = .ok values ∧
        (ReadCall.channels ["electrHCDay", "electrDHWDay"]).Complete electrConfig (.ok values) := by
  have hok : (HeatPumpSimulator.create electrConfig
      [("electrDHWDay", .int 12345)]).toOption.isSome := by
    decide +kernel
  cases hcreate : HeatPumpSimulator.create electrConfig [("electrDHWDay", .int 12345)] with
  | error e =>
      rw [hcreate] at hok
      cases hok
  | ok sim =>
      have hconfigured : (ReadCall.channels ["electrHCDay", "electrDHWDay"]).Configured
          electrConfig := by
        rw [ReadCall.Configured]
        decide +kernel
      exact ⟨sim, rfl, (fresh_sweep_complete electrConfig_fitting hcreate 0).2 _ hconfigured⟩

/-- A finite factor, and not zero: `1e306`. -/
def farScaled : ChannelDefinition :=
  { channelId := "outsideTemperature", requestByte := "FB", dataType := .sensor
    position := 4, length := 2, scale := .ofRat (10 ^ 306) }

def farScaledConfig : HeatPumpConfig := { channels := [farScaled] }

/-- Ten steps of it are a float, but a hundred times as much is none, so the record is left
out of the sweep. -/
theorem overflowing_scale_unread :
    Tidy farScaledConfig ∧ farScaled.scale ≠ .finite 0 ∧ (∃ s, farScaled.scale = .finite s) ∧
    (HeatPumpSimulator.create farScaledConfig
        [("outsideTemperature", .float (.ofRat (10 ^ 307)))]).toOption.map (fun sim =>
      (run SimulatorTransport.answer (HeatPumpService.readAll farScaledConfig 0 [.sensor])
        { simulator := sim }).1) = some (.ok []) ∧
    ¬ (ReadCall.all [.sensor]).Complete farScaledConfig (.ok []) := by
  refine ⟨.of_spelled (by decide +kernel) (by decide +kernel) (by decide +kernel)
    (by decide +kernel) (by decide +kernel) (by decide +kernel) (by decide +kernel)
    (by decide +kernel), by decide +kernel,
    ⟨PyFloat.double.nearest (10 ^ 306), by decide +kernel⟩, by decide +kernel, ?_⟩
  intro hc
  have hmem : farScaled ∈ farScaledConfig.channels := List.mem_cons_self
  have hin := (hc.2 "outsideTemperature").mpr ⟨farScaled, hmem, by decide, by decide⟩
  cases hin

end HeatpumpGateway
