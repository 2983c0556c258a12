import HeatpumpGateway.Proofs.Store

/-!
# What the constructor builds

A frame for every command, as long as its records reach and full of zeros, and a table of
the commands. Nothing takes a command out of the table or adds one after that: not a seed,
and not a byte on the line. So every device that seeds and bytes can make of a new one
(`Reachable`) knows the commands of its configuration (`Reachable.knows`).
-/

namespace HeatpumpGateway

open Fallible

/-! ## The frames -/

theorem le_dataEnd {records : List ChannelDefinition} {record : ChannelDefinition}
    (h : record ∈ records) :
    record.position + record.length ≤ HeatPumpSimulator.dataEnd records := by
  rw [HeatPumpSimulator.dataEnd]
  have hin : record.position + record.length ∈ records.map fun r => r.position + r.length :=
    List.mem_map_of_mem h
  cases hmax : (records.map fun r => r.position + r.length).max? with
  | none =>
      rw [List.max?_eq_none_iff] at hmax
      rw [hmax] at hin
      cases hin
  | some m => exact (List.max?_le_iff hmax).mp (Int.le_refl m) _ hin

/-- The constructor gives a register as much data as its records reach over. -/
theorem buildFrame_eq {request : Request} {command : Bytes} {d : Nat}
    (hend : HeatPumpSimulator.dataEnd request.records = 3 + command.length + d) :
    HeatPumpSimulator.buildFrame request command
      = .ok (registerFrame GET command (List.replicate d 0)) := by
  have hsize : (HeatPumpSimulator.dataEnd request.records + 2).toNat
      = 3 + command.length + d + 2 := by
    rw [hend]
    omega
  have hzeros : List.replicate (3 + command.length + d + 2) (0 : UInt8)
      = 0 :: 0 :: 0 :: (List.replicate command.length 0 ++ (List.replicate d 0 ++ [0, 0])) := by
    rw [show [(0 : UInt8), 0] = List.replicate 2 0 from rfl, List.replicate_append_replicate,
      List.replicate_append_replicate, ← List.replicate_succ, ← List.replicate_succ,
      ← List.replicate_succ]
    congr 1
    omega
  -- The command takes the place of as many zeros.
  have hspliced : (HEADER_START :: GET :: (0 : UInt8) ::
        (List.replicate command.length 0 ++ (List.replicate d 0 ++ [0, 0]))).take 3 ++ command ++
      (HEADER_START :: GET :: (0 : UInt8) ::
        (List.replicate command.length 0 ++ (List.replicate d 0 ++ [0, 0]))).drop
          (3 + command.length)
      = (HEADER_START :: GET :: 0 :: (command ++ List.replicate d 0)) ++ [0, 0] := by
    rw [Nat.add_comm 3]
    simp only [List.drop_succ_cons, List.take_succ_cons, List.take_zero]
    rw [List.drop_left' List.length_replicate]
    simp
  have hfooter := fun x y b => setItem_footer
    (HEADER_START :: GET :: 0 :: (command ++ List.replicate d 0)) x y b
  have hstart : ∀ rest : Bytes, setItem (0 :: rest) 0 HEADER_START = .ok (HEADER_START :: rest) :=
    fun rest => setItem_nat 0 _ (Nat.succ_pos rest.length)
  have hget : ∀ rest : Bytes, setItem (HEADER_START :: 0 :: rest) 1 GET
      = .ok (HEADER_START :: GET :: rest) :=
    fun rest => setItem_nat 1 _ (Nat.succ_lt_succ (Nat.succ_pos rest.length))
  rw [HeatPumpSimulator.buildFrame]
  simp only []
  rw [if_neg (by omega), hsize, hzeros]
  rw [hstart, ok_bind, hget, ok_bind, hspliced, (hfooter 0 0 ESCAPE).1, ok_bind,
    (hfooter ESCAPE 0 END).2, ok_bind, calculateChecksum_eq (by simp; omega), ok_bind]
  refine (setItem_nat 2 _ (by simp)).trans ?_
  exact congrArg Except.ok (sealed_register GET 0 command (List.replicate d 0))

/-! ## The table -/

/-- One of the commands of a request. -/
def Names (request : Request) (c : Command) : Prop :=
  c.text = request.requestByte ∨ (request.requestByte2 = some c.text ∧ c.text ≠ "")

/-- A command of the configuration. -/
def Configured (config : HeatPumpConfig) (c : Command) : Prop :=
  ∃ request ∈ config.requests, Names request c

/-- The device knows the commands of the configuration and no others. -/
def Knows (config : HeatPumpConfig) (sim : HeatPumpSimulator) : Prop :=
  ∀ c, c ∈ sim.commandToRequest.keys ↔ Configured config c

/-- All the command texts of a request are hexadecimal. -/
def Spelt (request : Request) : Prop :=
  (∃ c : Command, c.text = request.requestByte) ∧
    ∀ second, request.requestByte2 = some second → second ≠ "" → ∃ c : Command, c.text = second

theorem Command.parse_ok {text : String} {c : Command} (h : Command.parse text = .ok c) :
    c.text = text := by
  rw [Command.parse] at h
  split at h
  · cases h
    rfl
  · cases h

namespace HeatPumpSimulator

theorem mem_keys_set {d : Dict Command Request} {c c' : Command} {request : Request} :
    c' ∈ (d.set c request).keys ↔ c' ∈ d.keys ∨ c' = c := by
  rw [Dict.keys_set]
  split
  · next hin => exact ⟨.inl, fun h => h.elim id fun heq => heq ▸ hin⟩
  · rw [List.mem_append, List.mem_singleton]

/-- A command is entered with its frame. -/
def enter (request : Request) (sim : HeatPumpSimulator) (entry : Command × Bytes) :
    HeatPumpSimulator :=
  { sim with
    store := sim.store.set entry.1.text entry.2
    commandToRequest := sim.commandToRequest.set entry.1 request }

/-- Entering commands touches nothing but the two tables. -/
theorem enter_tables (request : Request) (entries : List (Command × Bytes)) :
    ∀ sim : HeatPumpSimulator, (entries.foldl (enter request) sim).state = sim.state ∧
      (entries.foldl (enter request) sim).config = sim.config ∧
      ∀ c, c ∈ (entries.foldl (enter request) sim).commandToRequest.keys ↔
        c ∈ sim.commandToRequest.keys ∨ c ∈ entries.map Prod.fst := by
  induction entries with
  | nil => intro sim; exact ⟨rfl, rfl, fun c => (or_iff_left List.not_mem_nil).symm⟩
  | cons entry entries ih =>
      intro sim
      obtain ⟨hstate, hconfig, hkeys⟩ := ih (enter request sim entry)
      refine ⟨hstate, hconfig, fun c => (hkeys c).trans ?_⟩
      rw [enter, mem_keys_set, List.map_cons, List.mem_cons, or_assoc]

/-- A round of the constructor's loop enters the commands of its request. -/
theorem addRequest_entries {sim sim' : HeatPumpSimulator} {request : Request}
    (h : sim.addRequest request = .ok sim') : ∃ entries : List (Command × Bytes),
      sim' = entries.foldl (enter request) sim ∧ Spelt request ∧
      (∀ c, Names request c ↔ c ∈ entries.map Prod.fst) ∧
      ∀ entry ∈ entries, buildFrame request entry.1.bytes = .ok entry.2 := by
  rw [addRequest] at h
  obtain ⟨command, hcommand, h⟩ := bind_eq_ok.mp h
  obtain ⟨frame, hframe, h⟩ := bind_eq_ok.mp h
  have htext := Command.parse_ok hcommand
  have hfirst : ∀ c : Command, c.text = request.requestByte ↔ c = command := fun c =>
    ⟨fun heq => Command.ext_text (heq.trans htext.symm), fun heq => heq ▸ htext⟩
  rw [← htext] at h
  -- Without a second command the first one is all there is to enter.
  have hsingle : (∀ second, request.requestByte2 = some second → second = "") →
      Spelt request ∧ (∀ c, Names request c ↔ c ∈ [(command, frame)].map Prod.fst) ∧
        ∀ entry ∈ [(command, frame)], buildFrame request entry.1.bytes = .ok entry.2 := by
    intro hnone
    refine ⟨⟨⟨command, htext⟩, fun second hsecond hne => absurd (hnone second hsecond) hne⟩,
      fun c => ?_, ?_⟩
    · have hno : ¬ (request.requestByte2 = some c.text ∧ c.text ≠ "") := fun hc =>
        hc.2 (hnone _ hc.1)
      rw [Names, or_iff_left hno, hfirst, List.map_singleton, List.mem_singleton]
    · intro entry hentry
      obtain rfl := List.mem_singleton.mp hentry
      exact hframe
  split at h
  · next hnone =>
      cases h
      refine ⟨[(command, frame)], rfl, hsingle fun second hsecond => ?_⟩
      rw [hnone] at hsecond
      cases hsecond
  · next second hsecond =>
      split at h
      · next hempty =>
          cases h
          refine ⟨[(command, frame)], rfl, hsingle fun second' hsecond' => ?_⟩
          exact (Option.some.inj (hsecond'.symm.trans hsecond)).trans hempty
      · next hne =>
          obtain ⟨command2, hcommand2, h⟩ := bind_eq_ok.mp h
          obtain ⟨frame2, hframe2, h⟩ := bind_eq_ok.mp h
          have htext2 := Command.parse_ok hcommand2
          rw [← htext2] at h
          cases h
          refine ⟨[(command, frame), (command2, frame2)], rfl,
            ⟨⟨command, htext⟩, fun second' hsecond' _ => ⟨command2, ?_⟩⟩, fun c => ?_, ?_⟩
          · rw [htext2]
            exact Option.some.inj (hsecond.symm.trans hsecond')
          · have hother : request.requestByte2 = some c.text ∧ c.text ≠ "" ↔ c = command2 := by
              rw [hsecond, Option.some.injEq]
              refine ⟨fun hc => Command.ext_text (hc.1.symm.trans htext2.symm), ?_⟩
              rintro rfl
              exact ⟨htext2.symm, htext2 ▸ hne⟩
            rw [Names, hfirst, hother]
            simp
          · intro entry hentry
            rcases List.mem_cons.mp hentry with rfl | hentry
            · exact hframe
            · obtain rfl := List.mem_singleton.mp hentry
              exact hframe2

/-- A request adds its commands. -/
theorem addRequest_tables {sim sim' : HeatPumpSimulator} {request : Request}
    (h : sim.addRequest request = .ok sim') :
    sim'.state = sim.state ∧ ∀ c, c ∈ sim'.commandToRequest.keys ↔
      c ∈ sim.commandToRequest.keys ∨ Names request c := by
  obtain ⟨entries, rfl, _, hnames, _⟩ := addRequest_entries h
  obtain ⟨hstate, _, hkeys⟩ := enter_tables request entries sim
  exact ⟨hstate, fun c => by rw [hkeys, hnames]⟩

theorem addRequests_tables (requests : List Request) : ∀ {sim sim' : HeatPumpSimulator},
    requests.foldlM addRequest sim = .ok sim' →
    sim'.state = sim.state ∧ ∀ c, c ∈ sim'.commandToRequest.keys ↔
      c ∈ sim.commandToRequest.keys ∨ ∃ request ∈ requests, Names request c := by
  induction requests with
  | nil =>
      intro sim sim' h
      cases h
      simp
  | cons request requests ih =>
      intro sim sim' h
      rw [List.foldlM_cons] at h
      obtain ⟨mid, hfirst, hrest⟩ := bind_eq_ok.mp h
      obtain ⟨hstate, hkeys⟩ := addRequest_tables hfirst
      obtain ⟨hstate', hkeys'⟩ := ih hrest
      refine ⟨hstate'.trans hstate, fun c => ?_⟩
      rw [hkeys', hkeys, or_assoc, List.exists_mem_cons_iff]

/-- Seeding a channel of a request, into its one frame or into both. -/
inductive Seeds (sim : HeatPumpSimulator) (record : ChannelDefinition) (request : Request)
    (value : DecodedValue) : HeatPumpSimulator → Prop
  | single {frame out : Bytes}
      (hframe : encode (sim.frameOf request.requestByte) record value = .ok frame)
      (hout : finishFrame frame = .ok out) :
      Seeds sim record request value
        { sim with store := sim.store.set request.requestByte out }
  | split {second : String} {n : Int} {low high out₂ out : Bytes}
      (hsecond : request.requestByte2 = some second) (hne : second ≠ "")
      (hlow : encode (sim.frameOf request.requestByte) record (.int (n % 1000)) = .ok low)
      (hhigh : encode (((sim.store.set request.requestByte low).get? second).getD []) record
        (.int (n / 1000)) = .ok high)
      (hout₂ : finishFrame high = .ok out₂)
      (hout : finishFrame ((((sim.store.set request.requestByte low).set second out₂).get?
        request.requestByte).getD []) = .ok out) :
      Seeds sim record request value
        { sim with
          store := ((sim.store.set request.requestByte low).set second out₂).set
            request.requestByte out }

theorem setValue_seeds {sim sim' : HeatPumpSimulator} {channelId : String} {value : DecodedValue}
    (h : sim.setValue channelId value = .ok sim') :
    sim' = sim ∨ ∃ record request, sim.config.channel channelId = some record ∧
      sim.config.requestForChannel channelId = some request ∧
        Seeds sim record request value sim' := by
  rw [setValue] at h
  split at h
  swap
  · cases h
    exact .inl rfl
  next record request hrecord hfind =>
    refine .inr ⟨record, request, hrecord, hfind, ?_⟩
    have hsingle : (encode (sim.frameOf request.requestByte) record value >>= fun frame =>
        finishFrame frame >>= fun out =>
          .ok { sim with store := sim.store.set request.requestByte out }) = .ok sim' →
        Seeds sim record request value sim' := by
      intro h
      obtain ⟨frame, hframe, h⟩ := bind_eq_ok.mp h
      obtain ⟨out, hout, h⟩ := bind_eq_ok.mp h
      cases h
      exact .single hframe hout
    simp only at h
    split at h
    · split at h
      · exact hsingle h
      · exact hsingle h
    · next _ second hsecond _ =>
        split at h
        · exact hsingle h
        · next hne =>
            obtain ⟨n, _, h⟩ := bind_eq_ok.mp h
            obtain ⟨low, hlow, h⟩ := bind_eq_ok.mp h
            obtain ⟨high, hhigh, h⟩ := bind_eq_ok.mp h
            obtain ⟨out₂, hout₂, h⟩ := bind_eq_ok.mp h
            obtain ⟨out, hout, h⟩ := bind_eq_ok.mp h
            cases h
            exact .split hsecond hne hlow hhigh hout₂ hout
    · exact hsingle h

/-- Seeding touches nothing but the store. -/
theorem setValue_tables {sim sim' : HeatPumpSimulator} {channelId : String} {value : DecodedValue}
    (h : sim.setValue channelId value = .ok sim') :
    sim'.state = sim.state ∧ sim'.commandToRequest = sim.commandToRequest := by
  rcases setValue_seeds h with rfl | ⟨_, _, _, _, hseeds⟩
  · exact ⟨rfl, rfl⟩
  · cases hseeds with
    | single hframe hout => exact ⟨rfl, rfl⟩
    | split hsecond hne hlow hhigh hout₂ hout => exact ⟨rfl, rfl⟩

/-- The constructor's device is idle and knows the commands of its configuration. -/
theorem create_tables {config : HeatPumpConfig} {seeds : Dict String DecodedValue}
    {created : HeatPumpSimulator} (h : create config seeds = .ok created) :
    created.state = .idle ∧ Knows config created := by
  obtain ⟨sim, hrequests, h⟩ := bind_eq_ok.mp h
  obtain ⟨version, _, hseeds⟩ := bind_eq_ok.mp h
  obtain ⟨hstate, hkeys⟩ := addRequests_tables config.requests hrequests
  have hseeded : created.state = sim.state ∧ created.commandToRequest = sim.commandToRequest := by
    refine foldlM_invariant (I := fun s : HeatPumpSimulator =>
      s.state = sim.state ∧ s.commandToRequest = sim.commandToRequest) ?_ _ ⟨rfl, rfl⟩ hseeds
    intro s seed s' hs hstep
    obtain ⟨hstate, htables⟩ := setValue_tables hstep
    exact ⟨hstate.trans hs.1, htables.trans hs.2⟩
  refine ⟨hseeded.1.trans hstate, fun c => ?_⟩
  rw [hseeded.2, hkeys]
  exact or_iff_right List.not_mem_nil

end HeatPumpSimulator

/-- What seeds and bytes on the line make of a new device. -/
inductive Reachable (config : HeatPumpConfig) : HeatPumpSimulator → Prop
  | create {seedValues : Dict String DecodedValue} {sim : HeatPumpSimulator} :
      HeatPumpSimulator.create config seedValues = .ok sim → Reachable config sim
  | setValue {sim sim' : HeatPumpSimulator} {channelId : String} {value : DecodedValue} :
      Reachable config sim → sim.setValue channelId value = .ok sim' → Reachable config sim'
  | feed {sim : HeatPumpSimulator} (data : Bytes) :
      Reachable config sim → Reachable config (sim.feed data).2

theorem Reachable.knows {config : HeatPumpConfig} {sim : HeatPumpSimulator}
    (h : Reachable config sim) : Knows config sim := by
  induction h with
  | create h => exact (HeatPumpSimulator.create_tables h).2
  | setValue _ hset ih =>
      intro c
      rw [(HeatPumpSimulator.setValue_tables hset).2]
      exact ih c
  | feed data _ ih =>
      intro c
      rw [HeatPumpSimulator.feed_commands]
      exact ih c

end HeatpumpGateway
