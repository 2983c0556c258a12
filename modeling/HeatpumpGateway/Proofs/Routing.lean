import HeatpumpGateway.Proofs.Fresh

/-!
# Which register a message is about

A message does not say where its command ends, so the device takes the longest command it
knows that the rest of the message starts with. `routed_iff` says which payloads leave a message
with its own command, on every device that can come up: those with which it does not spell a
longer one. A SET of such a message replaces the frame of its register and no other.
-/

namespace HeatpumpGateway

open Fallible HeatPumpSimulator

/-- The commands of the configuration are different bytes. -/
def DistinctCommands (config : HeatPumpConfig) : Prop :=
  ∀ c c', Configured config c → Configured config c' → c.bytes = c'.bytes → c = c'

theorem Configured.mem_texts {config : HeatPumpConfig} {c : Command} (h : Configured config c) :
    c.text ∈ config.requests.flatMap Request.texts := by
  obtain ⟨request, hrequest, hc⟩ := h
  refine List.mem_flatMap.mpr ⟨request, hrequest, ?_⟩
  rcases hc with hc | ⟨hc, _⟩
  · rw [hc]
    exact List.mem_cons_self
  · rw [Request.texts, hc]
    exact List.mem_cons_of_mem _ (List.mem_singleton_self _)

/-- Read off the texts of the commands, which are data. -/
theorem DistinctCommands.of_texts {config : HeatPumpConfig}
    (h : ∀ text ∈ config.requests.flatMap Request.texts,
      ∀ text' ∈ config.requests.flatMap Request.texts, fromHex text = fromHex text' →
        text = text') : DistinctCommands config := by
  intro c c' hc hc' heq
  refine Command.ext_text (h _ hc.mem_texts _ hc'.mem_texts ?_)
  rw [c.hex, c'.hex, heq]

/-! ## The longest command -/

/-- With the payload the command spells a longer one. -/
def Spells (config : HeatPumpConfig) (c : Command) (payload : Bytes) : Prop :=
  ∃ k, Configured config k ∧ c.bytes.length < k.bytes.length ∧
    k.bytes <+: c.bytes ++ payload ++ FOOTER

/-- A message is taken for its own command exactly when it does not spell a longer one. -/
theorem Knows.matchCommand_iff {config : HeatPumpConfig} {sim : HeatPumpSimulator}
    (h : Knows config sim) (hdistinct : DistinctCommands config) {c : Command}
    (hc : Configured config c) (start getOrSet checksum : UInt8) (payload : Bytes) :
    sim.matchCommand (start :: getOrSet :: checksum :: (c.bytes ++ payload ++ FOOTER)) = some c ↔
      ¬ Spells config c payload := by
  have hcarries : ∀ k : Bytes,
      Carries k (start :: getOrSet :: checksum :: (c.bytes ++ payload ++ FOOTER)) ↔
        k <+: c.bytes ++ payload ++ FOOTER := fun k => carries_iff_isPrefix_drop
  have hown : c.bytes <+: c.bytes ++ payload ++ FOOTER :=
    ⟨payload ++ FOOTER, (List.append_assoc ..).symm⟩
  obtain ⟨found, hfound, hmatch, hprefix, hlongest⟩ :=
    matchCommand_longest ((h c).mpr hc) ((hcarries c.bytes).mpr hown)
  rw [hcarries] at hprefix
  rw [hmatch, Option.some.injEq]
  refine ⟨?_, fun hspells => ?_⟩
  · rintro rfl hspells
    obtain ⟨k, hk, hlt, hkprefix⟩ := hspells
    have hle := hlongest k ((h k).mpr hk) ((hcarries k.bytes).mpr hkprefix)
    omega
  · -- Two prefixes of one length are one.
    have hge := hlongest c ((h c).mpr hc) ((hcarries c.bytes).mpr hown)
    have hle : ¬ c.bytes.length < found.bytes.length := fun hlt =>
      hspells ⟨found, (h found).mp hfound, hlt, hprefix⟩
    refine hdistinct found c ((h found).mp hfound) hc ?_
    exact (List.prefix_of_prefix_length_le hprefix hown (by omega)).eq_of_length (by omega)

/-! ## What a SET replaces -/

/-- One frame of the store is replaced, and no other. -/
structure Replaces (store store' : Dict String Bytes) (text : String) (frame : Bytes) : Prop where
  own : store'.get? text = some frame
  others : ∀ other, other ≠ text → store'.get? other = store.get? other

theorem replaces_set (store : Dict String Bytes) (text : String) (frame : Bytes) :
    Replaces store (store.set text frame) text frame :=
  ⟨Dict.get?_set_self .., fun _ hne => Dict.get?_set_ne _ hne.symm _⟩

/-- The message that sets a register to this payload. -/
def setMessage (checksum : UInt8) (command payload : Bytes) : Bytes :=
  HEADER_START :: SET :: checksum :: (command ++ payload ++ FOOTER)

/-- A message that is taken for its own command replaces the frame of its register. -/
theorem buildResponse_replaces {sim : HeatPumpSimulator} {c : Command} {checksum : UInt8}
    {payload : Bytes} (h : sim.matchCommand (setMessage checksum c.bytes payload) = some c) :
    Replaces sim.store (sim.buildResponse (setMessage checksum c.bytes payload)).2.store c.text
      (registerFrame GET c.bytes payload) := by
  have hupdated : withChecksum ((setMessage checksum c.bytes payload).set 1 GET)
      = registerFrame GET c.bytes payload := sealed_register GET checksum c.bytes payload
  have hlong : ¬ (setMessage checksum c.bytes payload).length < 4 := by
    simp [setMessage, FOOTER]
    omega
  rw [buildResponse, if_neg hlong, h]
  simp only []
  rw [if_pos (by rfl), hupdated]
  exact replaces_set ..

/-- The bytes of a whole exchange about a message, as the client writes them. -/
def exchangeBytes (message : Bytes) : Bytes :=
  START_COMMUNICATION :: (addDuplicatedBytes message ++ [ESCAPE])

/-- An exchange from rest ends with what the device makes of the message. -/
theorem feed_exchange {sim : HeatPumpSimulator} (hidle : sim.state = .idle) {message : Bytes}
    (hsend : Sendable message) :
    (sim.feed (exchangeBytes message)).2 = sim.answered message := by
  rw [exchangeBytes, ← List.singleton_append, feed_append, feed_start hidle, feed_append,
    hsend.feed, feed_acknowledge rfl]
  rfl

theorem sendable_setMessage (checksum : UInt8) {command payload : Bytes}
    (h : command ++ payload ≠ []) : Sendable (setMessage checksum command payload) := by
  refine ⟨HEADER_START, SET, checksum :: (command ++ payload), by decide, by decide, ?_, rfl⟩
  have := List.length_pos_of_ne_nil h
  rw [List.length_cons]
  omega

theorem exchange_replaces {sim : HeatPumpSimulator} (hidle : sim.state = .idle) {c : Command}
    {checksum : UInt8} {payload : Bytes} (hne : c.bytes ++ payload ≠ [])
    (h : sim.matchCommand (setMessage checksum c.bytes payload) = some c) :
    Replaces sim.store (sim.feed (exchangeBytes (setMessage checksum c.bytes payload))).2.store
      c.text (registerFrame GET c.bytes payload) := by
  rw [feed_exchange hidle (sendable_setMessage checksum hne), HeatPumpSimulator.answered]
  have hholding : (sim.holding (setMessage checksum c.bytes payload)).matchCommand
      (setMessage checksum c.bytes payload) = some c := h
  exact buildResponse_replaces hholding

/-- A message is routed to its own command unless it spells a longer one, and then a SET
replaces the frame of its register and leaves the others alone. -/
theorem routed_iff {config : HeatPumpConfig} (hdistinct : DistinctCommands config) {c : Command}
    (hc : Configured config c) (payload : Bytes) {sim : HeatPumpSimulator}
    (h : Reachable config sim) :
    (∀ getOrSet checksum, sim.matchCommand
        (HEADER_START :: getOrSet :: checksum :: (c.bytes ++ payload ++ FOOTER)) = some c ↔
          ¬ Spells config c payload) ∧
      (¬ Spells config c payload → ∀ checksum,
        Replaces sim.store (sim.buildResponse (setMessage checksum c.bytes payload)).2.store
            c.text (registerFrame GET c.bytes payload) ∧
          (sim.state = .idle → c.bytes ++ payload ≠ [] → Replaces sim.store
            (sim.feed (exchangeBytes (setMessage checksum c.bytes payload))).2.store
              c.text (registerFrame GET c.bytes payload))) := by
  have hroute := fun getOrSet checksum =>
    h.knows.matchCommand_iff hdistinct hc HEADER_START getOrSet checksum payload
  refine ⟨hroute, fun hspells checksum => ?_⟩
  have hmatch := (hroute SET checksum).mpr hspells
  exact ⟨buildResponse_replaces hmatch, fun hidle hne => exchange_replaces hidle hne hmatch⟩

/-- Two overlapping commands as they are shipped: the startup cycles and the clock's day. -/
def minStartupCycles : ChannelDefinition :=
  { channelId := "p54minStartupCycles", requestByte := "0A", dataType := .settings
    position := 4, length := 1, min := .finite 1, max := .finite 24, step := .finite 1 }

def maxStartupCycles : ChannelDefinition :=
  { channelId := "p55maxStartupCycles", requestByte := "0A", dataType := .settings
    position := 5, length := 2, min := .finite 1, max := .finite 288, step := .finite 1 }

def pClockDay : ChannelDefinition :=
  { channelId := "pClockDay", requestByte := "0A0122", dataType := .settings
    position := 6, length := 1, min := .finite 1, max := .finite 31, step := .finite 1 }

def cyclesConfig : HeatPumpConfig :=
  { channels := [pClockDay, minStartupCycles, maxStartupCycles] }

def cyclesCommand : Command := ⟨"0A", [0x0A], by decide +kernel⟩

theorem cyclesConfig_distinct : DistinctCommands cyclesConfig := .of_texts (by decide +kernel)

theorem cyclesCommand_configured : Configured cyclesConfig cyclesCommand :=
  ⟨⟨"0A", none, [minStartupCycles, maxStartupCycles]⟩, by decide +kernel, .inl rfl⟩

/-- Three startup cycles at least and 288 at most: no longer command is spelled. -/
theorem routed_iff_cycles : ∃ sim, Reachable cyclesConfig sim ∧
    (∀ getOrSet checksum, sim.matchCommand (HEADER_START :: getOrSet :: checksum ::
        ([0x0A] ++ [0x03, 0x01, 0x20] ++ FOOTER)) = some cyclesCommand ↔
          ¬ Spells cyclesConfig cyclesCommand [0x03, 0x01, 0x20]) ∧
      (¬ Spells cyclesConfig cyclesCommand [0x03, 0x01, 0x20] → ∀ checksum,
        Replaces sim.store
            (sim.buildResponse (setMessage checksum [0x0A] [0x03, 0x01, 0x20])).2.store
            "0A" (registerFrame GET [0x0A] [0x03, 0x01, 0x20]) ∧
          (sim.state = .idle → [0x0A] ++ [0x03, 0x01, 0x20] ≠ ([] : Bytes) → Replaces sim.store
            (sim.feed (exchangeBytes (setMessage checksum [0x0A] [0x03, 0x01, 0x20]))).2.store
              "0A" (registerFrame GET [0x0A] [0x03, 0x01, 0x20]))) := by
  have hsome : (create cyclesConfig []).toOption.isSome := by decide +kernel
  obtain ⟨sim, hsim⟩ := Option.isSome_iff_exists.mp hsome
  have hreachable : Reachable cyclesConfig sim := .create (toOption_eq_some.mp hsim)
  exact ⟨sim, hreachable, routed_iff cyclesConfig_distinct cyclesCommand_configured
    [0x03, 0x01, 0x20] hreachable⟩

/-- One startup cycle at least and `2205` at most: the message spells `0A0122`, so the frame
of the clock's day is replaced, and the register it is for keeps its own. -/
theorem payload_spells_longer_command :
    DistinctCommands cyclesConfig ∧ Configured cyclesConfig cyclesCommand ∧
      ∃ sim, Reachable cyclesConfig sim ∧ sim.state = .idle ∧
        sim.matchCommand (registerFrame SET [0x0A] [0x01, 0x22, 0x05]) ≠ some cyclesCommand ∧
        sim.store = [("0A0122", [0x01, 0x00, 0x2E, 0x0A, 0x01, 0x22, 0x00, 0x10, 0x03]),
          ("0A", [0x01, 0x00, 0x0B, 0x0A, 0x00, 0x00, 0x00, 0x10, 0x03])] ∧
        (sim.feed (exchangeBytes (registerFrame SET [0x0A] [0x01, 0x22, 0x05]))).2.store
          = [("0A0122", [0x01, 0x00, 0x33, 0x0A, 0x01, 0x22, 0x05, 0x10, 0x03]),
            ("0A", [0x01, 0x00, 0x0B, 0x0A, 0x00, 0x00, 0x00, 0x10, 0x03])] := by
  refine ⟨cyclesConfig_distinct, cyclesCommand_configured, ?_⟩
  have hrun : (create cyclesConfig []).toOption.map (fun sim =>
      ((sim.state, (sim.matchCommand (registerFrame SET [0x0A] [0x01, 0x22, 0x05])).map
          Command.text),
        [sim.store,
          (sim.feed (exchangeBytes (registerFrame SET [0x0A] [0x01, 0x22, 0x05]))).2.store]))
      = some ((.idle, some "0A0122"),
        [[("0A0122", [0x01, 0x00, 0x2E, 0x0A, 0x01, 0x22, 0x00, 0x10, 0x03]),
            ("0A", [0x01, 0x00, 0x0B, 0x0A, 0x00, 0x00, 0x00, 0x10, 0x03])],
          [("0A0122", [0x01, 0x00, 0x33, 0x0A, 0x01, 0x22, 0x05, 0x10, 0x03]),
            ("0A", [0x01, 0x00, 0x0B, 0x0A, 0x00, 0x00, 0x00, 0x10, 0x03])]]) := by
    decide +kernel
  obtain ⟨sim, hsim, heq⟩ := Option.map_eq_some_iff.mp hrun
  simp only [Prod.mk.injEq, List.cons.injEq, and_true] at heq
  obtain ⟨⟨hidle, hroute⟩, hstore, hafter⟩ := heq
  refine ⟨sim, .create (toOption_eq_some.mp hsim), hidle, fun hmatch => ?_, hstore, hafter⟩
  rw [hmatch] at hroute
  exact absurd hroute (by decide)

end HeatpumpGateway
