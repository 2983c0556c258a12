import HeatpumpGateway.Proofs.Device
import HeatpumpGateway.Proofs.Read
import HeatpumpGateway.Proofs.Registers

/-!
# Registers of a device at rest

A device whose commands are free of prefixes of each other recognises the command of
any frame that carries one, whatever data follow. So a GET of a register returns the
register's frame, and a SET replaces it, both from rest to rest; and no register's
frame is ever the message that asks for it, which `_write_values` would take for an
echo: escaping adds at most four marks to a message, too few to make up for a whole
turn of the checksum.
-/

namespace HeatpumpGateway

open Dialogue Stuffing

/-! ## Finding the command -/

theorem Command.ext_text {c c' : Command} (h : c.text = c'.text) : c = c' := by
  obtain ⟨text, bytes, hex⟩ := c
  obtain ⟨text', bytes', hex'⟩ := c'
  obtain rfl : text = text' := h
  obtain rfl : bytes = bytes' := Except.ok.inj (hex.symm.trans hex')
  rfl

/-- No command of the device is a prefix of another. -/
def PrefixFree (keys : List Command) : Prop :=
  ∀ c ∈ keys, ∀ c' ∈ keys, c.bytes <+: c'.bytes → c = c'

theorem carries_iff_isPrefix_drop {command frame : Bytes} :
    Carries command frame ↔ command <+: frame.drop 3 := by
  rw [Carries, List.prefix_iff_eq_take, eq_comm]

theorem carries_register (getOrSet : UInt8) (command data : Bytes) :
    Carries command (registerFrame getOrSet command data) := by
  rw [carries_iff_isPrefix_drop]
  exact ⟨data ++ FOOTER, (List.append_assoc ..).symm⟩

/-- The only command a register's frame carries is its own. -/
theorem PrefixFree.unique {keys : List Command} (h : PrefixFree keys) {c k : Command}
    (hc : c ∈ keys) (hk : k ∈ keys) {getOrSet : UInt8} {data : Bytes}
    (hcarries : Carries k.bytes (registerFrame getOrSet c.bytes data)) : k = c := by
  have hown := carries_iff_isPrefix_drop.mp (carries_register getOrSet c.bytes data)
  rcases List.prefix_or_prefix_of_prefix (carries_iff_isPrefix_drop.mp hcarries) hown with hkc | hck
  · exact h k hk c hc hkc
  · exact (h c hc k hk hck).symm

/-- The search keeps the first of the longest commands that fit. -/
theorem matchCommand_foldl {frame : Bytes} (keys : List Command) : ∀ best : Option Command,
    (∀ b, best = some b → Carries b.bytes frame) →
    (∃ k ∈ keys, Carries k.bytes frame) ∨ best.isSome →
    ∃ found, keys.foldl (fun best command =>
      if (frame.drop 3).take command.bytes.length = command.bytes then
        match best with
        | none => some command
        | some b => if command.bytes.length > b.bytes.length then some command else best
      else best) best = some found ∧ (found ∈ keys ∨ best = some found) ∧
        Carries found.bytes frame ∧
        (∀ b, best = some b → b.bytes.length ≤ found.bytes.length) ∧
        ∀ k ∈ keys, Carries k.bytes frame → k.bytes.length ≤ found.bytes.length := by
  induction keys with
  | nil =>
      intro best hbest hany
      rcases hany with ⟨k, hk, _⟩ | hsome
      · cases hk
      · obtain ⟨b, rfl⟩ := Option.isSome_iff_exists.mp hsome
        refine ⟨b, rfl, .inr rfl, hbest b rfl, fun b' hb' => ?_, fun k hk => by cases hk⟩
        cases hb'
        exact Nat.le_refl _
  | cons k keys ih =>
      intro best hbest hany
      rw [List.foldl_cons]
      by_cases hk : (frame.drop 3).take k.bytes.length = k.bytes
      · rw [if_pos hk]
        obtain ⟨next, hnext, hcarries, hmem, hbetter, hleast⟩ : ∃ next,
            (match best with
              | none => some k
              | some b => if k.bytes.length > b.bytes.length then some k else best) = some next ∧
            Carries next.bytes frame ∧ (next = k ∨ best = some next) ∧
            (∀ b, best = some b → b.bytes.length ≤ next.bytes.length) ∧
            k.bytes.length ≤ next.bytes.length := by
          cases best with
          | none => exact ⟨k, rfl, hk, .inl rfl, (fun b hb => by cases hb), Nat.le_refl _⟩
          | some b =>
              simp only []
              split
              · next hlt =>
                  refine ⟨k, rfl, hk, .inl rfl, fun b' hb' => ?_, Nat.le_refl _⟩
                  cases hb'
                  omega
              · next hle =>
                  refine ⟨b, rfl, hbest b rfl, .inr rfl, fun b' hb' => ?_, by omega⟩
                  cases hb'
                  exact Nat.le_refl _
        rw [hnext]
        obtain ⟨found, heq, hfrom, hfits, hprev, hall⟩ := ih (some next)
          (fun b hb => by cases hb; exact hcarries) (.inr rfl)
        have hle := hprev next rfl
        refine ⟨found, heq, ?_, hfits, fun b hb => (hbetter b hb).trans hle, ?_⟩
        · rcases hfrom with hin | hsame
          · exact .inl (List.mem_cons_of_mem _ hin)
          · cases hsame
            rcases hmem with rfl | hbest'
            · exact .inl List.mem_cons_self
            · exact .inr hbest'
        · intro k' hk' hc'
          rcases List.mem_cons.mp hk' with rfl | hk'
          · exact hleast.trans hle
          · exact hall k' hk' hc'
      · rw [if_neg hk]
        have hany' : (∃ k' ∈ keys, Carries k'.bytes frame) ∨ best.isSome := by
          rcases hany with ⟨k', hk', hc'⟩ | hsome
          · rcases List.mem_cons.mp hk' with rfl | hk'
            · exact absurd hc' hk
            · exact .inl ⟨k', hk', hc'⟩
          · exact .inr hsome
        obtain ⟨found, heq, hfrom, hfits, hprev, hall⟩ := ih best hbest hany'
        refine ⟨found, heq, hfrom.imp (List.mem_cons_of_mem _) id, hfits, hprev, ?_⟩
        intro k' hk' hc'
        rcases List.mem_cons.mp hk' with rfl | hk'
        · exact absurd hc' hk
        · exact hall k' hk' hc'

/-- The device takes a frame for one of the longest commands that fit it. -/
theorem matchCommand_longest {sim : HeatPumpSimulator} {frame : Bytes} {c : Command}
    (hmem : c ∈ sim.commandToRequest.keys) (hc : Carries c.bytes frame) :
    ∃ found ∈ sim.commandToRequest.keys, sim.matchCommand frame = some found ∧
      Carries found.bytes frame ∧ ∀ k ∈ sim.commandToRequest.keys, Carries k.bytes frame →
        k.bytes.length ≤ found.bytes.length := by
  obtain ⟨found, heq, hfrom, hfits, _, hall⟩ := matchCommand_foldl sim.commandToRequest.keys none
    (fun b hb => by cases hb) (.inl ⟨c, hmem, hc⟩)
  exact ⟨found, hfrom.resolve_right (fun h => by cases h), heq, hfits, hall⟩

/-! ## Exchanges about a register -/

theorem byteSum_plain_status {getOrSet : UInt8} (h : getOrSet = GET ∨ getOrSet = SET) :
    Plain getOrSet := by
  rcases h with rfl | rfl <;> decide

theorem sendable_register {getOrSet : UInt8} (h : getOrSet = GET ∨ getOrSet = SET)
    {command data : Bytes} (hne : command ++ data ≠ []) :
    Sendable (registerFrame getOrSet command data) := by
  refine ⟨HEADER_START, getOrSet, _, by decide, byteSum_plain_status h, ?_, rfl⟩
  have := List.length_pos_of_ne_nil hne
  rw [List.length_cons]
  omega

theorem register_split {getOrSet : UInt8} (h : getOrSet = GET ∨ getOrSet = SET)
    (command data : Bytes) : ∃ b₀ b₁ payload, Plain b₀ ∧ Plain b₁ ∧ payload ≠ [] ∧
      registerFrame getOrSet command data = frameWith b₀ b₁ payload :=
  ⟨HEADER_START, getOrSet, _, by decide, byteSum_plain_status h, List.cons_ne_nil _ _, rfl⟩

theorem receivable_register {getOrSet : UInt8} (h : getOrSet = GET ∨ getOrSet = SET)
    {command data : Bytes} (hlen : (registerFrame getOrSet command data).length ≤ 512) :
    Receivable (registerFrame getOrSet command data) := by
  refine ⟨register_split h command data, ?_⟩
  rw [registerFrame, frameWith_length] at hlen
  rw [registerFrame, addDuplicatedBytes_frameWith, frameWith_length, INPUT_BUFFER_LENGTH]
  have hle : ∀ payload : Bytes, (stuff escapeMark payload).length ≤ 2 * payload.length :=
    stuff_length_le
  have := hle (byteSum (HEADER_START :: getOrSet :: (command ++ data)) :: (command ++ data))
  omega

/-- The device keeps this data in the register of a command it knows. -/
structure Register (commands : Dict Command Request) (store : Dict String Bytes) (c : Command)
    (data : Bytes) : Prop where
  known : c ∈ commands.keys
  command : c.bytes ≠ []
  frame : store.get? c.text = some (registerFrame GET c.bytes data)
  fits : (registerFrame GET c.bytes data).length ≤ 512

section exchange

variable {commands : Dict Command Request} {store : Dict String Bytes} {t : SimulatorTransport}
  {c : Command} {data : Bytes}

theorem matchCommand_register (hfree : PrefixFree commands.keys) (hknown : c ∈ commands.keys)
    {sim : HeatPumpSimulator} (hcommands : sim.commandToRequest = commands) (getOrSet : UInt8)
    (data : Bytes) : sim.matchCommand (registerFrame getOrSet c.bytes data) = some c := by
  rw [← hcommands] at hfree hknown
  obtain ⟨found, hfound, hmatch, hcarries, _⟩ :=
    matchCommand_longest hknown (carries_register getOrSet c.bytes data)
  rw [hmatch, hfree.unique hknown hfound hcarries]

/-- The answer to a GET is the frame kept under the command the message is taken for. -/
theorem buildResponse_get {sim : HeatPumpSimulator} {command frame : Bytes} {k : Command}
    (hmatch : sim.matchCommand (registerFrame GET command []) = some k)
    (hframe : sim.store.get? k.text = some frame) :
    sim.buildResponse (registerFrame GET command []) = (frame, sim) := by
  rw [HeatPumpSimulator.buildResponse, if_neg (by rw [registerFrame_length]; omega), hmatch]
  simp only []
  rw [if_neg (by simp [registerFrame, frameWith, GET, SET]), HeatPumpSimulator.frameOf, hframe]
  rfl

/-- A SET replaces that frame by the one that was sent, as an answer. -/
theorem buildResponse_set {sim : HeatPumpSimulator} {start x : UInt8} {body : Bytes} {k : Command}
    (hmatch : sim.matchCommand (frameWith start SET (x :: body)) = some k) :
    sim.buildResponse (frameWith start SET (x :: body)) = (registerFrame SET k.bytes [],
      { sim with
        store := sim.store.set k.text
          (frameWith start GET (byteSum (start :: GET :: body) :: body)) }) := by
  have hupdated : HeatPumpSimulator.withChecksum ((frameWith start SET (x :: body)).set 1 GET)
      = frameWith start GET (byteSum (start :: GET :: body) :: body) :=
    sealed_frameWith start GET x body
  have hconfirmation : HeatPumpSimulator.withChecksum
      ([HEADER_START, SET, 0x00] ++ k.bytes ++ FOOTER) = registerFrame SET k.bytes [] := by
    have hsealed := sealed_register SET 0x00 k.bytes []
    rw [List.append_nil] at hsealed
    exact hsealed
  rw [HeatPumpSimulator.buildResponse,
    if_neg (by rw [frameWith_length, List.length_cons]; omega), hmatch]
  simp only []
  rw [if_pos (by rfl), hupdated, hconfirmation]

theorem buildResponse_unknown {sim : HeatPumpSimulator} {frame : Bytes}
    (hmatch : sim.matchCommand frame = none) : (sim.buildResponse frame).2 = sim := by
  rw [HeatPumpSimulator.buildResponse]
  split
  · rfl
  · rw [hmatch]

/-- An exchange that only reads leaves the device as it was. -/
theorem Rests.answered {sim : HeatPumpSimulator} {rx frame reply : Bytes}
    (h : Rests commands store ⟨sim, rx⟩)
    (hbuild : (sim.holding frame).buildResponse frame = (reply, sim.holding frame)) :
    Rests commands store ⟨sim.answered frame, []⟩ := by
  refine ⟨rfl, rfl, ?_, ?_⟩
  · rw [HeatPumpSimulator.answered, hbuild]
    exact h.commands
  · rw [HeatPumpSimulator.answered, hbuild]
    exact h.store

/-- A GET returns the frame kept under the command that the device takes it for. -/
theorem run_get_matched (h : Rests commands store t) {k : Command}
    (hmatch : ∀ sim : HeatPumpSimulator, sim.commandToRequest = commands →
      sim.matchCommand (registerFrame GET c.bytes []) = some k)
    (hcommand : c.bytes ≠ []) (hframe : store.get? k.text = some (registerFrame GET k.bytes data))
    (hfits : (registerFrame GET k.bytes data).length ≤ 512) :
    ∃ t', run SimulatorTransport.answer (Connector.getData (createRequestMessage c.bytes GET)) t
        = (.ok (registerFrame GET k.bytes data), t') ∧ Rests commands store t' := by
  obtain ⟨sim, rx⟩ := t
  obtain rfl : rx = [] := h.quiet
  have hbuild : (sim.holding (registerFrame GET c.bytes [])).buildResponse
      (registerFrame GET c.bytes [])
      = (registerFrame GET k.bytes data, sim.holding (registerFrame GET c.bytes [])) :=
    buildResponse_get (hmatch _ h.commands) (h.store ▸ hframe)
  have hsend : Sendable (registerFrame GET c.bytes []) :=
    sendable_register (.inl rfl) (by simpa using hcommand)
  rw [createRequestMessage_eq, ← registerFrame_bare]
  have hrun := run_getData h.idle hsend
    (by rw [hbuild]; exact receivable_register (.inl rfl) hfits)
  rw [hbuild] at hrun
  exact ⟨_, hrun, h.answered hbuild⟩

/-- The device takes a message about no command for no frame at all. -/
theorem run_establishRequest_bare (sim : HeatPumpSimulator) :
    ∃ e t', run SimulatorTransport.answer (Connector.establishRequest (createRequestMessage [] GET))
      ⟨{ sim with state := .collecting, frameBuffer := [] }, []⟩ = (.error e, t') := by
  have hfeed : ({ sim with state := .collecting, frameBuffer := [] } : HeatPumpSimulator).feed
      (createRequestMessage [] GET) = ([],
        { sim with state := .collecting, frameBuffer := createRequestMessage [] GET }) := by
    refine HeatPumpSimulator.feed_collecting _ _ rfl fun n _ _ hcomplete => ?_
    have hsix := hcomplete.1
    have hfive : ([] ++ createRequestMessage [] GET : Bytes).length = 5 := by decide
    rw [List.length_take, hfive] at hsix
    omega
  rw [Connector.establishRequest, show MAX_RETRY = 4 + 1 from rfl, Connector.establishLoop,
    run_bind_ok _ (run_write _ _)]
  simp only [hfeed, List.append_nil]
  -- No byte comes, and none answers the second start either.
  exact ⟨_, _, rfl⟩

/-- A GET that is answered at all is answered with that frame, of whatever length. -/
theorem run_get_heard (h : Rests commands store t) {command frame : Bytes} {k : Command}
    (hmatch : t.simulator.matchCommand (registerFrame GET command []) = some k)
    (hframe : store.get? k.text = some frame)
    (hsplit : ∃ b₀ b₁ payload, Plain b₀ ∧ Plain b₁ ∧ payload ≠ [] ∧
      frame = frameWith b₀ b₁ payload)
    {reply : Bytes} {t' : SimulatorTransport}
    (hrun : run SimulatorTransport.answer
      (Connector.getData (createRequestMessage command GET)) t = (.ok reply, t'))
    (hne : reply ≠ []) :
    reply = frame ∧ Rests commands store t' := by
  obtain ⟨sim, rx⟩ := t
  obtain rfl : rx = [] := h.quiet
  by_cases hcommand : command = []
  · subst hcommand
    obtain ⟨e, t₁, hestablish⟩ := run_establishRequest_bare sim
    rw [Connector.getData, mark, ask_bind, run_ask] at hrun
    change run _ (Connector.startCommunication >>= _) (⟨sim, []⟩ : SimulatorTransport) = _ at hrun
    rw [run_bind_ok _ (run_startCommunication h.idle), run_bind_error _ hestablish] at hrun
    cases hrun
  · have hbuild : (sim.holding (registerFrame GET command [])).buildResponse
        (registerFrame GET command [])
        = (frame, sim.holding (registerFrame GET command [])) :=
      buildResponse_get hmatch (h.store ▸ hframe)
    have hsend : Sendable (registerFrame GET command []) :=
      sendable_register (.inl rfl) (by simpa using hcommand)
    rw [createRequestMessage_eq, ← registerFrame_bare] at hrun
    by_cases hfits : (addDuplicatedBytes frame).length ≤ INPUT_BUFFER_LENGTH
    · have hheard := run_getData h.idle hsend (by rw [hbuild]; exact ⟨hsplit, hfits⟩)
      rw [hheard, hbuild] at hrun
      cases hrun
      exact ⟨rfl, h.answered hbuild⟩
    · obtain ⟨t₁, hheard⟩ := run_getData_overlong h.idle hsend
        (by rw [hbuild]; exact ⟨hsplit, Nat.lt_of_not_le hfits⟩)
      rw [hheard] at hrun
      cases hrun
      exact absurd rfl hne

/-- A GET returns the register's frame. -/
theorem run_get_register (h : Rests commands store t) (hfree : PrefixFree commands.keys)
    (hregister : Register commands store c data) :
    ∃ t', run SimulatorTransport.answer (Connector.getData (createRequestMessage c.bytes GET)) t
        = (.ok (registerFrame GET c.bytes data), t') ∧ Rests commands store t' :=
  run_get_matched h
    (fun _ hcommands => matchCommand_register hfree hregister.known hcommands GET [])
    hregister.command hregister.frame hregister.fits

/-- A SET replaces the frame of the command it is matched with by the one that was sent,
as an answer. -/
theorem run_set_matched (h : Rests commands store t) {k : Command} {data' : Bytes}
    (hmatch : ∀ sim : HeatPumpSimulator, sim.commandToRequest = commands →
      sim.matchCommand (registerFrame SET c.bytes data') = some k)
    (hcommand : c.bytes ≠ []) (hfits : (registerFrame SET k.bytes []).length ≤ 512) :
    ∃ t', run SimulatorTransport.answer
          (Connector.setData (addDuplicatedBytes (registerFrame SET c.bytes data'))) t
        = (.ok (registerFrame SET k.bytes []), t') ∧
      Rests commands (store.set k.text (registerFrame GET c.bytes data')) t' := by
  obtain ⟨sim, rx⟩ := t
  obtain ⟨hidle, rfl, hcommands, hstore⟩ := h
  have hbuild : (sim.holding (registerFrame SET c.bytes data')).buildResponse
      (registerFrame SET c.bytes data') = (registerFrame SET k.bytes [], _) :=
    buildResponse_set (hmatch (sim.holding (registerFrame SET c.bytes data')) hcommands)
  have hsend : Sendable (registerFrame SET c.bytes data') :=
    sendable_register (.inr rfl) (by simp [hcommand])
  have hrun := run_setData hidle hsend
    (by rw [hbuild]; exact receivable_register (.inr rfl) hfits)
  rw [hbuild] at hrun
  refine ⟨_, hrun, rfl, rfl, ?_, ?_⟩
  · rw [HeatPumpSimulator.answered, hbuild]
    exact hcommands
  · rw [HeatPumpSimulator.answered, hbuild]
    exact congrArg (Dict.set · k.text _) hstore

/-- A SET changes the frame of the command it is taken for, and of no other, whatever the
client makes of the answer. -/
theorem run_set_store (h : Rests commands store t) {start x : UInt8} {body : Bytes}
    (hstart : Plain start) (hne : body ≠ []) :
    (run SimulatorTransport.answer (Connector.setData
        (addDuplicatedBytes (frameWith start SET (x :: body)))) t).2.simulator.store
      = (match t.simulator.matchCommand (frameWith start SET (x :: body)) with
        | some k => store.set k.text (frameWith start GET (byteSum (start :: GET :: body) :: body))
        | none => store) := by
  obtain ⟨sim, rx⟩ := t
  obtain ⟨hidle, rfl, hcommands, rfl⟩ := h
  have hsend : Sendable (frameWith start SET (x :: body)) := by
    refine ⟨start, SET, x :: body, hstart, by decide, ?_, rfl⟩
    have := List.length_pos_of_ne_nil hne
    rw [List.length_cons]
    omega
  rw [run_setData_simulator hidle hsend]
  cases hmatch : sim.matchCommand (frameWith start SET (x :: body)) with
  | none =>
      have hbuild :=
        @buildResponse_unknown (sim.holding (frameWith start SET (x :: body))) _ hmatch
      rw [HeatPumpSimulator.answered, hbuild]
      rfl
  | some k =>
      have hbuild :=
        @buildResponse_set (sim.holding (frameWith start SET (x :: body))) _ _ _ _ hmatch
      rw [HeatPumpSimulator.answered, hbuild]
      rfl

/-- A SET replaces the register's own frame. -/
theorem run_set_register (h : Rests commands store t) (hfree : PrefixFree commands.keys)
    (hknown : c ∈ commands.keys) (hcommand : c.bytes ≠ []) (hshort : c.bytes.length ≤ 3)
    (data' : Bytes) :
    ∃ t', run SimulatorTransport.answer
          (Connector.setData (addDuplicatedBytes (registerFrame SET c.bytes data'))) t
        = (.ok (registerFrame SET c.bytes []), t') ∧
      Rests commands (store.set c.text (registerFrame GET c.bytes data')) t' :=
  run_set_matched h
    (fun _ hcommands => matchCommand_register hfree hknown hcommands SET data') hcommand (by
      rw [registerFrame_length, List.length_nil]
      omega)

end exchange

/-! ## No frame is an echo -/

/-- Each mark that escaping adds is `10` or `18`. -/
theorem stuff_sum (xs : Bytes) : ∃ k m, (stuff escapeMark xs).length = xs.length + k ∧
    ((stuff escapeMark xs).map UInt8.toNat).sum = (xs.map UInt8.toNat).sum + m ∧
    k ≤ xs.length ∧ 16 * k ≤ m ∧ m ≤ 24 * k := by
  induction xs with
  | nil => exact ⟨0, 0, rfl, rfl, Nat.le_refl _, Nat.le_refl _, Nat.le_refl _⟩
  | cons x xs ih =>
      obtain ⟨k, m, hlen, hsum, hk, hlo, hhi⟩ := ih
      rw [stuff_cons]
      cases hmark : escapeMark x with
      | none =>
          refine ⟨k, m, ?_, ?_, ?_, hlo, hhi⟩
          · simp only [Option.toList_none, List.nil_append, List.length_cons]
            omega
          · simp only [Option.toList_none, List.nil_append, List.map_cons, List.sum_cons]
            omega
          · rw [List.length_cons]
            omega
      | some y =>
          have hy : y.toNat = 16 ∨ y.toNat = 24 := by
            rw [escapeMark] at hmark
            split at hmark
            · cases hmark
              exact .inl rfl
            · split at hmark
              · cases hmark
                exact .inr rfl
              · cases hmark
          refine ⟨k + 1, m + y.toNat, ?_, ?_, ?_, by omega, by omega⟩
          · simp only [Option.toList_some, List.singleton_append, List.length_cons]
            omega
          · simp only [Option.toList_some, List.singleton_append, List.map_cons, List.sum_cons]
            omega
          · rw [List.length_cons]
            omega

theorem byteSum_inj {xs ys : Bytes} (h : byteSum xs = byteSum ys) :
    (xs.map UInt8.toNat).sum % 256 = (ys.map UInt8.toNat).sum % 256 := by
  have hnat := congrArg UInt8.toNat h
  rw [byteSum, byteSum, UInt8.toNat_ofNat', UInt8.toNat_ofNat'] at hnat
  omega

/-- A register with data in it never reads like the message that asks for it. -/
theorem registerFrame_ne_message {command data : Bytes} (hshort : command.length ≤ 3)
    (hdata : data ≠ []) : registerFrame GET command data ≠ createRequestMessage command GET := by
  intro h
  rw [createRequestMessage_eq, bareFrame, addDuplicatedBytes_frameWith, registerFrame, frameWith,
    frameWith] at h
  simp only [List.cons.injEq, true_and] at h
  have hbody := List.append_cancel_right h
  obtain ⟨k, m, hlen, hsum, hk, hlo, hhi⟩ :=
    stuff_sum (byteSum (HEADER_START :: GET :: command) :: command)
  rw [← hbody] at hlen hsum
  have hhead : byteSum (HEADER_START :: GET :: (command ++ data))
      = byteSum (HEADER_START :: GET :: command) := by
    rw [stuff_cons] at hbody
    exact (List.cons.inj hbody).1
  have hmod := byteSum_inj hhead
  have hpos := List.length_pos_of_ne_nil hdata
  rw [hhead] at hsum
  simp only [List.map_cons, List.map_append, List.sum_cons, List.sum_append, List.length_cons,
    List.length_append] at hsum hlen hmod hk
  omega

end HeatpumpGateway
