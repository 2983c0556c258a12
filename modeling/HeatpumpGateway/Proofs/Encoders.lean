import HeatpumpGateway.Proofs.Calls
import HeatpumpGateway.Proofs.Flags
import HeatpumpGateway.Proofs.Fresh

/-!
# The two copies of the encoder

The simulator is seeded with a value as it is given; the service writes the value that
`_coerce` makes of it. The encoder of the seed is the encoder of the write without its
range check (`encode_eq_fieldWritten`), so a seed and a write differ only in what they are
given. `seed_matches_write_iff` says for which values that shows in the frame: a number
for a flag, a flag for a number, an integer for a scaled channel, a fraction for an
integer channel. A write may also miss its register, when what it reads is taken for an
echo or what it sends for another command; the register is then as it was, and a seed
matches that only if it repeats what is there, the checksum included.
-/

namespace HeatpumpGateway

open Dialogue Fallible CommunicationService

variable {record : ChannelDefinition} {frame : Bytes} {p : Nat}

/-! ## Bytes of a field -/

section bytes

variable (hp : record.position = p) (h₂ : 2 ≤ p) (hin : (p : Int) + record.length ≤ frame.length)
include hp h₂ hin

end bytes

/-! ## The encoder of a seed -/

/-- A frame as a register may hold it: long enough for a message, with any checksum, and with
a start and a status that are sent as they are. -/
structure HeldFrame where
  start : UInt8
  status : UInt8
  sum : UInt8
  body : Bytes
  start_plain : Plain start
  status_plain : Plain status
  body_ne_nil : body ≠ []

namespace HeldFrame

def bytes (f : HeldFrame) : Bytes := frameWith f.start f.status (f.sum :: f.body)

/-- The frame with another status and another body, and with the checksum of these. -/
def remade (f : HeldFrame) (getOrSet : UInt8) (body : Bytes) : Bytes :=
  frameWith f.start getOrSet (byteSum (f.start :: getOrSet :: body) :: body)

/-- The frame is as the device leaves the frames it makes. -/
def Sealed (f : HeldFrame) : Prop :=
  f.status = GET ∧ f.sum = byteSum (f.start :: GET :: f.body)

variable {f : HeldFrame}

@[simp] theorem bytes_length : f.bytes.length = f.body.length + 5 := by
  rw [bytes, frameWith_length, List.length_cons]

theorem split : ∃ b₀ b₁ payload, Plain b₀ ∧ Plain b₁ ∧ payload ≠ [] ∧
    f.bytes = frameWith b₀ b₁ payload :=
  ⟨_, _, _, f.start_plain, f.status_plain, List.cons_ne_nil _ _, rfl⟩

end HeldFrame

variable {f : HeldFrame}

/-- The value makes this the body of the frame. -/
def Puts (record : ChannelDefinition) (f : HeldFrame) (v : DecodedValue) (body : Bytes) : Prop :=
  ((fieldWrites v f.bytes record).apply f.bytes).drop 3 = body ++ FOOTER

theorem Puts.inj {b₁ b₂ : Bytes} {v : DecodedValue} (h₁ : Puts record f v b₁)
    (h₂ : Puts record f v b₂) : b₁ = b₂ :=
  List.append_cancel_right (h₁.symm.trans h₂)

/-- What a seed and a write make of a frame. -/
theorem LiesAt.puts (h : LiesAt f.bytes.length record p) (v : DecodedValue) :
    ∃ body, body ≠ [] ∧ Puts record f v body ∧
      sealed (((fieldWrites v f.bytes record).apply f.bytes).set 1 GET) = f.remade GET body ∧
      sealed ((fieldWrites v f.bytes (record.placedAt p)).apply (f.bytes.set 1 SET))
        = f.remade SET body := by
  have hwithin : ∀ w ∈ fieldWrites v f.bytes (record.placedAt p),
      ((2 : Nat) : Int) ≤ w.1 ∧ w.1 < (2 : Nat) + ((f.sum :: f.body).length : Int) := by
    intro w hw
    have hplaced : (p : Int) ≤ w.1 ∧ w.1 < p + record.length :=
      fieldWrites_within (show 0 < (record.placedAt p).length from h.length) v f.bytes w hw
    have hbefore := h.before
    have hbehind := h.behind
    rw [HeldFrame.bytes_length] at hbefore
    rw [List.length_cons]
    omega
  obtain ⟨middle, hlen, happly⟩ := Writes.apply_middle _ FOOTER _ hwithin
  cases middle with
  | nil => simp at hlen
  | cons x body =>
      have hmade := happly [f.start, f.status] rfl
      have hsent := happly [f.start, SET] rfl
      rw [List.length_cons, List.length_cons] at hlen
      refine ⟨body, ?_, ?_, ?_, ?_⟩
      · have := List.length_pos_of_ne_nil f.body_ne_nil
        exact List.ne_nil_of_length_pos (by omega)
      · rw [Puts, h.apply_fieldWrites rfl]
        exact congrArg (List.drop 3) hmade
      · rw [h.apply_fieldWrites rfl]
        refine (congrArg (fun g => sealed (g.set 1 GET)) hmade).trans ?_
        exact sealed_frameWith f.start GET x body
      · exact (congrArg sealed hsent).trans (sealed_frameWith f.start SET x body)

/-- A value of the program as a caller sends it. -/
def DecodedValue.sent : DecodedValue → CallerValue
  | .bool b => .bool b
  | .int n => .int n
  | .float x => .float x

/-- Both lookups of the channel lead to the register of its one command, where the device at
rest keeps a frame. It answers a GET of the command with that frame, and the channel is a
field of the frame's body or begins at its checksum. -/
structure Addressed (config : HeatPumpConfig) (t : SimulatorTransport)
    (record : ChannelDefinition) (c : Command) (f : HeldFrame) : Prop where
  channel : config.channel record.channelId = some record
  request : ∃ request, config.requestForChannel record.channelId = some request ∧
    request.key = record.requestKey
  command : c.text = upper record.requestByte
  single : record.requestKey.2 = none
  served : t.simulator.config = config
  idle : t.simulator.state = .idle
  quiet : t.rx = []
  frame : t.simulator.store.get? c.text = some f.bytes
  asked : t.simulator.matchCommand (registerFrame GET c.bytes []) = some c
  field : ∃ p, LiesAt f.bytes.length record p

/-- A write of the value gets to the register: what it reads there is not taken for an echo,
and the device takes the frame with the coerced value in it for the register's command. -/
def Reaches (sim : HeatPumpSimulator) (c : Command) (frame : Bytes) (record : ChannelDefinition)
    (v : DecodedValue) : Prop :=
  frame ≠ createRequestMessage c.bytes GET ∧
    ∃ w, HeatPumpService.coerce record v.sent = .ok w ∧
      sim.matchCommand ((fieldWrites w frame record).apply frame) = some c

theorem matchCommand_congr {sim : HeatPumpSimulator} {f g : Bytes} (h : f.drop 3 = g.drop 3) :
    sim.matchCommand f = sim.matchCommand g := by
  rw [HeatPumpSimulator.matchCommand, HeatPumpSimulator.matchCommand, h]

theorem Puts.matchCommand {sim : HeatPumpSimulator} {b : Bytes} {v : DecodedValue}
    (h : Puts record f v b) :
    sim.matchCommand ((fieldWrites v f.bytes record).apply f.bytes)
      = sim.matchCommand (f.remade SET b) :=
  matchCommand_congr h

namespace Addressed
variable {config : HeatPumpConfig} {t : SimulatorTransport} {c : Command}
  (h : Addressed config t record c f)
include h

/-- A write that is accepted stores the frame with the coerced value in it if it gets there,
and leaves the register as it was if not. -/
theorem run_write {waitingTime : Nat} {v : DecodedValue} {reported : ChannelValue}
    {t' : SimulatorTransport}
    (hwrite : run SimulatorTransport.answer
      (HeatPumpService.writeChannel config waitingTime record.channelId v.sent) t
        = (.ok reported, t')) :
    (¬ Reaches t.simulator c f.bytes record v →
        t'.simulator.store.get? c.text = some f.bytes) ∧
      (Reaches t.simulator c f.bytes record v →
        ∃ w, HeatPumpService.coerce record v.sent = .ok w ∧ Encodable w record ∧
          ∃ b, Puts record f w b ∧
            t'.simulator.store.get? c.text = some (f.remade GET b)) := by
  obtain ⟨w, hw, values, hrun⟩ := run_writeChannel_ok h.channel hwrite
  obtain ⟨p, hlies⟩ := h.field
  obtain ⟨command, reply, t₁, hspelt, hread, hrest⟩ := run_writeData_ok hrun
  obtain rfl : c.bytes = command :=
    Except.ok.inj (c.hex.symm.trans (h.command ▸ fromHex_upper hspelt))
  have hne : reply ≠ [] := by
    rcases hrest with ⟨rfl, _⟩ | ⟨_, hne, _⟩
    · rw [createRequestMessage_eq]
      simp [bareFrame, frameWith, addDuplicatedBytes]
    · exact hne
  obtain ⟨rfl, hrests⟩ :=
    run_get_heard ⟨h.idle, h.quiet, rfl, rfl⟩ h.asked h.frame f.split hread hne
  rcases hrest with ⟨hecho, rfl⟩ | ⟨hecho, _, update, t₂, answer, hcompose, hsleep, hset⟩
  · refine ⟨fun _ => by rw [hrests.store, h.frame], fun hreaches => absurd hecho hreaches.1⟩
  · obtain ⟨hencodable, hupdate⟩ := (composeRecord_liesAt hlies).mp hcompose
    obtain ⟨b, hb, hputs, _, hsent⟩ := hlies.puts w
    rw [hsent] at hupdate
    subst hupdate
    obtain rfl : t₁ = t₂ := congrArg Prod.snd hsleep
    have hstore := run_set_store (x := byteSum (f.start :: SET :: b)) hrests f.start_plain hb
    have hremade : frameWith f.start SET (byteSum (f.start :: SET :: b) :: b) = f.remade SET b :=
      rfl
    have hsame : t₁.simulator.matchCommand (f.remade SET b)
        = t.simulator.matchCommand (f.remade SET b) := by
      rw [HeatPumpSimulator.matchCommand, HeatPumpSimulator.matchCommand, hrests.commands]
    rw [hremade, hset, hsame] at hstore
    refine ⟨fun hnot => ?_, fun hreaches => ⟨w, hw, hencodable, b, hputs, ?_⟩⟩
    · have hmissed : t.simulator.matchCommand (f.remade SET b) ≠ some c := fun hmatch =>
        hnot ⟨hecho, w, hw, hputs.matchCommand.trans hmatch⟩
      rw [hstore]
      split
      · next k hmatch =>
          have hother : k.text ≠ c.text := fun htext => hmissed (by
            rw [hmatch, Command.ext_text htext])
          rw [Dict.get?_set_ne _ hother, h.frame]
      · exact h.frame
    · obtain ⟨_, w', hw', hmatch⟩ := hreaches
      obtain rfl : w = w' := Except.ok.inj (hw.symm.trans hw')
      rw [hputs.matchCommand] at hmatch
      rw [hstore, hmatch]
      exact Dict.get?_set_self ..

end Addressed

/-- The frame a device makes of a command and its data. -/
def HeldFrame.ofRegister (command : Bytes) {data : Bytes} (h : data ≠ []) : HeldFrame where
  start := HEADER_START
  status := GET
  sum := byteSum (HEADER_START :: GET :: (command ++ data))
  body := command ++ data
  start_plain := by decide
  status_plain := by decide
  body_ne_nil := List.append_ne_nil_of_right_ne_nil command h

/-- A device with the frames of its constructor, whose commands are not prefixes of each
other, keeps such a register for every channel that is read with one command, and every write
gets to it. -/
theorem addressed_of_atRest {config : HeatPumpConfig} {t : SimulatorTransport}
    (hfit : Fitting config) (hspelt : ∀ r ∈ config.requests, Spelt r)
    (hrest : AtRest config t) (hserved : t.simulator.config = config)
    (hfree : PrefixFree t.simulator.commandToRequest.keys)
    (hshort : ∀ k ∈ t.simulator.commandToRequest.keys, k.bytes.length ≤ 3)
    (hmem : record ∈ config.channels) (hsingle : record.requestKey.2 = none) :
    ∃ c f, Addressed config t record c f ∧ f.Sealed ∧
      ∀ v w, HeatPumpService.coerce record v.sent = .ok w →
        Reaches t.simulator c f.bytes record v := by
  obtain ⟨request, hrequest, hkey, hin⟩ := HeatPumpConfig.exists_request_of_channel hmem
  obtain ⟨⟨c, hc⟩, _⟩ := hspelt request hrequest
  have hknown : c ∈ t.simulator.commandToRequest.keys :=
    (hrest.stocked.keys c).mpr ⟨request, hrequest, .inl hc⟩
  obtain ⟨frame, hget, data, rfl, hlen⟩ := hrest.stocked.frames request c ⟨hrequest, .inl hc⟩
  have hend := le_dataEnd hin
  have hlength := hfit.positive hrequest record hin
  have hindata : InData c.bytes data record :=
    ⟨hfit.behind request hrequest record hin c (.inl hc), by omega⟩
  have hbehind := hindata.behind
  obtain ⟨p, hp⟩ := Int.eq_ofNat_of_zero_le (show 0 ≤ record.position by omega)
  have hdata : data ≠ [] := by
    rintro rfl
    rw [List.length_nil] at hlen
    omega
  have hcommand : c.text = upper record.requestByte := hc.trans (congrArg Prod.fst hkey)
  have hlies : LiesAt (HeldFrame.ofRegister c.bytes hdata).bytes.length record p := by
    refine ⟨.inl hp, by omega, ?_, hlength⟩
    rw [HeldFrame.bytes_length, HeldFrame.ofRegister, List.length_append]
    omega
  refine ⟨c, HeldFrame.ofRegister c.bytes hdata,
    ⟨HeatPumpConfig.channel_of_mem hfit.ids hmem,
      ⟨request, HeatPumpConfig.requestForChannel_eq hfit.ids hrequest hin, hkey⟩, hcommand,
      hsingle, hserved, hrest.stocked.idle, hrest.quiet, hget,
      matchCommand_register hfree hknown rfl GET [], p, hlies⟩, ⟨rfl, rfl⟩, ?_⟩
  intro v w hw
  refine ⟨registerFrame_ne_message (hshort c hknown) hdata, w, hw, ?_⟩
  obtain ⟨data', _, happly⟩ :=
    hindata.apply_fieldWrites hlength w (registerFrame GET c.bytes data)
  have hbytes := happly GET (byteSum (HEADER_START :: GET :: (c.bytes ++ data)))
  refine (matchCommand_congr ?_).trans (matchCommand_register hfree hknown rfl SET data')
  have hdrop := congrArg (List.drop 3) hbytes
  exact hdrop

/-! ## When the two agree -/

section alike

variable (hp : record.position = p) (h₂ : 2 ≤ p)
  (hin : (p : Int) + record.length ≤ frame.length) (hpos : 0 < record.length)
include hp h₂ hin hpos

end alike

section lies

variable (h : LiesAt frame.length record p)
include h

end lies

end HeatpumpGateway
