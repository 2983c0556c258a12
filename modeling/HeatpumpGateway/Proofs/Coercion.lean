import HeatpumpGateway.Proofs.Acknowledge
import HeatpumpGateway.Proofs.Doubles
import HeatpumpGateway.Proofs.Quantise
import HeatpumpGateway.Proofs.Write

/-!
# What becomes of a value the caller sends

A value goes through Python's `float` or `int`, then a comparison with the record's
bounds, then a division by its scale. A caller is told of a bad value by `ValueError`.
Two of the conversions and the division have errors of their own, which are none, and
the comparison sees the value only after its conversion, which may have moved it inside
the bounds.

The file says for each step when it fails and with which kind of error, and for whole
calls when a bad value is one for the caller.
-/

namespace HeatpumpGateway

open Dialogue Fallible CommunicationService

/-! ## Conversion -/

theorem intOfStr_error {s : String} {e : Exc} (h : intOfStr s = .error e) :
    e.isValueError = true := by
  rw [intOfStr] at h
  simp only at h
  split at h
  · split at h
    · cases h
    · cases h
      rfl
  · cases h
    rfl

theorem floatOfStr_error {s : String} {e : Exc} (h : floatOfStr s = .error e) :
    e.isValueError = true := by
  rw [floatOfStr] at h
  simp only at h
  split at h
  · cases h
  · split at h
    · cases h
    · split at h
      · split at h
        · cases h
        · cases h
          rfl
      · cases h
        rfl

/-- The values that Python's `float` and `int` refuse with an `OverflowError`. -/
def Overflows (record : ChannelDefinition) (value : CallerValue) : Prop :=
  (record.valueKind = .number ∧ ∃ n : Int, value = .int n ∧ PyFloat.overflowBound ≤ n.natAbs) ∨
    (record.valueKind = .integer ∧ (value = .float .posInf ∨ value = .float .negInf))

theorem coerceNumber_error {value : CallerValue} {e : Exc}
    (h : HeatPumpService.coerceNumber value = .error e) :
    e.isValueError = false ↔ ∃ n : Int, value = .int n ∧ PyFloat.overflowBound ≤ n.natAbs := by
  cases value with
  | bool b => cases h
  | float x => cases h
  | str s =>
      rw [HeatPumpService.coerceNumber] at h
      rw [floatOfStr_error h]
      simp
  | int n =>
      rw [HeatPumpService.coerceNumber, PyFloat.ofPyInt] at h
      split at h
      · cases h
      · next hbound =>
          cases h
          exact iff_of_true rfl ⟨n, rfl, by omega⟩

theorem coerceInteger_error {value : CallerValue} {e : Exc}
    (h : HeatPumpService.coerceInteger value = .error e) :
    e.isValueError = false ↔ value = .float .posInf ∨ value = .float .negInf := by
  cases value with
  | bool b => cases h
  | int n => cases h
  | str s =>
      rw [intOfStr_error h]
      simp
  | float x =>
      cases x with
      | finite q => cases h
      | posInf | negInf =>
          cases h
          simp [Exc.isValueError]
      | nan =>
          cases h
          simp [Exc.isValueError]

theorem coerce_error {record : ChannelDefinition} {value : CallerValue} {e : Exc}
    (h : HeatPumpService.coerce record value = .error e) :
    e.isValueError = false ↔ Overflows record value := by
  rw [HeatPumpService.coerce] at h
  rw [Overflows]
  cases hkind : record.valueKind with
  | boolean =>
      rw [hkind] at h
      have hbool := map_eq_error.mp h
      cases value with
      | bool b => cases hbool
      | int n => cases hbool
      | float x => cases hbool
      | str s =>
          rw [HeatPumpService.coerceBoolean] at hbool
          split at hbool
          · cases hbool
          · split at hbool
            · cases hbool
            · cases hbool
              simp [Exc.isValueError]
  | number =>
      rw [hkind] at h
      rw [coerceNumber_error (map_eq_error.mp h)]
      simp
  | integer =>
      rw [hkind] at h
      rw [coerceInteger_error (map_eq_error.mp h)]
      simp

theorem Overflows.raises {record : ChannelDefinition} {value : CallerValue}
    (h : Overflows record value) :
    ∃ text, HeatPumpService.coerce record value = .error (.overflowError text) := by
  rcases h with ⟨hkind, n, rfl, hn⟩ | ⟨hkind, rfl | rfl⟩
  · refine ⟨"int too large to convert to float", ?_⟩
    rw [HeatPumpService.coerce, hkind]
    simp only [HeatPumpService.coerceNumber, PyFloat.ofPyInt]
    rw [if_neg (by omega)]
    rfl
  · exact ⟨_, by rw [HeatPumpService.coerce, hkind]; rfl⟩
  · exact ⟨_, by rw [HeatPumpService.coerce, hkind]; rfl⟩

theorem Overflows.not_coerced {record : ChannelDefinition} {value : CallerValue}
    {v : DecodedValue} (hv : HeatPumpService.coerce record value = .ok v) :
    ¬ Overflows record value := by
  intro h
  obtain ⟨text, he⟩ := h.raises
  rw [hv] at he
  cases he

/-! ## Composition -/

def OutOfBounds (record : ChannelDefinition) (x : PyFloat) : Prop :=
  record.max.lt x = true ∨ x.lt record.min = true

/-- A number outside the bounds; truth values have none. -/
def Outside (record : ChannelDefinition) : DecodedValue → Prop
  | .bool _ => False
  | v => OutOfBounds record v.toFloat

/-- Numbers that cannot be divided by a scale, or not with a finite result. -/
def Unscalable (x scale : PyFloat) : Prop :=
  ∃ s, scale = .finite s ∧
    (s = 0 ∨ x = .posInf ∨ x = .negInf ∨
      ∃ q, x = .finite q ∧ ¬ PyFloat.Representable (q / s))

/-- `math.floor` complains of NaN as of a bad value, of an infinity otherwise. -/
theorem floor_error {y : PyFloat} {e : Exc} (h : y.floor = .error e) :
    e.isValueError = false ↔ y ≠ .nan := by
  cases y with
  | finite q => cases h
  | posInf | negInf | nan =>
      cases h
      simp [Exc.isValueError]

/-- Nothing is refused that is divided by an infinity. -/
theorem floor_half_succeeds : ((PyFloat.finite 0).add (.finite (1 / 2))).floor = .ok 0 := by
  decide +kernel

theorem scaledToRaw_error {x scale : PyFloat} {e : Exc} (h : scaledToRaw x scale = .error e) :
    e.isValueError = false ↔ Unscalable x scale := by
  have other : (∀ s, scale ≠ .finite s) → ¬ Unscalable x scale := by
    intro hne hc
    obtain ⟨s, hs, _⟩ := hc
    exact hne s hs
  cases scale with
  | finite s =>
      by_cases hs : s = 0
      · have hdiv : x.div (.finite s) = .error (.zeroDivisionError "float division by zero") := by
          rw [PyFloat.div, if_pos hs]
        rw [scaledToRaw, hdiv] at h
        cases h
        exact iff_of_true rfl ⟨s, rfl, .inl hs⟩
      · cases x with
        | finite q =>
            have hfar : ¬ PyFloat.Representable (q / s) := by
              intro hrange
              rw [scaledToRaw_eq hs hrange] at h
              cases h
            rw [scaledToRaw_overflow hs hfar] at h
            cases h
            exact iff_of_true rfl ⟨s, rfl, .inr (.inr (.inr ⟨q, rfl, hfar⟩))⟩
        | posInf =>
            rw [scaledToRaw, PyFloat.div, if_neg hs] at h
            refine iff_of_true ?_ ⟨s, rfl, .inr (.inl rfl)⟩
            rw [floor_error h, PyFloat.quotient]
            split <;> exact PyFloat.noConfusion
        | negInf =>
            rw [scaledToRaw, PyFloat.div, if_neg hs] at h
            refine iff_of_true ?_ ⟨s, rfl, .inr (.inr (.inl rfl))⟩
            rw [floor_error h, PyFloat.quotient]
            split <;> exact PyFloat.noConfusion
        | nan =>
            rw [scaledToRaw, PyFloat.div, if_neg hs] at h
            cases h
            refine iff_of_false Bool.noConfusion fun hc => ?_
            obtain ⟨s', hs', hzero | hx | hx | ⟨_, hx, _⟩⟩ := hc
            · cases hs'
              exact hs hzero
            · cases hx
            · cases hx
            · cases hx
  | posInf | negInf =>
      refine iff_of_false ?_ (other (fun _ => PyFloat.noConfusion))
      cases x with
      | finite q =>
          change ((PyFloat.finite 0).add (.finite (1 / 2))).floor = .error e at h
          rw [floor_half_succeeds] at h
          cases h
      | posInf | negInf | nan =>
          cases h
          exact Bool.noConfusion
  | nan =>
      refine iff_of_false ?_ (other (fun _ => PyFloat.noConfusion))
      cases x <;> cases h <;> exact Bool.noConfusion

theorem setItem_indexError {data : Bytes} {i : Int} {b : UInt8} {e : Exc}
    (h : setItem data i b = .error e) : e.isValueError = false := by
  rw [setItem] at h
  split at h
  · cases h
  · cases h
    rfl

theorem writeShort_indexError {raw : Int} {frame : Bytes} {record : ChannelDefinition} {e : Exc}
    (h : writeShort raw frame record = .error e) : e.isValueError = false := by
  rw [writeShort] at h
  split at h
  · exact setItem_indexError h
  · split at h
    · rcases bind_eq_error.mp h with hset | ⟨_, _, hset⟩
      · exact setItem_indexError hset
      · exact setItem_indexError hset
    · cases h

/-- What a record says against a value as such, by `ValueError`: it is out of bounds, or
no number comes of the division. -/
def Rejects (record : ChannelDefinition) (v : DecodedValue) : Prop :=
  Outside record v ∨ ∃ e, rawOf v record = .error e ∧ e.isValueError = true

theorem fieldWritten_valueError_iff {v : DecodedValue} {frame : Bytes}
    {record : ChannelDefinition} :
    (∃ e, fieldWritten v frame record = .error e ∧ e.isValueError = true) ↔ Rejects record v := by
  have number : ∀ v : DecodedValue, (∀ b, v ≠ .bool b) →
      ((∃ e, (if record.max.lt v.toFloat || v.toFloat.lt record.min then
          Except.error (.valueOutOfRange record.channelId v record.min record.max)
        else do
          let shortValue ← rawOf v record
          writeShort shortValue frame record) = .error e ∧ e.isValueError = true) ↔
        OutOfBounds record v.toFloat ∨ ∃ e, rawOf v record = .error e ∧ e.isValueError = true) := by
    intro v _
    rw [OutOfBounds]
    split
    · next hout =>
        rw [Bool.or_eq_true] at hout
        exact iff_of_true ⟨_, rfl, rfl⟩ (.inl hout)
    · next hin =>
        rw [Bool.or_eq_true] at hin
        rw [or_iff_right hin]
        refine ⟨?_, ?_⟩
        · intro hc
          obtain ⟨e, he, hvalue⟩ := hc
          rcases bind_eq_error.mp he with hraw | ⟨raw, _, hwrite⟩
          · exact ⟨e, hraw, hvalue⟩
          · rw [writeShort_indexError hwrite] at hvalue
            cases hvalue
        · intro hc
          obtain ⟨e, hraw, hvalue⟩ := hc
          exact ⟨e, bind_eq_error.mpr (.inl hraw), hvalue⟩
  cases v with
  | bool b =>
      rw [fieldWritten, Rejects]
      refine iff_of_false ?_ (by simp [Outside, rawOf])
      intro hc
      obtain ⟨e, he, hvalue⟩ := hc
      split at he
      · rcases bind_eq_error.mp he with hget | ⟨_, _, hset⟩
        · rw [getItem] at hget
          split at hget
          · split at hget
            · cases hget
            · cases hget
              cases hvalue
          · cases hget
            cases hvalue
        · rw [setItem_indexError hset] at hvalue
          cases hvalue
      · rw [setItem_indexError he] at hvalue
        cases hvalue
  | int n => exact number (.int n) (by simp)
  | float x => exact number (.float x) (by simp)

/-- Composing raises `ValueError` for what the record says against the value, if the frame
has a status byte to set first. -/
theorem composeRecord_valueError_iff {v : DecodedValue} {frame : Bytes}
    {record : ChannelDefinition} :
    (∃ e, composeRecord v frame record = .error e ∧ e.isValueError = true) ↔
      2 ≤ frame.length ∧ Rejects record v := by
  rw [composeRecord_def]
  by_cases hlen : 2 ≤ frame.length
  swap
  · have hstatus : setItem frame 1 SET = .error (.indexError "bytearray index out of range") :=
      setItem_error SET fun hr => hlen (inRange_natCast.mp hr)
    rw [hstatus, error_bind]
    refine iff_of_false ?_ fun hc => hlen hc.1
    intro hc
    obtain ⟨e, he, hvalue⟩ := hc
    cases he
    cases hvalue
  have hstatus : setItem frame 1 SET = .ok (frame.set 1 SET) :=
    setItem_eq SET (inRange_natCast.mpr hlen)
  rw [hstatus, ok_bind, and_iff_right hlen, ← @fieldWritten_valueError_iff v (frame.set 1 SET)]
  refine ⟨?_, ?_⟩
  · intro hc
    obtain ⟨e, he, hvalue⟩ := hc
    rcases bind_eq_error.mp he with hfield | ⟨out, _, hsum⟩
    · exact ⟨e, hfield, hvalue⟩
    · rcases bind_eq_error.mp hsum with hcheck | ⟨_, _, hset⟩
      · rw [calculateChecksum] at hcheck
        split at hcheck
        · cases hcheck
          cases hvalue
        · cases hcheck
      · rw [setItem_indexError hset] at hvalue
        cases hvalue
  · intro hc
    obtain ⟨e, hfield, hvalue⟩ := hc
    exact ⟨e, bind_eq_error.mpr (.inl hfield), hvalue⟩

/-- What is composed carries a value the record does not reject. -/
theorem not_rejects_of_composed {v : DecodedValue} {record : ChannelDefinition}
    {reply frame : Bytes} (h : composeRecord v reply record = .ok frame) :
    ¬ Rejects record v := by
  intro hrejects
  obtain ⟨hlen, _⟩ := (composeRecord_ok_iff.mp h).1
  obtain ⟨e, he, _⟩ := composeRecord_valueError_iff.mpr
    ⟨show 2 ≤ reply.length by omega, hrejects⟩
  rw [h] at he
  cases he

theorem Unscalable.raises {x scale : PyFloat} (h : Unscalable x scale) :
    ∃ e, scaledToRaw x scale = .error e := by
  obtain ⟨s, rfl, hcases⟩ := h
  by_cases hs : s = 0
  · rw [scaledToRaw, PyFloat.div, if_pos hs]
    exact ⟨_, rfl⟩
  rcases hcases with hzero | rfl | rfl | ⟨q, rfl, hrange⟩
  · exact absurd hzero hs
  · rw [scaledToRaw, PyFloat.div, if_neg hs, ok_bind]
    rw [PyFloat.quotient]
    split <;> exact ⟨_, rfl⟩
  · rw [scaledToRaw, PyFloat.div, if_neg hs, ok_bind]
    rw [PyFloat.quotient]
    split <;> exact ⟨_, rfl⟩
  · exact ⟨_, scaledToRaw_overflow hs hrange⟩

/-- A value that is neither scaled nor refused as such is one that its scale cannot divide. -/
theorem unscalable_iff {record : ChannelDefinition} {v : DecodedValue} :
    (∃ x, v = .float x ∧ Unscalable x record.scale) ↔
      ¬ (rawOf v record).toOption.isSome ∧
        ¬ ∃ e, rawOf v record = .error e ∧ e.isValueError = true := by
  have hnever : ∀ {v : DecodedValue}, (∀ x, v ≠ .float x) → (rawOf v record).toOption.isSome →
      ((∃ x, v = .float x ∧ Unscalable x record.scale) ↔
        ¬ (rawOf v record).toOption.isSome ∧
          ¬ ∃ e, rawOf v record = .error e ∧ e.isValueError = true) := by
    intro v hv hsome
    refine iff_of_false (fun hc => ?_) fun hc => hc.1 hsome
    obtain ⟨x, hx, _⟩ := hc
    exact hv x hx
  cases v with
  | bool b => exact hnever (by simp) rfl
  | int n => exact hnever (by simp) rfl
  | float x =>
      rw [rawOf]
      cases hraw : scaledToRaw x record.scale with
      | ok raw =>
          refine iff_of_false (fun hc => ?_) fun hc => hc.1 rfl
          obtain ⟨x', hx, hun⟩ := hc
          cases hx
          obtain ⟨e, he⟩ := hun.raises
          rw [hraw] at he
          cases he
      | error e =>
          have hkind := scaledToRaw_error hraw
          simp only [DecodedValue.float.injEq, exists_eq_left', ← hkind, Except.error.injEq,
            Except.toOption, Option.isSome_none, Bool.false_eq_true, not_false_eq_true, true_and,
            Bool.not_eq_true]

theorem encodable_iff [Arithmetic] {record : ChannelDefinition} {v : DecodedValue} :
    Encodable v record ↔ ¬ Outside record v ∧ (rawOf v record).toOption.isSome := by
  cases v with
  | bool b => simp [Encodable, Outside, rawOf, Except.toOption]
  | int n => simp [Encodable, Outside, OutOfBounds, and_assoc]
  | float x => simp [Encodable, Outside, OutOfBounds, and_assoc]

/-! ## Values that make the call raise something else -/

/-- The value coerced and composed into a reply. -/
def prepared (record : ChannelDefinition) (value : CallerValue) (reply : Bytes) :
    Except Exc Bytes := do
  let v ← HeatPumpService.coerce record value
  composeRecord v reply record

/-- Python refuses the value with an `OverflowError`; or the record does not reject it, but
its scale cannot divide it, or its field lies outside the reply. -/
def Escapes (record : ChannelDefinition) (value : CallerValue) (reply : Bytes) : Prop :=
  Overflows record value ∨
    ∃ v, HeatPumpService.coerce record value = .ok v ∧ ¬ Outside record v ∧
      ((∃ x, v = .float x ∧ Unscalable x record.scale) ∨
        ((rawOf v record).toOption.isSome ∧ ¬ FieldInRange reply.length v record))

theorem prepared_iff {record : ChannelDefinition} {value : CallerValue} {reply : Bytes}
    (hvalid : headerCheck reply = true) :
    ((∃ frame, prepared record value reply = .ok frame) ∨
        ∃ e, prepared record value reply = .error e ∧ e.isValueError = true) ↔
      ¬ Escapes record value reply := by
  have hlen : 5 ≤ reply.length := by
    by_contra hshort
    rw [headerCheck_short (by omega)] at hvalid
    cases hvalid
  rw [prepared, Escapes, not_or]
  cases hv : HeatPumpService.coerce record value with
  | error e =>
      rw [← coerce_error hv, error_bind]
      simp
  | ok v =>
      have hno := Overflows.not_coerced hv
      have hexclusive : (∃ e, rawOf v record = .error e ∧ e.isValueError = true) →
          ¬ (rawOf v record).toOption.isSome := by
        intro hc hsome
        obtain ⟨e, he, _⟩ := hc
        rw [he] at hsome
        cases hsome
      rw [ok_bind, composeRecord_valueError_iff, composeRecord_succeeds_iff, Composable,
        encodable_iff, and_iff_right (show 5 ≤ reply.length from hlen),
        and_iff_right (show 2 ≤ reply.length by omega), and_iff_right hno, Rejects]
      simp only [Except.ok.injEq, exists_eq_left', unscalable_iff]
      generalize (∃ e, rawOf v record = .error e ∧ e.isValueError = true) = refused at hexclusive ⊢
      by_cases hout : Outside record v
      · simp [hout]
      · by_cases hsome : (rawOf v record).toOption.isSome
        · have hnot : ¬ refused := fun hc => hexclusive hc hsome
          simp [hout, hsome, hnot]
        · simp [hout, hsome]

section calls
variable {config : HeatPumpConfig} {channelId : String} {record : ChannelDefinition}
  {value : CallerValue} {waitingTime : Nat}

/-- With a value that cannot be prepared the call ends there, and nothing is sent. -/
theorem writeChannel_unprepared (hrecord : config.channel channelId = some record)
    (hwritable : record.writable = true) {reply : Bytes} {e : Exc}
    (hprepared : prepared record value reply = .error e) {tr : Trace} {r : Except Exc ChannelValue}
    (h : Path (HeatPumpService.writeChannel config waitingTime channelId value) tr r)
    (honly : ∀ reply', .gotData reply' ∈ marks tr → reply' = reply) :
    (reply ≠ [] → .gotData reply ∈ marks tr → .getData reply ∉ marks tr → r = .error e) ∧
      ∀ message, .setData message ∉ marks tr := by
  cases hv : HeatPumpService.coerce record value with
  | error e' =>
      rw [writeChannel_uncoerced hrecord hwritable hv] at h
      obtain ⟨rfl, rfl⟩ := Path.raise_iff.mp h
      exact ⟨fun _ hgot => (by cases hgot), fun _ hset => (by cases hset)⟩
  | ok v =>
      rw [prepared, hv, ok_bind] at hprepared
      obtain ⟨r', hp, rfl⟩ := (writeChannel_path hrecord hwritable hv).mp h
      cases hcommand : fromHex record.requestByte with
      | error e' =>
          obtain ⟨rfl, _⟩ := writeValues_unhex hcommand hp
          exact ⟨fun _ hgot => (by cases hgot), fun _ hset => (by cases hset)⟩
      | ok command =>
          have hrun := writeValues_path hcommand hp
          have hfits : ∀ {frame : Bytes}, composeAll [(v, record)] reply ≠ .ok frame := by
            intro frame hframe
            rw [composeAll_single, hprepared] at hframe
            cases hframe
          rcases hrun.marks_cases with hmarks | ⟨reply', ⟨hmarks, hcases⟩ | ⟨_, _, frame, last,
            hframe, hmarks, _⟩⟩
          · rw [hmarks]
            exact ⟨fun _ hgot => by simp at hgot, fun _ hset => by simp at hset⟩
          · rw [hmarks] at honly ⊢
            obtain rfl := honly reply' (by simp)
            refine ⟨fun hne _ hecho => ?_, fun _ hset => by simp at hset⟩
            have hread : reply' ≠ createRequestMessage command GET := by simpa using hecho
            obtain ⟨e', rfl, hstop⟩ := hrun.stopped_at hmarks hread hne
            rw [composeAll_single, hprepared] at hstop
            cases hstop
            rfl
          · obtain rfl := honly reply' (by rw [hmarks]; simp)
            exact absurd hframe hfits

/-- Coercion and composition end in a SET frame, or in a `ValueError` with no frame sent. -/
def Settled (config : HeatPumpConfig) (channelId : String) (record : ChannelDefinition)
    (value : CallerValue) (reply : Bytes) : Prop :=
  (∃ frame, prepared record value reply = .ok frame) ∨
    ∃ e, prepared record value reply = .error e ∧ e.isValueError = true ∧
      ∀ waitingTime tr r,
        Path (HeatPumpService.writeChannel config waitingTime channelId value) tr r →
        (∀ reply', .gotData reply' ∈ marks tr → reply' = reply) →
        (reply ≠ [] → .gotData reply ∈ marks tr → .getData reply ∉ marks tr → r = .error e) ∧
          ∀ message, .setData message ∉ marks tr

/-- The caller is told of every value that cannot be sent, with three exceptions. -/
theorem value_settled_iff (hrecord : config.channel channelId = some record)
    (hwritable : record.writable = true) {reply : Bytes} (hvalid : headerCheck reply = true) :
    Settled config channelId record value reply ↔ ¬ Escapes record value reply := by
  rw [← prepared_iff hvalid, Settled]
  refine or_congr_right (exists_congr fun e => ?_)
  refine ⟨fun hc => ⟨hc.1, hc.2.1⟩, fun hc => ⟨hc.1, hc.2, ?_⟩⟩
  intro waitingTime tr r h honly
  exact writeChannel_unprepared hrecord hwritable hc.1 h honly

end calls

/-- The first switching time of a day's hot water program, a byte of quarter hours. -/
def programStart : ChannelDefinition :=
  { channelId := "programDhwMo0Start", requestByte := "0A1710", dataType := .settings
    position := 6, length := 1, min := .finite (-128), max := .finite 95 }

/-- A setting with a factor of zero. -/
def zeroScaled : ChannelDefinition :=
  { channelId := "p01RoomTempDay", requestByte := "0B0005", dataType := .settings
    position := 6, length := 2, scale := .finite 0, min := .finite 10, max := .finite 30 }

/-- The hot water program starts at half past five. -/
def programReply : Bytes := [0x01, 0x00, 0x48, 0x0A, 0x17, 0x10, 0x16, 0x10, 0x03]

theorem value_settled_program :
    Settled { channels := [programStart] } "programDhwMo0Start" programStart (.int 96)
        programReply ↔
      ¬ Escapes programStart (.int 96) programReply :=
  value_settled_iff (by decide +kernel) rfl (by decide +kernel)

/-- `1e400` is an infinity that no integer is made of, `10 ** 400` is no float, and a factor
of zero divides nothing. -/
theorem values_escape :
    headerCheck programReply = true ∧
    prepared programStart (.float .posInf) programReply
      = .error (.overflowError "cannot convert float infinity to integer") ∧
    prepared roomTempDay (.int (10 ^ 400))
        [0x01, 0x00, 0xE3, 0x0B, 0x00, 0x05, 0x00, 0xD2, 0x10, 0x03]
      = .error (.overflowError "int too large to convert to float") ∧
    prepared zeroScaled (.int 20) [0x01, 0x00, 0xE3, 0x0B, 0x00, 0x05, 0x00, 0xD2, 0x10, 0x03]
      = .error (.zeroDivisionError "float division by zero") ∧
    ¬ Settled { channels := [programStart] } "programDhwMo0Start" programStart
        (.float .posInf) programReply := by
  have hraises : prepared programStart (.float .posInf) programReply
      = .error (.overflowError "cannot convert float infinity to integer") := by
    decide +kernel
  refine ⟨by decide +kernel, hraises, by decide +kernel, by decide +kernel, ?_⟩
  intro hc
  rcases hc with ⟨frame, hframe⟩ | ⟨e, he, hvalue, _⟩
  · rw [hraises] at hframe
    cases hframe
  · rw [hraises] at he
    cases he
    cases hvalue

/-! ## Values outside the bounds -/

/-- The finite numbers a caller sends. -/
def sentNumber : CallerValue → Option ℚ
  | .int n => some n
  | .float (.finite q) => some q
  | _ => none

theorem sentNumber_cases {value : CallerValue} {q : ℚ} (h : sentNumber value = some q) :
    (∃ n : Int, value = .int n ∧ q = n) ∨ value = .float (.finite q) := by
  rw [sentNumber.eq_def] at h
  split at h
  · next n =>
      cases h
      exact .inl ⟨n, rfl, rfl⟩
  · cases h
    exact .inr rfl
  · cases h

/-- What the conversion does to a value outside the bounds: a fraction loses what stands
behind the point, an integer is rounded to a float; or NaN comes of a division by NaN. -/
def StaysOutside (record : ChannelDefinition) (value : CallerValue) : Prop :=
  match record.valueKind, value with
  | .integer, .float (.finite q) => OutOfBounds record (.ofInt (if 0 ≤ q then ⌊q⌋ else ⌈q⌉))
  | .number, .int n =>
      ∃ x, PyFloat.ofPyInt n = .ok x ∧ (OutOfBounds record x ∨ record.scale = .nan)
  | _, _ => True

theorem ofPyInt_finite {n : Int} {x : PyFloat} (h : PyFloat.ofPyInt n = .ok x) :
    ∃ q, x = .finite q := by
  rw [PyFloat.ofPyInt] at h
  split at h
  · next hbound =>
      cases h
      exact PyFloat.ofRat_finite_iff.mpr (by
        rw [PyFloat.Representable, ← Int.cast_abs, Int.cast_lt, ← Int.natCast_natAbs]
        exact hbound)
  · cases h

/-- Of a finite number only a scale that is NaN makes NaN. -/
theorem scaledToRaw_valueError_iff {q : ℚ} {scale : PyFloat} :
    (∃ e, scaledToRaw (.finite q) scale = .error e ∧ e.isValueError = true) ↔ scale = .nan := by
  refine ⟨?_, ?_⟩
  · intro hc
    obtain ⟨e, he, hvalue⟩ := hc
    have hno : ¬ Unscalable (.finite q) scale := by
      rw [← scaledToRaw_error he, hvalue]
      decide
    cases scale with
    | finite s =>
        by_cases hs : s = 0
        · exact absurd ⟨s, rfl, .inl hs⟩ hno
        · by_cases hrange : PyFloat.Representable (q / s)
          · rw [scaledToRaw_eq hs hrange] at he
            cases he
          · exact absurd ⟨s, rfl, .inr (.inr (.inr ⟨q, rfl, hrange⟩))⟩ hno
    | posInf | negInf =>
        change ((PyFloat.finite 0).add (.finite (1 / 2))).floor = .error e at he
        rw [floor_half_succeeds] at he
        cases he
    | nan => rfl
  · intro hc
    subst hc
    exact ⟨_, rfl, rfl⟩

section bounds
variable {config : HeatPumpConfig} {channelId : String} {record : ChannelDefinition}
  {value : CallerValue} {waitingTime : Nat}

theorem rejects_iff {q : ℚ} {v : DecodedValue} (hkind : record.valueKind ≠ .boolean)
    (hvalue : sentNumber value = some q) (hout : OutOfBounds record (.finite q))
    (hv : HeatPumpService.coerce record value = .ok v) :
    Rejects record v ↔ StaysOutside record value := by
  rw [HeatPumpService.coerce] at hv
  cases hk : record.valueKind with
  | boolean => exact absurd hk hkind
  | integer =>
      rw [hk] at hv
      rcases sentNumber_cases hvalue with ⟨n, rfl, rfl⟩ | rfl
      · cases hv
        simp only [StaysOutside, hk]
        exact iff_of_true (.inl hout) trivial
      · cases hv
        simp only [StaysOutside, hk]
        exact ⟨fun hc => hc.resolve_right (by simp [rawOf]), .inl⟩
  | number =>
      rw [hk] at hv
      rcases sentNumber_cases hvalue with ⟨n, rfl, rfl⟩ | rfl
      · simp only [StaysOutside, hk]
        simp only [HeatPumpService.coerceNumber] at hv
        cases hx : PyFloat.ofPyInt n with
        | error e =>
            rw [hx] at hv
            cases hv
        | ok x =>
            rw [hx] at hv
            cases hv
            obtain ⟨p, rfl⟩ := ofPyInt_finite hx
            simp only [Except.ok.injEq, exists_eq_left', Rejects, rawOf,
              scaledToRaw_valueError_iff]
            rfl
      · cases hv
        simp only [StaysOutside, hk]
        exact iff_of_true (.inl hout) trivial

/-- A finite number fails to convert only by being too large. -/
theorem overflows_of_error {q : ℚ} {e : Exc} (hkind : record.valueKind ≠ .boolean)
    (hvalue : sentNumber value = some q) (hv : HeatPumpService.coerce record value = .error e) :
    Overflows record value := by
  rw [← coerce_error hv]
  rw [HeatPumpService.coerce] at hv
  cases hk : record.valueKind with
  | boolean => exact absurd hk hkind
  | integer =>
      rw [hk] at hv
      rcases sentNumber_cases hvalue with ⟨n, rfl, rfl⟩ | rfl <;> cases hv
  | number =>
      rw [hk] at hv
      rcases sentNumber_cases hvalue with ⟨n, rfl, rfl⟩ | rfl
      · have herror := map_eq_error.mp hv
        rw [HeatPumpService.coerceNumber, PyFloat.ofPyInt] at herror
        split at herror
        · cases herror
        · cases herror
          rfl
      · cases hv

/-- The pre-write read gave a reply to write the value into. -/
def Replied (tr : Trace) : Prop :=
  ∃ reply, .gotData reply ∈ marks tr ∧ .getData reply ∉ marks tr ∧ 2 ≤ reply.length

theorem FromLink.not_valueError {e : Exc} (h : FromLink e) : e.isValueError = false := by
  rcases h with ⟨text, rfl⟩ | ⟨l, rfl⟩
  · rfl
  · cases l <;> rfl

/-- A number outside the bounds is a `ValueError`, and nothing is sent, unless the value is
inside them once converted or the check is never come to. -/
theorem range_applies_iff (hrecord : config.channel channelId = some record)
    (hwritable : record.writable = true) (hkind : record.valueKind ≠ .boolean) {q : ℚ}
    (hvalue : sentNumber value = some q) (hout : OutOfBounds record (.finite q)) {tr : Trace}
    {r : Except Exc ChannelValue}
    (h : Path (HeatPumpService.writeChannel config waitingTime channelId value) tr r) :
    ((∃ e, r = .error e ∧ e.isValueError = true) ∧ ∀ message, .setData message ∉ marks tr) ↔
      ¬ Overflows record value ∧
        ((∃ e, fromHex record.requestByte = .error e) ∨
          Replied tr ∧ StaysOutside record value) := by
  cases hv : HeatPumpService.coerce record value with
  | error e =>
      rw [writeChannel_uncoerced hrecord hwritable hv] at h
      obtain ⟨rfl, rfl⟩ := Path.raise_iff.mp h
      have hoverflow := overflows_of_error hkind hvalue hv
      refine iff_of_false ?_ fun hc => hc.1 hoverflow
      intro hc
      obtain ⟨⟨e', he, hkind'⟩, _⟩ := hc
      cases he
      rw [(coerce_error hv).mpr hoverflow] at hkind'
      cases hkind'
  | ok v =>
      have hno := Overflows.not_coerced hv
      rw [and_iff_right hno, ← rejects_iff hkind hvalue hout hv]
      obtain ⟨r', hp, rfl⟩ := (writeChannel_path hrecord hwritable hv).mp h
      simp only [map_eq_error]
      cases hcommand : fromHex record.requestByte with
      | error e' =>
          obtain ⟨rfl, rfl⟩ := writeValues_unhex hcommand hp
          obtain ⟨why, rfl⟩ := fromHex_error hcommand
          exact iff_of_true ⟨⟨_, rfl, rfl⟩, by simp⟩ (.inl ⟨_, rfl⟩)
      | ok command =>
          simp only [exists_false, false_or, reduceCtorEq]
          have hreplied : ∀ {tr : Trace} {reply : Bytes},
              marks tr = [.getData (createRequestMessage command GET), .gotData reply] →
              (Replied tr ↔ reply ≠ createRequestMessage command GET ∧ 2 ≤ reply.length) := by
            intro tr reply hmarks
            simp [Replied, hmarks]
          have hsent : ∀ {tr tr' : Trace} {reply frame : Bytes} {r : Except Exc Bytes} {P : Prop},
              composeAll [(v, record)] reply = .ok frame →
              Path (Connector.setData (addDuplicatedBytes frame)) tr' r →
              ((P ∧ ∀ message, .setData message ∉ marks (tr ++ ⟨.sleep waitingTime, ()⟩ :: tr')) ↔
                Replied (tr ++ ⟨.sleep waitingTime, ()⟩ :: tr') ∧ Rejects record v) := by
            intro tr tr' reply frame r P hframe hset
            refine iff_of_false (fun hc => hc.2 (addDuplicatedBytes frame) ?_) fun hc => ?_
            · rw [marks_append, marks_cons, setData_marks hset]
              simp
            · rw [composeAll_single] at hframe
              exact not_rejects_of_composed hframe hc.2
          have hrun := writeValues_path hcommand hp
          clear hp
          cases hrun with
          | @unread _ e hread =>
              refine iff_of_false (fun hc => ?_) fun hc => ?_
              · obtain ⟨⟨e', he, hvalueError⟩, _⟩ := hc
                cases he
                rw [(getData_fromLink hread).not_valueError] at hvalueError
                cases hvalueError
              · obtain ⟨⟨reply, hgot, _⟩, _⟩ := hc
                simp [getData_marks hread, Except.toOption] at hgot
          | echoed hread =>
              rw [hreplied (getData_ok_marks hread)]
              exact iff_of_false (by simp) (by simp)
          | silent text hread =>
              rw [hreplied (getData_ok_marks hread)]
              refine iff_of_false (fun hc => ?_) (by simp)
              obtain ⟨⟨e, he, hvalueError⟩, _⟩ := hc
              cases he
              cases hvalueError
          | @unfit _ reply e hread hecho _ hframe =>
              rw [hreplied (getData_ok_marks hread), and_iff_right hecho,
                ← composeRecord_valueError_iff]
              rw [composeAll_single] at hframe
              simp [hframe, getData_ok_marks hread]
          | unsent _ _ _ hframe hset => exact hsent hframe hset
          | confirmed _ _ _ hframe hset _ => exact hsent hframe hset
          | refused _ _ _ _ hframe hset _ => exact hsent hframe hset

end bounds

def programConfig : HeatPumpConfig := { channels := [programStart] }

/-- The double 95.7. -/
def quarterHours : ℚ := PyFloat.double.nearest (957 / 10)

/-- 95.7 quarter hours, where 95 is the most there is. -/
def programCall : Talk ChannelValue :=
  HeatPumpService.writeChannel programConfig 0 "programDhwMo0Start" (.float (.finite quarterHours))

/-- The register is read, and the frame that is sent back is confirmed. -/
def programScript : List (Option UInt8) :=
  [0x10, 0x10, 0x02, 0x01, 0x00, 0x48, 0x0A, 0x17, 0x10, 0x10, 0x16, 0x10, 0x03,
    0x10, 0x10, 0x02, 0x01, 0x80, 0xB2, 0x0A, 0x17, 0x10, 0x10, 0x10, 0x03].map some

theorem programCall_path :
    Path programCall (trace scripted programCall programScript)
      (.ok (HeatPumpService.toChannelValue programStart (.int 95))) :=
  path_of_run scripted (by decide +kernel)

theorem range_applies_program :
    ((∃ e : Exc, Except.ok (HeatPumpService.toChannelValue programStart (.int 95)) = .error e ∧
        e.isValueError = true) ∧
        ∀ message, .setData message ∉ marks (trace scripted programCall programScript)) ↔
      ¬ Overflows programStart (.float (.finite quarterHours)) ∧
        ((∃ e, fromHex programStart.requestByte = .error e) ∨
          Replied (trace scripted programCall programScript) ∧
            StaysOutside programStart (.float (.finite quarterHours))) :=
  range_applies_iff (by decide +kernel) rfl (by decide +kernel) rfl (.inl (by decide +kernel))
    programCall_path

/-- A fraction above the maximum loses what is too much, and the rest is written. -/
theorem fraction_written :
    OutOfBounds programStart (.finite quarterHours) ∧
      ∃ tr, Path programCall tr (.ok (HeatPumpService.toChannelValue programStart (.int 95))) ∧
        .setData (addDuplicatedBytes [0x01, 0x80, 0x11, 0x0A, 0x17, 0x10, 0x5F, 0x10, 0x03])
          ∈ marks tr := by
  refine ⟨.inl (by decide +kernel), _, programCall_path, ?_⟩
  decide +kernel

end HeatpumpGateway
