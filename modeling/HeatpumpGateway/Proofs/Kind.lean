import HeatpumpGateway.Model.Api
import HeatpumpGateway.Model.Service
import HeatpumpGateway.Proofs.WriteBack

/-!
# The type of a channel's values

`value_kind` and `parse_record` decide the type of a value by two chains of tests of
their own. A field of four bytes decodes to an integer before its bit number or its
bounds are looked at; `value_kind` looks at the length last. The schema and the
conversion of written values go by `value_kind`.
-/

namespace HeatpumpGateway

open Fallible

/-- The type of a value in JSON. -/
def DecodedValue.jsonType : DecodedValue → String
  | .bool _ => "boolean"
  | .int _ => "integer"
  | .float _ => "number"

theorem openapiType_kind (v : DecodedValue) : openapiType v.kind = v.jsonType := by
  cases v <;> rfl

/-- What is published for a channel id is the schema of its definition. -/
theorem heatPumpValues_get? (config : HeatPumpConfig) (channelId : String) :
    (heatPumpValues config).get? channelId = (config.channel channelId).map channelSchema := by
  have hmap : heatPumpValues config
      = config.byId.map fun kv => (kv.1, channelSchema kv.2) := by
    rw [heatPumpValues, HeatPumpConfig.byId, Dict.ofPairs, Dict.ofPairs, Dict.update_map,
      List.map_map]
    rfl
  rw [hmap, Dict.get?_map]
  rfl

/-! ## The chains of tests -/

/-- A converted value is of the record's kind. -/
theorem coerce_valueKind {record : ChannelDefinition} {given : CallerValue} {v : DecodedValue}
    (h : HeatPumpService.coerce record given = .ok v) : v.kind = record.valueKind := by
  rw [HeatPumpService.coerce] at h
  split at h
  · next hk =>
      obtain ⟨b, _, rfl⟩ := map_eq_ok.mp h
      exact hk.symm
  · next hk =>
      obtain ⟨x, _, rfl⟩ := map_eq_ok.mp h
      exact hk.symm
  · next hk =>
      obtain ⟨n, _, rfl⟩ := map_eq_ok.mp h
      exact hk.symm

/-- A flag or a switch in a field of four bytes. -/
def WideFlag (record : ChannelDefinition) : Prop :=
  record.length = 4 ∧ (0 < record.bitPosition ∨ record.isSwitch = true)

instance (record : ChannelDefinition) : Decidable (WideFlag record) :=
  inferInstanceAs (Decidable (_ ∧ _))

theorem valueKind_four {record : ChannelDefinition} (h : record.length = 4) :
    record.valueKind = .integer ↔ ¬ (0 < record.bitPosition ∨ record.isSwitch = true) := by
  rw [ChannelDefinition.valueKind]
  split
  · next hbit => simp [hbit]
  · next hbit =>
      split
      · next hswitch => simp [hswitch]
      · next hswitch => simp [hbit, hswitch]

/-! ## Agreement -/

/-- A decoded value is of the definition's kind, of the published type, and of the type
that a value to be written is converted to. -/
structure TypesAgree (record : ChannelDefinition) (v : DecodedValue) : Prop where
  decoded : v.kind = record.valueKind
  published : ∀ config : HeatPumpConfig, config.channel record.channelId = some record →
    ((heatPumpValues config).get? record.channelId).map (·.type) = some v.jsonType
  coerced : ∀ given w, HeatPumpService.coerce record given = .ok w → w.kind = v.kind

/-- The other two follow from the first. -/
theorem typesAgree_iff_kind {record : ChannelDefinition} {v : DecodedValue} :
    TypesAgree record v ↔ v.kind = record.valueKind := by
  refine ⟨TypesAgree.decoded, fun h => ⟨h, fun config hrecord => ?_, fun given w hw => ?_⟩⟩
  · rw [heatPumpValues_get?, hrecord, ← openapiType_kind, h]
    rfl
  · rw [coerce_valueKind hw, h]

theorem types_agree_iff {record : ChannelDefinition} {frame : Bytes} {v : DecodedValue}
    (h : parseRecord frame record = .ok v) : TypesAgree record v ↔ ¬ WideFlag record := by
  rw [typesAgree_iff_kind, parseRecord_kind h, WideFlag]
  by_cases h4 : record.length = 4
  · rw [if_pos h4, eq_comm, valueKind_four h4]
    simp [h4]
  · rw [if_neg h4]
    simp [h4]

theorem types_agree_roomTemp :
    TypesAgree roomTempDay (.float (.finite 20)) ↔ ¬ WideFlag roomTempDay :=
  have hread : parseRecord twentyDegrees roomTempDay = .ok (.float (.finite 20)) := by
    decide +kernel
  types_agree_iff hread

/-- A switch in four bytes. -/
def wideSwitch : ChannelDefinition :=
  { channelId := "HeatPipeValve", requestByte := "FB", dataType := .settings
    position := 4, length := 4, max := .finite 1 }

/-- It is published and written as a boolean and read as an integer. -/
theorem wide_switch_read_as_integer :
    parseRecord [0x01, 0x00, 0xFD, 0xFB, 0x00, 0x00, 0x00, 0x01, 0x10, 0x03] wideSwitch
        = .ok (.int 1) ∧
      wideSwitch.valueKind = .boolean ∧ (DecodedValue.int 1).kind ≠ wideSwitch.valueKind ∧
      (channelSchema wideSwitch).type = "boolean" ∧
      HeatPumpService.coerce wideSwitch (.int 1) = .ok (.bool true) := by
  decide +kernel

end HeatpumpGateway
