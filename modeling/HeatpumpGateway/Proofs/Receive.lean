import HeatpumpGateway.Model.Connector
import HeatpumpGateway.Proofs.Escape
import Mathlib.Data.List.ReduceOption

/-!
# Receiving a frame

The receive loop counts timeouts and bytes, and leaves on a footer or on the
fifth timeout. Against a transport that delivers an escaped frame, with fewer
than five timeouts in between, it returns the frame and takes not a byte more
(`receiveData_escaped`). The terminator cannot be met inside the frame, so neither
its bytes nor where the timeouts fall matter.
-/

namespace HeatpumpGateway

open Stuffing Dialogue

/-! ## Delivery of an escaped frame -/

/-- The loop reads exactly the bytes of a delivery whose first and only frame
end is its last byte. -/
theorem receiveLoop_delivery {σ : Type} (env : Environment Op Op.Ans σ)
    (answers : List (Option UInt8)) :
    ∀ (fuel retry : Nat) (buffer : Bytes) (s s' : σ),
      answers.length ≤ fuel → retry + answers.count none < MAX_RETRY →
      (buffer ++ answers.reduceOption).length ≤ INPUT_BUFFER_LENGTH →
      answers ≠ [] → answers.getLast? ≠ some none →
      4 < (buffer ++ answers.reduceOption).length →
      isFrameEnd (buffer ++ answers.reduceOption)
        (buffer ++ answers.reduceOption).length = true →
      (∀ n, 4 < n → n < (buffer ++ answers.reduceOption).length →
        isFrameEnd (buffer ++ answers.reduceOption) n = false) →
      Answers env .get s answers s' →
      run env (Connector.receiveLoop fuel retry buffer) s
        = (.ok (buffer ++ answers.reduceOption), s') := by
  induction answers with
  | nil => intro _ _ _ _ _ _ _ _ hne; exact absurd rfl hne
  | cons a answers ih =>
      intro fuel retry buffer s s' hfuel hretry hlen _ hlast hlong hend hprefix hdel
      obtain ⟨fuel, rfl⟩ : ∃ f, fuel = f + 1 :=
        ⟨fuel - 1, by simp only [List.length_cons] at hfuel; omega⟩
      obtain ⟨ha, hnext⟩ := (answers_cons_iff env).mp hdel
      rw [Connector.receiveLoop, if_pos (by omega)]
      show run env _ s = _
      simp only [Transport.get, ask_bind, ret_bind, run_ask, ha]
      cases a with
      | none =>
          have hne : answers ≠ [] := by
            intro h
            obtain rfl := h
            exact hlast rfl
          have hlast' : answers.getLast? ≠ some none := by
            rwa [List.getLast?_cons_of_ne_nil hne] at hlast
          simp only [List.reduceOption_cons_of_none] at hlen hlong hend hprefix ⊢
          simp only [List.count_cons_self] at hretry
          simp only [List.length_cons] at hfuel
          exact ih fuel (retry + 1) buffer _ s' (by omega) (by omega) hlen hne hlast'
            hlong hend hprefix hnext
      | some b =>
          have happ : buffer ++ (some b :: answers).reduceOption
              = (buffer ++ [b]) ++ answers.reduceOption := by
            simp [List.reduceOption_cons_of_some]
          rw [happ] at hlen hlong hend hprefix ⊢
          have hcount : (some b :: answers).count none = answers.count none := by simp
          rw [hcount] at hretry
          have hroom : ¬ buffer.length ≥ INPUT_BUFFER_LENGTH := by
            simp only [List.length_append, List.length_singleton] at hlen
            omega
          simp only []
          rw [if_neg hroom]
          by_cases hrest : answers = []
          · subst hrest
            obtain rfl := (answers_nil_iff env).mp hnext
            simp only [List.reduceOption_nil, List.append_nil] at hlong hend ⊢
            rw [if_pos ⟨hlong, hend⟩]
            rfl
          · have hlast' : answers.getLast? ≠ some none := by
              rwa [List.getLast?_cons_of_ne_nil hrest] at hlast
            -- The delivery ends in a byte, so this one is not its last.
            have hmore : 0 < answers.reduceOption.length := by
              obtain ⟨c, hc⟩ : ∃ c, some c ∈ answers := by
                obtain ⟨x, hx⟩ := Option.isSome_iff_exists.mp
                  (List.getLast?_isSome.mpr hrest)
                cases x with
                | none => exact absurd hx hlast'
                | some c => exact ⟨c, List.mem_of_getLast? hx⟩
              exact List.length_pos_of_mem (List.reduceOption_mem_iff.mpr hc)
            have hnot : ¬ ((buffer ++ [b]).length > 4 ∧
                isFrameEnd (buffer ++ [b]) (buffer ++ [b]).length = true) := by
              intro hc
              obtain ⟨h4, he⟩ := hc
              have hp := hprefix (buffer ++ [b]).length h4 (by
                rw [@List.length_append _ _ answers.reduceOption]
                omega)
              rw [isFrameEnd_iff (Nat.le_refl _), List.take_length] at he
              rw [Bool.eq_false_iff, ne_eq, isFrameEnd_iff (by simp),
                List.take_left] at hp
              exact hp he
            rw [if_neg hnot]
            simp only [List.length_cons] at hfuel
            exact ih fuel retry (buffer ++ [b]) _ s' (by omega) hretry hlen hrest hlast'
              hlong hend hprefix hnext

/-- A frame whose header needs no escaping is received whole, from a transport
that delivers its escaped bytes with up to four timeouts among them and may go on
with anything: nothing after the frame is taken. -/
theorem receiveData_frameWith {σ : Type} (env : Environment Op Op.Ans σ)
    {b₀ b₁ : UInt8} (h₀ : Plain b₀) (h₁ : Plain b₁) {payload : Bytes}
    (hpayload : payload ≠ []) {answers : List (Option UInt8)} {s s' : σ}
    (hlen : (addDuplicatedBytes (frameWith b₀ b₁ payload)).length ≤ INPUT_BUFFER_LENGTH)
    (hbytes : answers.reduceOption = addDuplicatedBytes (frameWith b₀ b₁ payload))
    (htimeouts : answers.count none < MAX_RETRY) (hlast : answers.getLast? ≠ some none)
    (hdel : Answers env .get s answers s') :
    run env Connector.receiveData s = (.ok (frameWith b₀ b₁ payload), s') := by
  have hlong : 4 < (addDuplicatedBytes (frameWith b₀ b₁ payload)).length := by
    rw [addDuplicatedBytes_frameWith, frameWith_length]
    have hpos := List.length_pos_of_ne_nil hpayload
    have hle : payload.length ≤ (stuff escapeMark payload).length := length_le_stuff payload
    omega
  have hfuel : answers.length ≤ LOOP_FUEL := by
    have hcount := List.length_eq_reduceOption_length_add_filter_none (l := answers)
    have hnone : (answers.filter Option.isNone).length = answers.count none := by
      rw [← List.countP_eq_length_filter, List.count]
      congr 1
      funext o
      cases o <;> rfl
    rw [hnone, hbytes] at hcount
    simp only [LOOP_FUEL, MAX_RETRY, INPUT_BUFFER_LENGTH] at *
    omega
  have hne : answers ≠ [] := by
    intro h
    obtain rfl := h
    rw [List.reduceOption_nil] at hbytes
    rw [← hbytes] at hlong
    simp at hlong
  have hloop := receiveLoop_delivery env answers LOOP_FUEL 0 [] s s' hfuel (by omega)
    (by rw [List.nil_append, hbytes]; exact hlen) hne hlast
    (by rw [List.nil_append, hbytes]; exact hlong)
    (by rw [List.nil_append, hbytes]; exact isFrameEnd_escaped h₁.1 payload)
    (by
      intro n hlo hhi
      rw [List.nil_append, hbytes] at hhi ⊢
      exact isFrameEnd_escaped_prefix h₁.1 payload (by omega) hhi)
    hdel
  rw [List.nil_append, hbytes] at hloop
  rw [Connector.receiveData, run_bind_ok env hloop]
  simp only [pure_eq, run_ret, fix_add_frameWith h₀ h₁]

/-- The escape codec, the end detection and the receive loop agree: an escaped
frame is received as it was, at its last byte and no earlier. -/
theorem receiveData_escaped {σ : Type} (env : Environment Op Op.Ans σ)
    (status : UInt8) (payload : Bytes) (answers : List (Option UInt8)) (s s' : σ)
    (hstatus : status ≠ 0x10 ∧ status ≠ 0x2B) (hpayload : payload ≠ [])
    (hlen : (addDuplicatedBytes (frameWith HEADER_START status payload)).length ≤ 1024)
    (hbytes : answers.reduceOption
      = addDuplicatedBytes (frameWith HEADER_START status payload))
    (htimeouts : answers.count none ≤ 4) (hlast : answers.getLast? ≠ some none)
    (hdel : Answers env .get s answers s') :
    run env Connector.receiveData s = (.ok (frameWith HEADER_START status payload), s') ∧
      (∀ n, 4 < n →
        n < (addDuplicatedBytes (frameWith HEADER_START status payload)).length →
        isFrameEnd (addDuplicatedBytes (frameWith HEADER_START status payload)) n = false) ∧
      isFrameEnd (addDuplicatedBytes (frameWith HEADER_START status payload))
        (addDuplicatedBytes (frameWith HEADER_START status payload)).length = true ∧
      fixDuplicatedBytes (addDuplicatedBytes (frameWith HEADER_START status payload))
        = frameWith HEADER_START status payload := by
  have h₀ : Plain HEADER_START := by decide
  refine ⟨?_, ?_, ?_, ?_⟩
  · exact receiveData_frameWith env h₀ hstatus hpayload hlen hbytes
      (by simp only [MAX_RETRY]; omega) hlast hdel
  · intro n hlo hhi
    exact isFrameEnd_escaped_prefix hstatus.1 payload (by omega) hhi
  · exact isFrameEnd_escaped hstatus.1 payload
  · exact fix_add_frameWith h₀ hstatus payload

/-- A link that has its answers written down beforehand. -/
def scripted : Environment Op Op.Ans (List (Option UInt8))
  | .get, [] => (none, [])
  | .get, a :: rest => (a, rest)
  | .write _, script => (none, script)
  | .openPort, script => (none, script)
  | .closePort, script => (none, script)
  | .sleep _, script => ((), script)
  | .mark _, script => ((), script)

theorem answers_scripted (answers rest : List (Option UInt8)) :
    Answers scripted .get (answers ++ rest) answers rest := by
  induction answers with
  | nil => exact .nil _
  | cons a answers ih => exact .cons rfl ih

/-- A payload full of look-alikes, two timeouts in its delivery and noise after it. -/
theorem receiveData_escaped_lookalikes :
    run scripted Connector.receiveData
        ([some 0x01, none, some 0x00, some 0x10, some 0x10, some 0x03, some 0x2B, none,
          some 0x18, some 0x18, some 0x10, some 0x10, some 0x10, some 0x03] ++
          [some 0x10, none, some 0x03])
      = (.ok [0x01, 0x00, 0x10, 0x03, 0x2B, 0x18, 0x10, 0x10, 0x03],
          [some 0x10, none, some 0x03]) :=
  (receiveData_escaped scripted 0x00 [0x10, 0x03, 0x2B, 0x18, 0x10] _ _ _ (by decide)
    (by decide) (by decide +kernel) (by decide +kernel) (by decide) (by decide)
    (answers_scripted _ _)).1

end HeatpumpGateway
