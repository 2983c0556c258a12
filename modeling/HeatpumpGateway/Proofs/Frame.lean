import HeatpumpGateway.Proofs.Escape

/-!
# What a header check guarantees

`verify_header` in terms of bytes. A frame it passes is at least five bytes long,
starts with `01` and a get or set byte, and carries the sum of everything but its
third byte and its last two. Nothing else is looked at: neither the command nor
the footer is.
-/

namespace HeatpumpGateway

/-- The low byte of a sum. -/
def byteSum (bytes : Bytes) : UInt8 := UInt8.ofNat ((bytes.map UInt8.toNat).sum % 256)

theorem checksumOf_footer (b₀ b₁ b₂ : UInt8) (rest : Bytes) (x y : UInt8) :
    checksumOf (b₀ :: b₁ :: b₂ :: (rest ++ [x, y])) = byteSum (b₀ :: b₁ :: rest) := by
  have hlen : (b₀ :: b₁ :: b₂ :: (rest ++ [x, y])).length - 2
      = (b₀ :: b₁ :: b₂ :: rest).length := by simp
  rw [checksumOf, hlen, show b₀ :: b₁ :: b₂ :: (rest ++ [x, y])
    = (b₀ :: b₁ :: b₂ :: rest) ++ [x, y] by simp, List.take_left]
  rfl

/-- Every frame of five bytes or more, split at its third byte and its last two. -/
theorem exists_split {response : Bytes} (h : 5 ≤ response.length) :
    ∃ b₀ b₁ b₂ rest x y, response = b₀ :: b₁ :: b₂ :: (rest ++ [x, y]) := by
  obtain ⟨b₀, b₁, mid, x, y, rfl⟩ := exists_ends (Nat.le_of_succ_le h)
  cases mid with
  | nil => simp at h
  | cons b₂ rest => exact ⟨b₀, b₁, b₂, rest, x, y, rfl⟩

theorem calculateChecksum_eq {data : Bytes} (h : 5 ≤ data.length) :
    calculateChecksum data = .ok (checksumOf data) := by
  rw [calculateChecksum, if_neg (by omega)]

/-- `verify_header` raises nothing but `ProtocolError`s. -/
theorem verifyHeader_error {response : Bytes} {e : Exc}
    (h : verifyHeader response = .error e) : e.isProtocolError = true := by
  match response with
  | [] | [_] | [_, _] | [_, _, _] => cases h; rfl
  | b₀ :: b₁ :: b₂ :: b₃ :: tail =>
      rw [verifyHeader] at h
      split at h
      · cases h
        rfl
      · split at h
        · rw [checkKnownErrors] at h
          cases hk : KNOWN_ERRORS.get? (b₀, b₁) with
          | some text =>
              rw [hk] at h
              cases h
              rfl
          | none =>
              rw [hk] at h
              cases h
              rfl
        · rw [calculateChecksum] at h
          split at h
          · cases h
            rfl
          · simp only [bind, Except.bind] at h
            split at h
            · cases h
              rfl
            · cases h

theorem headerCheck_iff {response : Bytes} :
    headerCheck response = true ↔ verifyHeader response = .ok () := by
  rw [headerCheck]
  cases verifyHeader response with
  | error e => simp
  | ok u => simp

theorem headerCheck_short {response : Bytes} (h : response.length < 5) :
    headerCheck response = false := by
  match response with
  | [] | [_] | [_, _] | [_, _, _] => rfl
  | [b₀, b₁, b₂, b₃] =>
      rw [headerCheck]
      split
      · next hok =>
          rw [verifyHeader] at hok
          split at hok
          · cases hok
          · split at hok
            · rw [checkKnownErrors] at hok
              cases hk : KNOWN_ERRORS.get? (b₀, b₁) <;> rw [hk] at hok <;> cases hok
            · cases hok
      · rfl
  | _ :: _ :: _ :: _ :: _ :: _ =>
      simp only [List.length_cons] at h
      omega

theorem headerCheck_split_iff {b₀ b₁ b₂ x y : UInt8} {rest : Bytes} :
    headerCheck (b₀ :: b₁ :: b₂ :: (rest ++ [x, y])) = true ↔
      b₀ = HEADER_START ∧ (b₁ = GET ∨ b₁ = SET) ∧ b₂ = byteSum (b₀ :: b₁ :: rest) := by
  obtain ⟨b₃, tail, htail⟩ : ∃ b₃ tail, rest ++ [x, y] = b₃ :: tail :=
    List.exists_cons_of_ne_nil (by simp)
  have hsum := checksumOf_footer b₀ b₁ b₂ rest x y
  have hlen : 5 ≤ (b₀ :: b₁ :: b₂ :: (rest ++ [x, y])).length := by simp
  have hcalc := calculateChecksum_eq hlen
  rw [hsum] at hcalc
  rw [htail] at hcalc ⊢
  rw [headerCheck, verifyHeader]
  by_cases h₀ : b₀ = HEADER_START
  · rw [if_neg (by simp [h₀])]
    by_cases h₁ : b₁ = GET ∨ b₁ = SET
    · rw [if_neg (by tauto), hcalc]
      simp only [bind, Except.bind]
      by_cases h₂ : b₂ = byteSum (b₀ :: b₁ :: rest)
      · rw [if_neg (by simp [h₂])]
        simp [h₀, h₁, h₂]
      · rw [if_pos h₂]
        simp [h₂]
    · rw [if_pos (by tauto), checkKnownErrors]
      cases hk : KNOWN_ERRORS.get? (b₀, b₁) <;> simp [bind, Except.bind, h₁]
  · rw [if_pos h₀]
    simp [h₀]

/-- The check of a frame that was put together with a footer. -/
theorem headerCheck_footer_iff {body : Bytes} :
    headerCheck (body ++ FOOTER) = true ↔
      ∃ b₁ rest, (b₁ = GET ∨ b₁ = SET) ∧
        body = HEADER_START :: b₁ :: byteSum (HEADER_START :: b₁ :: rest) :: rest := by
  match body with
  | [] | [_] | [_, _] =>
      rw [headerCheck_short (by simp [FOOTER])]
      simp
  | b₀ :: b₁ :: b₂ :: rest =>
      rw [show b₀ :: b₁ :: b₂ :: rest ++ FOOTER = b₀ :: b₁ :: b₂ :: (rest ++ [ESCAPE, END])
        from rfl, headerCheck_split_iff]
      refine ⟨?_, ?_⟩
      · intro h
        obtain ⟨rfl, h₁, rfl⟩ := h
        exact ⟨b₁, rest, h₁, rfl⟩
      · intro hc
        obtain ⟨b₁', rest', h₁, heq⟩ := hc
        simp only [List.cons.injEq] at heq
        obtain ⟨rfl, rfl, rfl, rfl⟩ := heq
        exact ⟨rfl, h₁, rfl⟩

/-- A frame that carries nothing but a command. -/
def bareFrame (getOrSet : UInt8) (command : Bytes) : Bytes :=
  frameWith HEADER_START getOrSet (byteSum (HEADER_START :: getOrSet :: command) :: command)

theorem createRequestMessage_eq (command : Bytes) (getOrSet : UInt8) :
    createRequestMessage command getOrSet = addDuplicatedBytes (bareFrame getOrSet command) := by
  have hsum := checksumOf_footer HEADER_START getOrSet 0x00 command ESCAPE END
  show addDuplicatedBytes ((HEADER_START :: getOrSet :: 0x00 :: (command ++ [ESCAPE, END])).set 2
    (checksumOf (HEADER_START :: getOrSet :: 0x00 :: (command ++ [ESCAPE, END])))) = _
  rw [hsum]
  rfl

theorem createRequestMessage_ne_escape (command : Bytes) (getOrSet : UInt8) :
    createRequestMessage command getOrSet ≠ [ESCAPE] := by
  rw [createRequestMessage_eq, bareFrame, addDuplicatedBytes_frameWith]
  simp [frameWith]

end HeatpumpGateway
