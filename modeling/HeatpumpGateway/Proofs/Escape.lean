import HeatpumpGateway.Model.Parser

/-!
# What the escaping guarantees

`add_duplicated_bytes`, `fix_duplicated_bytes` and `is_frame_end` were written
apart from each other; here each is read as an operation of `Stuffing` with the
marks of this protocol, and the library's facts carry over. A frame is written
`b₀ :: b₁ :: payload ++ FOOTER`: the two header bytes are sent as they are, so
whatever is said about them is a hypothesis on `b₀` and `b₁`.
-/

namespace HeatpumpGateway

open Stuffing

theorem escapeMark_eq : escapeMark = doubled 0x10 0x2B 0x18 := rfl

theorem escapeMark_escape : escapeMark ESCAPE = some ESCAPE := rfl

theorem escapeMark_ne_escape (x : UInt8) (hx : x ≠ ESCAPE) :
    escapeMark x ≠ some ESCAPE := by
  have h10 : x ≠ 0x10 := hx
  unfold escapeMark
  rw [if_neg h10]
  split <;> decide

/-- A byte that is neither of the two the escaping is about. -/
def Plain (b : UInt8) : Prop := b ≠ 0x10 ∧ b ≠ 0x2B

instance (b : UInt8) : Decidable (Plain b) := inferInstanceAs (Decidable (_ ∧ _))

theorem Plain.mark {b : UInt8} (h : Plain b) : escapeMark b = none := by
  rw [escapeMark, if_neg h.1, if_neg h.2]

/-! ## End of frame -/

theorem countEscapes_eq (buffer : Bytes) :
    ∀ n, n ≤ buffer.length → countEscapes buffer n = trailing ESCAPE (buffer.take n) := by
  intro n
  induction n with
  | zero => intro _; rw [countEscapes, List.take_zero, trailing_nil]
  | succ n ih =>
      intro hn
      have hlt : n < buffer.length := by omega
      rw [countEscapes, List.take_succ_eq_append_getElem hlt, trailing_concat,
        List.getElem?_eq_getElem hlt, ih (by omega)]
      simp only [Option.some.injEq]

/-- `is_frame_end` looks for the terminator `10 03` after an odd run. -/
theorem isFrameEnd_iff {buffer : Bytes} {n : Nat} (hn : n ≤ buffer.length) :
    isFrameEnd buffer n = true ↔ Ends ESCAPE END (buffer.take n) := by
  rcases Nat.lt_or_ge n 2 with hlt | hge
  · rw [isFrameEnd, if_pos (Or.inl hlt)]
    refine ⟨?_, ?_⟩
    · intro h
      cases h
    · intro hc
      obtain ⟨ys, hys, hodd⟩ := hc
      have hlen := congrArg List.length hys
      simp only [List.length_take, List.length_append, List.length_singleton] at hlen
      obtain rfl : ys = [] := List.eq_nil_of_length_eq_zero (by omega)
      simp at hodd
  · obtain ⟨m, rfl⟩ : ∃ m, n = m + 2 := ⟨n - 2, by omega⟩
    have h1 : m + 1 < buffer.length := by omega
    have h2 : m < buffer.length := by omega
    have htake := List.take_succ_eq_append_getElem h1
    have htake' := List.take_succ_eq_append_getElem h2
    rw [isFrameEnd, show m + 2 - 1 = m + 1 from rfl, show m + 2 - 2 = m from rfl,
      List.getElem?_eq_getElem h1, List.getElem?_eq_getElem h2, htake,
      ends_concat_iff, countEscapes_eq buffer (m + 1) (by omega)]
    simp only [ne_eq, Option.some.injEq]
    by_cases hend : buffer[m + 1] = END
    · by_cases hesc : buffer[m] = ESCAPE
      · rw [if_neg (by simp [hend, hesc])]
        simp [hend]
      · rw [if_pos (Or.inr (Or.inr hesc)), htake', trailing_concat, if_neg hesc]
        simp
    · rw [if_pos (Or.inr (Or.inl hend))]
      simp [hend]

/-! ## The codec on a frame -/

/-- A frame with the given header bytes and payload. -/
def frameWith (b₀ b₁ : UInt8) (payload : Bytes) : Bytes :=
  b₀ :: b₁ :: (payload ++ FOOTER)

@[simp] theorem frameWith_length (b₀ b₁ : UInt8) (payload : Bytes) :
    (frameWith b₀ b₁ payload).length = payload.length + 4 := by
  simp [frameWith, FOOTER]

theorem addDuplicatedBytes_split (b₀ b₁ : UInt8) (payload : Bytes) (x y : UInt8) :
    addDuplicatedBytes (b₀ :: b₁ :: (payload ++ [x, y]))
      = b₀ :: b₁ :: (stuff escapeMark payload ++ [x, y]) := by
  have hlen : (b₀ :: b₁ :: (payload ++ [x, y])).length - 2
      = (b₀ :: b₁ :: payload).length := by simp
  have hsplit : b₀ :: b₁ :: (payload ++ [x, y]) = (b₀ :: b₁ :: payload) ++ [x, y] := by simp
  rw [addDuplicatedBytes, hlen, hsplit, List.take_left, List.drop_left]
  simp

theorem addDuplicatedBytes_frameWith (b₀ b₁ : UInt8) (payload : Bytes) :
    addDuplicatedBytes (frameWith b₀ b₁ payload)
      = frameWith b₀ b₁ (stuff escapeMark payload) :=
  addDuplicatedBytes_split b₀ b₁ payload ESCAPE END

/-- A frame of four bytes or more, between its first two and its last two. -/
theorem exists_ends {frame : Bytes} (h : 4 ≤ frame.length) :
    ∃ b₀ b₁ mid x y, frame = b₀ :: b₁ :: (mid ++ [x, y]) := by
  obtain ⟨b₀, b₁, tail, rfl⟩ : ∃ b₀ b₁ tail, frame = b₀ :: b₁ :: tail := by
    match frame, h with
    | b₀ :: b₁ :: tail, _ => exact ⟨b₀, b₁, tail, rfl⟩
  have hdrop : (tail.drop (tail.length - 2)).length = 2 := by
    simp only [List.length_cons] at h
    rw [List.length_drop]
    omega
  obtain ⟨x, y, hxy⟩ := List.length_eq_two.mp hdrop
  exact ⟨b₀, b₁, tail.take (tail.length - 2), x, y, by
    rw [← hxy, List.take_append_drop]⟩

/-- What is sent determines the frame. -/
theorem addDuplicatedBytes_inj {f g : Bytes} (hf : 4 ≤ f.length) (hg : 4 ≤ g.length)
    (h : addDuplicatedBytes f = addDuplicatedBytes g) : f = g := by
  obtain ⟨a₀, a₁, mid, x, y, rfl⟩ := exists_ends hf
  obtain ⟨b₀, b₁, mid', x', y', rfl⟩ := exists_ends hg
  rw [addDuplicatedBytes_split, addDuplicatedBytes_split] at h
  simp only [List.cons.injEq] at h
  obtain ⟨rfl, rfl, htail⟩ := h
  obtain ⟨hmid, hend⟩ := List.append_inj' htail rfl
  have hback := congrArg (unstuff escapeMark) hmid
  rw [unstuff_stuff, unstuff_stuff] at hback
  rw [hback, hend]

/-- Two replacement passes are one scan. -/
theorem fixDuplicatedBytes_eq (data : Bytes) (h : 2 ≤ data.length) :
    fixDuplicatedBytes data
      = unstuff escapeMark (data.take (data.length - 2)) ++ FOOTER := by
  rw [fixDuplicatedBytes, if_neg (by omega)]
  simp only []
  rw [collapse_collapse (by decide) (by decide), escapeMark_eq]

/-- One scan from the left: `10 10` gives `10`, `2B 18` gives `2B`, any other byte is
copied. -/
def singlePass : Bytes → Bytes
  | x :: y :: rest =>
      if x = 0x10 ∧ y = 0x10 then 0x10 :: singlePass rest
      else if x = 0x2B ∧ y = 0x18 then 0x2B :: singlePass rest
      else x :: singlePass (y :: rest)
  | rest => rest

theorem escapeMark_some_iff {x y : UInt8} :
    escapeMark x = some y ↔ (x = 0x10 ∧ y = 0x10) ∨ (x = 0x2B ∧ y = 0x18) := by
  unfold escapeMark
  by_cases h10 : x = 0x10
  · subst h10
    simp [eq_comm]
  · by_cases h2B : x = 0x2B
    · subst h2B
      simp [eq_comm]
    · simp [h10, h2B]

/-- The pairs it replaces are the marked bytes with their marks. -/
theorem singlePass_eq (text : Bytes) : singlePass text = unstuff escapeMark text := by
  induction text using unstuff.induct escapeMark with
  | case1 x y rest hmark ih =>
      rw [unstuff_cons_marked hmark, ← ih]
      rcases escapeMark_some_iff.mp hmark with ⟨rfl, rfl⟩ | ⟨rfl, rfl⟩
      · rfl
      · rfl
  | case2 x y rest hmark ih =>
      obtain ⟨hten, hpair⟩ := not_or.mp (mt escapeMark_some_iff.mpr hmark)
      rw [unstuff, if_neg hmark, singlePass, if_neg hten, if_neg hpair, ih]
  | case3 text hshort =>
      cases text with
      | nil => rfl
      | cons x rest =>
          cases rest with
          | nil => rfl
          | cons y rest => exact absurd rfl (hshort x y rest)

/-- Both passes together are that scan, of any text, escaped or not. -/
theorem fixDuplicatedBytes_singlePass :
    (∀ body : Bytes, collapse 0x2B 0x18 (collapse 0x10 0x10 body) = singlePass body) ∧
      ∀ data : Bytes, fixDuplicatedBytes data =
        if data.length < 2 then data
        else singlePass (data.take (data.length - 2)) ++ FOOTER := by
  refine ⟨?_, ?_⟩
  · intro body
    rw [singlePass_eq, escapeMark_eq]
    exact collapse_collapse (by decide) (by decide) body
  · intro data
    split
    · next hshort => rw [fixDuplicatedBytes, if_pos hshort]
    · next hlong => rw [fixDuplicatedBytes_eq data (by omega), singlePass_eq]

theorem fixDuplicatedBytes_frameWith (b₀ b₁ : UInt8) (text : Bytes) :
    fixDuplicatedBytes (frameWith b₀ b₁ text)
      = unstuff escapeMark (b₀ :: b₁ :: text) ++ FOOTER := by
  rw [fixDuplicatedBytes_eq _ (by simp)]
  have hlen : (frameWith b₀ b₁ text).length - 2 = (b₀ :: b₁ :: text).length := by simp
  have hsplit : frameWith b₀ b₁ text = (b₀ :: b₁ :: text) ++ FOOTER := by
    simp [frameWith]
  rw [hlen, hsplit, List.take_left]

/-- De-escaping undoes escaping as long as the header needs none. -/
theorem fix_add_frameWith {b₀ b₁ : UInt8} (h₀ : Plain b₀) (h₁ : Plain b₁)
    (payload : Bytes) :
    fixDuplicatedBytes (addDuplicatedBytes (frameWith b₀ b₁ payload))
      = frameWith b₀ b₁ payload := by
  rw [addDuplicatedBytes_frameWith, fixDuplicatedBytes_frameWith,
    unstuff_cons_unmarked h₀.mark, unstuff_cons_unmarked h₁.mark, unstuff_stuff]
  rfl

theorem trailing_header {b₀ b₁ : UInt8} (h₁ : b₁ ≠ ESCAPE) :
    trailing ESCAPE [b₀, b₁] % 2 = 0 := by
  rw [show [b₀, b₁] = [b₀] ++ [b₁] from rfl, trailing_concat, if_neg h₁]

/-- The escaped frame ends where `is_frame_end` says it does. -/
theorem isFrameEnd_escaped {b₀ b₁ : UInt8} (h₁ : b₁ ≠ ESCAPE) (payload : Bytes) :
    isFrameEnd (addDuplicatedBytes (frameWith b₀ b₁ payload))
      (addDuplicatedBytes (frameWith b₀ b₁ payload)).length = true := by
  rw [isFrameEnd_iff (Nat.le_refl _), List.take_length, addDuplicatedBytes_frameWith]
  exact ends_stuff escapeMark_escape escapeMark_ne_escape (trailing_header h₁) payload

/-- It ends nowhere before. -/
theorem isFrameEnd_escaped_prefix {b₀ b₁ : UInt8} (h₁ : b₁ ≠ ESCAPE) (payload : Bytes)
    {n : Nat} (hlo : 2 < n)
    (hhi : n < (addDuplicatedBytes (frameWith b₀ b₁ payload)).length) :
    isFrameEnd (addDuplicatedBytes (frameWith b₀ b₁ payload)) n = false := by
  rw [addDuplicatedBytes_frameWith] at hhi ⊢
  have hnot := not_ends_prefix escapeMark_escape escapeMark_ne_escape
    (show END ≠ ESCAPE by decide) payload [b₀, b₁] n (trailing_header h₁) (by simpa using hlo)
  rw [show [b₀, b₁] ++ stuff escapeMark payload ++ [ESCAPE, END]
      = frameWith b₀ b₁ (stuff escapeMark payload) by simp [frameWith, FOOTER]] at hnot
  have hfalse := (not_congr (isFrameEnd_iff (Nat.le_of_lt hhi))).mpr (hnot hhi)
  simpa using hfalse

end HeatpumpGateway
