import HeatpumpGateway.Proofs.Truncation
import HeatpumpGateway.Proofs.Registers

/-!
# Single bytes that arrive changed

The checksum adds bytes up, and the bytes it adds up are those that are left when
the escapes have been taken out. A byte that arrives changed can change their number.
Half of an escape pair that becomes `00` leaves the other half standing, and a zero
weighs nothing; `2B` before an `18` swallows it, and `13` is what `2B` then lacks;
and an `10` that is no longer escaped may end the frame at a `03` of its data. Nothing
else gets through (`corrupted_byte_detected`).
-/

namespace HeatpumpGateway

open Dialogue Stuffing

/-! ## Receiving what was sent and then nothing -/

/-- The bytes up to the first end of a frame, all of them when there is none. -/
def listen (buffer : Bytes) : Bytes → Bytes
  | [] => buffer
  | b :: bytes =>
      if (buffer ++ [b]).length > 4 ∧ isFrameEnd (buffer ++ [b]) (buffer ++ [b]).length then
        buffer ++ [b]
      else listen (buffer ++ [b]) bytes

/-- A frame ends somewhere before the end of the text. -/
def EndsEarly (text : Bytes) : Prop :=
  ∃ n, 4 < n ∧ n < text.length ∧ isFrameEnd (text.take n) n = true

theorem listen_eq (bytes : Bytes) : ∀ {buffer : Bytes}, ¬ EndsEarly (buffer ++ bytes) →
    listen buffer bytes = buffer ++ bytes := by
  induction bytes with
  | nil => intro buffer _; rw [listen, List.append_nil]
  | cons b bytes ih =>
      intro buffer h
      have hsplit : buffer ++ b :: bytes = (buffer ++ [b]) ++ bytes := by simp
      rw [listen]
      split
      · next hend =>
          match bytes with
          | [] => rfl
          | c :: bytes =>
              refine absurd ⟨(buffer ++ [b]).length, hend.1, ?_, ?_⟩ h
              · simp
              · rw [hsplit, List.take_left]
                exact hend.2
      · rw [hsplit] at h ⊢
        exact ih h

/-- The receive loop on a line that carries some bytes and falls silent. -/
theorem receiveLoop_listen (fuel : Nat) :
    ∀ {retry silence : Nat} {buffer bytes : Bytes} {answers : List (Option UInt8)}
      {r : Except Exc Bytes},
      (MAX_RETRY - retry) + (INPUT_BUFFER_LENGTH + 1 - buffer.length) ≤ fuel →
      (buffer ++ bytes).length ≤ INPUT_BUFFER_LENGTH → (bytes = [] ∨ retry < MAX_RETRY) →
      answers <+: bytes.map some ++ List.replicate silence none →
      Path (Connector.receiveLoop fuel retry buffer) (gets answers) r →
      r = .ok (listen buffer bytes) := by
  induction fuel with
  | zero =>
      intro retry silence buffer bytes answers r hfuel hlen _ _ _
      rw [List.length_append] at hlen
      omega
  | succ fuel ih =>
      intro retry silence buffer bytes answers r hfuel hlen hheard hanswers h
      rw [Connector.receiveLoop] at h
      split at h
      · next hretry =>
          obtain ⟨a, tr, htr, hrest⟩ := path_get.mp h
          cases answers with
          | nil => cases htr
          | cons a' answers =>
              rw [gets_cons, List.cons.injEq] at htr
              obtain ⟨heq, rfl⟩ := htr
              cases heq
              cases bytes with
              | nil =>
                  cases silence with
                  | zero => cases List.prefix_nil.mp hanswers
                  | succ silence =>
                      rw [List.map_nil, List.nil_append, List.replicate_succ] at hanswers
                      obtain ⟨rfl, hlater⟩ := List.cons_prefix_cons.mp hanswers
                      exact @ih _ silence _ _ _ _ (by omega) hlen (.inl rfl) hlater hrest
              | cons b bytes =>
                  obtain ⟨rfl, hlater⟩ := List.cons_prefix_cons.mp hanswers
                  rw [List.length_append, List.length_cons] at hlen
                  simp only [ge_iff_le,
                    if_neg (show ¬ INPUT_BUFFER_LENGTH ≤ buffer.length by omega)] at hrest
                  rw [listen]
                  split at hrest
                  · next hend =>
                      rw [if_pos hend]
                      exact (Path.ret_iff.mp hrest).2
                  · next hend =>
                      rw [if_neg hend]
                      refine ih ?_ ?_ (.inr hretry) hlater hrest
                      · rw [List.length_append, List.length_singleton]
                        omega
                      · rw [List.length_append, List.length_append, List.length_singleton]
                        omega
      · next hretry =>
          obtain rfl := hheard.resolve_right hretry
          exact (Path.ret_iff.mp h).2

theorem acknowledge_listen {bytes reply : Bytes} (hlen : bytes.length ≤ INPUT_BUFFER_LENGTH)
    {answers : List (Option UInt8)} {silence : Nat}
    (hanswers : answers <+: bytes.map some ++ List.replicate silence none)
    (h : Path Connector.acknowledgeAndReceive (acked :: gets answers) (.ok reply)) :
    reply = fixDuplicatedBytes (listen [] bytes) := by
  have hloop : ∀ {r : Except Exc Bytes}, Path Connector.receiveData (gets answers) r →
      r = .ok (fixDuplicatedBytes (listen [] bytes)) := by
    intro r hdata
    rw [Connector.receiveData] at hdata
    have hlisten : ∀ {r : Except Exc Bytes},
        Path (Connector.receiveLoop LOOP_FUEL 0 []) (gets answers) r →
        r = .ok (listen [] bytes) :=
      receiveLoop_listen LOOP_FUEL (by decide) hlen (.inr (by decide)) hanswers
    rcases Path.bind_iff.mp hdata with ⟨e, rfl, hp⟩ | ⟨buffer, tr₁, tr₂, htr, hp, hret⟩
    · cases hlisten hp
    · obtain ⟨rfl, rfl⟩ := Path.ret_iff.mp hret
      rw [List.append_nil] at htr
      subst htr
      cases hlisten hp
      rfl
  rw [Connector.acknowledgeAndReceive] at h
  rcases Path.handle_iff.mp h with ⟨reply', hr, hbody⟩ | ⟨e, tr₁, tr₂, htr, hbody, hret⟩
  · cases hr
    rcases path_write.mp hbody with ⟨_, _, hr⟩ | ⟨tr, htr, hdata⟩
    · cases hr
    · cases htr
      exact Except.ok.inj (hloop hdata)
  · obtain ⟨rfl, _⟩ := Path.ret_iff.mp hret
    rw [List.append_nil] at htr
    subst htr
    rcases path_write.mp hbody with ⟨_, htr, _⟩ | ⟨tr, htr, hdata⟩
    · cases htr
    · cases htr
      cases hloop hdata

/-- What `get_data` makes of the answers to its acknowledge. -/
theorem getData_listen {message bytes reply : Bytes} (hm : message ≠ [ESCAPE])
    (hlen : bytes.length ≤ INPUT_BUFFER_LENGTH) {before : Trace} {answers : List (Option UInt8)}
    {silence : Nat} (hanswers : answers <+: bytes.map some ++ List.replicate silence none)
    (h : Path (Connector.getData message)
      (before ++ acked :: (gets answers ++ [⟨.mark (.gotData reply), ()⟩])) (.ok reply)) :
    reply = fixDuplicatedBytes (listen [] bytes) := by
  rw [Connector.getData] at h
  obtain ⟨tr₁, htr, h₁⟩ := path_mark.mp h
  obtain ⟨_, tr₂, tr₃, rfl, hstart, h₂⟩ := Path.bind_ok h₁
  obtain ⟨established, tr₄, tr₅, rfl, hestablish, h₃⟩ := Path.bind_ok h₂
  obtain ⟨reply', tr₆, tr₇, rfl, hreceive, h₄⟩ := Path.bind_ok h₃
  obtain ⟨tr₈, rfl, h₅⟩ := path_mark.mp h₄
  obtain ⟨rfl, hr⟩ := Path.ret_iff.mp h₅
  cases hr
  -- The acknowledge is in the last part, as nothing before it writes `10` alone.
  have hpre : acked ∉ (⟨.mark (.getData message), ()⟩ :: (tr₂ ++ tr₄) : Trace) := by
    intro hin
    rcases List.mem_cons.mp hin with hin | hin
    · cases hin
    rcases List.mem_append.mp hin with hin | hin
    · exact hm ((within_startCommunication.path hstart _ hin).2 rfl)
    · exact hm (((within_establishRequest message).path hestablish _ hin).2 rfl)
  have hshape : before ++ acked :: gets answers
      = (⟨.mark (.getData message), ()⟩ :: (tr₂ ++ tr₄)) ++ tr₆ := by
    have hassoc : (before ++ acked :: gets answers) ++ [⟨.mark (.gotData reply), ()⟩]
        = ((⟨.mark (.getData message), ()⟩ :: (tr₂ ++ tr₄)) ++ tr₆)
          ++ [⟨.mark (.gotData reply), ()⟩] := by simpa using htr
    exact (concat_eq_concat hassoc).1
  have hwithin : acked ∈ tr₆ := by
    have hin : acked ∈ before ++ acked :: gets answers := by simp
    rw [hshape] at hin
    exact (List.mem_append.mp hin).resolve_left hpre
  cases established with
  | false =>
      obtain ⟨rfl, _⟩ := Path.ret_iff.mp hreceive
      cases hwithin
  | true =>
      rcases acknowledgeAndReceive_path hreceive with ⟨e, rfl, _⟩ | ⟨answers', rfl, _⟩
      · cases List.mem_singleton.mp hwithin
      · have hquiet : ∀ as : List (Option UInt8), acked ∉ gets as := by
          intro as hin
          cases isWrite_of_mem_gets hin
        obtain ⟨_, _, heq⟩ :=
          (List.append_cons_inj_of_notMem hpre (hquiet answers')).mp hshape.symm
        rw [heq] at hreceive
        exact acknowledge_listen hlen hanswers hreceive

/-! ## What is read of a changed byte -/

/-- A byte before an escaped text stays by itself, unless it is a `2B` before an `18`. -/
theorem unstuff_cons_stuff (b : UInt8) (post : Bytes) :
    unstuff escapeMark (b :: stuff escapeMark post)
      = if b = 0x2B ∧ post.head? = some 0x18 then b :: post.tail else b :: post := by
  by_cases hescape : b = 0x10
  · subst hescape
    rw [if_neg (by simp)]
    induction post with
    | nil => rfl
    | cons y post ih =>
        by_cases hy : y = 0x10
        · subst hy
          show unstuff escapeMark (0x10 :: 0x10 :: 0x10 :: stuff escapeMark post) = _
          rw [unstuff_cons_marked (show escapeMark 0x10 = some 0x10 from rfl), ih]
        · have hunit : unstuff escapeMark (0x10 :: stuff escapeMark (y :: post))
              = 0x10 :: unstuff escapeMark (stuff escapeMark (y :: post)) := by
            rw [stuff_cons, unstuff, if_neg (by simpa [escapeMark] using Ne.symm hy)]
          rw [hunit, unstuff_stuff]
  by_cases hswallow : b = 0x2B
  · subst hswallow
    cases post with
    | nil => rfl
    | cons y post =>
        by_cases hy : y = 0x18
        · subst hy
          rw [if_pos ⟨rfl, rfl⟩]
          show unstuff escapeMark (0x2B :: 0x18 :: stuff escapeMark post) = _
          rw [unstuff_cons_marked (show escapeMark 0x2B = some 0x18 from rfl), unstuff_stuff]
          rfl
        · rw [if_neg (by simpa using hy), stuff_cons, unstuff,
            if_neg (by simpa [escapeMark] using Ne.symm hy), ← stuff_cons, unstuff_stuff]
  · rw [if_neg fun h => hswallow h.1, unstuff_cons_unmarked (Plain.mark ⟨hescape, hswallow⟩),
      unstuff_stuff]

theorem escapeMark_eq_some {x m : UInt8} (h : escapeMark x = some m) :
    (x = 0x10 ∧ m = 0x10) ∨ (x = 0x2B ∧ m = 0x18) := by
  rw [escapeMark] at h
  split at h
  · next hx =>
      cases h
      exact .inl ⟨hx, rfl⟩
  · split at h
    · next hx =>
        cases h
        exact .inr ⟨hx, rfl⟩
    · cases h

section changed

variable {pre post : Bytes} {x m b : UInt8}

/-- A symbol that needed no mark is another one, and may swallow the next. -/
theorem unstuff_set_plain (hx : escapeMark x = none) :
    unstuff escapeMark ((stuff escapeMark (pre ++ x :: post)).set (stuff escapeMark pre).length b)
      = pre ++ if b = 0x2B ∧ post.head? = some 0x18 then b :: post.tail else b :: post := by
  rw [stuff_append, List.set_append_right _ _ (Nat.le_refl _), Nat.sub_self, stuff_cons, hx,
    Option.toList_none, List.nil_append, List.set_cons_zero, unstuff_stuff_append,
    unstuff_cons_stuff]

/-- The mark of a symbol that is changed stands for itself. -/
theorem unstuff_set_symbol (hx : escapeMark x = some m) (hb : b ≠ x) :
    unstuff escapeMark ((stuff escapeMark (pre ++ x :: post)).set (stuff escapeMark pre).length b)
      = pre ++ b :: m :: post := by
  have hapart : escapeMark b ≠ some m := by
    intro hc
    rcases escapeMark_eq_some hx with ⟨rfl, rfl⟩ | ⟨rfl, rfl⟩ <;>
      rcases escapeMark_eq_some hc with ⟨rfl, h⟩ | ⟨rfl, h⟩
    · exact hb rfl
    · cases h
    · cases h
    · exact hb rfl
  have hm : m ≠ 0x2B := by
    rcases escapeMark_eq_some hx with ⟨_, rfl⟩ | ⟨_, rfl⟩ <;> decide
  rw [stuff_append, List.set_append_right _ _ (Nat.le_refl _), Nat.sub_self, stuff_cons, hx,
    Option.toList_some, List.singleton_append, List.set_cons_zero, unstuff_stuff_append, unstuff,
    if_neg hapart, unstuff_cons_stuff, if_neg fun h => hm h.1]

/-- Without its mark the symbol stands for itself, and what came in its mark's place too. -/
theorem unstuff_set_mark (hx : escapeMark x = some m) (hb : b ≠ m) :
    unstuff escapeMark
        ((stuff escapeMark (pre ++ x :: post)).set ((stuff escapeMark pre).length + 1) b)
      = pre ++ x :: if b = 0x2B ∧ post.head? = some 0x18 then b :: post.tail else b :: post := by
  rw [stuff_append, List.set_append_right _ _ (by omega), Nat.add_sub_cancel_left, stuff_cons, hx,
    Option.toList_some, List.singleton_append, List.set_cons_succ, List.set_cons_zero,
    unstuff_stuff_append, unstuff, if_neg (by rw [hx]; simpa using Ne.symm hb),
    unstuff_cons_stuff]

end changed

/-! ## The checksum -/

theorem byteSum_cons (x : UInt8) (xs : Bytes) : byteSum (x :: xs) = x + byteSum xs := by
  rw [byteSum, byteSum, List.map_cons, List.sum_cons]
  apply UInt8.toNat_inj.mp
  simp

theorem byteSum_append (xs ys : Bytes) : byteSum (xs ++ ys) = byteSum xs + byteSum ys := by
  induction xs with
  | nil => simp [byteSum]
  | cons x xs ih => rw [List.cons_append, byteSum_cons, byteSum_cons, ih, UInt8.add_assoc]

/-- A payload that begins with the checksum of the rest, in a frame that answers a read. -/
def Balanced : Bytes → Prop
  | [] => False
  | c :: rest => c = 1 + byteSum rest

theorem byteSum_header (rest : Bytes) :
    byteSum (HEADER_START :: GET :: rest) = 1 + byteSum rest := by
  rw [byteSum_cons, byteSum_cons, GET, UInt8.zero_add]
  rfl

theorem headerCheck_get_iff {payload : Bytes} :
    headerCheck (frameWith HEADER_START GET payload) = true ↔ Balanced payload := by
  match payload with
  | [] => exact iff_of_false (by decide) id
  | c :: rest =>
      rw [show frameWith HEADER_START GET (c :: rest)
        = HEADER_START :: GET :: c :: (rest ++ [ESCAPE, END]) from rfl, headerCheck_split_iff,
        byteSum_header, Balanced]
      simp

/-- Behind the checksum only the sum counts. -/
theorem balanced_append_iff {pre ys zs : Bytes} (hpre : pre ≠ []) (h : Balanced (pre ++ ys)) :
    Balanced (pre ++ zs) ↔ byteSum zs = byteSum ys := by
  match pre, hpre with
  | c :: pre, _ =>
      rw [List.cons_append, Balanced, byteSum_append] at h ⊢
      rw [h, ← UInt8.add_assoc, ← UInt8.add_assoc, UInt8.add_right_inj]
      exact eq_comm

/-! ## What goes unnoticed -/

/-- The changes of one byte of an escaped payload that leave its checksum right: the
payload, the place on the wire and the byte that arrives there. The sums are those of
the bytes that are read more or less, so they are others in the checksum's own place. -/
inductive Disguised : Bytes → Nat → UInt8 → Prop
  | second {x m : UInt8} (pre post : Bytes) : escapeMark x = some m →
      Disguised (pre ++ x :: post) (3 + (stuff escapeMark pre).length) 0x00
  | first (pre post : Bytes) : pre ≠ [] →
      Disguised (pre ++ 0x10 :: post) (2 + (stuff escapeMark pre).length) 0x00
  | swallowing (pre post : Bytes) : pre ≠ [] →
      Disguised (pre ++ 0x13 :: 0x18 :: post) (2 + (stuff escapeMark pre).length) 0x2B
  | releasing (pre post : Bytes) : pre ≠ [] →
      Disguised (pre ++ 0x2B :: post) (2 + (stuff escapeMark pre).length) 0x13
  | firstSum (post : Bytes) : Disguised (0x10 :: post) 2 0x20
  | swallowingSum (post : Bytes) : Disguised (0x43 :: 0x18 :: post) 2 0x2B
  | releasingSum (post : Bytes) : Disguised (0x2B :: post) 2 0x43

theorem head_eq_cons {post : Bytes} {y : UInt8} (h : post.head? = some y) :
    post = y :: post.tail := by
  cases post with
  | nil => cases h
  | cons z post =>
      cases h
      rfl

/-- Another symbol is noticed unless it swallows one that makes up for it. -/
theorem balanced_plain {pre post : Bytes} {x b : UInt8} (hb : b ≠ x)
    (h : Balanced (pre ++ x :: post))
    (hread : Balanced (pre ++ if b = 0x2B ∧ post.head? = some 0x18 then b :: post.tail
      else b :: post)) :
    Disguised (pre ++ x :: post) (2 + (stuff escapeMark pre).length) b := by
  split at hread
  · next hswallow =>
      obtain ⟨rfl, hhead⟩ := hswallow
      rw [head_eq_cons hhead] at h ⊢
      by_cases hpre : pre = []
      · subst hpre
        rw [List.nil_append, Balanced, byteSum_cons] at h
        rw [List.nil_append, Balanced] at hread
        obtain rfl : x = 0x43 := by grind
        exact .swallowingSum _
      · rw [balanced_append_iff hpre h, byteSum_cons, byteSum_cons, byteSum_cons] at hread
        obtain rfl : x = 0x13 := by grind
        exact .swallowing pre _ hpre
  · exfalso
    by_cases hpre : pre = []
    · subst hpre
      rw [List.nil_append, Balanced] at h hread
      exact hb (hread.trans h.symm)
    · rw [balanced_append_iff hpre h, byteSum_cons, byteSum_cons, UInt8.add_left_inj] at hread
      exact hb hread

/-- A byte that loses its mark is noticed unless it weighs as much as the two did. -/
theorem balanced_symbol {pre post : Bytes} {x m b : UInt8} (hx : escapeMark x = some m)
    (h : Balanced (pre ++ x :: post)) (hread : Balanced (pre ++ b :: m :: post)) :
    Disguised (pre ++ x :: post) (2 + (stuff escapeMark pre).length) b := by
  by_cases hpre : pre = []
  · subst hpre
    rw [List.nil_append, Balanced] at h
    rw [List.nil_append, Balanced, byteSum_cons] at hread
    rcases escapeMark_eq_some hx with ⟨rfl, rfl⟩ | ⟨rfl, rfl⟩
    · obtain rfl : b = 0x20 := by grind
      exact .firstSum post
    · obtain rfl : b = 0x43 := by grind
      exact .releasingSum post
  · rw [balanced_append_iff hpre h, byteSum_cons, byteSum_cons, byteSum_cons] at hread
    rcases escapeMark_eq_some hx with ⟨rfl, rfl⟩ | ⟨rfl, rfl⟩
    · obtain rfl : b = 0x00 := by grind
      exact .first pre post hpre
    · obtain rfl : b = 0x13 := by grind
      exact .releasing pre post hpre

/-- What comes in the place of a mark is noticed unless it weighs nothing. -/
theorem balanced_mark {pre post : Bytes} {x m b : UInt8} (hx : escapeMark x = some m)
    (h : Balanced (pre ++ x :: post))
    (hread : Balanced (pre ++ x :: if b = 0x2B ∧ post.head? = some 0x18 then b :: post.tail
      else b :: post)) :
    Disguised (pre ++ x :: post) (3 + (stuff escapeMark pre).length) b := by
  have hweight : ∀ rest, Balanced (pre ++ x :: rest) → byteSum rest = byteSum post := by
    intro rest hbalanced
    by_cases hpre : pre = []
    · subst hpre
      rw [List.nil_append, Balanced] at h hbalanced
      grind
    · rw [balanced_append_iff hpre h, byteSum_cons, byteSum_cons] at hbalanced
      grind
  split at hread
  · next hswallow =>
      obtain ⟨rfl, hhead⟩ := hswallow
      have hsum := hweight _ hread
      rw [head_eq_cons hhead, byteSum_cons, byteSum_cons, List.tail_cons] at hsum
      exfalso
      grind
  · have hsum := hweight _ hread
    rw [byteSum_cons] at hsum
    obtain rfl : b = 0x00 := by grind
    exact .second pre post hx

/-- Each of these changes is read as another payload whose checksum is right. -/
theorem Disguised.balanced {payload : Bytes} {i : Nat} {b : UInt8} (hd : Disguised payload i b)
    (h : Balanced payload) :
    ∃ j, i = 2 + j ∧ j < (stuff escapeMark payload).length ∧
      Balanced (unstuff escapeMark ((stuff escapeMark payload).set j b)) ∧
      unstuff escapeMark ((stuff escapeMark payload).set j b) ≠ payload := by
  have hplace : ∀ (pre : Bytes) (x : UInt8) (post : Bytes),
      (stuff escapeMark pre).length + (escapeMark x).toList.length
        < (stuff escapeMark (pre ++ x :: post)).length := by
    intro pre x post
    rw [stuff_append, stuff_cons, List.length_append, List.length_cons, List.length_append]
    omega
  cases hd with
  | @second x m pre post hx =>
      have hlt := hplace pre x post
      have hb : (0x00 : UInt8) ≠ m := by
        rcases escapeMark_eq_some hx with ⟨_, rfl⟩ | ⟨_, rfl⟩ <;> decide
      rw [hx, Option.toList_some, List.length_singleton] at hlt
      refine ⟨(stuff escapeMark pre).length + 1, by omega, hlt, ?_⟩
      rw [unstuff_set_mark hx hb, if_neg fun hc => by cases hc.1]
      refine ⟨?_, by simp⟩
      by_cases hpre : pre = []
      · subst hpre
        rw [List.nil_append, Balanced] at h ⊢
        rw [byteSum_cons, h, UInt8.zero_add]
      · rw [balanced_append_iff hpre h]
        simp only [byteSum_cons, UInt8.zero_add]
  | first pre post hpre =>
      have hlt := hplace pre 0x10 post
      refine ⟨_, rfl, by omega, ?_⟩
      rw [@unstuff_set_symbol pre post 0x10 0x10 0x00 rfl (by decide)]
      refine ⟨(balanced_append_iff hpre h).mpr ?_, by simp⟩
      rw [byteSum_cons, UInt8.zero_add]
  | swallowing pre post hpre =>
      have hlt := hplace pre 0x13 (0x18 :: post)
      refine ⟨_, rfl, by omega, ?_⟩
      rw [unstuff_set_plain rfl, if_pos ⟨rfl, rfl⟩]
      refine ⟨(balanced_append_iff hpre h).mpr ?_, by simp⟩
      simp only [byteSum_cons, List.tail_cons, ← UInt8.add_assoc]
      rfl
  | releasing pre post hpre =>
      have hlt := hplace pre 0x2B post
      refine ⟨_, rfl, by omega, ?_⟩
      rw [@unstuff_set_symbol pre post 0x2B 0x18 0x13 rfl (by decide)]
      refine ⟨(balanced_append_iff hpre h).mpr ?_, by simp⟩
      simp only [byteSum_cons, ← UInt8.add_assoc]
      rfl
  | firstSum post =>
      have hlt := hplace [] 0x10 post
      refine ⟨0, rfl, by simpa using Nat.zero_lt_of_lt hlt, ?_⟩
      have hread := @unstuff_set_symbol [] post 0x10 0x10 0x20 rfl (by decide)
      rw [List.nil_append, List.nil_append, stuff_nil, List.length_nil] at hread
      rw [hread]
      refine ⟨?_, by simp⟩
      rw [Balanced] at h ⊢
      rw [byteSum_cons]
      grind
  | swallowingSum post =>
      have hlt := hplace [] 0x43 (0x18 :: post)
      refine ⟨0, rfl, by simpa using Nat.zero_lt_of_lt hlt, ?_⟩
      have hread := @unstuff_set_plain [] (0x18 :: post) 0x43 0x2B rfl
      rw [List.nil_append, List.nil_append, stuff_nil, List.length_nil, if_pos ⟨rfl, rfl⟩] at hread
      rw [hread]
      refine ⟨?_, by simp⟩
      rw [Balanced, byteSum_cons] at h
      rw [Balanced, List.tail_cons]
      grind
  | releasingSum post =>
      have hlt := hplace [] 0x2B post
      refine ⟨0, rfl, by simpa using Nat.zero_lt_of_lt hlt, ?_⟩
      have hread := @unstuff_set_symbol [] post 0x2B 0x18 0x43 rfl (by decide)
      rw [List.nil_append, List.nil_append, stuff_nil, List.length_nil] at hread
      rw [hread]
      refine ⟨?_, by simp⟩
      rw [Balanced] at h ⊢
      rw [byteSum_cons]
      grind

/-- A change in the payload that is not noticed is one of these. -/
theorem disguised_of_balanced {payload : Bytes} {j : Nat} {b : UInt8} (h : Balanced payload)
    (hj : j < (stuff escapeMark payload).length) (hb : (stuff escapeMark payload)[j]? ≠ some b)
    (hread : Balanced (unstuff escapeMark ((stuff escapeMark payload).set j b))) :
    Disguised payload (2 + j) b := by
  obtain ⟨pre, x, post, rfl, rfl | ⟨m, hx, rfl⟩⟩ := stuff_place payload hj
  · have hne : b ≠ x := by
      intro hc
      refine hb ?_
      rw [stuff_append, stuff_cons, List.getElem?_append_right (Nat.le_refl _), Nat.sub_self, hc]
      rfl
    cases hx : escapeMark x with
    | none =>
        rw [unstuff_set_plain hx] at hread
        exact balanced_plain hne h hread
    | some m =>
        rw [unstuff_set_symbol hx hne] at hread
        exact balanced_symbol hx h hread
  · have hne : b ≠ m := by
      intro hc
      refine hb ?_
      rw [stuff_append, stuff_cons, List.getElem?_append_right (by omega),
        Nat.add_sub_cancel_left, hx, hc]
      rfl
    rw [unstuff_set_mark hx hne] at hread
    have hd := balanced_mark hx h hread
    rwa [show 2 + ((stuff escapeMark pre).length + 1) = 3 + (stuff escapeMark pre).length by omega]

/-- The last two bytes are not looked at. -/
theorem fix_any_footer (text : Bytes) (x y : UInt8) :
    fixDuplicatedBytes (HEADER_START :: GET :: (text ++ [x, y]))
      = frameWith HEADER_START GET (unstuff escapeMark text) := by
  rw [fixDuplicatedBytes_eq _ (by simp)]
  have htake : (HEADER_START :: GET :: (text ++ [x, y])).take
      ((HEADER_START :: GET :: (text ++ [x, y])).length - 2) = HEADER_START :: GET :: text := by
    simp
  rw [htake, unstuff_cons_unmarked rfl, unstuff_cons_unmarked rfl]
  rfl

/-- Whatever the place on the wire, a change that is accepted left the frame as it was or
is disguised. -/
theorem corrupted_read {payload : Bytes} {i : Nat} {b : UInt8} (h : Balanced payload)
    (hi : i < (frameWith HEADER_START GET (stuff escapeMark payload)).length)
    (hb : (frameWith HEADER_START GET (stuff escapeMark payload))[i]? ≠ some b)
    (hcheck : headerCheck (fixDuplicatedBytes
      ((frameWith HEADER_START GET (stuff escapeMark payload)).set i b)) = true) :
    fixDuplicatedBytes ((frameWith HEADER_START GET (stuff escapeMark payload)).set i b)
        = frameWith HEADER_START GET payload ∨ Disguised payload i b := by
  match i with
  | 0 =>
      -- The header start is not what it should be.
      have htext : (frameWith HEADER_START GET (stuff escapeMark payload)).set 0 b
          = frameWith b GET (stuff escapeMark payload) := rfl
      have hmark : escapeMark b ≠ some GET := by
        intro hc
        rcases escapeMark_eq_some hc with ⟨_, hm⟩ | ⟨_, hm⟩ <;> cases hm
      rw [htext, fixDuplicatedBytes_frameWith, headerCheck_footer_iff, unstuff,
        if_neg hmark] at hcheck
      obtain ⟨_, _, _, heq⟩ := hcheck
      rw [List.cons.injEq] at heq
      exact absurd (congrArg some heq.1.symm) hb
  | 1 =>
      -- Of the two bytes that may be here the other one is not in the checksum.
      have htext : (frameWith HEADER_START GET (stuff escapeMark payload)).set 1 b
          = frameWith HEADER_START b (stuff escapeMark payload) := rfl
      rw [htext, fixDuplicatedBytes_frameWith, headerCheck_footer_iff,
        unstuff_cons_unmarked rfl, unstuff_cons_stuff] at hcheck
      obtain ⟨b₁, rest, hstatus, heq⟩ := hcheck
      have hne : b ≠ GET := fun hc => hb (by rw [hc]; rfl)
      split at heq
      · next hswallow =>
          obtain ⟨rfl, _⟩ := hswallow
          rw [List.cons.injEq, List.cons.injEq] at heq
          obtain ⟨_, rfl, _⟩ := heq
          rcases hstatus with hstatus | hstatus <;> cases hstatus
      · rw [List.cons.injEq, List.cons.injEq] at heq
        obtain ⟨_, rfl, rfl⟩ := heq
        obtain rfl := hstatus.resolve_left hne
        rw [Balanced, byteSum_cons, byteSum_cons] at h
        exfalso
        have hset : (HEADER_START : UInt8) + (SET + byteSum rest) = 1 + byteSum rest := h
        rw [HEADER_START, SET] at hset
        grind
  | j + 2 =>
      rw [frameWith_length] at hi
      have htail : (frameWith HEADER_START GET (stuff escapeMark payload)).set (j + 2) b
          = HEADER_START :: GET :: (stuff escapeMark payload ++ FOOTER).set j b := rfl
      by_cases hj : j < (stuff escapeMark payload).length
      · rw [htail, List.set_append_left _ _ hj, FOOTER, fix_any_footer] at hcheck
        have hplace : (stuff escapeMark payload)[j]? ≠ some b := by
          intro hc
          refine hb ?_
          rw [← hc]
          exact List.getElem?_append_left hj
        have hd := disguised_of_balanced h hj hplace (headerCheck_get_iff.mp hcheck)
        rw [Nat.add_comm j 2]
        exact .inr hd
      · obtain ⟨x, y, hxy⟩ : ∃ x y, FOOTER.set (j - (stuff escapeMark payload).length) b
            = [x, y] := by
          obtain hk | hk : j - (stuff escapeMark payload).length = 0 ∨
              j - (stuff escapeMark payload).length = 1 := by omega
          · exact ⟨b, END, by rw [hk]; rfl⟩
          · exact ⟨ESCAPE, b, by rw [hk]; rfl⟩
        rw [htail, List.set_append_right _ _ (by omega), hxy, fix_any_footer, unstuff_stuff]
        exact .inl rfl

/-- A single byte that arrives changed is noticed unless it ends the frame early or is
disguised; and if it is disguised, another frame is accepted. -/
theorem corrupted_byte_detected {asked command data reply : Bytes} {i : Nat} {b : UInt8}
    (hfits : (addDuplicatedBytes (registerFrame GET command data)).length ≤ INPUT_BUFFER_LENGTH)
    (hi : i < (addDuplicatedBytes (registerFrame GET command data)).length)
    (hb : (addDuplicatedBytes (registerFrame GET command data))[i]? ≠ some b)
    {before : Trace} {answers : List (Option UInt8)} {silence : Nat}
    (hanswers : answers <+: ((addDuplicatedBytes (registerFrame GET command data)).set i b).map some
      ++ List.replicate silence none)
    (h : Path (Connector.getData (createRequestMessage asked GET))
      (before ++ acked :: (gets answers ++ [⟨.mark (.gotData reply), ()⟩])) (.ok reply)) :
    (headerCheck reply = true → reply = registerFrame GET command data ∨
        EndsEarly ((addDuplicatedBytes (registerFrame GET command data)).set i b) ∨
        Disguised (byteSum (HEADER_START :: GET :: (command ++ data)) :: (command ++ data)) i b) ∧
      (Disguised (byteSum (HEADER_START :: GET :: (command ++ data)) :: (command ++ data)) i b →
        ¬ EndsEarly ((addDuplicatedBytes (registerFrame GET command data)).set i b) →
        headerCheck reply = true ∧ reply ≠ registerFrame GET command data) := by
  have hreply := getData_listen (createRequestMessage_ne_escape asked GET)
    (by rw [List.length_set]; exact hfits) hanswers h
  have hbalanced :
      Balanced (byteSum (HEADER_START :: GET :: (command ++ data)) :: (command ++ data)) :=
    byteSum_header _
  rw [registerFrame, addDuplicatedBytes_frameWith] at hi hb hreply ⊢
  by_cases hearly : EndsEarly ((frameWith HEADER_START GET (stuff escapeMark
      (byteSum (HEADER_START :: GET :: (command ++ data)) :: (command ++ data)))).set i b)
  · exact ⟨fun _ => .inr (.inl hearly), fun _ hc => absurd hearly hc⟩
  rw [listen_eq _ (by rwa [List.nil_append]), List.nil_append] at hreply
  refine ⟨?_, ?_⟩
  · intro hcheck
    rw [hreply] at hcheck
    rcases corrupted_read hbalanced hi hb hcheck with hsame | hd
    · exact .inl (hreply.trans hsame)
    · exact .inr (.inr hd)
  · intro hd _
    obtain ⟨j, rfl, hj, haccepted, hother⟩ := hd.balanced hbalanced
    have htext : (frameWith HEADER_START GET (stuff escapeMark
        (byteSum (HEADER_START :: GET :: (command ++ data)) :: (command ++ data)))).set (2 + j) b
        = HEADER_START :: GET :: ((stuff escapeMark
          (byteSum (HEADER_START :: GET :: (command ++ data)) :: (command ++ data))).set j b
            ++ [ESCAPE, END]) := by
      rw [Nat.add_comm 2 j, frameWith, List.set_cons_succ, List.set_cons_succ,
        List.set_append_left _ _ hj]
      rfl
    rw [htext, fix_any_footer] at hreply
    rw [hreply, headerCheck_get_iff]
    refine ⟨haccepted, fun hc => hother ?_⟩
    rw [frameWith, frameWith, List.cons.injEq, List.cons.injEq] at hc
    exact List.append_cancel_right hc.2.2

def flippedRead : Talk Bytes := Connector.getData (createRequestMessage [0x0B] GET)

/-- What the device sends of `01 00 21 0B 10 05 10 03`, with one byte changed. -/
def flippedAnswers : List (Option UInt8) :=
  [0x01, 0x00, 0x21, 0x0B, 0x10, 0x00, 0x05, 0x10, 0x03].map some

def flippedBefore : Trace :=
  [⟨.mark (.getData (createRequestMessage [0x0B] GET)), ()⟩, ⟨.write [START_COMMUNICATION], none⟩,
    ⟨.get, some 0x10⟩, ⟨.write (createRequestMessage [0x0B] GET), none⟩, ⟨.get, some 0x10⟩,
    ⟨.get, some 0x02⟩]

theorem flippedRead_path :
    Path flippedRead (flippedBefore ++ acked :: (gets flippedAnswers ++
        [⟨.mark (.gotData [0x01, 0x00, 0x21, 0x0B, 0x10, 0x00, 0x05, 0x10, 0x03]), ()⟩]))
      (.ok [0x01, 0x00, 0x21, 0x0B, 0x10, 0x00, 0x05, 0x10, 0x03]) := by
  have hrun : (run scripted flippedRead ([0x10, 0x10, 0x02].map some ++ flippedAnswers)).1
      = .ok [0x01, 0x00, 0x21, 0x0B, 0x10, 0x00, 0x05, 0x10, 0x03] := by decide +kernel
  have htrace : trace scripted flippedRead ([0x10, 0x10, 0x02].map some ++ flippedAnswers)
      = flippedBefore ++ acked :: (gets flippedAnswers ++
        [⟨.mark (.gotData [0x01, 0x00, 0x21, 0x0B, 0x10, 0x00, 0x05, 0x10, 0x03]), ()⟩]) := by
    decide +kernel
  rw [← htrace]
  exact path_of_run scripted hrun

theorem corrupted_byte_detected_flipped :
    (headerCheck [0x01, 0x00, 0x21, 0x0B, 0x10, 0x00, 0x05, 0x10, 0x03] = true →
      [0x01, 0x00, 0x21, 0x0B, 0x10, 0x00, 0x05, 0x10, 0x03]
          = registerFrame GET [0x0B] [0x10, 0x05] ∨
        EndsEarly ((addDuplicatedBytes (registerFrame GET [0x0B] [0x10, 0x05])).set 5 0x00) ∨
        Disguised (byteSum (HEADER_START :: GET :: ([0x0B] ++ [0x10, 0x05])) ::
          ([0x0B] ++ [0x10, 0x05])) 5 0x00) ∧
      (Disguised (byteSum (HEADER_START :: GET :: ([0x0B] ++ [0x10, 0x05])) ::
          ([0x0B] ++ [0x10, 0x05])) 5 0x00 →
        ¬ EndsEarly ((addDuplicatedBytes (registerFrame GET [0x0B] [0x10, 0x05])).set 5 0x00) →
        headerCheck [0x01, 0x00, 0x21, 0x0B, 0x10, 0x00, 0x05, 0x10, 0x03] = true ∧
        [0x01, 0x00, 0x21, 0x0B, 0x10, 0x00, 0x05, 0x10, 0x03]
          ≠ registerFrame GET [0x0B] [0x10, 0x05]) :=
  @corrupted_byte_detected [0x0B] [0x0B] [0x10, 0x05] _ 5 0x00 (by decide +kernel)
    (by decide +kernel) (by decide +kernel) _ _ 0 (by decide +kernel) flippedRead_path

def flippedRecord : ChannelDefinition :=
  { channelId := "flow", requestByte := "0B", dataType := .sensor, position := 4, length := 2 }

/-- A `00` in the place of an escape's mark is read as one more byte, and a `03` there ends
the frame; what is read is accepted in both cases. -/
theorem changed_byte_accepted :
    (∃ tr reply, Path flippedRead tr (.ok reply) ∧
        sinceAck tr = (addDuplicatedBytes (registerFrame GET [0x0B] [0x10, 0x05])).set 5 0x00 ∧
        headerCheck reply = true ∧ reply ≠ registerFrame GET [0x0B] [0x10, 0x05] ∧
        parseRecord reply flippedRecord = .ok (.int 0x1000) ∧
        parseRecord (registerFrame GET [0x0B] [0x10, 0x05]) flippedRecord = .ok (.int 0x1005)) ∧
      ∃ tr reply, Path flippedRead tr (.ok reply) ∧
        sinceAck tr <+:
          (addDuplicatedBytes (registerFrame GET [0x0B] [0x10, 0x03, 0xED])).set 5 0x03 ∧
        headerCheck reply = true ∧ reply ≠ registerFrame GET [0x0B] [0x10, 0x03, 0xED] := by
  refine ⟨⟨_, _, flippedRead_path, ?_, ?_, ?_, ?_, ?_⟩, ?_⟩
  · decide +kernel
  · decide +kernel
  · decide +kernel
  · decide +kernel
  · decide +kernel
  · have hrun : (run scripted flippedRead ([0x10, 0x10, 0x02, 0x01, 0x00, 0x0C, 0x0B, 0x10, 0x03,
        0x03, 0xED, 0x10, 0x03].map some)).1 = .ok [0x01, 0x00, 0x0C, 0x0B, 0x10, 0x03] := by
      decide +kernel
    exact ⟨_, _, path_of_run scripted hrun, by decide +kernel, by decide +kernel, by decide +kernel⟩

end HeatpumpGateway
