import HeatpumpGateway.Model.Python
import Mathlib.Data.List.Basic

/-!
# Capitals have no capitals

The channels are put together under the capitals of their commands, so it matters that a
capital is its own: a key that is folded once is folded for good. For ASCII that is a matter of
26 letters. Beyond it the two tables are asked: what a character is written out to has been
looked at character by character, and the capitals of a run lie apart from every run, since
the capitals of a whole run fill an interval that another run does not meet, or one that it
meets between its steps.

A command is only ever read as hexadecimal. There the capitals stand for the same bytes. The
converse fails: `ﬀ` is no digit, and its capitals are two.
-/

namespace HeatpumpGateway

/-! ## ASCII -/

/-- What holds of the 26 letters holds of every character that `toUpper` changes. -/
theorem toUpper_agrees {β : Type} (f : Char → β)
    (hletters : ∀ n : Fin 26, f (Char.ofNat (97 + n)).toUpper = f (Char.ofNat (97 + n)))
    (c : Char) : f c.toUpper = f c := by
  by_cases h : 'a'.val ≤ c.val ∧ c.val ≤ 'z'.val
  · have hlo : 97 ≤ c.toNat := h.1
    have hhi : c.toNat ≤ 122 := h.2
    have hc := hletters ⟨c.toNat - 97, by omega⟩
    have hn : 97 + (c.toNat - 97) = c.toNat := by omega
    simp only [hn, Char.ofNat_toNat] at hc
    exact hc
  · exact congrArg f (dif_neg h)

theorem upperChar_toUpper (c : Char) : upperChar c.toUpper = upperChar c :=
  toUpper_agrees upperChar (by decide +kernel) c

theorem upperChar_ascii {c : Char} (h : c.toNat < 0x80) : upperChar c = [c.toUpper] :=
  if_pos h

/-! ## Runs -/

namespace CaseRun

/-- How many steps there are in a run. -/
def steps (run : CaseRun) : Nat := (run.last - run.first) / run.step

/-- The capitals of the run are not in the other one. -/
def apart (run other : CaseRun) : Bool :=
  (run.capital run.last).blt other.first || other.last.blt (run.capital run.first) ||
    (List.range (run.steps + 1)).all fun k =>
      !other.covers (run.capital (run.first + run.step * k))

/-- The number is no capital of the run. -/
def misses (run : CaseRun) (n : Nat) : Bool :=
  n.blt (run.capital run.first) || (run.capital run.last).blt n

theorem covers_iff {run : CaseRun} {n : Nat} :
    run.covers n = true ↔ run.first ≤ n ∧ n ≤ run.last ∧ (n - run.first) % run.step = 0 := by
  rw [covers, Bool.and_eq_true, Bool.and_eq_true, decide_eq_true_eq, decide_eq_true_eq,
    decide_eq_true_eq, and_assoc]

theorem exists_of_covers {run : CaseRun} {n : Nat} (h : run.covers n = true) :
    ∃ k ≤ run.steps, n = run.first + run.step * k := by
  obtain ⟨hlo, hhi, hstep⟩ := covers_iff.mp h
  refine ⟨(n - run.first) / run.step, Nat.div_le_div_right (by omega), ?_⟩
  have hsplit := Nat.div_add_mod (n - run.first) run.step
  omega

theorem capital_mono (run : CaseRun) {m n : Nat} (h : m ≤ n) :
    run.capital m ≤ run.capital n := by
  rw [capital, capital]
  omega

theorem not_covers_of_apart {run other : CaseRun} {n : Nat} (h : run.apart other = true)
    (hcovers : run.covers n = true) : other.covers (run.capital n) = false := by
  obtain ⟨hlo, hhi, _⟩ := covers_iff.mp hcovers
  have hfirst := run.capital_mono hlo
  have hlast := run.capital_mono hhi
  rw [apart, Bool.or_eq_true, Bool.or_eq_true, Nat.blt_eq, Nat.blt_eq] at h
  rcases h with (hbelow | habove) | hsteps
  · refine Bool.eq_false_iff.mpr fun hc => ?_
    have := (covers_iff.mp hc).1
    omega
  · refine Bool.eq_false_iff.mpr fun hc => ?_
    have := (covers_iff.mp hc).2.1
    omega
  · obtain ⟨k, hk, rfl⟩ := exists_of_covers hcovers
    have hnot := List.all_eq_true.mp hsteps k (List.mem_range.mpr (by omega))
    rwa [Bool.not_eq_true'] at hnot

theorem ne_of_misses {run : CaseRun} {m n : Nat} (h : run.misses m = true)
    (hcovers : run.covers n = true) : m ≠ run.capital n := by
  obtain ⟨hlo, hhi, _⟩ := covers_iff.mp hcovers
  have hfirst := run.capital_mono hlo
  have hlast := run.capital_mono hhi
  rw [misses, Bool.or_eq_true, Nat.blt_eq, Nat.blt_eq] at h
  omega

end CaseRun

/-! ## The tables -/

theorem expansions_settled : ∀ entry ∈ expansions, entry.2 ≠ [] ∧
    ∀ n ∈ entry.2, upperChar (Char.ofNat n) = [Char.ofNat n] := by
  decide +kernel

theorem caseRuns_apart : ∀ run ∈ caseRuns, caseRuns.all run.apart = true := by
  decide +kernel

theorem caseRuns_miss :
    ∀ run ∈ caseRuns, expansions.all (fun entry => run.misses entry.1) = true := by
  decide +kernel

/-- Two runs of one character have their capital in ASCII. -/
theorem caseRuns_ascii : ∀ run ∈ caseRuns, run.capital run.first < 0x80 →
    run.first = run.last ∧ (Char.ofNat (run.capital run.first)).toUpper
      = Char.ofNat (run.capital run.first) := by
  decide +kernel

/-- A character that no table has is its own capital. -/
theorem upperChar_of_not_mem {c : Char} (hascii : c.toNat < 0x80 → c.toUpper = c)
    (hexpansions : ∀ entry ∈ expansions, entry.1 ≠ c.toNat)
    (hruns : ∀ run ∈ caseRuns, run.covers c.toNat = false) : upperChar c = [c] := by
  rw [upperChar]
  split
  · next h => rw [hascii h]
  · have hnone : expansions.find? (fun entry => entry.1 = c.toNat) = none :=
      List.find?_eq_none.mpr fun entry h => by simpa using hexpansions entry h
    have hnone' : caseRuns.find? (fun run => run.covers c.toNat) = none :=
      List.find?_eq_none.mpr fun run h => by simp [hruns run h]
    rw [hnone, hnone']

/-- What a number beyond the characters is taken for is its own capital. -/
theorem upperChar_ofNat {n : Nat}
    (h : (Char.ofNat n).toNat = n → upperChar (Char.ofNat n) = [Char.ofNat n]) :
    upperChar (Char.ofNat n) = [Char.ofNat n] := by
  by_cases hvalid : n.isValidChar
  · have hkept : (Char.ofNat n).toNat = n := by
      rw [Char.ofNat, dif_pos hvalid]
      rfl
    exact h hkept
  · have hzero : Char.ofNat n = '\x00' := dif_neg hvalid
    rw [hzero]
    decide

theorem CaseRun.capital_settled {run : CaseRun} (hmem : run ∈ caseRuns) {n : Nat}
    (hcovers : run.covers n = true) :
    upperChar (Char.ofNat (run.capital n)) = [Char.ofNat (run.capital n)] := by
  refine upperChar_ofNat fun hvalid => upperChar_of_not_mem ?_ ?_ ?_
  · rw [hvalid]
    intro hascii
    obtain ⟨hlo, hhi, _⟩ := covers_iff.mp hcovers
    obtain ⟨hone, hupper⟩ := caseRuns_ascii run hmem
      (lt_of_le_of_lt (run.capital_mono hlo) hascii)
    obtain rfl : run.first = n := by omega
    exact hupper
  · intro entry hentry
    rw [hvalid]
    exact ne_of_misses (List.all_eq_true.mp (caseRuns_miss run hmem) entry hentry) hcovers
  · intro other hother
    rw [hvalid]
    exact not_covers_of_apart (List.all_eq_true.mp (caseRuns_apart run hmem) other hother)
      hcovers

theorem upperChar_ne_nil (c : Char) : upperChar c ≠ [] := by
  rw [upperChar]
  split
  · exact List.cons_ne_nil _ _
  · split
    · next entry hfind =>
        have hsettled := expansions_settled _ (List.mem_of_find?_eq_some hfind)
        exact mt List.map_eq_nil_iff.mp hsettled.1
    · split <;> exact List.cons_ne_nil _ _

/-- Every character of what a character is turned into is its own capital. -/
theorem upperChar_settled (c : Char) : ∀ d ∈ upperChar c, upperChar d = [d] := by
  intro d hd
  rw [upperChar] at hd
  split at hd
  · next hascii =>
      obtain rfl := List.mem_singleton.mp hd
      rw [upperChar_toUpper, upperChar_ascii hascii]
  · next hascii =>
      split at hd
      · next capitals hfind =>
          obtain ⟨n, hn, rfl⟩ := List.mem_map.mp hd
          exact (expansions_settled _ (List.mem_of_find?_eq_some hfind)).2 n hn
      · next hexpansions =>
          split at hd
          · next run hfind =>
              obtain rfl := List.mem_singleton.mp hd
              have hcovers := List.find?_some hfind
              exact CaseRun.capital_settled (List.mem_of_find?_eq_some hfind) hcovers
          · next hruns =>
              obtain rfl := List.mem_singleton.mp hd
              refine upperChar_of_not_mem (fun h => absurd h hascii) (fun entry h => ?_)
                fun run h => ?_
              · simpa using List.find?_eq_none.mp hexpansions entry h
              · simpa using List.find?_eq_none.mp hruns run h

/-! ## Texts -/

theorem toList_upper (s : String) : (upper s).toList = s.toList.flatMap upperChar :=
  String.toList_ofList

/-- There is nothing left to fold. -/
@[simp] theorem upper_upper (s : String) : upper (upper s) = upper s := by
  rw [upper, toList_upper, List.flatMap_assoc, upper]
  refine congrArg String.ofList (List.flatMap_congr fun c _ => ?_)
  calc (upperChar c).flatMap upperChar
      = (upperChar c).flatMap fun d => [d] := List.flatMap_congr (upperChar_settled c)
    _ = upperChar c := List.flatMap_singleton' _

@[simp] theorem upper_eq_empty_iff {s : String} : upper s = "" ↔ s = "" := by
  rw [upper, String.ofList_eq_empty_iff, List.flatMap_eq_nil_iff]
  constructor
  · intro h
    cases hs : s.toList with
    | nil => exact String.toList_eq_nil_iff.mp hs
    | cons c cs => exact absurd (h c (by simp [hs])) (upperChar_ne_nil c)
  · rintro rfl
    simp

/-! ## Hexadecimal text -/

theorem isAsciiSpace_toUpper (c : Char) : isAsciiSpace c.toUpper = isAsciiSpace c :=
  toUpper_agrees isAsciiSpace (by decide) c

theorem hexValue_toUpper (c : Char) : hexValue? c.toUpper = hexValue? c := by
  refine toUpper_agrees hexValue? ?_ c
  decide

theorem hexPairs_toUpper : ∀ cs : List Char, hexPairs (cs.map Char.toUpper) = hexPairs cs
  | [] => rfl
  | [c] => by
      rw [List.map_cons, List.map_nil, hexPairs.eq_def, hexPairs.eq_def [c]]
      simp only [isAsciiSpace_toUpper]
  | c :: d :: ds => by
      have ihd := hexPairs_toUpper (d :: ds)
      have ihds := hexPairs_toUpper ds
      rw [List.map_cons, List.map_cons, hexPairs.eq_def, hexPairs.eq_def (c :: d :: ds)]
      simp only [isAsciiSpace_toUpper, hexValue_toUpper, ihds]
      rw [← List.map_cons, ihd]

theorem ascii_of_isAsciiSpace {c : Char} (h : isAsciiSpace c = true) : c.toNat < 0x80 := by
  rw [isAsciiSpace, Bool.or_eq_true, decide_eq_true_eq, Bool.and_eq_true, decide_eq_true_eq,
    decide_eq_true_eq] at h
  rcases h with rfl | ⟨_, h⟩
  · decide
  · omega

theorem ascii_of_hexValue {c : Char} {n : Nat} (h : hexValue? c = some n) : c.toNat < 0x80 := by
  rw [hexValue?] at h
  split at h
  · next hc => exact lt_of_le_of_lt (show c.toNat ≤ '9'.toNat from hc.2) (by decide)
  · split at h
    · next hc => exact lt_of_le_of_lt (show c.toNat ≤ 'F'.toNat from hc.2) (by decide)
    · split at h
      · next hc => exact lt_of_le_of_lt (show c.toNat ≤ 'f'.toNat from hc.2) (by decide)
      · cases h

/-- Hexadecimal text is ASCII. -/
theorem ascii_of_hexPairs : ∀ {cs : List Char} {data : Bytes}, hexPairs cs = some data →
    ∀ c ∈ cs, c.toNat < 0x80
  | [], _, _ => by simp
  | [c], data, h => by
      rw [hexPairs.eq_def] at h
      simp only [] at h
      split at h
      · next hspace => simpa using ascii_of_isAsciiSpace hspace
      · cases h
  | c :: d :: ds, data, h => by
      rw [hexPairs.eq_def] at h
      simp only [] at h
      split at h
      · next hspace =>
          intro c' hc'
          rcases List.mem_cons.mp hc' with rfl | hc'
          · exact ascii_of_isAsciiSpace hspace
          · exact ascii_of_hexPairs h c' hc'
      · split at h
        · next x y rest hx hy hrest =>
            intro c' hc'
            rcases List.mem_cons.mp hc' with rfl | hc'
            · exact ascii_of_hexValue hx
            · rcases List.mem_cons.mp hc' with rfl | hc'
              · exact ascii_of_hexValue hy
              · exact ascii_of_hexPairs hrest c' hc'
        · cases h

/-- The capitals of a hexadecimal text stand for the same bytes. -/
theorem fromHex_upper {text : String} {data : Bytes} (h : fromHex text = .ok data) :
    fromHex (upper text) = .ok data := by
  rw [fromHex] at h ⊢
  split at h
  · next data' hpairs =>
      have hupper : (upper text).toList = text.toList.map Char.toUpper := by
        rw [toList_upper, List.map_eq_flatMap]
        exact List.flatMap_congr fun c hc => upperChar_ascii (ascii_of_hexPairs hpairs c hc)
      rw [hupper, hexPairs_toUpper, hpairs]
      exact h
  · cases h

theorem fromHex_of_upper {text : String} {data data' : Bytes} (hspelt : fromHex text = .ok data')
    (h : fromHex (upper text) = .ok data) : fromHex text = .ok data := by
  rwa [fromHex_upper hspelt, ← hspelt] at h

end HeatpumpGateway
