import ClauseQuery.Proofs.Trimming
import ClauseQuery.Text.Lower

/-!
# Lower case of padded and of lowered texts

No run of the table of case leads to a code point that another run moves or that is blank, and no blank
counts for the end of a word.
-/

namespace ClauseQuery

/-! ## Runs of code points -/

namespace CaseRun

def lowered (r : CaseRun) : CaseRun := ⟨(r.first + r.shift).toNat, (r.last + r.shift).toNat, r.stride, 0⟩

/-- No code point is covered by both: one run ends before the other, or they never fall into step. -/
def isApart (r r' : CaseRun) : Bool :=
  Nat.blt r.last r'.first || Nat.blt r'.last r.first ||
    ((r.first == r.last || r.stride % r'.stride == 0) && r.first % r'.stride != r'.first % r'.stride)

def leadsToChars (r : CaseRun) : Bool :=
  0 ≤ r.first + r.shift && (r.lowered.last < 0xD800 || (0xDFFF < r.lowered.first && r.lowered.last < 0x110000))

variable {r r' : CaseRun} {n : Nat}

theorem covers_solid (m m' : Nat) (k : Int) : (⟨m, m', 1, k⟩ : CaseRun).covers n = (m ≤ n && n ≤ m') := by
  simp [covers, Nat.mod_one]

theorem covers_single (m : Nat) (k : Int) : (⟨m, m, 1, k⟩ : CaseRun).covers n = (n == m) := by
  rw [covers_solid, Bool.eq_iff_iff, Bool.and_eq_true, decide_eq_true_eq, decide_eq_true_eq, beq_iff_eq]
  omega

theorem covers_iff : r.covers n = true ↔ (r.first ≤ n ∧ n ≤ r.last) ∧ r.stride ∣ n - r.first := by
  simp [covers, Nat.dvd_iff_mod_eq_zero]

theorem mod_eq_of_dvd_sub {a d : Nat} (h : a ≤ n) (hd : d ∣ n - a) : n % d = a % d := by
  obtain ⟨k, hk⟩ := hd
  rw [show n = a + d * k by omega, Nat.add_mul_mod_self_left]

theorem not_covers_of_isApart (h : r.isApart r' = true) (hn : r.covers n = true) : r'.covers n = false := by
  obtain ⟨⟨hfirst, hlast⟩, hstep⟩ := covers_iff.1 hn
  rw [Bool.eq_false_iff]
  intro hn'
  obtain ⟨⟨hfirst', hlast'⟩, hstep'⟩ := covers_iff.1 hn'
  simp only [isApart, Bool.or_eq_true, Bool.and_eq_true, Nat.blt_eq, beq_iff_eq, bne_iff_ne] at h
  rcases h with (h | h) | ⟨h, hmod⟩
  · omega
  · omega
  · refine hmod ?_
    have hd : r'.stride ∣ n - r.first := by
      rcases h with h | h
      · rw [show n - r.first = 0 by omega]
        exact Nat.dvd_zero _
      · exact Nat.dvd_trans (Nat.dvd_of_mod_eq_zero h) hstep
    rw [← mod_eq_of_dvd_sub hfirst hd, mod_eq_of_dvd_sub hfirst' hstep']

theorem covers_lowered (hr : r.leadsToChars = true) (hn : r.covers n = true) :
    r.lowered.covers (n + r.shift).toNat = true := by
  obtain ⟨⟨hfirst, hlast⟩, hstep⟩ := covers_iff.1 hn
  simp only [leadsToChars, Bool.and_eq_true, decide_eq_true_eq] at hr
  refine covers_iff.2 ⟨⟨?_, ?_⟩, ?_⟩
  · simp only [lowered]
    omega
  · simp only [lowered]
    omega
  · simp only [lowered]
    rwa [show (n + r.shift).toNat - (r.first + r.shift).toNat = n - r.first by omega]

theorem isValidChar_lowered (hr : r.leadsToChars = true) (hn : r.covers n = true) :
    (n + r.shift).toNat.isValidChar := by
  obtain ⟨⟨hfirst, hlast⟩, -⟩ := covers_iff.1 (covers_lowered hr hn)
  simp only [leadsToChars, Bool.and_eq_true, Bool.or_eq_true, decide_eq_true_eq] at hr
  unfold Nat.isValidChar
  omega

end CaseRun

/-- The code points with a lower-case form of their own, that of two characters included. -/
def capitalRuns : List CaseRun := ⟨0x130, 0x130, 1, 0⟩ :: loweringRuns

def blankRuns : List CaseRun :=
  [⟨0x9, 0xD, 1, 0⟩, ⟨0x1C, 0x20, 1, 0⟩, ⟨0x85, 0x85, 1, 0⟩, ⟨0xA0, 0xA0, 1, 0⟩, ⟨0x1680, 0x1680, 1, 0⟩,
    ⟨0x2000, 0x200A, 1, 0⟩, ⟨0x2028, 0x2028, 1, 0⟩, ⟨0x2029, 0x2029, 1, 0⟩, ⟨0x202F, 0x202F, 1, 0⟩,
    ⟨0x205F, 0x205F, 1, 0⟩, ⟨0x3000, 0x3000, 1, 0⟩]

theorem isBlank_eq (c : Char) : isBlank c = blankRuns.any (·.covers c.toNat) := by
  simp only [isBlank, blankRuns, List.any_cons, List.any_nil, CaseRun.covers_single, CaseRun.covers_solid,
    Bool.or_false, Bool.or_assoc]

-- Checked run against run: code point by code point there would be too much to evaluate.
theorem loweringRuns_leadToChars : (loweringRuns.all CaseRun.leadsToChars) = true := by decide +kernel

theorem lowered_apart_capitals : (loweringRuns.all fun r => capitalRuns.all r.lowered.isApart) = true := by
  decide +kernel

theorem lowered_apart_blanks : (loweringRuns.all fun r => blankRuns.all r.lowered.isApart) = true := by
  decide +kernel

theorem blanks_apart_capitals : (blankRuns.all fun r => capitalRuns.all r.isApart) = true := by
  decide +kernel

theorem blanks_apart_letters :
    (blankRuns.all fun r => (casedRanges ++ caseIgnorableRanges).all fun i =>
      Nat.blt i.2 r.first || Nat.blt r.last i.1) = true := by
  decide +kernel

theorem any_covers_of_apart {runs : List CaseRun} {r : CaseRun} {n : Nat}
    (h : (runs.all r.isApart) = true) (hn : r.covers n = true) : (runs.any (·.covers n)) = false := by
  rw [List.any_eq_false]
  intro r' hr'
  rw [CaseRun.not_covers_of_isApart (List.all_eq_true.1 h r' hr') hn]
  decide

/-! ## Single characters -/

theorem toNat_ofNat {n : Nat} (h : n.isValidChar) : (Char.ofNat n).toNat = n := by
  rw [Char.ofNat, dif_pos h]
  rfl

def isLowered (c : Char) : Bool := !capitalRuns.any (·.covers c.toNat)

theorem isLowered_of_isBlank {c : Char} (h : isBlank c = true) : isLowered c = true := by
  rw [isBlank_eq, List.any_eq_true] at h
  obtain ⟨r, hr, hc⟩ := h
  rw [isLowered, any_covers_of_apart (List.all_eq_true.1 blanks_apart_capitals r hr) hc]
  rfl

theorem inRanges_of_isBlank {c : Char} (h : isBlank c = true) {ranges : List (Nat × Nat)}
    (hr : ranges ⊆ casedRanges ++ caseIgnorableRanges) : inRanges ranges c = false := by
  rw [isBlank_eq, List.any_eq_true] at h
  obtain ⟨r, hm, hc⟩ := h
  obtain ⟨⟨hfirst, hlast⟩, -⟩ := CaseRun.covers_iff.1 hc
  rw [inRanges, List.any_eq_false]
  intro i hi
  have hapart := List.all_eq_true.1 (List.all_eq_true.1 blanks_apart_letters r hm) i (hr hi)
  simp only [Bool.or_eq_true, Nat.blt_eq] at hapart
  simp only [Bool.and_eq_true, decide_eq_true_eq]
  omega

theorem isCased_of_isBlank {c : Char} (h : isBlank c = true) : isCased c = false :=
  inRanges_of_isBlank h (List.subset_append_left ..)

theorem isCaseIgnorable_of_isBlank {c : Char} (h : isBlank c = true) : isCaseIgnorable c = false :=
  inRanges_of_isBlank h (List.subset_append_right ..)

theorem lowered_of_covers {r : CaseRun} (hr : r ∈ loweringRuns) {n : Nat} (hn : r.covers n = true) :
    isLowered (Char.ofNat (n + r.shift).toNat) = true ∧
      isBlank (Char.ofNat (n + r.shift).toNat) = false := by
  have hl := List.all_eq_true.1 loweringRuns_leadToChars r hr
  have hc := CaseRun.covers_lowered hl hn
  rw [isLowered, isBlank_eq, toNat_ofNat (CaseRun.isValidChar_lowered hl hn)]
  rw [any_covers_of_apart (List.all_eq_true.1 lowered_apart_capitals r hr) hc,
    any_covers_of_apart (List.all_eq_true.1 lowered_apart_blanks r hr) hc]
  exact ⟨rfl, rfl⟩

def lowerOne (before after : List Char) (c : Char) : List Char :=
  if c.toNat = 0x3A3 then [if endsWord before after then '\u03C2' else '\u03C3'] else lowerChar c

theorem lowerAfter_cons (before rest : List Char) (c : Char) :
    lowerAfter before (c :: rest) = lowerOne before rest c ++ lowerAfter (c :: before) rest := rfl

section
variable {before after : List Char} {c : Char}

theorem lowerOne_of_isLowered (h : isLowered c = true) : lowerOne before after c = [c] := by
  rw [isLowered, Bool.not_eq_true'] at h
  have hsigma : c.toNat ≠ 0x3A3 := by
    intro hc
    rw [hc] at h
    exact absurd h (by decide +kernel)
  have hdot : c.toNat ≠ 0x130 := by
    intro hc
    rw [hc] at h
    exact absurd h (by decide +kernel)
  have hrun : loweringRuns.find? (·.covers c.toNat) = none :=
    List.find?_eq_none.2 fun r hr => List.any_eq_false.1 h r (List.mem_cons_of_mem _ hr)
  rw [lowerOne, if_neg hsigma, lowerChar, if_neg hdot, lowerCode, hrun, Char.ofNat_toNat]

theorem lowerOne_of_not_isLowered (h : isLowered c = false) : lowerOne before after c ≠ [] ∧
    ∀ d ∈ lowerOne before after c, isLowered d = true ∧ isBlank d = false := by
  rw [isLowered, Bool.not_eq_false', capitalRuns, List.any_cons, Bool.or_eq_true, CaseRun.covers_single,
    beq_iff_eq] at h
  have hclosed : (['i', '\u0307', '\u03C2', '\u03C3'].all fun d => isLowered d && !isBlank d) = true := by
    decide +kernel
  simp only [List.all_cons, List.all_nil, Bool.and_true, Bool.and_eq_true, Bool.not_eq_true'] at hclosed
  obtain ⟨hi, hdotted, hfinal, hinner⟩ := hclosed
  unfold lowerOne lowerChar
  split_ifs with hsigma hend hdot
  · exact ⟨List.cons_ne_nil _ _, by simpa using hfinal⟩
  · exact ⟨List.cons_ne_nil _ _, by simpa using hinner⟩
  · exact ⟨List.cons_ne_nil _ _, by simpa using ⟨hi, hdotted⟩⟩
  · refine ⟨List.cons_ne_nil _ _, List.forall_mem_singleton.2 ?_⟩
    unfold lowerCode
    split
    · rename_i r hr
      have hc : r.covers c.toNat = true := by simpa using List.find?_some hr
      exact lowered_of_covers (List.mem_of_find?_eq_some hr) hc
    · rename_i hnone
      obtain ⟨r, hr, hc⟩ := List.any_eq_true.1 (h.resolve_left hdot)
      exact absurd hc (List.find?_eq_none.1 hnone r hr)

theorem lowerOne_ne_nil (before after : List Char) (c : Char) : lowerOne before after c ≠ [] := by
  cases h : isLowered c with
  | true =>
    rw [lowerOne_of_isLowered h]
    exact List.cons_ne_nil _ _
  | false => exact (lowerOne_of_not_isLowered h).1

theorem isLowered_of_mem_lowerOne {d : Char} (hd : d ∈ lowerOne before after c) : isLowered d = true := by
  cases h : isLowered c with
  | true =>
    rw [lowerOne_of_isLowered h, List.mem_singleton] at hd
    rw [hd, h]
  | false => exact ((lowerOne_of_not_isLowered h).2 d hd).1

theorem not_isBlank_of_mem_lowerOne (hc : isBlank c = false) {d : Char}
    (hd : d ∈ lowerOne before after c) : isBlank d = false := by
  cases h : isLowered c with
  | true =>
    rw [lowerOne_of_isLowered h, List.mem_singleton] at hd
    rw [hd, hc]
  | false => exact ((lowerOne_of_not_isLowered h).2 d hd).2

end

theorem isLowered_of_mem_lowerAfter {d : Char} {s : List Char} : ∀ {before : List Char},
    d ∈ lowerAfter before s → isLowered d = true := by
  induction s with
  | nil =>
    intro before hd
    cases hd
  | cons c s ih =>
    intro before hd
    rw [lowerAfter_cons] at hd
    rcases List.mem_append.1 hd with hd | hd
    · exact isLowered_of_mem_lowerOne hd
    · exact ih hd

theorem lowerAfter_of_isLowered {s : List Char} (h : ∀ c ∈ s, isLowered c = true) :
    ∀ before, lowerAfter before s = s := by
  induction s with
  | nil => exact fun _ => rfl
  | cons c s ih =>
    intro before
    obtain ⟨hc, h⟩ := List.forall_mem_cons.1 h
    rw [lowerAfter_cons, lowerOne_of_isLowered hc, ih h]
    rfl

theorem lowerChars_lowerChars (s : List Char) : lowerChars (lowerChars s) = lowerChars s :=
  lowerAfter_of_isLowered (fun _ => isLowered_of_mem_lowerAfter) []

theorem lower_lower (s : String) : lower (lower s) = lower s := by
  rw [lower, lower, String.toList_ofList, lowerChars_lowerChars]

/-! ## Lowering between blanks -/

theorem reachesCased_append {r : List Char} (hr : r.all isBlank = true) (s : List Char) :
    reachesCased (s ++ r) = reachesCased s := by
  induction s with
  | nil =>
    cases r with
    | nil => rfl
    | cons c r =>
      rw [List.all_cons, Bool.and_eq_true] at hr
      rw [List.nil_append, reachesCased,
        List.dropWhile_cons_of_neg (by rw [isCaseIgnorable_of_isBlank hr.1]; decide)]
      exact isCased_of_isBlank hr.1
  | cons c s ih =>
    unfold reachesCased at ih ⊢
    rw [List.cons_append]
    cases hc : isCaseIgnorable c with
    | true => rw [List.dropWhile_cons_of_pos hc, List.dropWhile_cons_of_pos hc, ih]
    | false =>
      rw [List.dropWhile_cons_of_neg (by rw [hc]; decide), List.dropWhile_cons_of_neg (by rw [hc]; decide)]

section
variable {l r : List Char} (hl : l.all isBlank = true) (hr : r.all isBlank = true)

include hl in
theorem lowerAfter_of_blanks (before : List Char) : lowerAfter before l = l :=
  lowerAfter_of_isLowered (fun c hc => isLowered_of_isBlank (List.all_eq_true.1 hl c hc)) before

include hl in
/-- Blanks far behind do not change how a sigma is read. -/
theorem lowerAfter_append_before (s : List Char) : ∀ before,
    lowerAfter (before ++ l) s = lowerAfter before s := by
  induction s with
  | nil => exact fun _ => rfl
  | cons c s ih =>
    intro before
    rw [lowerAfter_cons, lowerAfter_cons, lowerOne, lowerOne, endsWord, endsWord, reachesCased_append hl,
      ← List.cons_append, ih]

include hr in
theorem lowerAfter_append_blanks (s : List Char) : ∀ before,
    lowerAfter before (s ++ r) = lowerAfter before s ++ r := by
  induction s with
  | nil => exact lowerAfter_of_blanks hr
  | cons c s ih =>
    intro before
    rw [List.cons_append, lowerAfter_cons, lowerAfter_cons, lowerOne, lowerOne, endsWord, endsWord,
      reachesCased_append hr, ih, List.append_assoc]

include hl in
theorem lowerAfter_blanks_append (s : List Char) : ∀ before,
    lowerAfter before (l ++ s) = l ++ lowerAfter (l.reverse ++ before) s := by
  induction l with
  | nil => exact fun _ => rfl
  | cons c l ih =>
    intro before
    rw [List.all_cons, Bool.and_eq_true] at hl
    rw [List.cons_append, lowerAfter_cons, lowerOne_of_isLowered (isLowered_of_isBlank hl.1), ih hl.2,
      List.reverse_cons, List.append_assoc]
    rfl

include hl hr in
theorem lowerChars_pad (s : List Char) : lowerChars (l ++ s ++ r) = l ++ lowerChars s ++ r := by
  have hl' : l.reverse.all isBlank = true := by rw [List.all_reverse, hl]
  rw [lowerChars, lowerAfter_append_blanks hr, lowerAfter_blanks_append hl, List.append_nil,
    ← List.nil_append l.reverse, lowerAfter_append_before hl', lowerChars]

end

/-! ## Trimming before and after -/

theorem mem_head?_lowerAfter {before s : List Char} {d : Char} (hd : d ∈ (lowerAfter before s).head?) :
    ∃ c ∈ s.head?, ∃ after, d ∈ lowerOne before after c := by
  cases s with
  | nil => cases hd
  | cons c s =>
    obtain ⟨d', ds, hds⟩ := List.exists_cons_of_ne_nil (lowerOne_ne_nil before s c)
    rw [lowerAfter_cons, hds] at hd
    cases hd
    exact ⟨c, rfl, s, by rw [hds]; exact List.mem_cons_self ..⟩

theorem mem_getLast?_lowerAfter {d : Char} {s : List Char} : ∀ {before : List Char},
    d ∈ (lowerAfter before s).getLast? → ∃ c ∈ s.getLast?, ∃ before' after, d ∈ lowerOne before' after c := by
  induction s with
  | nil =>
    intro before hd
    cases hd
  | cons c s ih =>
    intro before hd
    rw [lowerAfter_cons, List.getLast?_append] at hd
    rw [List.getLast?_cons]
    rcases Option.or_eq_some_iff.1 hd with hd | ⟨hnone, hd⟩
    · obtain ⟨c', hc, h⟩ := ih hd
      exact ⟨c', by rw [hc]; rfl, h⟩
    · cases s with
      | nil => exact ⟨c, rfl, before, [], List.mem_of_getLast? hd⟩
      | cons c' s =>
        rw [List.getLast?_eq_none_iff, lowerAfter_cons] at hnone
        exact absurd (List.append_eq_nil_iff.1 hnone).1 (lowerOne_ne_nil _ _ _)

theorem trimChars_lowerChars (s : List Char) : trimChars (lowerChars s) = lowerChars (trimChars s) := by
  obtain ⟨l, r, hl, hr, hs⟩ := exists_pad s
  have hself : trimChars (lowerChars (trimChars s)) = lowerChars (trimChars s) := by
    refine trimChars_eq_self (fun d hd => ?_) (fun d hd => ?_)
    · obtain ⟨c, hc, _, h⟩ := mem_head?_lowerAfter hd
      exact not_isBlank_of_mem_lowerOne (head?_trimChars hc) h
    · obtain ⟨c, hc, _, _, h⟩ := mem_getLast?_lowerAfter hd
      exact not_isBlank_of_mem_lowerOne (getLast?_trimChars hc) h
  calc trimChars (lowerChars s)
      = trimChars (l ++ lowerChars (trimChars s) ++ r) := by rw [← lowerChars_pad hl hr, ← hs]
    _ = trimChars (lowerChars (trimChars s)) := trimChars_pad hl hr _
    _ = lowerChars (trimChars s) := hself

theorem lower_trim (s : String) : lower (trim s) = trim (lower s) := by
  rw [lower, trim, trim, lower, String.toList_ofList, String.toList_ofList, trimChars_lowerChars]

/-! ## Texts that are trimmed in lower case -/

theorem trimChars_eq_self_of_lowerChars {s : List Char} (h : lowerChars (trimChars s) = lowerChars s) :
    trimChars s = s := by
  obtain ⟨l, r, hl, hr, hs⟩ := exists_pad s
  have hpad : lowerChars (l ++ trimChars s ++ r) = l ++ lowerChars (trimChars s) ++ r :=
    lowerChars_pad hl hr (trimChars s)
  rw [← hs, ← h] at hpad
  -- both sides have the same text in the middle, so nothing is left for the blanks
  have hlen := congrArg List.length hpad
  simp only [List.length_append] at hlen
  have hl' : l = [] := List.eq_nil_of_length_eq_zero (by omega)
  have hr' : r = [] := List.eq_nil_of_length_eq_zero (by omega)
  rw [hl', hr', List.nil_append, List.append_nil] at hs
  exact hs.symm

section
variable {s t : String} (h : lower s = lower (trim t))
include h

theorem lower_trim_of_lower_eq : lower (trim s) = lower (trim t) :=
  calc lower (trim s)
      = trim (lower (trim t)) := by rw [lower_trim, h]
    _ = lower (trim t) := by rw [← lower_trim, trim_trim]

theorem trim_eq_self_of_lower_eq : trim s = s := by
  have hs : lower (trim s) = lower s := (lower_trim_of_lower_eq h).trans h.symm
  rw [lower, lower, trim, String.toList_ofList, String.ofList_inj] at hs
  rw [trim, trimChars_eq_self_of_lowerChars hs, String.ofList_toList]

end

end ClauseQuery
