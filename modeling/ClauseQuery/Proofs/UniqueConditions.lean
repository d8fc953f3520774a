import ClauseQuery.Proofs.Literals

/-!
# Conditions with one text

The sign and the bracket after the field tell the comparison, the commas outside literals part the
operands.
-/

namespace ClauseQuery

/-! ## Around the operands -/

namespace Comparison

/-- What stands between the field and the operands. -/
def sign (c : Comparison) : String := if c.takesArray then "=" else c.token

def opening (c : Comparison) : String := (c.brackets.map Prod.fst).getD ""

def closing (c : Comparison) : String := (c.brackets.map Prod.snd).getD ""

def isOpening (c : Char) : Bool := c ∈ ['[', '(', '\x7b', '!']

theorem mem_all (c : Comparison) : c ∈ all := by
  cases c <;> decide

theorem sign_no_blank (c : Comparison) : ∀ d ∈ c.sign.toList, (d != ' ') = true := by
  apply List.all_eq_true.1
  cases c <;> decide

theorem opening_isOpening (c : Comparison) : ∀ d ∈ c.opening.toList, isOpening d = true := by
  apply List.all_eq_true.1
  cases c <;> decide

theorem eq_of_sign_of_opening {c c' : Comparison} (hs : c.sign = c'.sign) (ho : c.opening = c'.opening) :
    c = c' := by
  have hall : ∀ c ∈ all, ∀ c' ∈ all, c.sign = c'.sign → c.opening = c'.opening → c = c' := by decide
  exact hall c (mem_all c) c' (mem_all c') hs ho

end Comparison

theorem not_isOpening_of_isDigit {c : Char} (h : c.isDigit = true) : Comparison.isOpening c = false := by
  unfold Comparison.isOpening
  apply decide_eq_false
  intro hc
  simp only [List.mem_cons, List.not_mem_nil, or_false] at hc
  rcases hc with rfl | rfl | rfl | rfl <;> exact absurd h (by decide)

theorem Numeral.head_text (n : Numeral) : ∃ c ∈ n.text.head?, Comparison.isOpening c = false := by
  obtain ⟨c, cs, hc⟩ := List.exists_cons_of_ne_nil n.whole_ne_nil
  rw [text, hc]
  cases n.negative with
  | true => exact ⟨'-', rfl, rfl⟩
  | false =>
    refine ⟨c, rfl, not_isOpening_of_isDigit (n.whole_digits c ?_)⟩
    rw [hc]
    exact List.mem_cons_self ..

theorem Value.head_literal {v : Value} {s : String} (h : v.literal = .ok s) :
    ∃ c ∈ s.toList.head?, Comparison.isOpening c = false := by
  unfold literal at h
  split at h
  · rename_i b
    rw [← Except.ok.inj h]
    cases b
    · exact ⟨'0', rfl, rfl⟩
    · exact ⟨'1', rfl, rfl⟩
  · rw [← (integerText_eq_ok.1 h).2, ← Numeral.text_ofInt]
    exact Numeral.head_text _
  · rename_i x
    split at h
    · obtain ⟨n, hn, -⟩ := x.exists_numeral
      rw [← Except.ok.inj h, hn]
      exact n.head_text
    · cases h
  · obtain ⟨text, -, h⟩ := bind_eq_ok.1 h
    rw [← Except.ok.inj h, quote, String.toList_ofList]
    exact ⟨'"', rfl, rfl⟩

/-! ## Operands -/

namespace Condition

def operandValues? (c : Comparison) (v : Value) : Option (List Value) :=
  if c.takesArray then arrayElements? v else some [v]

theorem arrayElements_ne_nil {v : Value} {xs : List Value} (h : arrayElements? v = some xs) :
    xs ≠ [] := by
  unfold arrayElements? at h
  split at h <;> simp_all

theorem literals_of_arrayOperands {c : Comparison} {v : Value} {ss : List String}
    (h : arrayOperands c v = .ok ss) :
    ∃ xs, arrayElements? v = some xs ∧ List.Forall₂ Value.HasLiteral xs ss := by
  unfold arrayOperands at h
  split at h
  · cases h
  · rename_i xs hxs
    refine ⟨xs, hxs, ?_⟩
    split at h
    · cases h
    · rename_i hnone
      have hscalar : ∀ x ∈ xs, x.isScalar = true := by
        intro x hx
        simpa using List.findIdx?_eq_none_iff.1 hnone x hx
      refine ((List.forall₂_and_left _ _).2 ⟨hscalar, mapM_eq_ok.1 h⟩).imp ?_
      rintro x s ⟨hx, hs⟩
      exact ⟨hx, hs⟩

theorem hasLiteral_of_scalarOperand {c : Comparison} {v : Value} {s : String}
    (h : scalarOperand c v = .ok s) : v.HasLiteral s := by
  have hs := literal_of_scalarOperand h
  unfold scalarOperand at h
  split at h
  · cases h
  · rename_i hv
    exact ⟨by simpa using hv, hs⟩

theorem origin_of_make {field value comparison : Value} {c : Condition}
    (h : make field value comparison = .ok c) :
    field.trimmed = c.field ∧ resolve Comparison comparison = .ok c.comparison ∧
    ∃ xs, operandValues? c.comparison value = some xs ∧ xs ≠ [] ∧
      List.Forall₂ Value.HasLiteral xs c.operands := by
  obtain ⟨name, hname, h⟩ := bind_eq_ok.1 h
  obtain ⟨o, ho, h⟩ := bind_eq_ok.1 h
  obtain ⟨w, rfl, -, rfl⟩ := checkedField_eq_ok.1 hname
  unfold operandValues?
  split at h
  · rename_i harray
    obtain ⟨ss, hss, h⟩ := bind_eq_ok.1 h
    obtain rfl := Except.ok.inj h
    obtain ⟨xs, hxs, hliterals⟩ := literals_of_arrayOperands hss
    exact ⟨rfl, ho, xs, by rw [if_pos harray, hxs], arrayElements_ne_nil hxs, hliterals⟩
  · rename_i hscalar
    obtain ⟨s, hs, h⟩ := bind_eq_ok.1 h
    obtain rfl := Except.ok.inj h
    exact ⟨rfl, ho, [value], if_neg hscalar, List.cons_ne_nil _ _, .cons (hasLiteral_of_scalarOperand hs) .nil⟩

/-! ## Reading a condition -/

theorem toList_text (c : Condition) : c.text.toList = c.field.toList ++ ' ' :: (c.comparison.sign.toList ++
    ' ' :: (c.comparison.opening.toList ++
      ((",".intercalate c.operands).toList ++ c.comparison.closing.toList))) := by
  obtain ⟨field, comparison, operands⟩ := c
  cases comparison <;>
    simp [text, Comparison.sign, Comparison.opening, Comparison.closing, Comparison.brackets,
      Comparison.takesArray, Comparison.token]

structure Readable (c : Condition) : Prop where
  field : ' ' ∉ c.field.toList
  operands_ne_nil : c.operands ≠ []
  operands : ∀ s ∈ c.operands, ∃ v, Value.literal v = .ok s

theorem Readable.head {c : Condition} (h : c.Readable) (t : List Char) :
    ∀ d ∈ ((",".intercalate c.operands).toList ++ t).head?, Comparison.isOpening d = false := by
  obtain ⟨s, ss, hops⟩ := List.exists_cons_of_ne_nil h.operands_ne_nil
  obtain ⟨v, hv⟩ := h.operands s (by rw [hops]; exact List.mem_cons_self ..)
  obtain ⟨d, hd, hopen⟩ := v.head_literal hv
  have hne : s.toList ≠ [] := by
    intro hs
    rw [hs] at hd
    cases hd
  have hhead : ((",".intercalate c.operands).toList ++ t).head? = s.toList.head? := by
    rw [hops, String.toList_intercalate]
    cases ss with
    | nil =>
      rw [List.map_singleton, List.intercalate_singleton]
      exact head?_append_of_ne_nil hne
    | cons s' ss =>
      rw [List.map_cons, List.map_cons, List.intercalate_cons_cons, List.append_assoc, List.append_assoc]
      exact head?_append_of_ne_nil hne
  rw [hhead, hd]
  intro d' hd'
  cases hd'
  exact hopen

theorem Readable.sealed {c : Condition} (h : c.Readable) : ∀ s ∈ c.operands, Sealed [','] s.toList := by
  intro s hs
  obtain ⟨v, hv⟩ := h.operands s hs
  exact (v.sealed_literal hv).mono (by decide)

/-- **A condition is read off its text.** -/
theorem Readable.eq_of_text {c c' : Condition} (h : c.Readable) (h' : c'.Readable)
    (ht : c.text = c'.text) : c = c' := by
  have hblank : ∀ t : List Char, ∀ d ∈ (' ' :: t).head?, (d != ' ') = false := by
    intro t d hd
    cases hd
    rfl
  have hfield : ∀ {c : Condition}, c.Readable → ∀ d ∈ c.field.toList, (d != ' ') = true := by
    intro c h d hd
    exact bne_iff_ne.2 fun hd' => h.field (hd' ▸ hd)
  have hl : c.text.toList = c'.text.toList := by rw [ht]
  rw [toList_text, toList_text] at hl
  -- each part ends at the first character that it cannot have
  obtain ⟨hf, hl⟩ := append_inj_of_head (hfield h) (hfield h') (hblank _) (hblank _) hl
  obtain ⟨hs, hl⟩ := append_inj_of_head (Comparison.sign_no_blank _) (Comparison.sign_no_blank _)
    (hblank _) (hblank _) (List.cons.inj hl).2
  obtain ⟨ho, hl⟩ := append_inj_of_head (Comparison.opening_isOpening _) (Comparison.opening_isOpening _)
    (h.head _) (h'.head _) (List.cons.inj hl).2
  have hc : c.comparison = c'.comparison :=
    Comparison.eq_of_sign_of_opening (String.toList_inj.1 hs) (String.toList_inj.1 ho)
  rw [hc] at hl
  have hsplit : splitOutside ',' (",".intercalate c.operands).toList =
      splitOutside ',' (",".intercalate c'.operands).toList := by
    rw [List.append_cancel_right hl]
  rw [Query.splitOutside_commas h.operands_ne_nil h.sealed,
    Query.splitOutside_commas h'.operands_ne_nil h'.sealed] at hsplit
  have hops := (List.map_inj_right fun _ _ => String.toList_inj.1).1 hsplit
  obtain ⟨⟩ := c
  obtain ⟨⟩ := c'
  cases String.toList_inj.1 hf
  cases hc
  cases hops
  rfl

theorem readable_of_make {field value comparison : Value} {c : Condition}
    (h : make field value comparison = .ok c) (hf : ' ' ∉ field.trimmed.toList) : c.Readable := by
  obtain ⟨hfield, -, xs, -, hne, hliterals⟩ := origin_of_make h
  refine ⟨by rwa [← hfield], ?_, (parts_of_make h).2⟩
  intro hnil
  rw [hnil, List.forall₂_nil_right_iff] at hliterals
  exact hne hliterals

theorem agrees_of_literals {xs xs' : List Value} {ss : List String} (h : List.Forall₂ Value.HasLiteral xs ss)
    (h' : List.Forall₂ Value.HasLiteral xs' ss) : List.Forall₂ Value.Agrees xs xs' := by
  induction h generalizing xs' with
  | nil =>
    cases h'
    exact .nil
  | cons hx _ ih =>
    cases h' with
    | cons hx' hxs' => exact .cons (hx.agrees hx') (ih hxs')

end Condition

/-- **Conditions with one text have one field, one comparison and values that agree.** -/
theorem condition_text_unique {field field' value value' comparison comparison' : Value} {s : String}
    (hf : ' ' ∉ field.trimmed.toList) (hf' : ' ' ∉ field'.trimmed.toList)
    (h : (Condition.make field value comparison).map Condition.text = .ok s)
    (h' : (Condition.make field' value' comparison').map Condition.text = .ok s) :
    field.trimmed = field'.trimmed ∧
    (∃ c, resolve Comparison comparison = .ok c ∧ resolve Comparison comparison' = .ok c) ∧
    (value.Agrees value' ∨ ∃ xs xs', Condition.arrayElements? value = some xs ∧
      Condition.arrayElements? value' = some xs' ∧ List.Forall₂ Value.Agrees xs xs') := by
  obtain ⟨c, hc, rfl⟩ := map_eq_ok.1 h
  obtain ⟨c', hc', ht⟩ := map_eq_ok.1 h'
  have heq : c' = c :=
    (Condition.readable_of_make hc' hf').eq_of_text (Condition.readable_of_make hc hf) ht
  rw [heq] at hc'
  obtain ⟨hfield, hcomparison, xs, hxs, -, hliterals⟩ := Condition.origin_of_make hc
  obtain ⟨hfield', hcomparison', xs', hxs', -, hliterals'⟩ := Condition.origin_of_make hc'
  have hagrees := Condition.agrees_of_literals hliterals hliterals'
  refine ⟨hfield.trans hfield'.symm, ⟨_, hcomparison, hcomparison'⟩, ?_⟩
  unfold Condition.operandValues? at hxs hxs'
  by_cases harray : c.comparison.takesArray = true
  · rw [if_pos harray] at hxs hxs'
    exact Or.inr ⟨xs, xs', hxs, hxs', hagrees⟩
  · rw [if_neg harray] at hxs hxs'
    cases hxs
    cases hxs'
    cases hagrees with
    | cons hv _ => exact Or.inl hv

/-- An integer and a number have one text, and so have a flag and an integer. -/
theorem condition_text_unique_rounded :
    let xs : List Value := [.integer 10000000000000000, "],\"", .flag true]
    let xs' : List Value := [.real (Binary64.tenToSixteen false), "],\"", 1]
    let s := "a = [10000000000000000,\"],\\\"\",1]"
    (Condition.make " a" (.list xs) "[]").map Condition.text = .ok s ∧
    (Condition.make "a " (.tuple xs') Comparison.containsAll).map Condition.text = .ok s ∧
    List.Forall₂ Value.Agrees xs xs' := by
  intro xs xs' s
  have hplain : (Binary64.tenToSixteen false).plain = "10000000000000000" := by decide +kernel
  have h : (Condition.make " a" (.list xs) "[]").map Condition.text = .ok s := rfl
  have h' : (Condition.make "a " (.tuple xs') Comparison.containsAll).map Condition.text = .ok s := by
    have hreal : (Value.real (Binary64.tenToSixteen false)).literal = .ok "10000000000000000" :=
      Value.literal_real_eq_ok.2 ⟨rfl, hplain.symm⟩
    have hoperands : Condition.arrayOperands .containsAll (.tuple xs') =
        .ok ["10000000000000000", "\"],\\\"\"", "1"] :=
      mapM_eq_ok.2 (.cons hreal (.cons rfl (.cons rfl .nil)))
    have hmake : Condition.make "a " (.tuple xs') Comparison.containsAll =
        do return ⟨"a", .containsAll, ← Condition.arrayOperands .containsAll (.tuple xs')⟩ := rfl
    rw [hmake, hoperands]
    rfl
  have hagrees : List.Forall₂ Value.Agrees xs xs' := by
    obtain ⟨-, -, hagrees | ⟨ys, ys', hys, hys', hagrees⟩⟩ :=
      condition_text_unique (by decide) (by decide) h h'
    · cases hagrees with
      | integers hv => cases hv
    · cases hys
      cases hys'
      exact hagrees
  exact ⟨h, h', hagrees⟩

end ClauseQuery
