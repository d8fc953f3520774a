import ClauseQuery.Proofs.Lowering

/-!
# Choices among options

No word chooses an option with blanks around it, which is why a refusal may list what it refuses.
-/

namespace ClauseQuery

namespace Check

variable {α : Type} {spelling : α → String} {options : List α} {w : Word} {param : String}

theorem choose_eq_ok_iff {o : α} : choose spelling options w param = .ok o ↔
    lower (spelling o) = lower (trim w.token) ∧ ∃ before after, options = before ++ o :: after ∧
      ∀ o' ∈ before, lower (spelling o') ≠ lower (trim w.token) := by
  have hfind : choose spelling options w param = .ok o ↔
      (options.find? fun o => lower (spelling o) == lower (trim w.token)) = some o := by
    unfold choose
    split
    · rename_i o' ho
      rw [ho, Option.some.injEq]
      exact ⟨fun h => Except.ok.inj h, fun h => congrArg Except.ok h⟩
    · rename_i hnone
      rw [hnone]
      exact ⟨fun h => (by cases h), fun h => (by cases h)⟩
  rw [hfind, List.find?_eq_some_iff_append]
  simp only [beq_iff_eq, Bool.not_eq_true', beq_eq_false_iff_ne]

theorem choose_eq_ok {o : α} (h : choose spelling options w param = .ok o) :
    o ∈ options ∧ lower (spelling o) = lower (trim w.token) := by
  obtain ⟨ho, before, after, rfl, -⟩ := choose_eq_ok_iff.1 h
  exact ⟨List.mem_append_right _ (List.mem_cons_self ..), ho⟩

theorem choose_eq_error_iff {f : Fault} : choose spelling options w param = .error f ↔
    f = .notAnOption (options.map spelling) param ∧
      ∀ o ∈ options, lower (spelling o) ≠ lower (trim w.token) := by
  unfold choose
  split
  · rename_i o ho
    have hlower : lower (spelling o) = lower (trim w.token) := by simpa using List.find?_some ho
    exact ⟨fun h => (by cases h), fun h => absurd hlower (h.2 o (List.mem_of_find?_eq_some ho))⟩
  · rename_i hnone
    have hne : ∀ o ∈ options, lower (spelling o) ≠ lower (trim w.token) := by
      simpa using List.find?_eq_none.1 hnone
    exact ⟨fun h => ⟨(Except.error.inj h).symm, hne⟩, fun h => congrArg Except.error h.1.symm⟩

theorem exists_choose_iff : (∃ o, choose spelling options w param = .ok o) ↔
    ∃ o ∈ options, lower (spelling o) = lower (trim w.token) := by
  constructor
  · rintro ⟨o, h⟩
    exact ⟨o, choose_eq_ok h⟩
  · rintro ⟨o, hm, ho⟩
    cases h : choose spelling options w param with
    | ok o' => exact ⟨o', rfl⟩
    | error f => exact absurd ho ((choose_eq_error_iff.1 h).2 o hm)

section
variable {o : α} (h : choose spelling options w param = .ok o)
include h

theorem trim_of_choose : trim (spelling o) = spelling o :=
  trim_eq_self_of_lower_eq (choose_eq_ok h).2

/-- What was chosen is chosen again, whatever the argument is called. -/
theorem choose_again {w' : Word} (hw : w'.token = spelling o) (param' : String) :
    choose spelling options w' param' = .ok o := by
  obtain ⟨ho, hfirst⟩ := choose_eq_ok_iff.1 h
  rw [choose_eq_ok_iff, hw, lower_trim_of_lower_eq ho]
  exact ⟨ho, hfirst⟩

end

end Check

/-- **A word is taken just where it spells an option without blanks around it.** It chooses the first such
option, which chooses itself; a refusal lists the options. -/
theorem choice_made_iff (options : List Word) (param : String) :
    let choose := fun w => Check.choose Word.token options w param
    (∀ w, (∃ r, choose w = .ok r) ↔
      ∃ o ∈ options, trim o.token = o.token ∧ lower o.token = lower (trim w.token)) ∧
    (∀ o ∈ options, trim o.token = o.token → ∃ r, choose o = .ok r) ∧
    (∀ w r, choose w = .ok r →
      r ∈ options ∧ trim r.token = r.token ∧ lower r.token = lower (trim w.token) ∧
      (∃ before after, options = before ++ r :: after ∧ ∀ o ∈ before, lower o.token ≠ lower r.token) ∧
      choose r = .ok r) ∧
    ∀ w f, choose w = .error f ↔ f = .notAnOption (options.map Word.token) param ∧
      ∀ o ∈ options, lower o.token ≠ lower (trim w.token) := by
  intro choose
  have htaken : ∀ w, (∃ r, choose w = .ok r) ↔
      ∃ o ∈ options, trim o.token = o.token ∧ lower o.token = lower (trim w.token) := by
    intro w
    rw [Check.exists_choose_iff]
    constructor
    · rintro ⟨o, hm, ho⟩
      exact ⟨o, hm, trim_eq_self_of_lower_eq ho, ho⟩
    · rintro ⟨o, hm, -, ho⟩
      exact ⟨o, hm, ho⟩
  refine ⟨htaken, fun o hm ht => ?_, fun w r h => ?_, fun w f => Check.choose_eq_error_iff⟩
  · exact (htaken o).2 ⟨o, hm, ht, by rw [ht]⟩
  · obtain ⟨hlower, before, after, hsplit, hfirst⟩ := Check.choose_eq_ok_iff.1 h
    refine ⟨(Check.choose_eq_ok h).1, Check.trim_of_choose h, hlower, ⟨before, after, hsplit, ?_⟩,
      Check.choose_again h rfl param⟩
    rw [hlower]
    exact hfirst

/-- The first option is spelled like the third and chooses that; the last is spelled like no other. -/
theorem choice_made_iff_padded :
    let options : List Word := [.plain " a", .plain "B", .plain "A", .plain "b", .plain "c\t"]
    let choose := fun w => Check.choose Word.token options w "pick"
    Word.plain " a" ∈ options ∧ choose (.plain " a") = .ok (.plain "A") ∧
    choose (.plain "A") = .ok (.plain "A") ∧
    Word.plain "b" ∈ options ∧ trim "b" = "b" ∧ (∃ r, choose (.plain "b") = .ok r ∧ lower r.token = "b") ∧
    Word.plain "c\t" ∈ options ∧
    choose (.plain "c\t") = .error (.notAnOption [" a", "B", "A", "b", "c\t"] "pick") := by
  intro options choose
  obtain ⟨htaken, hself, hchosen, hrefused⟩ := choice_made_iff options "pick"
  obtain ⟨r, hr⟩ := (htaken (.plain " a")).2 ⟨.plain "A", by decide, by decide, by decide +kernel⟩
  obtain ⟨hm, ht, hlower, -, hagain⟩ := hchosen _ r hr
  have honly : ∀ r ∈ options, trim r.token = r.token → lower r.token = lower (trim " a") →
      r = .plain "A" := by decide +kernel
  obtain rfl := honly r hm ht hlower
  obtain ⟨r', hr'⟩ := hself (.plain "b") (by decide) (by decide)
  obtain ⟨-, -, hlower', -, -⟩ := hchosen _ r' hr'
  have hb : lower (trim "b") = "b" := by decide +kernel
  refine ⟨by decide, hr, hagain, by decide, by decide, ⟨r', hr', hlower'.trans hb⟩, by decide, ?_⟩
  exact (hrefused (.plain "c\t") _).2 ⟨rfl, by decide +kernel⟩

theorem padded_option_refused :
    let options : List Word := [.plain " a"]
    Word.plain " a" ∈ options ∧ ∃ f, Check.choose Word.token options (.plain " a") = .error f ∧
      f.message = "value must be one of:  a" := by
  intro options
  have hnone : ∀ o ∈ options, lower o.token ≠ lower (trim " a") := by decide +kernel
  exact ⟨List.mem_singleton_self _, _, Check.choose_eq_error_iff.2 ⟨rfl, hnone⟩, rfl⟩

end ClauseQuery
