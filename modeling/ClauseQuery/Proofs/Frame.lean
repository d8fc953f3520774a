import ClauseQuery.Proofs.Effects

/-! # Refused calls change nothing, accepted ones only what they own -/

namespace ClauseQuery

def Query.AgreesAt (q q' : Query) : Slot → Prop
  | .strict => q.strict = q'.strict
  | .fields => q.fields = q'.fields
  | .excluded => q.excluded = q'.excluded
  | .conditions => q.chain = q'.chain
  | .sortTexts => q.sortTexts = q'.sortTexts
  | .limit => q.limit = q'.limit
  | .offset => q.offset = q'.offset
  | .search => q.search = q'.search

namespace Call

def owned : Call → List Slot
  | select _ | addFields _ => [.fields]
  | exclude _ => [.excluded]
  | startWhere _ | andWhere _ | orWhere _ | appendEntry _ | replaceEntries _ => [.conditions]
  | sort _ _ => [.sortTexts]
  | limit _ => [.limit]
  | offset _ => [.offset]
  | search _ => [.search]
  | clear => [.fields, .excluded, .conditions, .sortTexts, .limit, .offset, .search]
  | enableStrict _ => [.strict]
  | condition _ _ _ | conditions | build | display | summary | read _ => []

theorem effect_agreesAt {call : Call} {q : Query} {e : Effect} (h : call.effect q = .ok e) {slot : Slot}
    (hs : slot ∉ call.owned) : e.query.AgreesAt q slot := by
  cases call with
  | select fields =>
    simp only [effect] at h
    split at h
    · cases h; cases slot <;> simp_all [owned, Query.AgreesAt]
    · obtain ⟨fs, -, rfl⟩ := map_eq_ok.1 h
      cases slot <;> simp_all [owned, Query.AgreesAt]
  | addFields _ | exclude _ | limit _ | offset _ | search _ | startWhere _ | andWhere _ | orWhere _
  | condition _ _ _ | conditions | build | summary =>
    obtain ⟨_, -, rfl⟩ := map_eq_ok.1 h
    cases slot <;> simp_all [owned, Query.AgreesAt]
  | sort field direction =>
    obtain ⟨_, -, h⟩ := bind_eq_ok.1 h
    obtain ⟨_, -, h⟩ := bind_eq_ok.1 h
    cases h
    cases slot <;> simp_all [owned, Query.AgreesAt]
  | display =>
    simp only [effect] at h
    split at h
    · cases h; cases slot <;> rfl
    · split at h
      · cases h
      · cases h; cases slot <;> rfl
  | clear | enableStrict _ | appendEntry _ | replaceEntries _ | read _ =>
    cases h
    cases slot <;> simp_all [owned, Query.AgreesAt, Query.cleared]

def addsCondition : Call → Bool
  | startWhere _ | andWhere _ | orWhere _ | appendEntry _ => true
  | _ => false

def keepsEntries : Call → Bool
  | clear | replaceEntries _ => false
  | _ => true

theorem effect_append {call : Call} {q : Query} {e : Effect} (h : call.effect q = .ok e)
    (hc : call.addsCondition = true) : ∃ entry, e.query.chain = q.chain.append entry := by
  cases call with
  | startWhere v =>
    obtain ⟨c, hv, rfl⟩ := map_eq_ok.1 h
    obtain ⟨text, -, -, rfl⟩ := Chain.start_eq_ok.1 hv
    exact ⟨_, rfl⟩
  | andWhere v =>
    obtain ⟨c, hv, rfl⟩ := map_eq_ok.1 h
    obtain ⟨text, -, rfl⟩ := Chain.and_eq_ok.1 hv
    exact ⟨_, rfl⟩
  | orWhere v =>
    obtain ⟨c, hv, rfl⟩ := map_eq_ok.1 h
    obtain ⟨text, -, -, rfl⟩ := Chain.or_eq_ok.1 hv
    exact ⟨_, rfl⟩
  | appendEntry entry => cases h; exact ⟨entry, rfl⟩
  | _ => cases hc

end Call

theorem Query.chain_step {q : Query} {call : Call} (hc : call.keepsEntries = true) :
    (q.step call).chain = q.chain ∨ ∃ entry, (q.step call).chain = q.chain.append entry := by
  rw [step_eq]
  cases h : call.effect q with
  | error f => exact Or.inl rfl
  | ok e =>
    cases ha : call.addsCondition with
    | true => exact Or.inr (Call.effect_append h ha)
    | false =>
      have hs : Slot.conditions ∉ call.owned := by
        cases call <;> simp_all [Call.owned, Call.addsCondition, Call.keepsEntries]
      exact Or.inl (Call.effect_agreesAt h hs)

/-- **Refused or framed.** No call stops half-way: it leaves the whole query and the log, or it keeps
every slot that it does not own and every entry of the chain. -/
theorem Call.refused_or_framed (call : Call) (q : Query) :
    let o := call.outcome q
    (∀ f, o.reply = .error f → o.query = q ∧ o.log = []) ∧
    (∀ r, o.reply = .ok r →
      (∀ slot, slot ∉ call.owned → o.query.AgreesAt q slot) ∧
      (call.addsCondition = true →
        ∃ entry, o.query.chain.entries = q.chain.entries ++ [entry])) := by
  intro o
  have ho : o = .ofEffect q (call.effect q) := outcome_eq call q
  cases h : call.effect q with
  | error f =>
    rw [h] at ho
    refine ⟨fun _ _ => ?_, fun r hr => ?_⟩
    · rw [ho]; exact ⟨rfl, rfl⟩
    · rw [ho] at hr; cases hr
  | ok e =>
    rw [h] at ho
    refine ⟨fun f hf => ?_, fun _ _ => ⟨fun slot hs => ?_, fun hc => ?_⟩⟩
    · rw [ho] at hf; cases hf
    · rw [ho]; exact effect_agreesAt h hs
    · obtain ⟨entry, he⟩ := effect_append h hc
      exact ⟨entry, by rw [ho]; exact congrArg Chain.entries he⟩

def tampered : Query :=
  { fields := ["id"], chain := ⟨[⟨.opening, "a = 1"⟩, ⟨.stray (.plain "&"), "b = 2"⟩]⟩, limit := some 5 }

/-- The second of two fields is refused, and a condition is accepted after an entry that nothing joins. -/
theorem Call.refused_or_framed_tampered :
    let refused := (Call.addFields ["name", "a..b"]).outcome tampered
    let accepted := (Call.orWhere "c = 3").outcome tampered
    (refused.reply = .error (.blankSegment "a..b" "field") ∧
      refused.query = tampered ∧ refused.log = []) ∧
    accepted.reply = .ok .done ∧ accepted.query.limit = some 5 ∧
    ∃ entry, accepted.query.chain.entries = tampered.chain.entries ++ [entry] := by
  intro refused accepted
  have hr : refused.reply = .error (.blankSegment "a..b" "field") := rfl
  have ha : accepted.reply = .ok .done := rfl
  have hf := (refused_or_framed (.addFields ["name", "a..b"]) tampered).1 _ hr
  obtain ⟨hk, hc⟩ := (refused_or_framed (.orWhere "c = 3") tampered).2 _ ha
  exact ⟨⟨hr, hf⟩, ha, hk .limit (by decide), hc rfl⟩

end ClauseQuery
