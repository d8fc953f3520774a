import ClauseQuery.Proofs.Frame

/-!
# Clauses are set in any order

Calls that set one slot do the same when all other calls are taken out of the run.
-/

namespace ClauseQuery

theorem Query.eq_of_agreesAt {q q' : Query} (h : ∀ slot, q.AgreesAt q' slot) : q = q' := by
  obtain ⟨strict, fields, excluded, chain, sortTexts, limit, offset, search⟩ := q
  rw [Query.mk.injEq]
  exact ⟨h .strict, h .fields, h .excluded, h .conditions, h .sortTexts, h .limit, h .offset, h .search⟩

theorem Query.AgreesAt.trans {q q' q'' : Query} {slot : Slot} (h : q.AgreesAt q' slot)
    (h' : q'.AgreesAt q'' slot) : q.AgreesAt q'' slot := by
  cases slot <;> exact Eq.trans h h'

theorem Query.AgreesAt.symm {q q' : Query} {slot : Slot} (h : q.AgreesAt q' slot) :
    q'.AgreesAt q slot := by
  cases slot <;> exact Eq.symm h

theorem Query.AgreesAt.refl (q : Query) (slot : Slot) : q.AgreesAt q slot := by
  cases slot <;> rfl

namespace Call

def sets (slot : Slot) (call : Call) : Bool := call.owned == [slot]

theorem sets_iff {slot : Slot} {call : Call} : call.sets slot = true ↔ call.owned = [slot] := by
  unfold sets
  exact beq_iff_eq

theorem not_mem_owned {call : Call} (hc : call ≠ .clear) {slot : Slot} (h : call.sets slot = false) :
    slot ∉ call.owned := by
  intro hm
  cases call with
  | clear => exact hc rfl
  | _ => simp_all [sets, owned]

/-! ## One call -/

structure Outcome.AgreesAt (slot : Slot) (o o' : Outcome) : Prop where
  reply : o.reply = o'.reply
  log : o.log = o'.log
  query : o.query.AgreesAt o'.query slot

section
variable {slot : Slot} {q q' : Query} (hq : q.AgreesAt q' slot)
include hq

theorem agreesAt_of_checked {α} (r : Except Fault α) {g g' : α → Effect}
    (h : ∀ a, (g a).reply = (g' a).reply ∧ (g a).log = (g' a).log ∧
      (g a).query.AgreesAt (g' a).query slot) :
    Outcome.AgreesAt slot (.ofEffect q (r.map g)) (.ofEffect q' (r.map g')) := by
  cases r with
  | error f => exact ⟨rfl, rfl, hq⟩
  | ok a =>
    obtain ⟨hr, hl, ha⟩ := h a
    exact ⟨congrArg Except.ok hr, hl, ha⟩

/-- What a call answers and leaves in the slot that it sets hangs on that slot alone. -/
theorem outcome_agreesAt {call : Call} (h : call.sets slot = true) :
    Outcome.AgreesAt slot (call.outcome q) (call.outcome q') := by
  rw [sets_iff] at h
  rw [outcome_eq, outcome_eq]
  cases call with
  | select fields =>
    cases h
    simp only [effect]
    split
    · exact ⟨rfl, rfl, rfl⟩
    · exact agreesAt_of_checked hq _ fun fs => ⟨rfl, rfl, rfl⟩
  | addFields fields =>
    cases h
    refine agreesAt_of_checked hq _ fun fs => ⟨rfl, rfl, ?_⟩
    exact congrArg (fun items => (items ++ fs).eraseDups) hq
  | exclude fields =>
    cases h
    refine agreesAt_of_checked hq _ fun fs => ⟨rfl, rfl, ?_⟩
    exact congrArg (fun items => (items ++ fs).eraseDups) hq
  | startWhere _ | andWhere _ | orWhere _ =>
    cases h
    have hchain : q.chain = q'.chain := hq
    simp only [effect, hchain]
    exact agreesAt_of_checked hq _ fun chain => ⟨rfl, rfl, rfl⟩
  | appendEntry e =>
    cases h
    exact ⟨rfl, rfl, congrArg (Chain.append · e) hq⟩
  | sort field direction =>
    cases h
    simp only [effect]
    cases Check.nonBlank field "sort field" with
    | error f => exact ⟨rfl, rfl, hq⟩
    | ok name =>
      cases resolve Direction direction "sort direction" with
      | error f => exact ⟨rfl, rfl, hq⟩
      | ok d =>
        have htexts : q.sortTexts ++ [SortKey.text ⟨name, d⟩] = q'.sortTexts ++ [SortKey.text ⟨name, d⟩] :=
          congrArg (· ++ _) hq
        exact ⟨rfl, rfl, htexts⟩
  | limit _ | offset _ | search _ =>
    cases h
    exact agreesAt_of_checked hq _ fun a => ⟨rfl, rfl, rfl⟩
  | enableStrict _ | replaceEntries _ =>
    cases h
    exact ⟨rfl, rfl, rfl⟩
  | _ => cases h

end

theorem step_agreesAt {call : Call} (hc : call ≠ .clear) {slot : Slot} (h : call.sets slot = false)
    (q : Query) : (q.step call).AgreesAt q slot := by
  have ho := not_mem_owned hc h
  rw [Query.step_eq]
  cases he : call.effect q with
  | error f => exact .refl q slot
  | ok e => exact effect_agreesAt he ho

end Call

/-! ## Runs -/

namespace Query

/-- What the calls that set `slot` answer and log in a run, one after the other. -/
def answersAt (q : Query) (slot : Slot) (calls : List Call) :
    List (Except Fault Reply × List LogRecord) :=
  (calls.zip (q.trace calls)).filterMap fun made =>
    if made.1.sets slot then some (made.2.reply, made.2.log) else none

theorem answersAt_cons (q : Query) (slot : Slot) (call : Call) (calls : List Call) :
    q.answersAt slot (call :: calls) =
      if call.sets slot then
        ((call.outcome q).reply, (call.outcome q).log) :: (q.step call).answersAt slot calls
      else (q.step call).answersAt slot calls := by
  simp only [answersAt, trace, List.zip_cons_cons, List.filterMap_cons]
  by_cases h : call.sets slot = true
  · simp [h]
  · simp [h]

theorem answersAt_filter {slot : Slot} {calls : List Call} (hc : ∀ call ∈ calls, call ≠ .clear)
    {q q' : Query} (hq : q.AgreesAt q' slot) :
    q.answersAt slot calls = q'.answersAt slot (calls.filter (·.sets slot)) ∧
      (q.run calls).AgreesAt (q'.run (calls.filter (·.sets slot))) slot := by
  induction calls generalizing q q' with
  | nil => exact ⟨rfl, hq⟩
  | cons call calls ih =>
    obtain ⟨hcall, hcalls⟩ := List.forall_mem_cons.1 hc
    rw [answersAt_cons, run_cons]
    by_cases h : call.sets slot = true
    · have ho := Call.outcome_agreesAt hq h
      obtain ⟨ha, hr⟩ := ih hcalls ho.query
      rw [List.filter_cons_of_pos h, answersAt_cons, run_cons, if_pos h, if_pos h, ho.reply, ho.log]
      exact ⟨congrArg _ ha, hr⟩
    · have hs := Call.step_agreesAt hcall (by simpa using h) q
      rw [List.filter_cons_of_neg h, if_neg h]
      exact ih hcalls (hs.trans hq)

end Query

/-- **Clauses are set in any order.** Two runs from one query in which the same calls set each slot in
the same order, however the slots alternate, answer and log the same call by call and leave the same
query. Calls that set nothing may stand anywhere. -/
theorem clauses_set_in_any_order (q : Query) (calls calls' : List Call)
    (hc : ∀ call ∈ calls, call ≠ .clear) (hc' : ∀ call ∈ calls', call ≠ .clear)
    (h : ∀ slot, calls.filter (·.sets slot) = calls'.filter (·.sets slot)) :
    (∀ slot, q.answersAt slot calls = q.answersAt slot calls') ∧ q.run calls = q.run calls' := by
  have hrefl := Query.AgreesAt.refl q
  refine ⟨fun slot => ?_, Query.eq_of_agreesAt fun slot => ?_⟩
  · rw [(Query.answersAt_filter hc (hrefl slot)).1, (Query.answersAt_filter hc' (hrefl slot)).1, h slot]
  · have hr := (Query.answersAt_filter hc (hrefl slot)).2
    have hr' := (Query.answersAt_filter hc' (hrefl slot)).2
    rw [← h slot] at hr'
    exact hr.trans hr'.symm

/-- Refused calls and accepted ones of five slots, put in another order after an entry that nothing
joins. -/
theorem clauses_set_in_any_order_tampered :
    let calls : List Call := [.limit 0, .select ["a..b"], .startWhere "d = 4", .orWhere "c = 3",
      .addFields ["name", "id"], .sort "name" "up", .limit 7, .build, .enableStrict]
    let calls' : List Call := [.enableStrict, .startWhere "d = 4", .select ["a..b"], .sort "name" "up",
      .addFields ["name", "id"], .orWhere "c = 3", .limit 0, .limit 7]
    (∀ slot, calls.filter (·.sets slot) = calls'.filter (·.sets slot)) ∧
    (tampered.answersAt .conditions calls).map (·.1) = [.error .alreadyStarted, .ok .done] ∧
    (∀ slot, tampered.answersAt slot calls = tampered.answersAt slot calls') ∧
    tampered.run calls = tampered.run calls' := by
  intro calls calls'
  have hf : ∀ slot, calls.filter (·.sets slot) = calls'.filter (·.sets slot) := by
    intro slot
    cases slot <;> rfl
  have ha : (tampered.answersAt .conditions calls).map (·.1) = [.error .alreadyStarted, .ok .done] := rfl
  exact ⟨hf, ha, clauses_set_in_any_order tampered calls calls' (by simp [calls]) (by simp [calls']) hf⟩

end ClauseQuery
