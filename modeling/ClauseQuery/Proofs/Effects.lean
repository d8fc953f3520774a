import ClauseQuery.Proofs.Checks
import ClauseQuery.Query.Call
import ClauseQuery.Query.Runs

/-!
# What each call does

A call is refused, or has an effect that depends on the query alone (`outcome_eq`).
-/

namespace ClauseQuery

namespace Call

structure Effect where
  reply : Reply := .done
  log : List LogRecord := []
  query : Query

open QueryM in
def effect (q : Query) : Call → Except Fault Effect
  | select fields =>
    if isLoneWildcard fields then .ok { query := { q with fields := [wildcard] } }
    else (checkedFields fields).map fun fs =>
      { log := [selectionRecord fs], query := { q with fields := fs } }
  | addFields fields => (checkedFields fields).map fun fs =>
    { query := { q with fields := (q.fields ++ fs).eraseDups } }
  | exclude fields => (checkedFields fields).map fun fs =>
    { query := { q with excluded := (q.excluded ++ fs).eraseDups } }
  | startWhere v => (q.chain.start v).map fun chain => { query := { q with chain } }
  | andWhere v => (q.chain.and v).map fun chain => { query := { q with chain } }
  | orWhere v => (q.chain.or v).map fun chain => { query := { q with chain } }
  | appendEntry e => .ok { reply := .absent, query := { q with chain := q.chain.append e } }
  | replaceEntries es => .ok { reply := .absent, query := { q with chain := ⟨es⟩ } }
  | sort field direction => do
    let field ← Check.nonBlank field "sort field"
    let direction ← resolve Direction direction "sort direction"
    return { query := { q with sortTexts := q.sortTexts ++ [SortKey.text ⟨field, direction⟩] } }
  | limit n => (Check.positive n "limit").map fun n => { query := { q with limit := some n } }
  | offset n => (Check.nonNegative n "offset").map fun n =>
    { query := { q with offset := some n } }
  | search term => (Check.nonBlank term "search term").map fun term =>
    { log := [searchRecord term], query := { q with search := some term } }
  | clear => .ok { query := q.cleared }
  | enableStrict enabled => .ok { query := { q with strict := enabled.isTruthy } }
  | condition field v comparison => (Condition.make field v comparison).map fun c =>
    { reply := .text c.text, log := c.records, query := q }
  | conditions => q.chain.render.map fun text =>
    { reply := (text.map .text).getD .absent, query := q }
  | build => q.build.map fun text => { reply := .text text, query := q }
  | display =>
    match q.build with
    | .ok text => .ok { reply := .text text, query := q }
    | .error f =>
      if q.strict then .error f
      else .ok { reply := .text sentinel, log := [failureRecord f], query := q }
  | summary => q.summary.map fun text => { reply := .text text, query := q }
  | read slot => .ok { reply := q.read slot, query := q }

/-- The outcome of a call with effect `r`: one that is refused leaves the query and no record. -/
def Outcome.ofEffect (q : Query) : Except Fault Effect → Outcome
  | .ok e => ⟨.ok e.reply, e.log, e.query⟩
  | .error f => ⟨.error f, [], q⟩

theorem run_bind_reply {α} (m : QueryM α) (k : α → Reply) (s : Session) :
    (m >>= fun a => pure (k a) : QueryM Reply).run s =
      (((m.run s).1.map k), (m.run s).2) := by
  change (ExceptT.bindCont (fun a => pure (k a)) ((m.run s).1) : StateM Session _).run (m.run s).2 = _
  cases (m.run s).1 <;> rfl

theorem outcome_eq (call : Call) (q : Query) :
    call.outcome q = .ofEffect q (call.effect q) := by
  cases call with
  | select fields =>
    simp only [outcome, exec, effect, run_bind_reply, QueryM.run_select]
    split
    · rfl
    · cases QueryM.checkedFields fields <;> rfl
  | addFields fields =>
    simp only [outcome, exec, effect, run_bind_reply, QueryM.run_addFields]
    cases QueryM.checkedFields fields <;> rfl
  | exclude fields =>
    simp only [outcome, exec, effect, run_bind_reply, QueryM.run_exclude]
    cases QueryM.checkedFields fields <;> rfl
  | startWhere v =>
    simp only [outcome, exec, effect, run_bind_reply, QueryM.startWhere, QueryM.run_onChain]
    cases q.chain.start v <;> rfl
  | andWhere v =>
    simp only [outcome, exec, effect, run_bind_reply, QueryM.andWhere, QueryM.run_onChain]
    cases q.chain.and v <;> rfl
  | orWhere v =>
    simp only [outcome, exec, effect, run_bind_reply, QueryM.orWhere, QueryM.run_onChain]
    cases q.chain.or v <;> rfl
  | sort field direction =>
    simp only [outcome, exec, effect, run_bind_reply, QueryM.run_sort]
    cases Check.nonBlank field "sort field" with
    | error f => rfl
    | ok field => cases resolve Direction direction "sort direction" <;> rfl
  | limit n =>
    simp only [outcome, exec, effect, run_bind_reply, QueryM.run_limit]
    cases Check.positive n "limit" <;> rfl
  | offset n =>
    simp only [outcome, exec, effect, run_bind_reply, QueryM.run_offset]
    cases Check.nonNegative n "offset" <;> rfl
  | search term =>
    simp only [outcome, exec, effect, run_bind_reply, QueryM.run_search]
    cases Check.nonBlank term "search term" <;> rfl
  | condition field v comparison =>
    simp only [outcome, exec, effect, run_bind_reply, QueryM.run_condition]
    cases Condition.make field v comparison <;> rfl
  | conditions =>
    simp only [outcome, exec, effect, run_bind_reply, QueryM.run_conditions]
    cases q.chain.render <;> rfl
  | build =>
    simp only [outcome, exec, effect, run_bind_reply, QueryM.run_build]
    cases q.build <;> rfl
  | display =>
    simp only [outcome, exec, effect, run_bind_reply, QueryM.run_display]
    cases q.build with
    | ok text => rfl
    | error f => cases q.strict <;> rfl
  | summary =>
    simp only [outcome, exec, effect, run_bind_reply, QueryM.run_summary]
    cases q.summary <;> rfl
  | appendEntry e => rfl
  | replaceEntries es => rfl
  | clear => rfl
  | enableStrict enabled => rfl
  | read slot => rfl

end Call

theorem Query.step_eq (q : Query) (call : Call) :
    q.step call = match call.effect q with
      | .ok e => e.query
      | .error _ => q := by
  rw [step, Call.outcome_eq]
  cases call.effect q <;> rfl

theorem Query.run_cons (q : Query) (call : Call) (calls : List Call) :
    q.run (call :: calls) = (q.step call).run calls := rfl

section
variable {P : Query → Prop}

theorem Query.step_of_effect {q : Query} {call : Call} (hq : P q)
    (h : ∀ e, call.effect q = .ok e → P e.query) : P (q.step call) := by
  rw [step_eq]
  cases he : call.effect q with
  | error f => exact hq
  | ok e => exact h e he

theorem Query.run_induction {C : Call → Prop} (hstep : ∀ {q call}, P q → C call → P (q.step call))
    {calls : List Call} {q : Query} (hq : P q) (hc : ∀ call ∈ calls, C call) : P (q.run calls) := by
  induction calls generalizing q with
  | nil => exact hq
  | cons call calls ih =>
    obtain ⟨hcall, hcalls⟩ := List.forall_mem_cons.1 hc
    rw [run_cons]
    exact ih (hstep hq hcall) hcalls

end

end ClauseQuery
