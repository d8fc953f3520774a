import ClauseQuery.Proofs.Reordering
import ClauseQuery.Proofs.Stray

/-!
# Strictness is inert but for showing

A run goes in lockstep with the run of its other calls on the query without its strictness.
-/

namespace ClauseQuery

def Query.lax (q : Query) : Query := { q with strict := false }

theorem Query.step_eq_self {call : Call} (h : call.owned = []) (q : Query) : q.step call = q := by
  have hc : call ≠ .clear := by
    rintro rfl
    cases h
  refine eq_of_agreesAt fun slot => Call.step_agreesAt hc ?_ q
  rw [Call.sets, h]
  rfl

/-! ## One call -/

namespace Call

def setsStrict : Call → Bool
  | enableStrict _ => true
  | _ => false

def tellsStrict : Call → Bool
  | display | summary | read .strict => true
  | _ => false

def Effect.lax (e : Effect) : Effect := { e with query := e.query.lax }

theorem effect_lax {call : Call} (hs : call.setsStrict = false) (ht : call.tellsStrict = false)
    (q : Query) : call.effect q.lax = (call.effect q).map Effect.lax := by
  cases call with
  | select fields =>
    simp only [effect]
    split
    · rfl
    · cases QueryM.checkedFields fields <;> rfl
  | addFields fields | exclude fields =>
    simp only [effect]
    cases QueryM.checkedFields fields <;> rfl
  | startWhere v =>
    simp only [effect, Query.lax]
    cases q.chain.start v <;> rfl
  | andWhere v =>
    simp only [effect, Query.lax]
    cases q.chain.and v <;> rfl
  | orWhere v =>
    simp only [effect, Query.lax]
    cases q.chain.or v <;> rfl
  | sort field direction =>
    simp only [effect]
    cases Check.nonBlank field "sort field" with
    | error f => rfl
    | ok name => cases resolve Direction direction "sort direction" <;> rfl
  | limit n =>
    simp only [effect]
    cases Check.positive n "limit" <;> rfl
  | offset n =>
    simp only [effect]
    cases Check.nonNegative n "offset" <;> rfl
  | search term =>
    simp only [effect]
    cases Check.nonBlank term "search term" <;> rfl
  | condition field v comparison =>
    simp only [effect]
    cases Condition.make field v comparison <;> rfl
  | conditions =>
    simp only [effect, Query.lax]
    cases q.chain.render <;> rfl
  | build =>
    have hb : q.lax.build = q.build := rfl
    simp only [effect, hb]
    cases q.build <;> rfl
  | read slot =>
    cases slot with
    | strict => cases ht
    | _ => rfl
  | enableStrict v => cases hs
  | display | summary => cases ht
  | appendEntry _ | replaceEntries _ | clear => rfl

theorem outcome_lax {call : Call} (ht : call.tellsStrict = false) (q : Query) :
    (call.outcome q.lax).reply = (call.outcome q).reply ∧
      (call.outcome q.lax).log = (call.outcome q).log := by
  by_cases hs : call.setsStrict = true
  · cases call with
    | enableStrict v => exact ⟨rfl, rfl⟩
    | _ => cases hs
  · rw [outcome_eq, outcome_eq, effect_lax (by simpa using hs) ht]
    cases call.effect q <;> exact ⟨rfl, rfl⟩

theorem step_lax {call : Call} (hs : call.setsStrict = false) (q : Query) :
    q.lax.step call = (q.step call).lax := by
  cases ht : call.tellsStrict with
  | true =>
    have ho : call.owned = [] := by
      cases call <;> simp_all [tellsStrict, owned]
    rw [Query.step_eq_self ho, Query.step_eq_self ho]
  | false =>
    rw [Query.step_eq, Query.step_eq, effect_lax hs ht]
    cases call.effect q <;> rfl

theorem lax_step_of_setsStrict {call : Call} (hs : call.setsStrict = true) (q : Query) :
    (q.step call).lax = q.lax := by
  cases call with
  | enableStrict v => rfl
  | _ => cases hs

end Call

/-! ## Runs -/

structure Meeting where
  call : Call
  query : Query

namespace Meeting

def reply (m : Meeting) : Except Fault Reply := (m.call.outcome m.query).reply

def log (m : Meeting) : List LogRecord := (m.call.outcome m.query).log

def lax (m : Meeting) : Meeting := { m with query := m.query.lax }

end Meeting

/-- The calls of a run that do not set the strictness, each with the query that it meets. -/
def Query.meetings : Query → List Call → List Meeting
  | _, [] => []
  | q, call :: calls =>
    let rest := meetings (q.step call) calls
    if call.setsStrict then rest else ⟨call, q⟩ :: rest

theorem Query.lax_meetings : ∀ (q : Query) (calls : List Call),
    (q.meetings calls).map Meeting.lax = q.lax.meetings (calls.filter (!·.setsStrict)) ∧
      (q.run calls).lax = q.lax.run (calls.filter (!·.setsStrict))
  | q, [] => ⟨rfl, rfl⟩
  | q, call :: calls => by
    obtain ⟨hm, hr⟩ := lax_meetings (q.step call) calls
    by_cases hs : call.setsStrict = true
    · rw [Call.lax_step_of_setsStrict hs] at hm hr
      rw [List.filter_cons_of_neg (by simp [hs]), run_cons, meetings, if_pos hs]
      exact ⟨hm, hr⟩
    · have hs' : call.setsStrict = false := by simpa using hs
      rw [← Call.step_lax hs'] at hm hr
      rw [List.filter_cons_of_pos (by simp [hs']), run_cons, run_cons, meetings, meetings, if_neg hs, if_neg hs,
        List.map_cons, hm]
      exact ⟨rfl, hr⟩

/-! ## Two runs -/

/-- The same in all that is read and built, and shown differently only where building fails. -/
structure Query.IsAlikeButStrict (q q' : Query) : Prop where
  read : ∀ slot, slot ≠ .strict → q.read slot = q'.read slot
  conditions : q.chain.render = q'.chain.render
  build : q.build = q'.build
  shown : ∀ text, q.build = .ok text →
    (Call.display.outcome q).reply = .ok (.text text) ∧ (Call.display.outcome q').reply = .ok (.text text)
  refused : ∀ f, q.build = .error f →
    ((Call.display.outcome q).reply = .error f ↔ q.strict = true) ∧
      ((Call.display.outcome q').reply = .error f ↔ q'.strict = true)

theorem Call.display_refused_iff {q : Query} {f : Fault} (h : q.build = .error f) :
    (Call.display.outcome q).reply = .error f ↔ q.strict = true := by
  rw [display_outcome_of_error h]
  by_cases hs : q.strict = true
  · simp [hs]
  · simp [hs]

theorem Query.isAlikeButStrict_of_lax_eq {q q' : Query} (h : q.lax = q'.lax) :
    q.IsAlikeButStrict q' := by
  have hb : q.build = q'.build := by
    change q.lax.build = q'.lax.build
    rw [h]
  have hc : q.chain.render = q'.chain.render := by
    change q.lax.chain.render = q'.lax.chain.render
    rw [h]
  refine ⟨fun slot hs => ?_, hc, hb, fun text ht => ?_, fun f hf => ?_⟩
  · have hr : q.lax.read slot = q'.lax.read slot := by rw [h]
    cases slot with
    | strict => exact absurd rfl hs
    | _ => exact hr
  · rw [Call.display_outcome_of_ok ht, Call.display_outcome_of_ok (hb ▸ ht)]
    exact ⟨rfl, rfl⟩
  · exact ⟨Call.display_refused_iff hf, Call.display_refused_iff (hb ▸ hf)⟩

structure Meeting.IsAlike (m m' : Meeting) : Prop where
  call : m.call = m'.call
  answer : m.call.tellsStrict = false → m.reply = m'.reply ∧ m.log = m'.log
  query : m.query.IsAlikeButStrict m'.query

theorem Meeting.isAlike_of_lax_eq {m m' : Meeting} (h : m.lax = m'.lax) : m.IsAlike m' := by
  obtain ⟨call, q⟩ := m
  obtain ⟨call', q'⟩ := m'
  obtain ⟨rfl, hq⟩ := Meeting.mk.inj h
  refine ⟨rfl, fun ht => ?_, Query.isAlikeButStrict_of_lax_eq hq⟩
  have hq : q.lax = q'.lax := hq
  obtain ⟨hr, hl⟩ := Call.outcome_lax ht q
  obtain ⟨hr', hl'⟩ := Call.outcome_lax ht q'
  rw [hq] at hr hl
  exact ⟨hr.symm.trans hr', hl.symm.trans hl'⟩

/-- **Strictness is inert but for showing.** Of two runs in which the same calls are made, but for those
that set the strictness, each of these calls answers and logs the same in both, unless it is there to
tell the strictness, and meets queries that read and build the same; they are shown the same where they
build, and elsewhere refused exactly if they are strict. Clearing keeps the strictness. -/
theorem strictness_is_inert (strict strict' : Value) (settings settings' : Settings)
    (calls calls' : List Call)
    (h : calls.filter (!·.setsStrict) = calls'.filter (!·.setsStrict)) :
    let q := Query.new strict settings
    let q' := Query.new strict' settings'
    List.Forall₂ Meeting.IsAlike (q.meetings calls) (q'.meetings calls') ∧
    (q.run calls).IsAlikeButStrict (q'.run calls') ∧
    ∀ m ∈ q.meetings calls ++ q'.meetings calls', m.call = .clear →
      (m.query.step m.call).strict = m.query.strict := by
  intro q q'
  have hlax : q.lax = q'.lax := by
    simp only [q, q', Query.new, Query.lax]
    cases strict <;> cases strict' <;> rfl
  obtain ⟨hm, hr⟩ := q.lax_meetings calls
  obtain ⟨hm', hr'⟩ := q'.lax_meetings calls'
  rw [hlax, h] at hm hr
  refine ⟨?_, Query.isAlikeButStrict_of_lax_eq (hr.trans hr'.symm), fun m _ hc => ?_⟩
  · have hmaps : List.Forall₂ Eq ((q.meetings calls).map Meeting.lax)
        ((q'.meetings calls').map Meeting.lax) := by
      rw [List.forall₂_eq_eq_eq]
      exact hm.trans hm'.symm
    rw [List.forall₂_map_left_iff, List.forall₂_map_right_iff] at hmaps
    exact hmaps.imp fun m m' => Meeting.isAlike_of_lax_eq
  · rw [hc]
    rfl

/-- A strict query and one made lax half-way meet the same condition that nothing joins, are cleared and
shown again. -/
theorem strictness_is_inert_stray :
    let calls : List Call := [.startWhere "a = 1", .appendEntry ⟨.stray (.plain "&"), "b = 2"⟩,
      .enableStrict (.flag false), .display, .select ["a..b"], .clear, .display]
    let calls' : List Call := [.startWhere "a = 1", .enableStrict 0,
      .appendEntry ⟨.stray (.plain "&"), "b = 2"⟩, .enableStrict, .display, .select ["a..b"], .clear, .display]
    let t := (Query.new (.flag true)).meetings calls
    let t' := Query.new.meetings calls'
    calls.filter (!·.setsStrict) = calls'.filter (!·.setsStrict) ∧
    t.map (·.query.strict) = [true, true, false, false, false, false] ∧
    t'.map (·.query.strict) = [false, false, true, true, true, true] ∧
    List.Forall₂ Meeting.IsAlike t t' := by
  intro calls calls' t t'
  have hf : calls.filter (!·.setsStrict) = calls'.filter (!·.setsStrict) := rfl
  exact ⟨hf, rfl, rfl, (strictness_is_inert (.flag true) .null {} {} calls calls' hf).1⟩

end ClauseQuery
