import ClauseQuery.Proofs.Stray

/-! # Search terms stay out of the log -/

namespace ClauseQuery

/-- Refused both, or kept both with as many characters. -/
structure Value.IsAlike (v v' : Value) : Prop where
  hasText : v.hasText = v'.hasText
  length : v.hasText = true → v.trimmed.length = v'.trimmed.length

namespace Call

inductive SameButTerm : Call → Call → Prop
  | same (call : Call) : SameButTerm call call
  | search {v v' : Value} (h : v.IsAlike v') : SameButTerm (.search v) (.search v')

/-- Setting the term, reading it, and writing the query with the term in it. -/
def tellsTerm : Call → Bool
  | search _ | read .search | build | display => true
  | _ => false

/-! ## What two outcomes have in common -/

structure Effect.IsLike (call : Call) (e e' : Effect) : Prop where
  log : e.log = e'.log
  reply : call.tellsTerm = false → e.reply = e'.reply
  query : ∃ search, e'.query = { e.query with search }

structure Outcome.IsLike (call : Call) (o o' : Outcome) : Prop where
  log : o.log = o'.log
  isOk : o.reply.isOk = o'.reply.isOk
  reply : call.tellsTerm = false → o.reply = o'.reply
  query : ∃ search, o'.query = { o.query with search }

section
variable {call : Call} {q : Query} {search : Option String}

theorem Outcome.IsLike.refused {f f' : Fault} (h : call.tellsTerm = false → f = f') :
    Outcome.IsLike call (.ofEffect q (.error f)) (.ofEffect { q with search } (.error f')) :=
  ⟨rfl, rfl, fun hn => congrArg Except.error (h hn), search, rfl⟩

theorem Outcome.IsLike.accepted {q' : Query} {e e' : Effect} (h : Effect.IsLike call e e') :
    Outcome.IsLike call (.ofEffect q (.ok e)) (.ofEffect q' (.ok e')) :=
  ⟨h.log, rfl, fun hn => congrArg Except.ok (h.reply hn), h.query⟩

theorem Outcome.IsLike.checked {α} (r : Except Fault α) {g g' : α → Effect}
    (h : ∀ a, Effect.IsLike call (g a) (g' a)) :
    Outcome.IsLike call (.ofEffect q (r.map g)) (.ofEffect { q with search } (r.map g')) := by
  cases r with
  | error f => exact .refused fun _ => rfl
  | ok a => exact .accepted (h a)

end

/-! ## One call -/

theorem search_isLike {v v' : Value} (h : v.IsAlike v') (q : Query) (search : Option String) :
    Outcome.IsLike (.search v) ((Call.search v).outcome q)
      ((Call.search v').outcome { q with search }) := by
  rw [outcome_eq, outcome_eq]
  cases ht : v.hasText with
  | false =>
    have ht' : v'.hasText = false := by rw [← h.hasText, ht]
    obtain ⟨f, hf, -⟩ := Check.nonBlank_of_not_hasText ht "search term"
    obtain ⟨f', hf', -⟩ := Check.nonBlank_of_not_hasText ht' "search term"
    simp only [effect, hf, hf']
    exact .refused fun hn => by cases hn
  | true =>
    have ht' : v'.hasText = true := by rw [← h.hasText, ht]
    have hr : QueryM.searchRecord v.trimmed = QueryM.searchRecord v'.trimmed := by
      rw [QueryM.searchRecord, QueryM.searchRecord, h.length ht]
    simp only [effect, Check.nonBlank_of_hasText ht, Check.nonBlank_of_hasText ht']
    exact .accepted ⟨congrArg (fun r => [r]) hr, fun hn => (by cases hn), some v'.trimmed, rfl⟩

theorem build_cases (q : Query) (search : Option String) :
    (∃ f, q.build = .error f ∧ Query.build { q with search } = .error f) ∨
      ∃ text text', q.build = .ok text ∧ Query.build { q with search } = .ok text' := by
  have hfits : Query.fits { q with search } = q.fits := rfl
  simp only [Query.build_eq, hfits]
  cases q.chain.stray? with
  | some e => exact Or.inl ⟨_, rfl, rfl⟩
  | none =>
    cases q.fits with
    | false => exact Or.inl ⟨_, rfl, rfl⟩
    | true => exact Or.inr ⟨_, _, rfl, rfl⟩

theorem build_isLike (q : Query) (search : Option String) :
    Outcome.IsLike .build (Call.build.outcome q) (Call.build.outcome { q with search }) := by
  rw [build_outcome, build_outcome]
  rcases build_cases q search with ⟨f, hf, hf'⟩ | ⟨text, text', ht, ht'⟩
  · rw [hf, hf']
    exact ⟨rfl, rfl, fun _ => rfl, search, rfl⟩
  · rw [ht, ht']
    exact ⟨rfl, rfl, fun hn => (by cases hn), search, rfl⟩

theorem display_isLike (q : Query) (search : Option String) :
    Outcome.IsLike .display (Call.display.outcome q) (Call.display.outcome { q with search }) := by
  rcases build_cases q search with ⟨f, hf, hf'⟩ | ⟨text, text', ht, ht'⟩
  · rw [display_outcome_of_error hf, display_outcome_of_error hf']
    by_cases hs : q.strict = true
    · rw [if_pos hs, if_pos hs]
      exact ⟨rfl, rfl, fun _ => rfl, search, rfl⟩
    · rw [if_neg hs, if_neg hs]
      exact ⟨rfl, rfl, fun _ => rfl, search, rfl⟩
  · rw [display_outcome_of_ok ht, display_outcome_of_ok ht']
    exact ⟨rfl, rfl, fun hn => (by cases hn), search, rfl⟩

theorem same_isLike (call : Call) (q : Query) (search : Option String) :
    Outcome.IsLike call (call.outcome q) (call.outcome { q with search }) := by
  rw [outcome_eq, outcome_eq]
  cases call with
  | select fields =>
    simp only [effect]
    split
    · exact .accepted ⟨rfl, fun _ => rfl, search, rfl⟩
    · exact .checked _ fun _ => ⟨rfl, fun _ => rfl, search, rfl⟩
  | addFields _ | exclude _ | startWhere _ | andWhere _ | orWhere _ | limit _ | offset _
  | condition _ _ _ | conditions | summary => exact .checked _ fun _ => ⟨rfl, fun _ => rfl, search, rfl⟩
  | sort field direction =>
    simp only [effect]
    cases Check.nonBlank field "sort field" with
    | error f => exact .refused fun _ => rfl
    | ok name =>
      cases resolve Direction direction "sort direction" with
      | error f => exact .refused fun _ => rfl
      | ok d => exact .accepted ⟨rfl, fun _ => rfl, search, rfl⟩
  | search v => exact .checked _ fun term => ⟨rfl, fun _ => rfl, some term, rfl⟩
  | build =>
    rw [← outcome_eq, ← outcome_eq]
    exact build_isLike q search
  | display =>
    rw [← outcome_eq, ← outcome_eq]
    exact display_isLike q search
  | read slot =>
    refine .accepted ⟨rfl, fun hn => ?_, search, rfl⟩
    cases slot with
    | search => cases hn
    | _ => rfl
  | clear => exact .accepted ⟨rfl, fun _ => rfl, none, rfl⟩
  | appendEntry _ | replaceEntries _ | enableStrict _ => exact .accepted ⟨rfl, fun _ => rfl, search, rfl⟩

theorem SameButTerm.isLike {call call' : Call} (h : SameButTerm call call') (q : Query)
    (search : Option String) :
    Outcome.IsLike call (call.outcome q) (call'.outcome { q with search }) := by
  cases h with
  | same => exact same_isLike call q search
  | search h => exact search_isLike h q search

end Call

/-! ## Runs -/

theorem Query.trace_isLike {calls calls' : List Call} (h : List.Forall₂ Call.SameButTerm calls calls')
    (q : Query) (search : Option String) :
    let t := q.trace calls
    let t' := Query.trace { q with search } calls'
    t.map (·.log) = t'.map (·.log) ∧ t.map (·.reply.isOk) = t'.map (·.reply.isOk) ∧
    ∀ (i : Nat) (call : Call), calls[i]? = some call → call.tellsTerm = false →
      ∃ o o' : Call.Outcome, t[i]? = some o ∧ t'[i]? = some o' ∧ o.reply = o'.reply := by
  induction h generalizing q search with
  | nil => exact ⟨rfl, rfl, fun i call hi => by simp at hi⟩
  | @cons call call' calls calls' hcall _ ih =>
    have hl := hcall.isLike q search
    obtain ⟨search', hq⟩ := hl.query
    have hstep : Query.step { q with search } call' = { q.step call with search := search' } := hq
    obtain ⟨hlog, hok, hreply⟩ := ih (q.step call) search'
    simp only [trace, hstep, List.map_cons, hl.log, hl.isOk, hlog, hok, true_and]
    intro i c hi hc
    cases i with
    | zero =>
      cases hi
      exact ⟨_, _, rfl, rfl, hl.reply hc⟩
    | succ i => exact hreply i c hi hc

/-- **Search terms stay out of the log.** Of two runs that differ only in search terms, refused in both
or kept with as many characters, every call logs the same and is accepted in both or in neither, and
every call that is not there to tell the term answers the same. -/
theorem search_terms_stay_hidden (strict : Value) (settings : Settings) (calls calls' : List Call)
    (h : List.Forall₂ Call.SameButTerm calls calls') :
    let t := (Query.new strict settings).trace calls
    let t' := (Query.new strict settings).trace calls'
    t.map (·.log) = t'.map (·.log) ∧ t.map (·.reply.isOk) = t'.map (·.reply.isOk) ∧
    ∀ (i : Nat) (call : Call), calls[i]? = some call → call.tellsTerm = false →
      ∃ o o' : Call.Outcome, t[i]? = some o ∧ t'[i]? = some o' ∧ o.reply = o'.reply := by
  have hq := Query.trace_isLike h (Query.new strict settings) (Query.new strict settings).search
  exact hq

/-- A query with a stray entry is shown while it holds a term, and logs the fault alone. -/
theorem search_terms_stay_hidden_stray :
    let calls (term : Value) : List Call := [.search 5, .search term, .startWhere "a = 1",
      .replaceEntries [⟨.opening, "a = 1"⟩, ⟨.stray (.plain "&"), "b = 2"⟩], .display, .summary, .clear,
      .display]
    let t := Query.new.trace (calls "  zelda ")
    let t' := Query.new.trace (calls "mario")
    List.Forall₂ Call.SameButTerm (calls "  zelda ") (calls "mario") ∧
    t.map (·.log) = t'.map (·.log) ∧
    ∃ o o' : Call.Outcome, t[5]? = some o ∧ t'[5]? = some o' ∧ o.reply = o'.reply := by
  intro calls t t'
  have hterm : Value.IsAlike "  zelda " "mario" := ⟨by decide, fun _ => by decide⟩
  have hc : List.Forall₂ Call.SameButTerm (calls "  zelda ") (calls "mario") :=
    .cons (.same _) (.cons (.search hterm) (List.forall₂_same.2 fun call _ => .same call))
  obtain ⟨hlog, -, hreply⟩ := search_terms_stay_hidden .null {} _ _ hc
  exact ⟨hc, hlog, hreply 5 .summary rfl rfl⟩

end ClauseQuery
