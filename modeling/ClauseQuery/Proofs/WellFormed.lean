import ClauseQuery.Proofs.Paths
import ClauseQuery.Proofs.Stray

/-! # Well-formed queries -/

namespace ClauseQuery

/-! ## Names without repetitions -/

theorem nodup_eraseDups : ∀ names : List String, names.eraseDups.Nodup
  | [] => by rw [List.eraseDups_nil]; exact List.nodup_nil
  | name :: names => by
    rw [List.eraseDups_cons, List.nodup_cons]
    refine ⟨?_, nodup_eraseDups _⟩
    intro h
    have hm := (List.mem_filter.1 (List.mem_eraseDups.1 h)).2
    simp at hm
termination_by names => names.length
decreasing_by exact Nat.lt_succ_of_le (List.length_filter_le ..)

theorem eraseDups_of_nodup : ∀ {names : List String}, names.Nodup → names.eraseDups = names
  | [], _ => List.eraseDups_nil
  | name :: names, h => by
    obtain ⟨hname, hnames⟩ := List.nodup_cons.1 h
    have hf : (names.filter fun n => !n == name) = names := by
      rw [List.filter_eq_self]
      intro n hn
      simpa using fun heq : n = name => hname (heq ▸ hn)
    rw [List.eraseDups_cons, hf, eraseDups_of_nodup hnames]

/-- Repetitions that are removed early would have been removed later. -/
theorem eraseDups_eraseDups_append (names more : List String) :
    (names.eraseDups ++ more).eraseDups = (names ++ more).eraseDups := by
  have hr : more.removeAll names.eraseDups = more.removeAll names := by
    unfold List.removeAll
    refine List.filter_congr fun n _ => ?_
    simp only [List.elem_eq_mem, List.mem_eraseDups]
  rw [List.eraseDups_append, List.eraseDups_append, eraseDups_of_nodup (nodup_eraseDups names), hr]

/-! ## Chains -/

structure Chain.WellFormed (c : Chain) : Prop where
  opening : ∀ e ∈ c.entries.head?, e.link = .opening
  joined : ∀ e ∈ c.entries.tail, ∃ o, e.link = .joined o
  texts : ∀ e ∈ c.entries, IsKept e.text

namespace Chain.WellFormed

theorem empty : Chain.empty.WellFormed where
  opening _ h := by cases h
  joined _ h := by cases h
  texts _ h := by cases h

theorem append {c : Chain} (hc : c.WellFormed) {e : Entry} (ht : IsKept e.text)
    (ho : c.isEmpty = true → e.link = .opening)
    (hj : c.isEmpty = false → ∃ o, e.link = .joined o) : (c.append e).WellFormed := by
  obtain ⟨es⟩ := c
  have htexts : ∀ e' ∈ es ++ [e], IsKept e'.text := by
    intro e' hm
    rcases List.mem_append.1 hm with hm | hm
    · exact hc.texts e' hm
    · rw [List.mem_singleton.1 hm]; exact ht
  cases es with
  | nil =>
    refine ⟨fun e' h => ?_, fun e' h => ?_, htexts⟩
    · cases h; exact ho rfl
    · cases h
  | cons first es =>
    refine ⟨fun e' h => hc.opening e' h, fun e' h => ?_, htexts⟩
    rcases List.mem_append.1 h with hm | hm
    · exact hc.joined e' hm
    · rw [List.mem_singleton.1 hm]; exact hj rfl

theorem stray?_eq_none {c : Chain} (hc : c.WellFormed) : c.stray? = none := by
  refine List.find?_eq_none.2 fun e he => ?_
  have := (Entry.isJoined_iff e).2 (hc.joined e he)
  simp [this]

end Chain.WellFormed

/-! ## Queries -/

structure Query.WellFormed (q : Query) : Prop where
  fields : ∀ f ∈ q.fields, Check.dottedPath f = .ok f
  excluded : ∀ f ∈ q.excluded, Check.dottedPath f = .ok f
  excluded_nodup : q.excluded.Nodup
  chain : q.chain.WellFormed
  sortTexts : ∀ text ∈ q.sortTexts, ∃ k : SortKey, IsKept k.field ∧ k.text = text
  limit : ∀ n ∈ q.limit, 0 < n
  offset : ∀ n ∈ q.offset, 0 ≤ n
  search : ∀ term ∈ q.search, IsKept term

namespace Query.WellFormed

theorem cleared (q : Query) : q.cleared.WellFormed where
  fields _ h := by cases h
  excluded _ h := by cases h
  excluded_nodup := List.nodup_nil
  chain := .empty
  sortTexts _ h := by cases h
  limit _ h := by cases h
  offset _ h := by cases h
  search _ h := by cases h

theorem new (strict : Value) (settings : Settings) : (Query.new strict settings).WellFormed := by
  unfold Query.new
  split
  · exact cleared { strict := settings.strict }
  · exact cleared { strict := strict.isTruthy }

variable {q : Query}

theorem excluded_nodup_effect (hq : q.WellFormed) {call : Call} {e : Call.Effect}
    (h : call.effect q = .ok e) : e.query.excluded.Nodup := by
  by_cases ho : Slot.excluded ∈ call.owned
  · cases call with
    | exclude vs =>
      obtain ⟨fs, -, rfl⟩ := map_eq_ok.1 h
      exact nodup_eraseDups _
    | clear => cases h; exact List.nodup_nil
    | _ => simp [Call.owned] at ho
  · have hs : e.query.excluded = q.excluded := Call.effect_agreesAt h ho
    rw [hs]; exact hq.excluded_nodup

theorem chain_effect (hq : q.WellFormed) {call : Call} (hp : call.isPublic = true) {e : Call.Effect}
    (h : call.effect q = .ok e) : e.query.chain.WellFormed := by
  rcases Call.chain_cases h hp with hc | hc | ⟨v, -, param, text, link, ht, hc, ho, hj⟩
  · rw [hc]; exact hq.chain
  · rw [hc]; exact .empty
  · rw [hc]; exact hq.chain.append (Check.isKept_of_nonBlank ht) ho hj

theorem holdsPaths (hq : q.WellFormed) : q.HoldsPaths := fun f hf => hf.elim (hq.fields f) (hq.excluded f)

theorem effect (hq : q.WellFormed) {call : Call} (hp : call.isPublic = true) {e : Call.Effect}
    (h : call.effect q = .ok e) : e.query.WellFormed := by
  have hpaths : e.query.HoldsPaths := hq.holdsPaths.effect h
  refine ⟨fun f hf => hpaths f (Or.inl hf), fun f hf => hpaths f (Or.inr hf), hq.excluded_nodup_effect h,
    hq.chain_effect hp h, fun text ht => ?_, fun n hn => ?_, fun n hn => ?_, fun term ht => ?_⟩
  · rcases Call.mem_sortTexts h ht with ht | ⟨k, hk, v, -, param, hv⟩
    · exact hq.sortTexts text ht
    · exact ⟨k, Check.isKept_of_nonBlank hv, hk⟩
  · rcases Call.mem_limit h hn with hn | ⟨v, param, hv⟩
    · exact hq.limit n hn
    · exact (Check.positive_eq_ok.1 hv).2
  · rcases Call.mem_offset h hn with hn | ⟨v, param, hv⟩
    · exact hq.offset n hn
    · exact (Check.nonNegative_eq_ok.1 hv).2
  · rcases Call.mem_search h ht with ht | ⟨v, param, hv⟩
    · exact hq.search term ht
    · exact Check.isKept_of_nonBlank hv

theorem run {calls : List Call} (hq : q.WellFormed) (hp : ∀ call ∈ calls, call.isPublic = true) :
    (q.run calls).WellFormed :=
  run_induction (fun hq hc => step_of_effect hq fun _ => hq.effect hc) hq hp

theorem build_eq_ok (hq : q.WellFormed) {text : String} :
    q.build = .ok text ↔ q.fits = true ∧ q.text = text := by
  rw [Query.build_eq_ok]
  exact and_iff_right hq.chain.stray?_eq_none

theorem build_eq_error (hq : q.WellFormed) {f : Fault} :
    q.build = .error f ↔ q.fits = false ∧ f = .tooManyDigits := by
  simp [Query.build_eq_error, hq.chain.stray?_eq_none]

theorem searchContent_eq (hq : q.WellFormed) : searchContent q.search = q.search.map quote := by
  cases h : q.search with
  | none => rfl
  | some term => simp only [searchContent, if_neg (hq.search term h).ne_empty]; rfl

theorem text_eq_empty_iff (hq : q.WellFormed) : q.text = "" ↔
    q.fields = [] ∧ q.excluded = [] ∧ q.chain.entries = [] ∧ q.sortTexts = [] ∧
      q.limit = none ∧ q.offset = none ∧ q.search = none := by
  rw [Query.text_eq_empty_iff]
  simp only [contents, List.forall_mem_cons, hq.searchContent_eq, namesContent_eq_none, content_eq_none,
    Option.map_eq_none_iff]
  simp

end Query.WellFormed

/-- **Public runs build, unless a number has too many digits.** -/
theorem public_run_builds (strict : Value) (settings : Settings) (calls : List Call)
    (hp : ∀ call ∈ calls, call.isPublic = true) :
    let q := (Query.new strict settings).run calls
    q.WellFormed ∧
    (∀ text ∈ q.sortTexts, ∃ field, IsKept field ∧ (text = field ++ " asc" ∨ text = field ++ " desc")) ∧
    (∃ r, (Call.conditions.outcome q).reply = .ok r) ∧
    -- one fault is left, and one reason for it
    ((∃ text, (Call.build.outcome q).reply = .ok (.text text)) ↔
      ∀ n, n ∈ q.limit ∨ n ∈ q.offset → isWritable n = true) ∧
    (∀ f, (Call.build.outcome q).reply = .error f ↔
      f = .tooManyDigits ∧ ∃ n, (n ∈ q.limit ∨ n ∈ q.offset) ∧ isWritable n = false) ∧
    -- what is built is shown, strict or not
    (∀ text, (Call.build.outcome q).reply = .ok (.text text) →
      (∀ b, let o := Call.display.outcome { q with strict := b }
        o.reply = .ok (.text text) ∧ o.log = []) ∧
      (text = "" ↔ q.fields = [] ∧ q.excluded = [] ∧ q.chain.entries = [] ∧ q.sortTexts = [] ∧
        q.limit = none ∧ q.offset = none ∧ q.search = none)) ∧
    ∀ f, (Call.build.outcome q).reply = .error f → ∀ b,
      let o := Call.display.outcome { q with strict := b }
      if b then o.reply = .error f ∧ o.log = []
      else o.reply = .ok (.text QueryM.sentinel) ∧ o.log = [QueryM.failureRecord f] := by
  intro q
  have hq : q.WellFormed := (Query.WellFormed.new strict settings).run hp
  have hfits : q.fits = false ↔ ∃ n, (n ∈ q.limit ∨ n ∈ q.offset) ∧ isWritable n = false := by
    rw [← Bool.not_eq_true, Query.fits_iff]
    simp
  refine ⟨hq, fun text ht => ?_, ?_, ?_, fun f => ?_, fun text ht => ⟨fun b => ?_, ?_⟩, fun f hf b => ?_⟩
  · obtain ⟨k, hk, rfl⟩ := hq.sortTexts text ht
    refine ⟨k.field, hk, ?_⟩
    unfold SortKey.text
    cases k.direction with
    | asc => left; rw [String.append_assoc]; rfl
    | desc => right; rw [String.append_assoc]; rfl
  · have hr := Chain.render_eq q.chain
    rw [hq.chain.stray?_eq_none] at hr
    rw [Call.outcome_eq, Call.effect, hr]
    exact ⟨_, rfl⟩
  · simp only [Call.build_reply_eq_ok, hq.build_eq_ok, Query.fits_iff, exists_and_left, exists_eq', and_true]
  · rw [Call.build_reply_eq_error, hq.build_eq_error, hfits, and_comm]
  · have hb : q.build = .ok text := Call.build_reply_eq_ok.1 ht
    have hd : ({ q with strict := b } : Query).build = .ok text := hb
    rw [Call.display_outcome_of_ok hd]
    exact ⟨rfl, rfl⟩
  · obtain ⟨-, rfl⟩ := hq.build_eq_ok.1 (Call.build_reply_eq_ok.1 ht)
    exact hq.text_eq_empty_iff
  · have hb : q.build = .error f := Call.build_reply_eq_error.1 hf
    have hd : ({ q with strict := b } : Query).build = .error f := hb
    rw [Call.display_outcome_of_error hd]
    cases b <;> exact ⟨rfl, rfl⟩

/-- A run in which calls are refused and the query is cleared. -/
theorem public_run_builds_refused_and_cleared :
    let calls : List Call := [.select [" name ", "name"], .orWhere "a = 1", .clear, .addFields ["id", 5],
      .andWhere " b = 2 ", .sort " rating" "DESC", .offset 0, .search " \"; "]
    let q := (Query.new).run calls
    (∀ call ∈ calls, call.isPublic = true) ∧ q.WellFormed ∧
    ∃ text, (Call.build.outcome q).reply = .ok (.text text) := by
  intro calls q
  have hp : ∀ call ∈ calls, call.isPublic = true := by decide
  obtain ⟨hq, -, -, hok, -⟩ := public_run_builds .null {} calls hp
  exact ⟨hp, hq, hok.2 (Query.fits_iff.1 rfl)⟩

theorem long_limit_not_built :
    let n : Int := Int.pow 10 mostDigits
    let q := (Query.new).run [.limit (.integer n)]
    (Call.limit (.integer n)).isPublic = true ∧ q.limit = some n ∧
    (Call.build.outcome q).reply = .error .tooManyDigits ∧
    (Call.display.outcome q).reply = .ok (.text QueryM.sentinel) ∧
    ∃ r, (Call.display.outcome q).log = [r] ∧ r.severity = .error := by
  intro n q
  have hpos : 0 < n := Int.pow_pos (by decide)
  have hlong : isWritable n = false := by
    rw [Bool.eq_false_iff, Ne, isWritable_ten_pow]
    exact Nat.lt_irrefl _
  have hcheck : Check.positive (.integer n) "limit" = .ok n := Check.positive_eq_ok.2 ⟨rfl, hpos⟩
  have hq : q = { Query.new with limit := some n } := by
    have hstep := Query.step_eq Query.new (.limit (.integer n))
    simp only [Call.effect, hcheck] at hstep
    exact hstep
  have hb : q.build = .error .tooManyDigits := by
    rw [hq]
    exact Query.build_eq_error.2 (.inr ⟨rfl, by rw [Query.fits, Option.all_some, hlong]; rfl, rfl⟩)
  rw [Call.build_reply_eq_error, Call.display_outcome_of_error hb, hq]
  exact ⟨rfl, rfl, hq ▸ hb, rfl, _, rfl, rfl⟩

end ClauseQuery
