import ClauseQuery.Catalogue
import ClauseQuery.Proofs.Acceptance
import ClauseQuery.Proofs.Rendering
import ClauseQuery.Query.Runs

/-!
# What the catalogue asks for

`Gives` runs an accepted operation on any session with a query, whatever its log holds.
-/

namespace ClauseQuery

namespace QueryM

variable {α β : Type} {m : QueryM α} {k : α → QueryM β} {q q' q'' : Query} {a : α} {b : β}

/-- On a session with the query `q`, `m` answers `a` and leaves the query `q'`. -/
def Gives (m : QueryM α) (q : Query) (a : α) (q' : Query) : Prop :=
  ∀ s : Session, s.query = q → ∃ log, m.run s = (.ok a, ⟨q', log⟩)

/-- On a session with the query `q`, `m` comes to the result `r`. -/
def ComesTo (m : QueryM α) (q : Query) (r : Except Fault α) : Prop :=
  ∀ s : Session, s.query = q → (m.run s).1 = r

theorem run_bind (m : QueryM α) (k : α → QueryM β) (s : Session) : (m >>= k).run s =
    (ExceptT.bindCont k (m.run s).1 : StateM Session _).run (m.run s).2 := rfl

theorem Gives.bind (h : Gives m q a q') (h' : Gives (k a) q' b q'') : Gives (m >>= k) q b q'' := by
  intro s hs
  obtain ⟨log, hm⟩ := h s hs
  rw [run_bind, hm]
  exact h' ⟨q', log⟩ rfl

theorem Gives.comesTo_bind {r : Except Fault β} (h : Gives m q a q') (h' : ComesTo (k a) q' r) :
    ComesTo (m >>= k) q r := by
  intro s hs
  obtain ⟨log, hm⟩ := h s hs
  rw [run_bind, hm]
  exact h' ⟨q', log⟩ rfl

theorem ComesTo.error_bind {f : Fault} (h : ComesTo m q (.error f)) : ComesTo (m >>= k) q (.error f) := by
  intro s hs
  rw [run_bind, h s hs]
  rfl

/-! ## Operations that are accepted -/

theorem gives_query (q : Query) : Gives query q q q := fun s hs => ⟨s.log, by rw [← hs]; rfl⟩

theorem gives_update (f : Query → Query) (q : Query) : Gives (update f) q () (f q) :=
  fun s hs => ⟨s.log, by rw [← hs]; rfl⟩

theorem gives_emit (records : List LogRecord) (q : Query) : Gives (emit records) q () q :=
  fun s hs => ⟨s.log ++ records, by rw [← hs]; rfl⟩

theorem gives_pure (a : α) (q : Query) : Gives (pure a) q a q := fun s hs => ⟨s.log, by rw [← hs]; rfl⟩

theorem gives_check {r : Except Fault α} (h : r = .ok a) (q : Query) : Gives (check r) q a q :=
  fun s hs => ⟨s.log, by rw [h, ← hs]; rfl⟩

theorem gives_renew (strict : Value) (q : Query) : Gives (renew strict) q () (.new strict) :=
  gives_update _ q

theorem gives_select {names : List Value} {fields : List String} (hw : isLoneWildcard names = false)
    (h : checkedFields names = .ok fields) (q : Query) : Gives (select names) q () { q with fields } := by
  rw [select, hw]
  exact (gives_check h q).bind ((gives_update _ q).bind (gives_emit _ _))

theorem gives_exclude {names : List Value} {fields : List String} (h : checkedFields names = .ok fields)
    (q : Query) : Gives (exclude names) q () { q with excluded := (q.excluded ++ fields).eraseDups } :=
  (gives_check h q).bind (gives_update _ q)

theorem gives_condition {field value comparison : Value} {c : Condition}
    (h : Condition.make field value comparison = .ok c) (q : Query) :
    Gives (condition field value comparison) q c.text q :=
  (gives_check h q).bind ((gives_emit _ q).bind (gives_pure _ q))

theorem gives_onChain {f : Chain → Except Fault Chain} {chain : Chain} (h : f q.chain = .ok chain) :
    Gives (onChain f) q () { q with chain } :=
  (gives_query q).bind ((gives_check h q).bind (gives_update _ q))

theorem gives_startWhere {v : Value} {c chain : Chain} (h : c.start v = .ok chain) (hq : q.chain = c) :
    Gives (startWhere v) q () { q with chain } :=
  gives_onChain (by rw [hq, h])

theorem gives_andWhere {v : Value} {c chain : Chain} (h : c.and v = .ok chain) (hq : q.chain = c) :
    Gives (andWhere v) q () { q with chain } :=
  gives_onChain (by rw [hq, h])

theorem gives_orWhere {v : Value} {c chain : Chain} (h : c.or v = .ok chain) (hq : q.chain = c) :
    Gives (orWhere v) q () { q with chain } :=
  gives_onChain (by rw [hq, h])

theorem gives_sort {field direction : Value} {name : String} {d : Direction}
    (hf : Check.nonBlank field "sort field" = .ok name)
    (hd : resolve Direction direction "sort direction" = .ok d) (q : Query) :
    Gives (sort field direction) q () { q with sortTexts := q.sortTexts ++ [SortKey.text ⟨name, d⟩] } :=
  (gives_check hf q).bind ((gives_check hd q).bind (gives_update _ q))

theorem gives_limit {v : Value} {n : Int} (h : Check.positive v "limit" = .ok n) (q : Query) :
    Gives (limit v) q () { q with limit := some n } :=
  (gives_check h q).bind (gives_update _ q)

theorem gives_offset {v : Value} {n : Int} (h : Check.nonNegative v "offset" = .ok n) (q : Query) :
    Gives (offset v) q () { q with offset := some n } :=
  (gives_check h q).bind (gives_update _ q)

theorem comesTo_check {r r' : Except Fault α} (h : r = r') (q : Query) : ComesTo (check r) q r' :=
  fun s _ => by rw [run_check, h]

theorem comesTo_condition {field value comparison : Value} {f : Fault}
    (h : Condition.make field value comparison = .error f) (q : Query) :
    ComesTo (condition field value comparison) q (.error f) :=
  (comesTo_check h q).error_bind

theorem comesTo_limit {v : Value} {f : Fault} (h : Check.positive v "limit" = .error f) (q : Query) :
    ComesTo (limit v) q (.error f) :=
  (comesTo_check h q).error_bind

theorem comesTo_offset {v : Value} {f : Fault} (h : Check.nonNegative v "offset" = .error f) (q : Query) :
    ComesTo (offset v) q (.error f) :=
  (comesTo_check h q).error_bind

theorem comesTo_build (q : Query) : ComesTo build q q.build :=
  (gives_query q).comesTo_bind (comesTo_check rfl q)

end QueryM

theorem Check.positive_eq_error {n : Int} (h : n ≤ 0) (param : String) :
    positive (.integer n) param = .error (.notPositive param) :=
  if_pos h

theorem Check.nonNegative_eq_error {n : Int} (h : n < 0) (param : String) :
    nonNegative (.integer n) param = .error (.negative param) :=
  if_pos h

/-! ## Texts of conditions -/

theorem Condition.isBlankText_text {c : Condition} (h : isBlankText c.field = false) :
    isBlankText c.text = false := by
  rw [isBlankText_eq] at h ⊢
  rw [toList_text, List.all_append, h, Bool.false_and]

theorem Condition.field_of_make {name : String} (hn : IsKept name) {value comparison : Value} {c : Condition}
    (h : make name value comparison = .ok c) : c.field = name := by
  obtain ⟨w, hw, -, hf⟩ := checkedField_eq_ok.1 (parts_of_make h).1
  cases hw
  rw [← hf]
  exact hn.trim_eq

/-- With visible characters at both ends, a text is kept as it is. -/
theorem isKept_of_ends {l r : String} (hl : ∃ c ∈ l.toList.head?, isBlank c = false)
    (hr : ∃ c ∈ r.toList.getLast?, isBlank c = false) (s : String) : IsKept (l ++ s ++ r) := by
  obtain ⟨c, hc, hcb⟩ := hl
  obtain ⟨d, hd, hdb⟩ := hr
  have hhead : (l ++ s ++ r).toList.head? = some c := by
    rw [String.append_assoc, String.toList_append, List.head?_append, hc]
    rfl
  have hlast : (l ++ s ++ r).toList.getLast? = some d := by
    rw [String.toList_append, List.getLast?_append, hd]
    rfl
  have htrim : trimChars (l ++ s ++ r).toList = (l ++ s ++ r).toList := by
    refine trimChars_eq_self (fun c' h => ?_) (fun d' h => ?_)
    · rw [hhead] at h
      cases h
      exact hcb
    · rw [hlast] at h
      cases h
      exact hdb
  obtain ⟨t, ht⟩ := List.head?_eq_some_iff.1 hhead
  exact ⟨by rw [isBlankText_eq, ht, List.all_cons, hcb, Bool.false_and],
    by rw [trim, htrim, String.ofList_toList]⟩

namespace Catalogue

open QueryM

/-! ## Pages of what is rated best -/

def rated (c : Condition) (size start : Int) : Query where
  strict := true
  fields := ["name", "rating", "first_release_date", "platforms.name", "cover.url"]
  chain := ⟨[⟨.opening, trim c.text⟩, ⟨.joined .and, "rating_count >= 50"⟩]⟩
  sortTexts := ["rating desc"]
  limit := some size
  offset := some start

theorem checkedFields_gameFields : checkedFields gameFields =
    .ok ["name", "rating", "first_release_date", "platforms.name", "cover.url"] := rfl

theorem make_counted : Condition.make "rating_count" 50 Comparison.gte =
    .ok ⟨"rating_count", .gte, ["50"]⟩ := rfl

theorem text_counted : Condition.text ⟨"rating_count", .gte, ["50"]⟩ = "rating_count >= 50" := rfl

theorem nonBlank_counted : Check.nonBlank "rating_count >= 50" "and_where condition" =
    .ok "rating_count >= 50" := rfl

theorem comesTo_topRated {minRating : Value} {c : Condition}
    (hc : Condition.make "rating" minRating Comparison.gt = .ok c) (size page room : Int) (q : Query) :
    ComesTo (topRated minRating size page room) q
      (if size ≤ 0 then .error (.notPositive "limit")
        else if page * size < 0 then .error (.negative "offset")
        else (rated c size (page * size)).build) := by
  have hblank : isBlankText c.text = false := by
    refine Condition.isBlankText_text ?_
    rw [Condition.field_of_make ⟨by decide, by decide⟩ hc]
    decide
  have hstart : Chain.empty.start c.text = .ok ⟨[⟨.opening, trim c.text⟩]⟩ :=
    Chain.start_eq_ok.2 ⟨_, Check.nonBlank_eq_ok.2 ⟨.plain c.text, rfl, hblank, rfl⟩, rfl, rfl⟩
  have hand : Chain.and ⟨[⟨.opening, trim c.text⟩]⟩ "rating_count >= 50" =
      .ok ⟨[⟨.opening, trim c.text⟩, ⟨.joined .and, "rating_count >= 50"⟩]⟩ :=
    Chain.and_eq_ok.2 ⟨_, nonBlank_counted, rfl⟩
  refine (gives_renew (.flag true) q).comesTo_bind ?_
  refine (gives_select rfl checkedFields_gameFields _).comesTo_bind ?_
  refine (gives_condition hc _).comesTo_bind ?_
  refine (gives_startWhere hstart rfl).comesTo_bind ?_
  refine (gives_condition make_counted _).comesTo_bind ?_
  rw [text_counted]
  refine (gives_andWhere hand rfl).comesTo_bind ?_
  have hsort : resolve Direction Direction.desc "sort direction" = .ok .desc := rfl
  have hfield : Check.nonBlank "rating" "sort field" = .ok "rating" := rfl
  refine (gives_sort hfield hsort _).comesTo_bind ?_
  by_cases hsize : size ≤ 0
  · rw [if_pos hsize]
    exact (comesTo_limit (Check.positive_eq_error hsize _) _).error_bind
  · rw [if_neg hsize]
    refine (gives_limit (Check.positive_eq_ok.2 ⟨rfl, Int.not_le.1 hsize⟩) _).comesTo_bind ?_
    refine (gives_check (Check.integer_eq_ok.2 rfl) _).comesTo_bind ?_
    have hproduct : pageStart room page size = .ok (.integer (page * size)) := rfl
    refine (gives_check hproduct _).comesTo_bind ?_
    by_cases hstart : page * size < 0
    · rw [if_pos hstart]
      exact (comesTo_offset (Check.nonNegative_eq_error hstart _) _).error_bind
    · rw [if_neg hstart]
      refine (gives_offset (Check.nonNegative_eq_ok.2 ⟨rfl, Int.not_lt.1 hstart⟩) _).comesTo_bind ?_
      exact comesTo_build _

/-! ## Games on platforms, or released before a date -/

def onPlatforms (elements : List String) : Condition := ⟨"platforms", .containsAny, elements⟩

def cutoffText (cutoff : String) : String := "(release_dates.human < \"" ++ cutoff ++ "\")"

def filtered (elements : List String) (cutoff : String) : Query where
  strict := true
  fields := ["name", "platforms"]
  excluded := ["storyline"]
  chain := ⟨[⟨.opening, (onPlatforms elements).text⟩, ⟨.joined .or, cutoffText cutoff⟩]⟩
  sortTexts := ["name asc"]

theorem make_onPlatforms {xs : List Value} (hne : xs ≠ []) (hxs : ∀ x ∈ xs, x.isOperand = true)
    {elements : List String} (h : xs.mapM Value.literal = .ok elements) :
    Condition.make "platforms" (.list xs) Comparison.containsAny = .ok (onPlatforms elements) := by
  have hs : ∀ x ∈ xs, x.isScalar = true := fun x hx => Value.isScalar_of_isOperand (hxs x hx)
  have hname : Value.trimmed "platforms" = "platforms" := by decide
  rw [Condition.make_eq (by decide) rfl, Condition.operandTexts_of_withArray (by decide),
    Condition.arrayOperands_eq (.inl rfl) hne hs, h, hname]
  rfl

theorem text_onPlatforms (elements : List String) :
    (onPlatforms elements).text = "platforms = (" ++ ",".intercalate elements ++ ")" := rfl

theorem isKept_onPlatforms (elements : List String) : IsKept (onPlatforms elements).text := by
  rw [text_onPlatforms]
  exact isKept_of_ends ⟨'p', rfl, by decide⟩ ⟨')', rfl, by decide⟩ _

theorem isKept_cutoffText (cutoff : String) : IsKept (cutoffText cutoff) :=
  isKept_of_ends ⟨'(', rfl, by decide⟩ ⟨')', rfl, by decide⟩ cutoff

theorem comesTo_forPlatforms_error {platforms : Value} {xs : List Value} (hxs : platforms.elements? = some xs)
    {f : Fault} (hc : Condition.make "platforms" (.list xs) Comparison.containsAny = .error f)
    (cutoff : Value) (q : Query) : ComesTo (forPlatforms platforms cutoff) q (.error f) := by
  unfold forPlatforms
  refine (gives_renew (.flag true) q).comesTo_bind ?_
  refine (gives_select rfl rfl _).comesTo_bind ?_
  refine (gives_exclude rfl _).comesTo_bind ?_
  rw [hxs]
  exact (comesTo_condition hc _).error_bind

theorem comesTo_forPlatforms {platforms : Value} {xs : List Value} (hxs : platforms.elements? = some xs)
    {elements : List String}
    (hc : Condition.make "platforms" (.list xs) Comparison.containsAny = .ok (onPlatforms elements))
    {cutoff : String} (hne : cutoff ≠ "") (q : Query) :
    ComesTo (forPlatforms platforms cutoff) q (filtered elements cutoff).build := by
  have htruthy : Value.isTruthy cutoff = true := by simp [Value.isTruthy, Word.token, hne]
  have hstart : Chain.empty.start (onPlatforms elements).text =
      .ok ⟨[⟨.opening, (onPlatforms elements).text⟩]⟩ :=
    Chain.start_eq_ok.2 ⟨_, Check.nonBlank_of_isKept (isKept_onPlatforms elements) _, rfl, rfl⟩
  have hreleased : releasedBefore cutoff = .ok (cutoffText cutoff : Value) := rfl
  have hor : Chain.or ⟨[⟨.opening, (onPlatforms elements).text⟩]⟩ (cutoffText cutoff) =
      .ok ⟨[⟨.opening, (onPlatforms elements).text⟩, ⟨.joined .or, cutoffText cutoff⟩]⟩ :=
    Chain.or_eq_ok.2 ⟨_, Check.nonBlank_of_isKept (isKept_cutoffText cutoff) _, rfl, rfl⟩
  have hfield : Check.nonBlank "name" "sort field" = .ok "name" := rfl
  have hsort : resolve Direction Direction.asc "sort direction" = .ok .asc := rfl
  unfold forPlatforms
  refine (gives_renew (.flag true) q).comesTo_bind ?_
  refine (gives_select rfl rfl _).comesTo_bind ?_
  refine (gives_exclude rfl _).comesTo_bind ?_
  rw [hxs]
  dsimp only
  rw [if_pos htruthy]
  refine (gives_condition hc _).comesTo_bind ?_
  refine (gives_startWhere hstart rfl).comesTo_bind ?_
  refine (gives_check hreleased _).comesTo_bind ?_
  refine (gives_orWhere hor rfl).comesTo_bind ?_
  refine (gives_sort hfield hsort _).comesTo_bind ?_
  exact comesTo_build _

end Catalogue

end ClauseQuery
