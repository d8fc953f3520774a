import ClauseQuery.Proofs.Frame
import ClauseQuery.Proofs.Histories
import ClauseQuery.Proofs.WellFormed

/-! # What a run amounts to -/

namespace ClauseQuery

/-! ## What a call gives to a slot -/

namespace Value

def integer? : Value → Option Int
  | integer n => some n
  | _ => none

def directionText (v : Value) : String :=
  match resolve Direction v "sort direction" with
  | .ok d => d.token
  | .error _ => ""

end Value

namespace Call

def selected? : Call → Option (List Value)
  | select fields => some fields
  | _ => none

def added? : Call → Option (List Value)
  | addFields fields => some fields
  | _ => none

def excluded? : Call → Option (List Value)
  | exclude fields => some fields
  | _ => none

def sorted? : Call → Option (Value × Value)
  | sort field direction => some (field, direction)
  | _ => none

def limit? : Call → Option Value
  | limit n => some n
  | _ => none

def offset? : Call → Option Value
  | offset n => some n
  | _ => none

def term? : Call → Option Value
  | search term => some term
  | _ => none

def strictness? : Call → Option Value
  | enableStrict enabled => some enabled
  | _ => none

end Call

/-! ## What a history gives -/

namespace Query

/-- A selection stands as it was given until the first addition after it. -/
def fieldsAfter (history : List Call) : List String :=
  let selected := ((lastGiven Call.selected? history).getD []).map Value.trimmed
  match (afterLast (·.selected?.isSome) history).filterMap Call.added? with
  | [] => selected
  | added => (selected ++ added.flatten.map Value.trimmed).eraseDups

def excludedAfter (history : List Call) : List String :=
  ((history.filterMap Call.excluded?).flatten.map Value.trimmed).eraseDups

def sortTextsAfter (history : List Call) : List String :=
  (history.filterMap Call.sorted?).map fun s => s.1.trimmed ++ " " ++ s.2.directionText

structure SumsUp (history : List Call) (q : Query) : Prop where
  fields : q.fields = fieldsAfter history
  excluded : q.excluded = excludedAfter history
  sortTexts : q.sortTexts = sortTextsAfter history
  limit : q.limit = (lastGiven Call.limit? history).bind Value.integer?
  offset : q.offset = (lastGiven Call.offset? history).bind Value.integer?
  search : q.search = (lastGiven Call.term? history).map Value.trimmed

theorem fieldsAfter_concat (history : List Call) (call : Call) :
    fieldsAfter (history ++ [call]) = match call.selected?, call.added? with
      | some selected, _ => selected.map Value.trimmed
      | none, some added => (fieldsAfter history ++ added.map Value.trimmed).eraseDups
      | none, none => fieldsAfter history := by
  unfold fieldsAfter
  rw [lastGiven_concat, afterLast_concat]
  cases hs : call.selected? with
  | some selected => simp
  | none =>
    simp only [Option.none_or, Option.isSome_none, Bool.false_eq_true, if_false, List.filterMap_append]
    cases ha : call.added? with
    | none => simp [ha]
    | some added =>
      cases hadded : (afterLast (·.selected?.isSome) history).filterMap Call.added? with
      | nil => simp [ha]
      | cons first rest =>
        simp only [ha, List.filterMap_cons, List.filterMap_nil, List.cons_append, List.flatten_cons,
          List.flatten_append, List.flatten_nil, List.append_nil, List.map_append]
        rw [eraseDups_eraseDups_append]
        simp only [List.append_assoc]

theorem excludedAfter_concat (history : List Call) (call : Call) :
    excludedAfter (history ++ [call]) = match call.excluded? with
      | some excluded => (excludedAfter history ++ excluded.map Value.trimmed).eraseDups
      | none => excludedAfter history := by
  unfold excludedAfter
  rw [List.filterMap_append, List.flatten_append]
  cases h : call.excluded? with
  | none => simp [h]
  | some excluded =>
    simp only [h, List.filterMap_cons, List.filterMap_nil, List.flatten_cons, List.flatten_nil,
      List.append_nil, List.map_append]
    rw [eraseDups_eraseDups_append]

end Query

/-! ## What an accepted call does -/

namespace Call

section
variable {call : Call} {q : Query} {e : Effect} (h : call.effect q = .ok e)
include h

theorem effect_strict : e.query.strict = (call.strictness?.map Value.isTruthy).getD q.strict := by
  cases call with
  | enableStrict enabled => cases h; rfl
  | _ => exact effect_agreesAt h (show Slot.strict ∉ owned _ by simp [owned])

variable (hc : call.isClear = false)
include hc

theorem effect_fields : e.query.fields = match call.selected?, call.added? with
    | some selected, _ => selected.map Value.trimmed
    | none, some added => (q.fields ++ added.map Value.trimmed).eraseDups
    | none, none => q.fields := by
  cases call with
  | select fields =>
    simp only [effect] at h
    split at h
    · rename_i hw
      cases h
      exact (QueryM.trimmed_of_isLoneWildcard hw).symm
    · obtain ⟨fs, hfs, rfl⟩ := map_eq_ok.1 h
      exact (QueryM.trimmed_of_checkedFields hfs).2.symm
  | addFields fields =>
    obtain ⟨fs, hfs, rfl⟩ := map_eq_ok.1 h
    rw [← (QueryM.trimmed_of_checkedFields hfs).2]
    rfl
  | clear => cases hc
  | _ => exact effect_agreesAt h (show Slot.fields ∉ owned _ by simp [owned])

theorem effect_excluded : e.query.excluded = match call.excluded? with
    | some excluded => (q.excluded ++ excluded.map Value.trimmed).eraseDups
    | none => q.excluded := by
  cases call with
  | exclude fields =>
    obtain ⟨fs, hfs, rfl⟩ := map_eq_ok.1 h
    rw [← (QueryM.trimmed_of_checkedFields hfs).2]
    rfl
  | clear => cases hc
  | _ => exact effect_agreesAt h (show Slot.excluded ∉ owned _ by simp [owned])

theorem effect_sortTexts : e.query.sortTexts = q.sortTexts ++
    (call.sorted?.map fun s => s.1.trimmed ++ " " ++ s.2.directionText).toList := by
  cases call with
  | sort field direction =>
    obtain ⟨name, hname, h⟩ := bind_eq_ok.1 h
    obtain ⟨d, hd, h⟩ := bind_eq_ok.1 h
    cases h
    rw [← Check.trimmed_of_nonBlank hname]
    simp [sorted?, Value.directionText, hd, SortKey.text]
  | clear => cases hc
  | _ =>
    have hs : e.query.sortTexts = q.sortTexts :=
      effect_agreesAt h (show Slot.sortTexts ∉ owned _ by simp [owned])
    simp [sorted?, hs]

theorem effect_limit : e.query.limit = match call.limit? with
    | some n => n.integer?
    | none => q.limit := by
  cases call with
  | limit v =>
    obtain ⟨n, hn, rfl⟩ := map_eq_ok.1 h
    obtain ⟨rfl, -⟩ := Check.positive_eq_ok.1 hn
    rfl
  | clear => cases hc
  | _ => exact effect_agreesAt h (show Slot.limit ∉ owned _ by simp [owned])

theorem effect_offset : e.query.offset = match call.offset? with
    | some n => n.integer?
    | none => q.offset := by
  cases call with
  | offset v =>
    obtain ⟨n, hn, rfl⟩ := map_eq_ok.1 h
    obtain ⟨rfl, -⟩ := Check.nonNegative_eq_ok.1 hn
    rfl
  | clear => cases hc
  | _ => exact effect_agreesAt h (show Slot.offset ∉ owned _ by simp [owned])

theorem effect_search : e.query.search = match call.term? with
    | some term => some term.trimmed
    | none => q.search := by
  cases call with
  | search v =>
    obtain ⟨term, hterm, rfl⟩ := map_eq_ok.1 h
    rw [← Check.trimmed_of_nonBlank hterm]
    rfl
  | clear => cases hc
  | _ => exact effect_agreesAt h (show Slot.search ∉ owned _ by simp [owned])

end

end Call

/-! ## Runs -/

namespace Query

namespace SumsUp

theorem cleared (q : Query) : SumsUp [] q.cleared := ⟨rfl, rfl, rfl, rfl, rfl, rfl⟩

theorem new (strict : Value) (settings : Settings) : SumsUp [] (Query.new strict settings) := by
  unfold Query.new
  split
  · exact cleared { strict := settings.strict }
  · exact cleared { strict := strict.isTruthy }

theorem concat {history : List Call} {q : Query} (hq : SumsUp history q) {call : Call} {e : Call.Effect}
    (h : call.effect q = .ok e) (hc : call.isClear = false) : SumsUp (history ++ [call]) e.query where
  fields := by rw [Call.effect_fields h hc, fieldsAfter_concat, hq.fields]
  excluded := by rw [Call.effect_excluded h hc, excludedAfter_concat, hq.excluded]
  sortTexts := by
    rw [Call.effect_sortTexts h hc, hq.sortTexts, sortTextsAfter, sortTextsAfter, List.filterMap_append]
    cases hs : call.sorted? <;> simp [hs]
  limit := by
    rw [Call.effect_limit h hc, lastGiven_concat, hq.limit]
    cases call.limit? <;> rfl
  offset := by
    rw [Call.effect_offset h hc, lastGiven_concat, hq.offset]
    cases call.offset? <;> rfl
  search := by
    rw [Call.effect_search h hc, lastGiven_concat, hq.search]
    cases call.term? <;> rfl

theorem run {q : Query} (hq : SumsUp [] q) (calls : List Call) :
    SumsUp (q.history calls) (q.run calls) := by
  refine history_induction (C := fun _ => true) (fun q call => step_of_refused) (fun q call hc => ?_)
    (fun history q call hq _ ha hc => ?_) hq fun _ _ => rfl
  · cases call with
    | clear => exact cleared q
    | _ => cases hc
  · obtain ⟨e, he, hs⟩ := exists_effect ha
    rw [hs]
    exact hq.concat he hc

end SumsUp

theorem strict_run (q : Query) (calls : List Call) : (q.run calls).strict =
    ((lastGiven Call.strictness? calls).map Value.isTruthy).getD q.strict := by
  induction calls using List.reverseRecOn with
  | nil => rfl
  | append_singleton calls call ih =>
    have hrun : q.run (calls ++ [call]) = (q.run calls).step call := List.foldl_append
    rw [hrun, step_eq, lastGiven_concat]
    cases he : call.effect (q.run calls) with
    | ok e =>
      have hs := Call.effect_strict he
      rw [ih] at hs
      rw [hs]
      cases call.strictness? <;> rfl
    | error f =>
      -- a call for the strictness is never refused
      have hs : call.strictness? = none := by
        cases call with
        | enableStrict enabled => cases he
        | _ => rfl
      rw [hs, Option.none_or]
      exact ih

/-! ## Batches -/

/-- The calls of `make` collect the names that they are given, whatever was collected before. -/
structure Collects (make : List Value → Call) (collect : Query → List String → Query) : Prop where
  given : ∀ q batch, ((make batch).outcome q).reply.isOk = true →
    batch ≠ [] ∧ q.step (make batch) = collect q (batch.map Value.trimmed)
  more : ∀ q names names', collect (collect q names) names' = collect q (names ++ names')

theorem Collects.of_effect {make : List Value → Call} {collect : Query → List String → Query}
    (he : ∀ q batch, (make batch).effect q =
      (QueryM.checkedFields batch).map fun names => { query := collect q names })
    (hm : ∀ q names names', collect (collect q names) names' = collect q (names ++ names')) :
    Collects make collect where
  given q batch ha := by
    obtain ⟨e, h, hs⟩ := exists_effect ha
    rw [he] at h
    obtain ⟨fs, hfs, rfl⟩ := map_eq_ok.1 h
    obtain ⟨hne, rfl⟩ := QueryM.trimmed_of_checkedFields hfs
    exact ⟨hne, hs⟩
  more := hm

theorem collects_addFields :
    Collects .addFields fun q names => { q with fields := (q.fields ++ names).eraseDups } :=
  .of_effect (fun _ _ => rfl) fun q names names' => by
    simp only [eraseDups_eraseDups_append, List.append_assoc]

theorem collects_exclude :
    Collects .exclude fun q names => { q with excluded := (q.excluded ++ names).eraseDups } :=
  .of_effect (fun _ _ => rfl) fun q names names' => by
    simp only [eraseDups_eraseDups_append, List.append_assoc]

section
variable {make : List Value → Call} {collect : Query → List String → Query} (hm : Collects make collect)
include hm

theorem Collects.run_batches : ∀ {q : Query} {batches : List (List Value)}, batches ≠ [] →
    q.accepted (batches.map make) = batches.map make →
    q.run (batches.map make) = collect q (batches.flatten.map Value.trimmed)
  | q, [batch], _, ha => by
    obtain ⟨hfirst, -⟩ := (acceptedCalls_eq_cons_iff _ _).1 ha
    rw [List.flatten_singleton]
    exact (hm.given q batch hfirst).2
  | q, batch :: next :: batches, _, ha => by
    obtain ⟨hfirst, hrest⟩ := (acceptedCalls_eq_cons_iff _ _).1 ha
    have ih := run_batches (List.cons_ne_nil next batches) hrest
    rw [List.map_cons, run_cons, ih, (hm.given q batch hfirst).2, hm.more, ← List.map_append]
    rfl

theorem Collects.flatten_ne_nil {q : Query} {batches : List (List Value)} (hne : batches ≠ [])
    (ha : q.accepted (batches.map make) = batches.map make) : batches.flatten ≠ [] := by
  cases batches with
  | nil => exact absurd rfl hne
  | cons batch batches =>
    obtain ⟨hfirst, -⟩ := (acceptedCalls_eq_cons_iff _ _).1 ha
    intro h
    exact (hm.given q batch hfirst).1 (List.append_eq_nil_iff.1 h).1

theorem Collects.run_eq {q : Query} {batches batches' : List (List Value)}
    (hf : batches.flatten = batches'.flatten)
    (ha : q.accepted (batches.map make) = batches.map make)
    (ha' : q.accepted (batches'.map make) = batches'.map make) :
    q.run (batches.map make) = q.run (batches'.map make) := by
  by_cases hne : batches = []
  · have hne' : batches' = [] := by
      by_contra h
      exact hm.flatten_ne_nil h ha' (by rw [← hf, hne]; rfl)
    rw [hne, hne']
  · have hne' : batches' ≠ [] := by
      intro h
      exact hm.flatten_ne_nil hne ha (by rw [hf, h]; rfl)
    rw [hm.run_batches hne ha, hm.run_batches hne' ha', hf]

end

end Query

/-- **A run is read off its history.** The calls accepted since the last clearing give every slot but
the strictness, which the last call for it in the whole run gives; and how names are spread over calls
that collect them makes no difference. -/
theorem run_read_off_history (strict : Value) (settings : Settings) (calls : List Call) :
    let q₀ := Query.new strict settings
    Query.SumsUp (q₀.history calls) (q₀.run calls) ∧
    (q₀.run calls).strict = ((lastGiven Call.strictness? calls).map Value.isTruthy).getD q₀.strict ∧
    ∀ (q : Query) (make : List Value → Call), make = .addFields ∨ make = .exclude →
      ∀ batches batches' : List (List Value), batches.flatten = batches'.flatten →
        q.accepted (batches.map make) = batches.map make →
        q.accepted (batches'.map make) = batches'.map make →
        q.run (batches.map make) = q.run (batches'.map make) := by
  intro q₀
  refine ⟨(Query.SumsUp.new strict settings).run calls, Query.strict_run q₀ calls, ?_⟩
  rintro q make (rfl | rfl) batches batches' hf ha ha'
  · exact Query.collects_addFields.run_eq hf ha ha'
  · exact Query.collects_exclude.run_eq hf ha ha'

/-- Repetitions stay in a selection until something is added to it; what came before the clearing and
what was refused counts for nothing, but for the strictness. -/
theorem run_read_off_history_cleared :
    let calls : List Call := [.enableStrict 1, .limit 3, .exclude ["x"], .clear,
      .select [" b ", "a", "b"], .limit 0, .addFields ["a..c"], .sort " r " "DESC", .sort "r" "desc"]
    let q := Query.new.run calls
    q.fields = ["b", "a", "b"] ∧ q.excluded = [] ∧ q.sortTexts = ["r desc", "r desc"] ∧
    q.limit = none ∧ q.strict = true ∧
    (let batches : List (List Value) := [["c", "a"], ["a", "d"]]
     let batches' : List (List Value) := [["c"], ["a", "a", "d"]]
     q.run (batches.map .addFields) = q.run (batches'.map .addFields)) := by
  intro calls q
  obtain ⟨hq, hstrict, hbatches⟩ := run_read_off_history .null {} calls
  exact ⟨hq.fields, hq.excluded, hq.sortTexts, hq.limit, hstrict,
    hbatches q .addFields (Or.inl rfl) _ _ rfl rfl rfl⟩

end ClauseQuery
