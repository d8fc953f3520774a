import ClauseQuery.Query.Session

/-! # What each operation does to a session -/

namespace ClauseQuery.QueryM

theorem run_check_bind (r : Except Fault α) (k : α → QueryM β) (s : Session) :
    (check r >>= k).run s = match r with
      | .ok a => (k a).run s
      | .error f => (.error f, s) := by
  cases r <;> rfl

theorem run_check (r : Except Fault α) (s : Session) : (check r).run s = (r, s) := by
  cases r <;> rfl

/-! ## Changes -/

theorem run_select (fields : List Value) (s : Session) :
    (select fields).run s =
      if isLoneWildcard fields then
        (.ok (), { s with query := { s.query with fields := [wildcard] } })
      else match checkedFields fields with
        | .ok fs => (.ok (), ⟨{ s.query with fields := fs }, s.log ++ [selectionRecord fs]⟩)
        | .error f => (.error f, s) := by
  unfold select
  split
  · rfl
  · rw [run_check_bind]
    cases checkedFields fields <;> rfl

theorem run_addFields (fields : List Value) (s : Session) :
    (addFields fields).run s = match checkedFields fields with
      | .ok fs =>
        (.ok (), { s with query := { s.query with fields := (s.query.fields ++ fs).eraseDups } })
      | .error f => (.error f, s) := by
  rw [addFields, run_check_bind]
  cases checkedFields fields <;> rfl

theorem run_exclude (fields : List Value) (s : Session) :
    (exclude fields).run s = match checkedFields fields with
      | .ok fs =>
        (.ok (),
          { s with query := { s.query with excluded := (s.query.excluded ++ fs).eraseDups } })
      | .error f => (.error f, s) := by
  rw [exclude, run_check_bind]
  cases checkedFields fields <;> rfl

theorem run_onChain (g : Chain → Except Fault Chain) (s : Session) :
    (onChain g).run s = match g s.query.chain with
      | .ok chain => (.ok (), { s with query := { s.query with chain } })
      | .error f => (.error f, s) := by
  change (check (g s.query.chain) >>= fun chain => update fun q => { q with chain }).run s = _
  rw [run_check_bind]
  cases g s.query.chain <;> rfl

theorem run_sort (field direction : Value) (s : Session) :
    (sort field direction).run s = match Check.nonBlank field "sort field" with
      | .error f => (.error f, s)
      | .ok field => match resolve Direction direction "sort direction" with
        | .error f => (.error f, s)
        | .ok d =>
          let sortTexts := s.query.sortTexts ++ [SortKey.text ⟨field, d⟩]
          (.ok (), { s with query := { s.query with sortTexts } }) := by
  rw [sort, run_check_bind]
  cases Check.nonBlank field "sort field" with
  | error f => rfl
  | ok field =>
    simp only [run_check_bind]
    cases resolve Direction direction "sort direction" <;> rfl

theorem run_limit (v : Value) (s : Session) :
    (limit v).run s = match Check.positive v "limit" with
      | .ok n => (.ok (), { s with query := { s.query with limit := some n } })
      | .error f => (.error f, s) := by
  rw [limit, run_check_bind]
  cases Check.positive v "limit" <;> rfl

theorem run_offset (v : Value) (s : Session) :
    (offset v).run s = match Check.nonNegative v "offset" with
      | .ok n => (.ok (), { s with query := { s.query with offset := some n } })
      | .error f => (.error f, s) := by
  rw [offset, run_check_bind]
  cases Check.nonNegative v "offset" <;> rfl

theorem run_search (v : Value) (s : Session) :
    (search v).run s = match Check.nonBlank v "search term" with
      | .ok term => (.ok (), ⟨{ s.query with search := some term }, s.log ++ [searchRecord term]⟩)
      | .error f => (.error f, s) := by
  rw [search, run_check_bind]
  cases Check.nonBlank v "search term" <;> rfl

/-! ## Readings -/

theorem run_condition (field v comparison : Value) (s : Session) :
    (condition field v comparison).run s = match Condition.make field v comparison with
      | .ok c => (.ok c.text, { s with log := s.log ++ c.records })
      | .error f => (.error f, s) := by
  rw [condition, run_check_bind]
  cases Condition.make field v comparison <;> rfl

theorem run_conditions (s : Session) : conditions.run s = (s.query.chain.render, s) :=
  run_check _ s

theorem run_build (s : Session) : build.run s = (s.query.build, s) := run_check _ s

theorem run_summary (s : Session) : summary.run s = (s.query.summary, s) := run_check _ s

theorem run_display (s : Session) :
    display.run s = match s.query.build with
      | .ok text => (.ok text, s)
      | .error f =>
        if s.query.strict then (.error f, s)
        else (.ok sentinel, { s with log := s.log ++ [failureRecord f] }) := by
  change ((match s.query.build with
    | .ok text => pure text
    | .error f => do
      if s.query.strict then throw f
      emit [failureRecord f]
      return sentinel) : QueryM String).run s = _
  cases s.query.build with
  | ok text => rfl
  | error f => cases s.query.strict <;> rfl

end ClauseQuery.QueryM
