import ClauseQuery.Proofs.Frame
import ClauseQuery.Proofs.Rendering

/-!
# Stray entries

Chains grow at their end, so only clearing or replacing them takes a stray entry away.
-/

namespace ClauseQuery

/-! ## The first stray entry -/

namespace Chain

structure IsFirstStray (c : Chain) (i : Nat) (e : Entry) : Prop where
  after_opening : 1 ≤ i
  entry : c.entries[i]? = some e
  stray : e.isJoined = false
  joined_before : ∀ j e', 1 ≤ j → j < i → c.entries[j]? = some e' → e'.isJoined = true

theorem stray?_eq_some {c : Chain} {e : Entry} :
    c.stray? = some e ↔ ∃ i, c.IsFirstStray i e := by
  have ht : ∀ i, c.entries.tail[i]? = c.entries[i + 1]? := fun i => List.getElem?_tail
  unfold stray? findStray
  rw [List.find?_eq_some_iff_getElem]
  constructor
  · intro ⟨hs, i, hi, he, hb⟩
    refine ⟨i + 1, by omega, ?_, by simpa using hs, fun j e' h1 hj he' => ?_⟩
    · rw [← ht, List.getElem?_eq_getElem hi, he]
    · obtain ⟨k, rfl⟩ : ∃ k, j = k + 1 := ⟨j - 1, by omega⟩
      have hk : k < c.entries.tail.length := by omega
      rw [← ht, List.getElem?_eq_getElem hk, Option.some.injEq] at he'
      have := hb k (by omega)
      rw [he'] at this
      simpa using this
  · intro ⟨i, h1, he, hs, hb⟩
    obtain ⟨k, rfl⟩ : ∃ k, i = k + 1 := ⟨i - 1, by omega⟩
    rw [← ht] at he
    obtain ⟨hk, he⟩ := List.getElem?_eq_some_iff.1 he
    refine ⟨by simp [hs], k, hk, he, fun j hj => ?_⟩
    have hj' : j < c.entries.tail.length := by omega
    have := hb (j + 1) c.entries.tail[j] (by omega) (by omega)
      (by rw [← ht, List.getElem?_eq_getElem hj'])
    change (!!c.entries.tail[j].isJoined) = true
    rw [this]; rfl

theorem exists_stray?_iff {c : Chain} : (∃ e, c.stray? = some e) ↔
    ∃ i e, 1 ≤ i ∧ c.entries[i]? = some e ∧ e.isJoined = false := by
  constructor
  · intro ⟨e, he⟩
    obtain ⟨i, h⟩ := stray?_eq_some.1 he
    exact ⟨i, e, h.after_opening, h.entry, h.stray⟩
  · intro ⟨i, e, h1, he, hs⟩
    obtain ⟨k, rfl⟩ : ∃ k, i = k + 1 := ⟨i - 1, by omega⟩
    have hm : e ∈ c.entries.tail := by
      rw [← List.getElem?_tail] at he
      exact List.mem_of_getElem? he
    exact Option.isSome_iff_exists.1 (List.find?_isSome.2 ⟨e, hm, by simp [hs]⟩)

theorem stray?_append {c : Chain} {e : Entry} (h : c.stray? = some e) (e' : Entry) :
    (c.append e').stray? = some e := by
  obtain ⟨es⟩ := c
  cases es with
  | nil => cases h
  | cons first es =>
    simp only [stray?, findStray, append, List.cons_append, List.tail_cons] at h ⊢
    rw [List.find?_append, h]
    rfl

end Chain

theorem Query.stray?_run {calls : List Call} {q : Query} {e : Entry}
    (hc : ∀ call ∈ calls, call.keepsEntries = true) (h : q.chain.stray? = some e) :
    (q.run calls).chain.stray? = some e := by
  refine run_induction (P := fun q => q.chain.stray? = some e) (fun {q call} hs hk => ?_) h hc
  rcases chain_step (q := q) hk with heq | ⟨entry, heq⟩
  · rw [heq]; exact hs
  · rw [heq]; exact Chain.stray?_append hs entry

theorem Query.text_ne_sentinel (q : Query) : q.text ≠ QueryM.sentinel := by
  rcases text_cases q with ⟨h, -⟩ | ⟨keyword, hk, rest, h⟩
  · rw [h]; decide
  · intro hs
    rw [h] at hs
    have hhead := congrArg (fun s : String => s.toList.head?) hs
    simp only [keywords, List.mem_cons, List.not_mem_nil, or_false] at hk
    rcases hk with rfl | rfl | rfl | rfl | rfl | rfl | rfl <;>
      simp [QueryM.sentinel] at hhead

/-! ## Building and showing a query with stray entries -/

theorem Call.build_outcome (q : Query) :
    Call.build.outcome q = ⟨q.build.map .text, [], q⟩ := by
  rw [outcome_eq, effect]
  cases q.build <;> rfl

theorem Call.build_reply_eq_ok {q : Query} {text : String} :
    (Call.build.outcome q).reply = .ok (.text text) ↔ q.build = .ok text := by
  rw [build_outcome]
  cases q.build <;> simp [Except.map]

theorem Call.build_reply_eq_error {q : Query} {f : Fault} :
    (Call.build.outcome q).reply = .error f ↔ q.build = .error f := by
  rw [build_outcome]
  cases q.build <;> simp [Except.map]

theorem Call.display_outcome_of_ok {q : Query} {text : String} (h : q.build = .ok text) :
    Call.display.outcome q = ⟨.ok (.text text), [], q⟩ := by
  simp only [outcome_eq, effect, h]
  rfl

theorem Call.display_outcome_of_error {q : Query} {f : Fault} (h : q.build = .error f) :
    Call.display.outcome q =
      if q.strict then ⟨.error f, [], q⟩
      else ⟨.ok (.text QueryM.sentinel), [QueryM.failureRecord f], q⟩ := by
  simp only [outcome_eq, effect, h]
  cases q.strict <;> rfl

/-- **Stray entries are found, stay found and fail softly.** -/
theorem stray_entries_fail_softly (q : Query) :
    -- building stops exactly at stray entries, and names the first; numbers are only looked at after them
    ((∃ f, q.build = .error f ∧ f.kind = .state) ↔
      ∃ i e, 1 ≤ i ∧ q.chain.entries[i]? = some e ∧ ∀ c, e.link ≠ .joined c) ∧
    (∀ f, q.build = .error f → f = .tooManyDigits ∨ f.kind = .state ∧ ∃ i e, q.chain.IsFirstStray i e ∧
      f.message = "Unexpected operator '" ++ e.link.display ++ "' in conditions.") ∧
    -- it goes on failing in the same way until the query is cleared
    (∀ f calls, q.build = .error f → f.kind = .state → (∀ call ∈ calls, call.keepsEntries = true) →
      (q.run calls).build = .error f) ∧
    (q.step .clear).build = .ok "" ∧
    -- showing a strict query is building it
    (q.strict = true →
      (Call.display.outcome q).reply = (Call.build.outcome q).reply ∧
      (Call.display.outcome q).log = []) ∧
    -- showing one that is not strict never fails
    (q.strict = false →
      (∀ text, q.build = .ok text →
        (Call.display.outcome q).reply = .ok (.text text) ∧ (Call.display.outcome q).log = []) ∧
      (∀ f, q.build = .error f →
        (Call.display.outcome q).reply = .ok (.text QueryM.sentinel) ∧
        ∃ r, (Call.display.outcome q).log = [r] ∧ r.severity = .error ∧
          r.logger = "apicalypse.query" ∧ r.withFault = true) ∧
      ((Call.display.outcome q).reply = .ok (.text QueryM.sentinel) ↔ ∃ f, q.build = .error f)) ∧
    q.build ≠ .ok QueryM.sentinel := by
  have hne : q.build ≠ .ok QueryM.sentinel := fun h => q.text_ne_sentinel (Query.build_eq_ok.1 h).2.2
  refine ⟨?_, fun f hf => ?_, fun f calls hf hk hc => ?_, rfl, fun hs => ?_, fun hs => ⟨?_, ?_, ?_⟩, hne⟩
  · have hj : ∀ e : Entry, (∀ c, e.link ≠ .joined c) ↔ e.isJoined = false := fun e => by
      rw [← Bool.not_eq_true, Entry.isJoined_iff, not_exists]
    simp only [hj, ← Chain.exists_stray?_iff, Query.build_eq_error_state]
    exact ⟨fun ⟨_, e, he, _⟩ => ⟨e, he⟩, fun ⟨e, he⟩ => ⟨_, e, he, rfl⟩⟩
  · rcases Query.build_eq_error.1 hf with ⟨e, he, rfl⟩ | ⟨-, -, rfl⟩
    · obtain ⟨i, hi⟩ := Chain.stray?_eq_some.1 he
      exact .inr ⟨rfl, i, e, hi, rfl⟩
    · exact .inl rfl
  · obtain ⟨e, he, rfl⟩ := Query.build_eq_error_state.1 ⟨hf, hk⟩
    exact (Query.build_eq_error_state.2 ⟨e, Query.stray?_run hc he, rfl⟩).1
  · rw [Call.build_outcome]
    cases hb : q.build with
    | ok text => rw [Call.display_outcome_of_ok hb]; exact ⟨rfl, rfl⟩
    | error f => rw [Call.display_outcome_of_error hb, if_pos hs]; exact ⟨rfl, rfl⟩
  · intro text hb
    rw [Call.display_outcome_of_ok hb]; exact ⟨rfl, rfl⟩
  · intro f hb
    rw [Call.display_outcome_of_error hb, hs]
    exact ⟨rfl, _, rfl, rfl, rfl, rfl⟩
  · cases hb : q.build with
    | ok text =>
      rw [Call.display_outcome_of_ok hb]
      constructor
      · intro h; cases h; exact absurd hb hne
      · intro ⟨f, hf⟩; cases hf
    | error f =>
      rw [Call.display_outcome_of_error hb, hs]
      exact ⟨fun _ => ⟨f, rfl⟩, fun _ => rfl⟩

/-- Conditions that come later do not hide the entry, and clearing takes it away. -/
theorem stray_entries_fail_softly_tampered :
    let q := tampered.run [.orWhere "c = 3", .startWhere "d = 4", .enableStrict (.flag false)]
    tampered.build = .error (.strayLink "&") ∧ q.build = .error (.strayLink "&") ∧
    (Call.display.outcome q).reply = .ok (.text QueryM.sentinel) ∧ (q.step .clear).build = .ok "" := by
  intro q
  have hb : tampered.build = .error (.strayLink "&") := rfl
  have hq : q.build = .error (.strayLink "&") :=
    (stray_entries_fail_softly tampered).2.2.1 _ _ hb rfl (by decide)
  obtain ⟨-, -, -, hc, -, hl, -⟩ := stray_entries_fail_softly q
  have hs : q.strict = false := rfl
  exact ⟨hb, hq, ((hl hs).2.1 _ hq).1, hc⟩

end ClauseQuery
