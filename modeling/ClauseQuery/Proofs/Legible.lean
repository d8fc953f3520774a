import ClauseQuery.Proofs.Literals
import ClauseQuery.Proofs.WellFormed

/-!
# Legible queries

No value and no search term can pass for a part of the query.
-/

namespace ClauseQuery

def Value.IsPlainName (v : Value) : Prop := ∀ w, v = .word w → IsPlain w.token

/-- The text of a condition on a plain field, whatever its value and its comparison are. -/
def Value.IsConditionText (v : Value) : Prop := ∀ w, v = .word w →
  ∃ (field : Word) (value comparison : Value) (c : Condition), IsPlain field.token ∧
    Condition.make field value comparison = .ok c ∧ w.token = c.text

structure Call.IsLegible (call : Call) : Prop where
  isPublic : call.isPublic = true
  names : ∀ v ∈ call.names, v.IsPlainName
  texts : ∀ v ∈ call.texts, v.IsConditionText

theorem Value.IsPlainName.of_nonBlank {v : Value} (h : v.IsPlainName) {param s : String}
    (hs : Check.nonBlank v param = .ok s) : IsPlain s := by
  obtain ⟨w, rfl, -, rfl⟩ := Check.nonBlank_eq_ok.1 hs
  exact (h w rfl).trim

theorem Value.IsPlainName.of_dottedPath {v : Value} (h : v.IsPlainName) {param s : String}
    (hs : Check.dottedPath v param = .ok s) : IsPlain s :=
  h.of_nonBlank (Check.dottedPath_eq_ok.1 hs).1

theorem Value.IsConditionText.of_nonBlank {v : Value} (h : v.IsConditionText) {param s : String}
    (hs : Check.nonBlank v param = .ok s) : Sealed Condition.marks s.toList := by
  obtain ⟨w, hv, -, ht⟩ := Check.nonBlank_eq_ok.1 hs
  obtain ⟨field, value, comparison, c, hfield, hc, hw⟩ := h w hv
  have hsealed := Condition.sealed_text_of_make hfield hc
  rw [← ht, toList_trim, hw]
  exact hsealed.trimChars

/-! ## Queries -/

namespace Query

structure Legible (q : Query) : Prop where
  fields : ∀ f ∈ q.fields, IsPlain f
  excluded : ∀ f ∈ q.excluded, IsPlain f
  sortTexts : ∀ text ∈ q.sortTexts, IsPlain text
  texts : ∀ e ∈ q.chain.entries, Sealed Condition.marks e.text.toList

namespace Legible

theorem cleared (q : Query) : q.cleared.Legible where
  fields _ h := by cases h
  excluded _ h := by cases h
  sortTexts _ h := by cases h
  texts _ h := by cases h

theorem new (strict : Value) (settings : Settings) : (Query.new strict settings).Legible := by
  unfold Query.new
  split
  · exact cleared { strict := settings.strict }
  · exact cleared { strict := strict.isTruthy }

theorem isPlain_sortText {k : SortKey} (h : IsPlain k.field) : IsPlain k.text := by
  have hd : IsPlain k.direction.token := by cases k.direction <;> decide
  intro c hc
  simp only [SortKey.text, String.toList_append, List.mem_append] at hc
  rcases hc with (hc | hc) | hc
  · exact h c hc
  · exact (by decide : IsPlain " ") c hc
  · exact hd c hc

variable {q : Query}

theorem effect (hq : q.Legible) {call : Call} (hp : call.IsLegible) {e : Call.Effect}
    (h : call.effect q = .ok e) : e.query.Legible := by
  refine ⟨fun f hf => ?_, fun f hf => ?_, fun text ht => ?_, fun entry he => ?_⟩
  · rcases Call.mem_fields h hf with hf | rfl | ⟨v, hv, hs⟩
    · exact hq.fields f hf
    · decide
    · exact (hp.names v hv).of_dottedPath hs
  · rcases Call.mem_excluded h hf with hf | ⟨v, hv, hs⟩
    · exact hq.excluded f hf
    · exact (hp.names v hv).of_dottedPath hs
  · rcases Call.mem_sortTexts h ht with ht | ⟨k, rfl, v, hv, param, hs⟩
    · exact hq.sortTexts text ht
    · exact isPlain_sortText ((hp.names v hv).of_nonBlank hs)
  · rcases Call.chain_cases h hp.isPublic with hc | hc | ⟨v, hv, param, text, link, hs, hc, -, -⟩
    · rw [hc] at he; exact hq.texts entry he
    · rw [hc] at he; cases he
    · rw [hc] at he
      rcases List.mem_append.1 he with he | he
      · exact hq.texts entry he
      · rw [List.mem_singleton.1 he]; exact (hp.texts v hv).of_nonBlank hs

theorem run {calls : List Call} (hq : q.Legible) (hp : ∀ call ∈ calls, call.IsLegible) :
    (q.run calls).Legible :=
  run_induction (fun hq hc => step_of_effect hq fun _ => hq.effect hc) hq hp

/-! ## Their contents -/

theorem names_sealed {names : List String} (h : ∀ n ∈ names, IsPlain n) :
    ∀ n ∈ names, Sealed [','] n.toList := fun n hn => (h n hn).sealed.mono (by decide)

theorem namesContent_sealed {names : List String} (h : ∀ n ∈ names, IsPlain n) :
    ∀ c ∈ namesContent names, Sealed [';'] c.toList := by
  intro c hc
  cases names with
  | nil => cases hc
  | cons n ns =>
    cases hc
    exact sealed_commas (by decide) fun n' hn' => (h n' hn').sealed.mono (by decide)

theorem number_sealed (n : Option Int) : ∀ c ∈ n.map toString, Sealed [';'] c.toList := by
  intro c hc
  obtain ⟨m, -, rfl⟩ := Option.map_eq_some_iff.1 hc
  exact (isPlain_toString m).sealed.mono (by decide)

theorem searchContent_sealed (term : Option String) : ∀ c ∈ searchContent term, Sealed [';'] c.toList := by
  intro c hc
  unfold searchContent at hc
  split at hc
  · cases hc
  · split at hc
    · cases hc
    · rw [← Option.some_inj.1 hc]
      exact (sealed_quote _).mono (by decide)

theorem readable (hq : q.Legible) (hw : q.WellFormed) : Chain.Readable q.chain.entries :=
  ⟨hw.chain.opening, hw.chain.joined, hq.texts⟩

theorem contentsSealed (hq : q.Legible) (hw : q.WellFormed) : q.ContentsSealed := by
  unfold ContentsSealed
  simp only [contents, List.forall_mem_cons, List.not_mem_nil, false_imp_iff, implies_true, and_true]
  exact ⟨namesContent_sealed hq.fields, namesContent_sealed hq.excluded, Chain.content_sealed (hq.readable hw),
    namesContent_sealed hq.sortTexts, number_sealed _, number_sealed _, searchContent_sealed _⟩

theorem eq_of_text_eq {q' : Query} (hq : q.Legible) (hw : q.WellFormed) (hq' : q'.Legible)
    (hw' : q'.WellFormed) (h : q.text = q'.text) : q.fields = q'.fields ∧ q.excluded = q'.excluded ∧
      q.chain.entries = q'.chain.entries ∧ q.sortTexts = q'.sortTexts ∧ q.limit = q'.limit ∧
      q.offset = q'.offset ∧ q.search = q'.search := by
  have hc := (hq.contentsSealed hw).contents_eq (hq'.contentsSealed hw') h
  simp only [contents, List.cons.injEq, Prod.mk.injEq, true_and, and_true, hw.searchContent_eq,
    hw'.searchContent_eq] at hc
  obtain ⟨hfields, hexcluded, hchain, hsort, hlimit, hoffset, hsearch⟩ := hc
  have hnum : ∀ m n : Int, toString m = toString n → m = n := fun m n => Value.toString_inj
  refine ⟨?_, ?_, ?_, ?_, ?_, ?_, ?_⟩
  · exact namesContent_inj (names_sealed hq.fields) (names_sealed hq'.fields) hfields
  · exact namesContent_inj (names_sealed hq.excluded) (names_sealed hq'.excluded) hexcluded
  · exact Chain.content_inj (hq.readable hw) (hq'.readable hw') hchain
  · exact namesContent_inj (names_sealed hq.sortTexts) (names_sealed hq'.sortTexts) hsort
  · exact (Option.map_inj_right hnum).1 hlimit
  · exact (Option.map_inj_right hnum).1 hoffset
  · exact (Option.map_inj_right quote_inj).1 hsearch

end Legible

end Query

/-- **Texts are read in one way.** Of two runs of legible calls, one builds to the text of the other
exactly if they agree in every clause. -/
theorem legible_text_unique (strict strict' : Value) (settings settings' : Settings)
    (calls calls' : List Call) (hc : ∀ call ∈ calls, call.IsLegible)
    (hc' : ∀ call ∈ calls', call.IsLegible) :
    let q := (Query.new strict settings).run calls
    let q' := (Query.new strict' settings').run calls'
    let agree := q.fields = q'.fields ∧ q.excluded = q'.excluded ∧ q.chain.entries = q'.chain.entries ∧
      q.sortTexts = q'.sortTexts ∧ q.limit = q'.limit ∧ q.offset = q'.offset ∧ q.search = q'.search
    ((∃ text, (Call.build.outcome q).reply = .ok (.text text)) ↔ q.fits = true) ∧
    (∀ text, (Call.build.outcome q).reply = .ok (.text text) →
      ((Call.build.outcome q').reply = .ok (.text text) ↔ agree)) ∧
    (agree → (Call.build.outcome q).reply = (Call.build.outcome q').reply) := by
  intro q q' agree
  have hq : q.Legible := (Query.Legible.new strict settings).run hc
  have hq' : q'.Legible := (Query.Legible.new strict' settings').run hc'
  have hw : q.WellFormed := (Query.WellFormed.new strict settings).run fun call hm => (hc call hm).isPublic
  have hw' : q'.WellFormed :=
    (Query.WellFormed.new strict' settings').run fun call hm => (hc' call hm).isPublic
  have hbuild : agree → q.build = q'.build := by
    rintro ⟨h₁, h₂, h₃, h₄, h₅, h₆, h₇⟩
    have hchain : q.chain = q'.chain := congrArg Chain.mk h₃
    simp only [Query.build, Query.clauses, h₁, h₂, hchain, h₄, h₅, h₆, h₇]
  refine ⟨?_, fun text ht => ⟨fun ht' => ?_, fun h => ?_⟩, fun h => ?_⟩
  · simp only [Call.build_reply_eq_ok, hw.build_eq_ok, exists_and_left, exists_eq', and_true]
  · obtain ⟨-, h⟩ := hw.build_eq_ok.1 (Call.build_reply_eq_ok.1 ht)
    obtain ⟨-, h'⟩ := hw'.build_eq_ok.1 (Call.build_reply_eq_ok.1 ht')
    exact hq.eq_of_text_eq hw hq' hw' (h.trans h'.symm)
  · rw [Call.build_reply_eq_ok, ← hbuild h]
    exact Call.build_reply_eq_ok.1 ht
  · rw [Call.build_outcome, Call.build_outcome, hbuild h]

/-- A search term and a condition that hold the text of a limit do not set one. -/
theorem legible_text_unique_forged :
    let calls : List Call :=
      [.select ["id"], .startWhere "name != \"\\\"; limit 1 | id = 2\"", .search "a\"; limit 1; "]
    let calls' : List Call :=
      [.select ["id"], .andWhere "name != \"\\\"\"", .search "a", .limit 1]
    (∀ call ∈ calls, call.IsLegible) ∧ (∀ call ∈ calls', call.IsLegible) ∧
    ∃ text, (Call.build.outcome ((Query.new).run calls)).reply = .ok (.text text) ∧
      (Call.build.outcome ((Query.new).run calls')).reply ≠ .ok (.text text) := by
  intro calls calls'
  have hselect : Call.IsLegible (.select ["id"]) := by
    refine ⟨rfl, fun v hv w hw => ?_, fun v hv => by cases hv⟩
    rw [List.mem_singleton.1 hv] at hw
    cases hw
    decide
  have hset : ∀ call : Call, call.isPublic = true → call.names = [] → call.texts = [] → call.IsLegible := by
    intro call hp hn ht
    exact ⟨hp, by simp [hn], by simp [ht]⟩
  have hc : ∀ call ∈ calls, call.IsLegible := by
    simp only [calls, List.forall_mem_cons, List.not_mem_nil, false_imp_iff, implies_true, and_true]
    refine ⟨hselect, ⟨rfl, by simp [Call.names], fun v hv w hw => ?_⟩, hset _ rfl rfl rfl⟩
    rw [List.mem_singleton.1 hv] at hw
    cases hw
    exact ⟨.plain "name", "\"; limit 1 | id = 2", Comparison.neq,
      ⟨"name", .neq, ["\"\\\"; limit 1 | id = 2\""]⟩, by decide, rfl, rfl⟩
  have hc' : ∀ call ∈ calls', call.IsLegible := by
    simp only [calls', List.forall_mem_cons, List.not_mem_nil, false_imp_iff, implies_true, and_true]
    refine ⟨hselect, ⟨rfl, by simp [Call.names], fun v hv w hw => ?_⟩, hset _ rfl rfl rfl, hset _ rfl rfl rfl⟩
    rw [List.mem_singleton.1 hv] at hw
    cases hw
    exact ⟨.plain "name", "\"", Comparison.neq, ⟨"name", .neq, ["\"\\\"\""]⟩, by decide, rfl, rfl⟩
  obtain ⟨hok, hunique, -⟩ := legible_text_unique .null .null {} {} calls calls' hc hc'
  obtain ⟨text, ht⟩ := hok.2 rfl
  refine ⟨hc, hc', text, ht, fun h => ?_⟩
  obtain ⟨-, -, -, -, hlimit, -⟩ := (hunique text ht).1 h
  exact absurd hlimit (by decide)

end ClauseQuery
