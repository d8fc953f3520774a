import ClauseQuery.Proofs.Frame

/-!
# Where the contents of a query come from

What is in a slot was there before, or was given and passed the check for that slot.
-/

namespace ClauseQuery

namespace Call

/-- All calls but those that check nothing. -/
def isPublic : Call → Bool
  | appendEntry _ | replaceEntries _ => false
  | _ => true

def names : Call → List Value
  | select vs | addFields vs | exclude vs => vs
  | sort v _ => [v]
  | _ => []

def texts : Call → List Value
  | startWhere v | andWhere v | orWhere v => [v]
  | _ => []

section
variable {call : Call} {q : Query} {e : Effect} (h : call.effect q = .ok e)
include h

theorem mem_fields {f : String} (hf : f ∈ e.query.fields) :
    f ∈ q.fields ∨ f = QueryM.wildcard ∨ ∃ v ∈ call.names, Check.dottedPath v = .ok f := by
  by_cases ho : Slot.fields ∈ call.owned
  · cases call with
    | select vs =>
      simp only [effect] at h
      split at h
      · cases h
        exact Or.inr (Or.inl (List.mem_singleton.1 hf))
      · obtain ⟨fs, hfs, rfl⟩ := map_eq_ok.1 h
        exact Or.inr (Or.inr (QueryM.of_mem_checkedFields hfs hf))
    | addFields vs =>
      obtain ⟨fs, hfs, rfl⟩ := map_eq_ok.1 h
      rcases List.mem_append.1 (List.mem_eraseDups.1 hf) with hf | hf
      · exact Or.inl hf
      · exact Or.inr (Or.inr (QueryM.of_mem_checkedFields hfs hf))
    | clear => cases h; cases hf
    | _ => simp [owned] at ho
  · have hs : e.query.fields = q.fields := effect_agreesAt h ho
    rw [hs] at hf
    exact Or.inl hf

theorem mem_excluded {f : String} (hf : f ∈ e.query.excluded) :
    f ∈ q.excluded ∨ ∃ v ∈ call.names, Check.dottedPath v = .ok f := by
  by_cases ho : Slot.excluded ∈ call.owned
  · cases call with
    | exclude vs =>
      obtain ⟨fs, hfs, rfl⟩ := map_eq_ok.1 h
      rcases List.mem_append.1 (List.mem_eraseDups.1 hf) with hf | hf
      · exact Or.inl hf
      · exact Or.inr (QueryM.of_mem_checkedFields hfs hf)
    | clear => cases h; cases hf
    | _ => simp [owned] at ho
  · have hs : e.query.excluded = q.excluded := effect_agreesAt h ho
    rw [hs] at hf
    exact Or.inl hf

theorem mem_sortTexts {text : String} (ht : text ∈ e.query.sortTexts) : text ∈ q.sortTexts ∨
    ∃ k : SortKey, k.text = text ∧ ∃ v ∈ call.names, ∃ param, Check.nonBlank v param = .ok k.field := by
  by_cases ho : Slot.sortTexts ∈ call.owned
  · cases call with
    | sort field direction =>
      obtain ⟨name, hname, h⟩ := bind_eq_ok.1 h
      obtain ⟨d, -, h⟩ := bind_eq_ok.1 h
      cases h
      rcases List.mem_append.1 ht with ht | ht
      · exact Or.inl ht
      · exact Or.inr ⟨⟨name, d⟩, (List.mem_singleton.1 ht).symm, field, List.mem_singleton.2 rfl, _, hname⟩
    | clear => cases h; cases ht
    | _ => simp [owned] at ho
  · have hs : e.query.sortTexts = q.sortTexts := effect_agreesAt h ho
    rw [hs] at ht
    exact Or.inl ht

theorem mem_limit {n : Int} (hn : n ∈ e.query.limit) :
    n ∈ q.limit ∨ ∃ v param, Check.positive v param = .ok n := by
  by_cases ho : Slot.limit ∈ call.owned
  · cases call with
    | limit v =>
      obtain ⟨m, hm, rfl⟩ := map_eq_ok.1 h
      cases hn
      exact Or.inr ⟨v, _, hm⟩
    | clear => cases h; cases hn
    | _ => simp [owned] at ho
  · have hs : e.query.limit = q.limit := effect_agreesAt h ho
    rw [hs] at hn
    exact Or.inl hn

theorem mem_offset {n : Int} (hn : n ∈ e.query.offset) :
    n ∈ q.offset ∨ ∃ v param, Check.nonNegative v param = .ok n := by
  by_cases ho : Slot.offset ∈ call.owned
  · cases call with
    | offset v =>
      obtain ⟨m, hm, rfl⟩ := map_eq_ok.1 h
      cases hn
      exact Or.inr ⟨v, _, hm⟩
    | clear => cases h; cases hn
    | _ => simp [owned] at ho
  · have hs : e.query.offset = q.offset := effect_agreesAt h ho
    rw [hs] at hn
    exact Or.inl hn

theorem mem_search {term : String} (ht : term ∈ e.query.search) :
    term ∈ q.search ∨ ∃ v param, Check.nonBlank v param = .ok term := by
  by_cases ho : Slot.search ∈ call.owned
  · cases call with
    | search v =>
      obtain ⟨t, hv, rfl⟩ := map_eq_ok.1 h
      cases ht
      exact Or.inr ⟨v, _, hv⟩
    | clear => cases h; cases ht
    | _ => simp [owned] at ho
  · have hs : e.query.search = q.search := effect_agreesAt h ho
    rw [hs] at ht
    exact Or.inl ht

/-- A chain that public calls change is emptied, or grows by an entry that follows on. -/
theorem chain_cases (hp : call.isPublic = true) :
    e.query.chain = q.chain ∨ e.query.chain = .empty ∨
      ∃ v ∈ call.texts, ∃ param text link, Check.nonBlank v param = .ok text ∧
        e.query.chain = q.chain.append ⟨link, text⟩ ∧ (q.chain.isEmpty = true → link = .opening) ∧
        (q.chain.isEmpty = false → ∃ c, link = .joined c) := by
  by_cases ho : Slot.conditions ∈ call.owned
  · cases call with
    | startWhere v =>
      obtain ⟨c, hc, rfl⟩ := map_eq_ok.1 h
      obtain ⟨text, ht, he, rfl⟩ := Chain.start_eq_ok.1 hc
      refine Or.inr (Or.inr ⟨v, List.mem_singleton.2 rfl, _, text, _, ht, rfl, fun _ => rfl, fun hn => ?_⟩)
      rw [he] at hn; cases hn
    | andWhere v =>
      obtain ⟨c, hc, rfl⟩ := map_eq_ok.1 h
      obtain ⟨text, ht, rfl⟩ := Chain.and_eq_ok.1 hc
      refine Or.inr (Or.inr ⟨v, List.mem_singleton.2 rfl, _, text, _, ht, rfl, fun he => ?_, fun hn => ⟨.and, ?_⟩⟩)
      · rw [if_pos he]
      · simp [hn]
    | orWhere v =>
      obtain ⟨c, hc, rfl⟩ := map_eq_ok.1 h
      obtain ⟨text, ht, hn, rfl⟩ := Chain.or_eq_ok.1 hc
      refine Or.inr (Or.inr ⟨v, List.mem_singleton.2 rfl, _, text, _, ht, rfl, fun he => ?_, fun _ => ⟨.or, rfl⟩⟩)
      rw [hn] at he; cases he
    | clear => cases h; exact Or.inr (Or.inl rfl)
    | appendEntry entry | replaceEntries entries => cases hp
    | _ => simp [owned] at ho
  · exact Or.inl (effect_agreesAt h ho)

end

end Call

end ClauseQuery
