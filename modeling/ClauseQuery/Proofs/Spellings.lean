import ClauseQuery.Proofs.Choices

/-!
# Members by their spelling

All that is needed of a vocabulary is that its tokens are trimmed and in lower case, and that no two
members share a spelling.
-/

namespace ClauseQuery

section
variable {α : Type} [Vocabulary α]

def Spells (s : String) (m : α) : Prop :=
  lower (trim s) = Vocabulary.token m ∨ lower (trim s) = lower (Vocabulary.name m)

/-- The member with the token `s`, and where there is none that with the name `s`. -/
def memberSpelled? (α : Type) [Vocabulary α] (s : String) : Option α :=
  ((Vocabulary.members : List α).find? fun m => Vocabulary.token m == s).or
    ((Vocabulary.members : List α).find? fun m => Vocabulary.name m == s)

/-- The search through all the spellings, without a look at the tokens before it. -/
def searchWord (α : Type) [Vocabulary α] (w : Word) (param : String) : Except Fault (Option α) :=
  memberSpelled? α <$> Check.choose id ((spellings α).map Prod.fst) w param

structure ResolvesExactly (α : Type) [Vocabulary α] : Prop where
  resolves : ∀ (w : Word) (param : String) (m : α), resolve α w param = .ok m ↔ Spells w.token m
  refuses : ∀ (w : Word) (param : String),
    (∃ f, resolve α w param = .error f) ↔ ∀ m : α, ¬Spells w.token m
  refuses_others : ∀ (v : Value) (param : String), (∀ w, v ≠ .word w) → ∃ f, resolve α v param = .error f
  blames : ∀ (v : Value) (param : String) (f : Fault), resolve α v param = .error f →
    f.kind = .invalid ∧ f.param = some param
  unique : ∀ (s : String) (m m' : α), Spells s m → Spells s m' → m = m'
  searches : ∀ (w : Word) (param : String), searchWord α w param = some <$> resolve α w param
  pads : ∀ (l r : String) (w : Word) (param : String), isBlankText l = true → isBlankText r = true →
    resolve α (l ++ w.token ++ r : String) param = resolve α w param
  lowers : ∀ (w : Word) (param : String), resolve α (lower w.token) param = resolve α w param

structure IsDistinct (α : Type) [Vocabulary α] : Prop where
  complete : ∀ m : α, m ∈ (Vocabulary.members : List α)
  token_of_ofMember? : ∀ (k : Member) (m : α), Vocabulary.ofMember? k = some m → k.token = Vocabulary.token m
  lower_trim_token : ∀ m : α, lower (trim (Vocabulary.token m)) = Vocabulary.token m
  eq_of_lower_eq : ∀ p ∈ spellings α, ∀ p' ∈ spellings α, lower p.1 = lower p'.1 → p.2 = p'.2

theorem mem_spellings {p : String × α} : p ∈ spellings α ↔ p.2 ∈ (Vocabulary.members : List α) ∧
    (p.1 = Vocabulary.token p.2 ∨ p.1 = Vocabulary.name p.2) := by
  obtain ⟨s, m⟩ := p
  simp only [spellings, List.mem_append, List.mem_map, Prod.mk.injEq]
  constructor
  · rintro (⟨m', hm, rfl, rfl⟩ | ⟨m', hm, rfl, rfl⟩)
    · exact ⟨hm, .inl rfl⟩
    · exact ⟨hm, .inr rfl⟩
  · rintro ⟨hm, rfl | rfl⟩
    · exact .inl ⟨m, hm, rfl, rfl⟩
    · exact .inr ⟨m, hm, rfl, rfl⟩

theorem memberSpelled?_eq_some {s : String} {m : α} (h : memberSpelled? α s = some m) :
    (s, m) ∈ spellings α := by
  rcases Option.or_eq_some_iff.1 h with h | ⟨-, h⟩
  · have hs : Vocabulary.token m = s := by simpa using List.find?_some h
    exact mem_spellings.2 ⟨List.mem_of_find?_eq_some h, .inl hs.symm⟩
  · have hs : Vocabulary.name m = s := by simpa using List.find?_some h
    exact mem_spellings.2 ⟨List.mem_of_find?_eq_some h, .inr hs.symm⟩

theorem memberSpelled?_ne_none {p : String × α} (hp : p ∈ spellings α) : memberSpelled? α p.1 ≠ none := by
  obtain ⟨hm, h⟩ := mem_spellings.1 hp
  intro hnone
  obtain ⟨htoken, hname⟩ := Option.or_eq_none_iff.1 hnone
  rcases h with h | h
  · exact List.find?_eq_none.1 htoken p.2 hm (by simp [h])
  · exact List.find?_eq_none.1 hname p.2 hm (by simp [h])

theorem resolve_eq_error_of_not_word {v : Value} (hv : ∀ w, v ≠ .word w) (param : String) :
    resolve α v param = .error (.notAMember (Vocabulary.title α) param) := by
  cases v with
  | word w => exact absurd rfl (hv w)
  | _ => rfl

end

/-! ## One vocabulary -/

namespace IsDistinct

variable {α : Type} [Vocabulary α] (hα : IsDistinct α) {w : Word} {param : String}

include hα

theorem lower_token (m : α) : lower (Vocabulary.token m) = Vocabulary.token m := by
  rw [← hα.lower_trim_token m, lower_lower]

theorem spells_iff {s : String} {m : α} :
    Spells s m ↔ ∃ p ∈ spellings α, p.2 = m ∧ lower p.1 = lower (trim s) := by
  constructor
  · rintro (h | h)
    · exact ⟨(Vocabulary.token m, m), mem_spellings.2 ⟨hα.complete m, .inl rfl⟩, rfl,
        by rw [hα.lower_token, h]⟩
    · exact ⟨(Vocabulary.name m, m), mem_spellings.2 ⟨hα.complete m, .inr rfl⟩, rfl, h.symm⟩
  · rintro ⟨p, hp, rfl, h⟩
    rcases (mem_spellings.1 hp).2 with hs | hs
    · exact .inl (by rw [← h, hs, hα.lower_token])
    · exact .inr (by rw [← h, hs])

theorem spells_unique {s : String} {m m' : α} (h : Spells s m) (h' : Spells s m') : m = m' := by
  obtain ⟨p, hp, rfl, hs⟩ := hα.spells_iff.1 h
  obtain ⟨p', hp', rfl, hs'⟩ := hα.spells_iff.1 h'
  exact hα.eq_of_lower_eq p hp p' hp' (by rw [hs, hs'])

theorem spells_token (m : α) : Spells (Vocabulary.token m) m := .inl (hα.lower_trim_token m)

theorem spells_of_choose {p : String × α}
    (h : Check.choose Prod.fst (spellings α) w param = .ok p) : Spells w.token p.2 := by
  obtain ⟨hp, hs⟩ := Check.choose_eq_ok h
  exact hα.spells_iff.2 ⟨p, hp, rfl, hs⟩

theorem resolveWord_cases (w : Word) (param : String) :
    (∃ m, resolveWord α w param = .ok m ∧ Spells w.token m) ∨
      resolveWord α w param = .error (.notAnOption ((spellings α).map Prod.fst) param) ∧
        ∀ m : α, ¬Spells w.token m := by
  unfold resolveWord
  split
  · rename_i m hm
    have htoken : Vocabulary.token m = w.token := by simpa using List.find?_some hm
    exact .inl ⟨m, rfl, htoken ▸ hα.spells_token m⟩
  · cases h : Check.choose Prod.fst (spellings α) w param with
    | ok p => exact .inl ⟨p.2, rfl, hα.spells_of_choose h⟩
    | error f =>
      obtain ⟨rfl, hnone⟩ := Check.choose_eq_error_iff.1 h
      refine .inr ⟨rfl, fun m hm => ?_⟩
      obtain ⟨p, hp, -, hs⟩ := hα.spells_iff.1 hm
      exact hnone p hp hs

theorem resolve_cases (w : Word) (param : String) :
    (∃ m, resolve α w param = .ok m ∧ Spells w.token m) ∨
      resolve α w param = .error (.notAnOption ((spellings α).map Prod.fst) param) ∧
        ∀ m : α, ¬Spells w.token m := by
  cases w with
  | plain s => exact hα.resolveWord_cases (.plain s) param
  | member k =>
    rw [resolve]
    split
    · rename_i m hm
      refine .inl ⟨m, rfl, ?_⟩
      rw [Word.token, hα.token_of_ofMember? k m hm]
      exact hα.spells_token m
    · exact hα.resolveWord_cases (.member k) param

theorem resolve_eq_ok {m : α} : resolve α w param = .ok m ↔ Spells w.token m := by
  rcases hα.resolve_cases w param with ⟨m', hr, hm'⟩ | ⟨hr, hnone⟩
  · rw [hr, Except.ok.injEq]
    exact ⟨fun h => h ▸ hm', fun h => hα.spells_unique hm' h⟩
  · rw [hr]
    exact ⟨fun h => (by cases h), fun h => absurd h (hnone m)⟩

theorem resolve_eq_error {f : Fault} : resolve α w param = .error f ↔
    f = .notAnOption ((spellings α).map Prod.fst) param ∧ ∀ m : α, ¬Spells w.token m := by
  rcases hα.resolve_cases w param with ⟨m, hr, hm⟩ | ⟨hr, hnone⟩
  · rw [hr]
    exact ⟨fun h => (by cases h), fun h => absurd hm (h.2 m)⟩
  · rw [hr, Except.error.injEq]
    exact ⟨fun h => ⟨h.symm, hnone⟩, fun h => h.1.symm⟩

theorem resolve_congr {w' : Word} (h : lower (trim w.token) = lower (trim w'.token)) (param : String) :
    resolve α w param = resolve α w' param := by
  have hs : ∀ m : α, Spells w.token m ↔ Spells w'.token m := fun m => by rw [Spells, Spells, h]
  cases hr : resolve α w' param with
  | ok m => exact hα.resolve_eq_ok.2 ((hs m).2 (hα.resolve_eq_ok.1 hr))
  | error f =>
    obtain ⟨hf, hnone⟩ := hα.resolve_eq_error.1 hr
    exact hα.resolve_eq_error.2 ⟨hf, fun m hm => hnone m ((hs m).1 hm)⟩

theorem searchWord_eq (w : Word) (param : String) : searchWord α w param = some <$> resolve α w param := by
  unfold searchWord
  cases h : Check.choose id ((spellings α).map Prod.fst) w param with
  | ok s =>
    obtain ⟨hs, hw⟩ := Check.choose_eq_ok h
    obtain ⟨p, hp, rfl⟩ := List.mem_map.1 hs
    obtain ⟨m, hm⟩ := Option.ne_none_iff_exists'.1 (memberSpelled?_ne_none hp)
    have hr : resolve α w param = .ok m :=
      hα.resolve_eq_ok.2 (hα.spells_iff.2 ⟨(p.1, m), memberSpelled?_eq_some hm, rfl, hw⟩)
    rw [hr]
    exact congrArg Except.ok hm
  | error f =>
    obtain ⟨rfl, hnone⟩ := Check.choose_eq_error_iff.1 h
    have hr : resolve α w param = .error (.notAnOption ((spellings α).map Prod.fst) param) := by
      refine hα.resolve_eq_error.2 ⟨rfl, fun m hm => ?_⟩
      obtain ⟨p, hp, -, hs⟩ := hα.spells_iff.1 hm
      exact hnone p.1 (List.mem_map_of_mem hp) hs
    rw [hr, List.map_id]
    rfl

theorem blames {v : Value} {f : Fault} (h : resolve α v param = .error f) :
    f.kind = .invalid ∧ f.param = some param := by
  cases v with
  | word w =>
    rw [(hα.resolve_eq_error.1 h).1]
    exact ⟨rfl, rfl⟩
  | _ =>
    cases h
    exact ⟨rfl, rfl⟩

theorem resolvesExactly : ResolvesExactly α where
  resolves _ _ _ := hα.resolve_eq_ok
  refuses w param := by
    constructor
    · rintro ⟨f, hf⟩
      exact (hα.resolve_eq_error.1 hf).2
    · intro hnone
      exact ⟨_, hα.resolve_eq_error.2 ⟨rfl, hnone⟩⟩
  refuses_others v param hv := ⟨_, resolve_eq_error_of_not_word hv param⟩
  blames _ _ _ := hα.blames
  unique _ _ _ := hα.spells_unique
  searches := hα.searchWord_eq
  pads l r w param hl hr := hα.resolve_congr (by rw [Word.token, trim_pad hl hr]) param
  lowers w param := hα.resolve_congr (by rw [Word.token, ← lower_trim, lower_lower]) param

end IsDistinct

/-! ## The three vocabularies -/

theorem Comparison.isDistinct : IsDistinct Comparison where
  complete m := by cases m <;> decide
  token_of_ofMember? k m h := by
    cases k <;> cases h
    rfl
  lower_trim_token m := by cases m <;> decide +kernel
  eq_of_lower_eq := by decide +kernel

theorem Connective.isDistinct : IsDistinct Connective where
  complete m := by cases m <;> decide
  token_of_ofMember? k m h := by
    cases k <;> cases h
    rfl
  lower_trim_token m := by cases m <;> decide +kernel
  eq_of_lower_eq := by decide +kernel

theorem Direction.isDistinct : IsDistinct Direction where
  complete m := by cases m <;> decide
  token_of_ofMember? k m h := by
    cases k <;> cases h
    rfl
  lower_trim_token m := by cases m <;> decide +kernel
  eq_of_lower_eq := by decide +kernel

theorem vocabularies_spelled_exactly :
    ResolvesExactly Comparison ∧ ResolvesExactly Connective ∧ ResolvesExactly Direction :=
  ⟨Comparison.isDistinct.resolvesExactly, Connective.isDistinct.resolvesExactly,
    Direction.isDistinct.resolvesExactly⟩

/-- The name of a direction, between blanks and in mixed case; a number is no name. -/
theorem vocabularies_spelled_exactly_mixed_case :
    isBlankText "\u2003" = true ∧ isBlankText "\n" = true ∧
    resolve Direction ("\u2003" ++ "DeSc" ++ "\n" : String) "direction" = .ok .desc ∧
    ∃ f, resolve Direction 5 "direction" = .error f ∧ f.param = some "direction" := by
  obtain ⟨-, -, h⟩ := vocabularies_spelled_exactly
  have hl : isBlankText "\u2003" = true := by decide
  have hr : isBlankText "\n" = true := by decide
  have hspells : Spells "DeSc" Direction.desc := .inl (by decide +kernel)
  have hword := (h.resolves (.plain "DeSc") "direction" .desc).2 hspells
  obtain ⟨f, hf⟩ := h.refuses_others 5 "direction" fun w hw => (by cases hw)
  exact ⟨hl, hr, (h.pads _ _ (.plain "DeSc") _ hl hr).trans hword, f, hf, (h.blames _ _ f hf).2⟩

end ClauseQuery
