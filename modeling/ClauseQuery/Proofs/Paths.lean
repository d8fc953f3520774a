import ClauseQuery.Proofs.Provenance
import ClauseQuery.Proofs.Trimming

/-!
# Paths of names

Trimming a path changes no part of it from blank to not blank (`blankParts_trimChars`).
-/

namespace ClauseQuery

/-! ## Parts between dots -/

def blankParts (s : List Char) : List Bool := (s.splitOn '.').map (·.all isBlank)

theorem blankParts_dot (s : List Char) : blankParts ('.' :: s) = true :: blankParts s := by
  unfold blankParts
  rw [List.splitOn_eq_splitOnP, List.splitOnP_cons_eq_if_modifyHead, if_pos (beq_self_eq_true _), List.map_cons,
    List.splitOn_eq_splitOnP]
  rfl

theorem blankParts_cons {c : Char} (hc : c ≠ '.') (s : List Char) :
    blankParts (c :: s) = (blankParts s).modifyHead (isBlank c && ·) := by
  unfold blankParts
  rw [List.splitOn_eq_splitOnP, List.splitOnP_cons_eq_if_modifyHead, if_neg (by simpa using hc),
    List.splitOn_eq_splitOnP]
  cases List.splitOnP (· == '.') s <;> rfl

theorem blankParts_append_dot (s t : List Char) :
    blankParts (s ++ '.' :: t) = blankParts s ++ blankParts t := by
  unfold blankParts
  simp only [List.splitOn_eq_splitOnP, ← List.map_append]
  rw [List.splitOnP_append_cons s t (by rfl)]

theorem blankParts_cons_blank {c : Char} (hc : isBlank c = true) (s : List Char) :
    blankParts (c :: s) = blankParts s := by
  have hdot : c ≠ '.' := by
    rintro rfl
    exact absurd hc (by decide)
  rw [blankParts_cons hdot, hc]
  cases blankParts s <;> rfl

section
variable {l r : List Char} (hl : l.all isBlank = true) (hr : r.all isBlank = true)

include hl in
theorem blankParts_blank_append (s : List Char) : blankParts (l ++ s) = blankParts s := by
  induction l with
  | nil => rfl
  | cons c l ih =>
    rw [List.all_cons, Bool.and_eq_true] at hl
    rw [List.cons_append, blankParts_cons_blank hl.1, ih hl.2]

include hr in
theorem blankParts_append_blank (s : List Char) : blankParts (s ++ r) = blankParts s := by
  induction s with
  | nil => exact (List.append_nil r ▸ blankParts_blank_append hr [] :)
  | cons c s ih =>
    rw [List.cons_append]
    by_cases hc : c = '.'
    · rw [hc, blankParts_dot, blankParts_dot, ih]
    · rw [blankParts_cons hc, blankParts_cons hc, ih]

end

theorem blankParts_trimChars (s : List Char) : blankParts (trimChars s) = blankParts s := by
  obtain ⟨l, r, hl, hr, hs⟩ := exists_pad s
  conv => rhs; rw [hs, blankParts_append_blank hr, blankParts_blank_append hl]

theorem not_blank_of_parts {s : List Char} (h : true ∉ blankParts s) : s.all isBlank = false := by
  rw [Bool.eq_false_iff]
  intro hs
  rw [← List.append_nil s, blankParts_blank_append hs] at h
  exact h (List.mem_singleton.2 rfl)

theorem any_segments (s : String) : (Check.segments s).any isBlankText = (blankParts s.toList).any id := by
  have hparts : isBlankText ∘ String.ofList = id ∘ fun part : List Char => part.all isBlank := by
    funext part
    rw [Function.comp_apply, isBlankText_eq, String.toList_ofList, Function.comp_apply, id]
  rw [Check.segments, blankParts, List.any_map, List.any_map, hparts]

theorem any_segments_trim (s : String) :
    (Check.segments (trim s)).any isBlankText = (blankParts s.toList).any id := by
  rw [any_segments, trim, String.toList_ofList, blankParts_trimChars]

/-! ## Values that are paths -/

/-- A text that is not blank and has no blank part. -/
def Value.isPath (v : Value) : Bool := v.hasText && !(Check.segments v.trimmed).any isBlankText

inductive Value.IsNoPath : Value → Fault → Prop
  | notText {v : Value} (h : ∀ w, v ≠ .word w) : IsNoPath v (.notText "field")
  | blank {w : Word} (h : isBlankText w.token = true) : IsNoPath (.word w) (.blankText "field")
  | blankPart {w : Word} (h : isBlankText w.token = false)
    (hp : (Check.segments (trim w.token)).any isBlankText = true) :
    IsNoPath (.word w) (.blankSegment (trim w.token) "field")

theorem Value.isPath_word (w : Word) : (word w).isPath = !(blankParts w.token.toList).any id := by
  rw [isPath, hasText, trimmed, any_segments_trim, isBlankText_eq]
  cases hp : (blankParts w.token.toList).any id with
  | true => rw [Bool.not_true, Bool.and_false]
  | false =>
    have hb : w.token.toList.all isBlank = false := by
      apply not_blank_of_parts
      simpa using hp
    rw [hb]
    rfl

theorem Value.isPath_text (s : String) : (word (.plain s)).isPath = !(blankParts s.toList).any id :=
  isPath_word _

theorem Value.isPath_trim (s : String) : (word (.plain (trim s))).isPath = (word (.plain s)).isPath := by
  rw [isPath_text, isPath_text, trim, String.toList_ofList, blankParts_trimChars]

theorem Value.isPath_dot (s t : String) :
    (word (.plain (s ++ "." ++ t))).isPath = ((word (.plain s)).isPath && (word (.plain t)).isPath) := by
  have hl : (s ++ "." ++ t).toList = s.toList ++ '.' :: t.toList := by
    rw [String.toList_append, String.toList_append, List.append_assoc]
    rfl
  rw [isPath_text, isPath_text, isPath_text, hl, blankParts_append_dot, List.any_append, Bool.not_or]

namespace Check

theorem dottedPath_eq_ok_iff {v : Value} {s : String} :
    dottedPath v = .ok s ↔ v.isPath = true ∧ v.trimmed = s := by
  rw [dottedPath_eq_ok, Value.isPath, Bool.and_eq_true, Bool.not_eq_true']
  constructor
  · rintro ⟨h, hp⟩
    obtain ⟨w, rfl, hb, rfl⟩ := nonBlank_eq_ok.1 h
    exact ⟨⟨by rw [Value.hasText, hb]; rfl, hp⟩, rfl⟩
  · rintro ⟨⟨h, hp⟩, rfl⟩
    exact ⟨nonBlank_of_hasText h _, hp⟩

theorem dottedPath_of_isNoPath {v : Value} {f : Fault} (h : v.IsNoPath f) : dottedPath v = .error f := by
  cases h with
  | notText hv =>
    cases v with
    | word w => exact absurd rfl (hv w)
    | _ => rfl
  | blank hb =>
    rw [dottedPath, nonBlank, if_pos hb]
    rfl
  | @blankPart w hb hp =>
    have hv : (Value.word w).hasText = true := by simp [Value.hasText, hb]
    refine bind_eq_error.2 (Or.inr ⟨trim w.token, nonBlank_of_hasText hv _, ?_⟩)
    rw [if_pos hp]
    rfl

theorem exists_isNoPath {v : Value} (h : v.isPath = false) : ∃ f, v.IsNoPath f := by
  cases v with
  | word w =>
    by_cases hb : isBlankText w.token = true
    · exact ⟨_, .blank hb⟩
    · rw [Bool.not_eq_true] at hb
      refine ⟨_, .blankPart hb ?_⟩
      simpa [Value.isPath, Value.hasText, Value.trimmed, hb] using h
  | _ => exact ⟨_, .notText (by simp)⟩

theorem dottedPath_eq_error {v : Value} {f : Fault} : dottedPath v = .error f ↔ v.IsNoPath f := by
  have hok : v.isPath = true → ∃ s, dottedPath v = .ok s := by
    intro hv
    exact ⟨v.trimmed, dottedPath_eq_ok_iff.2 ⟨hv, rfl⟩⟩
  have hcases : v.isPath = true ∨ ∃ f, v.IsNoPath f := by
    cases hv : v.isPath with
    | true => exact Or.inl rfl
    | false => exact Or.inr (exists_isNoPath hv)
  exact (decided hok (fun _ => dottedPath_of_isNoPath) hcases).2 f

end Check

/-! ## Lists of names -/

namespace QueryM

theorem checkedFields_eq_ok {vs : List Value} {names : List String} : checkedFields vs = .ok names ↔
    vs ≠ [] ∧ (∀ v ∈ vs, v.isPath = true) ∧ vs.map Value.trimmed = names := by
  have hmap : vs.mapM (fun v => Check.dottedPath v) = .ok names ↔
      (∀ v ∈ vs, v.isPath = true) ∧ vs.map Value.trimmed = names := by
    rw [mapM_eq_ok, ← List.forall₂_eq_eq_eq, List.forall₂_map_left_iff, ← List.forall₂_and_left]
    simp only [Check.dottedPath_eq_ok_iff]
  rw [checkedFields_eq_ok_iff_mapM, hmap]

theorem checkedFields_eq_error {vs : List Value} {f : Fault} : checkedFields vs = .error f ↔
    vs = [] ∧ f = .noFields ∨
      ∃ before v after, vs = before ++ v :: after ∧ (∀ u ∈ before, u.isPath = true) ∧ v.IsNoPath f := by
  have hpath : ∀ v : Value, (∃ s, Check.dottedPath v = .ok s) ↔ v.isPath = true := by
    simp [Check.dottedPath_eq_ok_iff]
  have hmap : vs.mapM (fun v => Check.dottedPath v) = .error f ↔
      ∃ before v after, vs = before ++ v :: after ∧ (∀ u ∈ before, u.isPath = true) ∧ v.IsNoPath f := by
    simp only [mapM_eq_error, hpath, Check.dottedPath_eq_error]
  unfold checkedFields
  cases vs with
  | nil =>
    refine ⟨fun h => Or.inl ⟨rfl, (Except.error.inj h).symm⟩, ?_⟩
    rintro (⟨-, rfl⟩ | ⟨before, v, after, h, -⟩)
    · rfl
    · simp at h
  | cons v vs => simpa using hmap

/-- A lone wildcard is taken as the general way would take it. -/
theorem checkedFields_of_isLoneWildcard {vs : List Value} (h : isLoneWildcard vs = true) :
    checkedFields vs = .ok [wildcard] := by
  refine checkedFields_eq_ok.2 ⟨?_, ?_, trimmed_of_isLoneWildcard h⟩
  · rintro rfl
    cases h
  · unfold isLoneWildcard at h
    split at h
    · rename_i w
      have hw : w.token = wildcard := by simpa using h
      have hp : (!(blankParts wildcard.toList).any id) = true := by decide
      simpa [Value.isPath_word, hw] using hp
    · cases h

end QueryM

/-! ## Calls that take names -/

inductive Naming
  | select | addFields | exclude

namespace Naming

def call : Naming → List Value → Call
  | select => .select
  | addFields => .addFields
  | exclude => .exclude

def take (q : Query) (names : List String) : Naming → Query
  | select => { q with fields := names }
  | addFields => { q with fields := (q.fields ++ names).eraseDups }
  | exclude => { q with excluded := (q.excluded ++ names).eraseDups }

section
variable (k : Naming) (q : Query) {vs : List Value}

variable (vs) in
theorem effect_eq : ∃ log : List String → List LogRecord, (k.call vs).effect q =
    (QueryM.checkedFields vs).map fun names => { log := log names, query := k.take q names } := by
  cases k with
  | select =>
    simp only [call, Call.effect]
    split
    · rename_i hw
      rw [QueryM.checkedFields_of_isLoneWildcard hw]
      exact ⟨fun _ => [], rfl⟩
    · exact ⟨fun names => [QueryM.selectionRecord names], rfl⟩
  | _ => exact ⟨fun _ => [], rfl⟩

theorem outcome_of_ok {names : List String} (h : QueryM.checkedFields vs = .ok names) :
    ((k.call vs).outcome q).reply = .ok .done ∧ ((k.call vs).outcome q).query = k.take q names := by
  obtain ⟨log, he⟩ := k.effect_eq q vs
  rw [Call.outcome_eq, he, h]
  exact ⟨rfl, rfl⟩

theorem outcome_of_error {f : Fault} (h : QueryM.checkedFields vs = .error f) :
    ((k.call vs).outcome q).reply = .error f := by
  obtain ⟨log, he⟩ := k.effect_eq q vs
  rw [Call.outcome_eq, he, h]
  rfl

theorem reply_eq_ok_iff : ((k.call vs).outcome q).reply = .ok .done ↔ vs ≠ [] ∧ ∀ v ∈ vs, v.isPath = true := by
  cases h : QueryM.checkedFields vs with
  | ok names =>
    obtain ⟨hne, hp, -⟩ := QueryM.checkedFields_eq_ok.1 h
    exact iff_of_true (k.outcome_of_ok q h).1 ⟨hne, hp⟩
  | error f =>
    rw [k.outcome_of_error q h]
    refine iff_of_false (by simp) ?_
    rintro ⟨hne, hp⟩
    rw [QueryM.checkedFields_eq_ok.2 ⟨hne, hp, rfl⟩] at h
    cases h

theorem reply_eq_error_iff {f : Fault} : ((k.call vs).outcome q).reply = .error f ↔ vs = [] ∧ f = .noFields ∨
    ∃ before v after, vs = before ++ v :: after ∧ (∀ u ∈ before, u.isPath = true) ∧ v.IsNoPath f := by
  rw [← QueryM.checkedFields_eq_error]
  cases h : QueryM.checkedFields vs with
  | ok names => simp [(k.outcome_of_ok q h).1]
  | error f' => simp [k.outcome_of_error q h]

structure Takes (vs : List Value) (names : List String) : Prop where
  reply : ((k.call vs).outcome q).reply = .ok .done
  query : ((k.call vs).outcome q).query = k.take q names

theorem takes_iff : k.Takes q vs (vs.map Value.trimmed) ↔ vs ≠ [] ∧ ∀ v ∈ vs, v.isPath = true := by
  refine ⟨fun h => (k.reply_eq_ok_iff q).1 h.reply, ?_⟩
  rintro ⟨hne, hp⟩
  obtain ⟨hr, hq⟩ := k.outcome_of_ok q (QueryM.checkedFields_eq_ok.2 ⟨hne, hp, rfl⟩)
  exact ⟨hr, hq⟩

end

end Naming

/-! ## Names that a query holds -/

def Query.HoldsPaths (q : Query) : Prop :=
  ∀ f, f ∈ q.fields ∨ f ∈ q.excluded → Check.dottedPath f = .ok f

namespace Query.HoldsPaths

theorem new (strict : Value) (settings : Settings) : (Query.new strict settings).HoldsPaths := by
  intro f hf
  unfold Query.new at hf
  split at hf <;> simp at hf

theorem effect {q : Query} (hq : q.HoldsPaths) {call : Call} {e : Call.Effect} (h : call.effect q = .ok e) :
    e.query.HoldsPaths := by
  rintro f (hf | hf)
  · rcases Call.mem_fields h hf with hf | rfl | ⟨v, -, hv⟩
    · exact hq f (Or.inl hf)
    · rfl
    · exact Check.dottedPath_again hv _
  · rcases Call.mem_excluded h hf with hf | ⟨v, -, hv⟩
    · exact hq f (Or.inr hf)
    · exact Check.dottedPath_again hv _

theorem run {q : Query} (hq : q.HoldsPaths) (calls : List Call) : (q.run calls).HoldsPaths := by
  refine run_induction (C := fun _ => True) (fun hq _ => ?_) hq fun _ _ => trivial
  exact step_of_effect hq fun _ h => hq.effect h

end Query.HoldsPaths

theorem QueryM.checkedFields_texts {names : List String} (hne : names ≠ [])
    (h : ∀ f ∈ names, Check.dottedPath f = .ok f) : checkedFields (Value.texts names) = .ok names := by
  unfold checkedFields Value.texts
  rw [if_neg (by simp [hne]), mapM_eq_ok, List.forall₂_map_left_iff, List.forall₂_same]
  exact h

theorem Naming.takes_texts (k : Naming) (q : Query) {names : List String} (hne : names ≠ [])
    (h : ∀ f ∈ names, Check.dottedPath f = .ok f) : k.Takes q (Value.texts names) names := by
  obtain ⟨hr, hq⟩ := k.outcome_of_ok q (QueryM.checkedFields_texts hne h)
  exact ⟨hr, hq⟩

theorem Naming.takes_again (k : Naming) (q : Query) {vs : List Value} (hne : vs ≠ [])
    (h : ∀ v ∈ vs, v.isPath = true) : k.Takes q (Value.texts (vs.map Value.trimmed)) (vs.map Value.trimmed) := by
  refine k.takes_texts q (by simpa using hne) fun f hf => ?_
  obtain ⟨v, hv, rfl⟩ := List.mem_map.1 hf
  exact Check.dottedPath_again (Check.dottedPath_eq_ok_iff.2 ⟨h v hv, rfl⟩) _

theorem Naming.reply_singleton (k : Naming) (q : Query) (v : Value) :
    ((k.call [v]).outcome q).reply = .ok .done ↔ v.isPath = true := by
  simp [k.reply_eq_ok_iff q]

/-- **Names are taken exactly where they are paths, and taken again as they are held.** The first name
that is no path is blamed. -/
theorem names_taken_or_blamed (k : Naming) (q : Query) :
    (∀ vs, let o := (k.call vs).outcome q
      (o.reply = .ok .done ↔ vs ≠ [] ∧ ∀ v ∈ vs, v.isPath = true) ∧
      (o.reply = .ok .done → o.query = k.take q (vs.map Value.trimmed)) ∧
      (∀ f, o.reply = .error f ↔ vs = [] ∧ f = .noFields ∨
        ∃ before v after, vs = before ++ v :: after ∧ (∀ u ∈ before, u.isPath = true) ∧ v.IsNoPath f) ∧
      ∀ f, o.reply = .error f → f.kind = .invalid) ∧
    (∀ vs, ((k.call vs).outcome q).reply = .ok .done →
      ∀ (k' : Naming) q', k'.Takes q' (Value.texts (vs.map Value.trimmed)) (vs.map Value.trimmed)) ∧
    (∀ strict settings calls names, let held := (Query.new strict settings).run calls
      names = held.fields ∨ names = held.excluded → names ≠ [] → k.Takes q (Value.texts names) names) ∧
    ∀ s t : String, ((k.call [.word (.plain (s ++ "." ++ t))]).outcome q).reply = .ok .done ↔
      ((k.call [.word (.plain (trim s))]).outcome q).reply = .ok .done ∧
      ((k.call [.word (.plain (trim t))]).outcome q).reply = .ok .done := by
  have hinvalid : ∀ {v : Value} {f : Fault}, v.IsNoPath f → f.kind = .invalid := by
    intro v f h
    cases h <;> rfl
  refine ⟨fun vs => ⟨k.reply_eq_ok_iff q, fun h => ?_, fun f => k.reply_eq_error_iff q, fun f h => ?_⟩,
    fun vs h k' q' => ?_, fun strict settings calls names => ?_, fun s t => ?_⟩
  · exact ((k.takes_iff q).2 ((k.reply_eq_ok_iff q).1 h)).query
  · rcases (k.reply_eq_error_iff q).1 h with ⟨-, rfl⟩ | ⟨-, v, -, -, -, hv⟩
    · rfl
    · exact hinvalid hv
  · obtain ⟨hne, hp⟩ := (k.reply_eq_ok_iff q).1 h
    exact k'.takes_again q' hne hp
  · intro held hnames hne
    have hheld : held.HoldsPaths := (Query.HoldsPaths.new strict settings).run calls
    refine k.takes_texts q hne fun f hf => hheld f ?_
    rcases hnames with rfl | rfl
    · exact Or.inl hf
    · exact Or.inr hf
  · rw [k.reply_singleton, k.reply_singleton, k.reply_singleton, Value.isPath_trim, Value.isPath_trim,
      Value.isPath_dot, Bool.and_eq_true]

/-- The second of three names is blamed, and a wildcard between blanks is the wildcard. -/
theorem names_taken_or_blamed_blank_part :
    let refused := (Call.exclude ["id ", " a.\u2003.b", 5]).outcome tampered
    let accepted := (Call.select [" * ", "a . b"]).outcome tampered
    refused.reply = .error (.blankSegment "a.\u2003.b" "field") ∧
    accepted.reply = .ok .done ∧ accepted.query.fields = ["*", "a . b"] ∧
    Naming.addFields.Takes tampered (Value.texts ["*", "a . b"]) ["*", "a . b"] := by
  intro refused accepted
  obtain ⟨hexclude, -⟩ := names_taken_or_blamed .exclude tampered
  obtain ⟨hselect, hagain, -⟩ := names_taken_or_blamed .select tampered
  have hpart : Value.IsNoPath " a.\u2003.b" (.blankSegment "a.\u2003.b" "field") :=
    .blankPart (w := .plain " a.\u2003.b") (by decide) (by decide)
  have hrefused : refused.reply = .error (.blankSegment "a.\u2003.b" "field") :=
    ((hexclude _).2.2.1 _).2 (Or.inr ⟨["id "], _, [5], rfl, by decide, hpart⟩)
  have haccepted : accepted.reply = .ok .done :=
    (hselect _).1.2 ⟨List.cons_ne_nil _ _, by decide⟩
  have hfields : accepted.query = Naming.select.take tampered ["*", "a . b"] := (hselect _).2.1 haccepted
  exact ⟨hrefused, haccepted, by rw [hfields]; rfl, hagain _ haccepted .addFields tampered⟩

end ClauseQuery
