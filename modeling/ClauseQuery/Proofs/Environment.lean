import ClauseQuery.Query
import ClauseQuery.Proofs.Checks
import ClauseQuery.Proofs.Lowering

/-! # Strictness from the environment -/

namespace ClauseQuery

namespace Settings

def flagWord (text : String) : String := lower (trim text)

def textOf (environment : String → Option String) (name : String) : String := (environment name).getD ""

inductive Settles (text name : String) : Except Fault Settings → Prop
  | absent (h : text = "") : Settles text name (.ok {})
  | on (hne : text ≠ "") (h : flagWord text ∈ trueWords) : Settles text name (.ok { strict := true })
  | off (hne : text ≠ "") (h : flagWord text ∈ falseWords) : Settles text name (.ok { strict := false })
  | refused (hne : text ≠ "") (h : flagWord text ∉ trueWords ++ falseWords) :
    Settles text name (.error (.notAFlag text name))

theorem not_mem_trueWords {word : String} (h : word ∈ falseWords) : word ∉ trueWords := by
  have hall : ∀ w ∈ falseWords, w ∉ trueWords := by decide
  exact hall word h

theorem empty_not_mem_words : "" ∉ trueWords ++ falseWords := by decide

theorem flagWord_of_blank {text : String} (h : isBlankText text = true) : flagWord text = "" := by
  rw [flagWord, String.isEmpty_iff.1 h]
  rfl

/-! ## Texts -/

section
variable {text name : String}

theorem settles_parseFlag (hne : text ≠ "") :
    Settles text name ((parseFlag text name).map fun strict => { strict }) := by
  unfold parseFlag
  dsimp only
  split
  · rename_i h
    exact .on hne h
  · rename_i htrue
    split
    · rename_i h
      exact .off hne h
    · rename_i hfalse
      refine .refused hne fun h => ?_
      rcases List.mem_append.1 h with h | h
      · exact htrue h
      · exact hfalse h

theorem ofEnvironment_eq {environment : String → Option String} (hv : environment name = some text)
    (hne : text ≠ "") : ofEnvironment environment name =
      (parseFlag text name).map fun strict => { strict } := by
  rw [ofEnvironment, hv]
  split
  · rename_i h
    cases h
  · rename_i h
    cases h
    exact absurd rfl hne
  · rename_i text' _ h
    cases h
    cases parseFlag text name <;> rfl

end

section
variable {environment : String → Option String} {name : String}

theorem settles_ofEnvironment (environment : String → Option String) (name : String) :
    Settles (textOf environment name) name (ofEnvironment environment name) := by
  unfold textOf
  cases hv : environment name with
  | none =>
    rw [ofEnvironment, hv]
    exact .absent rfl
  | some text =>
    by_cases hne : text = ""
    · rw [ofEnvironment, hv, hne]
      exact .absent rfl
    · rw [ofEnvironment_eq hv hne]
      exact settles_parseFlag hne

theorem Settles.eq_ok_iff {text : String} {r : Except Fault Settings} (h : Settles text name r)
    {settings : Settings} : r = .ok settings ↔
      (text = "" ∨ flagWord text ∈ trueWords ++ falseWords) ∧
        (settings.strict = true ↔ flagWord text ∈ trueWords) := by
  obtain ⟨strict⟩ := settings
  cases h with
  | absent h =>
    subst h
    have hw : flagWord "" ∉ trueWords := by decide +kernel
    simp [hw]
  | on hne h => simp [h]
  | off hne h => simp [h, not_mem_trueWords h]
  | refused hne h => simp [hne, h]

theorem Settles.eq_error_iff {text : String} {r : Except Fault Settings} (h : Settles text name r)
    {f : Fault} : r = .error f ↔
      f = .notAFlag text name ∧ text ≠ "" ∧ flagWord text ∉ trueWords ++ falseWords := by
  cases h with
  | absent h => simp [h]
  | on hne h => simp [h]
  | off hne h => simp [h]
  | refused hne h => simp [hne, h, eq_comm]

theorem Settles.exists_ok_iff {text : String} {r : Except Fault Settings} (h : Settles text name r) :
    (∃ settings, r = .ok settings) ↔ text = "" ∨ flagWord text ∈ trueWords ++ falseWords := by
  constructor
  · rintro ⟨settings, hr⟩
    exact (h.eq_ok_iff.1 hr).1
  · intro hw
    by_cases htrue : flagWord text ∈ trueWords
    · exact ⟨{ strict := true }, h.eq_ok_iff.2 ⟨hw, iff_of_true rfl htrue⟩⟩
    · exact ⟨{ strict := false }, h.eq_ok_iff.2 ⟨hw, iff_of_false Bool.false_ne_true htrue⟩⟩

/-- Of texts only what decides counts, whether it is taken or refused. -/
theorem Settles.congr {text text' : String} {r r' : Except Fault Settings} (h : Settles text name r)
    (h' : Settles text' name r') (hw : flagWord text' = flagWord text) (hne : text ≠ "")
    (hne' : text' ≠ "") : r'.toOption = r.toOption := by
  have hok : ∀ settings, r' = .ok settings ↔ r = .ok settings := by
    intro settings
    rw [h.eq_ok_iff, h'.eq_ok_iff, hw]
    simp only [hne, hne', false_or]
  cases r' with
  | ok settings => rw [(hok settings).1 rfl]
  | error f' =>
    cases r with
    | ok settings => cases (hok settings).2 rfl
    | error f => rfl

end

/-! ## Texts up to case and blanks -/

theorem flagWord_lower (text : String) : flagWord (lower text) = flagWord text := by
  unfold flagWord
  rw [← lower_trim, lower_lower]

theorem flagWord_pad {l r : String} (hl : isBlankText l = true) (hr : isBlankText r = true) (text : String) :
    flagWord (l ++ text ++ r) = flagWord text := by
  unfold flagWord
  rw [trim_pad hl hr]

theorem lower_ne_empty {text : String} (h : text ≠ "") : lower text ≠ "" := by
  obtain ⟨c, s, hs⟩ := List.exists_cons_of_ne_nil (mt String.toList_eq_nil_iff.1 h)
  intro he
  rw [lower, String.ofList_eq_empty_iff, hs, lowerChars, lowerAfter_cons] at he
  exact lowerOne_ne_nil _ _ _ (List.append_eq_nil_iff.1 he).1

theorem pad_ne_empty {text : String} (h : text ≠ "") (l r : String) : l ++ text ++ r ≠ "" := by
  simp [h]

end Settings

/-- The text of a variable written with other blanks around it, or in lower case. -/
inductive IsRespelled (text : String) : String → Prop
  | lowered : IsRespelled text (lower text)
  | padded {l r : String} (hl : isBlankText l = true) (hr : isBlankText r = true) :
    IsRespelled text (l ++ text ++ r)

theorem IsRespelled.flagWord_eq {text text' : String} (h : IsRespelled text text') :
    Settings.flagWord text' = Settings.flagWord text := by
  cases h with
  | lowered => exact Settings.flagWord_lower text
  | padded hl hr => exact Settings.flagWord_pad hl hr text

theorem IsRespelled.ne_empty {text text' : String} (h : IsRespelled text text') (hne : text ≠ "") :
    text' ≠ "" := by
  cases h with
  | lowered => exact Settings.lower_ne_empty hne
  | padded => exact Settings.pad_ne_empty hne _ _

theorem Query.strict_new (strict : Value) (settings : Settings) :
    (strict = .null → (Query.new strict settings).strict = settings.strict) ∧
      (strict ≠ .null → (Query.new strict settings).strict = strict.isTruthy) := by
  cases strict with
  | null => exact ⟨fun _ => rfl, fun h => absurd rfl h⟩
  | _ => exact ⟨fun h => (by cases h), fun _ => rfl⟩

/-- **Strictness is what is given, or else what the environment says.** A query is made exactly where the
variable has no text or that of a flag; what is refused is blamed on the variable. -/
theorem strictness_settled (environment : String → Option String) (name : String) (strict : Value) :
    let text := Settings.textOf environment name
    let word := Settings.flagWord text
    let settings := Settings.ofEnvironment environment name
    let made := settings.map fun s => Query.new strict s
    ((∃ q, made = .ok q) ↔ text = "" ∨ word ∈ Settings.trueWords ++ Settings.falseWords) ∧
    (∀ f, settings = .error f ↔
      f = .notAFlag text name ∧ text ≠ "" ∧ word ∉ Settings.trueWords ++ Settings.falseWords) ∧
    (∀ f, settings = .error f → f.kind = .invalid ∧ f.param = some name) ∧
    (text ≠ "" → isBlankText text = true → ∃ f, settings = .error f) ∧
    (∀ q, made = .ok q → (strict = .null → (q.strict = true ↔ word ∈ Settings.trueWords)) ∧
      (strict ≠ .null → q.strict = strict.isTruthy)) ∧
    ∀ environment' : String → Option String, text ≠ "" →
      IsRespelled text (Settings.textOf environment' name) →
      (Settings.ofEnvironment environment' name).toOption = settings.toOption := by
  intro text word settings made
  have hs : Settings.Settles text name settings := Settings.settles_ofEnvironment environment name
  have hmade : ∀ q, made = .ok q ↔ ∃ s, settings = .ok s ∧ Query.new strict s = q :=
    fun _ => map_eq_ok
  refine ⟨?_, fun f => hs.eq_error_iff, fun f hf => ?_, fun hne hb => ?_, fun q hq => ?_,
    fun environment' hne h => ?_⟩
  · rw [← hs.exists_ok_iff]
    constructor
    · rintro ⟨q, hq⟩
      obtain ⟨s, hs', -⟩ := (hmade q).1 hq
      exact ⟨s, hs'⟩
    · rintro ⟨s, hs'⟩
      exact ⟨_, (hmade _).2 ⟨s, hs', rfl⟩⟩
  · obtain ⟨rfl, -⟩ := hs.eq_error_iff.1 hf
    exact ⟨rfl, rfl⟩
  · refine ⟨_, hs.eq_error_iff.2 ⟨rfl, hne, ?_⟩⟩
    rw [Settings.flagWord_of_blank hb]
    exact Settings.empty_not_mem_words
  · obtain ⟨s, hs', rfl⟩ := (hmade q).1 hq
    obtain ⟨hdefault, hgiven⟩ := Query.strict_new strict s
    refine ⟨fun hnull => ?_, hgiven⟩
    rw [hdefault hnull]
    exact (hs.eq_ok_iff.1 hs').2
  · exact hs.congr (Settings.settles_ofEnvironment environment' name) h.flagWord_eq hne (h.ne_empty hne)

/-- A given zero is no absent strictness, a padded flag in mixed case is one, and a blank text is refused. -/
theorem strictness_settled_padded :
    let environment : String → Option String :=
      fun name => if name = "STRICT" then some " YeS\n" else some " "
    Settings.textOf environment "STRICT" ≠ "" ∧
    (∃ q, (Settings.ofEnvironment environment "STRICT").map (fun s => Query.new .null s) = .ok q ∧
      q.strict = true) ∧
    (∃ q, (Settings.ofEnvironment environment "STRICT").map (fun s => Query.new 0 s) = .ok q ∧
      q.strict = false) ∧
    (Settings.ofEnvironment (fun _ => some (lower " YeS\n")) "STRICT").toOption =
      (Settings.ofEnvironment environment "STRICT").toOption ∧
    ∃ f, Settings.ofEnvironment environment "OTHER" = .error f ∧ f.param = some "OTHER" := by
  intro environment
  have hword : Settings.flagWord (Settings.textOf environment "STRICT") ∈ Settings.trueWords := by
    decide +kernel
  have hne : Settings.textOf environment "STRICT" ≠ "" := by decide
  have hmem := List.mem_append_left Settings.falseWords hword
  obtain ⟨htaken, -, -, -, hnull, hrespelled⟩ := strictness_settled environment "STRICT" .null
  obtain ⟨htaken', -, -, -, hgiven, -⟩ := strictness_settled environment "STRICT" 0
  obtain ⟨-, -, hblamed, hblank, -, -⟩ := strictness_settled environment "OTHER" .null
  obtain ⟨q, hq⟩ := htaken.2 (.inr hmem)
  obtain ⟨q', hq'⟩ := htaken'.2 (.inr hmem)
  obtain ⟨f, hf⟩ := hblank (by decide) (by decide)
  exact ⟨hne, ⟨q, hq, ((hnull q hq).1 rfl).2 hword⟩,
    ⟨q', hq', (hgiven q' hq').2 (fun h => (by cases h))⟩, hrespelled _ hne .lowered, f, hf, (hblamed f hf).2⟩

end ClauseQuery
