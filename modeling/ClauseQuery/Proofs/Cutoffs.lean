import ClauseQuery.Proofs.Catalogues
import ClauseQuery.Proofs.Reading

/-!
# Cutoffs

The date that games are to be released before is put between quotes as it is.
-/

namespace ClauseQuery

/-! ## Literals -/

/-- A backslash in a literal stands for the character after it, whichever it is. -/
inductive IsBody : List Char → List Char → Prop
  | nil : IsBody [] []
  | plain {c : Char} {b t : List Char} (hq : c ≠ '"') (hb : c ≠ '\\') (h : IsBody b t) :
      IsBody (c :: b) (c :: t)
  | escaped {c : Char} {b t : List Char} (h : IsBody b t) : IsBody ('\\' :: c :: b) (c :: t)

/-- All of `s` is one literal, and `t` is its text. -/
def IsLiteral (s t : List Char) : Prop := ∃ b, s = '"' :: (b ++ ['"']) ∧ IsBody b t

def IsUnmarked (t : List Char) : Prop := ∀ c ∈ t, c ≠ '"' ∧ c ≠ '\\'

instance (t : List Char) : Decidable (IsUnmarked t) :=
  List.decidableBAll (fun c => c ≠ '"' ∧ c ≠ '\\') t

theorem isBody_of_isUnmarked : ∀ {t : List Char}, IsUnmarked t → IsBody t t
  | [], _ => .nil
  | c :: t, h => by
    obtain ⟨⟨hq, hb⟩, ht⟩ := List.forall_mem_cons.1 h
    exact .plain hq hb (isBody_of_isUnmarked ht)

theorem isBody_escape : ∀ t : List Char, IsBody (escape t) t
  | [] => .nil
  | c :: t => by
    rw [escape_cons]
    by_cases hc : c = '"' ∨ c = '\\'
    · rw [if_pos hc]
      exact .escaped (isBody_escape t)
    · rw [if_neg hc]
      rw [not_or] at hc
      exact .plain hc.1 hc.2 (isBody_escape t)

namespace IsBody

variable {b t u v : List Char}

theorem length_le (h : IsBody b t) : t.length ≤ b.length := by
  induction h with
  | nil => exact Nat.le_refl _
  | plain _ _ _ ih => exact Nat.succ_le_succ ih
  | escaped _ ih => exact Nat.le_succ_of_le (Nat.succ_le_succ ih)

theorem isUnmarked (h : IsBody b t) (hl : b.length ≤ t.length) : b = t ∧ IsUnmarked t := by
  induction h with
  | nil => exact ⟨rfl, List.forall_mem_nil _⟩
  | plain hq hb _ ih =>
    obtain ⟨rfl, ht⟩ := ih (Nat.le_of_succ_le_succ hl)
    exact ⟨rfl, List.forall_mem_cons.2 ⟨⟨hq, hb⟩, ht⟩⟩
  | escaped h _ =>
    have := h.length_le
    simp only [List.length_cons] at hl
    omega

/-- Between the first quote and the last one, a text stands for itself only where nothing in it is escaped. -/
theorem isUnmarked_of_append (h : IsBody b t) (he : b ++ '"' :: u = t ++ '"' :: v) (hv : '"' ∉ v) :
    IsUnmarked t := by
  refine (h.isUnmarked ?_).2
  rcases List.append_eq_append_iff.1 he with ⟨w, rfl, -⟩ | ⟨w, rfl, hw⟩
  · simp
  · -- a longer body would end at a quote in `v`
    cases w with
    | nil => simp
    | cons c w =>
      obtain ⟨-, rfl⟩ := List.cons.inj hw
      exact absurd (List.mem_append_right _ (List.mem_cons_self ..)) hv

theorem sealedFrom (h : IsBody b t) (marks : List Char) : SealedFrom marks .inside (b ++ ['"']) := by
  induction h with
  | nil => exact .step (fun hp => absurd hp (by decide)) .done
  | @plain c _ _ hq hb _ ih =>
    refine .step (fun hp => absurd hp (by decide)) ?_
    rw [Place.next, if_neg hq, if_neg hb]
    exact ih
  | escaped _ ih => exact .step (fun hp => absurd hp (by decide)) (.step (fun hp => absurd hp (by decide)) ih)

end IsBody

theorem IsLiteral.sealed {s t : List Char} (h : IsLiteral s t) {marks : List Char} (hm : '"' ∉ marks) :
    Sealed marks s := by
  obtain ⟨b, rfl, hb⟩ := h
  exact .step (fun _ => hm) (hb.sealedFrom marks)

theorem isLiteral_quoteChars (t : List Char) : IsLiteral (quoteChars t) t :=
  ⟨escape t, rfl, isBody_escape t⟩

namespace Catalogue

/-! ## The parts of a query -/

structure Parts where
  names : String
  excluded : String
  elements : String
  literal : String
  key : String

namespace Parts

variable (r : Parts)

def first : String := "platforms = (" ++ r.elements ++ ") "

def second : String := " (release_dates.human < " ++ r.literal ++ ")"

def conditions : String := r.first ++ "|" ++ r.second

/-- What the semicolons part. Nothing follows the last one. -/
def clauses : List String :=
  ["fields " ++ r.names, " exclude " ++ r.excluded, " where " ++ r.conditions, " sort " ++ r.key, ""]

theorem toList_first : r.first.toList = "platforms = (".toList ++ r.elements.toList ++ ") ".toList := by
  have h : r.first = "platforms = (" ++ r.elements ++ ") " := rfl
  rw [h, String.toList_append, String.toList_append]

theorem toList_second :
    r.second.toList = " (release_dates.human < ".toList ++ r.literal.toList ++ ")".toList := by
  have h : r.second = " (release_dates.human < " ++ r.literal ++ ")" := rfl
  rw [h, String.toList_append, String.toList_append]

theorem toList_conditions : r.conditions.toList = r.first.toList ++ '|' :: r.second.toList := by
  have h : "|".toList = ['|'] := by decide
  rw [conditions, String.toList_append, String.toList_append, h, List.append_assoc, List.singleton_append]

/-- A reader with an eye on literals finds these parts in `text`, and in them the platforms `xs` and the
cutoff. -/
structure ReadFrom (text : String) (xs : List Value) (cutoff : String) : Prop where
  clauses : splitOutside ';' text.toList = r.clauses.map String.toList
  conditions : splitOutside '|' r.conditions.toList = [r.first.toList, r.second.toList]
  unjoined : splitOutside '&' r.conditions.toList = [r.conditions.toList]
  elements : xs.mapM Value.literal = .ok ((splitOutside ',' r.elements.toList).map String.ofList)
  literal : IsLiteral r.literal.toList cutoff.toList

def written (elements : List String) (literal : String) : Parts where
  names := "name,platforms"
  excluded := "storyline"
  elements := ",".intercalate elements
  literal
  key := "name asc"

end Parts

def IsReadFrom (text : String) (xs : List Value) (cutoff : String) : Prop :=
  ∃ r : Parts, r.ReadFrom text xs cutoff

theorem cutoffText_eq (cutoff : String) :
    cutoffText cutoff = "(release_dates.human < " ++ ("\"" ++ cutoff ++ "\"") ++ ")" := by
  have hopen : "(release_dates.human < \"" = "(release_dates.human < " ++ "\"" := rfl
  have hclose : "\")" = "\"" ++ ")" := rfl
  have ht : cutoffText cutoff = "(release_dates.human < \"" ++ cutoff ++ "\")" := rfl
  rw [ht, hopen, hclose]
  simp only [String.append_assoc]

theorem clauses_written (elements : List String) (literal : String) :
    (Parts.written elements literal).clauses =
      ["fields " ++ "name,platforms", " " ++ "exclude " ++ "storyline",
        " " ++ ("where" ++ " ") ++ ("platforms = (" ++ ",".intercalate elements ++ (")" ++ " ") ++ "|" ++
          (" " ++ "(release_dates.human < " ++ literal ++ ")")), " " ++ "sort " ++ "name asc", ""] := rfl

theorem text_filtered (elements : List String) (cutoff : String) : (filtered elements cutoff).text =
    ";".intercalate (Parts.written elements ("\"" ++ cutoff ++ "\"")).clauses := by
  have hcontents : (filtered elements cutoff).contents.filterMap Query.clauseText =
      ["fields " ++ "name,platforms" ++ ";", "exclude " ++ "storyline" ++ ";",
        "where" ++ " " ++ ((onPlatforms elements).text ++
          String.join [" " ++ "|" ++ " " ++ cutoffText cutoff]) ++ ";", "sort " ++ "name asc" ++ ";"] := rfl
  -- the blanks stand by themselves, since on one side they follow the semicolons
  rewrite [Query.text, hcontents, text_onPlatforms, cutoffText_eq, clauses_written]
  simp only [String.intercalate_cons_cons, String.intercalate_singleton, String.join_cons, String.join_nil,
    String.append_assoc, String.append_empty]

/-! ## Reading the parts -/

section
variable {xs : List Value} {elements : List String} (hm : xs.mapM Value.literal = .ok elements)
include hm

theorem elements_ne_nil (hne : xs ≠ []) : elements ≠ [] := by
  rintro rfl
  exact hne (List.forall₂_nil_right_iff.1 (mapM_eq_ok.1 hm))

theorem sealed_element : ∀ e ∈ elements, Sealed separators e.toList := by
  intro e he
  obtain ⟨x, -, hx⟩ := exists_of_mem_mapM hm he
  exact Value.sealed_literal hx

theorem sealed_first (literal : String) :
    Sealed Condition.marks (Parts.written elements literal).first.toList := by
  have helements : Sealed Condition.marks (",".intercalate elements).toList :=
    sealed_commas (by decide) fun e he => (sealed_element hm e he).mono (by decide)
  have hopen : Sealed Condition.marks "platforms = (".toList := by decide
  have hclose : Sealed Condition.marks ") ".toList := by decide
  rw [Parts.toList_first]
  exact (hopen.append helements).append hclose

omit hm in
theorem sealed_second (elements : List String) {literal cutoff : String}
    (hl : IsLiteral literal.toList cutoff.toList) :
    Sealed Condition.marks (Parts.written elements literal).second.toList := by
  have hopen : Sealed Condition.marks " (release_dates.human < ".toList := by decide
  have hclose : Sealed Condition.marks ")".toList := by decide
  rw [Parts.toList_second]
  exact (hopen.append (hl.sealed (by decide))).append hclose

variable {literal cutoff : String} (hl : IsLiteral literal.toList cutoff.toList)

include hl in
/-- The only mark outside their literals is the bar between them. -/
theorem sealed_conditions {mark : Char} (hmark : [mark] ⊆ Condition.marks) (hbar : '|' ∉ [mark]) :
    Sealed [mark] (Parts.written elements literal).conditions.toList := by
  rw [Parts.toList_conditions]
  have hsecond := (sealed_second elements hl).mono hmark
  exact ((sealed_first hm literal).mono hmark).append (sealed_cons (by decide) hbar hsecond)

include hl in
theorem sealed_clauses :
    ∀ clause ∈ (Parts.written elements literal).clauses, Sealed [';'] clause.toList := by
  have hkeyword : Sealed [';'] " where ".toList := by decide
  have hwhere : Sealed [';'] (" where " ++ (Parts.written elements literal).conditions).toList := by
    rw [String.toList_append]
    exact hkeyword.append (sealed_conditions hm hl (by decide) (by decide))
  have hfields : Sealed [';'] ("fields " ++ "name,platforms").toList := by decide
  have hexclude : Sealed [';'] (" exclude " ++ "storyline").toList := by decide
  have hsort : Sealed [';'] (" sort " ++ "name asc").toList := by decide
  simp only [Parts.clauses, List.forall_mem_cons]
  exact ⟨hfields, hexclude, hwhere, hsort, sealed_nil, List.forall_mem_nil _⟩

include hl in
theorem readFrom_written (hne : xs ≠ []) : (Parts.written elements literal).ReadFrom
    (";".intercalate (Parts.written elements literal).clauses) xs cutoff where
  clauses := by
    rw [String.toList_intercalate]
    refine splitOutside_intercalate (List.cons_ne_nil _ _) fun x hx => ?_
    obtain ⟨clause, hc, rfl⟩ := List.mem_map.1 hx
    exact sealed_clauses hm hl clause hc
  conditions := by
    have hfirst := (sealed_first hm literal).mono (by decide : ['|'] ⊆ Condition.marks)
    have hsecond := (sealed_second elements hl).mono (by decide : ['|'] ⊆ Condition.marks)
    rw [Parts.toList_conditions, splitOutside, splitFrom_append hfirst, splitOutside,
      splitFrom_sealed hsecond]
  unjoined := splitFrom_sealed (sealed_conditions hm hl (by decide) (by decide))
  elements := by
    have hcommas : splitOutside ',' (",".intercalate elements).toList = elements.map String.toList :=
      Query.splitOutside_commas (elements_ne_nil hm hne) fun e he => (sealed_element hm e he).mono (by decide)
    rw [hm, Parts.written, hcommas, List.map_map]
    simp only [Function.comp_def, String.ofList_toList, List.map_id']
  literal := hl

variable {r : Parts}

theorem elements_of_readFrom {text : String} (h : r.ReadFrom text xs cutoff) :
    r.elements = ",".intercalate elements := by
  have he : elements = (splitOutside ',' r.elements.toList).map String.ofList := by
    have hr := h.elements
    rw [hm] at hr
    exact Except.ok.inj hr
  refine String.toList_inj.1 ?_
  rw [String.toList_intercalate, he, List.map_map]
  simp only [Function.comp_def, String.toList_ofList, List.map_id']
  exact (intercalate_splitOutside ',' r.elements.toList).symm

omit hm in
/-- As nothing is left open in the first two clauses, the reader finds the others in what follows. -/
theorem rest_of_readFrom
    (h : r.ReadFrom (";".intercalate (Parts.written elements literal).clauses) xs cutoff) :
    [';'].intercalate [(" where " ++ (Parts.written elements literal).conditions).toList,
        " sort name asc".toList, []] =
      [';'].intercalate [(" where " ++ r.conditions).toList, (" sort " ++ r.key).toList, []] := by
  have hfields : Sealed [';'] "fields name,platforms".toList := by decide
  have hexclude : Sealed [';'] " exclude storyline".toList := by decide
  have hsemicolon : ";".toList = [';'] := by decide
  have hwritten : (Parts.written elements literal).clauses.map String.toList =
    ["fields name,platforms".toList, " exclude storyline".toList,
      (" where " ++ (Parts.written elements literal).conditions).toList, " sort name asc".toList, []] := rfl
  have hread : r.clauses.map String.toList =
    [("fields " ++ r.names).toList, (" exclude " ++ r.excluded).toList,
      (" where " ++ r.conditions).toList, (" sort " ++ r.key).toList, []] := rfl
  have hs := h.clauses
  rw [String.toList_intercalate, hsemicolon, hwritten, hread, List.intercalate_cons_cons,
    List.intercalate_cons_cons, List.append_assoc, List.append_assoc, List.singleton_append,
    List.singleton_append, splitOutside, splitFrom_append hfields, splitOutside,
    splitFrom_append hexclude] at hs
  have hrest := (List.cons.inj (List.cons.inj hs).2).2
  rw [← hrest, intercalate_splitOutside]

theorem isUnmarked_of_readFrom
    (h : r.ReadFrom (";".intercalate (Parts.written elements ("\"" ++ cutoff ++ "\"")).clauses) xs cutoff) :
    IsUnmarked cutoff.toList := by
  obtain ⟨b, hliteral, hb⟩ := h.literal
  have hrest := rest_of_readFrom h
  have hquoted : ("\"" ++ cutoff ++ "\"").toList = '"' :: (cutoff.toList ++ ['"']) := by simp
  have hsort : " sort name asc".toList = " sort ".toList ++ "name asc".toList := by decide
  -- up to the cutoff both texts are the same
  simp only [List.intercalate_cons_cons, List.intercalate_singleton, String.toList_append,
    Parts.toList_conditions, Parts.toList_first, Parts.toList_second, elements_of_readFrom hm h, hliteral,
    Parts.written, hquoted, List.append_assoc, List.cons_append, List.append_cancel_left_eq,
    List.cons.injEq, true_and] at hrest
  exact hb.isUnmarked_of_append hrest.symm (by decide)

theorem isReadFrom_filtered (hne : xs ≠ []) (cutoff : String) :
    IsReadFrom (filtered elements cutoff).text xs cutoff ↔ IsUnmarked cutoff.toList := by
  rw [text_filtered]
  constructor
  · intro ⟨_, h⟩
    exact isUnmarked_of_readFrom hm h
  · intro h
    have hliteral : IsLiteral ("\"" ++ cutoff ++ "\"").toList cutoff.toList :=
      ⟨cutoff.toList, by simp, isBody_of_isUnmarked h⟩
    exact ⟨_, readFrom_written hm hliteral hne⟩

theorem isReadFrom_quote (hne : xs ≠ []) (cutoff : String) :
    IsReadFrom (";".intercalate (Parts.written elements (quote cutoff)).clauses) xs cutoff := by
  have hliteral : IsLiteral (quote cutoff).toList cutoff.toList := by
    rw [quote, String.toList_ofList]
    exact isLiteral_quoteChars cutoff.toList
  exact ⟨_, readFrom_written hm hliteral hne⟩

end

theorem make_onPlatforms_error {xs : List Value} (hs : ∀ x ∈ xs, x.isScalar = true)
    (hops : ¬∀ x ∈ xs, x.isOperand = true) :
    ∃ f, Condition.make "platforms" (.list xs) Comparison.containsAny = .error f := by
  rcases all_or_first Value.isOperand xs with h | ⟨before, x, after, rfl, hb, hx⟩
  · exact absurd h hops
  · rcases Value.isOperand_or_unwritable (hs x (by simp)) with h | ⟨f, hf⟩
    · rw [hx] at h
      cases h
    · exact ⟨f, Condition.make_of_blames
        (.value (by decide) rfl (.unwritableElement (by decide) (.inl rfl) hs hb hf))⟩

theorem isOperand_iff_isWritable {xs : List Value} (hs : ∀ x ∈ xs, x.isScalar = true)
    (hf : ∀ x, .real x ∈ xs → x.isFinite = true) :
    (∀ x ∈ xs, x.isOperand = true) ↔ ∀ n, .integer n ∈ xs → isWritable n = true := by
  refine ⟨fun h n hn => h _ hn, fun h x hx => ?_⟩
  cases x with
  | integer n => exact h n hx
  | real x => exact hf x hx
  | flag | word => rfl
  | _ => cases hs _ hx

/-- **A cutoff is kept just where it is plain.** There is a text unless a platform has too many digits. The
platforms can be read from it with the cutoff, or the cutoff ends its literal or changes in it. -/
theorem cutoff_kept_iff {platforms : Value} {xs : List Value} (hxs : platforms.elements? = some xs)
    (hne : xs ≠ []) (hs : ∀ x ∈ xs, x.isScalar = true) (hf : ∀ x, .real x ∈ xs → x.isFinite = true)
    {cutoff : String} (hc : cutoff ≠ "") (s : Session) :
    let answer := ((forPlatforms platforms cutoff).run s).1
    ((∃ text, answer = .ok text) ↔ ∀ n, .integer n ∈ xs → isWritable n = true) ∧
    ∀ text, answer = .ok text → (IsReadFrom text xs cutoff ↔ IsUnmarked cutoff.toList) := by
  intro answer
  rw [← isOperand_iff_isWritable hs hf]
  by_cases hops : ∀ x ∈ xs, x.isOperand = true
  · obtain ⟨elements, hm⟩ := exists_mapM fun x hx => Value.literal_of_isOperand (hops x hx)
    have hanswer : answer = .ok (filtered elements cutoff).text := by
      rw [show answer = _ from comesTo_forPlatforms hxs (make_onPlatforms hne hops hm) hc _ s rfl]
      exact Query.build_eq _
    refine ⟨iff_of_true ⟨_, hanswer⟩ hops, fun text ht => ?_⟩
    obtain rfl := Except.ok.inj (hanswer.symm.trans ht)
    exact isReadFrom_filtered hm hne cutoff
  · obtain ⟨f, hmake⟩ := make_onPlatforms_error hs hops
    have hanswer : answer = .error f := comesTo_forPlatforms_error hxs hmake cutoff _ s rfl
    refine ⟨iff_of_false ?_ hops, fun text ht => ?_⟩
    · rintro ⟨text, ht⟩
      cases hanswer.symm.trans ht
    · cases hanswer.symm.trans ht

theorem cutoff_kept_iff_separators :
    let platforms : List Value := [6, "a, \"b\""]
    (∃ text, ((forPlatforms (.list platforms) "1999; | a & b").run {}).1 = .ok text ∧
      IsReadFrom text platforms "1999; | a & b") ∧
    ∃ text, ((forPlatforms (.list platforms) "1999\\").run {}).1 = .ok text ∧
      ¬IsReadFrom text platforms "1999\\" := by
  intro platforms
  have hs : ∀ x ∈ platforms, x.isScalar = true := by decide
  have hne : platforms ≠ [] := List.cons_ne_nil _ _
  have hf : ∀ x, .real x ∈ platforms → x.isFinite = true := by simp [platforms]
  have hn : ∀ n, .integer n ∈ platforms → isWritable n = true :=
    (isOperand_iff_isWritable hs hf).1 (by decide)
  obtain ⟨hok, hiff⟩ :=
    @cutoff_kept_iff (.list platforms) platforms rfl hne hs hf "1999; | a & b" (by decide) {}
  obtain ⟨hok', hiff'⟩ :=
    @cutoff_kept_iff (.list platforms) platforms rfl hne hs hf "1999\\" (by decide) {}
  obtain ⟨text, ht⟩ := hok.2 hn
  obtain ⟨text', ht'⟩ := hok'.2 hn
  exact ⟨⟨text, ht, (hiff text ht).2 (by decide)⟩, text', ht', mt (hiff' text' ht').1 (by decide)⟩

/-- A quote in the cutoff ends its literal, and the query gets a limit. With the quotation marks of the
library it would not. -/
theorem cutoff_forges_limit :
    let cutoff := "2023\"); limit 500; (\""
    (∃ text, ((forPlatforms (.list [6]) cutoff).run {}).1 = .ok text ∧
      " limit 500".toList ∈ splitOutside ';' text.toList ∧ ¬IsReadFrom text [6] cutoff) ∧
    IsReadFrom ("fields name,platforms; exclude storyline; where platforms = (6) | (release_dates.human < " ++
      "\"2023\\\"); limit 500; (\\\"\"); sort name asc;") [6] cutoff := by
  intro cutoff
  have hm : [(6 : Value)].mapM Value.literal = .ok ["6"] := rfl
  have hne : [(6 : Value)] ≠ [] := List.cons_ne_nil _ _
  have hc : Condition.make "platforms" (.list [6]) Comparison.containsAny = .ok (onPlatforms ["6"]) := rfl
  refine ⟨⟨(filtered ["6"] cutoff).text, ?_, ?_, ?_⟩, ?_⟩
  · rw [comesTo_forPlatforms rfl hc (by decide) _ {} rfl]
    exact Query.build_eq _
  · decide +kernel
  · rw [isReadFrom_filtered hm hne]
    decide
  · have ht : ";".intercalate (Parts.written ["6"] (quote cutoff)).clauses =
        "fields name,platforms; exclude storyline; where platforms = (6) | (release_dates.human < " ++
          "\"2023\\\"); limit 500; (\\\"\"); sort name asc;" := by decide +kernel
    rw [← ht]
    exact isReadFrom_quote hm hne cutoff

end Catalogue

end ClauseQuery
