import ClauseQuery.Proofs.Catalogues
import ClauseQuery.Proofs.Legible
import ClauseQuery.Text.Quoted

/-!
# Pages

The numbers in the last two clauses of pages are windows that lie end to end.
-/

namespace ClauseQuery

/-! ## Clauses of a text -/

/-- The clauses that semicolons outside literals end, without the blanks before them. -/
def clausesOf (text : String) : List (List Char) :=
  (splitOutside ';' text.toList).dropLast.map dropBlanks

theorem Query.ContentsSealed.clausesOf_text {q : Query} (h : q.ContentsSealed) :
    clausesOf q.text = q.bodies.map dropBlanks := by
  have hblank : ∀ b, dropBlanks (' ' :: b) = dropBlanks b := fun b => rfl
  rw [clausesOf, h.splitOutside_text]
  cases q.bodies with
  | nil => rfl
  | cons b bs =>
    rw [Query.pieces, ← List.cons_append, List.dropLast_concat]
    simp [hblank]

def HasWindow (text : String) (start length : Int) : Prop :=
  ∃ before, clausesOf text =
    before ++ [("limit" ++ " " ++ toString length).toList, ("offset" ++ " " ++ toString start).toList]

theorem number_inj {keyword : String} {m n : Int}
    (h : (keyword ++ " " ++ toString m).toList = (keyword ++ " " ++ toString n).toList) : m = n := by
  simp only [String.toList_append, List.append_cancel_left_eq, String.toList_inj] at h
  exact Value.toString_inj h

theorem HasWindow.unique {text : String} {start start' length length' : Int} (h : HasWindow text start length)
    (h' : HasWindow text start' length') : start = start' ∧ length = length' := by
  obtain ⟨before, h⟩ := h
  obtain ⟨before', h'⟩ := h'
  rw [h] at h'
  obtain ⟨-, h'⟩ := List.append_inj' h' rfl
  obtain ⟨hlength, hstart⟩ := List.cons.inj h'
  exact ⟨number_inj (List.cons.inj hstart).1, number_inj hlength⟩

namespace Catalogue

section
variable {c : Condition} (hc : Sealed Condition.marks c.text.toList) (size start : Int)

/-- The text of a page up to its limit: what the same query reads as without one. -/
def lead (c : Condition) : String := { rated c 0 0 with limit := none, offset := none : Query }.text ++ " "

theorem text_rated : (rated c size start).text =
    lead c ++ "limit " ++ toString size ++ "; offset " ++ toString start ++ ";" := by
  have hfirst : ∃ fields conditions order,
      (rated c size start).contents.filterMap Query.clauseText = [fields, conditions, order,
        "limit" ++ " " ++ toString size ++ ";", "offset" ++ " " ++ toString start ++ ";"] ∧
      { rated c 0 0 with limit := none, offset := none : Query }.contents.filterMap Query.clauseText =
        [fields, conditions, order] := ⟨_, _, _, rfl, rfl⟩
  obtain ⟨fields, conditions, order, hpaged, hlead⟩ := hfirst
  have hlimit : "limit " = "limit" ++ " " := rfl
  have hoffset : "; offset " = ";" ++ " " ++ "offset" ++ " " := rfl
  rw [Query.text, hpaged, lead, Query.text, hlead, hlimit, hoffset]
  simp only [String.intercalate_cons_cons, String.intercalate_singleton, String.append_assoc]

theorem bodies_rated : ∃ before, (rated c size start).bodies =
    before ++ [("limit" ++ " " ++ toString size).toList, ("offset" ++ " " ++ toString start).toList] :=
  ⟨[_, _, _], rfl⟩

include hc in
theorem readable_rated : Chain.Readable (rated c size start).chain.entries where
  opening e he := by cases he; rfl
  joined e he := by
    rw [List.mem_singleton.1 he]
    exact ⟨.and, rfl⟩
  sealed := by
    refine List.forall_mem_cons.2 ⟨?_, List.forall_mem_singleton.2 (by decide)⟩
    rw [toList_trim]
    exact hc.trimChars

include hc in
theorem contentsSealed_rated : (rated c size start).ContentsSealed := by
  have hfields :
      ∀ f ∈ ["name", "rating", "first_release_date", "platforms.name", "cover.url"], IsPlain f := by decide
  have hsort : ∀ k ∈ ["rating desc"], IsPlain k := by decide
  unfold Query.ContentsSealed
  simp only [Query.contents, List.forall_mem_cons, List.not_mem_nil, false_imp_iff, implies_true, and_true]
  exact ⟨Query.Legible.namesContent_sealed hfields,
    Query.Legible.namesContent_sealed (List.forall_mem_nil _),
    Chain.content_sealed (readable_rated hc size start), Query.Legible.namesContent_sealed hsort,
    Query.Legible.number_sealed _, Query.Legible.number_sealed _, Query.Legible.searchContent_sealed none⟩

include hc in
theorem hasWindow_rated : HasWindow (rated c size start).text start size := by
  have hlimit : dropBlanks ("limit" ++ " " ++ toString size).toList =
      ("limit" ++ " " ++ toString size).toList := by
    rw [Query.toList_body]
    rfl
  have hoffset : dropBlanks ("offset" ++ " " ++ toString start).toList =
      ("offset" ++ " " ++ toString start).toList := by
    rw [Query.toList_body]
    rfl
  obtain ⟨before, hbodies⟩ := bodies_rated (c := c) size start
  refine ⟨before.map dropBlanks, ?_⟩
  rw [(contentsSealed_rated hc size start).clausesOf_text, hbodies, List.map_append, List.map_cons,
    List.map_singleton, hlimit, hoffset]

theorem build_rated : (rated c size start).build =
    if isWritable size && isWritable start then .ok (rated c size start).text else .error .tooManyDigits :=
  Query.build_eq _

end

/-! ## Windows -/

structure Paged (answer : Int → Int → Except Fault String) : Prop where
  accepts : ∀ size page, (∃ text, answer size page = .ok text) ↔
    (0 < size ∧ 0 ≤ page) ∧ isWritable size = true ∧ isWritable (page * size) = true
  blames_size : ∀ size page, size ≤ 0 →
    ∃ f, answer size page = .error f ∧ f.kind = .invalid ∧ f.param = some "limit"
  blames_page : ∀ size page, 0 < size → page < 0 →
    ∃ f, answer size page = .error f ∧ f.kind = .invalid ∧ f.param = some "offset"
  blames_digits : ∀ size page, 0 < size → 0 ≤ page →
    isWritable size = false ∨ isWritable (page * size) = false → answer size page = .error .tooManyDigits
  lead : ∃ lead : String, ∀ size page text, answer size page = .ok text →
    text = lead ++ "limit " ++ toString size ++ "; offset " ++ toString (page * size) ++ ";" ∧
      HasWindow text (page * size) size
  adjoin : ∀ size page text text', answer size page = .ok text → answer size (page + 1) = .ok text' →
    ∃ start length length',
      HasWindow text start length ∧ HasWindow text' (start + length) length'
  tile : ∀ size, 0 < size → isWritable size = true → ∀ n : Nat, isWritable n = true →
    ∃! page : Nat, ∃ text start length,
      answer size page = .ok text ∧ HasWindow text start length ∧ start ≤ n ∧ n < start + length
  apart : ∀ size page page' text text' start length start' length' (n : Int),
    answer size page = .ok text → answer size page' = .ok text' →
    HasWindow text start length → HasWindow text' start' length' →
    start ≤ n → n < start + length → start' ≤ n → n < start' + length' → page = page'

theorem product_neg_iff {size page : Int} (h : 0 < size) : page * size < 0 ↔ page < 0 :=
  ⟨fun hp => by by_contra hn; exact absurd (Int.mul_nonneg (Int.not_lt.1 hn) h.le) (Int.not_le.2 hp),
    fun hp => Int.mul_neg_of_neg_of_pos hp h⟩

section
variable {minRating : Value} {c : Condition} {room : Int} {s : Session}
  (hc : Condition.make "rating" minRating Comparison.gt = .ok c)
include hc

theorem answer_of_size {size page : Int} (h : size ≤ 0) :
    ((topRated minRating size page room).run s).1 = .error (.notPositive "limit") := by
  rw [comesTo_topRated hc size page room _ s rfl, if_pos h]

theorem answer_of_page {size page : Int} (h : 0 < size) (hp : page < 0) :
    ((topRated minRating size page room).run s).1 = .error (.negative "offset") := by
  rw [comesTo_topRated hc size page room _ s rfl, if_neg (Int.not_le.2 h), if_pos ((product_neg_iff h).2 hp)]

theorem answer_of_nonneg {size page : Int} (h : 0 < size) (hp : 0 ≤ page) :
    ((topRated minRating size page room).run s).1 =
      if isWritable size && isWritable (page * size) then .ok (rated c size (page * size)).text
      else .error .tooManyDigits := by
  rw [comesTo_topRated hc size page room _ s rfl, if_neg (Int.not_le.2 h),
    if_neg (mt (product_neg_iff h).1 (Int.not_lt.2 hp)), build_rated]

theorem answer_eq_ok {size page : Int} {text : String} :
    ((topRated minRating size page room).run s).1 = .ok text ↔
      ((0 < size ∧ 0 ≤ page) ∧ isWritable size = true ∧ isWritable (page * size) = true) ∧
        text = (rated c size (page * size)).text := by
  rcases lt_or_ge 0 size with h | h
  · rcases lt_or_ge page 0 with hp | hp
    · rw [answer_of_page hc h hp]
      simp [h, Int.not_le.2 hp]
    · rw [answer_of_nonneg hc h hp]
      cases isWritable size <;> cases isWritable (page * size) <;> simp [h, hp, eq_comm]
  · rw [answer_of_size hc h]
    simp [Int.not_lt.2 h]

theorem sealed_rating : Sealed Condition.marks c.text.toList :=
  @Condition.sealed_text_of_make (.plain "rating") (by decide) minRating Comparison.gt c hc

theorem hasWindow_of_answer {size page : Int} {text : String}
    (ht : ((topRated minRating size page room).run s).1 = .ok text) :
    0 < size ∧ HasWindow text (page * size) size := by
  obtain ⟨⟨⟨hs, -⟩, -⟩, rfl⟩ := (answer_eq_ok hc).1 ht
  exact ⟨hs, hasWindow_rated (sealed_rating hc) _ _⟩

theorem page_eq_of_window {size page start length n : Int} {text : String}
    (ht : ((topRated minRating size page room).run s).1 = .ok text) (hw : HasWindow text start length)
    (hlow : start ≤ n) (hhigh : n < start + length) : page = n / size := by
  obtain ⟨hs, hw'⟩ := hasWindow_of_answer hc ht
  obtain ⟨rfl, rfl⟩ := hw.unique hw'
  exact ((Int.ediv_eq_iff_of_pos hs).2 ⟨hlow, hhigh⟩).symm

theorem existsUnique_page {size : Int} (hs : 0 < size) (hsize : isWritable size = true) {n : Nat}
    (hn : isWritable n = true) : ∃! page : Nat, ∃ text start length,
      ((topRated minRating size (page : Int) room).run s).1 = .ok text ∧ HasWindow text start length ∧
        start ≤ n ∧ n < start + length := by
  obtain ⟨k, rfl⟩ := Int.eq_ofNat_of_zero_le hs.le
  obtain ⟨hlow, hhigh⟩ := (Int.ediv_eq_iff_of_pos hs).1 (Int.natCast_ediv n k).symm
  have hpage : (0 : Int) ≤ (n / k : Nat) := Int.natCast_nonneg _
  have hstart : isWritable ((n / k : Nat) * k) = true := by
    refine isWritable_of_le ?_ hn
    have := Int.mul_nonneg hpage hs.le
    omega
  refine ⟨n / k, ⟨_, _, _, (answer_eq_ok hc).2 ⟨⟨⟨hs, hpage⟩, hsize, hstart⟩, rfl⟩,
    hasWindow_rated (sealed_rating hc) _ _, hlow, hhigh⟩, ?_⟩
  rintro page ⟨text, start, length, ht', hw, hlow', hhigh'⟩
  have hp := page_eq_of_window hc ht' hw hlow' hhigh'
  exact_mod_cast hp

end

/-- **Pages tile what they are taken from, as far as their numbers can be written.** A page is refused for
its size before its number, and for its digits after both; the texts of all others are alike up to the
limit, and their windows follow one another from the first entry on. -/
theorem pages_tile {minRating : Value} (h : Comparison.gt.Accepts minRating) (room : Int) (s : Session) :
    Paged fun size page => ((topRated minRating size page room).run s).1 := by
  obtain ⟨c, hc⟩ : ∃ c, Condition.make "rating" minRating Comparison.gt = .ok c :=
    Condition.exists_make (by decide) rfl h
  refine ⟨fun size page => ?_, fun size page hs => ?_, fun size page hs hp => ?_,
    fun size page hs hp hd => ?_, ?_, ?_, fun size hs hsize n hn => ?_, ?_⟩
  · constructor
    · rintro ⟨text, ht⟩
      exact ((answer_eq_ok hc).1 ht).1
    · intro hs
      exact ⟨_, (answer_eq_ok hc).2 ⟨hs, rfl⟩⟩
  · exact ⟨_, answer_of_size hc hs, rfl, rfl⟩
  · exact ⟨_, answer_of_page hc hs hp, rfl, rfl⟩
  · rw [answer_of_nonneg hc hs hp]
    rcases hd with hd | hd
    · rw [hd]
      rfl
    · rw [hd, Bool.and_false]
      rfl
  · refine ⟨lead c, fun size page text ht => ?_⟩
    exact ⟨by rw [((answer_eq_ok hc).1 ht).2, text_rated], (hasWindow_of_answer hc ht).2⟩
  · intro size page text text' ht ht'
    have hw := (hasWindow_of_answer hc ht).2
    have hw' := (hasWindow_of_answer hc ht').2
    rw [Int.add_mul, Int.one_mul] at hw'
    exact ⟨page * size, size, size, hw, hw'⟩
  · exact existsUnique_page hc hs hsize hn
  · intro size page page' text text' start length start' length' n ht ht' hw hw' h₁ h₂ h₃ h₄
    rw [page_eq_of_window hc ht hw h₁ h₂, page_eq_of_window hc ht' hw' h₃ h₄]

/-- A rating that holds the text of a limit and an offset forges no window. -/
theorem pages_tile_forged :
    let rating : Value := "\"; limit 1; offset 2; \\"
    let answer (size page : Int) := ((topRated rating size page).run {}).1
    Comparison.gt.Accepts rating ∧
    (∃ text, answer 5 2 = .ok text ∧ HasWindow text 10 5) ∧
    (∃ f, answer 0 (-1) = .error f ∧ f.param = some "limit") ∧
    (∃ f, answer 5 (-1) = .error f ∧ f.param = some "offset") ∧
    ∃! page : Nat, ∃ text start length,
      answer 5 page = .ok text ∧ HasWindow text start length ∧ start ≤ (12 : Nat) ∧
        (12 : Nat) < start + length := by
  intro rating answer
  have hr : Comparison.gt.Accepts rating := by
    refine .scalar (by decide) rfl fun w hw => ?_
    rw [← Value.word.inj hw]
    decide
  have hp := pages_tile hr mostCounted {}
  obtain ⟨f, hf, -, hlimit⟩ := hp.blames_size 0 (-1) (by decide)
  obtain ⟨f', hf', -, hoffset⟩ := hp.blames_page 5 (-1) (by decide) (by decide)
  obtain ⟨text, ht⟩ := (hp.accepts 5 2).2 ⟨⟨by decide, by decide⟩, by decide, by decide⟩
  obtain ⟨lead, hlead⟩ := hp.lead
  exact ⟨hr, ⟨text, ht, (hlead 5 2 text ht).2⟩, ⟨f, hf, hlimit⟩, ⟨f', hf', hoffset⟩,
    hp.tile 5 (by decide) (by decide) 12 (by decide)⟩

/-- Size and page can be written, and where the page starts cannot. -/
theorem long_page_not_built :
    let n : Int := Int.pow 10 3000
    isWritable n = true ∧ 0 < n ∧ 0 ≤ n ∧
    ∃ f, ((topRated 80 n n).run {}).1 = .error f ∧ f.kind = .value ∧ f.param = none := by
  intro n
  have hn : isWritable n = true := isWritable_ten_pow.2 (by decide)
  have hpos : 0 < n := Int.pow_pos (by decide)
  have hproduct : n * n = Int.pow 10 (3000 + 3000) := (Int.pow_add 10 3000 3000).symm
  have hlong : isWritable (n * n) = false := by
    rw [hproduct, Bool.eq_false_iff, Ne, isWritable_ten_pow]
    decide
  have hc : Condition.make "rating" 80 Comparison.gt = .ok ⟨"rating", .gt, ["80"]⟩ := rfl
  refine ⟨hn, hpos, hpos.le, .tooManyDigits, ?_, rfl, rfl⟩
  rw [answer_of_nonneg hc hpos hpos.le, hlong, Bool.and_false]
  rfl

end Catalogue

end ClauseQuery
