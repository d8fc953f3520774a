import ClauseQuery.Proofs.Conditions
import ClauseQuery.Proofs.Rendering

/-!
# Reading the text of a query

Where contents are sealed, a text splits into its clauses, and these into what they were written from.
-/

namespace ClauseQuery

namespace Query

/-! ## Clauses between semicolons -/

def body? (clause : String × Option String) : Option (List Char) :=
  clause.2.map fun content => (clause.1 ++ " " ++ content).toList

def bodies (q : Query) : List (List Char) := q.contents.filterMap body?

/-- What semicolons part in a text with these bodies: each but the first follows a blank. -/
def pieces : List (List Char) → List (List Char)
  | [] => [[]]
  | b :: bs => b :: (bs.map (' ' :: ·) ++ [[]])

theorem intercalate_pieces : ∀ bs : List (List Char),
    [' '].intercalate (bs.map (· ++ [';'])) = [';'].intercalate (pieces bs)
  | [] => rfl
  | [b] => by simp [pieces]
  | b :: b' :: bs => by
    have ih := intercalate_pieces (b' :: bs)
    have hp : [';'].intercalate ((' ' :: b') :: (bs.map (' ' :: ·) ++ [[]])) =
        ' ' :: [';'].intercalate (pieces (b' :: bs)) := by
      rw [pieces]; exact List.intercalate_cons_cons_left
    simp only [pieces, List.map_cons, List.cons_append, List.intercalate_cons_cons] at ih ⊢
    rw [ih, hp]
    simp [pieces]

theorem toList_text (q : Query) : q.text.toList = [';'].intercalate (pieces q.bodies) := by
  have hb : ∀ clauses : List (String × Option String),
      (clauses.filterMap clauseText).map String.toList = (clauses.filterMap body?).map (· ++ [';']) := by
    intro clauses
    rw [List.map_filterMap, List.map_filterMap]
    refine congrArg (List.filterMap · clauses) (funext fun clause => ?_)
    obtain ⟨keyword, content⟩ := clause
    cases content <;> simp [clauseText, body?]
  rw [text, String.toList_intercalate, hb, bodies, ← intercalate_pieces]
  rfl

theorem pieces_ne_nil (bs : List (List Char)) : pieces bs ≠ [] := by
  cases bs <;> simp [pieces]

theorem pieces_injective {bs bs' : List (List Char)} (h : pieces bs = pieces bs') : bs = bs' := by
  cases bs with
  | nil => cases bs' <;> simp_all [pieces]
  | cons b bs =>
    cases bs' with
    | nil => simp [pieces] at h
    | cons b' bs' =>
      simp only [pieces, List.cons.injEq, List.append_left_inj] at h
      obtain ⟨rfl, h⟩ := h
      rw [(List.map_inj_right fun _ _ he => List.cons.inj he |>.2).1 h]

theorem sealed_pieces {marks : List Char} (hm : ' ' ∉ marks) {bs : List (List Char)}
    (h : ∀ b ∈ bs, Sealed marks b) : ∀ p ∈ pieces bs, Sealed marks p := by
  have hnil : ∀ p ∈ ([[]] : List (List Char)), Sealed marks p := by
    intro p hp; rw [List.mem_singleton.1 hp]; exact sealed_nil
  cases bs with
  | nil => exact hnil
  | cons b bs =>
    obtain ⟨hb, hbs⟩ := List.forall_mem_cons.1 h
    refine List.forall_mem_cons.2 ⟨hb, List.forall_mem_append.2 ⟨fun p hp => ?_, hnil⟩⟩
    obtain ⟨b', hb', rfl⟩ := List.mem_map.1 hp
    exact sealed_cons (by decide) hm (hbs b' hb')

/-! ## Keywords before contents -/

theorem sealed_keyword : ∀ k ∈ keywords, Sealed [' ', ';'] k.toList := by decide

theorem toList_body (k c : String) : (k ++ " " ++ c).toList = k.toList ++ ' ' :: c.toList := by
  simp

theorem body_inj {k k' c c' : String} (hk : k ∈ keywords) (hk' : k' ∈ keywords)
    (h : (k ++ " " ++ c).toList = (k' ++ " " ++ c').toList) : k = k' ∧ c = c' := by
  rw [toList_body, toList_body] at h
  -- a keyword ends at the first blank
  have hat : ∀ s : List Char, AtMark [' '] (' ' :: s) := fun s d hd => by cases hd; simp
  have hs : ∀ k ∈ keywords, Sealed [' '] k.toList := fun k hk => (sealed_keyword k hk).mono (by decide)
  obtain ⟨h₁, h₂⟩ := (hs k hk).append_inj (hs k' hk') (hat _) (hat _) h
  exact ⟨String.toList_inj.1 h₁, String.toList_inj.1 (List.cons.inj h₂).2⟩

theorem keyword_of_mem_bodies {clauses : List (String × Option String)}
    (hk : ∀ clause ∈ clauses, clause.1 ∈ keywords) {k c : String} (hkey : k ∈ keywords)
    (h : (k ++ " " ++ c).toList ∈ clauses.filterMap body?) : k ∈ clauses.map Prod.fst := by
  obtain ⟨⟨k', o⟩, hm, hb⟩ := List.mem_filterMap.1 h
  obtain ⟨c', -, hc⟩ := Option.map_eq_some_iff.1 hb
  obtain ⟨rfl, -⟩ := body_inj (hk _ hm) hkey hc
  exact List.mem_map_of_mem hm

theorem contents_unique : ∀ {clauses clauses' : List (String × Option String)},
    clauses.map Prod.fst = clauses'.map Prod.fst → (clauses.map Prod.fst).Nodup →
    (∀ clause ∈ clauses, clause.1 ∈ keywords) → (∀ clause ∈ clauses', clause.1 ∈ keywords) →
    clauses.filterMap body? = clauses'.filterMap body? → clauses = clauses'
  | [], clauses', hf, _, _, _, _ => (List.map_eq_nil_iff.1 hf.symm).symm
  | _ :: _, [], hf, _, _, _, _ => by simp at hf
  | (k, o) :: clauses, (k', o') :: clauses', hfst, hnodup, hks, hks', h => by
    obtain ⟨rfl, hf⟩ := List.cons.inj hfst
    obtain ⟨hfresh, hn⟩ := List.nodup_cons.1 hnodup
    obtain ⟨hkey, hk⟩ := List.forall_mem_cons.1 hks
    obtain ⟨-, hk'⟩ := List.forall_mem_cons.1 hks'
    have ih := contents_unique hf hn hk hk'
    -- as no keyword comes twice, a clause that is left out cannot be mistaken for a later one
    cases o with
    | none =>
      cases o' with
      | none => rw [ih (by simpa [body?] using h)]
      | some c' =>
        have hm : (k ++ " " ++ c').toList ∈ clauses.filterMap body? := by
          rw [show clauses.filterMap body? = _ from h]; exact List.mem_cons_self ..
        exact absurd (keyword_of_mem_bodies hk hkey hm) hfresh
    | some c =>
      cases o' with
      | none =>
        have hm : (k ++ " " ++ c).toList ∈ clauses'.filterMap body? := by
          rw [show clauses'.filterMap body? = _ from h.symm]; exact List.mem_cons_self ..
        have hm' : k ∈ clauses.map Prod.fst := by
          rw [hf]; exact keyword_of_mem_bodies hk' hkey hm
        exact absurd hm' hfresh
      | some c' =>
        obtain ⟨hb, h⟩ := List.cons.inj (show _ :: clauses.filterMap body? = _ :: clauses'.filterMap body? from h)
        rw [(body_inj hkey hkey hb).2, ih h]

theorem keyword_of_mem_contents {q : Query} {clause : String × Option String} (h : clause ∈ q.contents) :
    clause.1 ∈ keywords := by
  rw [← contents_keywords q]
  exact List.mem_map_of_mem h

def ContentsSealed (q : Query) : Prop := ∀ clause ∈ q.contents, ∀ c ∈ clause.2, Sealed [';'] c.toList

theorem ContentsSealed.bodies {q : Query} (h : q.ContentsSealed) : ∀ b ∈ q.bodies, Sealed [';'] b := by
  intro b hb
  obtain ⟨⟨k, o⟩, hm, ho⟩ := List.mem_filterMap.1 hb
  obtain ⟨c, rfl, rfl⟩ := Option.map_eq_some_iff.1 ho
  have hk : Sealed [';'] k.toList := (sealed_keyword k (keyword_of_mem_contents hm)).mono (by decide)
  rw [toList_body]
  exact hk.append (sealed_cons (by decide) (by decide) (h _ hm c rfl))

theorem ContentsSealed.splitOutside_text {q : Query} (h : q.ContentsSealed) :
    splitOutside ';' q.text.toList = pieces q.bodies := by
  rw [toList_text]
  exact splitOutside_intercalate (pieces_ne_nil _) (sealed_pieces (by decide) h.bodies)

theorem ContentsSealed.contents_eq {q q' : Query} (hq : q.ContentsSealed) (hq' : q'.ContentsSealed)
    (h : q.text = q'.text) : q.contents = q'.contents := by
  have hp : pieces q.bodies = pieces q'.bodies := by
    rw [← hq.splitOutside_text, ← hq'.splitOutside_text, h]
  have hb : q.bodies = q'.bodies := pieces_injective hp
  refine contents_unique rfl ?_ (fun _ => keyword_of_mem_contents) (fun _ => keyword_of_mem_contents) hb
  rw [contents_keywords]; decide

/-! ## Contents of clauses -/

theorem splitOutside_commas {names : List String} (hne : names ≠ [])
    (hs : ∀ n ∈ names, Sealed [','] n.toList) :
    splitOutside ',' (",".intercalate names).toList = names.map String.toList := by
  rw [String.toList_intercalate]
  refine splitOutside_intercalate (by simpa using hne) fun x hx => ?_
  obtain ⟨n, hn, rfl⟩ := List.mem_map.1 hx
  exact hs n hn

theorem namesContent_inj {names names' : List String} (hs : ∀ n ∈ names, Sealed [','] n.toList)
    (hs' : ∀ n ∈ names', Sealed [','] n.toList) (h : namesContent names = namesContent names') :
    names = names' := by
  cases names with
  | nil => exact (namesContent_eq_none.1 h.symm).symm
  | cons n ns =>
    cases names' with
    | nil => cases h
    | cons n' ns' =>
      have ht : (n :: ns).map String.toList = (n' :: ns').map String.toList := by
        rw [← splitOutside_commas (List.cons_ne_nil n ns) hs, ← splitOutside_commas (List.cons_ne_nil n' ns') hs',
          Option.some_inj.1 h]
      exact (List.map_inj_right fun _ _ => String.toList_inj.1).1 ht

theorem quote_inj (s s' : String) (h : quote s = quote s') : s = s' := by
  have hu : ∀ s : String, unquote (quote s).toList = some (s.toList, []) := by
    intro s
    rw [quote, String.toList_ofList]
    have hr := unquote_quoteChars_append s.toList []
    rwa [List.append_nil] at hr
  have hs := hu s
  rw [h, hu s', Option.some_inj, Prod.mk.injEq] at hs
  exact String.toList_inj.1 hs.1.symm

end Query

/-! ## Contents of chains -/

theorem Entry.eq_of_parts {e e' : Entry} (hl : e.link = e'.link) (ht : e.text = e'.text) : e = e' := by
  obtain ⟨link, text⟩ := e
  cases hl
  cases ht
  rfl

namespace Chain

def after : List Entry → List Char
  | [] => [';']
  | e :: es => e.link.display.toList ++ ' ' :: (e.text.toList ++ ' ' :: after es)

theorem join_suffix : ∀ es : List Entry,
    (String.join (es.map Entry.suffix)).toList ++ [' ', ';'] = ' ' :: after es
  | [] => rfl
  | e :: es => by
    have ih := join_suffix es
    rw [List.map_cons, String.join_cons, String.toList_append, List.append_assoc, ih]
    simp [Entry.suffix, after]

theorem display_joined {e : Entry} {c : Connective} (h : e.link = .joined c) :
    ∃ m ∈ Condition.marks, m ≠ ';' ∧ e.link.display.toList = [m] := by
  rw [h]
  cases c with
  | and => exact ⟨'&', by decide⟩
  | or => exact ⟨'|', by decide⟩

theorem link_of_display {e e' : Entry} {c c' : Connective} (h : e.link = .joined c)
    (h' : e'.link = .joined c') (hd : e.link.display = e'.link.display) : e.link = e'.link := by
  rw [h, h'] at hd ⊢
  cases c <;> cases c' <;> first | rfl | exact absurd hd (by decide)

section
variable {es es' : List Entry}

def ReadableRest (es : List Entry) : Prop :=
  ∀ e ∈ es, (∃ c, e.link = .joined c) ∧ Sealed Condition.marks e.text.toList

theorem after_atMark (h : ReadableRest es) : AtMark Condition.marks (after es) := by
  intro m hm
  cases es with
  | nil => cases hm; decide
  | cons e es =>
    obtain ⟨⟨c, hc⟩, -⟩ := h e (List.mem_cons_self ..)
    obtain ⟨m', hmem, -, hd⟩ := display_joined hc
    rw [after, hd] at hm
    cases hm
    exact hmem

theorem text_after_inj {t t' : String} (ht : Sealed Condition.marks t.toList)
    (ht' : Sealed Condition.marks t'.toList) (h : ReadableRest es) (h' : ReadableRest es')
    (he : t.toList ++ ' ' :: after es = t'.toList ++ ' ' :: after es') : t = t' ∧ after es = after es' := by
  have hb : Sealed Condition.marks [' '] := sealed_cons (by decide) (by decide) sealed_nil
  -- with its blank, a text ends where the next mark outside its literals stands
  rw [List.append_cons t.toList, List.append_cons t'.toList] at he
  obtain ⟨h₁, h₂⟩ := (ht.append hb).append_inj (ht'.append hb) (after_atMark h) (after_atMark h') he
  exact ⟨String.toList_inj.1 (List.append_cancel_right h₁), h₂⟩

end

theorem after_inj : ∀ {es es' : List Entry}, ReadableRest es → ReadableRest es' → after es = after es' → es = es'
  | [], [], _, _, _ => rfl
  | e :: es, [], h, _, he => by
    obtain ⟨⟨c, hc⟩, -⟩ := h e (List.mem_cons_self ..)
    obtain ⟨m, -, hm, hd⟩ := display_joined hc
    rw [after, after, hd] at he
    exact absurd (List.cons.inj he).1 hm
  | [], e :: es, _, h, he => by
    obtain ⟨⟨c, hc⟩, -⟩ := h e (List.mem_cons_self ..)
    obtain ⟨m, -, hm, hd⟩ := display_joined hc
    rw [after, after, hd] at he
    exact absurd (List.cons.inj he).1.symm hm
  | e :: es, e' :: es', h, h', he => by
    obtain ⟨⟨⟨c, hc⟩, ht⟩, hes⟩ := List.forall_mem_cons.1 h
    obtain ⟨⟨⟨c', hc'⟩, ht'⟩, hes'⟩ := List.forall_mem_cons.1 h'
    obtain ⟨m, -, -, hd⟩ := display_joined hc
    obtain ⟨m', -, -, hd'⟩ := display_joined hc'
    rw [after, after, hd, hd', List.singleton_append, List.singleton_append] at he
    obtain ⟨rfl, hr⟩ := List.cons.inj he
    have hl := link_of_display hc hc' (String.toList_inj.1 (hd.trans hd'.symm))
    obtain ⟨htext, hafter⟩ := text_after_inj ht ht' hes hes' (List.cons.inj hr).2
    have ih : es = es' := after_inj hes hes' hafter
    rw [Entry.eq_of_parts hl htext, ih]

theorem ReadableRest.sealed_join {es : List Entry} (h : ReadableRest es) :
    Sealed [';'] (String.join (es.map Entry.suffix)).toList := by
  have hb : Sealed [';'] " ".toList := by decide
  induction es with
  | nil => exact sealed_nil
  | cons e es ih =>
    obtain ⟨⟨⟨c, hc⟩, ht⟩, hes⟩ := List.forall_mem_cons.1 h
    have hmark : Sealed [';'] e.link.display.toList := by
      rw [hc]
      cases c <;> decide
    have htext : Sealed [';'] e.text.toList := ht.mono (by decide)
    rw [List.map_cons, String.join_cons, String.toList_append]
    simp only [Entry.suffix, String.toList_append]
    exact ((((hb.append hmark).append hb).append htext).append (ih hes))

structure Readable (es : List Entry) : Prop where
  opening : ∀ e ∈ es.head?, e.link = .opening
  joined : ∀ e ∈ es.tail, ∃ c, e.link = .joined c
  sealed : ∀ e ∈ es, Sealed Condition.marks e.text.toList

theorem Readable.rest {e : Entry} {es : List Entry} (h : Readable (e :: es)) : ReadableRest es :=
  fun e' he => ⟨h.joined e' he, h.sealed e' (List.mem_cons_of_mem _ he)⟩

theorem content_sealed {es : List Entry} (h : Readable es) :
    ∀ c ∈ content es, Sealed [';'] c.toList := by
  intro c hc
  cases es with
  | nil => cases hc
  | cons e es =>
    have htext : Sealed [';'] e.text.toList := (h.sealed e (List.mem_cons_self ..)).mono (by decide)
    rw [← Option.some_inj.1 hc, String.toList_append]
    exact htext.append h.rest.sealed_join

theorem content_inj {es es' : List Entry} (h : Readable es) (h' : Readable es')
    (hc : content es = content es') : es = es' := by
  cases es with
  | nil =>
    cases es' with
    | nil => rfl
    | cons e' es' => cases hc
  | cons e es =>
    cases es' with
    | nil => cases hc
    | cons e' es' =>
      simp only [content, Option.some_inj] at hc
      replace hc := congrArg (fun s => s.toList ++ [' ', ';']) hc
      simp only [String.toList_append, List.append_assoc, join_suffix] at hc
      obtain ⟨htext, hafter⟩ := text_after_inj (h.sealed e (List.mem_cons_self ..))
        (h'.sealed e' (List.mem_cons_self ..)) h.rest h'.rest hc
      have hes : es = es' := after_inj h.rest h'.rest hafter
      have hl : e.link = e'.link := by rw [h.opening e rfl, h'.opening e' rfl]
      rw [Entry.eq_of_parts hl htext, hes]

end Chain

end ClauseQuery
