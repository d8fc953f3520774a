import ClauseQuery.Proofs.Checks

/-!
# The text of a query

A stray entry is found first, then a number with too many digits.
-/

namespace ClauseQuery

/-! ## Chains -/

def Entry.isJoined (e : Entry) : Bool :=
  match e.link with
  | .joined _ => true
  | _ => false

theorem Entry.isJoined_iff (e : Entry) : e.isJoined = true ↔ ∃ c, e.link = .joined c := by
  unfold isJoined
  split
  · rename_i c h; simp [h]
  · rename_i h; simpa using h

def Entry.suffix (e : Entry) : String := " " ++ e.link.display ++ " " ++ e.text

namespace Chain

def findStray (es : List Entry) : Option Entry := es.find? fun e => !e.isJoined

/-- The first entry after the opening one that no connective joins. -/
def stray? (c : Chain) : Option Entry := findStray c.entries.tail

def content : List Entry → Option String
  | [] => none
  | e :: es => some (e.text ++ String.join (es.map Entry.suffix))

theorem renderRest_eq : ∀ es : List Entry, renderRest es = match findStray es with
      | some e => .error (.strayLink e.link.display)
      | none => .ok (String.join (es.map Entry.suffix))
  | [] => rfl
  | e :: es => by
    rw [renderRest, findStray, List.find?_cons]
    cases hl : e.link with
    | joined c =>
      have hj : e.isJoined = true := (Entry.isJoined_iff e).2 ⟨c, hl⟩
      have hs : e.suffix = " " ++ c.token ++ " " ++ e.text := by rw [Entry.suffix, hl, Link.display]
      have ih := renderRest_eq es
      rw [findStray] at ih
      simp only [hj, Bool.not_true, ih]
      cases es.find? fun e => !e.isJoined with
      | some e' => rfl
      | none => simp [hs, bind, Except.bind, pure, Except.pure, String.join_cons]
    | opening => simp [Entry.isJoined, hl, throw, throwThe, MonadExceptOf.throw]
    | stray mark => simp [Entry.isJoined, hl, throw, throwThe, MonadExceptOf.throw]

theorem render_eq (c : Chain) : c.render = match c.stray? with
      | some e => .error (.strayLink e.link.display)
      | none => .ok ((content c.entries).map fun text => "where " ++ text ++ ";") := by
  obtain ⟨es⟩ := c
  cases es with
  | nil => rfl
  | cons e es =>
    simp only [render, stray?, List.tail_cons, renderRest_eq]
    cases findStray es with
    | some e' => rfl
    | none => simp [content, bind, Except.bind, pure, Except.pure, String.append_assoc]

end Chain

/-! ## Clauses -/

namespace Query

def namesContent : List String → Option String
  | [] => none
  | names => some (",".intercalate names)

def searchContent : Option String → Option String
  | none => none
  | some term => if term = "" then none else some (quote term)

/-- What stands in each clause between its keyword and its semicolon. -/
def contents (q : Query) : List (String × Option String) :=
  [("fields", namesContent q.fields), ("exclude", namesContent q.excluded),
    ("where", Chain.content q.chain.entries), ("sort", namesContent q.sortTexts),
    ("limit", q.limit.map toString), ("offset", q.offset.map toString),
    ("search", searchContent q.search)]

def clauseText (clause : String × Option String) : Option String :=
  clause.2.map fun content => clause.1 ++ " " ++ content ++ ";"

def text (q : Query) : String := " ".intercalate (q.contents.filterMap clauseText)

theorem listClause_eq (keyword : String) (names : List String) :
    listClause keyword names = clauseText (keyword, namesContent names) := by
  cases names <;> rfl

def fits (q : Query) : Bool := q.limit.all isWritable && q.offset.all isWritable

theorem fits_iff {q : Query} :
    q.fits = true ↔ ∀ n, n ∈ q.limit ∨ n ∈ q.offset → isWritable n = true := by
  have hall : ∀ n : Option Int, n.all isWritable = true ↔ ∀ m ∈ n, isWritable m = true := by
    intro n
    cases n <;> simp
  rw [fits, Bool.and_eq_true, hall, hall]
  simp only [or_imp, forall_and]

theorem numberClause_eq (keyword : String) (n : Option Int) : numberClause keyword n =
    if n.all isWritable then .ok (clauseText (keyword, n.map toString)) else .error .tooManyDigits := by
  cases n with
  | none => rfl
  | some n =>
    rw [numberClause, integerText, Option.all_some]
    cases isWritable n <;> rfl

theorem searchClause_eq (term : Option String) :
    searchClause term = clauseText ("search", searchContent term) := by
  unfold searchClause
  split
  · rfl
  · rfl
  · rename_i h; simp only [searchContent, if_neg h]; rfl

theorem build_eq (q : Query) : q.build = match q.chain.stray? with
      | some e => .error (.strayLink e.link.display)
      | none => if q.fits then .ok q.text else .error .tooManyDigits := by
  rw [build, clauses, Chain.render_eq, fits]
  cases q.chain.stray? with
  | some e => rfl
  | none =>
    have hw : ((Chain.content q.chain.entries).map fun text => "where " ++ text ++ ";") =
        clauseText ("where", Chain.content q.chain.entries) := rfl
    simp only [listClause_eq, numberClause_eq, searchClause_eq, hw]
    cases q.limit.all isWritable with
    | false => rfl
    | true => cases q.offset.all isWritable <;> rfl

theorem build_eq_ok {q : Query} {text : String} :
    q.build = .ok text ↔ q.chain.stray? = none ∧ q.fits = true ∧ q.text = text := by
  rw [build_eq]
  cases q.chain.stray? with
  | some e => exact ⟨fun h => (by cases h), fun h => (by cases h.1)⟩
  | none =>
    cases q.fits with
    | true => exact ⟨fun h => ⟨rfl, rfl, Except.ok.inj h⟩, fun h => congrArg Except.ok h.2.2⟩
    | false => exact ⟨fun h => (by cases h), fun h => (by cases h.2.1)⟩

theorem build_eq_error {q : Query} {f : Fault} : q.build = .error f ↔
    (∃ e, q.chain.stray? = some e ∧ f = .strayLink e.link.display) ∨
      q.chain.stray? = none ∧ q.fits = false ∧ f = .tooManyDigits := by
  rw [build_eq]
  cases q.chain.stray? with
  | some e =>
    constructor
    · intro h
      exact .inl ⟨e, rfl, (Except.error.inj h).symm⟩
    · rintro (⟨e', he, rfl⟩ | ⟨h, -⟩)
      · cases he; rfl
      · cases h
  | none =>
    cases q.fits with
    | true => exact ⟨fun h => (by cases h), by rintro (⟨e, h, -⟩ | ⟨-, h, -⟩) <;> cases h⟩
    | false =>
      constructor
      · intro h
        exact .inr ⟨rfl, rfl, (Except.error.inj h).symm⟩
      · rintro (⟨e, h, -⟩ | ⟨-, -, rfl⟩)
        · cases h
        · rfl

theorem build_eq_error_state {q : Query} {f : Fault} : q.build = .error f ∧ f.kind = .state ↔
    ∃ e, q.chain.stray? = some e ∧ f = .strayLink e.link.display := by
  rw [build_eq_error]
  constructor
  · rintro ⟨h | ⟨-, -, rfl⟩, hk⟩
    · exact h
    · cases hk
  · rintro ⟨e, he, rfl⟩
    exact ⟨.inl ⟨e, he, rfl⟩, rfl⟩

def keywords : List String := ["fields", "exclude", "where", "sort", "limit", "offset", "search"]

theorem contents_keywords (q : Query) : q.contents.map Prod.fst = keywords := rfl

theorem text_cases (q : Query) :
    (q.text = "" ∧ ∀ clause ∈ q.contents, clause.2 = none) ∨
      ∃ keyword ∈ keywords, ∃ rest, q.text = keyword ++ " " ++ rest := by
  unfold text
  cases h : q.contents.filterMap clauseText with
  | nil =>
    refine Or.inl ⟨rfl, fun clause hc => ?_⟩
    exact Option.map_eq_none_iff.1 (List.filterMap_eq_nil_iff.1 h clause hc)
  | cons t ts =>
    have ht : t ∈ q.contents.filterMap clauseText := by rw [h]; exact List.mem_cons_self ..
    obtain ⟨clause, hc, hct⟩ := List.mem_filterMap.1 ht
    obtain ⟨content, -, rfl⟩ := Option.map_eq_some_iff.1 hct
    have hk : clause.1 ∈ keywords := by rw [← contents_keywords q]; exact List.mem_map_of_mem hc
    refine Or.inr ⟨clause.1, hk, ?_⟩
    cases ts with
    | nil => exact ⟨content ++ ";", by rw [String.intercalate_singleton, String.append_assoc]⟩
    | cons t' ts =>
      refine ⟨content ++ ";" ++ " " ++ " ".intercalate (t' :: ts), ?_⟩
      simp only [String.intercalate_cons_cons, String.append_assoc]

theorem text_eq_empty_iff (q : Query) : q.text = "" ↔ ∀ clause ∈ q.contents, clause.2 = none := by
  constructor
  · intro ht
    rcases text_cases q with ⟨-, h⟩ | ⟨keyword, -, rest, h⟩
    · exact h
    · rw [h] at ht
      have := congrArg String.toList ht
      simp at this
  · intro h
    have hn : q.contents.filterMap clauseText = [] :=
      List.filterMap_eq_nil_iff.2 fun clause hc => by rw [clauseText, h clause hc]; rfl
    rw [text, hn]; rfl

theorem namesContent_eq_none {names : List String} : namesContent names = none ↔ names = [] := by
  cases names <;> simp [namesContent]

theorem content_eq_none {es : List Entry} : Chain.content es = none ↔ es = [] := by
  cases es <;> simp [Chain.content]

end Query

end ClauseQuery
