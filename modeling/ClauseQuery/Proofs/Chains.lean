import ClauseQuery.Proofs.Histories
import ClauseQuery.Proofs.WellFormed

/-! # Chains, call by call -/

namespace ClauseQuery.Chain

/-! ## Calls -/

namespace Call

def condition? : Chain.Call → Option Value
  | start v | and v | or v => some v
  | append _ | clear => none

def isChecked : Chain.Call → Bool
  | append _ => false
  | _ => true

def isClear : Chain.Call → Bool
  | clear => true
  | _ => false

/-- Starting what has started, or going on with what has not. -/
def isMisplaced (c : Chain) : Chain.Call → Bool
  | start _ => !c.isEmpty
  | or _ => c.isEmpty
  | and _ | append _ | clear => false

def entry? : Chain.Call → Option Entry
  | start v => some ⟨.opening, v.trimmed⟩
  | and v => some ⟨.joined .and, v.trimmed⟩
  | or v => some ⟨.joined .or, v.trimmed⟩
  | append e => some e
  | clear => none

end Call

def opened : List Entry → List Entry
  | [] => []
  | first :: later => ⟨.opening, first.text⟩ :: later

theorem opened_concat (es : List Entry) (e : Entry) :
    opened (es ++ [e]) = opened es ++ [if es.isEmpty then ⟨.opening, e.text⟩ else e] := by
  cases es <;> rfl

theorem isEmpty_opened (es : List Entry) : (opened es).isEmpty = es.isEmpty := by
  cases es <;> rfl

/-! ## One call -/

theorem refused_of_not_hasText (c : Chain) {call : Chain.Call} {v : Value}
    (hv : call.condition? = some v) (ht : v.hasText = false) :
    ∃ f, call.apply c = .error f ∧ f.kind = .invalid := by
  cases call with
  | start w | and w | or w =>
    cases hv
    exact Check.nonBlank_bind_of_not_hasText ht _ _
  | append _ | clear => cases hv

theorem refused_of_isMisplaced {c : Chain} {call : Chain.Call} {v : Value}
    (hv : call.condition? = some v) (ht : v.hasText = true) (hm : call.isMisplaced c = true) :
    ∃ f, call.apply c = .error f ∧ f.kind = .state := by
  have hn := Check.nonBlank_of_hasText ht
  cases call with
  | start w =>
    cases hv
    have he : c.isEmpty = false := by simpa [Call.isMisplaced] using hm
    exact ⟨.alreadyStarted, by simp only [Call.apply, start, hn, he]; rfl, rfl⟩
  | or w =>
    cases hv
    have he : c.isEmpty = true := hm
    exact ⟨.orFirst, by simp only [Call.apply, Chain.or, hn, he]; rfl, rfl⟩
  | and w => cases hm
  | append e => cases hv
  | clear => cases hv

theorem accepted_of_hasText {c : Chain} {call : Chain.Call} {v : Value}
    (hv : call.condition? = some v) (ht : v.hasText = true) (hm : call.isMisplaced c = false) :
    ∃ e, call.entry? = some e ∧ e.text = v.trimmed ∧
      (c.isEmpty = false → ∃ o, e.link = .joined o) ∧
      call.apply c = .ok (c.append (if c.isEmpty then ⟨.opening, e.text⟩ else e)) := by
  have hn := Check.nonBlank_of_hasText ht
  cases call with
  | start w =>
    cases hv
    have he : c.isEmpty = true := by simpa [Call.isMisplaced] using hm
    refine ⟨_, rfl, rfl, fun h => ?_, start_eq_ok.2 ⟨v.trimmed, hn _, he, ?_⟩⟩
    · rw [he] at h; cases h
    · rw [if_pos he]
  | and w =>
    cases hv
    refine ⟨_, rfl, rfl, fun _ => ⟨.and, rfl⟩, and_eq_ok.2 ⟨v.trimmed, hn _, ?_⟩⟩
    split <;> rfl
  | or w =>
    cases hv
    have he : c.isEmpty = false := hm
    refine ⟨_, rfl, rfl, fun _ => ⟨.or, rfl⟩, or_eq_ok.2 ⟨v.trimmed, hn _, he, ?_⟩⟩
    rw [if_neg (by simp [he])]
  | append e => cases hv
  | clear => cases hv

theorem apply_iff (c : Chain) {call : Chain.Call} {v : Value} (hv : call.condition? = some v) :
    ((∃ f, call.apply c = .error f ∧ f.kind = .invalid) ↔ v.hasText = false) ∧
    ((∃ f, call.apply c = .error f ∧ f.kind = .state) ↔
      v.hasText = true ∧ call.isMisplaced c = true) ∧
    ((∃ c', call.apply c = .ok c') ↔ v.hasText = true ∧ call.isMisplaced c = false) := by
  cases ht : v.hasText with
  | false =>
    obtain ⟨f, hf, hk⟩ := refused_of_not_hasText c hv ht
    simp [hf, hk]
  | true =>
    cases hm : call.isMisplaced c with
    | true =>
      obtain ⟨f, hf, hk⟩ := refused_of_isMisplaced hv ht hm
      simp [hf, hk]
    | false =>
      obtain ⟨e, -, -, -, ha⟩ := accepted_of_hasText hv ht hm
      simp [ha]

/-! ## Runs -/

def accepted (c : Chain) (calls : List Chain.Call) : List Chain.Call :=
  acceptedCalls step (fun c call => (call.apply c).isOk) c calls

def history (c : Chain) (calls : List Chain.Call) : List Chain.Call :=
  afterLast Call.isClear (c.accepted calls)

structure SumsUp (history : List Chain.Call) (c : Chain) : Prop where
  entries : c.entries = opened (history.filterMap Call.entry?)
  wellFormed : c.WellFormed

theorem SumsUp.concat {history : List Chain.Call} {c c' : Chain} (hc : SumsUp history c)
    {call : Chain.Call} {v : Value} (hv : call.condition? = some v) (ha : call.apply c = .ok c') :
    SumsUp (history ++ [call]) c' := by
  obtain ⟨ht, hm⟩ := (apply_iff c hv).2.2.1 ⟨c', ha⟩
  obtain ⟨e, he, htext, hjoined, ha'⟩ := accepted_of_hasText hv ht hm
  rw [ha, Except.ok.injEq] at ha'
  have hempty : (history.filterMap Call.entry?).isEmpty = c.isEmpty := by
    rw [← isEmpty_opened, ← hc.entries]
    rfl
  have hkept : IsKept e.text := by
    rw [htext]
    exact Check.isKept_of_nonBlank (Check.nonBlank_of_hasText ht "")
  subst ha'
  constructor
  · rw [List.filterMap_append, List.filterMap_cons, he, List.filterMap_nil, opened_concat, hempty,
      ← hc.entries]
    rfl
  · cases hce : c.isEmpty with
    | true => exact hc.wellFormed.append hkept (fun _ => rfl) fun h => by rw [hce] at h; cases h
    | false => exact hc.wellFormed.append hkept (fun h => by rw [hce] at h; cases h) hjoined

theorem SumsUp.run {calls : List Chain.Call} (hc : ∀ call ∈ calls, call.isChecked = true) :
    SumsUp (empty.history calls) (empty.run calls) := by
  refine history_induction (fun c call ha => ?_) (fun c call hclr => ?_)
    (fun history c call hs hcall ha hclr => ?_) ⟨rfl, .empty⟩ hc
  · unfold step
    cases h : call.apply c with
    | ok c' => rw [h] at ha; cases ha
    | error f => rfl
  · cases call with
    | clear => exact ⟨rfl, .empty⟩
    | _ => cases hclr
  -- of the calls that check something, only the clearing has no condition
  · have hv : ∃ v, call.condition? = some v := by
      cases call with
      | append e => cases hcall
      | clear => cases hclr
      | _ => exact ⟨_, rfl⟩
    obtain ⟨v, hv⟩ := hv
    unfold step
    cases h : call.apply c with
    | ok c' => exact hs.concat hv h
    | error f => rw [h] at ha; cases ha

/-! ## Renderings -/

def continuation (e : Entry) : String := (if e.link = .joined .or then " | " else " & ") ++ e.text

theorem suffix_eq_continuation {e : Entry} (h : ∃ o, e.link = .joined o) : e.suffix = continuation e := by
  obtain ⟨o, ho⟩ := h
  have hand : (" " ++ "&" ++ " " : String) = " & " := by decide
  have hor : (" " ++ "|" ++ " " : String) = " | " := by decide
  rw [Entry.suffix, continuation, ho]
  cases o with
  | and => rw [← hand]; rfl
  | or => rw [← hor]; rfl

theorem WellFormed.render_eq {c : Chain} (hc : c.WellFormed) : c.render = .ok (match c.entries with
    | [] => none
    | first :: later => some ("where " ++ first.text ++ String.join (later.map continuation) ++ ";")) := by
  rw [Chain.render_eq, hc.stray?_eq_none]
  cases he : c.entries with
  | nil => rfl
  | cons first later =>
    have hj : later.map Entry.suffix = later.map continuation := by
      refine List.map_congr_left fun e hm => suffix_eq_continuation (hc.joined e ?_)
      rw [he]
      exact hm
    simp only [content, Option.map_some, hj, String.append_assoc]

/-- One more accepted call puts its connective and its text in front of the last semicolon. -/
theorem SumsUp.render_concat {history : List Chain.Call} {c c' : Chain} (hc : SumsUp history c)
    {call : Chain.Call} {v : Value} (hv : call.condition? = some v) (ha : call.apply c = .ok c') :
    (c.render = .ok none ∧ c'.render = .ok (some ("where " ++ v.trimmed ++ ";"))) ∨
    ∃ body connective, c.render = .ok (some (body ++ ";")) ∧
      (call = .and v ∧ connective = " & " ∨ call = .or v ∧ connective = " | ") ∧
      c'.render = .ok (some (body ++ connective ++ v.trimmed ++ ";")) := by
  have hr := hc.wellFormed.render_eq
  have hr' := (hc.concat hv ha).wellFormed.render_eq
  obtain ⟨ht, hm⟩ := (apply_iff c hv).2.2.1 ⟨c', ha⟩
  obtain ⟨e, he, htext, -, ha'⟩ := accepted_of_hasText hv ht hm
  rw [ha, Except.ok.injEq] at ha'
  subst ha'
  obtain ⟨entries⟩ := c
  cases entries with
  | nil =>
    left
    refine ⟨hr, ?_⟩
    rw [hr', ← htext]
    simp [append, isEmpty, String.join]
  | cons first later =>
    right
    have happ : (append ⟨first :: later⟩ e).entries = first :: (later ++ [e]) := rfl
    have hne : (if isEmpty ⟨first :: later⟩ then (⟨.opening, e.text⟩ : Entry) else e) = e := rfl
    rw [hne] at hr' ⊢
    rw [happ] at hr'
    simp only [List.map_append, String.join_append, List.map_cons, List.map_nil] at hr'
    cases call with
    | start w => cases hv; cases hm
    | and w =>
      cases hv
      cases he
      refine ⟨_, _, hr, Or.inl ⟨rfl, rfl⟩, ?_⟩
      rw [hr']
      simp [continuation, String.append_assoc]
    | or w =>
      cases hv
      cases he
      refine ⟨_, _, hr, Or.inr ⟨rfl, rfl⟩, ?_⟩
      rw [hr']
      simp [continuation, String.append_assoc]
    | append e => cases hv
    | clear => cases hv

/-- **A chain is its accepted calls.** Any call is refused for its text, or else for the state of the
chain, or accepted; the entries are those of the calls accepted since the last clearing, in order; and
the rendering is empty or grows by one continuation for each of them. -/
theorem run_is_accepted_calls (calls : List Chain.Call) (hc : ∀ call ∈ calls, call.isChecked = true) :
    let c := empty.run calls
    (∀ (c : Chain) (call : Chain.Call) (v : Value), call.condition? = some v →
      ((∃ f, call.apply c = .error f ∧ f.kind = .invalid) ↔ v.hasText = false) ∧
      ((∃ f, call.apply c = .error f ∧ f.kind = .state) ↔
        v.hasText = true ∧ call.isMisplaced c = true) ∧
      ((∃ c', call.apply c = .ok c') ↔ v.hasText = true ∧ call.isMisplaced c = false)) ∧
    c.entries = opened ((empty.history calls).filterMap Call.entry?) ∧
    (c.render = .ok none ↔ c.entries = []) ∧
    (∀ first later, c.entries = first :: later → c.render =
      .ok (some ("where " ++ first.text ++ String.join (later.map continuation) ++ ";"))) ∧
    ∀ (call : Chain.Call) (v : Value) (c' : Chain), call.condition? = some v → call.apply c = .ok c' →
      (c.render = .ok none ∧ c'.render = .ok (some ("where " ++ v.trimmed ++ ";"))) ∨
      ∃ body connective, c.render = .ok (some (body ++ ";")) ∧
        (call = .and v ∧ connective = " & " ∨ call = .or v ∧ connective = " | ") ∧
        c'.render = .ok (some (body ++ connective ++ v.trimmed ++ ";")) := by
  intro c
  have hs : SumsUp (empty.history calls) c := .run hc
  have hr := hs.wellFormed.render_eq
  refine ⟨fun c call v hv => apply_iff c hv, hs.entries, ?_, fun first later he => ?_,
    fun call v c' hv ha => hs.render_concat hv ha⟩
  · rw [hr]
    cases c.entries <;> simp
  · rw [hr, he]

/-- Calls are refused for their texts and for the state, before and after the chain is cleared. -/
theorem run_is_accepted_calls_refused :
    let calls : List Chain.Call := [.or "a = 1", .and "b = 2", .start "c = 3", .clear, .or 5, .and " d = 4 ",
      .start " ", .or "e = 5", .and "f = 6"]
    let c := empty.run calls
    (∀ call ∈ calls, call.isChecked = true) ∧
    c.entries = [⟨.opening, "d = 4"⟩, ⟨.joined .or, "e = 5"⟩, ⟨.joined .and, "f = 6"⟩] ∧
    c.render = .ok (some "where d = 4 | e = 5 & f = 6;") ∧
    (∃ f, Call.apply (.start 7) c = .error f ∧ f.kind = .invalid) ∧
    (∃ f, Call.apply (.start "g = 7") c = .error f ∧ f.kind = .state) := by
  intro calls c
  have hc : ∀ call ∈ calls, call.isChecked = true := by decide
  obtain ⟨hverdict, hentries, -, hrender, -⟩ := run_is_accepted_calls calls hc
  refine ⟨hc, hentries, hrender _ _ hentries, ?_, ?_⟩
  · exact (hverdict c (.start 7) 7 rfl).1.2 rfl
  · exact (hverdict c (.start "g = 7") "g = 7" rfl).2.1.2 ⟨by decide, rfl⟩

end ClauseQuery.Chain
