import ClauseQuery.Proofs.Effects
import Mathlib.Data.List.DropRight

/-!
# Histories

What a run leaves depends on the calls that were accepted since the last that cleared.
`history_induction` serves queries and chains.
-/

namespace ClauseQuery

/-- What follows the last item with `p`: all, if there is none. -/
def afterLast {α} (p : α → Bool) (xs : List α) : List α := xs.rtakeWhile fun x => !p x

def lastGiven {α β} (f : α → Option β) (xs : List α) : Option β := (xs.filterMap f).getLast?

theorem afterLast_concat {α} (p : α → Bool) (xs : List α) (x : α) :
    afterLast p (xs ++ [x]) = if p x then [] else afterLast p xs ++ [x] := by
  unfold afterLast
  by_cases hx : p x = true
  · rw [List.rtakeWhile_concat_neg _ _ _ (by simp [hx]), if_pos hx]
  · rw [List.rtakeWhile_concat_pos _ _ _ (by simp [hx]), if_neg hx]

theorem lastGiven_concat {α β} (f : α → Option β) (xs : List α) (x : α) :
    lastGiven f (xs ++ [x]) = (f x).or (lastGiven f xs) := by
  unfold lastGiven
  rw [List.filterMap_append, List.getLast?_append]
  cases h : f x <;> simp [h]

/-! ## Accepted calls -/

section
variable {σ κ : Type} (step : σ → κ → σ) (accepts : σ → κ → Bool)

/-- The calls of a run that are accepted, each in the state that the calls before it leave. -/
def acceptedCalls : σ → List κ → List κ
  | _, [] => []
  | s, call :: calls =>
    let rest := acceptedCalls (step s call) calls
    if accepts s call then call :: rest else rest

theorem acceptedCalls_concat (call : κ) : ∀ (s : σ) (calls : List κ),
    acceptedCalls step accepts s (calls ++ [call]) = acceptedCalls step accepts s calls ++
      if accepts (calls.foldl step s) call then [call] else []
  | _, [] => rfl
  | s, c :: calls => by
    simp only [List.cons_append, acceptedCalls, List.foldl_cons, acceptedCalls_concat call _ calls]
    split <;> rfl

theorem length_acceptedCalls_le : ∀ (s : σ) (calls : List κ),
    (acceptedCalls step accepts s calls).length ≤ calls.length
  | _, [] => Nat.le_refl _
  | s, c :: calls => by
    have ih := length_acceptedCalls_le (step s c) calls
    simp only [acceptedCalls]
    split
    · exact Nat.succ_le_succ ih
    · exact Nat.le_succ_of_le ih

theorem acceptedCalls_eq_cons_iff {s : σ} {call : κ} {calls : List κ} :
    acceptedCalls step accepts s (call :: calls) = call :: calls ↔
      accepts s call = true ∧ acceptedCalls step accepts (step s call) calls = calls := by
  have hl := length_acceptedCalls_le step accepts (step s call) calls
  simp only [acceptedCalls]
  by_cases ha : accepts s call = true
  · simp [ha]
  · rw [if_neg ha]
    constructor
    · intro h
      rw [h] at hl
      exact absurd hl (Nat.not_succ_le_self _)
    · intro h
      exact absurd h.1 ha

/-- A property of a history and a state holds after every run, if it holds of an empty history once
the state is cleared and each further call that is accepted keeps it. -/
theorem history_induction {step : σ → κ → σ} {accepts : σ → κ → Bool} {clears C : κ → Bool}
    {P : List κ → σ → Prop} (hrefused : ∀ s call, accepts s call = false → step s call = s)
    (hcleared : ∀ s call, clears call = true → P [] (step s call))
    (hkept : ∀ h s call, P h s → C call = true → accepts s call = true → clears call = false →
      P (h ++ [call]) (step s call))
    {s : σ} (hs : P [] s) {calls : List κ} (hc : ∀ call ∈ calls, C call = true) :
    P (afterLast clears (acceptedCalls step accepts s calls)) (calls.foldl step s) := by
  -- by the last call: refused, it changes nothing, and clearing, it starts a new history
  induction calls using List.reverseRecOn with
  | nil => exact hs
  | append_singleton calls call ih =>
    have hP := ih fun c hm => hc c (List.mem_append_left _ hm)
    have hcall := hc call (List.mem_append_right _ (List.mem_singleton.2 rfl))
    rw [acceptedCalls_concat, List.foldl_append, List.foldl_cons, List.foldl_nil]
    cases ha : accepts (calls.foldl step s) call with
    | false =>
      rw [hrefused _ _ ha, if_neg (by decide), List.append_nil]
      exact hP
    | true =>
      rw [if_pos rfl, afterLast_concat]
      cases hclr : clears call with
      | true =>
        rw [if_pos rfl]
        exact hcleared _ _ hclr
      | false =>
        rw [if_neg (by decide)]
        exact hkept _ _ _ hP hcall ha hclr

end

/-! ## Histories of queries -/

def Call.isClear : Call → Bool
  | clear => true
  | _ => false

namespace Query

def accepted (q : Query) (calls : List Call) : List Call :=
  acceptedCalls step (fun q call => (call.outcome q).reply.isOk) q calls

def history (q : Query) (calls : List Call) : List Call := afterLast Call.isClear (q.accepted calls)

theorem exists_effect {q : Query} {call : Call} (h : (call.outcome q).reply.isOk = true) :
    ∃ e, call.effect q = .ok e ∧ q.step call = e.query := by
  rw [Call.outcome_eq] at h
  cases he : call.effect q with
  | ok e => exact ⟨e, rfl, by rw [step_eq, he]⟩
  | error f => rw [he] at h; cases h

theorem step_of_refused {q : Query} {call : Call} (h : (call.outcome q).reply.isOk = false) :
    q.step call = q := by
  rw [Call.outcome_eq] at h
  rw [step_eq]
  cases he : call.effect q with
  | ok e => rw [he] at h; cases h
  | error f => rfl

end Query

end ClauseQuery
