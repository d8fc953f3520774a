import ClauseQuery.Proofs.WellFormed
import Mathlib.Data.List.DropRight

/-! # Replaying a snapshot -/

namespace ClauseQuery

/-! ## Snapshots -/

namespace Query

/-- The calls are public and all done, one after the other, and leave `q'`. -/
structure Leads (q : Query) (calls : List Call) (q' : Query) : Prop where
  isPublic : ∀ call ∈ calls, call.isPublic = true
  done : ∀ o ∈ q.trace calls, o.reply = .ok .done
  run : q.run calls = q'

namespace Leads

theorem nil {q q' : Query} (h : q = q') : Leads q [] q' where
  isPublic _ hc := (List.not_mem_nil hc).elim
  done _ ho := (List.not_mem_nil ho).elim
  run := h

theorem cons {q q' : Query} {call : Call} {calls : List Call} {e : Call.Effect}
    (hp : call.isPublic = true) (h : call.effect q = .ok e) (hd : e.reply = .done)
    (ht : Leads e.query calls q') : Leads q (call :: calls) q' := by
  have hs : q.step call = e.query := by rw [step_eq, h]
  refine ⟨List.forall_mem_cons.2 ⟨hp, ht.isPublic⟩, fun o ho => ?_, ?_⟩
  · rw [trace, hs] at ho
    rcases List.mem_cons.1 ho with rfl | ho
    · rw [Call.outcome_eq, h, ← hd]
      rfl
    · exact ht.done o ho
  · rw [run_cons, hs, ht.run]

theorem append {q q' q'' : Query} {calls calls' : List Call} (h : Leads q calls q')
    (h' : Leads q' calls' q'') : Leads q (calls ++ calls') q'' := by
  induction calls generalizing q with
  | nil =>
    have hq : q = q' := h.run
    rw [hq]
    exact h'
  | cons call calls ih =>
    obtain ⟨hpublic, hdone, hrun⟩ := h
    obtain ⟨hp, hps⟩ := List.forall_mem_cons.1 hpublic
    obtain ⟨hd, hds⟩ := List.forall_mem_cons.1 hdone
    obtain ⟨hps, hds, hr⟩ := ih ⟨hps, hds, hrun⟩
    exact ⟨List.forall_mem_cons.2 ⟨hp, hps⟩, List.forall_mem_cons.2 ⟨hd, hds⟩, hr⟩

end Leads

end Query

end ClauseQuery
