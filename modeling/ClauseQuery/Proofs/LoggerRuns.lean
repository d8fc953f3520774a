import ClauseQuery.Log
import ClauseQuery.Proofs.Histories

/-!
# Runs of the logger's set-up

A call attaches its handler before it looks at its level, so one that is refused leaves the handler.
-/

namespace ClauseQuery

/-- The number that a level stands for. Of the texts only the names of levels stand for one. -/
def Value.level? : Value → Option Int
  | flag b => some (if b then 1 else 0)
  | integer n => some n
  | word (.plain name) => levelNumber? name
  | _ => none

namespace SetupCall

def isConfigure : SetupCall → Bool
  | configure _ => true
  | child _ => false

def level? : SetupCall → Option Int
  | configure level => level.level?
  | child _ => none

def answer (call : SetupCall) (l : Logger) : Except Fault String := (call.exec.run l).1

end SetupCall

/-! ## One call -/

namespace SetupM

theorem setLevel_of_valid {v : Value} {n : Int} (h : v.level? = some n) (l : Logger) :
    (setLevel v).run l = (.ok (), { l with level := n }) := by
  cases v with
  | flag b => cases h; rfl
  | integer m => cases h; rfl
  | word w =>
    cases w with
    | plain name =>
      rw [Value.level?] at h
      rw [setLevel, h]
      rfl
    | member m => cases h
  | _ => cases h

theorem setLevel_of_unknown {name : String} (h : levelNumber? name = none) (l : Logger) :
    (setLevel name).run l = (.error (.unknownLevel name), l) := by
  rw [setLevel, h]
  rfl

theorem run_notALevel (shown : Except Fault String) (l : Logger) :
    ∃ f, (do throw (.notALevel (← liftExcept shown)) : SetupM Unit).run l = (.error f, l) := by
  cases shown with
  | ok text => exact ⟨.notALevel text, rfl⟩
  | error f => exact ⟨f, rfl⟩

theorem setLevel_of_invalid {v : Value} (h : v.level? = none) (hv : v ≠ .null) (l : Logger) :
    ∃ f, (setLevel v).run l = (.error f, l) := by
  cases v with
  | null => exact absurd rfl hv
  | flag b => cases h
  | integer n => cases h
  | word w =>
    cases w with
    | plain name => exact ⟨_, setLevel_of_unknown h l⟩
    | member m => exact run_notALevel _ l
  | _ => exact run_notALevel _ l

theorem run_configure (v : Value) (l : Logger) :
    (configure v).run l =
      (((setLevel v).run (attachHandler.run l).2).1.map fun _ => rootLogger,
        ((setLevel v).run (attachHandler.run l).2).2) := by
  change (ExceptT.bindCont (fun _ => pure rootLogger) ((setLevel v).run (attachHandler.run l).2).1 :
    StateM Logger _).run ((setLevel v).run (attachHandler.run l).2).2 = _
  cases ((setLevel v).run (attachHandler.run l).2).1 <;> rfl

end SetupM

namespace Logger

def withHandler (l : Logger) : Logger :=
  { l with handlers := if l.handlers.isEmpty then [recordLayout] else l.handlers }

theorem run_attachHandler (l : Logger) : SetupM.attachHandler.run l = (.ok (), l.withHandler) := by
  change (Except.ok (), if l.handlers.isEmpty then { l with handlers := [recordLayout] } else l) = _
  rw [withHandler]
  cases l.handlers.isEmpty <;> rfl

theorem step_child (l : Logger) (name : Value) : l.step (.child name) = l := by
  rw [step, SetupCall.exec, SetupM.child]
  cases name.display <;> rfl

theorem step_configure (l : Logger) (v : Value) :
    l.step (.configure v) = { l.withHandler with level := v.level?.getD l.level } := by
  rw [step, SetupCall.exec, SetupM.run_configure, run_attachHandler]
  cases h : v.level? with
  | some n => rw [SetupM.setLevel_of_valid h]; rfl
  | none =>
    by_cases hv : v = .null
    · rw [hv]; rfl
    · obtain ⟨f, hf⟩ := SetupM.setLevel_of_invalid h hv l.withHandler
      rw [hf]; rfl

end Logger

namespace SetupCall

theorem answer_configure (v : Value) (l : Logger) : (configure v).answer l =
    ((SetupM.setLevel v).run l.withHandler).1.map fun _ => rootLogger := by
  rw [answer, exec, SetupM.run_configure, Logger.run_attachHandler]

theorem refused_iff {v : Value} {l : Logger} :
    (∃ f, (configure v).answer l = .error f) ↔ v ≠ .null ∧ v.level? = none := by
  rw [answer_configure]
  cases h : v.level? with
  | some n =>
    rw [SetupM.setLevel_of_valid h]
    simp [Except.map]
  | none =>
    by_cases hv : v = .null
    · rw [hv]
      exact ⟨fun ⟨f, hf⟩ => (by cases hf), fun hn => absurd rfl hn.1⟩
    · obtain ⟨f, hf⟩ := SetupM.setLevel_of_invalid h hv l.withHandler
      rw [hf]
      exact ⟨fun _ => ⟨hv, rfl⟩, fun _ => ⟨f, rfl⟩⟩

theorem answer_unknown {name : String} (h : levelNumber? name = none) (l : Logger) :
    (configure name).answer l = .error (.unknownLevel name) := by
  rw [answer_configure, SetupM.setLevel_of_unknown h]
  rfl

end SetupCall

/-! ## Runs -/

namespace Logger

structure SumsUp (calls : List SetupCall) (l : Logger) : Prop where
  handlers : l.handlers = if calls.any SetupCall.isConfigure then [recordLayout] else []
  level : l.level = (lastGiven SetupCall.level? calls).getD 0

theorem SumsUp.concat {calls : List SetupCall} {l : Logger} (h : SumsUp calls l) (call : SetupCall) :
    SumsUp (calls ++ [call]) (l.step call) := by
  cases call with
  | child name =>
    refine ⟨?_, ?_⟩
    · rw [step_child, h.handlers]
      simp [SetupCall.isConfigure]
    · rw [step_child, h.level, lastGiven_concat]
      rfl
  | configure v =>
    refine ⟨?_, ?_⟩
    · rw [step_configure]
      simp only [withHandler, h.handlers]
      cases calls.any SetupCall.isConfigure <;> simp [SetupCall.isConfigure]
    · rw [step_configure, lastGiven_concat, h.level]
      cases hv : v.level? <;> simp [SetupCall.level?, hv]

theorem SumsUp.run (calls : List SetupCall) : SumsUp calls (bare.run calls) := by
  induction calls using List.reverseRecOn with
  | nil => exact ⟨rfl, rfl⟩
  | append_singleton calls call ih =>
    rw [Logger.run, List.foldl_append]
    exact ih.concat call

/-- **The logger is its calls.** After any run it has one handler if a call configured it, refused or
not, and the level of the last call that carried a valid one. No other call moves the level, and asking
for a child logger moves nothing. -/
theorem setup_read_off_calls (calls : List SetupCall) :
    let l := bare.run calls
    l.handlers = (if calls.any SetupCall.isConfigure then [recordLayout] else []) ∧
    l.level = (lastGiven SetupCall.level? calls).getD 0 ∧
    ∀ l : Logger,
      (∀ name, l.step (.child name) = l) ∧
      (l.step .configure).level = l.level ∧
      (∀ v, (∃ f, (SetupCall.configure v).answer l = .error f) ↔ v ≠ .null ∧ v.level? = none) ∧
      (∀ v f, (SetupCall.configure v).answer l = .error f → (l.step (.configure v)).level = l.level) ∧
      ∀ name : String, (∃ f, (SetupCall.configure name).answer l = .error f ∧ f.kind = .value) ↔
        levelNumber? name = none := by
  intro l
  have hl : SumsUp calls l := .run calls
  refine ⟨hl.handlers, hl.level, fun l => ⟨step_child l, by rw [step_configure]; rfl,
    fun _ => SetupCall.refused_iff, fun v f hf => ?_, fun name => ⟨?_, fun h => ?_⟩⟩⟩
  · obtain ⟨-, hv⟩ := SetupCall.refused_iff.1 ⟨f, hf⟩
    rw [step_configure, hv]
    rfl
  · rintro ⟨f, hf, -⟩
    exact (SetupCall.refused_iff.1 ⟨f, hf⟩).2
  · exact ⟨_, SetupCall.answer_unknown h l, rfl⟩

/-- The first call is refused, and its handler stays; the last one that carries a level is refused too,
and the level stays. -/
theorem setup_read_off_calls_refused :
    let calls : List SetupCall := [.configure "verbose", .child "tests", .configure "INFO", .configure,
      .configure (-5 : Int), .configure "info"]
    let l := bare.run calls
    l = ⟨-5, [recordLayout]⟩ ∧ (SetupCall.configure "info").answer l = .error (.unknownLevel "info") ∧
    (l.step (.configure "info")).level = -5 := by
  intro calls l
  obtain ⟨hhandlers, hlevel, hcalls⟩ := setup_read_off_calls calls
  obtain ⟨-, -, -, hkept, -⟩ := hcalls l
  have hl : l = ⟨-5, [recordLayout]⟩ := by
    rw [show l = ⟨l.level, l.handlers⟩ from rfl, hlevel, hhandlers]
    rfl
  have hf : (SetupCall.configure "info").answer l = .error (.unknownLevel "info") := by
    rw [hl]
    rfl
  exact ⟨hl, hf, by rw [hkept _ _ hf, hl]⟩

end Logger

end ClauseQuery
