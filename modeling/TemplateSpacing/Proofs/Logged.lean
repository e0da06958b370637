import TemplateSpacing.Log.Logged

/-! # Results of logged computations

A computation with a log has one result when it reads nothing off the log.  Results follow one another as the
computations do, and two computations that go on alike from the result of a first are the same.
-/

set_option autoImplicit false

namespace TemplateSpacing.Log

variable {ε α β : Type}

/-- A computation has a result whatever is in the log, and only adds to the log. -/
def Gives (computation : Logged ε α) (result : Except ε α) : Prop :=
  ∃ records, ∀ log : List Record, computation.run.run log = (result, log ++ records)

theorem Gives.outcome {computation : Logged ε α} {result : Except ε α} (gives : Gives computation result) :
    (runLogged computation).2 = result := by
  obtain ⟨records, run⟩ := gives
  rw [runLogged, run]

theorem gives_pure (value : α) : Gives (pure value : Logged ε α) (.ok value) :=
  ⟨[], fun log => congrArg (Prod.mk _) (List.append_nil log).symm⟩

theorem gives_throw (fault : ε) : Gives (throw fault : Logged ε α) (.error fault) :=
  ⟨[], fun log => congrArg (Prod.mk _) (List.append_nil log).symm⟩

theorem gives_emit (record : Record) : Gives (emit record : Logged ε Unit) (.ok ()) :=
  ⟨[record], fun _ => rfl⟩

theorem gives_ofRecords (outcome : List Record × Except ε α) : Gives (ofRecords outcome) outcome.2 := by
  obtain ⟨records, result⟩ := outcome
  cases result with
  | error fault => exact ⟨records, fun _ => rfl⟩
  | ok value => exact ⟨records, fun _ => rfl⟩

section Sequence

variable {first : Logged ε α} {next other : α → Logged ε β} {result : Except ε α}

theorem run_bind (first : Logged ε α) (next : α → Logged ε β) (log : List Record) :
    (first >>= next).run.run log =
      match first.run.run log with
      | (.error fault, after) => (.error fault, after)
      | (.ok value, after) => (next value).run.run after := by
  unfold ExceptT.run StateT.run
  simp only [bind, ExceptT.bind, ExceptT.mk, StateT.bind]
  rcases first log with ⟨result, after⟩
  cases result with
  | error fault => rfl
  | ok value => rfl

/-- A result is followed by the result of what comes next. -/
theorem Gives.bind (gives : Gives first result) {last : α → Except ε β}
    (later : ∀ value, result = .ok value → Gives (next value) (last value)) :
    Gives (first >>= next) (result >>= last) := by
  obtain ⟨records, run⟩ := gives
  cases result with
  | error fault =>
      refine ⟨records, fun log => ?_⟩
      rw [run_bind, run]
      rfl
  | ok value =>
      obtain ⟨more, nextRun⟩ := later value rfl
      refine ⟨records ++ more, fun log => ?_⟩
      rw [run_bind, run]
      exact (nextRun _).trans (congrArg (Prod.mk _) (List.append_assoc log records more))

theorem Gives.emitting {computation : Logged ε β} {last : Except ε β} (gives : Gives computation last)
    (record : Record) : Gives (emit record >>= fun _ => computation) last :=
  (gives_emit record).bind fun _ _ => gives

theorem Gives.bind_congr (gives : Gives first result)
    (same : ∀ value, result = .ok value → next value = other value) : first >>= next = first >>= other := by
  obtain ⟨records, run⟩ := gives
  apply funext
  intro log
  have runs := run_bind first next log
  have otherRuns := run_bind first other log
  rw [run] at runs otherRuns
  refine runs.trans (Eq.trans ?_ otherRuns.symm)
  cases result with
  | error fault => rfl
  | ok value => exact congrArg (fun rest : Logged ε β => rest.run.run (log ++ records)) (same value rfl)

end Sequence

end TemplateSpacing.Log
