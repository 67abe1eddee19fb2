import TradeJournal.Host

/-!
# Runs on a machine

A host may be a machine whose state changes as a run goes on. What a run does to it is worked out
step by step: a step that succeeds hands its answer and the machine on, and one that fails ends the
run there.
-/

namespace TradeJournal

variable {σ ε ε' α β : Type}

/-- **A step and what follows it**, on a machine. -/
theorem run_bind (x : ExceptT ε (StateM σ) α) (f : α → ExceptT ε (StateM σ) β) (machine : σ) :
    (x >>= f).run.run machine =
      match x.run.run machine with
      | (.ok a, after) => (f a).run.run after
      | (.error e, after) => (.error e, after) := by
  rw [ExceptT.run_bind, StateT.run_bind]
  rcases x.run.run machine with ⟨_ | _, after⟩ <;> rfl

theorem run_bind_of_ok {x : ExceptT ε (StateM σ) α} {a : α} {machine after : σ}
    (step : x.run.run machine = (.ok a, after)) (f : α → ExceptT ε (StateM σ) β) :
    (x >>= f).run.run machine = (f a).run.run after := by
  rw [run_bind, step]

theorem run_bind_of_error {x : ExceptT ε (StateM σ) α} {e : ε} {machine after : σ}
    (step : x.run.run machine = (.error e, after)) (f : α → ExceptT ε (StateM σ) β) :
    (x >>= f).run.run machine = (.error e, after) := by
  rw [run_bind, step]

/-- An answer that is known leaves the machine as it is. -/
theorem run_known (answer : Except ε α) (machine : σ) :
    (ExceptT.mk (pure answer) : ExceptT ε (StateM σ) α).run.run machine = (answer, machine) := rfl

/-- Another wording of faults does not change what is done. -/
theorem run_adapt (f : ε → ε') (x : ExceptT ε (StateM σ) α) (machine : σ) :
    (x.adapt f).run.run machine =
      ((x.run.run machine).1.mapError f, (x.run.run machine).2) := rfl

/-- What a file holds is worked out from its bytes. -/
theorem run_load (host : Host (StateM σ)) (read : List UInt8 → Except ε α) (path : String)
    (machine : σ) :
    (host.load read path).run.run machine =
      match (host.readFile path).run.run machine with
      | (.ok bytes, after) => ((read bytes).mapError .content, after)
      | (.error f, after) => (.error (.file f), after) := by
  rw [Host.load, run_bind, run_adapt]
  rcases (host.readFile path).run.run machine with ⟨_ | bytes, after⟩ <;> rfl

end TradeJournal
