import Mathlib.Data.List.Basic
import Mathlib.Data.List.Induction
import TradeJournal.Host.Memory
import TradeJournal.Log.Use
import TradeJournal.Proofs.Except
import TradeJournal.Proofs.Host.Run

/-!
# What the log in use is like

However the log in use has been configured, reset and written to, it is what the last change made of
it, or what is left of that. A change takes off every handler that is there, so handlers do not add
up; a configuration that fails has not begun to change anything, but for one that finds, after a
handler has been taken off, that the handler's file cannot be closed (`Step.leads`). The log of a
configuration has one handler for the console and one for a file at most, the file's being the last
one, and so a change that is stopped there leaves a log without handlers, at the level that it had.

| notion | meaning |
|---|---|
| `Event.changes` | a step that changes the log: a reset or a configuration that did not fail |
| `Event.Sets` | what such a step makes of the log |
| `Event.stops` | a step that was stopped by a file that cannot be closed |
| `LastSet` | a log is what the last change made of it |
| `Stopped` | a step was stopped after the last change |
-/

namespace TradeJournal.Log

variable {σ : Type} {host : Host (StateM σ)}

/-! ### Steps of a change -/

section

variable {α β : Type} {x : ExceptT Fault (StateT Log (StateM σ)) α} {log after : Log}
  {machine later : σ}

/-- **A step that succeeds** hands its answer, the log and the machine on. -/
theorem run_use_of_ok {a : α} (step : (x.run.run log).run machine = ((.ok a, after), later))
    (f : α → ExceptT Fault (StateT Log (StateM σ)) β) :
    ((x >>= f).run.run log).run machine = ((f a).run.run after).run later := by
  rw [ExceptT.run_bind, StateT.run_bind, StateT.run_bind, step]
  rfl

/-- **A step that fails** is the last one. -/
theorem run_use_of_error {fault : Fault}
    (step : (x.run.run log).run machine = ((.error fault, after), later))
    (f : α → ExceptT Fault (StateT Log (StateM σ)) β) :
    ((x >>= f).run.run log).run machine = ((.error fault, after), later) := by
  rw [ExceptT.run_bind, StateT.run_bind, StateT.run_bind, step]
  rfl

end

/-- **Whether closing a file fails** on a machine. -/
def Unclosed (host : Host (StateM σ)) (path : String) (f : FileFault) : Prop :=
  ∃ machine, ((host.closeFile path).run.run machine).1 = .error f

/-- **How a change ends.** -/
inductive Ends (host : Host (StateM σ)) (before wanted : Log) : Except Fault Unit → Log → Prop
  /-- The log is the one that was wanted. -/
  | done : Ends host before wanted (.ok ()) wanted
  /-- The file of a handler cannot be closed: that handler is off, with those in front of it, and
  nothing else has been changed. -/
  | stopped {taken rest : List Handler} {path : String} {least : Int} {f : FileFault}
      (own : before.handlers = taken ++ ⟨.file path, least⟩ :: rest)
      (unclosed : Unclosed host path f) :
      Ends host before wanted (.error (.unclosed f)) { before with handlers := rest }

/-- **A handler is taken off**, and only then can its file be left unclosed. -/
theorem run_release (host : Host (StateM σ)) (h : Handler) (log : Log) (machine : σ) :
    (∃ later, ((release host h).run.run log).run machine = ((.ok (), log.detach h), later)) ∨
    ∃ path f later, h.target = .file path ∧ Unclosed host path f ∧
      ((release host h).run.run log).run machine =
        ((.error (.unclosed f), log.detach h), later) := by
  obtain ⟨target, least⟩ := h
  cases target with
  | nowhere => exact Or.inl ⟨machine, rfl⟩
  | console => exact Or.inl ⟨machine, rfl⟩
  | file path =>
    obtain ⟨⟨result, later⟩, closed⟩ : ∃ closed, (host.closeFile path).run.run machine = closed :=
      ⟨_, rfl⟩
    have run : ((release host ⟨.file path, least⟩).run.run log).run machine =
        ((result.mapError .unclosed, log.detach ⟨.file path, least⟩), later) := by
      change (((((host.closeFile path).run.run machine).1.mapError Fault.unclosed, _),
        ((host.closeFile path).run.run machine).2)) = _
      rw [closed]
    rw [run]
    cases result with
    | ok _ => exact Or.inl ⟨later, rfl⟩
    | error f => exact Or.inr ⟨path, f, later, rfl, ⟨machine, congrArg Prod.fst closed⟩, rfl⟩

/-- **All handlers are taken off**, or those down to one whose file cannot be closed. -/
theorem run_releaseAll (host : Host (StateM σ)) (log : Log) (machine : σ) :
    ∃ result after later, Ends host log { log with handlers := [] } result after ∧
      ((log.handlers.forM (release host)).run.run log).run machine = ((result, after), later) := by
  -- Along the handlers, of which the first is always the next one to go.
  obtain ⟨handlers, level, propagates⟩ := log
  induction handlers generalizing machine with
  | nil => exact ⟨_, _, machine, .done, rfl⟩
  | cons h rest ih =>
    have off : detach ⟨h :: rest, level, propagates⟩ h = ⟨rest, level, propagates⟩ := by
      rw [detach, List.erase_cons_head]
    have first : (h :: rest).forM (release host) =
        (release host h >>= fun _ => rest.forM (release host)) := rfl
    rw [first]
    rcases run_release host h ⟨h :: rest, level, propagates⟩ machine with
      ⟨later, run⟩ | ⟨path, f, later, target, unclosed, run⟩
    · obtain ⟨result, after, last, ends, run_rest⟩ := ih later
      refine ⟨result, after, last, ?_, (run_use_of_ok (off ▸ run) _).trans run_rest⟩
      cases ends with
      | done => exact .done
      | @stopped taken rest' path least _ own unclosed =>
        have own_all : h :: rest = (h :: taken) ++ ⟨.file path, least⟩ :: rest' :=
          congrArg (h :: ·) own
        exact .stopped own_all unclosed
    · obtain ⟨place, least⟩ := h
      obtain rfl : place = .file path := target
      exact ⟨_, _, later, .stopped (List.nil_append _).symm unclosed,
        run_use_of_error (off ▸ run) _⟩

theorem run_attachAll (handlers : List Handler) (log : Log) (machine : σ) :
    (((handlers.forM fun h => modify (·.attach h) :
        ExceptT Fault (StateT Log (StateM σ)) Unit).run.run log).run machine) =
      ((.ok (), { log with handlers := log.handlers ++ handlers }), machine) := by
  induction handlers generalizing log with
  | nil =>
    rw [List.append_nil]
    rfl
  | cons h rest ih =>
    refine (ih (log.attach h)).trans ?_
    rw [attach, List.append_assoc]
    rfl

/-- **After a change the log is the one that was wanted**, whatever it was before, unless a file
could not be closed. -/
theorem run_change (host : Host (StateM σ)) (wanted log : Log) (machine : σ) :
    ∃ result after later, Ends host log wanted result after ∧
      ((change host wanted).run.run log).run machine = ((result, after), later) := by
  obtain ⟨result, after, later, ends, run⟩ := run_releaseAll host log machine
  have begun : ((get : ExceptT Fault (StateT Log (StateM σ)) Log).run.run log).run machine =
      ((.ok log, log), machine) := rfl
  rw [change]
  cases ends with
  | done =>
    have attached := run_attachAll wanted.handlers { log with handlers := [] } later
    have replaced : ((replaceHandlers host wanted.handlers).run.run log).run machine =
        ((.ok (), { log with handlers := wanted.handlers }), later) :=
      (run_use_of_ok begun _).trans ((run_use_of_ok run _).trans attached)
    exact ⟨_, _, later, .done, (run_use_of_ok replaced _).trans rfl⟩
  | stopped own unclosed =>
    exact ⟨_, _, later, .stopped own unclosed,
      run_use_of_error ((run_use_of_ok begun _).trans (run_use_of_error run _)) _⟩

/-! ### Steps and what comes of them -/

/-- **A step and the answer to it.** -/
abbrev Event := Step × Except Fault (Option String)

/-- **Whether a step changed the log**: it was a reset or a configuration, and did not fail. -/
def Event.changes : Event → Bool
  | (.reset, .ok _) | (.configure _, .ok _) => true
  | _ => false

theorem Event.changes_error (step : Step) (fault : Fault) :
    Event.changes (step, .error fault) = false := by
  cases step <;> rfl

/-- **Whether a step was stopped** by a file that could not be closed. -/
def Event.stops : Event → Bool
  | (_, .error (.unclosed _)) => true
  | _ => false

/-- **What a step makes of the log** if it changes it. -/
inductive Event.Sets : Event → Log → Prop
  /-- A reset leaves a handler that puts messages nowhere, and no level. -/
  | reset : Sets (.reset, .ok none) ⟨[⟨.nowhere, 0⟩], 0, true⟩
  /-- Where no file is asked for, or the action has no name, there is the console, at the level that
  was asked for. -/
  | console {r : Request} {level : Int} (known : levelOfName r.levelName = .ok level)
      (no_file : ¬(r.toFile = true ∧ r.action ≠ "")) :
      Sets (.configure r, .ok none) ⟨[⟨.console, level⟩], min 10 level, false⟩
  /-- Otherwise there is a file too, at the level of debug messages. -/
  | file {r : Request} {level : Int} {path : String} (known : levelOfName r.levelName = .ok level)
      (asked : r.toFile = true ∧ r.action ≠ "") :
      Sets (.configure r, .ok (some path))
        ⟨[⟨.console, level⟩, ⟨.file path, 10⟩], min 10 level, false⟩

theorem Event.Sets.changes {e : Event} {log : Log} (sets : e.Sets log) :
    e.changes = true ∧ e.stops = false := by
  cases sets <;> exact ⟨rfl, rfl⟩

/-- **What a step does to the log**: all that it can do. -/
inductive Event.Leads (host : Host (StateM σ)) : Event → Log → Log → Prop
  /-- It makes the log anew. -/
  | sets {e : Event} {before after : Log} (sets : e.Sets after) : Leads host e before after
  /-- It leaves the log as it is. -/
  | keeps {e : Event} {log : Log} (unchanged : e.changes = false) (unstopped : e.stops = false) :
      Leads host e log log
  /-- It takes handlers off, down to one whose file cannot be closed. -/
  | stops {step : Step} {before : Log} {taken rest : List Handler} {path : String} {least : Int}
      {f : FileFault} (own : before.handlers = taken ++ ⟨.file path, least⟩ :: rest)
      (unclosed : Unclosed host path f) :
      Leads host (step, .error (.unclosed f)) before { before with handlers := rest }

/-- **How a configuration ends**: it fails, though not at closing a file, or it has the log of a
level that was asked for, and a file if one was. -/
theorem configure_cases (host : Host (StateM σ)) (r : Request) (machine : σ) :
    (∃ fault, ((configure host r).run.run machine).1 = .error fault ∧
      ∀ f, fault ≠ .unclosed f) ∨
    ∃ level stamp, levelOfName r.levelName = .ok level ∧
      ((configure host r).run.run machine).1 =
        .ok (configured level (r.file? stamp), r.file? stamp) := by
  rw [configure, run_bind, run_known]
  cases known : levelOfName r.levelName with
  | error fault =>
    refine Or.inl ⟨fault, rfl, ?_⟩
    rintro f rfl
    rw [levelOfName] at known
    split at known <;> cases known
  | ok level =>
    -- The clock is read, and then the file is made if there is one.
    obtain ⟨⟨stamp, later⟩, read⟩ : ∃ read, host.stamp.run machine = read := ⟨_, rfl⟩
    have clock :
        (liftM host.stamp : ExceptT Fault (StateM σ) Stamp).run.run machine =
          (.ok stamp, later) := by
      change (Except.ok (host.stamp.run machine).1, (host.stamp.run machine).2) = _
      rw [read]
    dsimp only
    rw [run_bind_of_ok clock]
    cases asked : r.file? stamp with
    | none => exact Or.inr ⟨level, stamp, rfl, by rw [asked]; rfl⟩
    | some path =>
      dsimp only
      rw [run_bind, run_adapt]
      cases made : (makeFile host r.directory path).run.run later with
      | mk result after =>
        cases result with
        | error f => exact Or.inl ⟨.file f, rfl, nofun⟩
        | ok _ => exact Or.inr ⟨level, stamp, rfl, by rw [asked]; rfl⟩

/-- What is done for a log leaves the log alone. -/
theorem run_onHost {α : Type} (action : ExceptT Fault (StateM σ) α) (log : Log) (machine : σ) :
    ((onHost action).run.run log).run machine =
      (((action.run.run machine).1, log), (action.run.run machine).2) := rfl

/-- **A step makes the log anew, leaves it as it is, or is stopped at a file.** -/
theorem Step.leads (host : Host (StateM σ)) (step : Step) (log : Log) (machine : σ) :
    let done := (((step.perform host).run.run log).run machine).1
    Event.Leads host (step, done.1) log done.2 := by
  cases step with
  | emit level message => exact .keeps rfl rfl
  | reset =>
    obtain ⟨result, after, later, ends, run⟩ := run_change host silent log machine
    dsimp only
    rw [perform]
    cases ends with
    | done =>
      rw [run_use_of_ok run]
      exact .sets .reset
    | stopped own unclosed =>
      rw [run_use_of_error run]
      exact .stops own unclosed
  | configure r =>
    have ends := configure_cases host r machine
    have configured := run_onHost (Log.configure host r) log machine
    rcases ended : (Log.configure host r).run.run machine with ⟨result, middle⟩
    rw [ended] at ends configured
    dsimp only
    rw [perform]
    rcases ends with ⟨fault, failed, other⟩ | ⟨level, stamp, known, succeeded⟩
    · obtain rfl : result = .error fault := failed
      rw [run_use_of_error configured]
      refine .keeps rfl ?_
      cases fault with
      | unclosed f => exact absurd rfl (other f)
      | _ => rfl
    · obtain rfl : result = .ok (Log.configured level (r.file? stamp), r.file? stamp) := succeeded
      rw [run_use_of_ok configured]
      obtain ⟨result, after, later, ends, run⟩ :=
        run_change host (Log.configured level (r.file? stamp)) log middle
      dsimp only
      cases ends with
      | done =>
        rw [run_use_of_ok run]
        refine .sets ?_
        change Event.Sets (.configure r, .ok (r.file? stamp)) (Log.configured level (r.file? stamp))
        rw [Request.file?]
        split
        · next asked => exact .file known asked
        · next no_file => exact .console known no_file
      | stopped own unclosed =>
        rw [run_use_of_error run]
        exact .stops own unclosed

/-! ### Steps one after the other -/

/-- **Steps one after the other.** Whoever asks for them goes on whether they succeed or not. -/
def performAll {m : Type → Type} [Monad m] (host : Host m) (steps : List Step) :
    StateT Log m (List Event) :=
  steps.mapM fun step => do
    let answer ← (step.perform host).run
    pure (step, answer)

theorem run_performAll_concat (host : Host (StateM σ)) (steps : List Step) (step : Step)
    (log : Log) (machine : σ) :
    let done := ((performAll host steps).run log).run machine
    let last := ((step.perform host).run.run done.1.2).run done.2
    ((performAll host (steps ++ [step])).run log).run machine =
      ((done.1.1 ++ [(step, last.1.1)], last.1.2), last.2) := by
  intro done last
  rw [performAll, List.mapM_append, List.mapM_cons, List.mapM_nil]
  rfl

/-- **Whether a log is what the last change made of it**; it is the silent one if there was none. -/
def LastSet (events : List Event) (log : Log) : Prop :=
  (events.filter Event.changes).getLast?.elim (log = silent) (·.Sets log)

/-- **Whether a step was stopped after the last change.** -/
def Stopped (events : List Event) : Prop :=
  ∃ e, (events.filter fun e => e.changes || e.stops).getLast? = some e ∧ e.stops = true

/-- **Where the log stands**: it is what the last change made of it, and has no handlers any more if
a step was stopped since then. -/
inductive Stands (events : List Event) : Log → Prop
  | whole {log : Log} (last : LastSet events log) (unstopped : ¬Stopped events) : Stands events log
  | bare {log : Log} (last : LastSet events log) (stopped : Stopped events) :
      Stands events { log with handlers := [] }

section

variable {events : List Event} {e : Event} {log after : Log}

theorem LastSet.sets (last : LastSet events log)
    (changed : (events.filter Event.changes).getLast? = some e) : e.Sets log := by
  rw [LastSet, changed] at last
  exact last

theorem lastSet_concat_of_sets (sets : e.Sets log) : LastSet (events ++ [e]) log := by
  rw [LastSet, List.filter_append, List.filter_cons_of_pos sets.changes.1, List.filter_nil,
    List.getLast?_concat]
  exact sets

theorem LastSet.concat (last : LastSet events log) (unchanged : e.changes = false) :
    LastSet (events ++ [e]) log := by
  rw [LastSet, List.filter_append, List.filter_cons_of_neg (by simp [unchanged]), List.filter_nil,
    List.append_nil]
  exact last

/-- Whether the last step was stopped can be seen from it, if it did anything to the log. -/
theorem stopped_concat_iff : Stopped (events ++ [e]) ↔
    e.stops = true ∨ e.changes = false ∧ Stopped events := by
  cases changes : e.changes <;> cases stops : e.stops <;>
    simp [Stopped, changes, stops]

/-- A log that was silent to begin with is one that a change made. -/
theorem LastSet.exists_sets (last : LastSet events log) : ∃ e : Event, e.Sets log := by
  cases changed : (events.filter Event.changes).getLast? with
  | none =>
    rw [LastSet, changed] at last
    obtain rfl : log = silent := last
    exact ⟨_, Event.Sets.reset⟩
  | some e => exact ⟨e, last.sets changed⟩

/-- **The handlers of a log that a change made**: one that puts messages nowhere, or one for the
console and one for a file at most. -/
theorem Event.Sets.handlers_eq (sets : e.Sets log) : log.handlers = [⟨.nowhere, 0⟩] ∨
    ∃ (least : Int) (file : Option String),
      log.handlers = ⟨.console, least⟩ :: (file.map fun path => ⟨.file path, 10⟩).toList := by
  cases sets with
  | reset => exact Or.inl rfl
  | @console _ least => exact Or.inr ⟨least, none, rfl⟩
  | @file _ least path => exact Or.inr ⟨least, some path, rfl⟩

/-- **The file of a log that a change made is that of its last handler.** -/
theorem Event.Sets.rest_eq_nil (sets : e.Sets log) {taken rest : List Handler} {path : String}
    {least : Int} (own : log.handlers = taken ++ ⟨.file path, least⟩ :: rest) : rest = [] := by
  rcases sets.handlers_eq with nowhere | ⟨_, _ | _, console⟩
  · rw [nowhere] at own
    rcases taken with _ | ⟨_, _ | _⟩ <;> simp at own
  · rw [console] at own
    rcases taken with _ | ⟨_, _ | _⟩ <;> simp at own
  · rw [console] at own
    rcases taken with _ | ⟨_, _ | ⟨_, _ | _⟩⟩ <;> simp at own
    exact own.2.2

theorem Stands.lastSet (stands : Stands events log) (unstopped : ¬Stopped events) :
    LastSet events log := by
  cases stands with
  | whole last _ => exact last
  | bare _ stopped => exact absurd stopped unstopped

/-- **One more step.** -/
theorem Stands.concat (stands : Stands events log) (leads : e.Leads host log after) :
    Stands (events ++ [e]) after := by
  cases leads with
  | sets sets =>
    obtain ⟨changes, unstopped⟩ := sets.changes
    exact .whole (lastSet_concat_of_sets sets) (by simp [stopped_concat_iff, changes, unstopped])
  | keeps unchanged unstopped =>
    have same : Stopped (events ++ [e]) ↔ Stopped events := by
      simp [stopped_concat_iff, unchanged, unstopped]
    cases stands with
    | whole last before => exact .whole (last.concat unchanged) (mt same.mp before)
    | bare last before => exact .bare (last.concat unchanged) (same.mpr before)
  | stops own unclosed =>
    cases stands with
    | whole last before =>
      obtain ⟨_, sets⟩ := last.exists_sets
      obtain rfl := sets.rest_eq_nil own
      exact .bare (last.concat (Event.changes_error _ _)) (stopped_concat_iff.mpr (Or.inl rfl))
    | bare last before =>
      -- Without handlers there is no file that could stop a change.
      exact absurd own (by simp)

end

/-- **Whether closing a file never fails.** -/
def ClosesFiles (host : Host (StateM σ)) : Prop := ∀ path f, ¬Unclosed host path f

theorem Event.Leads.not_stops {e : Event} {before after : Log} (leads : e.Leads host before after)
    (closes : ClosesFiles host) : e.stops = false := by
  cases leads with
  | sets sets => exact sets.changes.2
  | keeps _ unstopped => exact unstopped
  | stops _ unclosed => exact absurd unclosed (closes _ _)

/-- **After any steps the log stands where the last change left it.** -/
theorem stands_performAll (host : Host (StateM σ)) (steps : List Step) (machine : σ) :
    let done := (((performAll host steps).run silent).run machine).1
    done.1.map Prod.fst = steps ∧ Stands done.1 done.2 ∧
      (ClosesFiles host → ¬Stopped done.1) := by
  -- From the last step back, with the log and the machine as the steps before it leave them.
  induction steps using List.reverseRecOn with
  | nil =>
    have none_stopped : ¬Stopped [] := by simp [Stopped]
    exact ⟨rfl, .whole rfl none_stopped, fun _ => none_stopped⟩
  | append_singleton steps step ih =>
    have concat := run_performAll_concat host steps step silent machine
    rcases ran : ((performAll host steps).run silent).run machine with ⟨⟨events, log⟩, later⟩
    rw [ran] at ih concat
    rw [concat]
    obtain ⟨asked, stands, unstopped⟩ := ih
    have leads := step.leads host log later
    refine ⟨by simp [← asked], stands.concat leads, fun closes => ?_⟩
    rw [stopped_concat_iff, leads.not_stops closes]
    simpa using fun _ => unstopped closes

/-! ### Messages -/

/-- **A message that is recorded once at most** on the console, and once at most in a file. -/
def recordOnce {m : Type → Type} [Monad m] (host : Host m) (written : Stamp → String)
    (shown : Bool) (kept : Option String) : m Unit := do
  let stamp ← host.stamp
  if shown then host.print (written stamp)
  if let some path := kept then
    let _ ← host.appendFile path (written stamp)
    pure ()

section

variable {m : Type → Type} [Monad m] [LawfulMonad m] {log : Log} {level : Int}

theorem emit_of_targets (host : Host m) (message : String) {shown : Bool} {kept : Option String}
    (reached : log.targets level =
      (if shown then [.console] else []) ++ (kept.map .file).toList) :
    log.emit host level message = recordOnce host (log.written · level message) shown kept := by
  rw [emit, recordOnce, reached]
  refine congrArg (host.stamp >>= ·) (funext fun stamp => ?_)
  cases shown <;> cases kept <;> simp [deliver]

theorem targets_of_reached {least : Int} {file : Option String} (own : log.reached =
      ⟨.console, least⟩ :: (file.map fun path => ⟨.file path, 10⟩).toList) :
    log.targets level = (if log.admits level && least ≤ level then [.console] else []) ++
      ((file.filter fun _ => log.admits level && 10 ≤ level).map .file).toList := by
  rw [targets, own]
  cases log.admits level with
  | false => cases file <;> simp
  | true =>
    cases file <;> by_cases shown : least ≤ level <;> by_cases kept : 10 ≤ level <;>
      simp [shown, kept, Option.filter]

theorem emit_of_reached (host : Host m) (level : Int) (message : String) (least : Int)
    (file : Option String) (own : log.reached =
      ⟨.console, least⟩ :: (file.map fun path => ⟨.file path, 10⟩).toList) :
    ∃ shown kept, (∀ path, kept = some path → file = some path) ∧
      log.emit host level message =
        recordOnce host (log.written · level message) shown kept :=
  ⟨_, _, fun _ kept => (Option.filter_eq_some_iff.mp kept).1,
    emit_of_targets host message (targets_of_reached own)⟩

/-- A message to a handler that puts it nowhere is recorded nowhere. -/
theorem emit_of_nowhere (own : log.handlers = [⟨.nowhere, 0⟩]) (host : Host m) (message : String) :
    log.emit host level message =
      recordOnce host (log.written · level message) false none := by
  rw [emit, recordOnce, targets, reached, own]
  refine congrArg (host.stamp >>= ·) (funext fun stamp => ?_)
  cases log.admits level <;> by_cases low : 0 ≤ level <;> simp [deliver, low]

/-- **Wherever the log stands**, each message is recorded once at most on the console, and once at
most in the log's file. -/
theorem Stands.emit_eq {events : List Event} (stands : Stands events log) (host : Host m)
    (level : Int) (message : String) :
    ∃ shown kept, (∀ path, kept = some path → ⟨.file path, 10⟩ ∈ log.handlers) ∧
      log.emit host level message =
        recordOnce host (log.written · level message) shown kept := by
  cases stands with
  | @bare full last stopped =>
    have own : ({ full with handlers := [] } : Log).reached = [lastResort] := rfl
    obtain ⟨shown, kept, files, recorded⟩ := emit_of_reached host level message _ none own
    exact ⟨shown, kept, fun path there => absurd (files path there) nofun, recorded⟩
  | whole last unstopped =>
    obtain ⟨e, sets⟩ := last.exists_sets
    rcases sets.handlers_eq with own | ⟨least, file, own⟩
    · exact ⟨false, none, nofun, emit_of_nowhere own host message⟩
    · have reached : log.reached = log.handlers := by rw [reached, own]; rfl
      obtain ⟨shown, kept, files, recorded⟩ :=
        emit_of_reached host level message least file (reached.trans own)
      refine ⟨shown, kept, fun path there => ?_, recorded⟩
      obtain rfl := files path there
      rw [own]
      exact List.mem_cons_of_mem _ (by simp)

end

/-! ### All steps -/

/-- **What a step that fails leaves of the log**: all of it, unless it was stopped by a file that
could not be closed. Then the handler of that file is off, with those in front of it. -/
def Leaves (host : Host (StateM σ)) (before after : Log) : Fault → Prop
  | .unclosed f => ∃ taken path least rest,
      before.handlers = taken ++ ⟨.file path, least⟩ :: rest ∧ Unclosed host path f ∧
        after = { before with handlers := rest }
  | _ => after = before

theorem Event.Leads.leaves {step : Step} {fault : Fault} {before after : Log}
    (leads : Event.Leads host (step, .error fault) before after) :
    Leaves host before after fault := by
  cases leads with
  | sets sets => cases sets
  | keeps _ unstopped =>
    cases fault with
    | unclosed f => cases unstopped
    | _ => rfl
  | stops own unclosed => exact ⟨_, _, _, _, own, unclosed, rfl⟩

/-- **The log in use is what the last change made of it**, or what is left of that. After any steps
from the silent log on, whether they succeeded or not, its handlers, its level and whether it passes
messages on are those of the last reset or the last configuration that did not fail; but if since
then a reset or a configuration was stopped by a file that could not be closed, the handlers are
gone. Where closing never fails this does not happen. A step that fails for another reason leaves
any log exactly as it was. And each message is recorded once at most on the console, and once at
most in the one file that the log has. -/
theorem state_is_last_set (host : Host (StateM σ)) (steps : List Step) (machine : σ) :
    let done := (((performAll host steps).run silent).run machine).1
    done.1.map Prod.fst = steps ∧ Stands done.1 done.2 ∧
    (ClosesFiles host → LastSet done.1 done.2) ∧
    (∀ (log : Log) (step : Step) (later : σ) (fault : Fault),
      (((step.perform host).run.run log).run later).1.1 = .error fault →
        Leaves host log (((step.perform host).run.run log).run later).1.2 fault) ∧
    ∀ (level : Int) (message : String), ∃ shown kept,
      (∀ path, kept = some path → ⟨.file path, 10⟩ ∈ done.2.handlers) ∧
        done.2.emit host level message =
          recordOnce host (done.2.written · level message) shown kept := by
  intro done
  obtain ⟨asked, stands, unstopped⟩ := stands_performAll host steps machine
  refine ⟨asked, stands, fun closes => stands.lastSet (unstopped closes),
    fun log step later fault failed => ?_, stands.emit_eq host⟩
  have leads := step.leads host log later
  dsimp only at leads
  rw [failed] at leads
  exact leads.leaves

/-- A configuration with a file, one that fails, and a message. -/
theorem state_is_last_set_failing :
    let host := Memory.host .lastPlane
    let asked : Request := ⟨"debug", "search", true, ""⟩
    let refused : Request := ⟨"BASIC_FORMAT", "search", true, ""⟩
    let path := "log/search/search_.log"
    let fault := Fault.unknownLevel levelOfName.linePattern
    let steps := [.configure asked, .configure refused, .emit 20 "x"]
    let done := (((performAll host steps).run silent).run {}).1
    let again := ((((Step.configure refused).perform host).run.run silent).run {}).1
    done.1 = [(.configure asked, .ok (some path)), (.configure refused, .error fault),
        (.emit 20 "x", .ok none)] ∧
      done.2 = ⟨[⟨.console, 10⟩, ⟨.file path, 10⟩], 10, false⟩ ∧
      again.1 = .error fault ∧ again.2 = silent := by
  intro host asked refused path fault steps done again
  have answers : done.1 = [(.configure asked, .ok (some path)), (.configure refused, .error fault),
      (.emit 20 "x", .ok none)] := by decide +kernel
  have fails : again.1 = .error fault := by decide +kernel
  have debug : levelOfName "debug" = .ok 10 := by decide +kernel
  have closes : ClosesFiles host := fun path f ⟨machine, failed⟩ => nomatch failed
  obtain ⟨-, -, last, unchanged, -⟩ := state_is_last_set host steps {}
  have sets : Event.Sets (.configure asked, .ok (some path)) done.2 :=
    (last closes).sets (by rw [answers]; rfl)
  refine ⟨answers, ?_, fails, unchanged silent (.configure refused) {} fault fails⟩
  generalize done.2 = log at sets
  cases sets with
  | file known =>
    obtain rfl := Except.ok.inj (debug.symm.trans known)
    rfl

/-- A host in memory on which no file can be closed, as nothing that was held back has room. -/
def fullHost : Host (StateM Memory) :=
  { Memory.host .lastPlane with
    closeFile := fun _ => throw (.unwritten (.other 28 "No space left on device")) }

/-- **A configuration that fails may leave no handlers**, where the file of the one before it cannot
be closed. And there is no file for an action without a name, though it is asked for. -/
theorem failed_change_leaves_no_handlers :
    let asked : Request := ⟨"info", "search", true, ""⟩
    let unnamed : Request := ⟨"info", "", true, ""⟩
    let path := "log/search/search_.log"
    let fault := Fault.unclosed (.unwritten (.other 28 "No space left on device"))
    let first := (((performAll fullHost [.configure asked]).run silent).run {}).1
    let done := (((performAll fullHost [.configure asked, .configure asked]).run silent).run {}).1
    let bare := (((performAll fullHost [.configure unnamed]).run silent).run {}).1
    first.2 = ⟨[⟨.console, 20⟩, ⟨.file path, 10⟩], 10, false⟩ ∧
      done = ([(.configure asked, .ok (some path)), (.configure asked, .error fault)],
        ⟨[], 10, false⟩) ∧
      bare = ([(.configure unnamed, .ok none)], ⟨[⟨.console, 20⟩], 10, false⟩) := by
  decide +kernel

end TradeJournal.Log
