import TradeJournal.Command
import TradeJournal.Host.Memory
import TradeJournal.Proofs.Except
import TradeJournal.Proofs.Host.Run
import TradeJournal.Proofs.Search.Outcome

/-!
# What a run comes to

Whatever the machine is like and however command lines, settings and dates are read, a run that
finishes has been set a task by its command line, and its exit code is that of success exactly when
the task has no objection to its query (`run_finished`). A check of a query is never given up. And a
run that ends before its task begins has only looked at paths and read files, so it leaves a machine
on which this changes nothing as it was (`run_of_not_begun`).
-/

namespace TradeJournal.Command

open Query (tokenize problems)

variable {σ : Type} {α β ε : Type}

/-! ### Answers -/

/-- **Whether a property holds of all that may be answered.** -/
def Answers (x : StateM σ α) (P : α → Prop) : Prop := ∀ machine, P (x.run machine).1

theorem answers_pure {P : α → Prop} {a : α} (holds : P a) : Answers (σ := σ) (pure a) P :=
  fun _ => holds

theorem Answers.bind {P : β → Prop} {Q : α → Prop} {x : StateM σ α} {f : α → StateM σ β}
    (first : Answers x Q) (next : ∀ a, Q a → Answers (f a) P) : Answers (x >>= f) P :=
  fun machine => next _ (first machine) _

/-- What is answered first may be anything if what follows has the property all the same. -/
theorem answers_bind {P : β → Prop} {x : StateM σ α} {f : α → StateM σ β}
    (next : ∀ a, Answers (f a) P) : Answers (x >>= f) P :=
  Answers.bind (Q := fun _ => True) (fun _ => trivial) fun a _ => next a

/-- **Whether one property holds of what is answered, and another one of the faults.** -/
def Yields (x : ExceptT ε (StateM σ) α) (P : α → Prop) (F : ε → Prop) : Prop :=
  Answers x.run fun
    | .ok a => P a
    | .error e => F e

section

variable {P : α → Prop} {Q : β → Prop} {F : ε → Prop}

theorem yields_pure {a : α} (holds : P a) : Yields (pure a : ExceptT ε (StateM σ) α) P F :=
  fun _ => holds

theorem yields_throw {e : ε} (holds : F e) : Yields (throw e : ExceptT ε (StateM σ) α) P F :=
  fun _ => holds

theorem Yields.bind {x : ExceptT ε (StateM σ) α} {f : α → ExceptT ε (StateM σ) β}
    (first : Yields x P F) (next : ∀ a, P a → Yields (f a) Q F) : Yields (x >>= f) Q F := by
  rw [Yields, ExceptT.run_bind]
  refine Answers.bind first fun answer holds => ?_
  cases answer with
  | ok a => exact next a holds
  | error e => exact answers_pure holds

theorem Yields.of_forall {x : ExceptT ε (StateM σ) α} (answers : ∀ a, P a) (faults : ∀ e, F e) :
    Yields x P F := by
  intro machine
  cases (x.run.run machine).1 with
  | ok a => exact answers a
  | error e => exact faults e

/-- What is answered first may be anything, if what follows has the property all the same and there
is nothing to be said of faults. -/
theorem yields_bind {x : ExceptT ε (StateM σ) α} {f : α → ExceptT ε (StateM σ) β}
    (next : ∀ a, Yields (f a) Q fun _ => True) : Yields (x >>= f) Q fun _ => True :=
  Yields.bind (P := fun _ => True) (.of_forall (fun _ => trivial) fun _ => trivial)
    fun a _ => next a

theorem yields_adapt {ε' : Type} {f : ε → ε'} {x : ExceptT ε (StateM σ) α} {G : ε' → Prop}
    (faults : ∀ e, G (f e)) : Yields (x.adapt f) (fun _ => True) G := by
  intro machine
  rw [run_adapt]
  cases (x.run.run machine).1 with
  | ok a => trivial
  | error e => exact faults e

end

theorem yields_attempt {failure : ε → Failure} (r : Except ε α) :
    Yields (attempt failure r : ExceptT Failure (StateM σ) α) (r = .ok ·) fun _ => True := by
  intro machine
  cases r with
  | error e => trivial
  | ok a => rfl

/-! ### Tasks -/

/-- **Whether a task has no objection to its query**; a task without a query has none. -/
def Task.accepts : Task → Bool
  | .search query | .validate query => (problems (tokenize query)).isEmpty
  | .suggest .. | .tags _ => true

/-- What is found in a snapshot is accepted when the check of the query finds nothing. -/
theorem isValid_run (snapshot : Search.Snapshot) (query : String) :
    (Search.run snapshot query).isValid = (problems (tokenize query)).isEmpty := by
  by_cases clean : Query.defects (tokenize query) = []
  · obtain ⟨tree, parsed⟩ := Query.defects_eq_nil_iff_exists_parse.mp clean
    rw [Search.run_of_parse parsed, Search.problems_eq_nil_iff.mpr clean]
    rfl
  · rw [Search.run_of_defects clean]
    have some_problem := mt Search.problems_eq_nil_iff.mp clean
    exact (List.isEmpty_eq_false_iff.mpr some_problem).symm

/-- **A service with nothing in store** finds what is there. -/
theorem search_of_new {ν : Type} [Search.Versions ν] {s : Settings}
    {service after : Search.Service ν} (made : s.service = .ok service) {e : Search.Edition ν}
    {query : String} {result : Search.Result}
    (found : service.search e (.text query) = .ok (result, after)) :
    result = Search.run e.snapshot query := by
  have nothing : ∀ c, service.cache = some c → c.entries = [] := by
    intro c there
    rw [Settings.service] at made
    split at made
    · obtain ⟨cache, some_new, made⟩ := bind_eq_ok.mp made
      obtain ⟨own, new, rfl⟩ := map_eq_ok.mp some_new
      obtain rfl := Except.ok.inj made
      obtain rfl : own = c := Option.some.inj there
      rw [Search.Cache.ofCapacity] at new
      split at new
      · rw [← Except.ok.inj new]
      · cases new
    · obtain rfl := Except.ok.inj made
      cases there
  rw [Search.Service.search] at found
  split at found
  · next c version there _ =>
    obtain ⟨⟨stored, _⟩, searched, found⟩ := bind_eq_ok.mp found
    obtain rfl : stored = result := congrArg Prod.fst (Except.ok.inj found)
    obtain ⟨key, -, searched⟩ := bind_eq_ok.mp searched
    obtain ⟨⟨hit, _⟩, looked_up, searched⟩ := bind_eq_ok.mp searched
    rw [Search.Cache.get, Search.Cache.checked, Search.Cache.find?, nothing c there] at looked_up
    split at looked_up
    · cases looked_up
    · obtain rfl : none = hit := congrArg Prod.fst (Except.ok.inj looked_up)
      obtain ⟨fresh, searched_fresh, searched⟩ := bind_eq_ok.mp searched
      obtain ⟨_, -, searched⟩ := bind_eq_ok.mp searched
      obtain rfl : fresh = stored := congrArg Prod.fst (Except.ok.inj searched)
      exact (Except.ok.inj searched_fresh).symm
  · obtain ⟨fresh, searched, found⟩ := bind_eq_ok.mp found
    obtain rfl : fresh = result := congrArg Prod.fst (Except.ok.inj found)
    exact (Except.ok.inj searched).symm

section

variable (d : Desk (StateM σ))

/-- **A search that succeeds** says whether its query is in order. -/
theorem yields_search (query : String) :
    Yields (d.search query) (· = (problems (tokenize query)).isEmpty) fun _ => True := by
  refine yields_bind fun trades => yields_bind fun output => ?_
  refine (yields_attempt d.settings.service).bind fun service made => ?_
  refine yields_bind fun snapshot => yields_bind fun _ => ?_
  refine (yields_attempt _).bind fun (result, after) found => ?_
  have answer : result.isValid = (problems (tokenize query)).isEmpty := by
    rw [search_of_new made found, isValid_run]
  have presented : Yields (do
      let highlights ← attempt .tags (Search.highlights result.records result.matchingTags)
      let view ← attempt .tags (SearchView.ofResult (some query) result highlights)
      d.present .search output (.search view)
      pure result.isValid) (· = (problems (tokenize query)).isEmpty) fun _ => True :=
    yields_bind fun _ => yields_bind fun _ => yields_bind fun _ => yields_pure answer
  refine yields_bind fun _ => ?_
  dsimp only
  split
  · exact yields_bind fun _ => presented
  · exact presented

/-- **A check of a query** says whether it is in order. -/
theorem answers_validate (query : String) :
    Answers (d.validate query) (· = (problems (tokenize query)).isEmpty) := by
  rw [Desk.validate]
  split
  · next none_found =>
    rw [none_found]
    exact answers_bind fun _ => answers_pure rfl
  · next some_found =>
    have some_problem := List.isEmpty_eq_false_iff.mpr some_found
    exact answers_bind fun _ => answers_bind fun _ => answers_pure some_problem.symm

/-- **A task that succeeds** says whether it has no objection to its query, and a check of a query
succeeds. -/
theorem yields_perform (task : Task) :
    Yields (d.perform task) (· = task.accepts) fun _ => ∀ query, task ≠ .validate query := by
  have other (open_task : ∀ query, task ≠ .validate query)
      (succeeds : Yields (d.perform task) (· = task.accepts) fun _ => True) :
      Yields (d.perform task) (· = task.accepts) fun _ => ∀ query, task ≠ .validate query := by
    intro machine
    have holds := succeeds machine
    revert holds
    cases ((d.perform task).run.run machine).1 with
    | ok accepted => exact id
    | error f => exact fun _ => open_task
  cases task with
  | validate query => exact answers_validate d query
  | search query => exact other nofun (yields_search d query)
  | suggest typed limit =>
    refine other nofun (yields_bind fun _ => yields_bind fun _ => yields_bind fun _ => ?_)
    refine yields_bind fun _ => yields_bind fun _ => yields_bind fun _ => ?_
    exact yields_bind fun _ => yields_bind fun _ => yields_pure rfl
  | tags limit =>
    refine other nofun (yields_bind fun _ => yields_bind fun _ => yields_bind fun _ => ?_)
    exact yields_bind fun _ => yields_pure rfl

end

/-! ### Runs -/

/-- **Whether the task of a run has begun**, or its log could not be made. -/
def Outcome.begun : Outcome → Bool
  | .finished _ | .givenUp | .failed (.log _) => true
  | .helped | .misused _ | .failed (.path _) | .failed (.settings _) => false

/-- **What a task may come to**: it finishes with the answer whether it has no objection to its
query, or it is given up, which no check of a query is, or its log cannot be made. -/
inductive Task.ComesTo (task : Task) : Outcome → Prop
  | finished : ComesTo task (.finished task.accepts)
  | givenUp (other : ∀ query, task ≠ .validate query) : ComesTo task .givenUp
  | unlogged (f : Log.Fault) : ComesTo task (.failed (.log f))

theorem Task.ComesTo.begun {task : Task} {outcome : Outcome} (comes : task.ComesTo outcome) :
    outcome.begun = true := by
  cases comes <;> rfl

theorem answers_complete (d : Desk (StateM σ)) (task : Task) :
    Answers (d.complete task) task.ComesTo := by
  rw [Desk.complete]
  refine Answers.bind (yields_perform d task) fun answer holds => ?_
  cases answer with
  | ok accepted =>
    obtain rfl : accepted = task.accepts := holds
    exact answers_pure .finished
  | error f => exact answers_bind fun _ => answers_bind fun _ => answers_pure (.givenUp holds)

theorem answers_execute (host : Host (StateM σ)) (dates : DateReader) (settings : Settings)
    (task : Task) : Answers (execute host dates settings task) task.ComesTo := by
  rw [execute]
  refine answers_bind fun configured => ?_
  cases configured with
  | error f => exact answers_pure (.unlogged f)
  | ok configured => exact answers_bind fun _ => answers_complete _ task

/-- **What a command line sets**: a task. -/
def LineReader.Sets (lines : LineReader) (words : List String) (task : Task) : Prop :=
  ∃ path journal name rest,
    lines.start words = .ok (.command path journal (.ok (some (name, rest)))) ∧
      lines.task? name rest = .ok (some task)

/-- A path that is at fault ends a run before its task begins. -/
theorem yields_checkPath (host : Host (StateM σ)) (path : String) :
    Yields (checkPath host path) (fun _ => True) (·.begun = false) := by
  have looked : Yields ((host.kindAt path).adapt (Outcome.failed ∘ .path)) (fun _ => True)
      (Outcome.begun · = false) := yields_adapt fun _ => rfl
  rw [checkPath]
  refine looked.bind fun found _ => ?_
  split
  · exact yields_throw rfl
  · exact yields_pure trivial

/-- **A run that begins its task comes to what the task comes to.** -/
theorem answers_run (host : Host (StateM σ)) (readers : Readers) (environment : Option String)
    (words : List String) : Answers (run host readers environment words) fun outcome =>
      outcome.begun = true → ∃ task, readers.lines.Sets words task ∧ task.ComesTo outcome := by
  have early {outcome : Outcome} (ended : outcome.begun = false) :
      Answers (σ := σ) (pure outcome) fun outcome =>
        outcome.begun = true → ∃ task, readers.lines.Sets words task ∧ task.ComesTo outcome :=
    answers_pure fun begun => absurd begun (by simp [ended])
  rw [run]
  split
  · exact early rfl
  · exact early rfl
  · next path journal next started =>
    have paths : Yields (checkPath host path *> journal.forM (checkPath host)) (fun _ => True)
        (·.begun = false) := by
      refine (yields_checkPath host path).bind fun _ _ => ?_
      cases journal with
      | none => exact yields_pure trivial
      | some journal => exact yields_checkPath host journal
    refine Answers.bind paths fun checked ended => ?_
    cases checked with
    | error outcome => exact early ended
    | ok _ =>
      rcases next with f | _ | ⟨name, rest⟩
      · exact early rfl
      · exact early rfl
      · refine answers_bind fun settings => ?_
        rcases settings with f | settings
        · exact early rfl
        · dsimp only
          split
          · exact early rfl
          · exact early rfl
          · next task set =>
            exact fun machine _ => ⟨task, ⟨path, journal, name, rest, started, set⟩,
              answers_execute host readers.dates settings task machine⟩

/-- **A run that finishes has been set a task**, and it is accepted exactly when the task has no
objection to its query. One that is given up has been set a task that is not just a check of a
query. -/
theorem run_finished (host : Host (StateM σ)) (readers : Readers) (environment : Option String)
    (words : List String) (machine : σ) :
    let outcome := ((run host readers environment words).run machine).1
    (∀ accepted, outcome = .finished accepted →
      ∃ task, readers.lines.Sets words task ∧ accepted = task.accepts) ∧
    (outcome = .givenUp →
      ∃ task, readers.lines.Sets words task ∧ ∀ query, task ≠ .validate query) := by
  intro outcome
  have comes : outcome.begun = true →
      ∃ task, readers.lines.Sets words task ∧ task.ComesTo outcome :=
    answers_run host readers environment words machine
  refine ⟨fun accepted finished => ?_, fun given_up => ?_⟩
  · rw [finished] at comes
    obtain ⟨task, set, comes⟩ := comes rfl
    cases comes
    exact ⟨task, set, rfl⟩
  · rw [given_up] at comes
    obtain ⟨task, set, comes⟩ := comes rfl
    cases comes with
    | givenUp other => exact ⟨task, set, other⟩

/-! ### Runs that do not begin -/

/-- Whether a computation leaves every machine as it is. -/
def Keeps (x : StateM σ α) : Prop := ∀ machine, (x.run machine).2 = machine

theorem Keeps.bind {x : StateM σ α} {f : α → StateM σ β} (first : Keeps x)
    (next : ∀ a, Keeps (f a)) : Keeps (x >>= f) :=
  fun machine => (next _ _).trans (first machine)

/-- Whether a run leaves the machine as it is unless its task has begun. -/
def Unbegun (x : StateM σ Outcome) : Prop :=
  ∀ machine, (x.run machine).1.begun = false → (x.run machine).2 = machine

theorem Keeps.unbegun {x : StateM σ α} {f : α → StateM σ Outcome} (first : Keeps x)
    (next : ∀ a, Unbegun (f a)) : Unbegun (x >>= f) :=
  fun machine not_begun => (next _ _ not_begun).trans (first machine)

theorem keeps_bind {x : ExceptT ε (StateM σ) α} {f : α → ExceptT ε (StateM σ) β}
    (first : Keeps x.run) (next : ∀ a, Keeps (f a).run) : Keeps (x >>= f).run := by
  rw [ExceptT.run_bind]
  refine Keeps.bind first fun answer => ?_
  cases answer with
  | ok a => exact next a
  | error e => exact fun _ => rfl

/-- **Whether looking at paths and reading files leaves a machine as it is.** -/
structure ReadsOnly (host : Host (StateM σ)) : Prop where
  kindAt : ∀ path, Keeps (host.kindAt path).run
  readFile : ∀ path, Keeps (host.readFile path).run

/-- The machine in memory is one. -/
theorem readsOnly_memory (coding : Text.HalfCoding) : ReadsOnly (Memory.host coding) := by
  have found {α : Type} (path : String) (f : Memory → Except FileCause α) :
      Keeps (Memory.finding coding path f).run :=
    keeps_bind (fun _ => rfl) fun _ _ => rfl
  exact ⟨fun path => found path _, fun path => found path _⟩

section

variable {host : Host (StateM σ)} (reads : ReadsOnly host)

include reads

theorem keeps_checkPath (path : String) : Keeps (checkPath host path).run := by
  refine keeps_bind (reads.kindAt path) fun found => ?_
  split <;> exact fun _ => rfl

theorem keeps_readMapping (yaml : YamlReader) (path : String) :
    Keeps (Settings.readMapping host yaml path).run :=
  keeps_bind (reads.readFile _) fun _ _ => rfl

theorem keeps_load (yaml : YamlReader) (path : String) (environment : Option String) :
    Keeps (Settings.load host yaml path environment).run :=
  keeps_bind (keeps_readMapping reads yaml path) fun _ _ => rfl

theorem keeps_loadOver (yaml : YamlReader) (path defaults : String) (environment : Option String) :
    Keeps (Settings.loadOver host yaml path defaults environment).run := by
  refine keeps_bind (keeps_readMapping reads yaml defaults) fun base => ?_
  split
  · exact fun _ => rfl
  · exact keeps_bind (keeps_readMapping reads yaml path) fun _ _ => rfl

/-- **Reading settings only reads.** -/
theorem keeps_settingsOf (yaml : YamlReader) (path : String)
    (journal environment : Option String) :
    Keeps (settingsOf host yaml path journal environment).run := by
  rw [settingsOf]
  refine keeps_bind (fun machine => reads.kindAt defaultSettings machine) fun defaults => ?_
  dsimp only
  split
  · exact keeps_bind (keeps_loadOver reads yaml path defaultSettings environment) fun _ _ => rfl
  · exact keeps_bind (keeps_load reads yaml path environment) fun _ _ => rfl

/-- **A run that ends before its task begins leaves the machine as it was.** -/
theorem run_of_not_begun (readers : Readers) (environment : Option String) (words : List String) :
    Unbegun (run host readers environment words) := by
  rw [run]
  split
  · exact fun _ _ => rfl
  · exact fun _ _ => rfl
  · next path journal next started =>
    have paths : Keeps (checkPath host path *> journal.forM (checkPath host)).run := by
      refine keeps_bind (keeps_checkPath reads path) fun _ => ?_
      cases journal with
      | none => exact fun _ => rfl
      | some journal => exact keeps_checkPath reads journal
    refine paths.unbegun fun checked => ?_
    rcases checked with outcome | _
    · exact fun _ _ => rfl
    · rcases next with f | _ | ⟨name, rest⟩
      · exact fun _ _ => rfl
      · exact fun _ _ => rfl
      · refine (keeps_settingsOf reads _ path journal environment).unbegun fun settings => ?_
        rcases settings with f | settings
        · exact fun _ _ => rfl
        · dsimp only
          split
          · exact fun _ _ => rfl
          · exact fun _ _ => rfl
          · next task _ =>
            intro machine not_begun
            have comes := answers_execute host readers.dates settings task machine
            exact absurd comes.begun (by simp [not_begun])

end

end TradeJournal.Command
