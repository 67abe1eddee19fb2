import TradeJournal.Proofs.Search.Outcome
import TradeJournal.Proofs.Search.Recency

/-!
# The store cannot be noticed

A service with a store in front gives the answers of one without. Every entry is the result of a
search of some snapshot with a version, under the query without the blanks around it and under
that version (`Cache.Holds`). Nothing that is done to a service can break that: what is found was
there before, what is put is what was just worked out, and making room or clearing only takes
entries away.

A result that is found is then the right one, because the blanks around a query do not change its
tokens, and because snapshots whose versions are one key are one (`Faithful`). It is not enough that
snapshots with *equal* versions are: what is not a number equals nothing, not even itself, but a
look-up finds what was stored under the very thing that it is given
(`stale_result_of_unequal_versions`).
-/

namespace TradeJournal.Search

/-! ### Versions -/

/-- **Versions that can be told apart**, as can the texts among them. -/
class LawfulVersions (ν : Type) [Versions ν] : Prop extends LawfulKeyed ν where
  usable_ofText (s : String) : Keyed.Usable (Versions.ofText s : ν)
  same_ofText (s t : String) :
    Keyed.same (Versions.ofText s : ν) (Versions.ofText t) = true ↔ s = t

instance : LawfulVersions Value where
  usable_ofText _ := rfl
  same_ofText s t := by
    simp [Keyed.same, Versions.ofText, Value.sameKey, Value.isOneThing, Value.same, Value.sameLeaf]

theorem usable_key_iff {ν : Type} [Keyed ν] {key : Key ν} :
    Keyed.Usable key ↔ Keyed.Usable key.query ∧ Keyed.Usable key.version :=
  Option.or_eq_none_iff

theorem same_key_iff {ν : Type} [Keyed ν] {a b : Key ν} :
    Keyed.same a b = true ↔
      Keyed.same a.query b.query = true ∧ Keyed.same a.version b.version = true :=
  Bool.and_eq_true_iff

/-- Keys that are made of a query and a version can be told apart when versions can. -/
instance {ν : Type} [Keyed ν] [LawfulKeyed ν] : LawfulKeyed (Key ν) where
  refl usable := by
    obtain ⟨query, version⟩ := usable_key_iff.mp usable
    exact same_key_iff.mpr ⟨LawfulKeyed.refl query, LawfulKeyed.refl version⟩
  symm usable_a usable_b one := by
    obtain ⟨query_a, version_a⟩ := usable_key_iff.mp usable_a
    obtain ⟨query_b, version_b⟩ := usable_key_iff.mp usable_b
    obtain ⟨queries, versions⟩ := same_key_iff.mp one
    exact same_key_iff.mpr
      ⟨LawfulKeyed.symm query_a query_b queries, LawfulKeyed.symm version_a version_b versions⟩
  trans usable_a usable_b usable_c first second := by
    obtain ⟨query_a, version_a⟩ := usable_key_iff.mp usable_a
    obtain ⟨query_b, version_b⟩ := usable_key_iff.mp usable_b
    obtain ⟨query_c, version_c⟩ := usable_key_iff.mp usable_c
    obtain ⟨queries, versions⟩ := same_key_iff.mp first
    obtain ⟨queries', versions'⟩ := same_key_iff.mp second
    exact same_key_iff.mpr
      ⟨LawfulKeyed.trans query_a query_b query_c queries queries',
        LawfulKeyed.trans version_a version_b version_c versions versions'⟩

/-! ### What is done to a service -/

/-- The text that a query is stored under. -/
def trimmed (query : String) : String := String.ofList (Text.trim query.toList)

/-- Queries that are stored under one text have the same tokens. -/
theorem tokenize_eq_of_trimmed_eq {query query' : String} (equal : trimmed query = trimmed query') :
    Query.tokenize query = Query.tokenize query' := by
  have equal' : Text.trim query.toList = Text.trim query'.toList := String.ofList_injective equal
  rw [Query.tokenize, Query.tokenize, ← Query.Token.scan_trim query.toList, equal',
    Query.Token.scan_trim]

/-- **A result depends on the tokens of its query.** -/
theorem run_congr {s : Snapshot} {query query' : String}
    (tokens : Query.tokenize query = Query.tokenize query') : run s query = run s query' := by
  simp only [run, tokens]

/-- **What is searched**: an edition of a snapshot, or records that are made into one. -/
inductive Source (ν : Type)
  | edition (e : Edition ν)
  | records (records : List Record)

/-- **What is done to a service**: searching, looking into its store, and clearing it. -/
inductive Action (ν : Type)
  | search (source : Source ν) (query : String)
  | get (key : Key ν)
  | clear

variable {ν : Type}

/-- The edition that is searched. Records have no version. -/
def Source.made : Source ν → Except Value.Misuse (Edition ν)
  | .edition e => .ok e
  | .records rs => do .ok ⟨← Snapshot.ofRecords rs, none⟩

/-- **The snapshots with a version** that are searched, with their versions. -/
def versioned (actions : List (Action ν)) : List (Snapshot × ν) :=
  actions.filterMap fun
    | .search (.edition ⟨s, some version⟩) _ => some (s, version)
    | _ => none

theorem versioned_append (before after : List (Action ν)) :
    versioned (before ++ after) = versioned before ++ versioned after := List.filterMap_append

theorem versioned_cons (action : Action ν) (rest : List (Action ν)) :
    versioned (action :: rest) = versioned [action] ++ versioned rest :=
  versioned_append [action] rest

variable [Versions ν]

/-- **Whether versions stand for what they are versions of**: they can be looked up, and those that
are one key are versions of the same records with the same tags. -/
structure Faithful (used : List (Snapshot × ν)) : Prop where
  usable : ∀ u ∈ used, Keyed.Usable u.2
  same_snapshot : ∀ u ∈ used, ∀ u' ∈ used, Keyed.same u.2 u'.2 = true → u.1 = u'.1

namespace Service

/-- Searching a source, with what becomes of the service. -/
def searchSource (service : Service ν) (source : Source ν) (query : String) :
    Except Value.Misuse (Result × Service ν) := do
  service.search (← source.made) (.text query)

/-- **The outcome of a search.** -/
def outcome (service : Service ν) (source : Source ν) (query : String) :
    Except Value.Misuse Result :=
  (·.1) <$> service.searchSource source query

/-- **What an action makes of a service**; one that fails leaves it as it was. -/
def act (service : Service ν) : Action ν → Service ν
  | .search source query =>
    match service.searchSource source query with
    | .ok (_, after) => after
    | .error _ => service
  | .get key => { service with cache := service.cache.map fun c => (c.perform (.get key)).2 }
  | .clear => { service with cache := service.cache.map Cache.clear }

end Service

/-! ### What is in the store -/

/-- What a search under a version is stored under. -/
def storedKey (version : ν) (query : String) : Key ν := ⟨Versions.ofText (trimmed query), version⟩

/-- **What the entries of a store are**: results of searches of the given snapshots. -/
def Cache.Holds (used : List (Snapshot × ν)) (c : Cache (Key ν) Result) : Prop :=
  ∀ entry ∈ c.entries, ∃ u ∈ used, ∃ query, entry = (storedKey u.2 query, run u.1 query)

/-- Whether the store of a service holds results of searches of the given snapshots, if it has
one. -/
def Service.Holds (used : List (Snapshot × ν)) (service : Service ν) : Prop :=
  ∀ c, service.cache = some c → c.Holds used

variable {used : List (Snapshot × ν)}

theorem Cache.Holds.mono {c after : Cache (Key ν) Result} (holds : c.Holds used)
    (fewer : after.entries ⊆ c.entries) : after.Holds used :=
  fun entry member => holds entry (fewer member)

omit [Versions ν] in
/-- A look-up brings nothing into the store. -/
theorem Cache.Performs.get_subset [Keyed ν] {c after : Cache (Key ν) Result} {key : Key ν}
    {answer : Answer Result} (performs : c.Performs (.get key) answer after) :
    after.entries ⊆ c.entries := by
  cases performs with
  | found usable present =>
    rw [List.cons_subset]
    exact ⟨(Cache.mem_of_find? present).1, List.filter_subset_self _⟩
  | missed => exact List.Subset.refl _
  | refusedGet => exact List.Subset.refl _

section Searching

variable [LawfulVersions ν] {c : Cache (Key ν) Result} {s : Snapshot} {version : ν} {query : String}

theorem usable_storedKey (usable : Keyed.Usable version) (query : String) :
    Keyed.Usable (storedKey version query) :=
  usable_key_iff.mpr ⟨LawfulVersions.usable_ofText _, usable⟩

/-- **What is found is the right result**, if versions stand for what they are versions of. -/
theorem Cache.Holds.found (holds : c.Holds used) (faithful : Faithful used)
    (known : (s, version) ∈ used) {entry : Key ν × Result}
    (present : c.find? (storedKey version query) = some entry) : entry.2 = run s query := by
  obtain ⟨member, same⟩ := Cache.mem_of_find? present
  obtain ⟨u, known', query', rfl⟩ := holds entry member
  obtain ⟨queries, versions⟩ := same_key_iff.mp same
  have texts : trimmed query' = trimmed query := (LawfulVersions.same_ofText _ _).mp queries
  obtain rfl : u.1 = s := faithful.same_snapshot u known' (s, version) known versions
  exact run_congr (tokenize_eq_of_trimmed_eq texts)

/-- A search that is found is not done again. -/
theorem searchStored_of_present {entry : Key ν × Result} (usable : Keyed.Usable version)
    (present : c.find? (storedKey version query) = some entry) :
    Service.searchStored c s version (.text query) = .ok (entry.2,
      { c with entries := entry :: c.others (storedKey version query), hits := c.hits + 1 }) := by
  have looked_up := Cache.get_of_present (usable_storedKey usable query) present
  have key : searchKey version (.text query) = .ok (storedKey version query) := rfl
  rw [Service.searchStored, key]
  simp only [bind, Except.bind, looked_up]

/-- A search that is not found is done and stored. -/
theorem searchStored_of_absent (usable : Keyed.Usable version)
    (absent : c.find? (storedKey version query) = none) :
    Service.searchStored c s version (.text query) = .ok (run s query,
      { c with
        entries := ((storedKey version query, run s query) ::
          c.others (storedKey version query)).take c.capacity,
        misses := c.misses + 1 }) := by
  have usable_key := usable_storedKey usable query
  have looked_up := Cache.get_of_absent usable_key absent
  have stored := Cache.put_of_absent (c := { c with misses := c.misses + 1 }) usable_key absent
  have key : searchKey version (.text query) = .ok (storedKey version query) := rfl
  have fresh : Service.searchFresh s (.text query) = .ok (run s query) := rfl
  rw [Service.searchStored, key]
  simp only [bind, Except.bind, looked_up, fresh, stored]
  rfl

/-- **Searching with a store in front** gives the result of the search, and the store still holds
results of searches. -/
theorem Cache.Holds.searchStored (holds : c.Holds used) (faithful : Faithful used)
    (known : (s, version) ∈ used) (query : String) :
    ∃ after, Service.searchStored c s version (.text query) = .ok (run s query, after) ∧
      after.Holds used := by
  have usable := faithful.usable _ known
  cases present : c.find? (storedKey version query) with
  | some entry =>
    have found := searchStored_of_present (s := s) usable present
    rw [holds.found faithful known present] at found
    exact ⟨_, found, holds.mono
      (Cache.Performs.found (usable_storedKey usable query) present).get_subset⟩
  | none =>
    refine ⟨_, searchStored_of_absent usable present, fun entry member => ?_⟩
    rcases List.mem_cons.mp (List.mem_of_mem_take member) with rfl | other
    · exact ⟨_, known, query, rfl⟩
    · exact holds entry (Cache.mem_others.mp other).1

end Searching

/-! ### Runs -/

namespace Service.Holds

variable [LawfulVersions ν] {service : Service ν}

/-- **Searching an edition** gives the result of the search, whatever the service has stored. -/
theorem search (holds : service.Holds used) (faithful : Faithful used) {e : Edition ν}
    (known : ∀ version, e.version = some version → (e.snapshot, version) ∈ used) (query : String) :
    ∃ after, service.search e (.text query) = .ok (run e.snapshot query, after) ∧
      after.Holds used := by
  obtain ⟨s, version⟩ := e
  cases version with
  | none => exact ⟨service, service.search_unversioned s query, holds⟩
  | some version =>
    obtain ⟨cache, limit⟩ := service
    cases cache with
    | none => exact ⟨_, rfl, holds⟩
    | some c =>
      obtain ⟨after, searched, holds'⟩ :=
        (holds c rfl).searchStored faithful (known version rfl) query
      refine ⟨⟨some after, limit⟩, ?_, fun c' own => ?_⟩
      · simp only [Service.search, searched, bind, Except.bind]
      · obtain rfl := Option.some.inj own
        exact holds'

/-- **Searching anything** has the outcome of a search without a store. -/
theorem searchSource (holds : service.Holds used) (faithful : Faithful used) {source : Source ν}
    (query : String) (known : ∀ u ∈ versioned [.search source query], u ∈ used) (limit : Int) :
    service.outcome source query = Service.outcome ⟨none, limit⟩ source query ∧
      (service.act (.search source query)).Holds used := by
  rw [Service.outcome, Service.outcome, Service.act, Service.searchSource, Service.searchSource]
  cases made : source.made with
  | error m => exact ⟨rfl, holds⟩
  | ok e =>
    have known' : ∀ version, e.version = some version → (e.snapshot, version) ∈ used := by
      intro version own
      cases source with
      | edition e' =>
        obtain rfl : e' = e := Except.ok.inj made
        obtain ⟨s, own_version⟩ := e'
        obtain rfl : own_version = some version := own
        exact known (s, version) List.mem_cons_self
      | records rs =>
        obtain ⟨s, -, unversioned⟩ := bind_eq_ok.mp made
        obtain rfl : ⟨s, none⟩ = e := Except.ok.inj unversioned
        cases own
    obtain ⟨after, searched, holds'⟩ := holds.search faithful known' query
    simp only [bind, Except.bind, searched]
    exact ⟨rfl, holds'⟩

/-- **No action can break what the store holds.** -/
theorem act (holds : service.Holds used) (faithful : Faithful used) {action : Action ν}
    (known : ∀ u ∈ versioned [action], u ∈ used) : (service.act action).Holds used := by
  cases action with
  | search source query => exact (holds.searchSource faithful query known 0).2
  | get key =>
    intro c own
    obtain ⟨c', present, rfl⟩ := Option.map_eq_some_iff.mp own
    exact (holds c' present).mono (c'.performs (.get key)).get_subset
  | clear =>
    intro c own
    obtain ⟨c', -, rfl⟩ := Option.map_eq_some_iff.mp own
    intro entry member
    cases member

theorem run (holds : service.Holds used) (faithful : Faithful used) {actions : List (Action ν)}
    (known : ∀ u ∈ versioned actions, u ∈ used) :
    (actions.foldl Service.act service).Holds used := by
  induction actions generalizing service with
  | nil => exact holds
  | cons action rest ih =>
    rw [versioned_cons] at known
    exact ih (holds.act faithful fun u first => known u (List.mem_append_left _ first))
      fun u later => known u (List.mem_append_right _ later)

end Service.Holds

/-- **The store cannot be noticed.** After any searches, look-ups and clearings every search of a
service with a store, which is empty at first, has the outcome of that search without a store, if
versions that are one key are versions of the same records with the same tags. -/
theorem search_outcome_independent_of_store [LawfulVersions ν] (capacity limit : Int)
    (positive : 0 < capacity) (actions : List (Action ν))
    (faithful : Faithful (versioned actions)) :
    ∃ store, Cache.ofCapacity capacity = .ok store ∧
      ∀ (before after : List (Action ν)) (source : Source ν) (query : String),
        actions = before ++ .search source query :: after →
        (before.foldl Service.act ⟨some store, limit⟩).outcome source query =
          Service.outcome ⟨none, limit⟩ source query := by
  refine ⟨_, Cache.ofCapacity_of_pos positive, fun before after source query whole => ?_⟩
  have parts : versioned actions =
      versioned before ++ (versioned [.search source query] ++ versioned after) := by
    rw [whole, versioned_append, versioned_cons]
  have start : Service.Holds (versioned actions)
      ⟨some ⟨capacity.toNat, [], 0, 0, by omega⟩, limit⟩ := by
    intro c own
    obtain rfl := Option.some.inj own
    intro entry member
    cases member
  have holds : (before.foldl Service.act _).Holds (versioned actions) :=
    start.run faithful fun u first => by
      rw [parts]
      exact List.mem_append_left _ first
  refine (holds.searchSource faithful query (fun u now => ?_) limit).1
  rw [parts]
  exact List.mem_append_right _ (List.mem_append_left _ now)

/-- A query with blanks around it, over a snapshot whose version is one key with that of another
edition: the result that was stored for the other one is the right one. -/
theorem search_outcome_independent_of_store_blanks :
    let s : Snapshot := ⟨[(.blank, ["#a"])]⟩
    let first : Action Value := .search (.edition ⟨s, some (.int 1)⟩) "a"
    let second : Source Value := .edition ⟨s, some (.bool true)⟩
    let actions : List (Action Value) := [first, .clear, first, .search second " a "]
    LawfulVersions Value ∧ Faithful (versioned actions) ∧
      ∃ store, Cache.ofCapacity 1 = .ok store ∧
        ([first, .clear, first].foldl Service.act ⟨some store, 5⟩).outcome second " a " =
          Service.outcome ⟨none, 5⟩ second " a " := by
  intro s first second actions
  have used : versioned actions = [(s, .int 1), (s, .int 1), (s, .bool true)] := rfl
  have faithful : Faithful (versioned actions) := by
    rw [used]
    exact ⟨by simp [usable_value_iff, Value.isHashable, Value.unhashable?], by simp⟩
  obtain ⟨store, made, outcomes⟩ :=
    search_outcome_independent_of_store 1 5 (by decide) actions faithful
  exact ⟨inferInstance, faithful, store, made, outcomes _ [] second " a " rfl⟩

/-- A record that a query asks for is found only where it is. -/
theorem run_tagged_ne_run_nil : run ⟨[(.blank, ["#x"])]⟩ "x" ≠ run ⟨[]⟩ "x" := by
  have parsed : Query.parse (Query.tokenize "x") = .ok (.tag "#x") := by
    have scanned : Query.tokenize "x" = [.tag "#x"] := by decide
    rw [scanned]
    rfl
  rw [run_of_parse parsed, run_of_parse parsed]
  intro same
  cases congrArg Result.records same

/-- **That equal versions stand for the same is not enough.** No two of these versions are equal, as
they are no number. Still the second search finds the result of the first, which has a record that
is not there. -/
theorem stale_result_of_unequal_versions :
    let first : Edition Value := ⟨⟨[(.blank, ["#x"])]⟩, some (.float .nan)⟩
    let second : Edition Value := ⟨⟨[]⟩, some (.float .nan)⟩
    let actions : List (Action Value) :=
      [.search (.edition first) "x", .search (.edition second) "x"]
    (∀ u ∈ versioned actions, Keyed.Usable u.2) ∧
      (∀ u ∈ versioned actions, ∀ u' ∈ versioned actions, u.2.same u'.2 = true → u.1 = u'.1) ∧
      ∃ store, Cache.ofCapacity 2 = .ok store ∧
        (Service.act ⟨some store, 5⟩ (.search (.edition first) "x")).outcome (.edition second) "x" ≠
          Service.outcome ⟨none, 5⟩ (.edition second) "x" := by
  intro first second actions
  have used : versioned actions = [(first.snapshot, .float .nan), (second.snapshot, .float .nan)] :=
    rfl
  refine ⟨?_, ?_, ⟨2, [], 0, 0, by decide⟩, rfl, ?_⟩
  · rw [used]
    simp [usable_value_iff, Value.isHashable, Value.unhashable?]
  · rw [used]
    simp [Value.same, Value.sameLeaf, Double.same]
  · have found : (Service.act ⟨some ⟨2, [], 0, 0, by decide⟩, 5⟩
        (.search (.edition first) "x")).outcome (.edition second) "x" =
          .ok (run first.snapshot "x") :=
      rfl
    have fresh : Service.outcome ⟨none, 5⟩ (.edition second) "x" = .ok (run second.snapshot "x") :=
      rfl
    rw [found, fresh]
    exact fun same => run_tagged_ne_run_nil (Except.ok.inj same)

end TradeJournal.Search
