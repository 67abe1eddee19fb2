import TradeJournal.Completion
import TradeJournal.Search.Cache
import TradeJournal.Search.Highlight
import TradeJournal.Search.Result

/-!
# The search service

Searches and completions over one journal, with a store of recent results in front if the
service has one. Results are stored only for editions with a version; the spelling of a
query without the blanks around it and the version together are what a result is stored under.
-/

namespace TradeJournal.Search

/-- **What versions are taken from**: things that may be keys, the texts of queries among them. -/
class Versions (ν : Type) extends Keyed ν where
  /-- A text as a key. -/
  ofText : String → ν

instance : Versions Value where
  ofText := .text

variable {ν : Type}

/-- **What a result is stored under**: a query and the version of an edition. -/
structure Key (ν : Type) where
  query : ν
  version : ν
  deriving Repr

/-- Two such keys are one if their queries are and their versions. -/
instance [Keyed ν] : Keyed (Key ν) where
  same a b := Keyed.same a.query b.query && Keyed.same a.version b.version
  unhashable? k := (Keyed.unhashable? k.query).or (Keyed.unhashable? k.version)

/-- **A search service**: a store of recent results, if any, and how many completions it
gives when it is not told. -/
structure Service (ν : Type) where
  cache : Option (Cache (Key ν) Result) := none
  defaultLimit : Int := 5
  deriving Repr

/-- The text of a query; what says nothing is the empty query. -/
def queryText (query : Value) : Except Value.Misuse String := query.textOr .notText

section

variable [Versions ν]

/-- What a search under a version is stored under: the query has to be a text. -/
def searchKey (version : ν) (query : Value) : Except Value.Misuse (Key ν) :=
  match query with
  | .text s => .ok ⟨Versions.ofText (String.ofList (Text.trim s.toList)), version⟩
  | v => .error (.noOperation v.kind "strip")

end

namespace Service

/-- Searching past the store. -/
def searchFresh (snapshot : Snapshot) (query : Value) : Except Value.Misuse Result := do
  .ok (run snapshot (← queryText query))

variable [Versions ν]

/-- Searching with a store in front. -/
def searchStored (cache : Cache (Key ν) Result) (snapshot : Snapshot) (version : ν)
    (query : Value) :
    Except Value.Misuse (Result × Cache (Key ν) Result) := do
  let key ← searchKey version query
  match ← cache.get key with
  | (some result, cache) => .ok (result, cache)
  | (none, cache) => do
    let result ← searchFresh snapshot query
    .ok (result, ← cache.put key result)

/-- **Searching an edition of a snapshot.** -/
def search (service : Service ν) (edition : Edition ν) (query : Value) :
    Except Value.Misuse (Result × Service ν) :=
  match service.cache, edition.version with
  | some cache, some version => do
    let (result, cache) ← searchStored cache edition.snapshot version query
    .ok (result, { service with cache := some cache })
  | _, _ => do .ok (← searchFresh edition.snapshot query, service)

omit [Versions ν]

/-- **Completing a query** over a snapshot. -/
def suggest (service : Service ν) (dates : DateReader) (snapshot : Snapshot) (typed : Value)
    (limit : Option Int) : Except TagIndex.Fault (List String) :=
  match TagIndex.ofSnapshot dates snapshot with
  | .error f => .error (.date f)
  | .ok index =>
    match Completion.suggest typed index none (limit.getD service.defaultLimit) with
    | .error m => .error (.tags m)
    | .ok completions => .ok completions

end Service

end TradeJournal.Search
