import TradeJournal.Record

/-!
# Snapshots

A snapshot fixes a collection of records together with their tags, so that the tags are
worked out once. An edition of it may carry a version, which can be anything that may be part of a
key; editions whose versions are one key are taken to hold the same records.
-/

namespace TradeJournal.Search

/-- **Records with their tags.** -/
structure Snapshot where
  entries : List (Record × List String)
  deriving Repr

/-- **An edition of a snapshot**, with a version if it has one. -/
structure Edition (ν : Type) where
  snapshot : Snapshot
  version : Option ν
  deriving Repr

namespace Snapshot

/-- Records paired with their tags. -/
def tagged : List Record → Except Value.Misuse (List (Record × List String))
  | [] => .ok []
  | r :: rest => do
    let tags ← r.tags
    let others ← tagged rest
    .ok ((r, tags) :: others)

/-- The snapshot of a collection of records. -/
def ofRecords (records : List Record) : Except Value.Misuse Snapshot := do
  .ok ⟨← tagged records⟩

/-- The records of a snapshot. -/
def records (s : Snapshot) : List Record := s.entries.map (·.1)

/-- The number of records. -/
def size (s : Snapshot) : Nat := s.entries.length

end Snapshot

end TradeJournal.Search
