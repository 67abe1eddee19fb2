import TradeJournal.Calendar.Reading
import TradeJournal.Search.Snapshot
import TradeJournal.Text.Within

/-!
# Tag statistics

How often each tag of a collection is used, by which records, and when last. The statistics
rank the tags: the more frequent first, of equally frequent ones the more recently used, of
those the one that comes first by name. Recency can also be put before frequency.
-/

namespace TradeJournal

open Search (Snapshot)

/-- **The statistics of one tag**: the number of records that carry it, the date of its last use as
it was written, the identifiers of the records, and the sort value of that date. -/
structure TagStats where
  tag : String
  count : Int
  lastUsed : String
  ids : List String := []
  lastUsedAt : Double
  deriving DecidableEq, Repr

namespace TagStats

/-- Whether one tag was used at the same time as another, as far as that is known. -/
def sameTime (a b : TagStats) : Bool :=
  !a.lastUsedAt.lt b.lastUsedAt && !b.lastUsedAt.lt a.lastUsedAt

/-- **The rank of tags by use**: count, then last use, then name. -/
def rankedBefore (a b : TagStats) : Bool :=
  b.count < a.count || (a.count = b.count &&
    (b.lastUsedAt.lt a.lastUsedAt || (a.sameTime b && a.tag ≤ b.tag)))

/-- **The rank of tags by recency**: last use, then count, then name. -/
def recentBefore (a b : TagStats) : Bool :=
  b.lastUsedAt.lt a.lastUsedAt || (a.sameTime b &&
    (b.count < a.count || (a.count = b.count && a.tag ≤ b.tag)))

end TagStats

/-- **One use of tags**: a record's tags, its date as written and its sort value, and its
identifier. -/
structure TagUse where
  tags : List String
  date : String
  stamp : Double
  id : Option String
  deriving Repr

/-- **Tags with their statistics.** -/
structure TagIndex where
  stats : List TagStats
  deriving Repr

namespace TagIndex

/-- The uses in a collection; records without tags are none, and their dates are not looked at. -/
def uses (dates : DateReader) :
    List (Record × List String) → Except Calendar.Fault (List TagUse)
  | [] => .ok []
  | (r, tags) :: rest =>
    if tags.isEmpty then uses dates rest
    else do
      let stamp ← Calendar.dateSortValue dates r.date
      let others ← uses dates rest
      .ok (⟨tags, r.date, stamp, r.id?⟩ :: others)

/-- The later of two uses; of two at the same time the first one. -/
def later (a b : TagUse) : TagUse := if a.stamp.lt b.stamp then b else a

/-- The statistics of a tag, given a use of it and the uses after that. -/
def statsOf (tag : String) (first : TagUse) (rest : List TagUse) : TagStats :=
  let last := rest.foldl later first
  { tag, count := rest.length + 1, lastUsed := last.date,
    ids := (first :: rest).filterMap (·.id), lastUsedAt := last.stamp }

/-- The statistics of a tag, if it is used. -/
def statsOf? (all : List TagUse) (tag : String) : Option TagStats :=
  match all.filter (tag ∈ ·.tags) with
  | [] => none
  | first :: rest => some (statsOf tag first rest)

/-- **The statistics of a collection.** -/
def ofSnapshot (dates : DateReader) (s : Snapshot) : Except Calendar.Fault TagIndex := do
  let all ← uses dates s.entries
  .ok ⟨(Tag.distinct (all.flatMap (·.tags))).filterMap (statsOf? all)⟩

/-- Statistics that are given; later ones of the same tag replace earlier ones. -/
def ofStats (given : List TagStats) : TagIndex :=
  ⟨(Tag.distinct (given.map (·.tag))).filterMap fun tag => given.reverse.find? (·.tag = tag)⟩

/-- Whether no tag is used. -/
def isEmpty (index : TagIndex) : Bool := index.stats.isEmpty

/-- The first entries of a list; none for a limit that is not positive. -/
def limited {α : Type} (limit : Int) (l : List α) : List α := l.take limit.toNat

/-- All tags by use. -/
def ranked (stats : List TagStats) : List TagStats := stats.mergeSort TagStats.rankedBefore

/-- **The most used tags.** -/
def mostUsed (index : TagIndex) (limit : Int) : List TagStats := limited limit (ranked index.stats)

/-- **The most recently used tags.** -/
def recent (index : TagIndex) (limit : Int) : List TagStats :=
  limited limit (index.stats.mergeSort TagStats.recentBefore)

/-- **The tags in which a text occurs**, by use. -/
def search (index : TagIndex) (text : String) : List TagStats :=
  let needle := Text.lower (Text.trim text.toList)
  ranked (index.stats.filter fun s => Text.occursIn needle s.tag.toList)

/-- Why there are no statistics of a collection. -/
inductive Fault
  | tags (m : Value.Misuse)
  | date (f : Calendar.Fault)
  deriving DecidableEq, Repr

/-- The wording of a fault. -/
def Fault.message : Fault → String
  | .tags m => m.message
  | .date f => f.message

/-- The statistics of records. -/
def ofRecords (dates : DateReader) (records : List Record) : Except Fault TagIndex :=
  match Snapshot.ofRecords records with
  | .error m => .error (.tags m)
  | .ok s =>
    match ofSnapshot dates s with
    | .error f => .error (.date f)
    | .ok index => .ok index

end TagIndex

end TradeJournal
