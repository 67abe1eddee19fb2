import TradeJournal.Value

/-!
# Recent results

A bounded store of results. An entry is touched when it is written and when it is found; the
entries are kept in the order of their last touch, latest first, and the oldest ones make
room. The store counts how often a result was found and how often not.

Results may be stored under anything of which it can be told whether two are one key, and
whether one can be a key at all.
-/

namespace TradeJournal.Search

/-! ### Keys -/

/-- **What results may be stored under.** -/
class Keyed (κ : Type) where
  /-- Whether two keys are one: they are one thing, or they are equal. -/
  same : κ → κ → Bool
  /-- The kind of what keeps something from being a key, if something does. -/
  unhashable? : κ → Option String

instance : Keyed Value where
  same := Value.sameKey
  unhashable? := Value.unhashable?

/-! ### Stores -/

/-- **A store of recent results**, latest first. -/
structure Cache (κ α : Type) where
  capacity : Nat
  entries : List (κ × α)
  hits : Nat
  misses : Nat
  capacity_pos : 0 < capacity
  deriving Repr

/-- Why there is no such store. -/
inductive CacheFault
  | notPositive
  deriving DecidableEq, Repr

/-- The wording of a fault. -/
def CacheFault.message : CacheFault → String
  | .notPositive => "max_entries must be positive"

namespace Cache

variable {κ α : Type}

/-- An empty store for a number of entries. -/
def ofCapacity (capacity : Int) : Except CacheFault (Cache κ α) :=
  if h : 0 < capacity.toNat then .ok ⟨capacity.toNat, [], 0, 0, h⟩ else .error .notPositive

/-- The number of entries. -/
def size (c : Cache κ α) : Nat := c.entries.length

/-- A store without entries and with its counts at zero. -/
def clear (c : Cache κ α) : Cache κ α := { c with entries := [], hits := 0, misses := 0 }

variable [Keyed κ]

/-- The entry under a key. -/
def find? (c : Cache κ α) (key : κ) : Option (κ × α) :=
  c.entries.find? fun entry => Keyed.same entry.1 key

/-- The entries under other keys. -/
def others (c : Cache κ α) (key : κ) : List (κ × α) :=
  c.entries.filter fun entry => !Keyed.same entry.1 key

/-- Lets only keys through that can be looked up. -/
def checked {β : Type} (key : κ) (result : β) : Except Value.Misuse β :=
  match Keyed.unhashable? key with
  | some kind => .error (.unhashable kind)
  | none => .ok result

/-- **Looking a result up.** A result that is found becomes the latest one. -/
def get (c : Cache κ α) (key : κ) : Except Value.Misuse (Option α × Cache κ α) :=
  checked key <|
    match c.find? key with
    | some entry =>
      (some entry.2, { c with entries := entry :: c.others key, hits := c.hits + 1 })
    | none => (none, { c with misses := c.misses + 1 })

/-- **Storing a result** as the latest one. A key that is present stays as it is. -/
def put (c : Cache κ α) (key : κ) (result : α) : Except Value.Misuse (Cache κ α) :=
  let kept := ((c.find? key).map (·.1)).getD key
  checked key { c with entries := ((kept, result) :: c.others key).take c.capacity }

end Cache

end TradeJournal.Search
