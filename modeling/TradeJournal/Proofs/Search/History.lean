import TradeJournal.Proofs.Value.Meaning
import TradeJournal.Search.Cache

/-!
# What has happened to a store

A store is asked for results, given results, and cleared. What it was asked and what it answered
make up its history, latest first, and that is all that the use of a store needs to be described
by: which keys were touched since the store was last cleared, what was last put under a key, and
how often a look-up succeeded. None of these speaks of the entries that the store keeps.

All that a store has to know of keys is that being one key is an equivalence among those that can
be looked up (`LawfulKeyed`). An operation that is refused leaves the store as it was. What else an
operation can do is said once, by `Cache.Performs`.
-/

namespace TradeJournal.Search

/-! ### Keys -/

/-- Whether something can be looked up. -/
def Keyed.Usable {κ : Type} [Keyed κ] (key : κ) : Prop := Keyed.unhashable? key = none

/-- **Keys that can be told apart**: among things that can be looked up, being one key is an
equivalence. -/
class LawfulKeyed (κ : Type) [Keyed κ] : Prop where
  refl {a : κ} (ha : Keyed.Usable a) : Keyed.same a a = true
  symm {a b : κ} (ha : Keyed.Usable a) (hb : Keyed.Usable b) (one : Keyed.same a b = true) :
    Keyed.same b a = true
  trans {a b c : κ} (ha : Keyed.Usable a) (hb : Keyed.Usable b) (hc : Keyed.Usable c)
    (first : Keyed.same a b = true) (second : Keyed.same b c = true) : Keyed.same a c = true

theorem not_same_symm {κ : Type} [Keyed κ] [LawfulKeyed κ] {a b : κ} (ha : Keyed.Usable a)
    (hb : Keyed.Usable b) (distinct : Keyed.same a b = false) : Keyed.same b a = false := by
  by_contra same
  rw [Bool.not_eq_false] at same
  rw [LawfulKeyed.symm hb ha same] at distinct
  cases distinct

theorem usable_value_iff {v : Value} : Keyed.Usable v ↔ v.isHashable = true :=
  Option.isNone_iff_eq_none.symm

/-- Values are keys by what they mean. -/
instance : LawfulKeyed Value where
  refl ha := Value.sameKey_refl (usable_value_iff.mp ha)
  symm ha hb one := Value.sameKey_symm (usable_value_iff.mp ha) (usable_value_iff.mp hb) one
  trans _ hb hc first second :=
    Value.sameKey_trans (usable_value_iff.mp hb) (usable_value_iff.mp hc) first second

/-! ### Operations and answers -/

/-- **What can be asked of a store.** -/
inductive Operation (κ α : Type)
  | get (key : κ)
  | put (key : κ) (result : α)
  | clear

/-- **What a store answers**: a result that it found, that it found none, that it has done what it
was told, or that it cannot. -/
inductive Answer (α : Type)
  | found (result : α)
  | missed
  | done
  | refused (m : Value.Misuse)

variable {κ α : Type} [Keyed κ]

namespace Cache

/-- **Performing an operation.** What is refused leaves the store as it was. -/
def perform (c : Cache κ α) : Operation κ α → Answer α × Cache κ α
  | .get key =>
    match c.get key with
    | .ok (some result, c) => (.found result, c)
    | .ok (none, c) => (.missed, c)
    | .error m => (.refused m, c)
  | .put key result =>
    match c.put key result with
    | .ok c => (.done, c)
    | .error m => (.refused m, c)
  | .clear => (.done, c.clear)

/-- **What an operation can do**, with its conditions. -/
inductive Performs (c : Cache κ α) : Operation κ α → Answer α → Cache κ α → Prop
  /-- A key that is present is found, and its entry becomes the latest. -/
  | found {key : κ} {entry : κ × α} (usable : Keyed.Usable key)
      (present : c.find? key = some entry) :
      Performs c (.get key) (.found entry.2)
        { c with entries := entry :: c.others key, hits := c.hits + 1 }
  /-- Nothing is found under any other key. -/
  | missed {key : κ} (usable : Keyed.Usable key) (absent : c.find? key = none) :
      Performs c (.get key) .missed { c with misses := c.misses + 1 }
  /-- What is put becomes the latest entry, and the oldest ones make room. -/
  | put {key : κ} {result : α} (usable : Keyed.Usable key) :
      Performs c (.put key result) .done { c with entries :=
        ((((c.find? key).map (·.1)).getD key, result) :: c.others key).take c.capacity }
  | clear : Performs c .clear .done c.clear
  | refusedGet {key : κ} {kind : String} (unhashable : Keyed.unhashable? key = some kind) :
      Performs c (.get key) (.refused (.unhashable kind)) c
  | refusedPut {key : κ} {kind : String} {result : α}
      (unhashable : Keyed.unhashable? key = some kind) :
      Performs c (.put key result) (.refused (.unhashable kind)) c

section Steps

variable {c : Cache κ α} {key : κ}

/-- An entry under a key is one of the store, and its key is that key. -/
theorem mem_of_find? {entry : κ × α} (present : c.find? key = some entry) :
    entry ∈ c.entries ∧ Keyed.same entry.1 key = true := by
  rw [find?] at present
  exact ⟨List.mem_of_find?_eq_some present, by simpa using List.find?_some present⟩

theorem mem_others {entry : κ × α} :
    entry ∈ c.others key ↔ entry ∈ c.entries ∧ Keyed.same entry.1 key = false := by
  simp [others]

theorem get_of_present {entry : κ × α} (usable : Keyed.Usable key)
    (present : c.find? key = some entry) :
    c.get key = .ok (some entry.2,
      { c with entries := entry :: c.others key, hits := c.hits + 1 }) := by
  rw [get, checked, usable, present]

theorem get_of_absent (usable : Keyed.Usable key) (absent : c.find? key = none) :
    c.get key = .ok (none, { c with misses := c.misses + 1 }) := by
  rw [get, checked, usable, absent]

theorem put_of_usable (usable : Keyed.Usable key) (result : α) :
    c.put key result = .ok { c with entries :=
      ((((c.find? key).map (·.1)).getD key, result) :: c.others key).take c.capacity } := by
  rw [put, checked, usable]

/-- A key that was not present is stored as it is. -/
theorem put_of_absent (usable : Keyed.Usable key) (absent : c.find? key = none) (result : α) :
    c.put key result = .ok { c with
      entries := ((key, result) :: c.others key).take c.capacity } := by
  rw [put_of_usable usable, absent]
  rfl

end Steps

/-- **The answer of a look-up**: what is stored under the key, or that nothing is. -/
theorem answer_get (c : Cache κ α) {key : κ} (usable : Keyed.Usable key) :
    (∃ entry ∈ c.entries, Keyed.same entry.1 key = true ∧
        (c.perform (.get key)).1 = .found entry.2) ∨
      ((∀ entry ∈ c.entries, Keyed.same entry.1 key = false) ∧
        (c.perform (.get key)).1 = .missed) := by
  cases present : c.find? key with
  | some entry =>
    obtain ⟨member, same⟩ := mem_of_find? present
    refine Or.inl ⟨entry, member, same, ?_⟩
    rw [perform, get_of_present usable present]
  | none =>
    refine Or.inr ⟨fun entry member => ?_, ?_⟩
    · simpa using List.find?_eq_none.mp present entry member
    · rw [perform, get_of_absent usable present]

theorem perform_get_refused (c : Cache κ α) {key : κ} {kind : String}
    (unhashable : Keyed.unhashable? key = some kind) :
    c.perform (.get key) = (.refused (.unhashable kind), c) := by
  simp [perform, get, checked, unhashable]

theorem perform_put_refused (c : Cache κ α) {key : κ} {kind : String}
    (unhashable : Keyed.unhashable? key = some kind) (result : α) :
    c.perform (.put key result) = (.refused (.unhashable kind), c) := by
  simp [perform, put, checked, unhashable]

theorem performs (c : Cache κ α) (op : Operation κ α) :
    c.Performs op (c.perform op).1 (c.perform op).2 := by
  cases op with
  | get key =>
    cases unhashable : Keyed.unhashable? key with
    | some kind =>
      rw [perform_get_refused c unhashable]
      exact .refusedGet unhashable
    | none =>
      cases present : c.find? key with
      | some entry =>
        rw [perform, get_of_present unhashable present]
        exact .found unhashable present
      | none =>
        rw [perform, get_of_absent unhashable present]
        exact .missed unhashable present
  | put key result =>
    cases unhashable : Keyed.unhashable? key with
    | some kind =>
      rw [perform_put_refused c unhashable]
      exact .refusedPut unhashable
    | none =>
      rw [perform, put_of_usable unhashable]
      exact .put unhashable
  | clear => exact .clear

/-- An operation does not change how many entries there is room for. -/
theorem Performs.capacity {c after : Cache κ α} {op : Operation κ α} {answer : Answer α}
    (h : c.Performs op answer after) : after.capacity = c.capacity := by
  cases h <;> rfl

end Cache

/-! ### Histories -/

/-- **What a store was asked and what it answered**, latest first. -/
abbrev History (κ α : Type) := List (Operation κ α × Answer α)

/-- One operation more. -/
def extend (run : History κ α × Cache κ α) (op : Operation κ α) : History κ α × Cache κ α :=
  ((op, (run.2.perform op).1) :: run.1, (run.2.perform op).2)

/-- **What has happened after a number of operations**, and the store that they leave. -/
def Cache.after (c : Cache κ α) (ops : List (Operation κ α)) : History κ α × Cache κ α :=
  ops.foldl extend ([], c)

namespace History

/-- Whether an operation clears the store. -/
def clears : Operation κ α → Bool
  | .clear => true
  | _ => false

/-- What has happened since the store was last cleared. -/
def sinceClear (h : History κ α) : History κ α := h.takeWhile fun event => !clears event.1

/-- The key that is touched when something happens: one that is put, or one that is found. -/
def touchedKey? : Operation κ α × Answer α → Option κ
  | (.put key _, .done) | (.get key, .found _) => some key
  | _ => none

/-- **The keys touched** since the store was last cleared. -/
def touched (h : History κ α) : List κ := h.sinceClear.filterMap touchedKey?

/-- **Each key at its last touch only.** -/
def latest : List κ → List κ
  | [] => []
  | key :: earlier => key :: (latest earlier).filter fun other => !Keyed.same other key

/-- Whether a result was found. -/
def isHit : Operation κ α × Answer α → Bool
  | (_, .found _) => true
  | _ => false

/-- Whether no result was found. -/
def isMiss : Operation κ α × Answer α → Bool
  | (_, .missed) => true
  | _ => false

/-- **Whether a result was the last to be put under a key** since the store was last cleared: it was
put, and nothing has been put under that key after it. -/
def IsLastPut (h : History κ α) (key : κ) (result : α) : Prop :=
  ∃ (later earlier : History κ α) (own : κ),
    h.sinceClear = later ++ (.put own result, .done) :: earlier ∧ Keyed.same own key = true ∧
      ∀ event ∈ later, ∀ k r, event = (.put k r, .done) → Keyed.same k key = false

variable {h : History κ α} {event : Operation κ α × Answer α}

omit [Keyed κ] in
theorem sinceClear_cons (goes_on : clears event.1 = false) :
    sinceClear (event :: h) = event :: h.sinceClear := by
  simp [sinceClear, goes_on]

omit [Keyed κ] in
theorem sinceClear_clear (answer : Answer α) : sinceClear ((.clear, answer) :: h) = [] := rfl

omit [Keyed κ] in
theorem touched_cons (goes_on : clears event.1 = false) :
    touched (event :: h) = (touchedKey? event).toList ++ h.touched := by
  rw [touched, sinceClear_cons goes_on, List.filterMap_cons]
  cases touchedKey? event <;> rfl

/-- What was last put stays so while something else happens. -/
theorem IsLastPut.cons {key : κ} {result : α} (last : h.IsLastPut key result)
    (goes_on : clears event.1 = false)
    (other : ∀ k r, event = (.put k r, .done) → Keyed.same k key = false) :
    IsLastPut (event :: h) key result := by
  obtain ⟨later, earlier, own, whole, one, none_later⟩ := last
  refine ⟨event :: later, earlier, own, ?_, one, List.forall_mem_cons.mpr ⟨other, none_later⟩⟩
  rw [sinceClear_cons goes_on, whole]
  rfl

/-- No key is at its last touch twice. -/
theorem pairwise_latest (keys : List κ) :
    (latest keys).Pairwise fun a b => Keyed.same b a = false := by
  induction keys with
  | nil => exact List.Pairwise.nil
  | cons key earlier ih =>
    rw [latest, List.pairwise_cons]
    refine ⟨fun other member => ?_, ih.filter _⟩
    simpa using (List.mem_filter.mp member).2

theorem mem_of_mem_latest {key : κ} {keys : List κ} (member : key ∈ latest keys) :
    key ∈ keys := by
  induction keys with
  | nil => cases member
  | cons first earlier ih =>
    rcases List.mem_cons.mp member with rfl | kept
    · exact List.mem_cons_self
    · exact List.mem_cons_of_mem _ (ih (List.mem_filter.mp kept).1)

end History

end TradeJournal.Search
