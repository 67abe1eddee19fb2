import TradeJournal.Proofs.Search.Transparency

/-!
# A larger store is never worse

Two stores that differ in how many entries they have room for stay comparable as long as they are
asked the same: the keys of the smaller one are among the keys of the larger one, in the same order
and with the same results. What the smaller one finds the larger one then finds as well.

That the keys are among the keys is not enough to go on with. Of two stores with the same latest
keys the larger one might be full and push out a key that the smaller one keeps. But a store only
lacks what it has pushed out, and it stays full from then on, so the number of its entries is known:
it is that of the larger store, as far as there is room (`Cache.Nests.size`).

A service looks a search up and puts its result where nothing was found. Where something was found,
putting it once more would change nothing. So what a service does to its store are look-ups and puts
that do not depend on what the store has room for (`Service.foldl_act`), and services compare as
their stores do.
-/

namespace TradeJournal.Search

/-! ### Lists inside other lists -/

section Lists

variable {α β : Type} {R : α → β → Prop} {small : List α} {large : List β}

theorem exists_of_mem_sublistForall₂ (inside : List.SublistForall₂ R small large) {a : α}
    (member : a ∈ small) : ∃ b ∈ large, R a b := by
  induction inside with
  | nil => cases member
  | cons related _ ih =>
    rcases List.mem_cons.mp member with rfl | later
    · exact ⟨_, List.mem_cons_self, related⟩
    · obtain ⟨b, found, related'⟩ := ih later
      exact ⟨b, List.mem_cons_of_mem _ found, related'⟩
  | cons_right _ ih =>
    obtain ⟨b, found, related⟩ := ih member
    exact ⟨b, List.mem_cons_of_mem _ found, related⟩

theorem length_le_of_sublistForall₂ (inside : List.SublistForall₂ R small large) :
    small.length ≤ large.length := by
  obtain ⟨middle, related, sub⟩ := List.sublistForall₂_iff.mp inside
  exact related.length_eq ▸ sub.length_le

/-- A list inside another one of the same length leaves nothing of it out. -/
theorem exists_of_mem_of_length_eq (inside : List.SublistForall₂ R small large)
    (full : small.length = large.length) {b : β} (member : b ∈ large) : ∃ a ∈ small, R a b := by
  obtain ⟨middle, related, sub⟩ := List.sublistForall₂_iff.mp inside
  obtain rfl : middle = large := sub.eq_of_length (related.length_eq ▸ full)
  obtain ⟨i, i_lt, rfl⟩ := List.mem_iff_getElem.mp member
  have i_lt' : i < small.length := full ▸ i_lt
  exact ⟨small[i], List.getElem_mem i_lt', related.get i_lt' i_lt⟩

theorem sublistForall₂_filter {p : α → Bool} {q : β → Bool} (agree : ∀ a b, R a b → p a = q b)
    (inside : List.SublistForall₂ R small large) :
    List.SublistForall₂ R (small.filter p) (large.filter q) := by
  obtain ⟨middle, related, sub⟩ := List.sublistForall₂_iff.mp inside
  have same : ∀ ⦃a b⦄, R a b → (p a = true ↔ q b = true) := fun a b r => by rw [agree a b r]
  exact List.sublistForall₂_iff.mpr ⟨middle.filter q, List.rel_filter same related, sub.filter q⟩

/-- **Cutting lists off** keeps one inside the other when at least as much is cut off the inner
one. -/
theorem sublistForall₂_take {n m : Nat} (inside : List.SublistForall₂ R small large)
    (cut : large.length - m ≤ small.length - n) :
    List.SublistForall₂ R (small.take n) (large.take m) := by
  induction inside generalizing n m with
  | nil =>
    rw [List.take_nil]
    exact .nil
  | cons related rest ih =>
    have shorter := length_le_of_sublistForall₂ rest
    cases n with
    | zero => exact .nil
    | succ n =>
      cases m with
      | zero =>
        simp only [List.length_cons] at cut
        omega
      | succ m => exact .cons related (ih (by simpa using cut))
  | cons_right rest ih =>
    have shorter := length_le_of_sublistForall₂ rest
    cases m with
    | zero =>
      simp only [List.length_cons] at cut
      cases n with
      | zero => exact .nil
      | succ n => omega
    | succ m => exact .cons_right (ih (by simpa using cut))

/-- Where no two elements have a property, at most one has it. -/
theorem length_filter_le_one {p : α → Bool} {l : List α}
    (single : l.Pairwise fun x y => p x = true → p y = false) : (l.filter p).length ≤ 1 := by
  have kept := single.filter p
  match found : l.filter p with
  | [] | [_] => simp
  | x :: y :: rest =>
    have holds : ∀ z ∈ l.filter p, p z = true := fun z member => (List.mem_filter.mp member).2
    rw [found] at kept holds
    have not_second : p y = false :=
      (List.pairwise_cons.mp kept).1 y (by simp) (holds x (by simp))
    rw [holds y (by simp)] at not_second
    cases not_second

end Lists

/-! ### Entries under one key -/

section Stores

variable {κ α : Type} [Keyed κ] [LawfulKeyed κ]

namespace History.Describes

variable {h : History κ α} {c : Cache κ α} {key : κ} {entry : κ × α}

/-- No two entries are under one key. -/
theorem single_entry (describes : h.Describes c) (usable : Keyed.Usable key) :
    c.entries.Pairwise fun a b => Keyed.same a.1 key = true → Keyed.same b.1 key = false := by
  refine (List.pairwise_map.mp describes.pairwise_keys).imp_of_mem
    fun {a b} member_a member_b other same => ?_
  have usable_a := describes.usable a member_a
  have usable_b := describes.usable b member_b
  by_contra same'
  rw [Bool.not_eq_false] at same'
  obtain ⟨-, -, joined⟩ := Stands.both ⟨usable_a, usable, same⟩ ⟨usable_b, usable, same'⟩
  rw [other.1] at joined
  cases joined

/-- The entry under a key is the only one. -/
theorem filter_of_present (describes : h.Describes c) (usable : Keyed.Usable key)
    (present : c.find? key = some entry) : (c.entries.filter fun e => Keyed.same e.1 key) =
      [entry] := by
  have single := length_filter_le_one (describes.single_entry usable)
  have first : (c.entries.filter fun e => Keyed.same e.1 key).head? = some entry := by
    rw [List.head?_filter]
    exact present
  match found : c.entries.filter (fun e => Keyed.same e.1 key) with
  | [] =>
    rw [found] at first
    cases first
  | [own] =>
    rw [found] at first
    rw [found, Option.some.inj first]
  | _ :: _ :: _ =>
    rw [found] at single
    simp at single

theorem eq_of_present (describes : h.Describes c) (usable : Keyed.Usable key)
    (present : c.find? key = some entry) {other : κ × α} (member : other ∈ c.entries)
    (same : Keyed.same other.1 key = true) : other = entry := by
  have inside : other ∈ c.entries.filter fun e => Keyed.same e.1 key :=
    List.mem_filter.mpr ⟨member, same⟩
  rw [describes.filter_of_present usable present] at inside
  exact List.mem_singleton.mp inside

/-- All entries but the one under a key. -/
theorem length_others (describes : h.Describes c) (usable : Keyed.Usable key)
    (present : c.find? key = some entry) : (c.others key).length + 1 = c.entries.length := by
  have parts := List.length_eq_length_filter_add (l := c.entries) fun e => Keyed.same e.1 key
  rw [describes.filter_of_present usable present, List.length_singleton] at parts
  rw [parts, Nat.add_comm]
  rfl

end History.Describes

namespace Cache

omit [LawfulKeyed κ] in
theorem others_of_absent {c : Cache κ α} {key : κ} (absent : c.find? key = none) :
    c.others key = c.entries := by
  rw [others, List.filter_eq_self]
  intro entry member
  simpa using List.find?_eq_none.mp absent entry member

/-! ### One store inside another -/

/-- An entry of one store and one of another store: the same result under keys that stand for the
same. -/
def SameEntry (a b : κ × α) : Prop := History.Stands a.1 b.1 ∧ a.2 = b.2

/-- **What a smaller store has to do with a larger one** that has been asked the same. -/
structure Nests (small large : Cache κ α) : Prop where
  room : small.capacity ≤ large.capacity
  entries : List.SublistForall₂ SameEntry small.entries large.entries
  /-- The smaller store is full, or it lacks nothing. -/
  size : small.entries.length = min small.capacity large.entries.length
  hits : small.hits ≤ large.hits

namespace Nests

variable {small large : Cache κ α} {h h' : History κ α} {key : κ} {entry entry' : κ × α}

/-- **What the smaller store finds the larger one finds.** -/
theorem present (nests : small.Nests large) (described : h'.Describes large)
    (usable : Keyed.Usable key)
    (found : small.find? key = some entry) :
    ∃ entry', large.find? key = some entry' ∧ SameEntry entry entry' := by
  obtain ⟨member, same⟩ := mem_of_find? found
  obtain ⟨entry', member', stands, equal⟩ := exists_of_mem_sublistForall₂ nests.entries member
  have same' : Keyed.same entry'.1 key = true := (stands.same_iff usable).mp same
  cases found' : large.find? key with
  | none =>
    have other := List.find?_eq_none.mp found' entry' member'
    rw [same'] at other
    exact absurd rfl other
  | some own =>
    obtain rfl := described.eq_of_present usable found' member' same'
    exact ⟨entry', rfl, stands, equal⟩

theorem absent (nests : small.Nests large) (described : h'.Describes large)
    (usable : Keyed.Usable key)
    (missing : large.find? key = none) : small.find? key = none := by
  cases found : small.find? key with
  | none => rfl
  | some entry =>
    obtain ⟨entry', found', -⟩ := nests.present described usable found
    rw [missing] at found'
    cases found'

/-- When only the larger store finds something, the smaller one is full. -/
theorem full (nests : small.Nests large) (usable : Keyed.Usable key)
    (missing : small.find? key = none)
    (found : large.find? key = some entry') : small.entries.length = small.capacity := by
  by_contra not_full
  have size := nests.size
  have complete : small.entries.length = large.entries.length := by omega
  obtain ⟨member', same'⟩ := mem_of_find? found
  obtain ⟨entry, member, stands, -⟩ := exists_of_mem_of_length_eq nests.entries complete member'
  have other := List.find?_eq_none.mp missing entry member
  rw [(stands.same_iff usable).mpr same'] at other
  exact absurd rfl other

theorem others (nests : small.Nests large) (usable : Keyed.Usable key) :
    List.SublistForall₂ SameEntry (small.others key) (large.others key) := by
  refine sublistForall₂_filter (fun a b same => ?_) nests.entries
  rw [Bool.eq_iff_iff.mpr (same.1.same_iff usable)]

/-- A look-up that succeeds in both stores. -/
theorem found (nests : small.Nests large) (describes : h.Describes small)
    (describes' : h'.Describes large) (usable : Keyed.Usable key)
    (found : small.find? key = some entry)
    (found' : large.find? key = some entry') (same : SameEntry entry entry') :
    Nests { small with entries := entry :: small.others key, hits := small.hits + 1 }
      { large with entries := entry' :: large.others key, hits := large.hits + 1 } := by
  have length := describes.length_others usable found
  have length' := describes'.length_others usable found'
  refine ⟨nests.room, .cons same (nests.others usable), ?_, Nat.succ_le_succ nests.hits⟩
  simpa [length, length'] using nests.size

/-- A look-up that succeeds in the larger store only. -/
theorem missed_found (nests : small.Nests large) (describes' : h'.Describes large)
    (usable : Keyed.Usable key) (missing : small.find? key = none)
    (found' : large.find? key = some entry') :
    Nests { small with misses := small.misses + 1 }
      { large with entries := entry' :: large.others key, hits := large.hits + 1 } := by
  have length' := describes'.length_others usable found'
  have rest := nests.others usable
  rw [others_of_absent missing] at rest
  refine ⟨nests.room, .cons_right rest, ?_, Nat.le_succ_of_le nests.hits⟩
  simpa [length'] using nests.size

omit [LawfulKeyed κ] in
/-- A look-up that fails in both stores. -/
theorem missed (nests : small.Nests large) :
    Nests { small with misses := small.misses + 1 } { large with misses := large.misses + 1 } :=
  ⟨nests.room, nests.entries, nests.size, nests.hits⟩

/-- **What is put into both stores.** Where both push an entry out, it is the same one or one that
the smaller store has pushed out before. -/
theorem put (nests : small.Nests large) (describes : h.Describes small)
    (describes' : h'.Describes large) (usable : Keyed.Usable key) (result : α) :
    Nests
      { small with entries := ((((small.find? key).map (·.1)).getD key, result)
          :: small.others key).take small.capacity }
      { large with entries := ((((large.find? key).map (·.1)).getD key, result)
          :: large.others key).take large.capacity } := by
  have size := nests.size
  have room := nests.room
  have bound := describes'.length_entries_le
  -- What becomes of the sizes depends on which of the stores have an entry under the key already.
  obtain ⟨length, cut⟩ : min small.capacity ((small.others key).length + 1)
        = min small.capacity (min large.capacity ((large.others key).length + 1)) ∧
      (large.others key).length + 1 - large.capacity ≤
        (small.others key).length + 1 - small.capacity := by
    cases found' : large.find? key with
    | none =>
      have missing := nests.absent describes' usable found'
      rw [others_of_absent found', others_of_absent missing]
      omega
    | some entry' =>
      have length' := describes'.length_others usable found'
      cases found : small.find? key with
      | none =>
        have full := nests.full usable found found'
        rw [others_of_absent found]
        omega
      | some entry =>
        have length := describes.length_others usable found
        omega
  have own : SameEntry (((small.find? key).map (·.1)).getD key, result)
      (((large.find? key).map (·.1)).getD key, result) :=
    ⟨(describes.stands_kept usable).both (describes'.stands_kept usable), rfl⟩
  have whole : List.SublistForall₂ SameEntry
      ((((small.find? key).map (·.1)).getD key, result) :: small.others key)
      ((((large.find? key).map (·.1)).getD key, result) :: large.others key) :=
    .cons own (nests.others usable)
  refine ⟨room, sublistForall₂_take whole cut, ?_, nests.hits⟩
  simpa using length

omit [LawfulKeyed κ] in
theorem clear (nests : small.Nests large) : small.clear.Nests large.clear :=
  ⟨nests.room, .nil, by simp [Cache.clear], le_refl 0⟩

/-- **One operation more** on both stores. -/
theorem perform (nests : small.Nests large) (describes : h.Describes small)
    (describes' : h'.Describes large) (op : Operation κ α) :
    (small.perform op).2.Nests (large.perform op).2 := by
  cases op with
  | get key =>
    cases unhashable : Keyed.unhashable? key with
    | some kind =>
      rw [perform_get_refused small unhashable, perform_get_refused large unhashable]
      exact nests
    | none =>
      cases found : small.find? key with
      | some entry =>
        obtain ⟨entry', found', same⟩ := nests.present describes' unhashable found
        rw [Cache.perform, Cache.perform, get_of_present unhashable found,
          get_of_present unhashable found']
        exact nests.found describes describes' unhashable found found' same
      | none =>
        rw [Cache.perform, Cache.perform, get_of_absent unhashable found]
        cases found' : large.find? key with
        | some entry' =>
          rw [get_of_present unhashable found']
          exact nests.missed_found describes' unhashable found found'
        | none =>
          rw [get_of_absent unhashable found']
          exact nests.missed
  | put key result =>
    cases unhashable : Keyed.unhashable? key with
    | some kind =>
      rw [perform_put_refused small unhashable, perform_put_refused large unhashable]
      exact nests
    | none =>
      rw [Cache.perform, Cache.perform, put_of_usable unhashable, put_of_usable unhashable]
      exact nests.put describes describes' unhashable result
  | clear => exact nests.clear

/-- **Any number of operations.** -/
theorem run (smaller larger : History κ α × Cache κ α) (nests : smaller.2.Nests larger.2)
    (describes : smaller.1.Describes smaller.2) (describes' : larger.1.Describes larger.2)
    (ops : List (Operation κ α)) :
    (ops.foldl extend smaller).2.Nests (ops.foldl extend larger).2 := by
  induction ops generalizing smaller larger with
  | nil => exact nests
  | cons op rest ih =>
    exact ih (extend smaller op) (extend larger op) (nests.perform describes describes' op)
      (describes.step (smaller.2.performs op)) (describes'.step (larger.2.performs op))

omit [LawfulKeyed κ] in
/-- New stores are inside each other. -/
theorem new {n m : Nat} (positive : 0 < n) (positive' : 0 < m) (larger : n ≤ m) :
    Nests (⟨n, [], 0, 0, positive⟩ : Cache κ α) ⟨m, [], 0, 0, positive'⟩ :=
  ⟨larger, .nil, by simp, le_refl 0⟩

end Nests

/-- **What being no better means**: the keys of a store are among those of another one, in order and
with the same results, the other one finds what this one finds, and has found at least as much. -/
structure NoBetterThan (c other : Cache κ α) : Prop where
  entries : List.SublistForall₂ (fun a b : κ × α => Keyed.same a.1 b.1 = true ∧ a.2 = b.2) c.entries
    other.entries
  finds : ∀ (key : κ) (result : α),
    (c.perform (.get key)).1 = .found result → (other.perform (.get key)).1 = .found result
  hits : c.hits ≤ other.hits

omit [LawfulKeyed κ] in
/-- A look-up finds what is present under a key that can be looked up. -/
theorem answer_eq_found_iff {c : Cache κ α} {key : κ} {result : α} :
    (c.perform (.get key)).1 = .found result ↔
      Keyed.Usable key ∧ ∃ entry, c.find? key = some entry ∧ entry.2 = result := by
  cases unhashable : Keyed.unhashable? key with
  | some kind => simp [perform_get_refused c unhashable, Keyed.Usable, unhashable]
  | none =>
    cases present : c.find? key with
    | some entry => simp [perform, get_of_present unhashable present, Keyed.Usable, unhashable]
    | none => simp [perform, get_of_absent unhashable present]

theorem Nests.noBetterThan {small large : Cache κ α} {h' : History κ α} (nests : small.Nests large)
    (describes' : h'.Describes large) : small.NoBetterThan large := by
  refine ⟨?_, fun key result found => ?_, nests.hits⟩
  · obtain ⟨middle, related, sub⟩ := List.sublistForall₂_iff.mp nests.entries
    exact List.sublistForall₂_iff.mpr
      ⟨middle, related.imp fun _ _ same => ⟨same.1.2.2, same.2⟩, sub⟩
  · obtain ⟨usable, entry, present, rfl⟩ := answer_eq_found_iff.mp found
    obtain ⟨entry', present', same⟩ := nests.present describes' usable present
    exact answer_eq_found_iff.mpr ⟨usable, entry', present', same.2.symm⟩

/-- **New stores that are asked the same.** -/
theorem noBetterThan_after {n m : Nat} (positive : 0 < n) (positive' : 0 < m) (larger : n ≤ m)
    (ops : List (Operation κ α)) :
    ((⟨n, [], 0, 0, positive⟩ : Cache κ α).after ops).2.NoBetterThan
      ((⟨m, [], 0, 0, positive'⟩ : Cache κ α).after ops).2 := by
  have described : History.Describes ([] : History κ α) _ := History.Describes.new n positive
  have described' : History.Describes ([] : History κ α) _ := History.Describes.new m positive'
  have nests := (Nests.new positive positive' larger).run ([], _) ([], _) described described' ops
  exact nests.noBetterThan (History.Describes.run ([], _) described' ops)

/-! ### What a service does to its store -/

/-- Operations on a store, one after the other. -/
def performAll (c : Cache κ α) (ops : List (Operation κ α)) : Cache κ α :=
  ops.foldl (fun c op => (c.perform op).2) c

omit [LawfulKeyed κ] in
theorem foldl_extend_snd (run : History κ α × Cache κ α) (ops : List (Operation κ α)) :
    (ops.foldl extend run).2 = run.2.performAll ops := by
  induction ops generalizing run with
  | nil => rfl
  | cons op rest ih => exact ih (extend run op)

/-- Putting a result that has just been found changes nothing. -/
theorem put_found {c : Cache κ α} {h : History κ α} (describes : h.Describes c) {key : κ}
    {entry : κ × α} (usable : Keyed.Usable key) (present : c.find? key = some entry) :
    let found : Cache κ α := { c with entries := entry :: c.others key, hits := c.hits + 1 }
    found.perform (.put key entry.2) = (.done, found) := by
  intro found
  obtain ⟨-, same⟩ := mem_of_find? present
  have first : found.find? key = some entry := List.find?_cons_of_pos same
  have rest : found.others key = c.others key := by
    change (entry :: c.others key).filter _ = _
    rw [List.filter_cons_of_neg (by simp [same]), others, List.filter_filter]
    simp
  have fits : (entry :: c.others key).length ≤ c.capacity := by
    rw [List.length_cons, describes.length_others usable present]
    exact describes.length_entries_le
  rw [perform, put_of_usable usable, first, rest]
  simp [found, List.take_of_length_le fits]

omit [LawfulKeyed κ] in
/-- What a look-up and a put add to the count of successes is what the look-up adds. -/
theorem hits_performAll_search {c : Cache κ α} {key : κ} {result : α} :
    c.hits < (c.performAll [.get key, .put key result]).hits ↔
      ∃ found, (c.perform (.get key)).1 = .found found := by
  have put_keeps : ∀ c : Cache κ α, (c.perform (.put key result)).2.hits = c.hits := by
    intro c
    rw [perform]
    cases unhashable : Keyed.unhashable? key with
    | some kind => simp [put, checked, unhashable]
    | none => rw [put_of_usable unhashable]
  simp only [performAll, List.foldl_cons, List.foldl_nil, put_keeps]
  cases unhashable : Keyed.unhashable? key with
  | some kind => simp [perform_get_refused c unhashable]
  | none =>
    cases present : c.find? key with
    | some entry => simp [perform, get_of_present unhashable present]
    | none => simp [perform, get_of_absent unhashable present]

end Cache

end Stores

section Services

variable {ν : Type} [Versions ν]

/-- **What an action asks of the store of a service.** A search of an edition with a version looks
its result up and puts it, and a search of anything else asks nothing. -/
def Action.operations : Action ν → List (Operation (Key ν) Result)
  | .search (.edition ⟨s, some version⟩) query =>
    [.get (storedKey version query), .put (storedKey version query) (run s query)]
  | .search _ _ => []
  | .get key => [.get key]
  | .clear => [.clear]

/-- A search of what has no version leaves a service as it is. -/
theorem Service.act_search_of_unversioned (service : Service ν) {source : Source ν} {query : String}
    (unversioned : ∀ e, source.made = .ok e → e.version = none) :
    service.act (.search source query) = service := by
  rw [act, searchSource]
  cases made : source.made with
  | error m => rfl
  | ok e =>
    obtain ⟨s, version⟩ := e
    obtain rfl : version = none := unversioned _ made
    simp only [bind, Except.bind, service.search_unversioned]

variable [LawfulVersions ν] {used : List (Snapshot × ν)} {c : Cache (Key ν) Result}
  {h : History (Key ν) Result}

/-- **A search with a store in front** does to the store what a look-up and a put do. -/
theorem Cache.Holds.searchStored_eq (holds : c.Holds used) (faithful : Faithful used)
    (describes : h.Describes c) {s : Snapshot} {version : ν} (known : (s, version) ∈ used)
    (query : String) :
    Service.searchStored c s version (.text query) = .ok (run s query, c.performAll
      [.get (storedKey version query), .put (storedKey version query) (run s query)]) := by
  have usable := faithful.usable _ known
  have usable_key := usable_storedKey usable query
  cases present : c.find? (storedKey version query) with
  | some entry =>
    have looked_up : (c.perform (.get (storedKey version query))).2 =
        { c with entries := entry :: c.others (storedKey version query), hits := c.hits + 1 } := by
      rw [perform, get_of_present usable_key present]
    have right := holds.found faithful known present
    have again := put_found describes usable_key present
    rw [searchStored_of_present usable present, right]
    rw [right] at again
    simp only [performAll, List.foldl_cons, List.foldl_nil, looked_up, again]
  | none =>
    have looked_up : (c.perform (.get (storedKey version query))).2 =
        { c with misses := c.misses + 1 } := by
      rw [perform, get_of_absent usable_key present]
    have stored := put_of_absent (c := { c with misses := c.misses + 1 }) usable_key present
      (run s query)
    rw [searchStored_of_absent usable present]
    simp only [performAll, List.foldl_cons, List.foldl_nil, looked_up]
    rw [perform, stored]
    rfl

namespace Service

/-- **One action** is what it asks of the store. -/
theorem act_eq (holds : c.Holds used) (faithful : Faithful used) (describes : h.Describes c)
    (limit : Int) {action : Action ν} (known : ∀ u ∈ versioned [action], u ∈ used) :
    act ⟨some c, limit⟩ action = ⟨some (c.performAll action.operations), limit⟩ := by
  cases action with
  | get key => rfl
  | clear => rfl
  | search source query =>
    cases source with
    | records rs =>
      refine act_search_of_unversioned _ fun e made => ?_
      obtain ⟨s, -, made⟩ := bind_eq_ok.mp made
      obtain rfl := Except.ok.inj made
      rfl
    | edition e =>
      obtain ⟨s, version⟩ := e
      cases version with
      | none =>
        refine act_search_of_unversioned _ fun e made => ?_
        obtain rfl : ⟨s, none⟩ = e := Except.ok.inj made
        rfl
      | some version =>
        have searched := holds.searchStored_eq faithful describes
          (known (s, version) List.mem_cons_self) query
        simp only [act, searchSource, Source.made, search, bind, Except.bind, searched]
        rfl

/-- **Any number of actions** are what they ask of the store. -/
theorem foldl_act (run : History (Key ν) Result × Cache (Key ν) Result) (holds : run.2.Holds used)
    (faithful : Faithful used) (describes : run.1.Describes run.2) (limit : Int)
    {actions : List (Action ν)} (known : ∀ u ∈ versioned actions, u ∈ used) :
    actions.foldl act ⟨some run.2, limit⟩
      = ⟨some ((actions.flatMap Action.operations).foldl extend run).2, limit⟩ := by
  induction actions generalizing run with
  | nil => rfl
  | cons action rest ih =>
    rw [versioned_cons] at known
    have first : ∀ u ∈ versioned [action], u ∈ used := fun u now =>
      known u (List.mem_append_left _ now)
    have later : ∀ u ∈ versioned rest, u ∈ used := fun u after =>
      known u (List.mem_append_right _ after)
    have acted := act_eq holds faithful describes limit first
    rw [← Cache.foldl_extend_snd] at acted
    have start : Service.Holds used ⟨some run.2, limit⟩ := by
      intro c own
      obtain rfl := Option.some.inj own
      exact holds
    have kept := start.act faithful first
    rw [acted] at kept
    rw [List.foldl_cons, acted, List.flatMap_cons, List.foldl_append]
    exact ih _ (kept _ rfl) (History.Describes.run run describes action.operations) later

omit [LawfulVersions ν] in
/-- **Whether a search finds its result in the store**, which then counts one success more. -/
def FindsStored (service : Service ν) (source : Source ν) (query : String) : Prop :=
  ∃ before after, service.cache = some before ∧
    (service.act (.search source query)).cache = some after ∧ before.hits < after.hits

end Service

omit [LawfulVersions ν] in
/-- A search that is found is found in a store that is no worse. -/
theorem Cache.NoBetterThan.hits_search {other : Cache (Key ν) Result}
    (noBetter : c.NoBetterThan other) {source : Source ν} {query : String}
    (found : c.hits < (c.performAll (Action.search source query).operations).hits) :
    other.hits < (other.performAll (Action.search source query).operations).hits := by
  match source with
  | .records rs => exact absurd found (lt_irrefl _)
  | .edition ⟨s, none⟩ => exact absurd found (lt_irrefl _)
  | .edition ⟨s, some version⟩ =>
    obtain ⟨result, looked_up⟩ := Cache.hits_performAll_search.mp found
    exact Cache.hits_performAll_search.mpr ⟨result, noBetter.finds _ _ looked_up⟩

/-- **A larger store is never worse.** Whatever two new stores are asked, the keys of the smaller
one are among those of the larger one, in order and with the same results, and the larger one finds
what the smaller one finds. This is so as well for the stores of two services of which the same is
asked, if versions that are one key are versions of the same records with the same tags, and a
search that one of the services finds in the smaller store is found in the larger one by the
other. -/
theorem larger_store_never_worse (n m : Int) (positive : 0 < n) (larger : n ≤ m) :
    (∀ (κ α : Type) [Keyed κ] [LawfulKeyed κ], ∃ small large : Cache κ α,
      Cache.ofCapacity n = .ok small ∧ Cache.ofCapacity m = .ok large ∧
      ∀ ops : List (Operation κ α), (small.after ops).2.NoBetterThan (large.after ops).2) ∧
    ∀ (ν : Type) [Versions ν] [LawfulVersions ν], ∃ small large : Cache (Key ν) Result,
      Cache.ofCapacity n = .ok small ∧ Cache.ofCapacity m = .ok large ∧
      ∀ (limit : Int) (actions : List (Action ν)), Faithful (versioned actions) →
        (∃ after after', actions.foldl Service.act ⟨some small, limit⟩ = ⟨some after, limit⟩ ∧
          actions.foldl Service.act ⟨some large, limit⟩ = ⟨some after', limit⟩ ∧
          after.NoBetterThan after') ∧
        ∀ (before rest : List (Action ν)) (source : Source ν) (query : String),
          actions = before ++ .search source query :: rest →
          (before.foldl Service.act ⟨some small, limit⟩).FindsStored source query →
          (before.foldl Service.act ⟨some large, limit⟩).FindsStored source query := by
  have positive' : 0 < n.toNat := by omega
  have positive'' : 0 < m.toNat := by omega
  have larger' : n.toNat ≤ m.toNat := by omega
  refine ⟨fun κ α _ _ => ⟨_, _, Cache.ofCapacity_of_pos positive,
      Cache.ofCapacity_of_pos (by omega), fun ops =>
        Cache.noBetterThan_after positive' positive'' larger' ops⟩,
    fun ν _ _ => ⟨_, _, Cache.ofCapacity_of_pos positive, Cache.ofCapacity_of_pos (by omega),
      fun limit actions faithful => ?_⟩⟩
  -- Either service does to its store what the actions ask of it.
  have left (capacity : Nat) (room : 0 < capacity) {asked : List (Action ν)}
      (known : ∀ u ∈ versioned asked, u ∈ versioned actions) :=
    Service.foldl_act ([], ⟨capacity, [], 0, 0, room⟩) (by simp [Cache.Holds]) faithful
      (History.Describes.new capacity room) limit known
  refine ⟨⟨_, _, left _ positive' fun _ => id, left _ positive'' fun _ => id,
    Cache.noBetterThan_after positive' positive'' larger' _⟩, ?_⟩
  rintro before rest source query rfl ⟨c, c', own, own', found⟩
  have known : ∀ u ∈ versioned before, u ∈ versioned (before ++ .search source query :: rest) := by
    rw [versioned_append]
    exact fun u member => List.mem_append_left _ member
  have known' : ∀ u ∈ versioned (before ++ [.search source query]),
      u ∈ versioned (before ++ .search source query :: rest) := by
    rw [List.append_cons before _ rest, versioned_append (before ++ _) rest]
    exact fun u member => List.mem_append_left _ member
  -- The search comes after all that has been asked before it.
  have searched (capacity : Nat) (room : 0 < capacity) :
      ((before.foldl Service.act ⟨some ⟨capacity, [], 0, 0, room⟩, limit⟩).act
        (.search source query)).cache =
        some ((((⟨capacity, [], 0, 0, room⟩ : Cache (Key ν) Result).after
          (before.flatMap Action.operations)).2).performAll
            (Action.search source query).operations) := by
    have whole := left capacity room known'
    rw [List.foldl_append, List.flatMap_append, List.foldl_append, Cache.foldl_extend_snd] at whole
    simpa [Cache.after] using congrArg Service.cache whole
  rw [left _ positive' known] at own
  rw [searched _ positive'] at own'
  obtain rfl := Option.some.inj own
  obtain rfl := Option.some.inj own'
  exact ⟨_, _, congrArg Service.cache (left _ positive'' known), searched _ positive'',
    (Cache.noBetterThan_after positive' positive'' larger' _).hits_search found⟩

end Services

/-- A search that only the larger of two stores finds, after another search has pushed its result
out of the smaller one. -/
theorem larger_store_never_worse_evicting :
    let e : Edition Value := ⟨⟨[(.blank, ["#a"])]⟩, some (.int 1)⟩
    let searches : List (Action Value) :=
      [.search (.edition e) "a", .search (.edition e) "b", .search (.edition e) "a"]
    (0 : Int) < 1 ∧ (1 : Int) ≤ 2 ∧ LawfulVersions Value ∧ Faithful (versioned searches) ∧
      ∃ small large, Cache.ofCapacity 1 = .ok small ∧ Cache.ofCapacity 2 = .ok large ∧
        ∃ after after', searches.foldl Service.act ⟨some small, 5⟩ = ⟨some after, 5⟩ ∧
          searches.foldl Service.act ⟨some large, 5⟩ = ⟨some after', 5⟩ ∧
          after.NoBetterThan after' ∧ after.hits = 0 ∧ after'.hits = 1 := by
  intro e searches
  have used : versioned searches =
      [(e.snapshot, .int 1), (e.snapshot, .int 1), (e.snapshot, .int 1)] := rfl
  have faithful : Faithful (versioned searches) := by
    rw [used]
    exact ⟨by simp [usable_value_iff, Value.isHashable, Value.unhashable?], by simp⟩
  obtain ⟨-, services⟩ := larger_store_never_worse 1 2 (by decide) (by decide)
  obtain ⟨small, large, made, made', services⟩ := services Value
  obtain ⟨⟨after, after', left, left', noBetter⟩, -⟩ := services 5 searches faithful
  obtain rfl := Except.ok.inj made
  obtain rfl := Except.ok.inj made'
  refine ⟨by decide, by decide, inferInstance, faithful, _, _, made, made', after, after', left,
    left', noBetter, ?_, ?_⟩
  · obtain rfl := Option.some.inj (congrArg Service.cache left)
    rfl
  · obtain rfl := Option.some.inj (congrArg Service.cache left')
    rfl

/-- **That equal versions stand for the same is not enough** here either. No two of these versions
are equal, as they are no number. A store for two results keeps the first of the searches, and the
last one finds it there. A store for one has lost it, and keeps the result of the last one. -/
theorem larger_store_worse_of_unequal_versions :
    let first : Edition Value := ⟨⟨[(.blank, ["#x"])]⟩, some (.float .nan)⟩
    let second : Edition Value := ⟨⟨[]⟩, some (.float .nan)⟩
    let searches : List (Action Value) :=
      [.search (.edition first) "x", .search (.edition first) "y", .search (.edition second) "x"]
    (∀ u ∈ versioned searches, Keyed.Usable u.2) ∧
      (∀ u ∈ versioned searches, ∀ u' ∈ versioned searches, u.2.same u'.2 = true → u.1 = u'.1) ∧
      ∃ small large, Cache.ofCapacity 1 = .ok small ∧ Cache.ofCapacity 2 = .ok large ∧
        ∃ after after', searches.foldl Service.act ⟨some small, 5⟩ = ⟨some after, 5⟩ ∧
          searches.foldl Service.act ⟨some large, 5⟩ = ⟨some after', 5⟩ ∧
          ¬after.NoBetterThan after' := by
  intro first second searches
  have used : versioned searches =
      [(first.snapshot, .float .nan), (first.snapshot, .float .nan),
        (second.snapshot, .float .nan)] :=
    rfl
  refine ⟨?_, ?_, ⟨1, [], 0, 0, by decide⟩, ⟨2, [], 0, 0, by decide⟩, rfl, rfl, _, _, rfl, rfl, ?_⟩
  · rw [used]
    simp [usable_value_iff, Value.isHashable, Value.unhashable?]
  · rw [used]
    simp [Value.same, Value.sameLeaf, Double.same]
  · intro noBetter
    have found := noBetter.finds (storedKey (.float .nan) "x") (run second.snapshot "x") rfl
    exact run_tagged_ne_run_nil (Answer.found.inj found)

end TradeJournal.Search
