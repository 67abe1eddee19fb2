import Mathlib.Data.List.Forall2
import TradeJournal.Proofs.Search.History

/-!
# A store keeps the keys touched last

The entries of a store are what its history says they should be: the keys touched since it was last
cleared, each at its last touch, as many of them as there is room for, with the results last put
under them. A key that is pushed out and put again is just another touch, and a look-up that finds
nothing touches nothing.

The one fact on lists that carries this is that a key occurs once among the keys at their last
touch: leaving it out of the first few of them leaves out at most one.
-/

namespace TradeJournal.Search

/-- **Leaving out one element** of a list commutes with cutting the list off, up to that one
place. -/
theorem take_filter_take {α : Type} {p : α → Bool} {l : List α} (n : Nat)
    (single : l.Pairwise fun x y => p x = false → p y = true) :
    ((l.take (n + 1)).filter p).take n = (l.filter p).take n := by
  induction l generalizing n with
  | nil => rfl
  | cons x rest ih =>
    obtain ⟨others, single⟩ := List.pairwise_cons.mp single
    rw [List.take_succ_cons]
    cases kept : p x with
    | true =>
      rw [List.filter_cons_of_pos kept, List.filter_cons_of_pos kept]
      cases n with
      | zero => rfl
      | succ n => rw [List.take_succ_cons, List.take_succ_cons, ih n single]
    | false =>
      -- This is the element that is left out, so nothing after it is.
      have all : ∀ y ∈ rest, p y = true := fun y member => others y member kept
      have all_taken : ∀ y ∈ rest.take n, p y = true :=
        fun y member => all y (List.mem_of_mem_take member)
      rw [List.filter_cons_of_neg (by simp [kept]), List.filter_cons_of_neg (by simp [kept]),
        List.filter_eq_self.mpr all, List.filter_eq_self.mpr all_taken, List.take_take,
          Nat.min_self]

variable {κ α : Type} [Keyed κ]

namespace History

/-- Keys that can be looked up and are one. -/
def Stands (a b : κ) : Prop := Keyed.Usable a ∧ Keyed.Usable b ∧ Keyed.same a b = true

theorem Stands.same_iff [LawfulKeyed κ] {a b key : κ} (stands : Stands a b)
    (usable : Keyed.Usable key) : Keyed.same a key = true ↔ Keyed.same b key = true := by
  obtain ⟨usable_a, usable_b, one⟩ := stands
  exact ⟨LawfulKeyed.trans usable_b usable_a usable (LawfulKeyed.symm usable_a usable_b one),
    LawfulKeyed.trans usable_a usable_b usable one⟩

/-- Keys that stand for one key stand for each other. -/
theorem Stands.both [LawfulKeyed κ] {a b key : κ} (first : Stands a key) (second : Stands b key) :
    Stands a b := by
  obtain ⟨usable_a, usable, same⟩ := first
  obtain ⟨usable_b, -, same'⟩ := second
  exact ⟨usable_a, usable_b,
    LawfulKeyed.trans usable_a usable usable_b same (LawfulKeyed.symm usable_b usable same')⟩

/-- Keys are distinct where those that they stand for are. -/
theorem Stands.distinct [LawfulKeyed κ] {a b x y : κ} (first : Stands a x) (second : Stands b y)
    (distinct : Keyed.same y x = false) : Keyed.same a b = false ∧ Keyed.same b a = false := by
  obtain ⟨usable_a, usable_x, one⟩ := first
  obtain ⟨usable_b, usable_y, one'⟩ := second
  have not_same : Keyed.same b a = false := by
    by_contra same
    rw [Bool.not_eq_false] at same
    have back := LawfulKeyed.symm usable_b usable_y one'
    have same_x : Keyed.same y x = true :=
      LawfulKeyed.trans usable_y usable_a usable_x
        (LawfulKeyed.trans usable_y usable_b usable_a back same) one
    rw [distinct] at same_x
    cases same_x
  exact ⟨not_same_symm usable_b usable_a not_same, not_same⟩

/-- **What a store has to do with its history.** -/
structure Describes (h : History κ α) (c : Cache κ α) : Prop where
  touched_usable : ∀ key ∈ h.touched, Keyed.Usable key
  usable : ∀ entry ∈ c.entries, Keyed.Usable entry.1
  keys : List.Forall₂ Stands (c.entries.map (·.1)) ((latest h.touched).take c.capacity)
  results : ∀ entry ∈ c.entries, h.IsLastPut entry.1 entry.2
  hits : c.hits = h.sinceClear.countP isHit
  misses : c.misses = h.sinceClear.countP isMiss

namespace Describes

variable {h : History κ α} {c : Cache κ α}

section

variable [LawfulKeyed κ]

/-- Among the keys at their last touch at most one is a given key. -/
theorem single (describes : h.Describes c) {key : κ} (usable : Keyed.Usable key) :
    (latest h.touched).Pairwise
      fun a b => (!Keyed.same a key) = false → (!Keyed.same b key) = true := by
  refine (pairwise_latest h.touched).imp_of_mem fun {a b} member_a member_b other same_a => ?_
  have usable_a := describes.touched_usable a (mem_of_mem_latest member_a)
  rw [Bool.not_eq_false'] at same_a
  rw [Bool.not_eq_true']
  by_contra same_b
  rw [Bool.not_eq_false] at same_b
  have usable_b := describes.touched_usable b (mem_of_mem_latest member_b)
  obtain ⟨-, -, same_ba⟩ := Stands.both ⟨usable_b, usable, same_b⟩ ⟨usable_a, usable, same_a⟩
  rw [other] at same_ba
  cases same_ba

/-- The key that an entry bears after something is put stands for the key that was given. -/
theorem stands_kept (describes : h.Describes c) {key : κ} (usable : Keyed.Usable key) :
    Stands (((c.find? key).map (·.1)).getD key) key := by
  cases present : c.find? key with
  | none => exact ⟨usable, usable, LawfulKeyed.refl usable⟩
  | some entry =>
    obtain ⟨member, same⟩ := Cache.mem_of_find? present
    exact ⟨describes.usable entry member, usable, same⟩

/-- What is left of the keys when one of them is left out. -/
theorem keys_others (describes : h.Describes c) {key : κ} (usable : Keyed.Usable key) :
    List.Forall₂ Stands ((c.others key).map (·.1))
      (((latest h.touched).take c.capacity).filter fun other => !Keyed.same other key) := by
  have filtered := List.rel_filter (p := fun k => !Keyed.same k key)
    (q := fun k => !Keyed.same k key)
      (fun a b stands => by simp [← Bool.not_eq_true, stands.same_iff usable]) describes.keys
  rw [List.filter_map] at filtered
  exact filtered

/-- The keys when one of them becomes the latest: the others, up to what there is room for. -/
theorem keys_latest (describes : h.Describes c) {key own : κ} {room : Nat}
    (usable : Keyed.Usable key) (stands : Stands own key) (holds : c.capacity = room + 1) :
    List.Forall₂ Stands (own :: ((c.others key).map (·.1)).take room)
      ((latest (key :: h.touched)).take c.capacity) := by
  have others := List.forall₂_take room (describes.keys_others usable)
  rw [holds, take_filter_take room (describes.single usable)] at others
  rw [holds, latest, List.take_succ_cons]
  exact .cons stands others

end

/-- A store has no more entries than there is room for. -/
theorem length_entries_le (describes : h.Describes c) : c.entries.length ≤ c.capacity := by
  have lengths := describes.keys.length_eq
  rw [List.length_map] at lengths
  rw [lengths]
  exact List.length_take_le _ _

/-- When a key is present, there is room for all entries but its own. -/
theorem length_others_le (describes : h.Describes c) {key : κ} {entry : κ × α} {room : Nat}
    (present : c.find? key = some entry) (holds : c.capacity = room + 1) :
    (c.others key).length ≤ room := by
  obtain ⟨member, same⟩ := Cache.mem_of_find? present
  have fewer : (c.others key).length < c.entries.length :=
    List.length_filter_lt_length_iff_exists.mpr ⟨entry, member, by simp [same]⟩
  have bound := describes.length_entries_le
  omega

section

variable [LawfulKeyed κ]

/-- The keys of a store are distinct. -/
theorem pairwise_keys (describes : h.Describes c) :
    (c.entries.map (·.1)).Pairwise
      fun a b => Keyed.same a b = false ∧ Keyed.same b a = false := by
  have distinct := (pairwise_latest h.touched).take (i := c.capacity)
  obtain ⟨lengths, stands⟩ := List.forall₂_iff_get.mp describes.keys
  rw [List.pairwise_iff_getElem] at distinct ⊢
  intro i j i_lt j_lt less
  exact (stands i i_lt (lengths ▸ i_lt)).distinct (stands j j_lt (lengths ▸ j_lt))
    (distinct i j _ _ less)

/-- **A look-up that succeeds** touches its key. -/
theorem found (describes : h.Describes c) {key : κ} {entry : κ × α} (usable : Keyed.Usable key)
    (present : c.find? key = some entry) :
    Describes ((.get key, .found entry.2) :: h)
      { c with entries := entry :: c.others key, hits := c.hits + 1 } := by
  obtain ⟨member, same⟩ := Cache.mem_of_find? present
  have touched : touched ((.get key, .found entry.2) :: h) = key :: h.touched := touched_cons rfl
  have entries : ∀ e ∈ entry :: c.others key, e ∈ c.entries := by
    intro e inside
    rcases List.mem_cons.mp inside with rfl | other
    · exact member
    · exact (Cache.mem_others.mp other).1
  refine ⟨?_, fun e inside => describes.usable e (entries e inside), ?_, ?_, ?_, ?_⟩
  · rw [touched]
    exact List.forall_mem_cons.mpr ⟨usable, describes.touched_usable⟩
  · obtain ⟨room, holds⟩ := Nat.exists_eq_add_of_lt c.capacity_pos
    rw [Nat.zero_add] at holds
    have own : Stands entry.1 key := ⟨describes.usable entry member, usable, same⟩
    have keys := describes.keys_latest usable own holds
    rw [List.take_of_length_le (by simpa using describes.length_others_le present holds)] at keys
    rw [touched]
    exact keys
  · intro e inside
    exact (describes.results e (entries e inside)).cons rfl (by simp)
  · rw [sinceClear_cons rfl, List.countP_cons_of_pos rfl, describes.hits]
  · rw [sinceClear_cons rfl, List.countP_cons_of_neg (by simp [isMiss]), describes.misses]

omit [LawfulKeyed κ] in
/-- **A look-up that fails** touches nothing. -/
theorem missed (describes : h.Describes c) (key : κ) :
    Describes ((.get key, .missed) :: h) { c with misses := c.misses + 1 } := by
  have touched : touched ((.get key, .missed) :: h) = h.touched := touched_cons rfl
  refine ⟨touched ▸ describes.touched_usable, describes.usable, touched ▸ describes.keys,
    ?_, ?_, ?_⟩
  · intro e inside
    exact (describes.results e inside).cons rfl (by simp)
  · rw [sinceClear_cons rfl, List.countP_cons_of_neg (by simp [isHit]), describes.hits]
  · rw [sinceClear_cons rfl, List.countP_cons_of_pos rfl, describes.misses]

/-- **What is put** touches its key, and its result is now the last under that key. -/
theorem put (describes : h.Describes c) {key : κ} {result : α} (usable : Keyed.Usable key) :
    Describes ((.put key result, .done) :: h)
      { c with entries :=
        ((((c.find? key).map (·.1)).getD key, result) :: c.others key).take c.capacity } := by
  obtain ⟨room, holds⟩ := Nat.exists_eq_add_of_lt c.capacity_pos
  rw [Nat.zero_add] at holds
  have own := describes.stands_kept usable
  generalize ((c.find? key).map (·.1)).getD key = kept at own ⊢
  have touched : touched ((.put key result, .done) :: h) = key :: h.touched := touched_cons rfl
  have entries : ∀ e ∈ ((kept, result) :: c.others key).take c.capacity,
      e = (kept, result) ∨ e ∈ c.entries ∧ Keyed.same e.1 key = false := by
    intro e inside
    rcases List.mem_cons.mp (List.mem_of_mem_take inside) with new | other
    · exact Or.inl new
    · exact Or.inr (Cache.mem_others.mp other)
  refine ⟨?_, ?_, ?_, ?_, ?_, ?_⟩
  · rw [touched]
    exact List.forall_mem_cons.mpr ⟨usable, describes.touched_usable⟩
  · intro e inside
    rcases entries e inside with rfl | ⟨old, -⟩
    · exact own.1
    · exact describes.usable e old
  · have cut : (((kept, result) :: c.others key).take c.capacity).map (·.1)
        = kept :: ((c.others key).map (·.1)).take room := by
      rw [holds, List.take_succ_cons, List.map_cons, List.map_take]
    rw [touched]
    change List.Forall₂ Stands ((((kept, result) :: c.others key).take c.capacity).map (·.1)) _
    rw [cut]
    exact describes.keys_latest usable own holds
  · intro e inside
    rcases entries e inside with rfl | ⟨old, other⟩
    · refine ⟨[], h.sinceClear, key, sinceClear_cons rfl,
        LawfulKeyed.symm own.1 usable own.2.2, ?_⟩
      intro event none_later
      cases none_later
    · refine (describes.results e old).cons rfl fun k r is_put => ?_
      obtain ⟨rfl, -⟩ : key = k ∧ result = r := by simpa using is_put
      exact not_same_symm (describes.usable e old) usable other
  · rw [sinceClear_cons rfl, List.countP_cons_of_neg (by simp [isHit]), describes.hits]
  · rw [sinceClear_cons rfl, List.countP_cons_of_neg (by simp [isMiss]), describes.misses]

omit [LawfulKeyed κ] in
/-- **Clearing** starts a new history. -/
theorem clear (c : Cache κ α) (h : History κ α) (answer : Answer α) :
    Describes ((.clear, answer) :: h) c.clear where
  touched_usable := by simp [touched, sinceClear_clear]
  usable := by simp [Cache.clear]
  keys := by simp [touched, sinceClear_clear, Cache.clear, latest]
  results := by simp [Cache.clear]
  hits := by simp [sinceClear_clear, Cache.clear]
  misses := by simp [sinceClear_clear, Cache.clear]

omit [LawfulKeyed κ] in
/-- **What is refused** does not count. -/
theorem refused (describes : h.Describes c) {op : Operation κ α} {m : Value.Misuse}
    (goes_on : clears op = false) : Describes ((op, .refused m) :: h) c := by
  have untouched : touchedKey? (op, .refused m) = none := by cases op <;> rfl
  have touched : touched ((op, .refused m) :: h) = h.touched := by
    rw [touched_cons goes_on, untouched]
    rfl
  refine ⟨touched ▸ describes.touched_usable, describes.usable, touched ▸ describes.keys,
    ?_, ?_, ?_⟩
  · intro e inside
    exact (describes.results e inside).cons goes_on (by simp)
  · rw [sinceClear_cons goes_on, List.countP_cons_of_neg (by simp [isHit]), describes.hits]
  · rw [sinceClear_cons goes_on, List.countP_cons_of_neg (by simp [isMiss]), describes.misses]

omit [LawfulKeyed κ] in
/-- A new store has no history. -/
theorem new (capacity : Nat) (positive : 0 < capacity) :
    Describes ([] : History κ α) ⟨capacity, [], 0, 0, positive⟩ where
  touched_usable := by simp [touched, sinceClear]
  usable := by simp
  keys := by simp [touched, sinceClear, latest]
  results := by simp
  hits := rfl
  misses := rfl

/-- **One operation more.** -/
theorem step (describes : h.Describes c) {op : Operation κ α} {answer : Answer α}
    {after : Cache κ α} (performs : c.Performs op answer after) :
    Describes ((op, answer) :: h) after := by
  cases performs with
  | found usable present => exact describes.found usable present
  | missed => exact describes.missed _
  | put usable => exact describes.put usable
  | clear => exact clear c h .done
  | refusedGet => exact describes.refused rfl
  | refusedPut => exact describes.refused rfl

/-- **Any number of operations.** -/
theorem run (run : History κ α × Cache κ α) (describes : Describes run.1 run.2)
    (ops : List (Operation κ α)) :
    Describes (ops.foldl extend run).1 (ops.foldl extend run).2 := by
  induction ops generalizing run with
  | nil => exact describes
  | cons op rest ih => exact ih (extend run op) (describes.step (run.2.performs op))

end

end Describes
end History

namespace Cache

theorem capacity_after (c : Cache κ α) (ops : List (Operation κ α)) :
    (c.after ops).2.capacity = c.capacity := by
  have steps (run : History κ α × Cache κ α) : (ops.foldl extend run).2.capacity =
      run.2.capacity := by
    induction ops generalizing run with
    | nil => rfl
    | cons op rest ih => exact (ih (extend run op)).trans (run.2.performs op).capacity
  exact steps ([], c)

omit [Keyed κ] in
theorem ofCapacity_of_pos {capacity : Int} (positive : 0 < capacity) :
    (ofCapacity capacity : Except CacheFault (Cache κ α)) =
      .ok ⟨capacity.toNat, [], 0, 0, by omega⟩ := by
  rw [ofCapacity, dif_pos (by omega)]

end Cache

/-- **A store keeps the keys touched last.** Take results of any kind under keys of any kind that
can be told apart. Whatever a new store is asked, its keys are those touched since it was last
cleared, each at its last touch, latest first, as many as there is room for. They are distinct, each
has the result last put under it, a look-up finds exactly these, the counts are those of look-ups
that succeeded and failed, and what cannot be looked up is refused and changes nothing. -/
theorem entries_are_latest_touched [LawfulKeyed κ] (capacity : Int) (positive : 0 < capacity)
    (ops : List (Operation κ α)) :
    ∃ new, Cache.ofCapacity capacity = .ok new ∧
      ∀ (h : History κ α) (c : Cache κ α), new.after ops = (h, c) →
        List.Forall₂ (fun a b => Keyed.same a b = true) (c.entries.map (·.1))
          ((History.latest h.touched).take capacity.toNat) ∧
        (∀ entry ∈ c.entries, h.IsLastPut entry.1 entry.2) ∧
        (c.entries.map (·.1)).Pairwise
          (fun a b => Keyed.same a b = false ∧ Keyed.same b a = false) ∧
        c.size ≤ capacity.toNat ∧
        c.hits = h.sinceClear.countP History.isHit ∧
        c.misses = h.sinceClear.countP History.isMiss ∧
        (∀ key : κ, Keyed.Usable key →
          (∃ entry ∈ c.entries, Keyed.same entry.1 key = true ∧
            (c.perform (.get key)).1 = .found entry.2) ∨
          ((∀ entry ∈ c.entries, Keyed.same entry.1 key = false) ∧
            (c.perform (.get key)).1 = .missed)) ∧
        ∀ (key : κ) (kind : String), Keyed.unhashable? key = some kind →
          c.perform (.get key) = (.refused (.unhashable kind), c) ∧
          ∀ result, c.perform (.put key result) = (.refused (.unhashable kind), c) := by
  have room : 0 < capacity.toNat := by omega
  refine ⟨_, Cache.ofCapacity_of_pos positive, fun h c left => ?_⟩
  have describes : h.Describes c := by
    have described := History.Describes.run ([], ⟨capacity.toNat, [], 0, 0, room⟩)
      (History.Describes.new capacity.toNat room) ops
    rw [Cache.after] at left
    rw [left] at described
    exact described
  have holds : c.capacity = capacity.toNat := by
    have same_room := Cache.capacity_after ⟨capacity.toNat, [], 0, 0, room⟩ ops
    rw [left] at same_room
    exact same_room
  refine ⟨?_, describes.results, describes.pairwise_keys, ?_, describes.hits, describes.misses,
    fun key usable => c.answer_get usable, ?_⟩
  · rw [← holds]
    exact describes.keys.imp fun _ _ stands => stands.2.2
  · rw [← holds]
    exact describes.length_entries_le
  · intro key kind unhashable
    exact ⟨Cache.perform_get_refused c unhashable,
      fun result => Cache.perform_put_refused c unhashable result⟩

/-- A pair of a text and a number, which is no value of the format itself. -/
def pairKey (s : String) : Value :=
  .foreign ⟨"tuple", true, true, none, "('" ++ s ++ "', 1)", s⟩ (some [.text s, .int 1])

/-- In a store for one result that is kept under pairs, a pair is found until another one is put. A
list is no key. -/
theorem entries_are_latest_touched_evicting :
    let ops : List (Operation Value Nat) :=
      [.put (pairKey "a") 1, .get (pairKey "a"), .put (pairKey "b") 2, .get (pairKey "a")]
    LawfulKeyed Value ∧ (0 : Int) < 1 ∧ ∃ new, Cache.ofCapacity 1 = .ok new ∧
      List.Forall₂ (fun a b => Keyed.same a b = true) ((new.after ops).2.entries.map (·.1))
        [pairKey "b"] ∧
      (new.after ops).2.hits = 1 ∧ (new.after ops).2.misses = 1 ∧
      ((new.after ops).2.perform (.get (.list []))).1 = .refused (.unhashable "list") := by
  intro ops
  obtain ⟨new, made, described⟩ := entries_are_latest_touched 1 (by decide) ops
  obtain rfl := Except.ok.inj made
  obtain ⟨keys, -, -, -, hits, misses, -, refused⟩ := described _ _ rfl
  have unhashable : Keyed.unhashable? (Value.list []) = some "list" := rfl
  exact ⟨inferInstance, by decide, _, made, keys, hits, misses,
    congrArg Prod.fst (refused (.list []) "list" unhashable).1⟩

end TradeJournal.Search
