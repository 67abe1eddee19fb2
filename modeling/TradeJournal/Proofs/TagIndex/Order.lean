import Mathlib.Data.List.Forall2
import TradeJournal.Proofs.TagIndex.Agreement
import TradeJournal.Proofs.TagIndex.Ranking

/-!
# Statistics and the order of records

Neither the order in which the records of a collection come nor the order in which the tags of a
record come has a say in the ranks of tags. The order of the tags of a record leaves the statistics
as they are (`TagIndex.statsOf?_sameUse`): only whether a tag is among them is asked. The order of
the records decides which text a last use has and in which order the identifiers are, and nothing
else: the count of a tag is that of the records that carry it, and its last use is at the latest
time of these records (`TagIndex.statsOf?_perm`).
-/

namespace TradeJournal

/-! ### Records shown in some order -/

namespace Search.Snapshot

/-- **Whether a snapshot shows records**: they are its records, and each one comes with its tags, in
whatever order. -/
def Shows (s : Snapshot) (records : List Record) : Prop :=
  List.Forall₂ (fun entry r => entry.1 = r ∧ ∃ tags, r.tags = .ok tags ∧ entry.2.Perm tags)
    s.entries records

/-- The snapshot that is made of records shows them. -/
theorem shows_full {records : List Record} (readable : ∀ r ∈ records, r.Readable) :
    (full records).Shows records := by
  refine List.forall₂_map_left_iff.mpr (List.forall₂_same.mpr fun r member => ?_)
  exact ⟨rfl, r.tagSet, (readable r member).tags_eq, .refl _⟩

/-- The tags of a record and those it is shown with are the same. -/
theorem Shows.perm {s : Snapshot} {records : List Record} (h : s.Shows records) :
    List.Forall₂ (fun entry r => entry.1 = r ∧ entry.2.Perm r.tagSet) s.entries records := by
  refine h.imp fun entry r ⟨same, tags, worked_out, perm⟩ => ⟨same, ?_⟩
  rwa [Record.tagSet, worked_out]

end Search.Snapshot

namespace TagIndex

open Search (Snapshot)

/-! ### The order of the tags of a record -/

/-- **One use of tags, the tags in some order.** -/
structure SameUse (u u' : TagUse) : Prop where
  tags : u.tags.Perm u'.tags
  date : u.date = u'.date
  stamp : u.stamp = u'.stamp
  id : u.id = u'.id

theorem SameUse.later {a a' b b' : TagUse} (first : SameUse a a') (second : SameUse b b') :
    SameUse (later a b) (later a' b') := by
  rw [TagIndex.later, TagIndex.later, first.stamp, second.stamp]
  split
  · exact second
  · exact first

theorem statsOf_sameUse (tag : String) {first first' : TagUse} {rest rest' : List TagUse}
    (same : SameUse first first') (others : List.Forall₂ SameUse rest rest') :
    statsOf tag first rest = statsOf tag first' rest' := by
  have last : SameUse (rest.foldl later first) (rest'.foldl later first') :=
    List.rel_foldl (fun _ _ one _ _ two => one.later two) same others
  have ids : (first :: rest).map (·.id) = (first' :: rest').map (·.id) := by
    rw [← List.forall₂_eq_eq_eq, List.forall₂_map_left_iff, List.forall₂_map_right_iff]
    exact (List.Forall₂.cons same others).imp fun _ _ one => one.id
  have identified (uses : List TagUse) : uses.filterMap (·.id) =
      (uses.map (·.id)).filterMap id := by
    rw [List.filterMap_map]
    rfl
  rw [statsOf, statsOf, identified, identified, ids, others.length_eq, last.date, last.stamp]

/-- **The statistics of a tag do not depend on the order of tags.** -/
theorem statsOf?_sameUse {all all' : List TagUse} (same : List.Forall₂ SameUse all all')
    (tag : String) : statsOf? all tag = statsOf? all' tag := by
  have carrying : List.Forall₂ SameUse (all.filter (tag ∈ ·.tags))
      (all'.filter (tag ∈ ·.tags)) := by
    refine List.rel_filter (fun u u' one => ?_) same
    simp [one.tags.mem_iff]
  rw [statsOf?, statsOf?]
  generalize all.filter (tag ∈ ·.tags) = carriers at carrying ⊢
  generalize all'.filter (tag ∈ ·.tags) = carriers' at carrying ⊢
  cases carrying with
  | nil => rfl
  | cons one others => exact congrArg some (statsOf_sameUse tag one others)

variable {dates : DateReader}

/-- **The uses in a snapshot** of records are those of the records. -/
theorem uses_of_shows {s : Snapshot} {records : List Record} (shown : s.Shows records)
    (dated : ∀ r ∈ records, r.tagSet ≠ [] → r.Dated dates) :
    ∃ all, uses dates s.entries = .ok all ∧ List.Forall₂ SameUse all (usesOf dates records) := by
  have perm := shown.perm
  generalize s.entries = entries at perm
  clear shown
  induction perm with
  | nil => exact ⟨[], rfl, .nil⟩
  | @cons entry r entries records same _ ih =>
    obtain ⟨own, others⟩ := List.forall_mem_cons.mp dated
    obtain ⟨all, collected, alike⟩ := ih others
    obtain ⟨r', tags⟩ := entry
    obtain ⟨rfl, perm⟩ := same
    rw [uses, usesOf]
    by_cases untagged : r'.tagSet = []
    · rw [untagged] at perm
      obtain rfl := perm.eq_nil
      rw [List.filter_cons_of_neg (by simpa using untagged)]
      exact ⟨all, collected, alike⟩
    · have some_tag : tags.isEmpty = false := by
        rw [List.isEmpty_eq_false_iff]
        rintro rfl
        exact untagged perm.symm.eq_nil
      rw [some_tag, if_neg (by simp), (own untagged).dateSortValue_eq, collected,
        List.filter_cons_of_pos (by simpa using untagged)]
      exact ⟨_, rfl, .cons ⟨perm, rfl, rfl, rfl⟩ alike⟩

/-- **What a snapshot of records has statistics of.** -/
theorem ofSnapshot_of_shows {s : Snapshot} {records : List Record} (shown : s.Shows records)
    (dated : ∀ r ∈ records, r.tagSet ≠ [] → r.Dated dates) :
    ∃ index, ofSnapshot dates s = .ok index ∧ (index.stats.map (·.tag)).Nodup ∧
      ∀ st, st ∈ index.stats ↔ statsOf? (usesOf dates records) st.tag = some st := by
  obtain ⟨all, collected, alike⟩ := uses_of_shows shown dated
  refine ⟨_, bind_eq_ok.mpr ⟨all, collected, rfl⟩, nodup_tags rfl, fun st => ?_⟩
  rw [mem_stats_iff rfl, statsOf?_sameUse alike]

/-! ### The order of the records -/

/-- **The face of the statistics of a tag**: its name, the number of the records that carry it, and
the place of the latest of them. -/
theorem face_of_statsOf (tag : String) {first : Record} {rest : List Record}
    (dated : ∀ r ∈ first :: rest, r.Dated dates) :
    let st := statsOf tag (useOf dates first) (rest.map (useOf dates))
    st.tag = tag ∧ st.count = (first :: rest).length ∧ st.lastUsedAt.IsNumber ∧
      (∀ r ∈ first :: rest, (r.stamp dates).position ≤ st.lastUsedAt.position) ∧
      ∃ r ∈ first :: rest, st.lastUsedAt.position = (r.stamp dates).position := by
  intro st
  obtain ⟨latest, before, r, after, whole, -, stamp, -⟩ := lastUse_of_statsOf tag dated
  have inside : r ∈ first :: rest := by
    rw [whole]
    simp
  refine ⟨rfl, by simp [st, statsOf], Calendar.isNumber_of_dateSortValue stamp, fun q member => ?_,
    r, inside, ?_⟩
  · obtain ⟨x, sorted, at_most⟩ := latest q member
    obtain rfl := Except.ok.inj ((dated q member).dateSortValue_eq.symm.trans sorted)
    exact at_most.position_le
  · exact congrArg Double.position
      (Except.ok.inj (stamp.symm.trans (dated r inside).dateSortValue_eq))

/-- **Statistics of a tag keep their face** when the records come in another order. -/
theorem statsOf?_perm {records records' : List Record} (same : records.Perm records')
    (dated : ∀ r ∈ records, r.tagSet ≠ [] → r.Dated dates) {tag : String} {st : TagStats}
    (found : statsOf? (usesOf dates records) tag = some st) :
    st.lastUsedAt.IsNumber ∧
      ∃ st', statsOf? (usesOf dates records') tag = some st' ∧ st'.face = st.face := by
  have carriers : (carrying tag records).Perm (carrying tag records') := same.filter _
  have carriers_dated : ∀ r ∈ carrying tag records, r.Dated dates := by
    intro r member
    obtain ⟨inside, carries⟩ := List.mem_filter.mp member
    exact dated r inside (List.ne_nil_of_mem (of_decide_eq_true carries))
  cases carried : carrying tag records with
  | nil =>
    rw [statsOf?_of_carrying_nil carried] at found
    cases found
  | cons first rest =>
    rw [statsOf?_of_carrying carried] at found
    obtain rfl := Option.some.inj found
    rw [carried] at carriers carriers_dated
    cases carried' : carrying tag records' with
    | nil =>
      rw [carried'] at carriers
      cases carriers.eq_nil
    | cons first' rest' =>
      rw [carried'] at carriers
      obtain ⟨named, counted, number, latest, r, inside, reached⟩ :=
        face_of_statsOf tag carriers_dated
      obtain ⟨named', counted', -, latest', r', inside', reached'⟩ :=
        face_of_statsOf tag fun q member => carriers_dated q (carriers.mem_iff.mpr member)
      refine ⟨number, _, statsOf?_of_carrying carried', ?_⟩
      simp only [TagStats.face, Prod.mk.injEq]
      refine ⟨rfl, ?_, le_antisymm ?_ ?_⟩
      · rw [counted, counted', carriers.length_eq]
      · rw [reached']
        exact latest r' (carriers.mem_iff.mpr inside')
      · rw [reached]
        exact latest' r (carriers.mem_iff.mp inside)

/-- **The ranks of tags do not depend on the order of the records** nor on the order of their
tags. -/
theorem sameRanks_of_shows {records records' : List Record} (same : records.Perm records')
    (dated : ∀ r ∈ records, r.tagSet ≠ [] → r.Dated dates) {s s' : Snapshot}
    (shown : s.Shows records)
    (shown' : s'.Shows records') :
    ∃ index index', ofSnapshot dates s = .ok index ∧ ofSnapshot dates s' = .ok index' ∧
      SameRanks index.stats index'.stats := by
  have dated' : ∀ r ∈ records', r.tagSet ≠ [] → r.Dated dates := fun r member =>
    dated r (same.mem_iff.mpr member)
  obtain ⟨index, made, nodup, entries⟩ := ofSnapshot_of_shows shown dated
  obtain ⟨index', made', nodup', entries'⟩ := ofSnapshot_of_shows shown' dated'
  have distinct {stats : List TagStats} (nodup : (stats.map (·.tag)).Nodup) :
      (stats.map TagStats.face).Nodup := by
    refine List.Nodup.of_map Prod.fst ?_
    rwa [List.map_map]
  refine ⟨index, index', made, made', ⟨fun st member => ?_, fun st member => ?_, ?_⟩⟩
  · exact (statsOf?_perm same dated ((entries st).mp member)).1
  · exact (statsOf?_perm same.symm dated' ((entries' st).mp member)).1
  · rw [List.perm_ext_iff_of_nodup (distinct nodup) (distinct nodup')]
    -- Each entry has one with the same face in the other list, found under the same name.
    have matched {records records' : List Record} {index index' : TagIndex}
        (same : records.Perm records') (dated : ∀ r ∈ records, r.tagSet ≠ [] → r.Dated dates)
        (entries : ∀ st, st ∈ index.stats ↔ statsOf? (usesOf dates records) st.tag = some st)
        (entries' : ∀ st, st ∈ index'.stats ↔ statsOf? (usesOf dates records') st.tag = some st)
        {f : String × Int × WithBotTop ℚ} (member : f ∈ index.stats.map TagStats.face) :
        f ∈ index'.stats.map TagStats.face := by
      obtain ⟨st, inside, rfl⟩ := List.mem_map.mp member
      obtain ⟨-, st', found, face⟩ := statsOf?_perm same dated ((entries st).mp inside)
      rw [← face]
      refine List.mem_map_of_mem ((entries' st').mpr ?_)
      rw [tag_of_statsOf? found, found]
    exact fun f => ⟨matched same dated entries entries', matched same.symm dated' entries' entries⟩

end TagIndex

end TradeJournal
