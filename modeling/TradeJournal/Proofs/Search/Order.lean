import TradeJournal.Calendar.Standard
import TradeJournal.Proofs.Hint.Order

/-!
# Rankings do not depend on order

A journal may list its trades in any order, and a trade its tags. What is proposed and ranked from
them is the same: the tags by use and by recency, the tags in which a text occurs, the completions
of what is being typed, and the hints for a trade. All of these are sorted lists, and each sort
decides between any two of its entries, by their names if by nothing else.
-/

namespace TradeJournal.Search

open Hint (hints hintsFrom fromRules)

/-- **The same completions** from two snapshots of the same records in different orders. -/
theorem Service.suggest_of_shows {dates : DateReader} {records records' : List Record}
    (permuted : records.Perm records') (dated : ∀ r ∈ records, r.tagSet ≠ [] → r.Dated dates)
    {s s' : Snapshot} (shown : s.Shows records) (shown' : s'.Shows records') {ν : Type}
    (service : Service ν) (typed : Value) (limit : Option Int) :
    service.suggest dates s typed limit = service.suggest dates s' typed limit := by
  obtain ⟨index, index', made, made', ranks⟩ :=
    TagIndex.sameRanks_of_shows permuted dated shown shown'
  rw [suggest, suggest, made, made']
  simp only [Completion.suggest_sameRanks ranks]

/-- **Rankings do not depend on the order of the records** nor on the order in which the tags of
each record come, however dates are read. From two orders of records with statistics, the statistics
are of the same tags, with equal counts and last uses; the rankings list the same tags in the same
order; the completions of any text are the same; and so are the hints for any trade, whatever the
rules propose. -/
theorem rankings_independent_of_order (dates : DateReader) (records records' : List Record)
    (permuted : records.Perm records') (index₀ : TagIndex)
    (built : TagIndex.ofRecords dates records = .ok index₀) :
    (∃ own, Snapshot.ofRecords records = .ok own ∧ own.Shows records) ∧
      (∃ own, Snapshot.ofRecords records' = .ok own ∧ own.Shows records') ∧
      ∀ s s' : Snapshot, s.Shows records → s'.Shows records' →
        (∃ index index', TagIndex.ofSnapshot dates s = .ok index ∧
          TagIndex.ofSnapshot dates s' = .ok index' ∧
          (∀ st ∈ index.stats, ∃ st' ∈ index'.stats, st'.tag = st.tag ∧ st'.count = st.count ∧
            st'.lastUsedAt.same st.lastUsedAt = true) ∧
          (∀ st' ∈ index'.stats, ∃ st ∈ index.stats, st.tag = st'.tag ∧ st.count = st'.count ∧
            st.lastUsedAt.same st'.lastUsedAt = true) ∧
          (∀ limit, (index.mostUsed limit).map (·.tag) = (index'.mostUsed limit).map (·.tag)) ∧
          (∀ limit, (index.recent limit).map (·.tag) = (index'.recent limit).map (·.tag)) ∧
          ∀ text, (index.search text).map (·.tag) = (index'.search text).map (·.tag)) ∧
        (∀ (ν : Type) (service : Service ν) (typed : Value) (limit : Option Int),
          service.suggest dates s typed limit = service.suggest dates s' typed limit) ∧
        (∀ proposed current limit,
          hintsFrom proposed current s limit = hintsFrom proposed current s' limit) ∧
        ∀ current limit rules,
          hints current records limit rules =
            hintsFrom (fromRules current rules) current s limit ∧
          hints current records' limit rules =
            hintsFrom (fromRules current rules) current s' limit := by
  obtain ⟨readable, dated, -⟩ := TagIndex.ofRecords_eq_ok built
  have readable' : ∀ r ∈ records', r.Readable := fun r member =>
    readable r (permuted.mem_iff.mpr member)
  have own_shown := Snapshot.shows_full readable
  have own_shown' := Snapshot.shows_full readable'
  refine ⟨⟨_, Snapshot.ofRecords_eq_ok.mpr ⟨readable, rfl⟩, own_shown⟩,
    ⟨_, Snapshot.ofRecords_eq_ok.mpr ⟨readable', rfl⟩, own_shown'⟩,
    fun s s' shown shown' => ⟨?_, ?_, ?_, fun current limit rules => ⟨?_, ?_⟩⟩⟩
  · obtain ⟨index, index', made, made', ranks⟩ :=
      TagIndex.sameRanks_of_shows permuted dated shown shown'
    exact ⟨index, index', made, made', fun _ => ranks.exists_counterpart,
      fun _ => ranks.symm.exists_counterpart, ranks.mostUsed, ranks.mostRecent, ranks.search⟩
  · exact fun ν => Service.suggest_of_shows permuted dated shown shown'
  · exact Hint.hintsFrom_of_shows permuted shown shown'
  · rw [Hint.hints_eq_hintsFrom readable, Hint.hintsFrom_of_shows (.refl _) own_shown shown]
  · rw [Hint.hints_eq_hintsFrom readable', Hint.hintsFrom_of_shows (.refl _) own_shown' shown']

/-- Three records without dates, the last one put first, and the tags of one of them the other way
round: of two tags that are used equally often, the first one by name comes first either way. -/
theorem rankings_independent_of_order_reversed :
    let record (tags : List Value) : Record := .mapping [(.text "tags", .list tags)]
    let records := [record [.text "b"], record [.text "a", .text "c"], record [.text "c"]]
    let records' := [record [.text "c"], record [.text "b"], record [.text "a", .text "c"]]
    let s' : Snapshot := ⟨[(record [.text "c"], ["#c"]), (record [.text "b"], ["#b"]),
      (record [.text "a", .text "c"], ["#c", "#a"])]⟩
    ∃ index₀, TagIndex.ofRecords Calendar.standardDates records = .ok index₀ ∧
      records.Perm records' ∧ s'.Shows records' ∧
      ∃ index', TagIndex.ofSnapshot Calendar.standardDates s' = .ok index' ∧
        (index₀.mostUsed 3).map (·.tag) = (index'.mostUsed 3).map (·.tag) := by
  intro record records records' s'
  obtain ⟨index₀, built⟩ : ∃ index₀, TagIndex.ofRecords Calendar.standardDates records =
      .ok index₀ :=
    ⟨_, rfl⟩
  have permuted : records.Perm records' :=
    ((List.Perm.swap _ _ _).cons _).trans (List.Perm.swap _ _ _)
  have shown' : s'.Shows records' :=
    .cons ⟨rfl, _, rfl, .refl _⟩ (.cons ⟨rfl, _, rfl, .refl _⟩
      (.cons ⟨rfl, ["#a", "#c"], rfl, List.Perm.swap _ _ _⟩ .nil))
  obtain ⟨⟨own, made, shown⟩, -, agree⟩ :=
    rankings_independent_of_order Calendar.standardDates records records' permuted index₀ built
  obtain ⟨⟨index, index', found, found', -, -, ranks, -⟩, -⟩ := agree own s' shown shown'
  have same : index = index₀ := by
    rw [TagIndex.ofRecords, made] at built
    simpa [found] using built
  exact ⟨index₀, built, permuted, shown', index', found', same ▸ ranks 3⟩

end TradeJournal.Search
