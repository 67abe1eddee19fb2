import Mathlib.Data.List.Induction
import Mathlib.Order.Bounds.Defs
import TradeJournal.Proofs.Hint.Order

/-!
# The best score of each tag

Several rules may propose a tag for a trade, and similar trades may carry it as well. What is left
of these proposals is one hint for each tag, with the best score and with the origin of the first
proposal that has this score. The rules come before the similar trades here, so similar trades are
the origin only where no rule scores as high.

| Notion | What it says |
|---|---|
| `Rule.Proposes` | the condition of a rule holds and the rule lists a spelling of the tag |
| `IsSimilar` | another trade with enough weight in the fields that it shares with the current one |
| `carriers` | the similar records that carry the tag |
| `scores` | priorities of rules that propose the tag; ten points per carrier if there is one |
| `IsBest` | a hint with the greatest of these scores, and with the origin that has it |

A tag that nothing but a rule of negative priority proposes has a negative score: no carriers give
no points, and not a score of zero (`best_score_below_zero`).
-/

namespace TradeJournal.Hint

/-! ### What speaks for a tag -/

/-- **Whether a rule proposes a tag for a record.** -/
def Rule.Proposes (rule : Rule) (current : Record) (tag : String) : Prop :=
  rule.condition.holds current = .ok true ∧ ∃ typed ∈ rule.tags, Tag.normalize typed = tag

instance (rule : Rule) (current : Record) (tag : String) : Decidable (rule.Proposes current tag) :=
  inferInstanceAs (Decidable (_ ∧ _))

/-- Whether a record has the value that the current one has in a field, null apart. -/
def SharesField (current other : Record) (name : String) : Prop :=
  (current.field name).isNull = false ∧ (other.field name).same (current.field name) = true

instance (current other : Record) (name : String) : Decidable (SharesField current other name) :=
  inferInstanceAs (Decidable (_ ∧ _))

/-- **Whether a record is similar to the current one**: it shares no identifier with it, and the
weights of the fields that it shares with it add up to the threshold. -/
def IsSimilar (current other : Record) : Prop :=
  ¬SharesField current other "id" ∧
    similarityThreshold ≤
      ((weights.filter fun weight => SharesField current other weight.1).map (·.2)).sum

instance (current other : Record) : Decidable (IsSimilar current other) :=
  inferInstanceAs (Decidable (¬SharesField current other "id" ∧ _))

/-- The similar records that carry a tag. -/
def carriers (current : Record) (records : List Record) (tag : String) : List Record :=
  records.filter fun r => IsSimilar current r ∧ tag ∈ r.tagSet

/-- **The scores that speak for a tag.** -/
def scores (current : Record) (records : List Record) (rules : List Rule) (tag : String) :
    Set Int :=
  {score | (∃ rule ∈ rules, rule.Proposes current tag ∧ rule.priority = score) ∨
    carriers current records tag ≠ [] ∧ 10 * (carriers current records tag).length = score}

/-- **The hint with the best score for its tag**, and with the name of the first rule that gives
this score, if any rule does. -/
structure IsBest (current : Record) (records : List Record) (rules : List Rule) (h : Hint) :
    Prop where
  score : IsGreatest (scores current records rules h.tag) h.score
  origin : h.origin =
    ((rules.find? fun rule => rule.Proposes current h.tag ∧ rule.priority = h.score).map
    (·.name)).getD similarOrigin

/-! ### The proposals of rules -/

/-- The proposals of a rule. -/
def Rule.proposals (rule : Rule) (current : Record) : List Hint :=
  if rule.condition.holds current = .ok true then
    rule.tags.map fun typed => ⟨Tag.normalize typed, rule.priority, rule.name⟩
  else []

theorem mem_proposals {rule : Rule} {current : Record} {h : Hint} :
    h ∈ rule.proposals current ↔
      rule.Proposes current h.tag ∧ h.score = rule.priority ∧ h.origin = rule.name := by
  obtain ⟨tag, score, origin⟩ := h
  rw [Rule.proposals, Rule.Proposes]
  split
  · next holds =>
    simp only [List.mem_map, Hint.mk.injEq, holds, true_and]
    constructor
    · rintro ⟨typed, listed, spelt, rfl, rfl⟩
      exact ⟨⟨typed, listed, spelt⟩, rfl, rfl⟩
    · rintro ⟨⟨typed, listed, spelt⟩, rfl, rfl⟩
      exact ⟨typed, listed, spelt, rfl, rfl⟩
  · next fails => simp [fails]

/-- **The proposals of several rules** are those of each rule, one after the other. -/
theorem fromRules_eq_ok {current : Record} {rules : List Rule} {proposed : List Hint}
    (worked_out : fromRules current rules = .ok proposed) :
    proposed = rules.flatMap (·.proposals current) := by
  induction rules generalizing proposed with
  | nil => exact (Except.ok.inj worked_out).symm
  | cons rule rest ih =>
    obtain ⟨holds, own, worked_out⟩ := bind_eq_ok.mp worked_out
    obtain ⟨others, behind, worked_out⟩ := bind_eq_ok.mp worked_out
    rw [← Except.ok.inj worked_out, ih behind, List.flatMap_cons, Rule.proposals, own]
    cases holds <;> rfl

/-- **The first proposal with a tag and a score comes from the first rule** that proposes the tag
with this score. -/
theorem find?_proposals (rules : List Rule) (current : Record) (tag : String) (score : Int) :
    (rules.flatMap (·.proposals current)).find? (fun h => h.tag = tag ∧ h.score = score) =
      (rules.find? fun rule => rule.Proposes current tag ∧ rule.priority = score).map
        fun rule => ⟨tag, score, rule.name⟩ := by
  induction rules with
  | nil => rfl
  | cons rule rest ih =>
    rw [List.flatMap_cons, List.find?_append, ih]
    by_cases proposes : rule.Proposes current tag ∧ rule.priority = score
    · rw [List.find?_cons_of_pos (by simpa using proposes)]
      have own : (⟨tag, score, rule.name⟩ : Hint) ∈ rule.proposals current :=
        mem_proposals.mpr ⟨proposes.1, proposes.2.symm, rfl⟩
      cases first : (rule.proposals current).find? fun h => h.tag = tag ∧ h.score = score with
      | none => exact absurd (List.find?_eq_none.mp first _ own) (by simp)
      | some h =>
        obtain ⟨rfl, rfl⟩ : h.tag = tag ∧ h.score = score := by simpa using List.find?_some first
        obtain ⟨-, -, origin⟩ := mem_proposals.mp (List.mem_of_find?_eq_some first)
        rw [Option.some_or, Option.map_some, ← origin]
    · rw [List.find?_cons_of_neg (by simpa using proposes)]
      have no_own : ((rule.proposals current).find? fun h => h.tag = tag ∧ h.score = score) =
          none := by
        rw [List.find?_eq_none]
        intro h inside fits
        obtain ⟨rfl, rfl⟩ : h.tag = tag ∧ h.score = score := by simpa using fits
        obtain ⟨of_rule, score_eq, -⟩ := mem_proposals.mp inside
        exact proposes ⟨of_rule, score_eq.symm⟩
      rw [no_own, Option.none_or]

/-! ### The proposals of similar trades -/

theorem sharesField_iff {current other : Record} {name : String} :
    SharesField current other name ↔
      (!(current.field name).isNull && (other.field name).same (current.field name)) = true := by
  simp [SharesField]

/-- The weight of what two records have in common is that of the fields that they share. -/
theorem similarity_eq (current other : Record) :
    similarity current other =
      ((weights.filter fun weight => SharesField current other weight.1).map (·.2)).sum := by
  rw [similarity]
  induction weights with
  | nil => rfl
  | cons weight rest ih =>
    rw [List.map_cons, List.foldr_cons, ih, List.filter_cons]
    obtain ⟨name, points⟩ := weight
    by_cases shares : SharesField current other name
    · rw [if_pos (decide_eq_true shares), List.map_cons, List.sum_cons]
      exact congrArg (· + _) (if_pos (sharesField_iff.mp shares))
    · rw [if_neg (by simpa using shares)]
      exact (congrArg (· + _) (if_neg (mt sharesField_iff.mpr shares))).trans (Nat.zero_add _)

theorem isSimilar_iff {current r : Record} : isSimilar current r = true ↔ IsSimilar current r := by
  rw [isSimilar, IsSimilar, sharesField_iff, similarity_eq, Bool.and_eq_true, decide_eq_true_iff,
    Bool.not_eq_true', Bool.not_eq_true]
  rfl

/-- The tags of several records, when they can be worked out. -/
theorem tagLists_eq_ok {records : List Record} {lists : List (List String)}
    (worked_out : tagLists records = .ok lists) : lists = records.map Record.tagSet := by
  induction records generalizing lists with
  | nil => exact (Except.ok.inj worked_out).symm
  | cons r rest ih =>
    obtain ⟨own, tags_eq, worked_out⟩ := bind_eq_ok.mp worked_out
    obtain ⟨others, behind, worked_out⟩ := bind_eq_ok.mp worked_out
    rw [← Except.ok.inj worked_out, ih behind, List.map_cons, Record.tagSet, tags_eq]
    rfl

/-- **As many lists of tags hold a tag** as there are carriers of it. -/
theorem length_filter_tagLists {current : Record} {records : List Record}
    {lists : List (List String)}
    (worked_out : tagLists (similarRecords current records) = .ok lists) (tag : String) :
    (lists.filter (tag ∈ ·)).length = (carriers current records tag).length := by
  rw [tagLists_eq_ok worked_out, List.filter_map, List.length_map, similarRecords,
    List.filter_filter, carriers]
  refine congrArg List.length (List.filter_congr fun r _ => ?_)
  have similar : (!isSameTrade current r && decide (similarityThreshold ≤ similarity current r)) =
      decide (IsSimilar current r) := by
    rw [← isSimilar, Bool.eq_iff_iff, isSimilar_iff, decide_eq_true_iff]
  rw [similar, Bool.decide_and, Bool.and_comm]
  rfl

theorem mem_fromSimilar {lists : List (List String)} {h : Hint} :
    h ∈ fromSimilar lists ↔ (lists.filter (h.tag ∈ ·)).length ≠ 0 ∧
      h.score = 10 * (lists.filter (h.tag ∈ ·)).length ∧ h.origin = similarOrigin := by
  obtain ⟨tag, score, origin⟩ := h
  have listed : ⟨tag, score, origin⟩ ∈ fromSimilar lists ↔
      ⟨tag, score, origin⟩ ∈ (fromSimilar lists).filter (·.tag = tag) := by simp
  rw [listed, filter_fromSimilar]
  split <;> simp [*]

/-! ### The best proposal of a tag -/

/-- **The best of several proposals is the first one with the greatest score.** -/
theorem foldl_better_isFirst (first : Hint) (rest : List Hint) :
    (∀ h ∈ first :: rest, h.score ≤ (rest.foldl better first).score) ∧
      (first :: rest).find? (·.score = (rest.foldl better first).score) =
        some (rest.foldl better first) := by
  -- From the end: the last proposal is better than all others, or leaves the best of them as it is.
  induction rest using List.reverseRecOn with
  | nil => simp
  | append_singleton rest last ih =>
    obtain ⟨greatest, found⟩ := ih
    rw [List.foldl_append, List.foldl_cons, List.foldl_nil, ← List.cons_append,
      List.find?_append, better]
    split
    · next more =>
      refine ⟨?_, ?_⟩
      · intro h inside
        rcases List.mem_append.mp inside with before | is_last
        · exact (greatest h before).trans more.le
        · rw [List.mem_singleton.mp is_last]
      · have none_before : ((first :: rest).find? (·.score = last.score)) = none := by
          rw [List.find?_eq_none]
          intro h before equal
          have least := greatest h before
          rw [decide_eq_true_iff] at equal
          omega
        rw [none_before]
        simp
    · next no_more =>
      refine ⟨?_, by rw [found, Option.some_or]⟩
      intro h inside
      rcases List.mem_append.mp inside with before | is_last
      · exact greatest h before
      · rw [List.mem_singleton.mp is_last]
        exact Int.not_lt.mp no_more

/-- **What the best proposal of a tag is**: the first one of this tag with the greatest score among
them. -/
theorem bestOf?_isFirst {proposals : List Hint} {tag : String} {h : Hint}
    (best : bestOf? proposals tag = some h) :
    (∀ p ∈ proposals, p.tag = tag → p.score ≤ h.score) ∧
      proposals.find? (fun p => p.tag = tag ∧ p.score = h.score) = some h := by
  rw [bestOf?] at best
  split at best
  · cases best
  · next first rest of_tag =>
    obtain ⟨greatest, found⟩ := foldl_better_isFirst first rest
    rw [Option.some.inj best, ← of_tag] at greatest found
    refine ⟨fun p inside is_tag =>
      greatest p (List.mem_filter.mpr ⟨inside, by simpa using is_tag⟩), ?_⟩
    rw [List.find?_filter] at found
    rw [← found]
    congr 1
    funext p
    simp

/-- A tag has a best proposal when it has one. -/
theorem bestOf?_eq_none_iff {proposals : List Hint} {tag : String} :
    bestOf? proposals tag = none ↔ ∀ p ∈ proposals, p.tag ≠ tag := by
  rw [bestOf?]
  split
  · next nothing => simpa using nothing
  · next first rest of_tag =>
    have inside : first ∈ proposals.filter (·.tag = tag) := of_tag ▸ List.mem_cons_self
    obtain ⟨listed, is_tag⟩ := List.mem_filter.mp inside
    simp only [reduceCtorEq, false_iff, not_forall, not_not]
    exact ⟨first, listed, by simpa using is_tag⟩

/-- **The best proposals that are selected** are those of the tags that are not empty and not
already there. -/
theorem mem_selected {proposals : List Hint} {existing : List String} {h : Hint} :
    h ∈ selected proposals existing ↔
      h.tag ≠ "" ∧ h.tag ∉ existing ∧ bestOf? proposals h.tag = some h := by
  -- Either all proposals of a tag are fresh or none is, so a fresh tag has the same best proposal.
  have of_tag (tag : String) (some_tag : tag ≠ "") (other : tag ∉ existing) :
      bestOf? (proposals.filter fun h => h.tag ≠ "" && h.tag ∉ existing) tag =
        bestOf? proposals tag := by
    rw [bestOf?, bestOf?, List.filter_filter]
    have fresh : ∀ h ∈ proposals,
        (decide (h.tag = tag) && (decide (h.tag ≠ "") && decide (h.tag ∉ existing))) =
        decide (h.tag = tag) := by
      intro h _
      by_cases is_tag : h.tag = tag
      · simp [is_tag, some_tag, other]
      · simp [is_tag]
    rw [List.filter_congr fresh]
  rw [selected, List.mem_mergeSort, List.mem_filterMap]
  constructor
  · rintro ⟨tag, listed, best⟩
    obtain rfl := tag_of_bestOf? best
    obtain ⟨p, inside, same⟩ := List.mem_map.mp (Tag.mem_distinct.mp listed)
    obtain ⟨-, is_fresh⟩ := List.mem_filter.mp inside
    obtain ⟨some_tag, other⟩ : h.tag ≠ "" ∧ h.tag ∉ existing := by simpa [same] using is_fresh
    exact ⟨some_tag, other, of_tag h.tag some_tag other ▸ best⟩
  · rintro ⟨some_tag, other, best⟩
    have inside := List.mem_of_find?_eq_some (bestOf?_isFirst best).2
    have is_fresh : h ∈ proposals.filter fun h => h.tag ≠ "" && h.tag ∉ existing :=
      List.mem_filter.mpr ⟨inside, by simp [some_tag, other]⟩
    exact ⟨h.tag, Tag.mem_distinct.mpr (List.mem_map_of_mem is_fresh),
      (of_tag _ some_tag other).trans best⟩

/-- No two selected hints are of one tag. -/
theorem nodup_selected (proposals : List Hint) (existing : List String) :
    ((selected proposals existing).map (·.tag)).Nodup := by
  refine (((List.mergeSort_perm _ _).map _).nodup_iff).mpr ?_
  rw [List.Nodup, List.pairwise_map, List.pairwise_filterMap]
  refine (Tag.nodup_distinct _).imp fun other a best b best' same => other ?_
  rw [← tag_of_bestOf? best, ← tag_of_bestOf? best', same]

/-- **The selected hints are in order**: the higher score first, and then by name. -/
theorem pairwise_selected (proposals : List Hint) (existing : List String) :
    (selected proposals existing).Pairwise fun a b => (toLex (-a.score, a.tag) : ℤ ×ₗ String) <
      toLex (-b.score, b.tag) := by
  have ordered : (selected proposals existing).Pairwise fun a b => comesBefore a b = true :=
    pairwise_mergeSort _
  have apart := List.pairwise_map.mp (nodup_selected proposals existing)
  refine ordered.imp₂ (fun a b before other => ?_) apart
  rw [comesBefore, Bool.or_eq_true, Bool.and_eq_true, decide_eq_true_iff, decide_eq_true_iff,
    decide_eq_true_iff] at before
  rw [Prod.Lex.toLex_lt_toLex]
  rcases before with more | ⟨equal, by_name⟩
  · exact Or.inl (neg_lt_neg more)
  · exact Or.inr ⟨congrArg Neg.neg equal, lt_of_le_of_ne by_name other⟩

/-! ### The hints for a trade -/

section Hints

variable {current : Record} {records : List Record} {rules : List Rule} {proposed : List Hint}
  {lists : List (List String)}

/-- **The scores of the proposals of a tag** are those that speak for it. -/
theorem exists_proposal_iff (worked_out : tagLists (similarRecords current records) = .ok lists)
    {tag : String}
    {score : Int} :
    (∃ h ∈ rules.flatMap (·.proposals current) ++ fromSimilar lists, h.tag = tag ∧
      h.score = score) ↔
      score ∈ scores current records rules tag := by
  constructor
  · rintro ⟨h, inside, rfl, rfl⟩
    rcases List.mem_append.mp inside with of_rules | of_similar
    · obtain ⟨rule, listed, of_rule⟩ := List.mem_flatMap.mp of_rules
      obtain ⟨proposes, score_eq, -⟩ := mem_proposals.mp of_rule
      exact Or.inl ⟨rule, listed, proposes, score_eq.symm⟩
    · obtain ⟨carried, score_eq, -⟩ := mem_fromSimilar.mp of_similar
      rw [length_filter_tagLists worked_out] at carried score_eq
      exact Or.inr ⟨mt List.length_eq_zero_iff.mpr carried, score_eq.symm⟩
  · rintro (⟨rule, listed, proposes, rfl⟩ | ⟨carried, rfl⟩)
    · exact ⟨⟨tag, rule.priority, rule.name⟩, List.mem_append_left _ (List.mem_flatMap.mpr
        ⟨rule, listed, mem_proposals.mpr ⟨proposes, rfl, rfl⟩⟩), rfl, rfl⟩
    · refine ⟨⟨tag, _, similarOrigin⟩, List.mem_append_right _ (mem_fromSimilar.mpr ?_), rfl, rfl⟩
      rw [length_filter_tagLists worked_out]
      exact ⟨mt List.length_eq_zero_iff.mp carried, rfl, rfl⟩

/-- **The best proposal of a tag is the best hint for it.** -/
theorem isBest_of_bestOf? (worked_out : tagLists (similarRecords current records) = .ok lists)
    {h : Hint}
    (best : bestOf? (rules.flatMap (·.proposals current) ++ fromSimilar lists) h.tag = some h) :
    IsBest current records rules h := by
  obtain ⟨greatest, first⟩ := bestOf?_isFirst best
  refine ⟨⟨?_, fun score speaks => ?_⟩, ?_⟩
  · exact (exists_proposal_iff worked_out).mp ⟨h, List.mem_of_find?_eq_some first, rfl, rfl⟩
  · obtain ⟨p, inside, is_tag, rfl⟩ := (exists_proposal_iff worked_out).mpr speaks
    exact greatest p inside is_tag
  · rw [List.find?_append, find?_proposals] at first
    cases found : rules.find? fun rule => rule.Proposes current h.tag ∧ rule.priority = h.score with
    | some rule =>
      rw [found, Option.map_some, Option.some_or] at first
      exact (congrArg Hint.origin (Option.some.inj first)).symm
    | none =>
      rw [found, Option.map_none, Option.none_or] at first
      exact (mem_fromSimilar.mp (List.mem_of_find?_eq_some first)).2.2

end Hints

/-- Whether something speaks for a tag: a rule that proposes it, or a similar record that carries
it. -/
def IsCandidate (current : Record) (records : List Record) (rules : List Rule)
    (tag : String) : Prop :=
  (∃ rule ∈ rules, rule.Proposes current tag) ∨ ∃ r ∈ records, IsSimilar current r ∧ tag ∈ r.tagSet

theorem isCandidate_iff {current : Record} {records : List Record} {rules : List Rule}
    {tag : String} :
    IsCandidate current records rules tag ↔ ∃ score, score ∈ scores current records rules tag := by
  have carried : carriers current records tag ≠ [] ↔ ∃ r ∈ records, IsSimilar current r ∧
      tag ∈ r.tagSet := by
    simp [carriers, List.filter_eq_nil_iff]
  rw [IsCandidate, ← carried]
  constructor
  · rintro (⟨rule, listed, proposes⟩ | carried)
    · exact ⟨_, Or.inl ⟨rule, listed, proposes, rfl⟩⟩
    · exact ⟨_, Or.inr ⟨carried, rfl⟩⟩
  · rintro ⟨score, ⟨rule, listed, proposes, -⟩ | ⟨carried, -⟩⟩
    · exact Or.inl ⟨rule, listed, proposes⟩
    · exact Or.inr carried

/-- **Hints keep the best score of each tag.** When there are hints for a trade, they are the first
ones of a list that has one hint for each candidate, the empty tag and the tags of the trade apart;
each with the best score of its tag and the origin that has it; and in strictly increasing order of
opposite scores and tags. -/
theorem hints_keep_best (current : Record) (records : List Record) (limit : Int) (rules : List Rule)
    (result : List Hint) (positive : 0 < limit)
    (returned : hints current records limit rules = .ok result) :
    ∃ (existing : List String) (ranked : List Hint), current.tags = .ok existing ∧
      result = ranked.take limit.toNat ∧
      (ranked.map (·.tag)).Nodup ∧
      (∀ tag, tag ∈ ranked.map (·.tag) ↔
        tag ≠ "" ∧ tag ∉ existing ∧ IsCandidate current records rules tag) ∧
      (∀ h ∈ ranked, IsBest current records rules h) ∧
      ranked.Pairwise fun a b => (toLex (-a.score, a.tag) : ℤ ×ₗ String) <
        toLex (-b.score, b.tag) := by
  rw [hints, if_neg (Int.not_le.mpr positive)] at returned
  obtain ⟨proposed, by_rules, returned⟩ := bind_eq_ok.mp returned
  obtain ⟨lists, worked_out, returned⟩ := bind_eq_ok.mp returned
  obtain ⟨existing, own_tags, returned⟩ := bind_eq_ok.mp returned
  obtain rfl := fromRules_eq_ok by_rules
  refine ⟨existing, _, own_tags, (Except.ok.inj returned).symm, nodup_selected _ _, fun tag => ?_,
    fun h inside => isBest_of_bestOf? worked_out (mem_selected.mp inside).2.2,
      pairwise_selected _ _⟩
  rw [isCandidate_iff, List.mem_map]
  constructor
  · rintro ⟨h, inside, rfl⟩
    obtain ⟨some_tag, other, best⟩ := mem_selected.mp inside
    exact ⟨some_tag, other, h.score, (isBest_of_bestOf? worked_out best).score.1⟩
  · rintro ⟨some_tag, other, score, speaks⟩
    obtain ⟨p, inside, is_tag, -⟩ := (exists_proposal_iff worked_out).mpr speaks
    obtain ⟨h, best⟩ : ∃ h, bestOf? (rules.flatMap (·.proposals current) ++ fromSimilar lists) tag =
        some h := by
      rw [← Option.isSome_iff_exists, ← Option.ne_none_iff_isSome]
      exact fun nothing => bestOf?_eq_none_iff.mp nothing p inside is_tag
    obtain rfl := tag_of_bestOf? best
    exact ⟨h, mem_selected.mpr ⟨some_tag, other, best⟩, rfl⟩

/-- A tag that two rules propose in different spellings and a similar record carries: the first rule
with the greatest priority is its origin. The second tag has one carrier, and the tag of the trade
itself has no hint. -/
theorem hints_keep_best_tied :
    let field (name text : String) : Value × Value := (.text name, .text text)
    let current : Record :=
      .mapping [field "side" "long", field "strategy" "swing", field "tags" "own"]
    let other : Record := .mapping [field "side" "long", field "strategy" "swing",
      (.text "tags", .list [.text "Own", .text "b", .text "a"])]
    let rules : List Rule := [⟨"r", "first", .constant true, ["#A", "own"], 10⟩,
      ⟨"s", "second", .constant true, ["a", ""], 10⟩]
    let result : List Hint := [⟨"#a", 10, "first"⟩, ⟨"#b", 10, similarOrigin⟩]
    (0 : Int) < 10 ∧ hints current [other] 10 rules = .ok result ∧ IsSimilar current other ∧
      ∃ (existing : List String) (ranked : List Hint), current.tags = .ok existing ∧
        result = ranked.take 10 ∧ ∀ h ∈ ranked, IsBest current [other] rules h := by
  intro field current other rules result
  have by_rules : fromRules current rules =
      .ok [⟨"#a", 10, "first"⟩, ⟨"#own", 10, "first"⟩, ⟨"#a", 10, "second"⟩,
        ⟨"", 10, "second"⟩] := by decide +kernel
  have by_similar : tagLists (similarRecords current [other]) = .ok [["#own", "#b", "#a"]] := by
    decide +kernel
  have own_tags : current.tags = .ok ["#own"] := by decide +kernel
  have sorted : result.mergeSort comesBefore = result := List.mergeSort_of_pairwise (by decide)
  have returned : hints current [other] 10 rules = .ok result := by
    rw [hints, if_neg (by decide), by_rules, by_similar, own_tags]
    exact congrArg (fun ranked => Except.ok (List.take 10 ranked)) sorted
  have similar : IsSimilar current other := by decide +kernel
  obtain ⟨existing, ranked, own_tags, first, -, -, best, -⟩ :=
    hints_keep_best current [other] 10 rules result (by decide) returned
  exact ⟨by decide, returned, similar, existing, ranked, own_tags, first, best⟩

/-- **A score may be below zero**: without carriers, ten points for each carrier are no score of
zero that would be the greater one. -/
theorem best_score_below_zero :
    let rule : Rule := ⟨"r", "alone", .constant true, ["a"], -5⟩
    hints (.mapping []) [] 10 [rule] = .ok [⟨"#a", -5, "alone"⟩] ∧
      ¬IsGreatest {score : Int | (∃ r ∈ [rule], r.Proposes (.mapping []) "#a" ∧
        r.priority = score) ∨
        10 * (carriers (.mapping []) [] "#a").length = score} (-5) := by
  intro rule
  refine ⟨by decide +kernel, fun greatest => ?_⟩
  have least : (0 : Int) ≤ -5 := greatest.2 (Or.inr rfl)
  exact absurd least (by decide)

end TradeJournal.Hint
