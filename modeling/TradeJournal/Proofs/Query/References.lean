import TradeJournal.Proofs.Query.Meaning
import TradeJournal.Proofs.Tag.Distinct

/-!
# What a tree refers to

A tree put together by hand may hold something that is no query. One that does not is whole: it has
leaves, it has a truth for the tags of any record, and of those tags nothing else is looked up than
its leaves (`Tree.evaluate_congr`). So tags that agree on what a tree refers to are the same to it.

Evaluating stops where the answer is known while the leaves are collected from everywhere, so the
two do not go through a tree in step; the induction is on the tree, for one node and for several at
once.
-/

namespace TradeJournal.Query

/-- **A tree that is a query throughout.** -/
inductive Tree.IsWhole : Tree → Prop
  | tag (text : String) : IsWhole (.tag text)
  | not {child : Tree} : IsWhole child → IsWhole (.not child)
  | node (c : Connective) {children : List Tree} :
    (∀ child ∈ children, IsWhole child) → IsWhole (c.node children)

namespace Tree

/-! ### Whole trees -/

/-- The leaves of several trees, given those of each. -/
theorem leavesAll_of_forall {named : List (Tree × List String)}
    (each : ∀ n ∈ named, n.1.leaves = .ok n.2) :
    leavesAll (named.map (·.1)) = .ok (named.flatMap (·.2)) := by
  induction named with
  | nil => rfl
  | cons first rest ih =>
    obtain ⟨own, others⟩ := List.forall_mem_cons.mp each
    rw [List.map_cons, leavesAll, own, ih others]
    rfl

/-- **A whole tree has leaves.** -/
theorem IsWhole.exists_leaves {t : Tree} (whole : t.IsWhole) : ∃ named, t.leaves = .ok named := by
  induction whole with
  | tag text => exact ⟨[text], rfl⟩
  | not _ ih => exact ih
  | node c _ ih =>
    obtain ⟨named, rfl, each⟩ := exists_pairs ih
    have found := leavesAll_of_forall each
    cases c <;> exact ⟨_, found⟩

/-- **A whole tree has a truth** for the tags of any record. -/
theorem IsWhole.exists_evaluate {t : Tree} (whole : t.IsWhole) (tags : List String) :
    ∃ value, t.evaluate tags = .ok value := by
  induction whole with
  | tag text => exact ⟨_, rfl⟩
  | @not child _ ih =>
    obtain ⟨value, evaluated⟩ := ih
    refine ⟨!value, ?_⟩
    rw [evaluate, evaluated]
    rfl
  | node c _ ih =>
    obtain ⟨valued, rfl, each⟩ := exists_pairs ih
    exact ⟨_, evaluate_node c each⟩

/-! ### Nothing else is looked up -/

section

variable {first second : List String}

mutual

/-- **Evaluating a tree looks nothing up but its leaves.** -/
theorem evaluate_congr : ∀ {t : Tree} {named : List String}, t.leaves = .ok named →
    (∀ tag ∈ named, tag ∈ first ↔ tag ∈ second) → t.evaluate first = t.evaluate second
  | .tag text, named, found, agree => by
    obtain rfl : [text] = named := Except.ok.inj found
    rw [evaluate, evaluate, decide_eq_decide.mpr (agree text (by simp))]
  | .and _, _, found, agree => (evaluateEach_congr found agree).1
  | .or _, _, found, agree => (evaluateEach_congr found agree).2
  | .not child, _, found, agree => by
    rw [evaluate, evaluate, evaluate_congr (t := child) found agree]
  | .foreign _, _, found, _ => by cases found

theorem evaluateEach_congr : ∀ {children : List Tree} {named : List String},
    leavesAll children = .ok named → (∀ tag ∈ named, tag ∈ first ↔ tag ∈ second) →
    evaluateAll first children = evaluateAll second children ∧
      evaluateAny first children = evaluateAny second children
  | [], _, _, _ => ⟨rfl, rfl⟩
  | child :: rest, _, found, agree => by
    obtain ⟨own, own_found, found⟩ := bind_eq_ok.mp found
    obtain ⟨others, others_found, whole⟩ := bind_eq_ok.mp found
    obtain rfl := Except.ok.inj whole
    obtain ⟨own_agree, others_agree⟩ := List.forall_mem_append.mp agree
    have same := evaluate_congr own_found own_agree
    obtain ⟨same_all, same_any⟩ := evaluateEach_congr others_found others_agree
    rw [evaluateAll, evaluateAll, evaluateAny, evaluateAny, same, same_all, same_any]
    exact ⟨rfl, rfl⟩

end

/-- What a tree refers to is what its leaves are. -/
theorem exists_leaves_of_referencedTags {t : Tree} {tags : List String}
    (referenced : t.referencedTags = .ok tags) :
    ∃ named, t.leaves = .ok named ∧ ∀ tag, tag ∈ tags ↔ tag ∈ named := by
  rw [referencedTags] at referenced
  cases found : t.leaves with
  | error f =>
    rw [found] at referenced
    cases referenced
  | ok named =>
    rw [found] at referenced
    obtain rfl : Tag.distinct named = tags := Except.ok.inj referenced
    exact ⟨named, rfl, fun _ => Tag.mem_distinct⟩

/-- **Tags that agree on what a tree refers to** are the same to the tree. -/
theorem evaluate_congr_of_referencedTags {t : Tree} {tags : List String}
    (referenced : t.referencedTags = .ok tags) (agree : ∀ tag ∈ tags, tag ∈ first ↔ tag ∈ second) :
    t.evaluate first = t.evaluate second := by
  obtain ⟨named, found, members⟩ := exists_leaves_of_referencedTags referenced
  exact evaluate_congr found fun tag member => agree tag ((members tag).mpr member)

end

end Tree

end TradeJournal.Query
