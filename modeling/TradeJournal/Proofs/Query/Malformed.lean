import TradeJournal.Proofs.Query.Phrase
import TradeJournal.Proofs.Query.References

/-!
# Trees that fail

A tree that is put together by hand can hold something that is no query, and nodes without operands.
Three things are done with a tree, and each fails in its own cases: its text cannot be written if
there is either, the tags that it refers to cannot be listed if there is something that is no query,
and its truth can be worked out unless the evaluation comes upon such a thing.

Writing and listing go through all of a tree in one order, depth first and from left to right, and
give up at the first thing that they cannot go past. So both fail with the fault of the first such
thing in the list of all subtrees (`Tree.fault?_rendered`, `Tree.fault?_leaves`). Evaluation stops
where the answer is known, and follows no such law; but where listing finds nothing to give up at,
neither does evaluation.

| what is done | what it cannot go past |
|---|---|
| `Tree.toText` | `Tree.textFault?`: no query, or a node without operands below the root |
| `Tree.referencedTags` | `Tree.foreignFault?`: something that is no query |
-/

namespace TradeJournal.Query.Tree

/-! ### Subtrees -/

mutual

/-- **The subtrees of a tree**, depth first and from left to right: a tree comes before those of its
operands. -/
def subtrees : Tree → List Tree
  | .tag text => [.tag text]
  | .and children => .and children :: subtreesAll children
  | .or children => .or children :: subtreesAll children
  | .not child => .not child :: subtrees child
  | .foreign kind => [.foreign kind]

/-- The subtrees of several trees. -/
def subtreesAll : List Tree → List Tree
  | [] => []
  | child :: rest => subtrees child ++ subtreesAll rest

end

/-- What keeps a tree by itself from referring to tags, whatever its operands are. -/
def foreignFault? : Tree → Option TreeFault
  | .foreign kind => some (.foreign kind)
  | _ => none

/-- **What keeps a tree by itself from having a text**, whatever its operands are. -/
def textFault? : Tree → Option TreeFault
  | .and [] => some .emptyAnd
  | .or [] => some .emptyOr
  | t => t.foreignFault?

theorem foreignFault?_eq_some_iff {t : Tree} {fault : TreeFault} :
    t.foreignFault? = some fault ↔ ∃ kind, t = .foreign kind ∧ fault = .foreign kind := by
  cases t <;> simp [foreignFault?, eq_comm]

/-- **A tree without a text** is a node without operands or no query, and the fault names it. -/
theorem textFault?_eq_some_iff {t : Tree} {fault : TreeFault} : t.textFault? = some fault ↔
    t = .and [] ∧ fault = .emptyAnd ∨ t = .or [] ∧ fault = .emptyOr ∨
      ∃ kind, t = .foreign kind ∧ fault = .foreign kind := by
  match t with
  | .and [] | .or [] => simp [textFault?, eq_comm]
  | .and (_ :: _) | .or (_ :: _) | .tag _ | .not _ | .foreign _ =>
    simp [textFault?, foreignFault?, eq_comm]

theorem exists_textFault?_iff {t : Tree} :
    (∃ fault, t.textFault? = some fault) ↔ t = .and [] ∨ t = .or [] ∨ ∃ kind,
      t = .foreign kind := by
  simp only [textFault?_eq_some_iff, exists_or, exists_and_left, exists_eq, and_true,
    exists_comm (α := TreeFault)]

/-! ### The first fault -/

mutual

/-- **A tree is written unless one of its subtrees has no text**, and the first such subtree is what
is reported. -/
theorem fault?_rendered : ∀ t : Tree, fault? t.rendered = t.subtrees.findSome? textFault?
  | .tag _ => rfl
  | .not child => by
    rw [rendered, fault?_bind_ok]
    exact fault?_rendered child
  | .and [] => rfl
  | .or [] => rfl
  | .and (child :: rest) => by
    change fault? (joined _ <$> renderedAll false (child :: rest)) = _
    rw [fault?_map]
    exact fault?_renderedAll false (child :: rest)
  | .or (child :: rest) => by
    change fault? (joined _ <$> renderedAll true (child :: rest)) = _
    rw [fault?_map]
    exact fault?_renderedAll true (child :: rest)
  | .foreign _ => rfl

theorem fault?_renderedAll (bareAnd : Bool) : ∀ children : List Tree,
    fault? (renderedAll bareAnd children) = (subtreesAll children).findSome? textFault?
  | [] => rfl
  | child :: rest => by
    rw [renderedAll, fault?_both, fault?_rendered child, fault?_renderedAll bareAnd rest,
      subtreesAll,
      List.findSome?_append]

end

mutual

/-- **The leaves of a tree are listed unless one of its subtrees is no query**, and the first of
these is reported. -/
theorem fault?_leaves : ∀ t : Tree, fault? t.leaves = t.subtrees.findSome? foreignFault?
  | .tag _ => rfl
  | .not child => fault?_leaves child
  | .and children => fault?_leavesAll children
  | .or children => fault?_leavesAll children
  | .foreign _ => rfl

theorem fault?_leavesAll : ∀ children : List Tree,
    fault? (leavesAll children) = (subtreesAll children).findSome? foreignFault?
  | [] => rfl
  | child :: rest => by
    rw [leavesAll, fault?_both, fault?_leaves child, fault?_leavesAll rest, subtreesAll,
      List.findSome?_append]

end

/-- A tree fails to be written as it fails to be rendered, if it asks for anything. -/
theorem fault?_toText {t : Tree} (some_query : t ≠ .empty) :
    fault? t.toText = t.subtrees.findSome? textFault? := by
  rw [toText_of_ne_empty some_query, fault?_map, fault?_rendered]

theorem fault?_referencedTags (t : Tree) :
    fault? t.referencedTags = t.subtrees.findSome? foreignFault? := by
  rw [referencedTags, fault?_map, fault?_leaves]

/-! ### Trees whose tags can be listed -/

mutual

/-- **A tree whose leaves can be listed is whole.** -/
theorem isWhole_of_leaves : ∀ {t : Tree} {named : List String}, t.leaves = .ok named → t.IsWhole
  | .tag text, _, _ => .tag text
  | .not _, _, found => .not (isWhole_of_leaves found)
  | .and _, _, found => .node .and (isWhole_of_leavesAll found)
  | .or _, _, found => .node .or (isWhole_of_leavesAll found)
  | .foreign _, _, found => by cases found

theorem isWhole_of_leavesAll : ∀ {children : List Tree} {named : List String},
    leavesAll children = .ok named →
    ∀ child ∈ children, child.IsWhole
  | [], _, _ => by simp
  | _ :: _, _, found => by
    obtain ⟨_, own, found⟩ := bind_eq_ok.mp found
    obtain ⟨_, others, _⟩ := bind_eq_ok.mp found
    exact List.forall_mem_cons.mpr ⟨isWhole_of_leaves own, isWhole_of_leavesAll others⟩

end

/-- **A tree has a text unless there is something in it that has none.** The query that asks for
nothing has the empty text. Any other tree fails to be written when one of its subtrees is a node
without operands or no query at all, and the fault is that of the first such subtree, depth first
and from left to right, which it names. The tags of a tree fail to be listed when there is something
in it that is no query, which the fault names; and when they can be listed, the tree has a truth for
the tags of any record. -/
theorem text_unless_malformed (t : Tree) :
    Tree.empty.toText = .ok "" ∧
    (t ≠ .empty →
      ((∃ fault, t.toText = .error fault) ↔
        ∃ s ∈ t.subtrees, s = .and [] ∨ s = .or [] ∨ ∃ kind, s = .foreign kind) ∧
      ∀ fault, t.toText = .error fault ↔ ∃ before s later, t.subtrees = before ++ s :: later ∧
        s.textFault? = some fault ∧ ∀ earlier ∈ before, earlier.textFault? = none) ∧
    (∀ (s : Tree) (fault : TreeFault), s.textFault? = some fault →
      s = .and [] ∧ fault.message = "Empty AndNode cannot be rendered as a query" ∨
      s = .or [] ∧ fault.message = "Empty OrNode cannot be rendered as a query" ∨
      ∃ kind, s = .foreign kind ∧ fault.message = "Unsupported query node: " ++ kind) ∧
    ((∃ fault, t.referencedTags = .error fault) ↔ ∃ kind, .foreign kind ∈ t.subtrees) ∧
    (∀ fault, t.referencedTags = .error fault → ∃ kind, .foreign kind ∈ t.subtrees ∧
      fault = .foreign kind) ∧
    ((∃ tags, t.referencedTags = .ok tags) → ∀ own, ∃ value, t.evaluate own = .ok value) := by
  have listed := fault?_referencedTags t
  refine ⟨rfl, fun some_query =>
    ⟨?_, fun fault => eq_error_iff_of_first (fault?_toText some_query)⟩,
    fun s fault own => ?_, ?_, fun fault failed => ?_, ?_⟩
  · rw [exists_error_iff_of_first (fault?_toText some_query)]
    simp only [exists_textFault?_iff]
  · rcases textFault?_eq_some_iff.mp own with ⟨same, rfl⟩ | ⟨same, rfl⟩ | ⟨kind, same, rfl⟩
    · exact Or.inl ⟨same, rfl⟩
    · exact Or.inr (Or.inl ⟨same, rfl⟩)
    · exact Or.inr (Or.inr ⟨kind, same, rfl⟩)
  · rw [exists_error_iff_of_first listed]
    constructor
    · rintro ⟨s, member, fault, own⟩
      obtain ⟨kind, rfl, -⟩ := foreignFault?_eq_some_iff.mp own
      exact ⟨kind, member⟩
    · rintro ⟨kind, member⟩
      exact ⟨_, member, _, rfl⟩
  · obtain ⟨before, s, later, whole, own, -⟩ := (eq_error_iff_of_first listed).mp failed
    obtain ⟨kind, rfl, rfl⟩ := foreignFault?_eq_some_iff.mp own
    exact ⟨kind, whole ▸ List.mem_append_cons_self, rfl⟩
  · rintro ⟨tags, referenced⟩ own
    obtain ⟨named, found, -⟩ := exists_leaves_of_referencedTags referenced
    exact (isWhole_of_leaves found).exists_evaluate own

/-- A disjunction of nothing below something that is no query comes second, although it is the first
that is gone past when tags are listed; and a tree whose tags are listed although it has no text. -/
theorem text_unless_malformed_nested :
    let t : Tree := .and [.tag "#a", .or [.not (.or []), .foreign "int"], .and []]
    let t' : Tree := .not (.or [.and [], .tag "#b"])
    t ≠ .empty ∧ t.toText = .error .emptyOr ∧ (∃ fault, t.referencedTags = .error fault) ∧
      t'.toText = .error .emptyAnd ∧ t'.referencedTags = .ok ["#b"] ∧ ∃ value,
        t'.evaluate [] = .ok value := by
  intro t t'
  have some_query : t ≠ .empty := by decide
  have some_query' : t' ≠ .empty := by decide
  have listed : t'.referencedTags = .ok ["#b"] := by decide +kernel
  obtain ⟨-, written, -, fails, -⟩ := text_unless_malformed t
  obtain ⟨-, written', -, -, -, truth⟩ := text_unless_malformed t'
  refine ⟨some_query, ?_, fails.mpr ⟨"int", by decide +kernel⟩, ?_, listed, truth ⟨_, listed⟩ []⟩
  · exact ((written some_query).2 _).mpr
      ⟨[t, .tag "#a", .or [.not (.or []), .foreign "int"], .not (.or [])], .or [], _, rfl, rfl,
        by decide +kernel⟩
  · exact ((written' some_query').2 _).mpr ⟨[t', .or [.and [], .tag "#b"]], .and [], _, rfl, rfl,
      by decide +kernel⟩

end TradeJournal.Query.Tree
