import TradeJournal.Proofs.Query.Fit
import TradeJournal.Proofs.Query.References
import TradeJournal.Proofs.Query.Rendering

/-!
# Trees put together by hand

A tree that is put together by hand can have shapes that no query is parsed to: nodes of one
operand, groups around them, and negations of groups. Its text is a query all the same, as long as
every negation in it is that of a tag, which is all that the grammar knows. The query has another
tree then, in which nodes of one operand are gone; but it is the same query (`Tree.SameQuery`), true
of the same tags and with the same leaves in the same order.

A negation of anything else is written as one too, and no query comes of it: what stands behind its
NOT is another NOT or an opening parenthesis.
-/

namespace TradeJournal.Query

namespace Tree

/-- Whether a tree is a single tag. -/
def isTag : Tree → Bool
  | .tag _ => true
  | _ => false

mutual

/-- **Whether every negation in a tree is that of a tag.** -/
def negatesTags : Tree → Bool
  | .tag _ | .foreign _ => true
  | .not child => child.isTag
  | .and children | .or children => negatesTagsAll children

/-- Whether every negation in several trees is that of a tag. -/
def negatesTagsAll : List Tree → Bool
  | [] => true
  | child :: rest => negatesTags child && negatesTagsAll rest

end

theorem negatesTagsAll_eq_all (children : List Tree) :
    negatesTagsAll children = children.all negatesTags := by
  induction children with
  | nil => rfl
  | cons child rest ih => rw [negatesTagsAll, ih, List.all_cons]

theorem negatesTags_node (c : Connective) (children : List Tree) :
    (c.node children).negatesTags = children.all negatesTags := by
  rw [← negatesTagsAll_eq_all]
  cases c <;> rfl

/-! ### The same query -/

/-- **Whether two trees are the same query**: they have the same truth for the tags of any record,
and the same leaves. -/
structure SameQuery (t t' : Tree) : Prop where
  truth : ∀ tags, ∃ value, t.evaluate tags = .ok value ∧ t'.evaluate tags = .ok value
  leaves : ∃ named, t.leaves = .ok named ∧ t'.leaves = .ok named

/-- A whole tree is the same query as itself. -/
theorem IsWhole.sameQuery {t : Tree} (whole : t.IsWhole) : t.SameQuery t where
  truth := fun tags => (whole.exists_evaluate tags).imp fun _ evaluated => ⟨evaluated, evaluated⟩
  leaves := whole.exists_leaves.imp fun _ found => ⟨found, found⟩

/-- The leaves of a node are those of its operands. -/
theorem leaves_node (c : Connective) {named : List (Tree × List String)}
    (each : ∀ n ∈ named, n.1.leaves = .ok n.2) :
    (c.node (named.map (·.1))).leaves = .ok (named.flatMap (·.2)) := by
  cases c <;> exact leavesAll_of_forall each

/-- Gathering operands does not change their leaves. -/
theorem leaves_gathered (c : Connective) {named : List (Tree × List String)}
    (each : ∀ n ∈ named, n.1.leaves = .ok n.2) :
    (gathered c.node (named.map (·.1))).leaves = .ok (named.flatMap (·.2)) := by
  match named with
  | [] => exact leaves_node c each
  | [n] => simpa [gathered] using each n
  | _ :: _ :: _ => exact leaves_node c each

/-- **A node is the same query as its operands gathered**, each of them as the same query. -/
theorem SameQuery.gathered (c : Connective) {parsed : List (Tree × Tree)}
    (each : ∀ p ∈ parsed, p.1.SameQuery p.2) :
    (c.node (parsed.map (·.1))).SameQuery (gathered c.node (parsed.map (·.2))) where
  truth := fun tags => by
    obtain ⟨valued, rfl, truths⟩ := exists_pairs fun p listed => (each p listed).truth tags
    have node := @evaluate_node tags c (valued.map fun v => (v.1.1, v.2))
      (List.forall_mem_map.mpr fun v listed => (truths v listed).1)
    have gathered := @evaluate_gathered tags c (valued.map fun v => (v.1.2, v.2))
      (List.forall_mem_map.mpr fun v listed => (truths v listed).2)
    simp only [List.map_map, Function.comp_def] at node gathered ⊢
    exact ⟨_, node, gathered⟩
  leaves := by
    obtain ⟨named, rfl, found⟩ := exists_pairs fun p listed => (each p listed).leaves
    have node := @leaves_node c (named.map fun n => (n.1.1, n.2))
      (List.forall_mem_map.mpr fun n listed => (found n listed).1)
    have gathered := @leaves_gathered c (named.map fun n => (n.1.2, n.2))
      (List.forall_mem_map.mpr fun n listed => (found n listed).2)
    simp only [List.map_map, List.flatMap_map, Function.comp_def] at node gathered ⊢
    exact ⟨_, node, gathered⟩

/-! ### What the tokens of a tree are parsed to -/

/-- **Where negations are those of tags, the tokens of a tree are a phrase** whose tree is the same
query. -/
theorem HasText.exists_derives {t : Tree} (h : t.HasText) (negates : t.negatesTags = true) :
    ∃ t', Derives t.level t.phrase t' ∧ t.SameQuery t' := by
  induction h with
  | @tag text _ => exact ⟨.tag text, .tag text, (IsWhole.tag text).sameQuery⟩
  | @not child _ _ =>
    cases child with
    | tag text => exact ⟨.not (.tag text), .negated text, (IsWhole.not (.tag text)).sameQuery⟩
    | and | or | not | foreign => cases negates
  | @node c children some_child _ ih =>
    rw [negatesTags_node] at negates
    obtain ⟨parsed, rfl, each⟩ := exists_pairs fun child member =>
      ih child member (List.all_eq_true.mp negates child member)
    rw [level_node]
    exact ⟨_, .node c (by simpa using some_child) fun p listed => (each p listed).1,
      .gathered c fun p listed => (each p listed).2⟩

/-- **Any other negation dangles**: no tag stands next to its NOT. -/
theorem HasText.exists_neighbours {t : Tree} (h : t.HasText) (other : t.negatesTags = false) :
    ∃ b, Neighbours t.phrase .not b ∧ b.isTag = false := by
  induction h with
  | tag => cases other
  | @not child _ _ =>
    cases child with
    | tag => cases other
    | not => exact ⟨.not, ⟨[], _, rfl⟩, rfl⟩
    | and | or | foreign => exact ⟨.opening, ⟨[], _, rfl⟩, rfl⟩
  | @node c children _ _ ih =>
    rw [negatesTags_node, List.all_eq_false] at other
    obtain ⟨child, member, own⟩ := other
    obtain ⟨b, near, untagged⟩ := ih child member (Bool.eq_false_iff.mpr own)
    refine ⟨b, near.of_infix ?_, untagged⟩
    have operand : child.operandPhrase c.bareAnd <:+: (c.node children).phrase := by
      rw [phrase_node]
      exact infix_intercalate _ (List.mem_map_of_mem member)
    refine List.IsInfix.trans ?_ operand
    rw [operandPhrase, operandTokens]
    split
    · exact List.infix_rfl
    · exact ⟨[.opening], [.closing], rfl⟩

/-- **The tokens of a tree are parsed** just when every negation in it is that of a tag. -/
theorem HasText.exists_parse_iff {t : Tree} (h : t.HasText) :
    (∃ t', parse t.phrase = .ok t') ↔ t.negatesTags = true := by
  constructor
  · intro parsed
    have absent := defects_eq_nil_iff.mp (defects_eq_nil_iff_exists_parse.mpr parsed) .danglingNot
    by_contra other
    obtain ⟨b, near, untagged⟩ := h.exists_neighbours (Bool.eq_false_iff.mpr other)
    have tagged := (hasDanglingNot_eq_false.mp absent).2 b near
    rw [untagged] at tagged
    cases tagged
  · intro negates
    obtain ⟨t', derived, -⟩ := h.exists_derives negates
    exact ⟨t', parse_of_derivation derived.derivation⟩

/-- What the tokens of a tree are parsed to is the same query. -/
theorem HasText.sameQuery_of_parse {t t' : Tree} (h : t.HasText)
    (parsed : parse t.phrase = .ok t') :
    t.SameQuery t' := by
  obtain ⟨own, derived, same⟩ := h.exists_derives (h.exists_parse_iff.mp ⟨t', parsed⟩)
  obtain rfl : own = t' :=
    Except.ok.inj ((parse_of_derivation derived.derivation).symm.trans parsed)
  exact same

/-- The same queries refer to the same tags. -/
theorem SameQuery.referencedTags_eq {t t' : Tree} (same : t.SameQuery t') :
    t'.referencedTags = t.referencedTags := by
  obtain ⟨named, found, found'⟩ := same.leaves
  rw [referencedTags, referencedTags, found, found']

/-- **The text of a tree is scanned to the tokens of the tree.** -/
theorem hasText_of_toText {t : Tree} {tags : List String} {text : String} (some_query : t ≠ .empty)
    (referenced : t.referencedTags = .ok tags) (canonical : ∀ tag ∈ tags, Tag.IsCanonical tag)
    (written : t.toText = .ok text) : t.HasText ∧ tokenize text = t.phrase := by
  obtain ⟨named, found, members⟩ := exists_leaves_of_referencedTags referenced
  have has_text : t.HasText := by
    rw [toText_of_ne_empty some_query] at written
    obtain ⟨own, rendered, -⟩ := map_eq_ok.mp written
    exact hasText_of_rendered rendered found fun tag member =>
      canonical tag ((members tag).mpr member)
  obtain ⟨own, own_written, spells⟩ := has_text.exists_toText
  obtain rfl : own = text := Except.ok.inj (own_written.symm.trans written)
  exact ⟨has_text, spells.scan_eq⟩

end Tree

/-- **Rendering keeps the meaning of any tree.** The text of a tree of canonical tags is parsed just
when every negation in the tree is that of a tag. What it is parsed to may be another tree, but it
has the same truth as the tree for the tags of any record, and refers to the same tags in the same
order. -/
theorem rendering_keeps_meaning (t : Tree) (tags : List String) (text : String)
    (referenced : t.referencedTags = .ok tags) (canonical : ∀ tag ∈ tags, Tag.IsCanonical tag)
    (written : t.toText = .ok text) :
    ((∃ t', parse (tokenize text) = .ok t') ↔ t.negatesTags = true) ∧
      ∀ t', parse (tokenize text) = .ok t' →
        (∀ own : List String, ∃ value, t.evaluate own = .ok value ∧ t'.evaluate own = .ok value) ∧
          t'.referencedTags = .ok tags := by
  by_cases nothing : t = .empty
  · -- The query that asks for nothing is written as no tokens, and these are parsed to it.
    subst nothing
    obtain rfl : "" = text := Except.ok.inj written
    refine ⟨iff_of_true ⟨.empty, rfl⟩ rfl, fun t' parsed => ?_⟩
    obtain rfl : Tree.empty = t' := Except.ok.inj parsed
    exact ⟨(Tree.IsWhole.node .and (by simp)).sameQuery.truth, referenced⟩
  · obtain ⟨has_text, scanned⟩ := Tree.hasText_of_toText nothing referenced canonical written
    rw [scanned]
    refine ⟨has_text.exists_parse_iff, fun t' parsed => ?_⟩
    have same := has_text.sameQuery_of_parse parsed
    exact ⟨same.truth, same.referencedTags_eq.trans referenced⟩

/-- Nodes of one operand within each other, which the query that is written has not; and a negation
of such a node, which no query has. -/
theorem rendering_keeps_meaning_lone :
    let t : Tree :=
      .or [.and [.or [.tag "#b"]], .not (.tag "#a"), .and [.tag "#a", .and [.tag "#c"]]]
    let t' : Tree := .or [.tag "#b", .not (.tag "#a"), .and [.tag "#a", .tag "#c"]]
    t.toText = .ok "(#b) OR NOT #a OR #a AND (#c)" ∧ t.negatesTags = true ∧
      parse (tokenize "(#b) OR NOT #a OR #a AND (#c)") = .ok t' ∧
      t'.referencedTags = .ok ["#b", "#a", "#c"] ∧
      (∃ value, t.evaluate ["#a", "#c"] = .ok value ∧ t'.evaluate ["#a", "#c"] = .ok value) ∧
      (Tree.not (.and [.tag "#a"])).toText = .ok "NOT (#a)" ∧
      ¬∃ t'', parse (tokenize "NOT (#a)") = .ok t'' := by
  intro t t'
  have canonical (own : List Char) (some_body : own ≠ [])
      (of_body : own.all Tag.isBodyChar = true) :
      Tag.IsCanonical (String.ofList (Tag.marker :: own)) := ⟨own, some_body, of_body, rfl⟩
  have a : Tag.IsCanonical "#a" := canonical ['a'] (by decide) (by decide)
  have tags : ∀ tag ∈ ["#b", "#a", "#c"], Tag.IsCanonical tag :=
    List.forall_mem_cons.mpr ⟨canonical ['b'] (by decide) (by decide), List.forall_mem_cons.mpr
      ⟨a, List.forall_mem_singleton.mpr (canonical ['c'] (by decide) (by decide))⟩⟩
  have written : t.toText = .ok "(#b) OR NOT #a OR #a AND (#c)" := by decide +kernel
  have written' : (Tree.not (.and [.tag "#a"])).toText = .ok "NOT (#a)" := by decide +kernel
  have parsed : parse (tokenize "(#b) OR NOT #a OR #a AND (#c)") = .ok t' := by decide +kernel
  obtain ⟨sound, same⟩ := rendering_keeps_meaning t ["#b", "#a", "#c"] _ rfl tags written
  obtain ⟨unsound, -⟩ := rendering_keeps_meaning (.not (.and [.tag "#a"])) ["#a"] _ rfl
    (List.forall_mem_singleton.mpr a) written'
  obtain ⟨truth, named⟩ := same t' parsed
  exact ⟨written, sound.mp ⟨t', parsed⟩, parsed, named, truth _, written',
    fun found => Bool.false_ne_true (unsound.mp found)⟩

end TradeJournal.Query
