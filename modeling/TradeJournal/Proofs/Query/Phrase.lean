import TradeJournal.Proofs.Except
import TradeJournal.Proofs.Query.Scanning

/-!
# The phrase of a tree

A tree is written with tokens, and these are a function of the tree alone: a connective between
operands, and parentheses around those operands that need them. The text of a tree spells them
(`Tree.HasText.exists_toText`): it is scanned to them, and apart from its blanks it holds nothing
but their spellings. So what is said about rendered trees can be said about tokens.

Trees that are put together by hand need not be canonical, but the ones that have a text have the
shape that `Tree.HasText` tells, and the induction on this shape is the one on rendering.
-/

namespace TradeJournal.Query

/-! ### The tokens of a tree -/

/-- Whether conjunctions are written without parentheses as operands. -/
def Connective.bareAnd : Connective → Bool
  | .and => false
  | .or => true

namespace Tree

/-- The text of an operand, given its own text. -/
def operandText (bareAnd : Bool) (child : Tree) (text : List Char) : List Char :=
  if child.isAtomic || (bareAnd && child.isAnd) then text else parenthesized text

/-- The tokens of an operand, given its own tokens. -/
def operandTokens (bareAnd : Bool) (child : Tree) (tokens : List Token) : List Token :=
  if child.isAtomic || (bareAnd && child.isAnd) then tokens else .opening :: tokens ++ [.closing]

mutual

/-- **The tokens that a tree is written with.** -/
def phrase : Tree → List Token
  | .tag text => [.tag text]
  | .not child => .not :: child.operandTokens false (phrase child)
  | .and children => [Token.and].intercalate (phraseAll false children)
  | .or children => [Token.or].intercalate (phraseAll true children)
  | .foreign _ => []

/-- The tokens of several operands; the first argument tells whether conjunctions go without
parentheses. -/
def phraseAll (bareAnd : Bool) : List Tree → List (List Token)
  | [] => []
  | child :: rest => child.operandTokens bareAnd (phrase child) :: phraseAll bareAnd rest

end

/-- The tokens of a tree as an operand. -/
def operandPhrase (bareAnd : Bool) (t : Tree) : List Token := t.operandTokens bareAnd t.phrase

theorem phraseAll_eq_map (bareAnd : Bool) (children : List Tree) :
    phraseAll bareAnd children = children.map (operandPhrase bareAnd) := by
  induction children with
  | nil => rfl
  | cons child rest ih => rw [phraseAll, ih, List.map_cons, operandPhrase]

/-- **A node is written as its operands** with the connective between them. -/
theorem phrase_node (c : Connective) (children : List Tree) :
    (c.node children).phrase = [c.token].intercalate (children.map (operandPhrase c.bareAnd)) := by
  rw [← phraseAll_eq_map]
  cases c <;> rfl

end Tree

theorem Token.scan_operandText (bareAnd : Bool) (child : Tree) (text : List Char) :
    scan (child.operandText bareAnd text) = child.operandTokens bareAnd (scan text) := by
  rw [Tree.operandText, Tree.operandTokens, apply_ite scan, scan_parenthesized]

/-! ### Spelling tokens -/

/-- A text without its blanks. -/
def solid (text : List Char) : List Char := text.filter fun c => !Text.isBlank c

theorem solid_append (first second : List Char) :
    solid (first ++ second) = solid first ++ solid second :=
  List.filter_append _ _

/-- **How a token is spelt in the text of a tree.** -/
def Token.spelling : Token → List Char
  | .tag text => text.toList
  | .and => ['A', 'N', 'D']
  | .or => ['O', 'R']
  | .not => ['N', 'O', 'T']
  | .opening => ['(']
  | .closing => [')']

/-- **Whether a text spells tokens**: it is scanned to them, and holds their spellings and blanks
only. -/
structure Spells (text : List Char) (tokens : List Token) : Prop where
  scan_eq : Token.scan text = tokens
  solid_eq : solid text = tokens.flatMap Token.spelling

namespace Spells

variable {text : List Char} {tokens : List Token}

theorem tag {tag : String} (canonical : Tag.IsCanonical tag) : Spells tag.toList [.tag tag] where
  scan_eq := Token.scan_canonical canonical
  solid_eq := by
    have kept : solid tag.toList = tag.toList :=
      List.filter_eq_self.mpr fun c member => by simp [(canonical.spelling c member).not_blank]
    rw [kept, List.flatMap_singleton]
    rfl

theorem negation (h : Spells text tokens) : Spells ("NOT ".toList ++ text) (.not :: tokens) where
  scan_eq := by rw [Token.scan_negation, h.scan_eq]
  solid_eq := by
    rw [solid_append, h.solid_eq, List.flatMap_cons]
    rfl

/-- **An operand spells its tokens**, between parentheses if it needs them. -/
theorem operand (h : Spells text tokens) (bareAnd : Bool) (child : Tree) :
    Spells (child.operandText bareAnd text) (child.operandTokens bareAnd tokens) where
  scan_eq := by rw [Token.scan_operandText, h.scan_eq]
  solid_eq := by
    rw [Tree.operandText, Tree.operandTokens]
    split
    · exact h.solid_eq
    · have opened : solid (Tree.parenthesized text) = '(' :: (solid text ++ [')']) := by
        rw [Tree.parenthesized, ← List.singleton_append, List.append_assoc, solid_append,
          solid_append]
        rfl
      rw [opened, h.solid_eq, List.flatMap_append, List.flatMap_cons]
      rfl

theorem solid_separator (c : Connective) : solid c.separator = c.token.spelling := by
  cases c <;> rfl

/-- **Operands with a connective between them spell their tokens** with its token between them. -/
theorem joined (c : Connective) {written : List (List Char × List Token)} (some_text : written ≠ [])
    (each : ∀ w ∈ written, Spells w.1 w.2) :
    Spells (Tree.joined c.separator (written.map (·.1)))
      ([c.token].intercalate (written.map (·.2))) where
  scan_eq := by
    rw [Token.scan_joined c (by simpa using some_text), List.map_map]
    exact congrArg _ (List.map_congr_left fun w listed => (each w listed).scan_eq)
  solid_eq := by
    induction written with
    | nil => exact absurd rfl some_text
    | cons first rest ih =>
      obtain ⟨own, others⟩ := List.forall_mem_cons.mp each
      cases rest with
      | nil => simpa [Tree.joined] using own.solid_eq
      | cons second rest =>
        have split : Tree.joined c.separator ((first :: second :: rest).map (·.1)) =
            first.1 ++ c.separator ++ Tree.joined c.separator ((second :: rest).map (·.1)) := rfl
        have more : (second :: rest).map (·.2) ≠ [] := by simp
        rw [split, solid_append, solid_append, ih (List.cons_ne_nil _ _) others, own.solid_eq,
          solid_separator, List.map_cons (l := second :: rest),
          List.intercalate_cons_of_ne_nil more,
          List.flatMap_append, List.flatMap_append, List.flatMap_singleton]

end Spells

/-! ### Trees that have a text -/

/-- **A tree that has a text**, with tags in canonical spelling: no node is without operands. -/
inductive Tree.HasText : Tree → Prop
  | tag {text : String} : Tag.IsCanonical text → HasText (.tag text)
  | not {child : Tree} : HasText child → HasText (.not child)
  | node (c : Connective) {children : List Tree} :
    children ≠ [] → (∀ child ∈ children, HasText child) → HasText (c.node children)

namespace Tree

/-- The text of a node is that of its operands. -/
theorem rendered_node (c : Connective) {children : List Tree} (some_child : children ≠ []) :
    (c.node children).rendered = joined c.separator <$> renderedAll c.bareAnd children := by
  obtain ⟨first, rest, rfl⟩ := List.exists_cons_of_ne_nil some_child
  cases c <;> rfl

/-- The texts of operands, given the text of each. -/
theorem renderedAll_of_forall (bareAnd : Bool) {written : List (Tree × List Char)}
    (each : ∀ w ∈ written, w.1.rendered = .ok w.2) :
    renderedAll bareAnd (written.map (·.1)) =
      .ok (written.map fun w => w.1.operandText bareAnd w.2) := by
  induction written with
  | nil => rfl
  | cons first rest ih =>
    obtain ⟨own, others⟩ := List.forall_mem_cons.mp each
    rw [List.map_cons, renderedAll, own, ih others]
    rfl

/-- A tree that has a text is rendered to one that spells its tokens. -/
theorem HasText.exists_rendered {t : Tree} (h : t.HasText) :
    ∃ text, t.rendered = .ok text ∧ Spells text t.phrase := by
  induction h with
  | @tag text canonical => exact ⟨text.toList, rfl, .tag canonical⟩
  | @not child _ ih =>
    obtain ⟨text, rendered, spells⟩ := ih
    refine ⟨"NOT ".toList ++ child.operandText false text, ?_,
      (spells.operand false child).negation⟩
    rw [Tree.rendered, rendered, operandText, Bool.false_and, Bool.or_false]
    rfl
  | @node c children some_child _ ih =>
    obtain ⟨written, rfl, each⟩ := exists_pairs ih
    refine ⟨_, by rw [rendered_node c some_child, renderedAll_of_forall c.bareAnd fun w listed =>
      (each w listed).1]; rfl, ?_⟩
    have operands := @Spells.joined c
      (written.map fun w => (w.1.operandText c.bareAnd w.2, w.1.operandPhrase c.bareAnd))
      (by simpa using some_child)
      (List.forall_mem_map.mpr fun w listed => (each w listed).2.operand c.bareAnd w.1)
    rw [phrase_node]
    simpa [Function.comp_def] using operands

/-- A tree that has a text asks for something. -/
theorem HasText.ne_empty {t : Tree} (h : t.HasText) : t ≠ .empty := by
  cases h with
  | tag | not => exact nofun
  | node c some_child _ =>
    cases c with
    | and => exact fun equal => some_child (Tree.and.inj equal)
    | or => exact nofun

/-- A tree other than the query that asks for nothing has its own text. -/
theorem toText_of_ne_empty {t : Tree} (some_query : t ≠ .empty) :
    t.toText = String.ofList <$> t.rendered := by
  rw [toText]
  exact some_query

/-- **The text of a tree spells the tokens of the tree.** -/
theorem HasText.exists_toText {t : Tree} (h : t.HasText) :
    ∃ text, t.toText = .ok text ∧ Spells text.toList t.phrase := by
  obtain ⟨text, rendered, spells⟩ := h.exists_rendered
  refine ⟨String.ofList text, ?_, by rwa [String.toList_ofList]⟩
  rw [toText_of_ne_empty h.ne_empty, rendered]
  rfl

mutual

/-- **A tree that is rendered has a text**, when its tags are canonical. -/
theorem hasText_of_rendered : ∀ {t : Tree} {text : List Char} {named : List String},
    t.rendered = .ok text → t.leaves = .ok named → (∀ tag ∈ named, Tag.IsCanonical tag) → t.HasText
  | .tag own, _, named, _, found, canonical => by
    obtain rfl : [own] = named := Except.ok.inj found
    exact .tag (canonical own (List.mem_singleton_self own))
  | .not child, _, _, rendered, found, canonical => by
    obtain ⟨own, own_rendered, -⟩ := bind_eq_ok.mp rendered
    exact .not (hasText_of_rendered own_rendered found canonical)
  | .and [], _, _, rendered, _, _ => by cases rendered
  | .or [], _, _, rendered, _, _ => by cases rendered
  | .and (child :: rest), _, _, rendered, found, canonical => by
    obtain ⟨texts, rendered, -⟩ := map_eq_ok.mp rendered
    exact .node .and (List.cons_ne_nil _ _) (hasText_of_renderedAll rendered found canonical)
  | .or (child :: rest), _, _, rendered, found, canonical => by
    obtain ⟨texts, rendered, -⟩ := map_eq_ok.mp rendered
    exact .node .or (List.cons_ne_nil _ _) (hasText_of_renderedAll rendered found canonical)
  | .foreign _, _, _, rendered, _, _ => by cases rendered

theorem hasText_of_renderedAll : ∀ {children : List Tree} {bareAnd : Bool}
    {texts : List (List Char)}
    {named : List String}, renderedAll bareAnd children = .ok texts →
    leavesAll children = .ok named →
    (∀ tag ∈ named, Tag.IsCanonical tag) → ∀ child ∈ children, child.HasText
  | [], _, _, _, _, _, _ => by simp
  | child :: rest, _, _, _, rendered, found, canonical => by
    obtain ⟨own, own_rendered, rendered⟩ := bind_eq_ok.mp rendered
    obtain ⟨texts, rest_rendered, -⟩ := bind_eq_ok.mp rendered
    obtain ⟨first, own_found, found⟩ := bind_eq_ok.mp found
    obtain ⟨others, rest_found, whole⟩ := bind_eq_ok.mp found
    obtain rfl := Except.ok.inj whole
    obtain ⟨own_canonical, others_canonical⟩ := List.forall_mem_append.mp canonical
    exact List.forall_mem_cons.mpr ⟨hasText_of_rendered own_rendered own_found own_canonical,
      hasText_of_renderedAll rest_rendered rest_found others_canonical⟩

end

end Tree

end TradeJournal.Query
