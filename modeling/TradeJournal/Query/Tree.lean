import TradeJournal.Tag
import TradeJournal.Value

/-!
# Query trees

A query means a tree: tags at the leaves, conjunctions and disjunctions of any number of
subtrees, and negations. A conjunction of nothing is true and a disjunction of nothing is
false. A tree put together by hand may hold something that is no query at all, of which only the
kind of value is known; asking such a tree for its meaning, its tags or its text fails there.
-/

namespace TradeJournal.Query

/-- **A query tree.** -/
inductive Tree
  | tag (text : String)
  | and (children : List Tree)
  | or (children : List Tree)
  | not (child : Tree)
  | foreign (kind : String)
  deriving Repr, Inhabited

/-- What is wrong with a tree. -/
inductive TreeFault
  /-- Something that is no query. -/
  | foreign (kind : String)
  /-- A conjunction of nothing, which has no text inside a query. -/
  | emptyAnd
  /-- A disjunction of nothing, which has no text. -/
  | emptyOr
  /-- A negation of no subtree or of several. -/
  | negationOf (count : Nat)
  deriving DecidableEq, Repr

/-- The wording of a fault. -/
def TreeFault.message : TreeFault → String
  | .foreign kind => "Unsupported query node: " ++ kind
  | .emptyAnd => "Empty AndNode cannot be rendered as a query"
  | .emptyOr => "Empty OrNode cannot be rendered as a query"
  | .negationOf count => "NotNode requires exactly one child, got " ++ toString count

namespace Tree

/-- The query that asks for nothing: every record matches. -/
def empty : Tree := .and []

/-- A negation of the only one of several subtrees. -/
def negation : List Tree → Except TreeFault Tree
  | [child] => .ok (.not child)
  | children => .error (.negationOf children.length)

mutual

/-- Whether two trees are equal. -/
def beq : Tree → Tree → Bool
  | .tag a, .tag b => a == b
  | .and a, .and b => beqList a b
  | .or a, .or b => beqList a b
  | .not a, .not b => beq a b
  | .foreign a, .foreign b => a == b
  | _, _ => false

/-- Whether two lists of trees are equal. -/
def beqList : List Tree → List Tree → Bool
  | [], [] => true
  | a :: as, b :: bs => beq a b && beqList as bs
  | _, _ => false

end

mutual

theorem eq_of_beq : ∀ {a b : Tree}, beq a b = true → a = b
  | .tag _, .tag _, h => by simpa [beq] using h
  | .and a, .and b, h => by rw [beq] at h; rw [eq_of_beqList h]
  | .or a, .or b, h => by rw [beq] at h; rw [eq_of_beqList h]
  | .not a, .not b, h => by rw [beq] at h; rw [eq_of_beq h]
  | .foreign _, .foreign _, h => by simpa [beq] using h
  | .tag _, .and _, h | .tag _, .or _, h | .tag _, .not _, h | .tag _, .foreign _, h
  | .and _, .tag _, h | .and _, .or _, h | .and _, .not _, h | .and _, .foreign _, h
  | .or _, .tag _, h | .or _, .and _, h | .or _, .not _, h | .or _, .foreign _, h
  | .not _, .tag _, h | .not _, .and _, h | .not _, .or _, h | .not _, .foreign _, h
  | .foreign _, .tag _, h | .foreign _, .and _, h | .foreign _, .or _, h
  | .foreign _, .not _, h => by simp [beq] at h

theorem eq_of_beqList : ∀ {a b : List Tree}, beqList a b = true → a = b
  | [], [], _ => rfl
  | _ :: _, _ :: _, h => by
    rw [beqList, Bool.and_eq_true] at h
    rw [eq_of_beq h.1, eq_of_beqList h.2]
  | [], _ :: _, h | _ :: _, [], h => by simp [beqList] at h

end

mutual

theorem beq_refl : ∀ a : Tree, beq a a = true
  | .tag _ => by simp [beq]
  | .and a => by rw [beq]; exact beqList_refl a
  | .or a => by rw [beq]; exact beqList_refl a
  | .not a => by rw [beq]; exact beq_refl a
  | .foreign _ => by simp [beq]

theorem beqList_refl : ∀ a : List Tree, beqList a a = true
  | [] => rfl
  | a :: as => by rw [beqList, Bool.and_eq_true]; exact ⟨beq_refl a, beqList_refl as⟩

end

instance : DecidableEq Tree := fun a b =>
  if h : beq a b = true then .isTrue (eq_of_beq h)
  else .isFalse fun equal => h (equal ▸ beq_refl a)

/-! ### Meaning -/

mutual

/-- **Whether a record with the given tags matches.** Subtrees are looked at from left to right
and no further than the answer needs. -/
def evaluate (tags : List String) : Tree → Except TreeFault Bool
  | .tag text => .ok (text ∈ tags)
  | .and children => evaluateAll tags children
  | .or children => evaluateAny tags children
  | .not child => (! ·) <$> evaluate tags child
  | .foreign kind => .error (.foreign kind)

/-- Whether all of several subtrees match. -/
def evaluateAll (tags : List String) : List Tree → Except TreeFault Bool
  | [] => .ok true
  | child :: rest => do
    if ← evaluate tags child then evaluateAll tags rest else .ok false

/-- Whether any of several subtrees matches. -/
def evaluateAny (tags : List String) : List Tree → Except TreeFault Bool
  | [] => .ok false
  | child :: rest => do
    if ← evaluate tags child then .ok true else evaluateAny tags rest

end

/-! ### Tags -/

mutual

/-- The tags at the leaves, from left to right. -/
def leaves : Tree → Except TreeFault (List String)
  | .tag text => .ok [text]
  | .and children | .or children => leavesAll children
  | .not child => leaves child
  | .foreign kind => .error (.foreign kind)

/-- The tags at the leaves of several trees. -/
def leavesAll : List Tree → Except TreeFault (List String)
  | [] => .ok []
  | child :: rest => do
    let first ← leaves child
    let others ← leavesAll rest
    .ok (first ++ others)

end

/-- **The tags that a query refers to**, each at its first occurrence. -/
def referencedTags (t : Tree) : Except TreeFault (List String) := Tag.distinct <$> t.leaves

/-! ### Text -/

/-- Texts with a separator between them. -/
def joined (separator : List Char) : List (List Char) → List Char
  | [] => []
  | [text] => text
  | text :: rest => text ++ separator ++ joined separator rest

/-- A text between parentheses. -/
def parenthesized (text : List Char) : List Char := '(' :: text ++ [')']

/-- Whether a tree needs no parentheses as an operand. -/
def isAtomic : Tree → Bool
  | .tag _ | .not _ => true
  | _ => false

/-- Whether a tree is a conjunction. -/
def isAnd : Tree → Bool
  | .and _ => true
  | _ => false

mutual

/-- **The text of a tree other than the empty query.** Conjunctions and disjunctions that are
operands stand between parentheses, except a conjunction inside a disjunction. -/
def rendered : Tree → Except TreeFault (List Char)
  | .tag text => .ok text.toList
  | .not child => do
    let text ← rendered child
    .ok ("NOT ".toList ++ if child.isAtomic then text else parenthesized text)
  | .and [] => .error .emptyAnd
  | .or [] => .error .emptyOr
  | .and children => joined " AND ".toList <$> renderedAll false children
  | .or children => joined " OR ".toList <$> renderedAll true children
  | .foreign kind => .error (.foreign kind)

/-- The texts of several operands; the first argument tells whether conjunctions go without
parentheses. -/
def renderedAll (bareAnd : Bool) : List Tree → Except TreeFault (List (List Char))
  | [] => .ok []
  | child :: rest => do
    let text ← rendered child
    let others ← renderedAll bareAnd rest
    .ok
      ((if child.isAtomic || (bareAnd && child.isAnd) then text else parenthesized text) :: others)

end

/-- **The text of a query**; the query that asks for nothing has the empty text. -/
def toText (t : Tree) : Except TreeFault String :=
  match t with
  | .and [] => .ok ""
  | t => String.ofList <$> t.rendered

end Tree

end TradeJournal.Query
