import TradeJournal.Reader
import TradeJournal.Yaml.Node
import TradeJournal.Yaml.Resolve

/-!
# YAML documents

The value of a YAML text. Tags that are written have to be those of known kinds of value. A merge
key brings the entries of another mapping, or of several, into its own, which take precedence; of
several the first one does. Keys are values that do not change.

Of several faults the one that counts is found level by level: the parts of a collection are looked
at from first to last, and collections among them only after that whole level.

The program reads YAML in this way (`Yaml.reader`); settings may be read by any other reader.
-/

namespace TradeJournal.Yaml

/-! ### Kinds of nodes -/

/-- What the tag of a node makes it. -/
inductive NodeKind
  | scalar (kind : ScalarKind)
  | sequence
  | mapping
  | set
  | pairs
  deriving DecidableEq, Repr

/-- The names of tags. -/
def tagNames : List (String × NodeKind) :=
  [("null", .scalar .null), ("bool", .scalar .bool), ("int", .scalar .int),
    ("float", .scalar .float), ("timestamp", .scalar .date), ("str", .scalar .text),
    ("binary", .scalar .binary), ("merge", .scalar .merge), ("value", .scalar .default),
    ("seq", .sequence), ("map", .mapping), ("set", .set), ("omap", .pairs), ("pairs", .pairs)]

/-- The kind that a tag names. -/
def kindNamed? (name : String) : Option NodeKind :=
  (tagNames.find? fun entry => "tag:yaml.org,2002:" ++ entry.1 = name).map (·.2)

/-- **The kind of a node**; none for a tag that names no known kind. -/
def Node.kind? : Node → Option NodeKind
  | .scalar (.named name) .. | .sequence (.named name) _ | .mapping (.named name) _ =>
    kindNamed? name
  | .scalar _ text plain => some (.scalar (if plain then kindOf text.toList else .text))
  | .sequence .. => some .sequence
  | .mapping .. => some .mapping

/-- Whether a node is the key for a default. -/
def Node.isDefault (n : Node) : Bool := n.kind? = some (.scalar .default)

/-! ### Scalars -/

mutual

/-- The text of a node; that of a mapping is the one under the key for a default. -/
def Node.text? : Node → Option String
  | .scalar _ text _ => some text
  | .sequence .. => none
  | .mapping _ entries => defaultText? entries

/-- The text under the first key for a default. -/
def defaultText? : List (Node × Node) → Option String
  | [] => none
  | (key, n) :: rest => if key.isDefault then n.text? else defaultText? rest

end

/-- **The value of a node that is a scalar by its kind.** -/
def Node.scalarValue (kind : ScalarKind) (n : Node) : Except Fault Value := do
  let text ← need n.text?
  match kind, n with
  | .date, .mapping .. => .error .noDateText
  | kind, _ => Yaml.scalarValue kind text.toList

/-! ### Mappings -/

mutual

/-- The entries of a mapping node, those of merge keys in front. The first argument bounds the
depth. -/
def mergedEntries : Nat → List (Node × Node) → Except Fault (List (Node × Node))
  | 0, _ => .error .malformed
  | fuel + 1, entries => do
    let merged ← (entries.filter fun e => e.1.kind? = some (.scalar .merge)).mapM fun e =>
      broughtBy fuel e.2
    .ok (merged.flatten ++ entries.filter fun e => e.1.kind? ≠ some (.scalar .merge))

/-- The entries that a merge key brings: those of one mapping, or of several, the first one last. -/
def broughtBy : Nat → Node → Except Fault (List (Node × Node))
  | 0, _ => .error .malformed
  | fuel + 1, .mapping _ entries => mergedEntries fuel entries
  | fuel + 1, .sequence _ items => do
    let lists ← items.mapM fun
      | .mapping _ entries => mergedEntries fuel entries
      | _ => .error .malformed
    .ok lists.reverse.flatten
  | _ + 1, .scalar .. => .error .malformed

end

/-- A key; the key for a default stands for its own text. -/
def keyNode (n : Node) : Node :=
  match n with
  | .scalar _ text _ => if n.isDefault then .scalar .none text false else n
  | n => n

/-- A value as a key, if it can be one. -/
def asKey (v : Value) : Except Fault Value := if v.isHashable then .ok v else .error .malformed

/-- The key and the value of a node that is one entry. -/
def onlyEntry : Node → Except Fault (Node × Node)
  | .mapping _ [entry] => .ok entry
  | _ => .error .malformed

/-! ### Faults, level by level -/

/-- The collections among nodes, if the others have values. -/
def collections : List Node → Except Fault (List Node)
  | [] => .ok []
  | n :: rest => do
    match ← need n.kind? with
    | .scalar kind =>
      let _ ← n.scalarValue kind
      collections rest
    | _ => .ok (n :: (← collections rest))

/-- The collections among the values of entries, if their keys are keys and the other values are
values. -/
def entryCollections : List (Node × Node) → Except Fault (List Node)
  | [] => .ok []
  | (key, n) :: rest => do
    let keys ← collections [keyNode key]
    if !keys.isEmpty then .error .malformed
    else .ok ((← collections [n]) ++ (← entryCollections rest))

/-- The collections inside a collection, if all else in it has a value. The first argument bounds
the depth of merge keys. -/
def Node.innerCollections (fuel : Nat) (n : Node) : Except Fault (List Node) := do
  match n.kind?, n with
  | some .sequence, .sequence _ items => collections items
  | some .mapping, .mapping _ entries | some .set, .mapping _ entries =>
    entryCollections (← mergedEntries fuel entries)
  | some .pairs, .sequence _ items =>
    let lists ← items.mapM fun item => do
      let entry ← onlyEntry item
      collections [entry.1, entry.2]
    .ok lists.flatten
  | _, _ => .error .malformed

/-- **The first fault in collections**, level by level. The first argument bounds the depth. -/
def checkLevel : Nat → List Node → Except Fault Unit
  | 0, _ => .ok ()
  | fuel + 1, level => do
    let inner := (← level.mapM (Node.innerCollections (fuel + 1))).flatten
    if inner.isEmpty then .ok () else checkLevel fuel inner

/-! ### Values -/

/-- The values of an entry that stands alone, side by side. It is known by how it is shown. -/
def pairValue (key value : Value) : Value :=
  let shown := String.ofList ('(' :: Value.shownItems [key, value] ++ [')'])
  .foreign ⟨"tuple", true, true, [key, value].findSome? Value.unhashable?, shown, shown⟩
    (some [key, value])

/-- Keys as a set, which is no key itself. It is known by how its keys are shown in order. -/
def setValue (keys : List Value) : Value :=
  let shown := (keys.map fun key => String.ofList key.shown).mergeSort fun a b => a ≤ b
  let inside := "\x7b" ++ String.intercalate ", " shown ++ "\x7d"
  .foreign ⟨"set", !keys.isEmpty, false, some "set", if keys.isEmpty then "set()"
    else inside, inside⟩
    (some keys)

mutual

/-- **The value of a node.** The first argument bounds the depth. -/
def valueOf : Nat → Node → Except Fault Value
  | 0, _ => .error .malformed
  | fuel + 1, n =>
    match n.kind?, n with
    | some (.scalar kind), n => n.scalarValue kind
    | some .sequence, .sequence _ items => do .ok (.list (← items.mapM (valueOf fuel)))
    | some .mapping, .mapping _ entries => do
      let entries ← mergedEntries (fuel + 1) entries
      .ok (.mapping (Value.ofEntries (← entries.mapM (entryOf fuel))))
    | some .set, .mapping _ entries => do
      let entries ← mergedEntries (fuel + 1) entries
      .ok (setValue ((Value.ofEntries (← entries.mapM (entryOf fuel))).map (·.1)))
    | some .pairs, .sequence _ items => do .ok (.list (← items.mapM (pairOf fuel)))
    | _, _ => .error .malformed

/-- The key and the value of an entry. -/
def entryOf : Nat → Node × Node → Except Fault (Value × Value)
  | 0, _ => .error .malformed
  | fuel + 1, e => do
    let key ← asKey (← valueOf fuel (keyNode e.1))
    .ok (key, ← valueOf fuel e.2)

/-- The value of a node that is one entry. -/
def pairOf : Nat → Node → Except Fault Value
  | 0, _ => .error .malformed
  | fuel + 1, n => do
    let (key, value) ← onlyEntry n
    .ok (pairValue (← valueOf fuel key) (← valueOf fuel value))

end

/-- **The value of a document**, or its first fault. The first argument bounds the depth. -/
def documentValue (fuel : Nat) (n : Node) : Except Fault Value := do
  checkLevel fuel (← collections [n])
  valueOf fuel n

/-- **The value of a YAML text**; a text without a document is null. -/
def parse (text : List Char) : Except Fault Value := do
  let tokens ← tokenize text
  match ← Node.ofTokens tokens with
  | none => .ok .null
  | some n => documentValue (4 * tokens.length + 8) n

/-- **The reader of YAML that the program runs with.** -/
def reader : YamlReader := fun text => (parse text).mapError fun
  | .malformed => .rejected
  | f => .broken f.kind f.message

end TradeJournal.Yaml
