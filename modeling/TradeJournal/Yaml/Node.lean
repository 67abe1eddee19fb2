import TradeJournal.Yaml.Scan

/-!
# YAML nodes

The tree that tokens build: scalars, sequences and mappings, each with the tag that was written on
it, if any. An anchor names a node, and an alias stands for the node so named; one name is given
once. Inside a collection that is named, its name stands for the collection without its parts, so
that nodes stay trees, though a reader may as well give a collection that contains itself.
-/

namespace TradeJournal.Yaml

/-- The tag that is written on a node: none, the mark that asks for no particular one, or a name. -/
inductive WrittenTag
  | none
  | plain
  | named (name : String)
  deriving DecidableEq, Repr

/-- **A node.** A scalar remembers whether its text was written without quotes. -/
inductive Node
  | scalar (tag : WrittenTag) (text : String) (plain : Bool)
  | sequence (tag : WrittenTag) (items : List Node)
  | mapping (tag : WrittenTag) (entries : List (Node × Node))
  deriving Repr

namespace Node

/-- The node that stands where nothing is written. -/
def missing : Node := .scalar .none "" true

/-- **What is left of a document**: tokens, the handles of tags, and the named nodes. -/
structure Source where
  tokens : List Token
  handles : List (String × String)
  anchors : List (String × Node) := []
  deriving Repr

/-- The handles that every document knows. -/
def standardHandles : List (String × String) := [("!", "!"), ("!!", "tag:yaml.org,2002:")]

namespace Source

/-- The next token. -/
def peek (s : Source) : Option Token := s.tokens.head?

/-- The source after the next token. -/
def advance (s : Source) : Source := { s with tokens := s.tokens.tail }

/-- What is wrong with a source whose next token cannot stand where it does. -/
def fault (s : Source) : Fault :=
  match s.peek with
  | some (.broken code) => .noCharacter code
  | _ => .malformed

/-- The source after the next token, if that is the expected one. -/
def skip? (s : Source) (t : Token) : Except Fault Source :=
  if s.peek = some t then .ok s.advance else .error s.fault

/-- Whether the next token is one of several; the end of the tokens counts as none. -/
def isAt (s : Source) (ts : List Token) : Bool := (s.peek.map fun t => decide (t ∈ ts)).getD false

/-- The source with a name for a node; a name is given once. -/
def claim (s : Source) (anchor : Option String) (n : Node) : Except Fault Source :=
  match anchor with
  | none => .ok s
  | some a =>
    if s.anchors.any (·.1 = a) then .error .malformed
    else .ok { s with anchors := (a, n) :: s.anchors }

/-- A node under a name that was claimed for it. -/
def settle (s : Source) (anchor : Option String) (n : Node) : Node × Source :=
  match anchor with
  | none => (n, s)
  | some a => (n, { s with anchors := (a, n) :: s.anchors })

/-- A node without parts under a name. -/
def leaf (s : Source) (anchor : Option String) (n : Node) : Except Fault (Node × Source) := do
  .ok (n, ← s.claim anchor n)

/-- A collection under a name, from the place of its first part on. -/
def collect {α : Type} (s : Source) (anchor : Option String) (make : List α → Node)
    (readParts : Source → Except Fault (List α × Source)) : Except Fault (Node × Source) := do
  let (parts, s) ← readParts (← s.claim anchor (make []))
  .ok (s.settle anchor (make parts))

/-- A tag with its handle replaced. -/
def tagOf (s : Source) (handle : Option String) (suffix : String) : Except Fault WrittenTag := do
  let name ← match handle with
    | none => .ok suffix
    | some h =>
      match s.handles.lookup h with
      | some start => .ok (start ++ suffix)
      | none => .error .malformed
  .ok (if name = "!" then .plain else .named name)

/-- The anchor and the tag before a node, in either order. -/
def properties (s : Source) : Except Fault (Option String × WrittenTag × Source) :=
  match s.tokens with
  | .anchor a :: .tag handle suffix :: _ => do
    .ok (some a, ← s.tagOf handle suffix, s.advance.advance)
  | .anchor a :: _ => .ok (some a, .none, s.advance)
  | .tag handle suffix :: .anchor a :: _ => do
    .ok (some a, ← s.tagOf handle suffix, s.advance.advance)
  | .tag handle suffix :: _ => do .ok (none, ← s.tagOf handle suffix, s.advance)
  | _ => .ok (none, .none, s)

end Source

mutual

/-- **A node.** `block` tells whether block collections may stand here, and `indentless` whether the
entries of a sequence may stand at the column of the mapping around. The first argument bounds the
depth. -/
def read (block indentless : Bool) : Nat → Source → Except Fault (Node × Source)
  | 0, _ => .error .malformed
  | fuel + 1, s =>
    match s.peek with
    | some (.alias name) => do .ok (← need (s.anchors.lookup name), s.advance)
    | _ => do
      let (anchor, tag, s) ← s.properties
      if indentless && s.peek = some .blockEntry then
        s.collect anchor (.sequence tag) (indentlessItems fuel)
      else
        match s.peek with
        | some (.scalar text plain) =>
          s.advance.leaf anchor (.scalar tag text (plain || tag = .plain))
        | some .flowSequenceStart => s.advance.collect anchor (.sequence tag) (flowItems true fuel)
        | some .flowMappingStart => s.advance.collect anchor (.mapping tag) (flowEntries true fuel)
        | some (.broken code) => .error (.noCharacter code)
        | next =>
          if block && next = some .blockSequenceStart then
            s.advance.collect anchor (.sequence tag) (blockItems fuel)
          else if block && next = some .blockMappingStart then
            s.advance.collect anchor (.mapping tag) (blockEntries fuel)
          else if anchor.isSome || tag ≠ .none then s.leaf anchor (.scalar tag "" true)
          else .error .malformed

/-- A node, unless one of the given tokens is next. -/
def readUnless (stops : List Token) (block indentless : Bool) :
    Nat → Source → Except Fault (Node × Source)
  | 0, _ => .error .malformed
  | fuel + 1, s => if s.isAt stops then .ok (missing, s) else read block indentless fuel s

/-- The items of a block sequence. -/
def blockItems : Nat → Source → Except Fault (List Node × Source)
  | 0, _ => .error .malformed
  | fuel + 1, s =>
    if s.peek = some .blockEntry then do
      let (item, s) ← readUnless [.blockEntry, .blockEnd] true false fuel s.advance
      let (items, s) ← blockItems fuel s
      .ok (item :: items, s)
    else do .ok ([], ← s.skip? .blockEnd)

/-- The items of a sequence without a block of its own. -/
def indentlessItems : Nat → Source → Except Fault (List Node × Source)
  | 0, _ => .error .malformed
  | fuel + 1, s =>
    if s.peek = some .blockEntry then do
      let (item, s) ← readUnless [.blockEntry, .key, .value, .blockEnd] true false fuel s.advance
      let (items, s) ← indentlessItems fuel s
      .ok (item :: items, s)
    else .ok ([], s)

/-- The entries of a block mapping. -/
def blockEntries : Nat → Source → Except Fault (List (Node × Node) × Source)
  | 0, _ => .error .malformed
  | fuel + 1, s =>
    if s.peek = some .key then do
      let stops := [Token.key, Token.value, Token.blockEnd]
      let (key, s) ← readUnless stops true true fuel s.advance
      let (item, s) ←
        if s.peek = some .value then readUnless stops true true fuel s.advance else .ok (missing, s)
      let (entries, s) ← blockEntries fuel s
      .ok ((key, item) :: entries, s)
    else do .ok ([], ← s.skip? .blockEnd)

/-- The items of a flow sequence; a key makes an item a mapping of one entry. -/
def flowItems (first : Bool) : Nat → Source → Except Fault (List Node × Source)
  | 0, _ => .error .malformed
  | fuel + 1, s =>
    if s.peek = some .flowSequenceEnd then .ok ([], s.advance)
    else do
      let s ← if first then .ok s else s.skip? .flowEntry
      if s.peek = some .flowSequenceEnd then .ok ([], s.advance)
      else do
        let (item, s) ←
          if s.peek = some .key then do
            let (key, s) ← readUnless [.value, .flowEntry, .flowSequenceEnd] false false fuel
                s.advance
            let (item, s) ←
              if s.peek = some .value then
                readUnless [.flowEntry, .flowSequenceEnd] false false fuel s.advance
              else .ok (missing, s)
            .ok (.mapping .none [(key, item)], s)
          else read false false fuel s
        let (items, s) ← flowItems false fuel s
        .ok (item :: items, s)

/-- The entries of a flow mapping; a node without a key's sign has no value. -/
def flowEntries (first : Bool) : Nat → Source → Except Fault (List (Node × Node) × Source)
  | 0, _ => .error .malformed
  | fuel + 1, s =>
    if s.peek = some .flowMappingEnd then .ok ([], s.advance)
    else do
      let s ← if first then .ok s else s.skip? .flowEntry
      if s.peek = some .flowMappingEnd then .ok ([], s.advance)
      else do
        let (entry, s) ←
          if s.peek = some .key then do
            let (key, s) ← readUnless [.value, .flowEntry, .flowMappingEnd] false false fuel
                s.advance
            let (item, s) ←
              if s.peek = some .value then
                readUnless [.flowEntry, .flowMappingEnd] false false fuel s.advance
              else .ok (missing, s)
            .ok ((key, item), s)
          else do
            let (key, s) ← read false false fuel s
            .ok ((key, missing), s)
        let (entries, s) ← flowEntries false fuel s
        .ok (entry :: entries, s)

end

/-- The directives before a document: one version at most, and handles, none given twice. -/
def directives (version : Bool) (handles : List (String × String)) :
    List Token → Except Fault (List (String × String) × List Token)
  | .versionDirective major :: rest =>
    if version || major ≠ 1 then .error .malformed else directives true handles rest
  | .tagDirective handle start :: rest =>
    if handles.any (·.1 = handle) then .error .malformed
    else directives version ((handle, start) :: handles) rest
  | .otherDirective :: rest => directives version handles rest
  | rest => .ok (handles, rest)

/-- Whether a token begins something between documents. -/
def isDirective : Token → Bool
  | .versionDirective _ | .tagDirective .. | .otherDirective => true
  | _ => false

/-- The tokens after the marks for the end of a document. -/
def skipEnds (tokens : List Token) : List Token := tokens.dropWhile (· = .documentEnd)

/-- **The node of the only document** among tokens; none when there is no document. -/
def ofTokens (tokens : List Token) : Except Fault (Option Node) := do
  let fuel := 4 * tokens.length + 8
  let explicit := (tokens.head?.map fun t => isDirective t || t = .documentStart).getD false
  let finish (read : Node × Source) : Except Fault (Option Node) :=
    let s := { read.2 with tokens := skipEnds read.2.tokens }
    if s.tokens.isEmpty then .ok (some read.1) else .error s.fault
  if tokens.isEmpty then .ok none
  else if !explicit then do finish (← read true false fuel ⟨tokens, standardHandles, []⟩)
  else
    let (handles, rest) ← directives false [] tokens
    let s ← Source.skip? ⟨rest, handles ++ standardHandles, []⟩ .documentStart
    let ended :=
      (s.peek.map fun t => isDirective t || t = .documentStart || t = .documentEnd).getD true
    if ended then finish (missing, s) else do finish (← read true false fuel s)

end Node

end TradeJournal.Yaml
