import TradeJournal.Yaml.Scalar

/-!
# From text to YAML tokens

Tokens are found from left to right. A column to the right of the current block begins a new one,
and a column to its left ends blocks; both are tokens. What turns out to be a key only at the colon
after it was passed over before, so each token that may be a key is remembered until its line or
1024 characters are over, one for each level of flow collections; the key's own token is put in
front of it later. In a block a token that stands where a key is due has to become one.
-/

namespace TradeJournal.Yaml

/-- **A token that may be a key**: how many tokens come before it, where it stands, and whether it
has to be a key. -/
structure PossibleKey where
  count : Nat
  required : Bool
  index : Nat
  line : Nat
  column : Nat
  deriving Repr

/-- **How far scanning has come**: the place, the tokens so far, latest first, and their number;
the columns of the blocks around, innermost first; whether a key may begin; and the possible keys,
one for each flow collection that is open, innermost first, and one for the block. -/
structure Scan where
  cursor : Cursor
  tokens : List Token := []
  count : Nat := 0
  indent : Int := -1
  indents : List Int := []
  mayBeKey : Bool := true
  keys : List (Option PossibleKey) := [none]
  deriving Repr

namespace Scan

/-- The number of flow collections that are open. -/
def flowLevel (s : Scan) : Nat := s.keys.length - 1

/-- Whether a flow collection is open. -/
def inFlow (s : Scan) : Bool := 0 < s.flowLevel

/-- One more token. -/
def push (s : Scan) (t : Token) : Scan := { s with tokens := t :: s.tokens, count := s.count + 1 }

/-- A token put behind the first ones. -/
def insertAt (s : Scan) (place : Nat) (t : Token) : Scan :=
  let later := s.count - place
  { s with tokens := s.tokens.take later ++ t :: s.tokens.drop later, count := s.count + 1 }

/-- The end of all blocks to the right of a column. The first argument bounds their number. -/
def unwindFrom : Nat → Int → Scan → Scan
  | 0, _, s => s
  | fuel + 1, column, s =>
    if column < s.indent then
      unwindFrom fuel column
        { s.push .blockEnd with indent := s.indents.head?.getD (-1), indents := s.indents.tail }
    else s

/-- The end of all blocks to the right of a column; columns say nothing inside flow collections. -/
def unwind (column : Int) (s : Scan) : Scan :=
  if s.inFlow then s else unwindFrom (s.indents.length + 1) column s

/-- A block that begins at a column, when that is to the right of the current one. -/
def indentTo? (column : Nat) (s : Scan) : Option Scan :=
  if s.indent < column then some { s with indents := s.indent :: s.indents, indent := column }
    else none

/-- The possible keys that are not over; one that had to be a key must not be. -/
def expire (s : Scan) : Except Fault Scan :=
  let passed (k : PossibleKey) : Bool := k.line ≠ s.cursor.line || 1024 < s.cursor.index - k.index
  if s.keys.any fun k => (k.map fun k => passed k && k.required).getD false then .error .malformed
  else .ok { s with keys := s.keys.map fun k => k.filter (!passed ·) }

/-- The possible key on this level, given up. -/
def dropKey (s : Scan) : Except Fault Scan :=
  match s.keys with
  | some k :: rest => if k.required then .error .malformed else .ok { s with keys := none :: rest }
  | _ => .ok s

/-- The next token remembered as a possible key, where a key may begin. -/
def noteKey (s : Scan) : Except Fault Scan :=
  if s.mayBeKey then do
    let s ← s.dropKey
    let key : PossibleKey :=
      ⟨s.count, !s.inFlow && s.indent = s.cursor.column, s.cursor.index, s.cursor.line,
        s.cursor.column⟩
    .ok { s with keys := some key :: s.keys.tail }
  else .ok s

/-- A token that takes some characters. -/
def take (s : Scan) (n : Nat) (t : Token) : Scan := { s.push t with cursor := s.cursor.skip n }

/-- A token that has been read from a text of its own. -/
def took (s : Scan) (read : Token × Cursor) : Scan := { s.push read.1 with cursor := read.2 }

/-- The place of the next token: spaces, comments and line ends are passed over. -/
def toNext : Nat → Scan → Scan
  | 0, s => s
  | fuel + 1, s =>
    let c := s.cursor.skipSpaces.skipComment
    match c.lineBreak? with
    | some (_, c) => toNext fuel { s with cursor := c, mayBeKey := s.mayBeKey || !s.inFlow }
    | none => { s with cursor := c }

/-- A directive or a document mark ends all blocks. -/
def between (s : Scan) : Except Fault Scan := do
  .ok { ← (s.unwind (-1)).dropKey with mayBeKey := false }

/-- The beginning of a flow collection. -/
def openFlow (s : Scan) (t : Token) : Except Fault Scan := do
  let s ← s.noteKey
  .ok { s.take 1 t with keys := none :: s.keys, mayBeKey := true }

/-- The end of a flow collection. -/
def closeFlow (s : Scan) (t : Token) : Except Fault Scan := do
  let s ← s.dropKey
  if s.inFlow then .ok { s.take 1 t with keys := s.keys.tail, mayBeKey := false }
  else .error .malformed

/-- A dash before an entry of a block. -/
def blockEntry (s : Scan) : Except Fault Scan := do
  let s ←
    if s.inFlow then .ok s
    else if !s.mayBeKey then .error .malformed
    else .ok (((s.indentTo? s.cursor.column).map (·.push .blockSequenceStart)).getD s)
  .ok ({ ← s.dropKey with mayBeKey := true }.take 1 .blockEntry)

/-- A question mark before a key. -/
def explicitKey (s : Scan) : Except Fault Scan := do
  let s ←
    if s.inFlow then .ok s
    else if !s.mayBeKey then .error .malformed
    else .ok (((s.indentTo? s.cursor.column).map (·.push .blockMappingStart)).getD s)
  .ok ({ ← s.dropKey with mayBeKey := !s.inFlow }.take 1 .key)

/-- **A colon before a value**: it makes the possible key on its level a key. -/
def value (s : Scan) : Except Fault Scan :=
  match s.keys with
  | some k :: rest =>
    let s := { s with keys := none :: rest }.insertAt k.count .key
    let s :=
      if s.inFlow then s
      else ((s.indentTo? k.column).map (·.insertAt k.count .blockMappingStart)).getD s
    .ok ({ s with mayBeKey := false }.take 1 .value)
  | _ => do
    let s ←
      if s.inFlow then .ok s
      else if !s.mayBeKey then .error .malformed
      else .ok (((s.indentTo? s.cursor.column).map (·.push .blockMappingStart)).getD s)
    .ok ({ ← s.dropKey with mayBeKey := !s.inFlow }.take 1 .value)

/-- A token that may be a key, read from the place after its sign. -/
def named (s : Scan) (read : Cursor → Except Fault (Token × Cursor)) : Except Fault Scan := do
  let s ← s.noteKey
  .ok ({ s with mayBeKey := false }.took (← read s.cursor))

/-- A quoted scalar. -/
def quoted (s : Scan) (double : Bool) : Except Fault Scan :=
  s.named fun c => do
    let (text, after) ← quotedScalar double (c.rest.length + 1) c.next []
    .ok (.scalar (String.ofList text) false, after)

/-- A block scalar. -/
def block (s : Scan) (isFolded : Bool) : Except Fault Scan := do
  let s ← { s with mayBeKey := true }.dropKey
  let (text, after) ← blockScalar isFolded s.indent s.cursor.next
  .ok (s.took (.scalar (String.ofList text) false, after))

/-- Whether a plain scalar may begin here. -/
def plainBegins (s : Scan) : Bool :=
  match s.cursor.rest with
  | [] => false
  | c :: rest =>
    if c = '-' || (!s.inFlow && (c = '?' || c = ':')) then !endOr isSeparator rest
    else
      !isSeparator c && c ∉ ['-', '?', ':', ',', '[', ']', Char.ofNat 0x7B, Char.ofNat 0x7D,
        '#', '&',
        '*', '!', '|', '>', '\'', '"', '%', '@', Char.ofNat 0x60]

/-- A plain scalar. -/
def plain (s : Scan) : Except Fault Scan := do
  let s ← s.noteKey
  let (text, after, ended) :=
    plainScalar s.inFlow (s.indent + 1) (s.cursor.rest.length + 1) s.cursor [] [] false
  .ok { s.took (.scalar (String.ofList text) true, after) with mayBeKey := ended }

/-- **The token at a place** that is not the end of the text. -/
def token (s : Scan) (c : Char) (rest : List Char) : Except Fault Scan :=
  let apart := endOr isSeparator rest
  if c = '%' ∧ s.cursor.column = 0 then do
    let s ← s.between
    .ok (s.took (← directive s.cursor.next))
  else if c = '-' ∧ s.cursor.column = 0 ∧ s.cursor.hasMark ['-', '-', '-'] then do
    .ok ((← s.between).take 3 .documentStart)
  else if c = '.' ∧ s.cursor.column = 0 ∧ s.cursor.hasMark ['.', '.', '.'] then do
    .ok ((← s.between).take 3 .documentEnd)
  else if c = '[' then s.openFlow .flowSequenceStart
  else if c.toNat = 0x7B then s.openFlow .flowMappingStart
  else if c = ']' then s.closeFlow .flowSequenceEnd
  else if c.toNat = 0x7D then s.closeFlow .flowMappingEnd
  else if c = ',' then do .ok ({ ← s.dropKey with mayBeKey := true }.take 1 .flowEntry)
  else if c = '-' ∧ apart then s.blockEntry
  else if c = '?' ∧ (s.inFlow ∨ apart) then s.explicitKey
  else if c = ':' ∧ (s.inFlow ∨ apart) then s.value
  else if c = '*' then s.named fun c => do
    let (name, after) ← anchorName c.next
    .ok (.alias name, after)
  else if c = '&' then s.named fun c => do
    let (name, after) ← anchorName c.next
    .ok (.anchor name, after)
  else if c = '!' then s.named tagToken
  else if c = '|' ∧ ¬ s.inFlow then s.block false
  else if c = '>' ∧ ¬ s.inFlow then s.block true
  else if c = '\'' then s.quoted false
  else if c = '"' then s.quoted true
  else if s.plainBegins then s.plain
  else .error .malformed

/-- **All tokens**; the first argument bounds their number. -/
def run : Nat → Scan → Except Fault (List Token)
  | 0, _ => .error .malformed
  | fuel + 1, s => do
    let s ← (toNext (s.cursor.rest.length + 1) s).expire
    let s := s.unwind s.cursor.column
    match s.cursor.rest with
    | [] => do
      let s ← (s.unwind (-1)).dropKey
      .ok s.tokens.reverse
    | c :: rest =>
      match s.token c rest with
      | .ok s => run fuel s
      | .error (.noCharacter code) => .ok (s.push (.broken code)).tokens.reverse
      | .error f => .error f

end Scan

/-- **The tokens of a text**; a byte order mark at its start is passed over. -/
def tokenize (text : List Char) : Except Fault (List Token) :=
  if !text.all isAllowed then .error .malformed
  else
    let start : Cursor := ⟨text, 0, 0, 0⟩
    let start := if text.head? = some (Char.ofNat 0xFEFF) then start.next else start
    Scan.run (text.length + 1) { cursor := start }

end TradeJournal.Yaml
