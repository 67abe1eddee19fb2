import TradeJournal.Text.Utf8
import TradeJournal.Yaml.Fault
import TradeJournal.Yaml.Token

/-!
# Reading YAML scalars and names

The tokens with a text of their own: plain and quoted scalars, block scalars, anchors, tags
and directives. A scalar may run over several lines; where it does, a single line end counts
as a blank and further ones are kept. Each function starts at the first character of its
token and gives the place after it; there is no answer when the token is malformed.
-/

namespace TradeJournal.Yaml

/-! ### Folding -/

/-- What stands for a line end and the empty lines after it. -/
def folded (first : Char) (others : List Char) : List Char :=
  if first ≠ '\n' then first :: others else if others.isEmpty then [' '] else others

/-! ### Plain scalars -/

/-- The characters of a plain scalar up to a blank or a character that ends it. In a flow
collection more characters do. -/
def plainRun (flow : Bool) : List Char → List Char
  | [] => []
  | c :: rest =>
    if isSeparator c || (flow && c ∈ [',', '?', '[', ']', Char.ofNat 0x7B, Char.ofNat 0x7D]) then []
    else if c = ':' && endOr (fun next => isSeparator next
        || (flow && next ∈ [',', '[', ']', Char.ofNat 0x7B, Char.ofNat 0x7D])) rest then []
    else c :: plainRun flow rest

/-- Spaces and line ends inside a plain scalar: what the line ends stand for, and the place
after them. A document mark ends the scalar, and then they stand for nothing. -/
def plainBreaks : Nat → Cursor → List Char → Option (List Char) × Cursor
  | 0, c, made => (some made.reverse, c)
  | fuel + 1, c, made =>
    if c.rest.head? = some ' ' then plainBreaks fuel c.next made
    else
      match c.lineBreak? with
      | none => (some made.reverse, c)
      | some (char, c) =>
        if c.hasDocumentMark then (none, c) else plainBreaks fuel c (char :: made)

/-- **The separation inside a plain scalar**: the text that it stands for, the place after it, and
whether a line ended; without a text the scalar has ended. -/
def plainSeparation (c : Cursor) : List Char × Cursor × Bool :=
  let (spaces, after) := c.span (· = ' ')
  match after.lineBreak? with
  | none => (spaces, after, false)
  | some (first, after) =>
    if after.hasDocumentMark then ([], after, true)
    else
      let (others, after) := plainBreaks (after.rest.length + 1) after []
      ((others.map (folded first)).getD [], after, true)

/-- **A plain scalar**: its text, the place after it, and whether it ended with a line. The first
argument bounds the number of its parts, the last one is the separation before the next part. -/
def plainScalar (flow : Bool) (indent : Int) :
    Nat → Cursor → List Char → List Char → Bool → List Char × Cursor × Bool
  | 0, c, made, _, ended => (made, c, ended)
  | fuel + 1, c, made, separation, ended =>
    if c.rest.head? = some '#' then (made, c, ended)
    else
      let run := plainRun flow c.rest
      if run.isEmpty then (made, c, ended)
      else
        let made := made ++ separation ++ run
        let (separation, c, ended) := plainSeparation (c.skip run.length)
        if separation.isEmpty || c.rest.head? = some '#' ||
          (!flow && (c.column : Int) < indent) then
          (made, c, ended)
        else plainScalar flow indent fuel c made separation ended

/-! ### Quoted scalars -/

/-- The character that a letter after a backslash stands for. -/
def escaped? : Char → Option Nat
  | '0' => some 0
  | 'a' => some 7
  | 'b' => some 8
  | 't' | '\t' => some 9
  | 'n' => some 10
  | 'v' => some 11
  | 'f' => some 12
  | 'r' => some 13
  | 'e' => some 0x1B
  | ' ' => some 0x20
  | '"' => some 0x22
  | '\\' => some 0x5C
  | '/' => some 0x2F
  | 'N' => some 0x85
  | '_' => some 0xA0
  | 'L' => some 0x2028
  | 'P' => some 0x2029
  | _ => none

/-- The number of digits of a numbered escape. -/
def escapeWidth? : Char → Option Nat
  | 'x' => some 2
  | 'u' => some 4
  | 'U' => some 8
  | _ => none

/-- The number that hexadecimal digits denote. -/
def hexNumber? (s : List Char) : Option Nat :=
  if s.all (Number.isDigitIn 16) then some (Number.ofDigitsIn 16 s) else none

/-- Empty lines inside a quoted scalar; a document mark is not allowed there. -/
def quotedBreaks : Nat → Cursor → List Char → Except Fault (List Char × Cursor)
  | 0, _, _ => .error .malformed
  | fuel + 1, c, made =>
    if c.hasDocumentMark then .error .malformed
    else
      let after := (c.span fun char => char = ' ' || char = '\t').2
      match after.lineBreak? with
      | some (char, after) => quotedBreaks fuel after (char :: made)
      | none => .ok (made.reverse, after)

/-- **The rest of a quoted scalar**, from a place inside the quotes on; the text made so far is in
reverse. -/
def quotedScalar (double : Bool) : Nat → Cursor → List Char → Except Fault (List Char × Cursor)
  | 0, _, _ => .error .malformed
  | fuel + 1, c, made =>
    match c.rest with
    | [] => .error .malformed
    | char :: rest =>
      if char = '\'' ∧ ¬ double then
        if rest.head? = some '\'' then quotedScalar double fuel (c.skip 2) ('\'' :: made)
        else .ok (made.reverse, c.next)
      else if char = '"' ∧ double then .ok (made.reverse, c.next)
      else if char = '\\' ∧ double then
        let after := c.next
        match after.lineBreak?, rest with
        | some (_, after), _ => do
          let (others, after) ← quotedBreaks (after.rest.length + 1) after []
          quotedScalar double fuel after (others.reverse ++ made)
        | none, [] => .error .malformed
        | none, letter :: digits =>
          match escaped? letter, escapeWidth? letter with
          | some code, _ => quotedScalar double fuel (after.skip 1) (Char.ofNat code :: made)
          | none, some width => do
            if digits.length < width then .error .malformed
            else
              let code ← need (hexNumber? (digits.take width))
              if 0x110000 ≤ code then .error (.noCharacter code)
              else quotedScalar double fuel (after.skip (width + 1)) (Text.charOfCode code :: made)
          | none, none => .error .malformed
      else if isSeparator char then
        let (spaces, after) := c.span fun char => char = ' ' || char = '\t'
        match after.lineBreak? with
        | some (first, after) => do
          let (others, after) ← quotedBreaks (after.rest.length + 1) after []
          quotedScalar double fuel after ((folded first others).reverse ++ made)
        | none => quotedScalar double fuel after (spaces.reverse ++ made)
      else quotedScalar double fuel c.next (char :: made)

/-! ### Block scalars -/

/-- What becomes of the line ends at the end of a block scalar. -/
inductive Chomping
  | strip
  | clip
  | keep
  deriving DecidableEq, Repr

/-- The sign for what becomes of the line ends. -/
def chomping? : Char → Option Chomping
  | '+' => some .keep
  | '-' => some .strip
  | _ => none

/-- A digit from one to nine; zero is malformed. -/
def increment? (c : Cursor) : Except Fault (Option Nat × Cursor) :=
  match c.rest with
  | d :: _ =>
    if d = '0' then .error .malformed
    else if d.isDigit then .ok (some (d.toNat - 48), c.next)
    else .ok (none, c)
  | [] => .ok (none, c)

/-- A sign at a place, and the place after it. -/
def chompingAt (c : Cursor) : Option Chomping × Cursor :=
  match c.rest.head?.bind chomping? with
  | some chomping => (some chomping, c.next)
  | none => (none, c)

/-- **The header of a block scalar**: the sign and the digit, in either order. -/
def blockHeader (c : Cursor) : Except Fault (Chomping × Option Nat × Cursor) :=
  match chompingAt c with
  | (some chomping, c) => do
    let (increment, c) ← increment? c
    .ok (chomping, increment, c)
  | (none, c) => do
    let (increment, c) ← increment? c
    if increment.isNone then .ok (.clip, none, c)
    else
      let (chomping, c) := chompingAt c
      .ok (chomping.getD .clip, increment, c)

/-- The empty lines before a block scalar and the greatest column that their spaces reach. -/
def blockIndentation : Nat → Cursor → List Char → Nat → List Char × Nat × Cursor
  | 0, c, made, widest => (made.reverse, widest, c)
  | fuel + 1, c, made, widest =>
    if c.rest.head? = some ' ' then blockIndentation fuel c.next made (max widest c.next.column)
    else
      match c.lineBreak? with
      | some (char, c) => blockIndentation fuel c (char :: made) widest
      | none => (made.reverse, widest, c)

/-- The place after at most the spaces that lead to a column. -/
def skipIndent (indent : Nat) (c : Cursor) : Cursor :=
  c.skip (min (indent - c.column) (c.rest.takeWhile (· = ' ')).length)

/-- Empty lines inside a block scalar. -/
def blockBreaks (indent : Nat) : Nat → Cursor → List Char → List Char × Cursor
  | 0, c, made => (made.reverse, c)
  | fuel + 1, c, made =>
    let c := skipIndent indent c
    match c.lineBreak? with
    | some (char, c) => blockBreaks indent fuel c (char :: made)
    | none => (made.reverse, c)

/-- Whether a line begins with a blank. -/
def beginsBlank (s : List Char) : Bool := s.head? = some ' ' || s.head? = some '\t'

/-- **The lines of a block scalar**: the text, the line end after its last line, the empty lines
after that, and the place behind. -/
def blockLines (isFolded : Bool) (indent : Nat) :
    Nat → Cursor → List Char → List Char → List Char × List Char × List Char × Cursor
  | 0, c, breaks, made => (made, [], breaks, c)
  | fuel + 1, c, breaks, made =>
    if c.column ≠ indent || c.rest.isEmpty then (made, [], breaks, c)
    else
      let indented := beginsBlank c.rest
      let (text, after) := c.span fun char => !isBreak char
      let (ending, after) := match after.lineBreak? with
        | some (char, after) => ([char], after)
        | none => ([], after)
      let made := made ++ breaks ++ text
      let (breaks, after) := blockBreaks indent (after.rest.length + 1) after []
      if after.column = indent && !after.rest.isEmpty then
        let joint :=
          if isFolded && ending = ['\n'] && !indented && !beginsBlank after.rest then
            if breaks.isEmpty then [' '] else []
          else ending
        blockLines isFolded indent fuel after breaks (made ++ joint)
      else (made, ending, breaks, after)

/-- **A block scalar** after its sign, inside a block of a given column. -/
def blockScalar (isFolded : Bool) (outer : Int) (c : Cursor) :
    Except Fault (List Char × Cursor) := do
  let (chomping, increment, c) ← blockHeader c
  if !endOr (fun char => char = ' ' || isBreak char) c.rest then .error .malformed
  else
    let c ← need c.skipEmptyLine?
    let least := (max (outer + 1) 1).toNat
    let fuel := c.rest.length + 1
    let (breaks, indent, c) := match increment with
      | none =>
        let (breaks, widest, c) := blockIndentation fuel c [] 0
        (breaks, max least widest, c)
      | some increment =>
        let indent := least + increment - 1
        let (breaks, c) := blockBreaks indent fuel c []
        (breaks, indent, c)
    let (text, ending, breaks, c) := blockLines isFolded indent fuel c breaks []
    .ok (match chomping with
      | .strip => text
      | .clip => text ++ ending
      | .keep => text ++ ending ++ breaks, c)

/-! ### Names and tags -/

/-- Characters of names. -/
def isNameChar (c : Char) : Bool := c.isAlphanum || c = '-' || c = '_'

/-- The name of an anchor or an alias, after its sign. -/
def anchorName (c : Cursor) : Except Fault (String × Cursor) :=
  let (name, after) := c.span isNameChar
  let ends (char : Char) : Bool :=
    isSeparator char || char ∈ ['?', ':', ',', ']', Char.ofNat 0x7D, '%', '@', Char.ofNat 0x60]
  if name.isEmpty || !endOr ends after.rest then .error .malformed
  else .ok (String.ofList name, after)

/-- Characters of tags. -/
def isTagChar (c : Char) : Bool :=
  c.isAlphanum || c ∈ "-;/?:@&=+$,_.!~*'()[]".toList

/-- The bytes that escapes with a percent sign denote. -/
def percentBytes : List Char → Option (List UInt8 × List Char)
  | '%' :: a :: b :: rest => do
    let n ← hexNumber? [a, b]
    let (bytes, rest) ← percentBytes rest
    some (n.toUInt8 :: bytes, rest)
  | '%' :: _ => none
  | s => some ([], s)

/-- The characters of a tag, with escapes. -/
def tagChars : Nat → List Char → Option (List Char × List Char)
  | 0, s => some ([], s)
  | fuel + 1, s =>
    match s with
    | '%' :: _ => do
      let (bytes, rest) ← percentBytes s
      let chars ← (Text.decodeUtf8 bytes).toOption
      let (more, rest) ← tagChars fuel rest
      some (chars ++ more, rest)
    | c :: rest =>
      if isTagChar c then do
        let (more, rest) ← tagChars fuel rest
        some (c :: more, rest)
      else some ([], c :: rest)
    | [] => some ([], [])

/-- The suffix of a tag; it is not empty. -/
def tagSuffix (c : Cursor) : Except Fault (String × Cursor) := do
  let (chars, rest) ← need (tagChars c.rest.length c.rest)
  if rest.length = c.rest.length then .error .malformed
  else .ok (String.ofList chars, c.skip (c.rest.length - rest.length))

/-- The handle of a tag: exclamation marks, and a name between them. -/
def tagHandle (c : Cursor) : Except Fault (String × Cursor) :=
  match c.rest with
  | '!' :: rest =>
    if rest.head? = some ' ' then .ok ("!", c.next)
    else
      let name := rest.takeWhile isNameChar
      if (rest.drop name.length).head? = some '!' then
        .ok (String.ofList ('!' :: name ++ ['!']), c.skip (name.length + 2))
      else .error .malformed
  | _ => .error .malformed

/-- Whether a token ends here: at a space, a line end, or the end of the text. -/
def endsHere (c : Cursor) : Bool := endOr (fun char => char = ' ' || isBreak char) c.rest

/-- **A tag**: its handle, unless it is written out in full, and its suffix. -/
def tagToken (c : Cursor) : Except Fault (Token × Cursor) := do
  let after := c.next
  let (handle, suffix, after) ←
    if after.rest.head? = some '<' then do
      let (suffix, after) ← tagSuffix after.next
      if after.rest.head? = some '>' then .ok (none, suffix, after.next) else .error .malformed
    else if endOr isSeparator after.rest then .ok (none, "!", after)
    else if '!' ∈ after.rest.takeWhile (fun char => !(char = ' ' || isBreak char)) then do
      let (handle, after) ← tagHandle c
      let (suffix, after) ← tagSuffix after
      .ok (some handle, suffix, after)
    else do
      let (suffix, after) ← tagSuffix after
      .ok (some "!", suffix, after)
  if endsHere after then .ok (.tag handle suffix, after) else .error .malformed

/-! ### Directives -/

/-- A whole number in a directive. -/
def directiveNumber (c : Cursor) : Except Fault (Nat × Cursor) :=
  let (digits, after) := c.span Char.isDigit
  if digits.isEmpty then .error .malformed
  else if Number.maxDigits < digits.length then .error (.longInt digits.length)
  else .ok (Number.ofDigits digits, after)

/-- **A directive** after its sign, and the place after its line. -/
def directive (c : Cursor) : Except Fault (Token × Cursor) := do
  let (name, c) := c.span isNameChar
  if name.isEmpty || !endsHere c then .error .malformed
  else
    let (token, c) ←
      if name = "YAML".toList then do
        let (major, c) ← directiveNumber c.skipSpaces
        if c.rest.head? = some '.' then
          let (_, c) ← directiveNumber c.next
          if endsHere c then .ok (Token.versionDirective major, c) else .error .malformed
        else .error .malformed
      else if name = "TAG".toList then do
        let (handle, c) ← tagHandle c.skipSpaces
        if c.rest.head? = some ' ' then
          let (start, c) ← tagSuffix c.skipSpaces
          if endsHere c then .ok (Token.tagDirective handle start, c) else .error .malformed
        else .error .malformed
      else .ok (Token.otherDirective, (c.span fun char => !isBreak char).2)
    .ok (token, ← need c.skipEmptyLine?)

end TradeJournal.Yaml
