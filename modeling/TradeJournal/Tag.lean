import TradeJournal.Text.Blank
import TradeJournal.Text.Case
import TradeJournal.Value

/-!
# Tags

A tag in canonical spelling is a marker and a body of lower-case ASCII letters, digits and
underscores. Every comparison of tags is one of canonical spellings, so `normalize` is applied
to whatever a trader types before anything else looks at it. A tag can also be checked as it
was typed, and a list of tags cleaned up for keeping.
-/

namespace TradeJournal.Tag

/-- The character that tags begin with. -/
def marker : Char := '#'

/-- The greatest number of characters in a body. -/
def maxBody : Nat := 50

/-- The greatest number of tags in a list. -/
def maxCount : Nat := 20

/-- Characters that bodies consist of. -/
def isBodyChar (c : Char) : Bool := ('a' ≤ c ∧ c ≤ 'z') ∨ ('0' ≤ c ∧ c ≤ '9') ∨ c = '_'

/-- Characters that may be typed in a body. -/
def isTypedChar (c : Char) : Bool := isBodyChar c ∨ ('A' ≤ c ∧ c ≤ 'Z')

/-- **The body of a typed tag**: what remains of it, in lower case, after the blanks at its
ends, the markers before it and all characters that no body has are left out. -/
def body (raw : List Char) : List Char :=
  ((Text.lower (Text.trim raw)).dropWhile (· = marker)).filter isBodyChar

/-- A body with the marker before it; an empty body gives no tag. -/
def ofBody (body : List Char) : String :=
  if body.isEmpty then "" else String.ofList (marker :: body)

/-- **The canonical spelling of a typed tag**; empty when nothing of it can stay. -/
def normalize (raw : String) : String := ofBody (body raw.toList)

/-- The body of a canonical tag. -/
def bodyOf (tag : String) : List Char := tag.toList.drop 1

/-- Whether a spelling is canonical: the marker and then at least one character of a body. -/
def IsCanonical (tag : String) : Prop :=
  ∃ body : List Char, body ≠ [] ∧ body.all isBodyChar = true ∧ tag = String.ofList (marker :: body)

/-! ### Checking -/

/-- What can be wrong with a tag or a list of tags. -/
inductive Issue
  | empty
  | tooLong
  | invalidCharacters
  | notAList
  | tooMany
  deriving DecidableEq, Repr

/-- The code of an issue. -/
def Issue.code : Issue → String
  | .empty => "TAG_EMPTY"
  | .tooLong => "TAG_TOO_LONG"
  | .invalidCharacters => "TAG_INVALID_CHARS"
  | .notAList => "TAGS_NOT_ARRAY"
  | .tooMany => "TOO_MANY_TAGS"

/-- The wording of an issue. -/
def Issue.message : Issue → String
  | .empty => "Tag cannot be empty"
  | .tooLong => "Tag cannot be longer than " ++ toString maxBody ++ " characters"
  | .invalidCharacters => "Tag can only contain letters, numbers, and underscores"
  | .notAList => "Tags must be a list"
  | .tooMany => "Cannot have more than " ++ toString maxCount ++ " tags"

/-- **An issue, and where it arose**: the position of the tag in its list, counted from one. -/
structure Finding where
  issue : Issue
  position : Option Nat := none
  deriving DecidableEq, Repr

/-- The wording of a finding. -/
def Finding.message (f : Finding) : String :=
  match f.position with
  | none => f.issue.message
  | some position => "Tag " ++ toString position ++ ": " ++ f.issue.message

/-- **The outcome of a check**: what was found, in order, and the canonical spelling if the
tag has one. -/
structure Check where
  findings : List Finding
  sanitized : Option String
  deriving DecidableEq, Repr

/-- Whether nothing was found. -/
def Check.isValid (c : Check) : Bool := c.findings.isEmpty

/-- What is checked of a typed tag: it is trimmed and loses one marker. -/
def content (raw : List Char) : List Char :=
  match Text.trim raw with
  | [] => []
  | c :: rest => if c = marker then rest else c :: rest

/-- **Whether a text is typed correctly**: one or more characters that may be typed, up to its end
or to a line feed that ends it. -/
def isTyped (text : List Char) : Bool :=
  let behind := text.dropWhile isTypedChar
  behind.length < text.length && (behind.isEmpty || behind = ['\n'])

/-- The issues of a typed tag, in the order in which they are reported. -/
def issues (raw : List Char) : List Issue :=
  let typed := content raw
  if typed.isEmpty then [.empty]
  else
    (if maxBody < typed.length then [.tooLong] else [])
      ++ (if isTyped typed then [] else [.invalidCharacters])

/-- A text, or nothing when it is empty. -/
def nonEmpty (s : String) : Option String := if s = "" then none else some s

/-- **Checking a tag as it was typed.** A text without characters other than blanks has no canonical
spelling. -/
def check (raw : String) : Check :=
  if Text.allBlank raw.toList then ⟨[⟨.empty, none⟩], none⟩
  else ⟨(issues raw.toList).map (⟨·, none⟩),
    nonEmpty (normalize (String.ofList (Text.trim raw.toList)))⟩

/-- Checking any value: one that is no text is an empty tag. -/
def checkValue : Value → Check
  | .text raw => check raw
  | _ => ⟨[⟨.empty, none⟩], none⟩

/-- **Checking a list of tags**: its length, then every tag with its position. -/
def checkAll (tags : List Value) : Check :=
  let long : List Finding := if maxCount < tags.length then [⟨.tooMany, none⟩] else []
  let each := tags.zipIdx.flatMap fun (tag, i) =>
    (checkValue tag).findings.map fun f => ⟨f.issue, some (i + 1)⟩
  ⟨long ++ each, none⟩

/-- Checking any value as a list of tags: it has to be a sequence other than a text. -/
def checkList : Value → Check
  | .list tags => checkAll tags
  | .foreign face (some tags) =>
    if face.isSequence then checkAll tags else ⟨[⟨.notAList, none⟩], none⟩
  | _ => ⟨[⟨.notAList, none⟩], none⟩

/-! ### Cleaning up -/

/-- Elements at their first occurrence. -/
def distinct (tags : List String) : List String :=
  tags.foldl (fun kept tag => if tag ∈ kept then kept else kept ++ [tag]) []

/-- Whether a canonical spelling is kept: it exists and its body is not too long. -/
def isKept (tag : String) : Bool := tag ≠ "" ∧ (bodyOf tag).length ≤ maxBody

/-- **Cleaning up a list of tags**: canonical spellings, without those that are empty or too
long and without repetitions. -/
def clean (raw : List String) : List String := distinct ((raw.map normalize).filter isKept)

/-- Cleaning up a list of any values, each of them as it is shown. -/
def cleanValues (tags : List Value) : List String := clean (tags.map Value.display)

end TradeJournal.Tag
