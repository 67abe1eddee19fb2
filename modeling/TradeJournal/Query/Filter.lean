import TradeJournal.Query.Tree

/-!
# Filters as queries

A filter lists tags to include, joined by AND or by OR, and tags to exclude. Its query
states the included tags first, as a group when there are several, and then every excluded tag
negated.
-/

namespace TradeJournal.Query

/-- How the included tags of a filter are joined. -/
inductive FilterMode
  | all
  | any
  deriving DecidableEq, Repr

/-- Why a filter has no query. -/
inductive FilterFault
  /-- The mode is neither of the two. -/
  | unknownMode
  /-- The included tags are a mapping with a single entry, which has no first element. -/
  | noFirst
  /-- Something in the filter is no text. -/
  | misuse (m : Value.Misuse)
  deriving DecidableEq, Repr

/-- The wording of a fault. -/
def FilterFault.message : FilterFault → String
  | .unknownMode => "mode must be one of ['AND', 'OR']"
  | .noFirst => "0"
  | .misuse m => m.message

/-- The mode that a word names, in any case. -/
def FilterMode.ofWord? (word : String) : Option FilterMode :=
  let name := Text.upper word.toList
  if name = ['A', 'N', 'D'] then some .all
  else if name = ['O', 'R'] then some .any
  else none

/-- The operator between included tags. -/
def FilterMode.separator : FilterMode → List Char
  | .all => " AND ".toList
  | .any => " OR ".toList

/-- **The query of a filter.** -/
def filterText (mode : FilterMode) (wanted unwanted : List String) : String :=
  let included := match wanted with
    | [] => []
    | [tag] => [tag.toList]
    | tags => [Tree.parenthesized (Tree.joined mode.separator (tags.map String.toList))]
  let excluded := unwanted.map fun tag => "NOT ".toList ++ tag.toList
  String.ofList (Tree.joined " AND ".toList (included ++ excluded))

/-- The texts in a list of values, the first one that is no text being refused. -/
def textsFrom (index : Nat) : List Value → Except Value.Misuse (List String)
  | [] => .ok []
  | .text s :: rest => (s :: ·) <$> textsFrom (index + 1) rest
  | v :: _ => .error (.notJoinable index v.kind)

/-- The mode that a value names. -/
def modeOf : Value → Except FilterFault FilterMode
  | .text word => match FilterMode.ofWord? word with
    | some mode => .ok mode
    | none => .error .unknownMode
  | v => .error (.misuse (.noOperation v.kind "upper"))

/-- The included tags in a value, before it is known that they are texts. -/
def includedIn (wanted : Value) : Except FilterFault (List Value) :=
  match wanted with
  | .mapping [_] => .error .noFirst
  | v => v.elements.mapError fun _ => .misuse (.unsized v.kind)

/-- **The query of a filter given by values.** The mode is looked at first. Included values have to
be texts, and excluded ones are taken by their text; a sole included value is looked at last. -/
def filterQuery (mode wanted unwanted : Value) : Except FilterFault String := do
  let mode ← modeOf mode
  let wanted ← includedIn wanted
  let tags := (textsFrom 0 wanted).mapError FilterFault.misuse
  if wanted.length ≠ 1 then
    let _ ← tags
  let unwanted ← unwanted.elements.mapError FilterFault.misuse
  .ok (filterText mode (← tags) (unwanted.map Value.display))

end TradeJournal.Query
