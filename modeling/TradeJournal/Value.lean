import TradeJournal.Calendar.Moment
import TradeJournal.Number.Shortest
import TradeJournal.Text.Quoted

/-!
# Values

What journals, settings and search requests hold before they are understood: the values of a
data format. A mapping keeps its entries in order of arrival; writing to a key that is
present keeps the entry's place. Equality is equality of meaning: numbers are equal when
they have the same value, truth values count as 1 and 0, and mappings are equal whatever
their order. Values of kinds that are not built in are foreign: what can be noticed of them is
carried along, and they equal no value of another sort.
-/

namespace TradeJournal

open Calendar (Day ClockReading)

/-- **What is known of a value of a foreign kind**: the word for its kind, whether it says anything,
whether it is a sequence, the kind of the part because of which it is no key, if there is one, how
it is shown, and what it means. Foreign values that mean the same are equal. -/
structure Value.Foreign where
  kind : String
  saysAnything : Bool
  isSequence : Bool
  unhashable? : Option String
  shown : String
  meaning : String
  deriving DecidableEq, Repr, Inhabited

/-- **A value of a data format.** A foreign one may have elements. -/
inductive Value
  | null
  | bool (b : Bool)
  | int (n : Int)
  | float (x : Double)
  | text (s : String)
  | list (items : List Value)
  | mapping (entries : List (Value × Value))
  | date (d : Day)
  | moment (r : ClockReading)
  | foreign (face : Value.Foreign) (items : Option (List Value))
  deriving Repr, Inhabited

namespace Value

/-! ### Kinds -/

/-- The word for the kind of a value. -/
def kind : Value → String
  | null => "NoneType"
  | bool _ => "bool"
  | int _ => "int"
  | float _ => "float"
  | text _ => "str"
  | list _ => "list"
  | mapping _ => "dict"
  | date _ => "date"
  | moment _ => "datetime"
  | foreign face _ => face.kind

/-- **A use that a value does not support.** -/
inductive Misuse
  /-- The elements of a value that has none. -/
  | notIterable (kind : String)
  /-- A text operation on a value that is no text. -/
  | noOperation (kind : String) (operation : String)
  /-- Looking up under a key that may change. -/
  | unhashable (kind : String)
  /-- Looking for a pattern in a value that is no text. -/
  | notText (kind : String)
  /-- Asking a value without elements for one. -/
  | notContainer (kind : String)
  /-- The number of elements of a value that has none. -/
  | unsized (kind : String)
  /-- Joining texts, one of which is none. -/
  | notJoinable (index : Nat) (kind : String)
  /-- Comparing a value that is no number with one. -/
  | notComparable (kind : String)
  /-- Cutting a list off at a number that is not whole. -/
  | notIndex
  /-- A whole number beyond the floating-point numbers. -/
  | beyondFloat
  deriving DecidableEq, Repr

/-- The wording of a misuse. -/
def Misuse.message : Misuse → String
  | .notIterable kind => "'" ++ kind ++ "' object is not iterable"
  | .noOperation kind operation => "'" ++ kind ++ "' object has no attribute '" ++ operation ++ "'"
  | .unhashable kind => "unhashable type: '" ++ kind ++ "'"
  | .notText kind => "expected string or bytes-like object, got '" ++ kind ++ "'"
  | .notContainer kind => "argument of type '" ++ kind ++ "' is not iterable"
  | .unsized kind => "object of type '" ++ kind ++ "' has no len()"
  | .notJoinable index kind =>
    "sequence item " ++ toString index ++ ": expected str instance, " ++ kind ++ " found"
  | .notComparable kind => "'<=' not supported between instances of '" ++ kind ++ "' and 'int'"
  | .notIndex => "slice indices must be integers or None or have an __index__ method"
  | .beyondFloat => "int too large to convert to float"

/-! ### Equality of meaning -/

/-- The number that a truth value or a whole number stands for. -/
def wholeNumber? : Value → Option Int
  | bool b => some (if b then 1 else 0)
  | int n => some n
  | _ => none

/-- Equality of two values without elements. -/
def sameLeaf : Value → Value → Bool
  | null, null => true
  | text a, text b => a == b
  | date a, date b => a == b
  | moment a, moment b => a.same b
  | foreign a _, foreign b _ => a.meaning == b.meaning
  | float x, float y => x.same y
  | float x, b => (b.wholeNumber?.map x.sameInt).getD false
  | a, float y => (a.wholeNumber?.map y.sameInt).getD false
  | a, b =>
    match a.wholeNumber?, b.wholeNumber? with
    | some m, some n => m == n
    | _, _ => false

/-- Whether two values are one thing although they are not equal. What is not a number equals
nothing, but it is one thing wherever a text was decoded. -/
def isOneThing : Value → Value → Bool
  | float .nan, float .nan => true
  | _, _ => false

mutual

/-- **Equality of meaning.** Elements are compared as keys are: what is one thing need not be
equal. -/
def same : Value → Value → Bool
  | list a, list b => sameItems a b
  | mapping a, mapping b => a.length == b.length && sameEntries a b
  | a, b => sameLeaf a b

/-- Equality of two lists, element by element. -/
def sameItems : List Value → List Value → Bool
  | [], [] => true
  | a :: as, b :: bs => (isOneThing a b || same a b) && sameItems as bs
  | _, _ => false

/-- Whether every entry of the first mapping is one of the second. -/
def sameEntries : List (Value × Value) → List (Value × Value) → Bool
  | [], _ => true
  | (key, value) :: rest, b =>
    b.any (fun entry => (isOneThing key entry.1 || same key entry.1)
      && (isOneThing value entry.2 || same value entry.2)) && sameEntries rest b

end

/-! ### Mappings -/

/-- The value under a key, if the key is present. -/
def lookup? (entries : List (Value × Value)) (key : Value) : Option Value :=
  (entries.find? fun entry => entry.1.same key).map (·.2)

/-- The value under a name, if the name is present. -/
def field? (entries : List (Value × Value)) (name : String) : Option Value :=
  lookup? entries (.text name)

/-- Whether two keys are one: they are one thing, or they are equal. -/
def sameKey (a b : Value) : Bool := a.isOneThing b || a.same b

/-- **Writing an entry**: an entry with the same key keeps its place and its key and gets the
new value; otherwise the entry goes to the end. -/
def insert (entries : List (Value × Value)) (key value : Value) : List (Value × Value) :=
  match entries with
  | [] => [(key, value)]
  | entry :: rest =>
    if entry.1.sameKey key then (entry.1, value) :: rest else entry :: insert rest key value

/-- A mapping made by writing entries one after the other. -/
def ofEntries (entries : List (Value × Value)) : List (Value × Value) :=
  entries.foldl (fun made entry => insert made entry.1 entry.2) []

/-! ### Truth, hashing, text -/

/-- Whether a value says anything: nothing, false, zero, and empty texts, lists and mappings
do not. -/
def isTruthy : Value → Bool
  | null => false
  | bool b => b
  | int n => n != 0
  | float x => !x.isZero
  | text s => s != ""
  | list items => !items.isEmpty
  | mapping entries => !entries.isEmpty
  | date _ | moment _ => true
  | foreign face _ => face.saysAnything

/-- The kind of what keeps a value from being a key, if something does. -/
def unhashable? : Value → Option String
  | list _ => some "list"
  | mapping _ => some "dict"
  | foreign face _ => face.unhashable?
  | _ => none

/-- Whether a value may serve as a key. -/
def isHashable (v : Value) : Bool := v.unhashable?.isNone

/-- **A value that is expected to be a text**: a value that says nothing counts as the empty text,
and any other is a misuse of its kind. -/
def textOr (misuse : String → Misuse) (v : Value) : Except Misuse String :=
  match v with
  | text s => .ok s
  | v => if v.isTruthy then .error (misuse v.kind) else .ok ""

/-- **A value as a limit**: it is compared with zero first, and only a whole number can be more. -/
def limit : Value → Except Misuse Int
  | int n => .ok n
  | bool b => .ok (if b then 1 else 0)
  | float x => if x.isZero || x.lt (.zero false) then .ok 0 else .error .notIndex
  | v => .error (.notComparable v.kind)

/-- Whether a value is null. -/
def isNull : Value → Bool
  | null => true
  | _ => false

mutual

/-- **The form of a value inside lists and messages**: texts are quoted. -/
def shown : Value → List Char
  | null => "None".toList
  | bool b => (if b then "True" else "False").toList
  | int n => Number.intText n
  | float x => x.text
  | text s => Text.quoted s.toList
  | list items => '[' :: shownItems items ++ [']']
  | mapping entries => Char.ofNat 0x7B :: shownEntries entries ++ [Char.ofNat 0x7D]
  | date d => d.constructed
  | moment r => r.constructed
  | foreign face _ => face.shown.toList

/-- Elements separated by commas. -/
def shownItems : List Value → List Char
  | [] => []
  | [item] => shown item
  | item :: rest => shown item ++ ',' :: ' ' :: shownItems rest

/-- Entries separated by commas, keys before colons. -/
def shownEntries : List (Value × Value) → List Char
  | [] => []
  | [(key, value)] => shown key ++ ':' :: ' ' :: shown value
  | (key, value) :: rest => shown key ++ ':' :: ' ' :: shown value ++ ',' :: ' ' ::
    shownEntries rest

end

/-- **The text of a value**: a text stands for itself, and days and clock readings are written
out. -/
def display : Value → String
  | text s => s
  | date d => String.ofList d.text
  | moment r => String.ofList (r.textWith ' ')
  | v => String.ofList v.shown

/-- The elements of a value in order: of a text its characters, of a mapping its keys. -/
def elements : Value → Except Misuse (List Value)
  | text s => .ok (s.toList.map fun c => .text (String.singleton c))
  | list items => .ok items
  | mapping entries => .ok (entries.map (·.1))
  | foreign _ (some items) => .ok items
  | v => .error (.notIterable v.kind)

end Value

end TradeJournal
