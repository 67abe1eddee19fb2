import TradeJournal.Text.Case

/-!
# Words of a written date

The English words that a written date may use, in any case.
-/

namespace TradeJournal.Calendar.Phrase

/-- The place of a word in a list of groups of words with one meaning. -/
def meaning? (groups : List (List String)) (word : List Char) : Option Nat :=
  let name := String.ofList (Text.lower word)
  groups.findIdx? fun group => name ∈ group

/-- Words and characters that say nothing. -/
def isFiller (word : List Char) : Bool :=
  String.ofList (Text.lower word) ∈
    [" ", ".", ",", ";", "-", "/", "'", "at", "on", "and", "ad", "m", "t", "of", "st", "nd", "rd",
      "th"]

/-- Whether a word is the name of a day of the week. -/
def isWeekday (word : List Char) : Bool :=
  (meaning? [["mon", "monday"], ["tue", "tuesday"], ["wed", "wednesday"], ["thu", "thursday"],
    ["fri", "friday"], ["sat", "saturday"], ["sun", "sunday"]] word).isSome

/-- The number of a month by its name. -/
def month? (word : List Char) : Option Nat :=
  (meaning? [["jan", "january"], ["feb", "february"], ["mar", "march"], ["apr", "april"], ["may"],
    ["jun", "june"], ["jul", "july"], ["aug", "august"], ["sep", "sept", "september"],
    ["oct", "october"], ["nov", "november"], ["dec", "december"]] word).map (· + 1)

/-- The unit of time that a word names: 0 for hours, 1 for minutes, 2 for seconds. -/
def unit? (word : List Char) : Option Nat :=
  meaning? [["h", "hour", "hours"], ["m", "minute", "minutes"], ["s", "second", "seconds"]] word

/-- Whether a word names the second half of the day (`true`) or the first (`false`). -/
def afternoon? (word : List Char) : Option Bool :=
  (meaning? [["am", "a"], ["pm", "p"]] word).map (· = 1)

/-- Whether a word ties a month to a year. -/
def isPertaining (word : List Char) : Bool := Text.lower word = ['o', 'f']

/-- Whether a word names universal time. -/
def isUniversal (word : List Char) : Bool :=
  String.ofList (Text.lower word) ∈ ["utc", "gmt", "z"]

/-- Whether a word may be the name of a zone: up to five capital letters, or a small z. -/
def mayNameZone (word : List Char) : Bool :=
  (word.length ≤ 5 && word.all fun c => 'A' ≤ c ∧ c ≤ 'Z') || word = ['z']

end TradeJournal.Calendar.Phrase
