import TradeJournal.Calendar.Moment
import TradeJournal.Calendar.Phrase.Parts
import TradeJournal.Calendar.Phrase.Token
import TradeJournal.Calendar.Phrase.Words
import TradeJournal.Number.Decimal

/-!
# Written dates

A written date is read token by token, each with the tokens before and after it in view.
Numbers are parts of the date, or of the time when a unit, a colon or a half of the day is
near them; names tell months, days of the week and zones; a sign after a time begins a
distance from universal time. One token that fits nowhere makes the whole text no date. The
fraction of an hour or of a minute is computed with limited precision, and a number too long to be
split at its point is a fault of its own.

A distance after the name of a zone counts the other way round: it is added to the time
shown to get the time of the zone named.

The program reads written dates in this way (`Calendar.standardDates`). Nothing is taken from the
day on which a date is read: a year, a month and a day have to be given, and the century of a year
with two digits is fixed.
-/

namespace TradeJournal.Calendar.Phrase

open Number (Decimal)

/-- Why a text shows no date: it is none, or the fraction of a number in it is out of reach. -/
inductive Fault
  | noDate
  | tooManyDigits
  deriving DecidableEq, Repr

/-- Where something is missing there is no date. -/
instance : MonadLift Option (Except Fault) where
  monadLift
    | some a => .ok a
    | none => .error .noDate

/-- A token of a written date. -/
abbrev Token := List Char

/-- **What has been read.** -/
structure Found where
  parts : Parts := {}
  hour : Option Int := none
  minute : Option Int := none
  second : Option Int := none
  micro : Option Int := none
  zoneName : Option Token := none
  ahead : Option Int := none
  deriving Repr

/-- The decimal that a token is. -/
def decimal? (token : Token) : Option Decimal :=
  let plain := token.map Number.plainDigit
  let whole := plain.takeWhile Char.isDigit
  match plain.dropWhile Char.isDigit with
  | [] => if whole.isEmpty then none else some ⟨Number.ofDigits whole, 0⟩
  | '.' :: fraction =>
    if (whole.isEmpty && fraction.isEmpty) || !fraction.all Char.isDigit then none
    else some ⟨Number.ofDigits (whole ++ fraction), fraction.length⟩
  | _ => none

/-- The fraction of a number in sixtieths, cut to a whole number; none when there is no fraction. -/
def sixtieths (d : Decimal) : Except Fault (Option Nat) :=
  match d.fraction? with
  | none => .error .tooManyDigits
  | some rest => .ok (if rest.unscaled = 0 then none else some (rest.times 60).whole)

/-- Seconds and microseconds of a token with an optional fraction. -/
def seconds? (token : Token) : Option (Int × Int) :=
  match token.dropWhile (· ≠ '.') with
  | [] => do some (← Number.int? token, 0)
  | _ :: fraction => do
    let kept := fraction.take 6
    let padded := kept ++ List.replicate (6 - kept.length) '0'
    if '.' ∈ fraction then none
    else some (← Number.int? (token.takeWhile (· ≠ '.')), ← Number.int? padded)

/-- An hour of half a day as an hour of the day. -/
def halfDayHour (hour : Int) (afternoon : Bool) : Int :=
  if hour < 12 ∧ afternoon then hour + 12 else if hour = 12 ∧ ¬ afternoon then 0 else hour

/-- **The unit that a number counts**, and how many tokens after the number it takes: a unit
behind the number, possibly after a blank, or the unit that follows the one before the number. -/
def unitNear? (before after : List Token) : Option (Nat × Nat) :=
  let behind := match after with
    | unit :: _ => (unit? unit).map (1, ·)
    | [] => none
  let apart := match after with
    | [' '] :: unit :: _ => (unit? unit).map (2, ·)
    | _ => none
  let ahead := match before with
    | unit :: _ => (unit? unit).map fun u => (0, u + 1)
    | [] => none
  let aheadApart := match after, before with
    | [], [' '] :: unit :: _ => (unit? unit).map fun u => (0, u + 1)
    | _, _ => none
  ((behind.or apart).or ahead).or aheadApart

namespace Found

/-- A number that counts a unit of time: 0 for hours, 1 for minutes, 2 for seconds. -/
def setUnit (f : Found) (token : Token) (value : Decimal) (unit : Nat) : Except Fault Found := do
  match unit with
  | 0 =>
    let minute := (← sixtieths value).map Int.ofNat
    .ok { f with hour := some value.whole, minute := minute.or f.minute }
  | 1 =>
    let second := (← sixtieths value).map Int.ofNat
    .ok { f with minute := some value.whole, second }
  | 2 =>
    let (second, micro) ← seconds? token
    .ok { f with second := some second, micro := some micro }
  | _ => .ok f

/-- A number of six digits or more that is a time without colons. -/
def setCompactTime? (f : Found) (token : Token) : Option Found := do
  let hour ← Number.int? (token.take 2)
  let minute ← Number.int? ((token.drop 2).take 2)
  let (second, micro) ← seconds? (token.drop 4)
  some { f with hour, minute, second, micro }

/-- Six digits at the beginning: year, month and day, two digits each. -/
def setCompactDate? (f : Found) (token : Token) : Option Found := do
  let parts ← f.parts.addText? (token.take 2)
  let parts ← parts.addText? ((token.drop 2).take 2)
  let parts ← parts.addText? (token.drop 4)
  some { f with parts }

/-- Eight digits: year, month and day; twelve or fourteen: hour, minute and second, too. -/
def setLongDate? (f : Found) (token : Token) : Option Found := do
  let parts ← f.parts.addYearText? (token.take 4)
  let parts ← parts.addText? ((token.drop 4).take 2)
  let parts ← parts.addText? ((token.drop 6).take 2)
  let f := { f with parts }
  if token.length ≤ 8 then some f
  else do
    let hour ← Number.int? ((token.drop 8).take 2)
    let minute ← Number.int? ((token.drop 10).take 2)
    let f := { f with hour := some hour, minute := some minute }
    if token.length ≤ 12 then some f
    else do
      let second ← Number.int? (token.drop 12)
      some { f with second := some second }

/-- A number before a colon, and the tokens after the colon: minutes, and perhaps a colon and
seconds. -/
def setClock (f : Found) (value : Decimal) (minutes : Token) (after : List Token) :
    Except Fault (Found × Nat) := do
  let m ← decimal? minutes
  let second := (← sixtieths m).map Int.ofNat
  let f := { f with hour := some (value.whole : Int), minute := some (m.whole : Int), second }
  match after with
  | [':'] :: seconds :: _ =>
    let (second, micro) ← seconds? seconds
    .ok ({ f with second := some second, micro := some micro }, 4)
  | _ => .ok (f, 2)

/-- A number before a dash, slash or point, and the tokens after that: further parts of the date
with the same character between them. -/
def setSeparated? (f : Found) (token separator : Token) (after : List Token) :
    Option (Found × Nat) := do
  let parts ← f.parts.addText? token
  match after with
  | [] => some ({ f with parts }, 1)
  | second :: rest =>
    if isFiller second then some ({ f with parts }, 1)
    else do
      let parts ←
        if !second.isEmpty && second.all Text.isDigit then parts.addText? second
        else do parts.addMonth? (← month? second)
      match rest with
      | again :: rest =>
        if again = separator then do
          let third ← rest.head?
          let parts ← match month? third with
            | some month => parts.addMonth? month
            | none => parts.addText? third
          some ({ f with parts }, 4)
        else some ({ f with parts }, 2)
      | [] => some ({ f with parts }, 2)

/-- A number before a filler or at the end: the hour of half a day, or a part of the date. -/
def setAlone? (f : Found) (value : Decimal) (after : List Token) : Option (Found × Nat) :=
  let part : Option (Found × Nat) := do
    some ({ f with parts := ← f.parts.addSized? value.whole (value.above 100) }, 1)
  match after with
  | _ :: half :: _ =>
    match afternoon? half with
    | some afternoon => some ({ f with hour := some (halfDayHour value.whole afternoon) }, 2)
    | none => part
  | _ => part

/-- A number that nothing near it explains: the day, if it can be one. -/
def addDay? (f : Found) (value : Decimal) : Option (Found × Nat) :=
  if Number.tenTo value.places ≤ value.unscaled ∧ !value.above f.parts.dayLimit then do
    some ({ f with parts := ← f.parts.addSized? value.whole (value.above 100) }, 0)
  else none

/-- **A number**, with the tokens before it, latest first, and those after it. The result says
how many of the latter are used up. -/
def addNumber (f : Found) (before : List Token) (token : Token) (after : List Token) :
    Except Fault (Found × Nat) := do
  let value ← decimal? token
  let size := token.length
  let unitOrColon := match after with
    | next :: _ => next = [':'] || (unit? next).isSome
    | [] => false
  if f.parts.numbers.length = 3 ∧ (size = 2 ∨ size = 4) ∧ f.hour.isNone ∧ !unitOrColon then
    let hour ← Number.int? (token.take 2)
    if size = 4 then
      let minute ← Number.int? (token.drop 2)
      .ok ({ f with hour := some hour, minute := some minute }, 0)
    else .ok ({ f with hour := some hour }, 0)
  else if size = 6 ∨ (6 < size ∧ (token.takeWhile (· ≠ '.')).length = 6) then
    if f.parts.numbers.isEmpty ∧ '.' ∉ token then .ok (← f.setCompactDate? token, 0)
    else .ok (← f.setCompactTime? token, 0)
  else if size = 8 ∨ size = 12 ∨ size = 14 then .ok (← f.setLongDate? token, 0)
  else
    match unitNear? before after with
    | some (used, unit) => .ok (← f.setUnit token value unit, used)
    | none =>
      match after with
      | [':'] :: minutes :: rest => f.setClock value minutes rest
      | next :: rest =>
        if next = ['-'] ∨ next = ['/'] ∨ next = ['.'] then f.setSeparated? token next rest
        else if isFiller next then f.setAlone? value after
        else
          match afternoon? next with
          | some afternoon =>
            if value.below 24 then
              .ok ({ f with hour := some (halfDayHour value.whole afternoon) }, 1)
            else f.addDay? value
          | none => f.addDay? value
      | [] => f.setAlone? value []

/-- **The name of a month**, with the tokens after it. -/
def addMonth? (f : Found) (month : Nat) (after : List Token) : Option (Found × Nat) := do
  let parts ← f.parts.addMonth? month
  match after with
  | separator :: rest =>
    if separator = ['-'] ∨ separator = ['/'] then do
      let parts ← parts.addText? (← rest.head?)
      match rest.drop 1 with
      | again :: rest =>
        if again = separator then do some ({ f with parts := ← parts.addText? (← rest.head?) }, 4)
        else some ({ f with parts }, 2)
      | [] => some ({ f with parts }, 2)
    else
      match after with
      | [' '] :: pertaining :: [' '] :: year :: _ =>
        if isPertaining pertaining then
          if year.all Text.isDigit then do
            let n ← Number.int? year
            let full := Parts.fullYear false n
            let parts := { parts with century := true }
            some ({ f with parts := ← parts.addYear? full }, 4)
          else some ({ f with parts }, 4)
        else some ({ f with parts }, 0)
      | _ => some ({ f with parts }, 0)
  | [] => some ({ f with parts }, 0)

/-- Whether a token may be the name of the zone of the time read before it. -/
def mayNameZone (f : Found) (ahead : Option Int) (token : Token) : Bool :=
  f.hour.isSome && f.zoneName.isNone && ahead.isNone && Phrase.mayNameZone token

/-- **A distance from universal time** after its sign. A name between parentheses may follow. -/
def addDistance? (f : Found) (sign : Int) (after : List Token) : Option (Found × Nat) := do
  let number ← after.head?
  let (hours, minutes, used) ←
    if number.length = 4 then
      some (← Number.int? (number.take 2), ← Number.int? (number.drop 2), 1)
    else
      match after.drop 1 with
      | [':'] :: minutes => do some (← Number.int? number, ← Number.int? (← minutes.head?), 3)
      | _ => if number.length ≤ 2 then some (← Number.int? number, 0, 1) else none
  let f := { f with ahead := some (sign * (hours * 3600 + minutes * 60)) }
  match after.drop used with
  | filler :: ['('] :: name :: [')'] :: _ =>
    if isFiller filler ∧ 3 ≤ name.length ∧ f.mayNameZone none name then
      some ({ f with zoneName := some name }, used + 4)
    else some (f, used)
  | _ => some (f, used)

/-- A half of the day after the hour has been read. -/
def setHalf? (f : Found) (afternoon : Bool) : Option Found := do
  let hour ← f.hour
  if 0 ≤ hour ∧ hour ≤ 12 then some { f with hour := some (halfDayHour hour afternoon) } else none

/-- **One token**, with those before and after it. The result holds the tokens that remain,
of which the first may have been changed: after the name of a zone a sign turns round. -/
def step (f : Found) (before : List Token) (token : Token) (after : List Token) :
    Except Fault (Found × Nat × List Token) := do
  if (Number.double? token).isSome then
    let (f, used) ← f.addNumber before token after
    .ok (f, used, after)
  else if isWeekday token then .ok (f, 0, after)
  else
    match month? token with
    | some month =>
      let (f, used) ← f.addMonth? month after
      .ok (f, used, after)
    | none =>
      match afternoon? token with
      | some afternoon => .ok (← f.setHalf? afternoon, 0, after)
      | none =>
        if f.mayNameZone f.ahead token then
          let named :=
            { f with zoneName := some token, ahead := if token = ['z'] then some 0 else none }
          match after with
          | next :: rest =>
            if next = ['+'] ∨ next = ['-'] then
              let turned := if next = ['+'] then ['-'] else ['+']
              let zoneName := if isUniversal token then none else some token
              .ok ({ named with ahead := none, zoneName }, 0, turned :: rest)
            else .ok (named, 0, after)
          | [] => .ok (named, 0, after)
        else if f.hour.isSome ∧ (token = ['+'] ∨ token = ['-']) then
          let (f, used) ← f.addDistance? (if token = ['+'] then 1 else -1) after
          .ok (f, used, after)
        else if isFiller token then .ok (f, 0, after)
        else .error .noDate

/-- **All tokens**, with those already read, latest first. The first argument bounds their
number. -/
def readFrom : Nat → Found → List Token → List Token → Except Fault Found
  | _, f, _, [] => .ok f
  | 0, _, _, _ :: _ => .error .noDate
  | fuel + 1, f, before, token :: after => do
    let (f, used, after) ← f.step before token after
    readFrom fuel f ((after.take used).reverse ++ token :: before) (after.drop used)

/-- The distance from universal time that is meant. A zone whose name is unknown says nothing. -/
def distance (f : Found) : Option Int :=
  match f.zoneName with
  | some name => if isUniversal name then some 0 else f.ahead
  | none => f.ahead

/-- The most days that a distance from universal time may span. -/
def maxDistance : Nat := 999999999

/-- **What has been found, as a clock reading**; the date has to be complete, and the distance from
universal time one that can be spanned. -/
def reading? (f : Found) : Option ClockReading := do
  let (year, month, day) ← f.parts.resolved?
  let days := (f.distance.getD 0).fdiv 86400
  if maxDistance < days.natAbs then none
  else some ⟨← (Day.ofFields (Parts.fullYear f.parts.century year) month day).toOption,
    ← ClockTime.ofFields? (f.hour.getD 0) (f.minute.getD 0) (f.second.getD 0) (f.micro.getD 0),
    f.distance⟩

end Found

/-- **What a written date shows.** -/
def read (s : List Char) : Except Fault ClockReading := do
  let tokens := scan s
  (← Found.readFrom tokens.length {} [] tokens).reading?

end TradeJournal.Calendar.Phrase
