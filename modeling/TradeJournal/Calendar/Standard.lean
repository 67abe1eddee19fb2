import TradeJournal.Calendar.Iso
import TradeJournal.Calendar.Phrase
import TradeJournal.Reader

/-!
# The reader of dates that the program runs with

Numeric dates are those of the international notation, and written ones are phrases that give a
year, a month and a day. A phrase that leaves one of the three to the day on which it is read is
none.
-/

namespace TradeJournal.Calendar

/-- **The reader of dates that the program runs with.** -/
def standardDates : DateReader where
  numeric text :=
    match Iso.read? text.toList with
    | some reading => .ok reading
    | none => .error .rejected
  written text :=
    match Phrase.read text.toList with
    | .ok reading => .ok reading
    | .error .noDate => .error .rejected
    | .error .tooManyDigits =>
      .error (.broken "InvalidOperation" "[<class 'decimal.DivisionImpossible'>]")

end TradeJournal.Calendar
