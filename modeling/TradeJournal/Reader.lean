import TradeJournal.Value

/-!
# Readers of other formats

Dates and settings come in formats that the program does not read by itself. What a reader makes of
a text is not up to it: whatever the readers are, it takes what they give, and only tells apart how
they fail.
-/

namespace TradeJournal

/-- **How a reader fails.** -/
inductive ReaderFault
  /-- The text is none of the format. -/
  | rejected
  /-- The reader breaks off, with an error of some kind and a wording. -/
  | broken (kind message : String)
  deriving DecidableEq, Repr

/-- **How dates are read**: in a strict notation of numbers, and in any other that people use. -/
structure DateReader where
  numeric : String → Except ReaderFault Calendar.ClockReading
  written : String → Except ReaderFault Calendar.ClockReading

/-- **How YAML is read.** The value of a text is finite: a document that contains itself is none. -/
abbrev YamlReader := List Char → Except ReaderFault Value

end TradeJournal
