import TradeJournal.Text.Half
import TradeJournal.Text.Hex
import TradeJournal.Text.Printable

/-!
# Quoted text

A message shows a text between quotes so that its ends and its invisible characters can be
seen. The quotes are single ones, unless the text holds a single quote and no double one;
the quote in use and the backslash are escaped, and characters that are not printable are
spelled by name or by code point.
-/

namespace TradeJournal.Text

/-- One character inside quotes of the given kind. -/
def quotedChar (quote c : Char) : List Char :=
  if c = quote ∨ c = '\\' then ['\\', c]
  else if isPrintable c then [c]
  else if c = '\n' then ['\\', 'n']
  else if c = '\r' then ['\\', 'r']
  else if c = '\t' then ['\\', 't']
  else if c.toNat < 0x100 then '\\' :: 'x' :: hexDigits 2 c.toNat
  else if c.toNat < 0x10000 then '\\' :: 'u' :: hexDigits 4 c.toNat
  else
    match half? c with
    | some unit => '\\' :: 'u' :: hexDigits 4 unit
    | none => '\\' :: 'U' :: hexDigits 8 c.toNat

/-- The quote that a text is shown in. -/
def quoteFor (s : List Char) : Char :=
  if '\'' ∈ s ∧ '"' ∉ s then '"' else '\''

/-- **The quoted form** of a text. -/
def quoted (s : List Char) : List Char :=
  quoteFor s :: s.flatMap (quotedChar (quoteFor s)) ++ [quoteFor s]

/-- The quoted forms of several texts, between brackets. -/
def quotedList (texts : List (List Char)) : List Char :=
  '[' :: (List.intercalate [',', ' '] (texts.map quoted)) ++ [']']

end TradeJournal.Text
