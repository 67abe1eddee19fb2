/-!
# Texts within texts
-/

namespace TradeJournal.Text

/-- **Whether a text occurs in another one.** -/
def occursIn (needle : List Char) : List Char → Bool
  | [] => needle.isEmpty
  | c :: rest => needle.isPrefixOf (c :: rest) || occursIn needle rest

/-- Whether a text ends with another one. -/
def endsWith (ending text : List Char) : Bool := ending.isSuffixOf text

end TradeJournal.Text
