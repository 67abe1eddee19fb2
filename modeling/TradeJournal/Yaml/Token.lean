import TradeJournal.Yaml.Cursor

/-!
# YAML tokens

The pieces that a YAML text is made of. Some are not written: the beginning and end of
a block follow from the columns. A scalar with an escape that names no character is the last token,
whatever comes after it; it counts only if all before it is well formed.
-/

namespace TradeJournal.Yaml

/-- **A token.** -/
inductive Token
  | versionDirective (major : Nat)
  | tagDirective (handle start : String)
  | otherDirective
  | documentStart
  | documentEnd
  | blockSequenceStart
  | blockMappingStart
  | blockEnd
  | flowSequenceStart
  | flowSequenceEnd
  | flowMappingStart
  | flowMappingEnd
  | blockEntry
  | flowEntry
  | key
  | value
  | alias (name : String)
  | anchor (name : String)
  | tag (handle : Option String) (suffix : String)
  | scalar (text : String) (plain : Bool)
  | broken (code : Nat)
  deriving DecidableEq, Repr

end TradeJournal.Yaml
