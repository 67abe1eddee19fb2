import TradeJournal.Value

/-!
# Settings over settings

One mapping laid over another: where both have a mapping under a key these are laid over each
other, and everywhere else the upper value counts.
-/

namespace TradeJournal.Settings

mutual

/-- What counts of an upper value over the value under the same key, if there is one. -/
def overlaid (under : Option Value) : Value → Value
  | .mapping entries =>
    match under with
    | some (.mapping base) => .mapping (overlay base entries)
    | _ => .mapping entries
  | v => v

/-- **One mapping laid over another.** -/
def overlay (base : List (Value × Value)) : List (Value × Value) → List (Value × Value)
  | [] => base
  | (key, v) :: rest =>
    overlay (Value.insert base key (overlaid (Value.lookup? base key) v)) rest

end

end TradeJournal.Settings
