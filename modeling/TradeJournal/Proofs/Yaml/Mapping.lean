import TradeJournal.Proofs.Except
import TradeJournal.Proofs.Value.Object
import TradeJournal.Yaml.Document

/-!
# The mappings of a YAML text

A mapping of a YAML text may have keys of many kinds. Its entries are written one after the other,
so whatever was written twice under a name is there once, in the mapping itself and in the mappings
inside it (`Yaml.namesOnce_of_parse`).
-/

namespace TradeJournal

/-- What is worked out element by element has what every element gives. -/
theorem forall_mem_of_mapM_eq_ok {ε α β : Type} {f : α → Except ε β} {P : β → Prop}
    (gives : ∀ a b, f a = .ok b → P b) {l : List α} {made : List β}
    (worked_out : l.mapM f = .ok made) :
    ∀ b ∈ made, P b := by
  induction l generalizing made with
  | nil =>
    cases worked_out
    simp
  | cons a rest ih =>
    rw [List.mapM_cons] at worked_out
    obtain ⟨b, first, worked_out⟩ := bind_eq_ok.mp worked_out
    obtain ⟨others, later, equal⟩ := bind_eq_ok.mp worked_out
    cases equal
    exact List.forall_mem_cons.mpr ⟨gives a b first, ih later⟩

namespace Yaml

open Value (NamesOnce Throughout)

/-! ### Scalars -/

/-- Whether what is worked out, if anything, is no mapping. -/
def GivesNoMapping (x : Except Fault Value) : Prop :=
  ∀ v, x = .ok v → ∀ entries, v ≠ .mapping entries

theorem givesNoMapping_error (f : Fault) : GivesNoMapping (.error f) := by
  intro v read
  cases read

theorem givesNoMapping_ok {v : Value} (no_mapping : ∀ entries, v ≠ .mapping entries) :
    GivesNoMapping (.ok v) := by
  intro w read
  obtain rfl := Except.ok.inj read
  exact no_mapping

/-- Only the last step counts. -/
theorem givesNoMapping_bind {α : Type} (x : Except Fault α) {f : α → Except Fault Value}
    (last : ∀ a, GivesNoMapping (f a)) : GivesNoMapping (x >>= f) := by
  intro v read
  obtain ⟨a, -, read⟩ := bind_eq_ok.mp read
  exact last a v read

theorem givesNoMapping_int (s : List Char) : GivesNoMapping (intValue s) := by
  have number (negative : Bool) (x : Except Fault Int) :
      GivesNoMapping (x >>= fun n => .ok (.int (if negative then -n else n))) :=
    givesNoMapping_bind x fun _ => givesNoMapping_ok (by simp)
  rw [intValue]
  dsimp only
  split
  case h_6 =>
    split
    · exact givesNoMapping_bind _ fun _ => number _ _
    · exact number _ _
  all_goals exact number _ _

theorem givesNoMapping_float (s : List Char) : GivesNoMapping (floatValue s) := by
  have number (negative : Bool) (x : Except Fault Double) :
      GivesNoMapping (x >>= fun x => .ok (.float (if negative then x.neg else x))) :=
    givesNoMapping_bind x fun _ => givesNoMapping_ok (by simp)
  rw [floatValue]
  dsimp only
  split
  · exact givesNoMapping_error _
  · split
    · exact number _ _
    · split
      · exact number _ _
      · split
        · exact givesNoMapping_bind _ fun _ => number _ _
        · exact number _ _

theorem givesNoMapping_date (s : List Char) : GivesNoMapping (dateValue s) := by
  rw [dateValue]
  split
  · exact givesNoMapping_error _
  · dsimp only
    split
    · exact givesNoMapping_bind _ fun d => givesNoMapping_ok (by simp)
    · split
      · exact givesNoMapping_error _
      · refine givesNoMapping_bind _ fun d => ?_
        split
        · exact givesNoMapping_ok (by simp)
        · exact givesNoMapping_error _

/-- **A scalar is no mapping.** -/
theorem givesNoMapping_scalar (kind : ScalarKind) (s : List Char) :
    GivesNoMapping (scalarValue kind s) := by
  cases kind with
  | null => exact givesNoMapping_ok (by simp)
  | bool =>
    rw [scalarValue, boolValue]
    split
    · exact givesNoMapping_ok (by simp)
    · exact givesNoMapping_error _
  | int => exact givesNoMapping_int s
  | float => exact givesNoMapping_float s
  | date => exact givesNoMapping_date s
  | text => exact givesNoMapping_ok (by simp)
  | binary =>
    rw [scalarValue, binaryValue]
    split
    · exact givesNoMapping_error _
    · exact givesNoMapping_bind _ fun _ => givesNoMapping_ok (by simp [bytesValue])
  | merge => exact givesNoMapping_error _
  | default => exact givesNoMapping_error _

theorem Node.givesNoMapping_scalar (kind : ScalarKind) (n : Node) :
    GivesNoMapping (n.scalarValue kind) := by
  refine givesNoMapping_bind _ fun text => ?_
  split
  · exact givesNoMapping_error _
  · exact Yaml.givesNoMapping_scalar kind _

/-! ### Nodes -/

/-- With some fuel, the value of a node, and that of an entry, has every name once. -/
def ReadsOnce (fuel : Nat) : Prop :=
  (∀ n v, valueOf fuel n = .ok v → Throughout NamesOnce v) ∧
    ∀ e entry, entryOf fuel e = .ok entry → Throughout NamesOnce entry.2

/-- A node is read through its parts, which take up the rest of the fuel. -/
theorem readsOnce (fuel : Nat) : ReadsOnce fuel := by
  -- Nodes and entries are read by each other, so one induction carries both.
  induction fuel with
  | zero =>
    constructor
    · intro n v read
      cases read
    · intro e entry read
      cases read
  | succ fuel ih =>
    obtain ⟨node, pair⟩ := ih
    constructor
    · intro n v read
      unfold valueOf at read
      split at read
      · exact .other (Node.givesNoMapping_scalar _ _ v read)
      · obtain ⟨items, -, equal⟩ := bind_eq_ok.mp read
        cases equal
        exact .other (by simp)
      · obtain ⟨merged, -, read⟩ := bind_eq_ok.mp read
        obtain ⟨written, listed, equal⟩ := bind_eq_ok.mp read
        cases equal
        exact .mapping (Value.namesOnce_ofEntries written)
          (Value.forall_mem_ofEntries (forall_mem_of_mapM_eq_ok pair listed))
      · obtain ⟨merged, -, read⟩ := bind_eq_ok.mp read
        obtain ⟨written, -, equal⟩ := bind_eq_ok.mp read
        cases equal
        exact .other (by simp [setValue])
      · obtain ⟨pairs, -, equal⟩ := bind_eq_ok.mp read
        cases equal
        exact .other (by simp)
      · cases read
    · intro e entry read
      rw [entryOf] at read
      obtain ⟨key, -, read⟩ := bind_eq_ok.mp read
      obtain ⟨usable, -, read⟩ := bind_eq_ok.mp read
      obtain ⟨v, value, equal⟩ := bind_eq_ok.mp read
      cases equal
      exact node _ _ value

/-- **Every name of a YAML text is there once.** -/
theorem namesOnce_of_parse {text : List Char} {v : Value} (read : parse text = .ok v) :
    Throughout NamesOnce v := by
  obtain ⟨tokens, -, read⟩ := bind_eq_ok.mp read
  obtain ⟨node, -, read⟩ := bind_eq_ok.mp read
  split at read
  · cases read
    exact .other (by simp)
  · obtain ⟨checked, -, read⟩ := bind_eq_ok.mp read
    obtain ⟨sound, -, read⟩ := bind_eq_ok.mp read
    exact (readsOnce _).1 _ _ read

end Yaml

end TradeJournal
