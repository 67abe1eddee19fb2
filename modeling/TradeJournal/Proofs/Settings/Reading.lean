import TradeJournal.Proofs.Except
import TradeJournal.Settings

/-!
# Reading fields and sections

Settings are read from a mapping field by field. A field is read when it has a value of its type,
and a field that may be missing also when it is not there; nothing but a value that is missing or of
the wrong type is ever reported on the way. Both facts are shown once for the readers of each type,
as `Reads`, and once for each way to look at a field or a section, so that what follows never opens
a reader.
-/

namespace TradeJournal

/-- **Whether a fault is about what stands where**: a value is missing or of the wrong type. -/
def SettingsFault.IsShape : SettingsFault → Prop
  | .missing _ | .wrongType .. => True
  | _ => False

namespace Settings

/-! ### Reading a field -/

/-- **What a section gives for a field that may be missing.** -/
def Gives {α : Type} (entries : List (Value × Value)) (field : String) (asValue : α → Value)
    (default a : α) : Prop :=
  Value.field? entries field = some (asValue a) ∨ Value.field? entries field = none ∧ a = default

/-- Whether only faults about what stands where come of a reading. -/
def FailsInShape {α : Type} (x : Except SettingsFault α) : Prop := ∀ f, x = .error f → f.IsShape

theorem failsInShape_ok {α : Type} (a : α) : FailsInShape (.ok a) := by
  intro f failed
  cases failed

theorem failsInShape_error {α : Type} {f : SettingsFault} (shape : f.IsShape) :
    FailsInShape (.error f : Except SettingsFault α) := by
  intro g failed
  exact Except.error.inj failed ▸ shape

/-- Readings one after the other fail as each of them does. -/
theorem FailsInShape.bind {α β : Type} {x : Except SettingsFault α}
    {next : α → Except SettingsFault β}
    (first : FailsInShape x) (second : ∀ a, FailsInShape (next a)) : FailsInShape (x >>= next) := by
  intro f failed
  rcases bind_eq_error.mp failed with own | ⟨a, -, later⟩
  · exact first f own
  · exact second a f later

/-- **Whether values of a type are read**: those of the given form, and all others are refused for
their type. -/
structure Reads {α : Type} (read : String → Value → Except SettingsFault α) (asValue : α → Value) :
    Prop where
  eq_ok_iff : ∀ key v a, read key v = .ok a ↔ v = asValue a
  failsInShape : ∀ key v, FailsInShape (read key v)

theorem reads_text : Reads textOf .text where
  eq_ok_iff key v a := by cases v <;> simp [textOf]
  failsInShape key v := by
    cases v with
    | text s => exact failsInShape_ok s
    | _ => exact failsInShape_error trivial

theorem reads_truth : Reads truthOf .bool where
  eq_ok_iff key v a := by cases v <;> simp [truthOf]
  failsInShape key v := by
    cases v with
    | bool b => exact failsInShape_ok b
    | _ => exact failsInShape_error trivial

theorem reads_whole : Reads wholeOf .int where
  eq_ok_iff key v a := by cases v <;> simp [wholeOf]
  failsInShape key v := by
    cases v with
    | int n => exact failsInShape_ok n
    | _ => exact failsInShape_error trivial

/-- The elements of a list are read one by one. -/
theorem textsFrom_eq_ok {key : String} {index : Nat} {items : List Value} {texts : List String} :
    textsFrom key index items = .ok texts ↔ items = texts.map .text := by
  induction items generalizing index texts with
  | nil => simp [textsFrom, eq_comm]
  | cons v rest ih =>
    rw [textsFrom, bind_eq_ok, eq_comm, List.map_eq_cons_iff]
    constructor
    · rintro ⟨first, own, others⟩
      obtain ⟨others, later, whole⟩ := bind_eq_ok.mp others
      exact ⟨first, others, (Except.ok.inj whole).symm, ((reads_text.eq_ok_iff ..).mp own).symm,
        (ih.mp later).symm⟩
    · rintro ⟨first, others, rfl, own, later⟩
      exact ⟨first, (reads_text.eq_ok_iff ..).mpr own.symm,
        bind_eq_ok.mpr ⟨others, ih.mpr later.symm, rfl⟩⟩

theorem textsFrom_failsInShape (key : String) (index : Nat) (items : List Value) :
    FailsInShape (textsFrom key index items) := by
  induction items generalizing index with
  | nil => exact failsInShape_ok []
  | cons v rest ih =>
    exact (reads_text.failsInShape _ v).bind fun first => (ih (index + 1)).bind fun others =>
      failsInShape_ok (first :: others)

theorem reads_texts : Reads textsOf fun texts => .list (texts.map .text) where
  eq_ok_iff key v a := by
    cases v with
    | list items => rw [textsOf, textsFrom_eq_ok, Value.list.injEq]
    | _ => simp [textsOf]
  failsInShape key v := by
    cases v with
    | list items => exact textsFrom_failsInShape key 0 items
    | _ => exact failsInShape_error trivial

section Fields

variable {α : Type} {read : String → Value → Except SettingsFault α} {asValue : α → Value}

/-- **A field that has to be there** is read when it has a value of its type. -/
theorem Reads.required_eq_ok (reads : Reads read asValue) {s : Section} {field : String} {a : α} :
    s.required field read = .ok a ↔ Value.field? s.entries field = some (asValue a) := by
  rw [Section.required]
  cases Value.field? s.entries field with
  | none => simp
  | some v => rw [Option.some.injEq, reads.eq_ok_iff]

theorem Reads.required_failsInShape (reads : Reads read asValue) (s : Section) (field : String) :
    FailsInShape (s.required field read) := by
  rw [Section.required]
  cases Value.field? s.entries field with
  | none => exact failsInShape_error trivial
  | some v => exact reads.failsInShape _ v

/-- **A field that may be missing** is read unless it has a value of another type. -/
theorem Reads.optional_eq_ok (reads : Reads read asValue) {s : Section} {field : String}
    {default a : α} :
    s.optional field read default = .ok a ↔ Gives s.entries field asValue default a := by
  rw [Section.optional, Gives]
  cases Value.field? s.entries field with
  | none => simp [eq_comm]
  | some v => simp [reads.eq_ok_iff]

theorem Reads.optional_failsInShape (reads : Reads read asValue) (s : Section) (field : String)
    (default : α) : FailsInShape (s.optional field read default) := by
  rw [Section.optional]
  cases Value.field? s.entries field with
  | none => exact failsInShape_ok default
  | some v => exact reads.failsInShape _ v

end Fields

/-! ### Reading a section -/

/-- **The entries of a section that may be missing**: those of a mapping, and none if nothing, or
null, stands under its name. -/
def GivesSection (raw : List (Value × Value)) (name : String)
    (entries : List (Value × Value)) : Prop :=
  Value.field? raw name = some (.mapping entries) ∨
    (Value.field? raw name = none ∨ Value.field? raw name = some .null) ∧ entries = []

theorem requiredSection_eq_ok {raw : List (Value × Value)} {name : String} {s : Section} :
    requiredSection raw name = .ok s ↔
      s.name = name ∧ Value.field? raw name = some (.mapping s.entries) := by
  obtain ⟨own, entries⟩ := s
  rw [requiredSection]
  cases Value.field? raw name with
  | none => simp
  | some v => cases v <;> simp [eq_comm]

theorem requiredSection_failsInShape (raw : List (Value × Value)) (name : String) :
    FailsInShape (requiredSection raw name) := by
  rw [requiredSection]
  split
  · exact failsInShape_error trivial
  · exact failsInShape_error trivial
  · exact failsInShape_ok _
  · exact failsInShape_error trivial

theorem optionalSection_eq_ok {raw : List (Value × Value)} {name : String} {s : Section} :
    optionalSection raw name = .ok s ↔ s.name = name ∧ GivesSection raw name s.entries := by
  obtain ⟨own, entries⟩ := s
  rw [optionalSection, GivesSection]
  cases Value.field? raw name with
  | none => simp [eq_comm]
  | some v => cases v <;> simp [eq_comm]

theorem optionalSection_failsInShape (raw : List (Value × Value)) (name : String) :
    FailsInShape (optionalSection raw name) := by
  rw [optionalSection]
  split
  · exact failsInShape_ok _
  · exact failsInShape_ok _
  · exact failsInShape_ok _
  · exact failsInShape_error trivial

end Settings

end TradeJournal
