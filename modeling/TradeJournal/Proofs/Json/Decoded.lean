import TradeJournal.Json.Reader
import TradeJournal.Proofs.Trade.Loading

/-!
# What a JSON text can hold

The values of the model are those of several formats. A JSON text has no dates and no values of a
foreign kind, and its mappings are objects: the keys are names, and no name is there twice, since a
second member with a name is written over the first. This goes for every value inside as well
(`Value.IsDecoded`), and it is all that the reader of journals needs to know of the reader of JSON.
-/

namespace TradeJournal

open Value (IsObject)

/-- **Whether a value is one that a JSON text can hold.** -/
inductive Value.IsDecoded : Value → Prop
  | null : IsDecoded .null
  | bool (b : Bool) : IsDecoded (.bool b)
  | int (n : Int) : IsDecoded (.int n)
  | float (x : Double) : IsDecoded (.float x)
  | text (s : String) : IsDecoded (.text s)
  | list {items : List Value} (each : ∀ item ∈ items, IsDecoded item) : IsDecoded (.list items)
  | mapping {entries : List (Value × Value)} (object : IsObject entries)
      (each : ∀ entry ∈ entries, IsDecoded entry.2) : IsDecoded (.mapping entries)

namespace Value

theorem IsDecoded.empty_mapping : IsDecoded (.mapping []) :=
  .mapping isObject_nil (by simp)

/-- An object of decoded values stays one when a decoded value is written under a name. -/
theorem IsDecoded.insert {entries : List (Value × Value)} (h : IsDecoded (.mapping entries))
    (name : String) {v : Value} (decoded : v.IsDecoded) :
    IsDecoded (.mapping (Value.insert entries (.text name) v)) := by
  obtain _ | _ | _ | _ | _ | _ | ⟨object, each⟩ := h
  refine .mapping (object.insert name v) fun entry member => ?_
  rcases snd_of_mem_insert member with old | new
  · exact each entry old
  · exact new ▸ decoded

theorem IsDecoded.isObject {entries : List (Value × Value)} (h : IsDecoded (.mapping entries)) :
    IsObject entries := by
  cases h with
  | mapping object _ => exact object

/-- What an object holds under a name is decoded. -/
theorem IsDecoded.of_field? {entries : List (Value × Value)} (h : IsDecoded (.mapping entries))
    {name : String} {v : Value} (found : field? entries name = some v) : v.IsDecoded := by
  obtain _ | _ | _ | _ | _ | _ | ⟨-, each⟩ := h
  obtain ⟨entry, first, rfl⟩ := Option.map_eq_some_iff.mp found
  exact each entry (List.mem_of_find?_eq_some first)

theorem IsDecoded.field {entries : List (Value × Value)} (h : IsDecoded (.mapping entries))
    (name : String) : ((Record.mapping entries).field name).IsDecoded := by
  rw [Record.field]
  cases found : field? entries name with
  | none => exact .null
  | some v => exact h.of_field? found

end Value

namespace Json

open Value (IsDecoded)

theorem isDecoded_of_word? {s rest : List Char} {v : Value} (read : word? s = some (v, rest)) :
    v.IsDecoded := by
  obtain ⟨word, listed, equal⟩ := Option.map_eq_some_iff.mp read
  obtain ⟨rfl, -⟩ := Prod.mk.inj equal
  have each : ∀ word ∈ words, word.2.IsDecoded := by
    simp only [words, List.forall_mem_cons]
    exact ⟨.null, .bool _, .bool _, .float _, .float _, .float _, by simp⟩
  exact each word (List.mem_of_find?_eq_some listed)

theorem isDecoded_of_number {s rest : List Char} {v : Value} (read : number s = .ok (v, rest)) :
    v.IsDecoded := by
  rw [number] at read
  split at read
  · cases read
  · dsimp only at read
    split at read
    · split at read
      · cases read
      · cases read
        exact .int _
    · split at read
      · cases read
        exact .float _
      · cases read

/-- What the three readers make of a text, with some fuel, is decoded. -/
structure ReadsDecoded (fuel : Nat) : Prop where
  value : ∀ {s rest : List Char} {v : Value}, value fuel s = .ok (v, rest) → v.IsDecoded
  elements : ∀ {s rest : List Char} {items : List Value}, elements fuel s = .ok (items, rest) →
    ∀ item ∈ items, item.IsDecoded
  members : ∀ {made entries : List (Value × Value)} {s rest : List Char},
    IsDecoded (.mapping made) → members fuel made s = .ok (entries, rest) →
    IsDecoded (.mapping entries)

namespace ReadsDecoded

variable {fuel : Nat}

/-- The reader of values hands lists and mappings on, which take up the rest of the fuel. -/
theorem value_succ (h : ReadsDecoded fuel) {s rest : List Char} {v : Value}
    (read : Json.value (fuel + 1) s = .ok (v, rest)) : v.IsDecoded := by
  unfold Json.value at read
  split at read
  · cases read
  · obtain ⟨body, -, equal⟩ := bind_eq_ok.mp read
    cases equal
    exact .text _
  · split at read
    · split at read
      · split at read
        · cases read
          exact .empty_mapping
        · obtain ⟨body, entries, equal⟩ := bind_eq_ok.mp read
          cases equal
          exact h.members .empty_mapping entries
      · cases read
    · split at read
      · split at read
        · cases read
          exact .list (by simp)
        · obtain ⟨body, items, equal⟩ := bind_eq_ok.mp read
          cases equal
          exact .list (h.elements items)
      · split at read
        · next word =>
          cases read
          exact isDecoded_of_word? word
        · exact isDecoded_of_number read

theorem elements_succ (h : ReadsDecoded fuel) {s rest : List Char} {items : List Value}
    (read : Json.elements (fuel + 1) s = .ok (items, rest)) : ∀ item ∈ items, item.IsDecoded := by
  unfold Json.elements at read
  obtain ⟨⟨first, left⟩, one, read⟩ := bind_eq_ok.mp read
  have decoded := h.value one
  dsimp only at read
  split at read
  · cases read
    exact List.forall_mem_singleton.mpr decoded
  · obtain ⟨others, more, equal⟩ := bind_eq_ok.mp read
    cases equal
    exact List.forall_mem_cons.mpr ⟨decoded, h.elements more⟩
  · cases read

theorem members_succ (h : ReadsDecoded fuel) {made entries : List (Value × Value)}
    {s rest : List Char} (so_far : IsDecoded (.mapping made))
    (read : Json.members (fuel + 1) made s = .ok (entries, rest)) :
    IsDecoded (.mapping entries) := by
  unfold Json.members at read
  split at read
  · obtain ⟨⟨name, left⟩, -, read⟩ := bind_eq_ok.mp read
    dsimp only at read
    split at read
    · obtain ⟨⟨item, left⟩, one, read⟩ := bind_eq_ok.mp read
      -- a member is written over an earlier one of its name, so the mapping stays an object
      have written := so_far.insert name (h.value one)
      dsimp only at read
      split at read
      · cases read
      · split at read
        · cases read
          exact written
        · split at read
          · exact h.members written read
          · cases read
    · cases read
  · cases read

end ReadsDecoded

/-- Each of the three readers calls the others with less fuel, so one induction serves them all. -/
theorem readsDecoded (fuel : Nat) : ReadsDecoded fuel := by
  induction fuel with
  | zero =>
    constructor
    · intro s rest v read
      cases read
    · intro s rest items read
      cases read
    · intro made entries s rest so_far read
      cases read
  | succ fuel ih => exact ⟨ih.value_succ, ih.elements_succ, ih.members_succ⟩

/-- **The value of a JSON text is decoded.** -/
theorem isDecoded_of_parse {text : List Char} {v : Value} (parsed : parse text = .ok v) :
    v.IsDecoded := by
  rw [parse] at parsed
  split at parsed
  · cases parsed
  · obtain ⟨⟨read, left⟩, one, parsed⟩ := bind_eq_ok.mp parsed
    dsimp only at parsed
    split at parsed
    · cases parsed
      exact (readsDecoded _).value one
    · cases parsed

end Json

end TradeJournal
