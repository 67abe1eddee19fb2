import TradeJournal.Value

/-!
# Objects

A mapping whose keys are texts, no two of them the same, is an object; its keys are then called
names. What is written under a name is found there, and nothing else is found elsewhere than before.
Mappings that come from other formats may have keys of other kinds as well; what is found under a
name does not depend on those, as long as no name is there twice.

| notion | meaning |
|---|---|
| `Value.IsObject` | entries under distinct names |
| `Value.NamesOnce` | entries of which no two are under one name |
| `Value.Throughout` | a condition on a mapping and on the mappings inside it |
-/

namespace TradeJournal.Value

/-! ### Names -/

/-- Only a text is the same as a text. -/
theorem same_text_iff {v : Value} {s : String} : v.same (.text s) = true ↔ v = .text s := by
  cases v <;> simp [same, sameLeaf, wholeNumber?]

/-- A name is one key with itself alone. -/
theorem text_sameKey_iff {s : String} {key : Value} :
    (Value.text s).sameKey key = true ↔ key = .text s := by
  cases key with
  | text t => exact beq_iff_eq.trans ⟨fun equal => congrArg text equal.symm, fun equal =>
    (text.inj equal).symm⟩
  | _ => exact iff_of_false Bool.false_ne_true nofun

theorem sameKey_text_iff {s : String} {key : Value} : key.sameKey (.text s) = true ↔
    key = .text s := by
  have compared : key.sameKey (.text s) = key.same (.text s) := by
    cases key with
    | float x => cases x <;> rfl
    | _ => rfl
  rw [compared, same_text_iff]

/-- An entry is written where its key stands, or further on. -/
theorem insert_cons (entry : Value × Value) (rest : List (Value × Value)) (key v : Value) :
    insert (entry :: rest) key v =
      if entry.1.sameKey key then (entry.1, v) :: rest else entry :: insert rest key v := rfl

variable {entries : List (Value × Value)}

theorem field?_cons_self (name : String) (v : Value) (rest : List (Value × Value)) :
    field? ((.text name, v) :: rest) name = some v := by
  have own : (Value.text name).same (.text name) = true := same_text_iff.mpr rfl
  simp [field?, lookup?, own]

theorem field?_cons_of_ne {entry : Value × Value} {name : String} (other : entry.1 ≠ .text name)
    (rest : List (Value × Value)) : field? (entry :: rest) name = field? rest name := by
  have apart : entry.1.same (.text name) = false := by
    rw [← Bool.not_eq_true, same_text_iff]
    exact other
  simp [field?, lookup?, apart]

/-- **What is written under a name is found there.** -/
theorem field?_insert_self (entries : List (Value × Value)) (name : String) (v : Value) :
    field? (insert entries (.text name) v) name = some v := by
  induction entries with
  | nil => exact field?_cons_self name v []
  | cons entry rest ih =>
    obtain ⟨key, w⟩ := entry
    rw [insert_cons]
    split
    · next one =>
      obtain rfl := sameKey_text_iff.mp one
      exact field?_cons_self name v rest
    · next other => rw [field?_cons_of_ne fun own => other (sameKey_text_iff.mpr own), ih]

/-- **What is written under another key changes nothing.** -/
theorem field?_insert_of_ne {key : Value} {name : String} (other : key ≠ .text name)
    (entries : List (Value × Value)) (v : Value) :
    field? (insert entries key v) name = field? entries name := by
  induction entries with
  | nil => exact field?_cons_of_ne other []
  | cons entry rest ih =>
    obtain ⟨own, w⟩ := entry
    rw [insert_cons]
    split
    · next one =>
      have elsewhere : own ≠ .text name := by
        rintro rfl
        exact other (text_sameKey_iff.mp one)
      rw [field?_cons_of_ne elsewhere, field?_cons_of_ne elsewhere]
    · by_cases here : own = .text name
      · subst here
        rw [field?_cons_self, field?_cons_self]
      · rw [field?_cons_of_ne here, field?_cons_of_ne here, ih]

/-- Writing what is there already changes nothing. -/
theorem insert_eq_self {name : String} {v : Value} (found : field? entries name = some v) :
    insert entries (.text name) v = entries := by
  induction entries with
  | nil => cases found
  | cons entry rest ih =>
    obtain ⟨key, w⟩ := entry
    rw [insert_cons]
    split
    · next one =>
      obtain rfl := sameKey_text_iff.mp one
      rw [field?_cons_self] at found
      rw [Option.some.inj found]
    · next other =>
      rw [field?_cons_of_ne fun own => other (sameKey_text_iff.mpr own)] at found
      rw [ih found]

/-- What is written under a new name goes to the end. -/
theorem insert_of_fresh {name : String} (fresh : field? entries name = none) (v : Value) :
    insert entries (.text name) v = entries ++ [(.text name, v)] := by
  induction entries with
  | nil => rfl
  | cons entry rest ih =>
    obtain ⟨key, w⟩ := entry
    have other : key ≠ .text name := by
      rintro rfl
      rw [field?_cons_self] at fresh
      cases fresh
    rw [field?_cons_of_ne other] at fresh
    rw [insert_cons, if_neg fun one => other (sameKey_text_iff.mp one), ih fresh, List.cons_append]

/-- What is found under a name is in the mapping. -/
theorem mem_of_field? {name : String} {v : Value} (found : field? entries name = some v) :
    (.text name, v) ∈ entries := by
  obtain ⟨⟨key, w⟩, first, rfl⟩ := Option.map_eq_some_iff.mp found
  have own : key.same (.text name) = true := by simpa using List.find?_some first
  exact same_text_iff.mp own ▸ List.mem_of_find?_eq_some first

/-- Writing an entry leaves the values that were there and adds the new one. -/
theorem snd_of_mem_insert {key v : Value} {entry : Value × Value}
    (member : entry ∈ insert entries key v) : entry ∈ entries ∨ entry.2 = v := by
  induction entries with
  | nil =>
    obtain rfl := List.mem_singleton.mp member
    exact Or.inr rfl
  | cons first rest ih =>
    rw [insert_cons] at member
    split at member
    · rcases List.mem_cons.mp member with rfl | old
      · exact Or.inr rfl
      · exact Or.inl (List.mem_cons_of_mem _ old)
    · rcases List.mem_cons.mp member with rfl | later
      · exact Or.inl List.mem_cons_self
      · exact (ih later).imp_left (List.mem_cons_of_mem _)

/-- Writing an entry leaves the keys that were there and adds its own at most. -/
theorem fst_of_mem_insert {key v : Value} {entry : Value × Value}
    (member : entry ∈ insert entries key v) : entry.1 ∈ entries.map (·.1) ∨ entry.1 = key := by
  induction entries with
  | nil =>
    obtain rfl := List.mem_singleton.mp member
    exact Or.inr rfl
  | cons first rest ih =>
    rw [List.map_cons, List.mem_cons]
    rw [insert_cons] at member
    split at member
    · rcases List.mem_cons.mp member with rfl | old
      · exact Or.inl (Or.inl rfl)
      · exact Or.inl (Or.inr (List.mem_map_of_mem old))
    · rcases List.mem_cons.mp member with rfl | later
      · exact Or.inl (Or.inl rfl)
      · exact (ih later).imp_left Or.inr

/-! ### Mappings in which no name is there twice -/

/-- **Whether no name is there twice** among the keys of a mapping, which may have others. -/
def NamesOnce (entries : List (Value × Value)) : Prop :=
  entries.Pairwise fun entry later => ∀ name, entry.1 = .text name → later.1 ≠ .text name

theorem NamesOnce.insert (h : NamesOnce entries) (key v : Value) :
    NamesOnce (Value.insert entries key v) := by
  induction entries with
  | nil => exact List.pairwise_singleton _ _
  | cons entry rest ih =>
    obtain ⟨first, others⟩ := List.pairwise_cons.mp h
    rw [insert_cons]
    split
    · exact List.pairwise_cons.mpr ⟨first, others⟩
    · next other =>
      refine List.pairwise_cons.mpr ⟨fun later member name own => ?_, ih others⟩
      rcases fst_of_mem_insert member with old | new
      · obtain ⟨kept, kept_member, same_key⟩ := List.mem_map.mp old
        exact same_key ▸ first kept kept_member name own
      · intro again
        exact other (own ▸ text_sameKey_iff.mpr (new ▸ again))

/-- **A mapping made by writing entries** has every name once. -/
theorem namesOnce_ofEntries (written : List (Value × Value)) : NamesOnce (ofEntries written) :=
  List.foldlRecOn written _ List.Pairwise.nil fun _ once entry _ => once.insert entry.1 entry.2

/-- What holds of all values that are written holds of those in the mapping. -/
theorem forall_mem_ofEntries {P : Value → Prop} {written : List (Value × Value)}
    (all : ∀ entry ∈ written, P entry.2) : ∀ entry ∈ ofEntries written, P entry.2 := by
  refine List.foldlRecOn written _ (motive := fun made : List (Value × Value) => ∀ entry ∈ made,
    P entry.2) (by simp) ?_
  intro made so_far source listed entry member
  rcases snd_of_mem_insert member with old | new
  · exact so_far entry old
  · exact new ▸ all source listed

/-! ### Objects -/

/-- **Whether entries are those of an object**: their keys are texts, and no two are the same. -/
structure IsObject (entries : List (Value × Value)) : Prop where
  named : ∀ entry ∈ entries, ∃ name, entry.1 = .text name
  distinct : (entries.map (·.1)).Nodup

/-- Writing under a name adds that name to the keys, unless it is one of them. -/
theorem keys_insert {entries : List (Value × Value)}
    (named : ∀ entry ∈ entries, ∃ name, entry.1 = .text name) (name : String) (v : Value) :
    let keys := entries.map (·.1)
    let keys' := (insert entries (.text name) v).map (·.1)
    keys' = keys ∨ .text name ∉ keys ∧ keys' = keys ++ [.text name] := by
  intro keys keys'
  induction entries with
  | nil => exact Or.inr ⟨by simp [keys], rfl⟩
  | cons entry rest ih =>
    obtain ⟨⟨own, is_own⟩, others⟩ := List.forall_mem_cons.mp named
    have compared : entry.1.sameKey (.text name) = entry.1.same (.text name) := by
      rw [is_own]
      rfl
    simp only [keys, keys', insert_cons, compared, List.map_cons]
    by_cases equal : entry.1 = .text name
    · rw [if_pos (same_text_iff.mpr equal)]
      exact Or.inl rfl
    · rw [if_neg (fun same => equal (same_text_iff.mp same)), List.map_cons]
      rcases ih others with old | ⟨fresh, new⟩
      · exact Or.inl (congrArg (entry.1 :: ·) old)
      · refine Or.inr ⟨?_, congrArg (entry.1 :: ·) new⟩
        rw [List.mem_cons, not_or]
        exact ⟨Ne.symm equal, fresh⟩

theorem mem_keys_insert (named : ∀ entry ∈ entries, ∃ name, entry.1 = .text name) (name : String)
    (v key : Value) :
    key ∈ (insert entries (.text name) v).map (·.1) ↔
    key ∈ entries.map (·.1) ∨ key = .text name := by
  have written : .text name ∈ (insert entries (.text name) v).map (·.1) :=
    List.mem_map_of_mem (mem_of_field? (field?_insert_self entries name v))
  rcases keys_insert named name v with old | ⟨-, new⟩
  · rw [old] at written ⊢
    constructor
    · exact Or.inl
    · rintro (member | rfl)
      · exact member
      · exact written
  · rw [new, List.mem_append, List.mem_singleton]

theorem isObject_nil : IsObject [] := ⟨by simp, by simp⟩

/-- **Objects stay objects** when something is written under a name. -/
theorem IsObject.insert {entries : List (Value × Value)} (h : IsObject entries) (name : String)
    (v : Value) : IsObject (Value.insert entries (.text name) v) := by
  suffices keys : ((Value.insert entries (.text name) v).map (·.1)).Nodup ∧
      ∀ key ∈ (Value.insert entries (.text name) v).map (·.1), ∃ name, key = .text name from
    ⟨fun entry member => keys.2 entry.1 (List.mem_map_of_mem member), keys.1⟩
  have named : ∀ key ∈ entries.map (·.1), ∃ name, key = .text name :=
    List.forall_mem_map.mpr h.named
  -- Either the name was there already, or it comes to the end as a new one.
  rcases keys_insert h.named name v with old | ⟨fresh, new⟩
  · rw [old]
    exact ⟨h.distinct, named⟩
  · rw [new]
    refine ⟨List.nodup_append.mpr ⟨h.distinct, by simp, fun key member key' last equal => ?_⟩,
      List.forall_mem_append.mpr ⟨named, by simp⟩⟩
    rw [List.mem_singleton] at last
    exact fresh (last ▸ equal ▸ member)

/-- Under a name there is at most one entry, so the last one is the first one. -/
theorem IsObject.getLast?_filter {entries : List (Value × Value)} (h : IsObject entries)
    (name : String) :
    (entries.filter fun entry => entry.1.same (.text name)).getLast? =
      entries.find? fun entry => entry.1.same (.text name) := by
  obtain ⟨-, distinct⟩ := h
  induction entries with
  | nil => rfl
  | cons entry rest ih =>
    rw [List.map_cons, List.nodup_cons] at distinct
    obtain ⟨fresh, distinct⟩ := distinct
    cases own : entry.1.same (.text name) with
    | false => simpa [own] using ih distinct
    | true =>
      have none_after : (rest.filter fun entry => entry.1.same (.text name)) = [] := by
        refine List.filter_eq_nil_iff.mpr fun entry' member same => fresh ?_
        rw [same_text_iff.mp own, ← same_text_iff.mp same]
        exact List.mem_map_of_mem member
      simp [own, none_after]

theorem IsObject.namesOnce (h : IsObject entries) : NamesOnce entries := by
  refine (List.pairwise_map.mp h.distinct).imp fun {entry later} apart name own again => ?_
  exact apart (own.trans again.symm)

/-- **What is in a mapping under a name is found there.** -/
theorem NamesOnce.field?_of_mem (h : NamesOnce entries) {name : String} {v : Value}
    (member : (.text name, v) ∈ entries) : field? entries name = some v := by
  induction entries with
  | nil => cases member
  | cons entry rest ih =>
    obtain ⟨first, others⟩ := List.pairwise_cons.mp h
    rcases List.mem_cons.mp member with rfl | later
    · exact field?_cons_self name v rest
    · rw [field?_cons_of_ne fun own => first _ later name own rfl, ih others later]

/-! ### Mappings inside mappings -/

/-- **A condition on a mapping and on the mappings inside it**, as deep as mappings lead. What else
a value may be, the elements of lists included, does not matter. -/
inductive Throughout (P : List (Value × Value) → Prop) : Value → Prop
  | other {v : Value} (no_mapping : ∀ entries, v ≠ .mapping entries) : Throughout P v
  | mapping {entries : List (Value × Value)} (here : P entries)
      (inside : ∀ entry ∈ entries, Throughout P entry.2) : Throughout P (.mapping entries)

theorem Throughout.mono {P Q : List (Value × Value) → Prop} (imp : ∀ entries, P entries → Q entries)
    {v : Value} (h : Throughout P v) : Throughout Q v := by
  induction h with
  | other no_mapping => exact .other no_mapping
  | mapping here _ ih => exact .mapping (imp _ here) ih

section

variable {P : List (Value × Value) → Prop} (h : Throughout P (.mapping entries))
include h

theorem Throughout.here : P entries := by
  cases h with
  | other no_mapping => exact absurd rfl (no_mapping entries)
  | mapping here _ => exact here

theorem Throughout.inside : ∀ entry ∈ entries, Throughout P entry.2 := by
  cases h with
  | other no_mapping => exact absurd rfl (no_mapping entries)
  | mapping _ inside => exact inside

theorem Throughout.of_field? {name : String} {v : Value} (found : field? entries name = some v) :
    Throughout P v := h.inside _ (mem_of_field? found)

end

end TradeJournal.Value
