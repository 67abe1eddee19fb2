import TradeJournal.Proofs.Value.Object
import TradeJournal.Settings.Overlay

/-!
# What counts where one mapping is laid over another

A place inside a mapping is known by the names that lead there. Where the upper mapping has nothing
at a place the lower one counts, where both have a mapping these are laid over each other in turn,
and everywhere else the upper one counts (`Settings.at?_overlaid`). So a mapping that has already
been laid over another can be laid over the result without changing it
(`Settings.overlaid_overlaid`), and in particular over itself.
-/

namespace TradeJournal

namespace Value

/-! ### Places -/

/-- **The value at a place**: names lead into mappings and end at the value. -/
def at? (v : Value) : List String → Option Value
  | [] => some v
  | name :: rest =>
    match v with
    | .mapping entries => (field? entries name).bind fun inner => inner.at? rest
    | _ => none

/-- **Whether names lead through mappings** up to the last one, which need not be there. -/
def LeadsThrough (v : Value) (path : List String) : Prop :=
  ∀ start, start <+: path → start ≠ path → ∃ entries, v.at? start = some (.mapping entries)

theorem leadsThrough_nil (v : Value) : v.LeadsThrough [] :=
  fun _ before proper => absurd (List.prefix_nil.mp before) proper

/-- A name leads through a mapping if those after it lead through what it leads to. -/
theorem LeadsThrough.cons {entries : List (Value × Value)} {name : String} {rest : List String}
    {v : Value} (found : field? entries name = some v) (h : v.LeadsThrough rest) :
    (mapping entries).LeadsThrough (name :: rest) := by
  intro start before proper
  rcases List.prefix_cons_iff.mp before with rfl | ⟨start, rfl, within⟩
  · exact ⟨entries, rfl⟩
  · obtain ⟨inner, there⟩ := h start within fun whole => proper (whole ▸ rfl)
    exact ⟨inner, by rwa [at?, found]⟩

/-- The last name need not be there. -/
theorem LeadsThrough.single (entries : List (Value × Value)) (name : String) :
    (mapping entries).LeadsThrough [name] := by
  intro start before proper
  rcases List.prefix_cons_iff.mp before with rfl | ⟨start, rfl, within⟩
  · exact ⟨entries, rfl⟩
  · exact absurd (congrArg (name :: ·) (List.prefix_nil.mp within)) proper

/-- The first of some names leads into a mapping. -/
theorem LeadsThrough.exists_mapping {v : Value} {name : String} {rest : List String}
    (h : v.LeadsThrough (name :: rest)) : ∃ entries, v = .mapping entries := by
  obtain ⟨entries, here⟩ := h [] (List.nil_prefix) (by simp)
  exact ⟨entries, Option.some.inj here⟩

theorem LeadsThrough.tail {entries : List (Value × Value)} {name : String} {rest : List String}
    {v : Value} (h : (mapping entries).LeadsThrough (name :: rest))
    (found : field? entries name = some v) : v.LeadsThrough rest := by
  intro start before proper
  obtain ⟨inner, there⟩ := h (name :: start) (List.prefix_cons_inj name |>.mpr before) (by simpa)
  exact ⟨inner, by rwa [at?, found] at there⟩

/-- A condition on all mappings inside a value holds inside the value at any place. -/
theorem Throughout.of_at? {P : List (Value × Value) → Prop} {v w : Value} {path : List String}
    (h : Throughout P v) (found : v.at? path = some w) : Throughout P w := by
  induction path generalizing v with
  | nil =>
    obtain rfl := Option.some.inj found
    exact h
  | cons name rest ih =>
    cases v with
    | mapping entries =>
      obtain ⟨inner, here, there⟩ := Option.bind_eq_some_iff.mp found
      exact ih (h.of_field? here) there
    | _ => cases found

end Value

open Value (at? field? lookup? IsObject NamesOnce Throughout LeadsThrough)

namespace Settings

/-! ### One value over another -/

/-- What is no mapping counts as it is. -/
theorem overlaid_of_no_mapping {v : Value} (no_mapping : ∀ entries, v ≠ .mapping entries)
    (under : Option Value) : overlaid under v = v := by
  cases v with
  | mapping entries => exact absurd rfl (no_mapping entries)
  | _ => rfl

/-- Over what is no mapping every value counts as it is. -/
theorem overlaid_eq_self {under : Option Value} (no_mapping : ∀ base, under ≠ some (.mapping base))
    (v : Value) : overlaid under v = v := by
  cases v with
  | mapping entries =>
    rw [overlaid]
    exact no_mapping
  | _ => rfl

theorem overlaid_none (v : Value) : overlaid none v = v := overlaid_eq_self (by simp) v

theorem overlaid_mapping (base layer : List (Value × Value)) :
    overlaid (some (.mapping base)) (.mapping layer) = .mapping (overlay base layer) := rfl

/-! ### What is found under a name -/

/-- **What counts under a name.** -/
theorem field?_overlay {layer : List (Value × Value)} (once : NamesOnce layer)
    (base : List (Value × Value)) (name : String) :
    field? (overlay base layer) name =
      match field? layer name with
      | none => field? base name
      | some v => some (overlaid (field? base name) v) := by
  induction layer generalizing base with
  | nil => rfl
  | cons entry rest ih =>
    obtain ⟨key, v⟩ := entry
    obtain ⟨first, others⟩ := List.pairwise_cons.mp once
    rw [overlay, ih others]
    by_cases own : key = .text name
    · -- The name is not there again, so the rest leaves alone what is written under it now.
      subst own
      have fresh : field? rest name = none := by
        rw [Option.eq_none_iff_forall_ne_some]
        intro w found
        exact first _ (Value.mem_of_field? found) name rfl rfl
      rw [fresh, Value.field?_cons_self, Value.field?_insert_self]
      rfl
    · rw [Value.field?_cons_of_ne own, Value.field?_insert_of_ne own]

/-- **What counts at a place**, as long as it can be reached on both sides. -/
theorem at?_overlaid (path : List String) {base layer : Value} (once : Throughout NamesOnce layer)
    (through : base.LeadsThrough path) (through' : layer.LeadsThrough path) :
    (overlaid (some base) layer).at? path =
      match layer.at? path with
      | none => base.at? path
      | some v => some (overlaid (base.at? path) v) := by
  induction path generalizing base layer with
  | nil => rfl
  | cons name rest ih =>
    obtain ⟨lower, rfl⟩ := through.exists_mapping
    obtain ⟨upper, rfl⟩ := through'.exists_mapping
    rw [overlaid_mapping, at?, at?, at?, field?_overlay once.here]
    cases above : field? upper name with
    | none => rfl
    | some v =>
      cases below : field? lower name with
      | some w => exact ih (once.of_field? above) (through.tail below) (through'.tail above)
      | none =>
        -- With nothing below, everything above counts, at every place in it.
        dsimp only [Option.bind_some]
        rw [overlaid_none, Option.bind_none]
        cases v.at? rest with
        | none => rfl
        | some inner => exact congrArg some (overlaid_none inner).symm

section

variable {path : List String} {base layer : List (Value × Value)}
  (once : Throughout NamesOnce (.mapping layer))
  (through : (Value.mapping base).LeadsThrough path)
    (through' : (Value.mapping layer).LeadsThrough path)
include once through through'

/-- What the upper mapping lacks is as in the lower one. -/
theorem at?_overlay_of_none (absent : (Value.mapping layer).at? path = none) :
    (Value.mapping (overlay base layer)).at? path = (Value.mapping base).at? path := by
  have counts := at?_overlaid path once through through'
  rw [absent] at counts
  exact counts

/-- What the upper mapping has is laid over what the lower one has. -/
theorem at?_overlay_of_some {v : Value} (there : (Value.mapping layer).at? path = some v) :
    (Value.mapping (overlay base layer)).at? path =
      some (overlaid ((Value.mapping base).at? path) v) := by
  have counts := at?_overlaid path once through through'
  rw [there] at counts
  exact counts

end

/-! ### Keys -/

/-- **An object over an object is an object**, with the names of both. -/
theorem overlay_isObject {layer : List (Value × Value)} (named : IsObject layer)
    {base : List (Value × Value)} (h : IsObject base) :
    IsObject (overlay base layer) ∧
      ∀ key, key ∈ (overlay base layer).map (·.1) ↔
        key ∈ base.map (·.1) ∨ key ∈ layer.map (·.1) := by
  induction layer generalizing base with
  | nil => exact ⟨h, by simp [overlay]⟩
  | cons entry rest ih =>
    obtain ⟨key, v⟩ := entry
    obtain ⟨⟨name, is_name⟩, others⟩ := List.forall_mem_cons.mp named.named
    obtain rfl : key = .text name := is_name
    have distinct := (List.nodup_cons.mp named.distinct).2
    rw [overlay]
    obtain ⟨object, keys⟩ := ih ⟨others, distinct⟩
      (h.insert name (overlaid (lookup? base (.text name)) v))
    refine ⟨object, fun key => ?_⟩
    rw [keys, Value.mem_keys_insert h.named, List.map_cons, List.mem_cons, or_assoc]

/-! ### Over itself -/

/-- What already counts everywhere may be written over and over. -/
theorem overlay_eq_self {base layer : List (Value × Value)}
    (named : ∀ entry ∈ layer, ∃ name, entry.1 = .text name)
    (counts : ∀ name v, (.text name, v) ∈ layer →
      ∃ w, field? base name = some w ∧ overlaid (some w) v = w) :
    overlay base layer = base := by
  induction layer with
  | nil => rfl
  | cons entry rest ih =>
    obtain ⟨key, v⟩ := entry
    obtain ⟨⟨name, is_name⟩, others⟩ := List.forall_mem_cons.mp named
    obtain rfl : key = .text name := is_name
    obtain ⟨w, found, kept⟩ := counts name v List.mem_cons_self
    have looked_up : lookup? base (.text name) = some w := found
    rw [overlay, looked_up, kept, Value.insert_eq_self found]
    exact ih others fun name v member => counts name v (List.mem_cons_of_mem _ member)

/-- **What has been laid over something changes nothing when it is laid over the result.** -/
theorem overlaid_overlaid {v : Value} (objects : Throughout IsObject v) (under : Option Value) :
    overlaid (some (overlaid under v)) v = overlaid under v := by
  induction objects generalizing under with
  | other no_mapping => rw [overlaid_of_no_mapping no_mapping, overlaid_of_no_mapping no_mapping]
  | mapping object inside ih =>
    rename_i entries
    by_cases lower : ∃ base, under = some (.mapping base)
    · obtain ⟨base, rfl⟩ := lower
      rw [overlaid_mapping, overlaid_mapping]
      refine congrArg Value.mapping (overlay_eq_self object.named fun name v member => ?_)
      refine ⟨_, ?_, ih _ member (field? base name)⟩
      rw [field?_overlay object.namesOnce, object.namesOnce.field?_of_mem member]
    · rw [overlaid_eq_self (not_exists.mp lower), overlaid_mapping]
      refine congrArg Value.mapping (overlay_eq_self object.named fun name v member => ?_)
      refine ⟨v, object.namesOnce.field?_of_mem member, ?_⟩
      have over_nothing := ih _ member none
      rwa [overlaid_none] at over_nothing

theorem overlay_overlay {layer : List (Value × Value)}
    (objects : Throughout IsObject (.mapping layer))
    (base : List (Value × Value)) : overlay (overlay base layer) layer = overlay base layer :=
  Value.mapping.inj (overlaid_overlaid objects (some (.mapping base)))

theorem overlay_self {entries : List (Value × Value)}
    (objects : Throughout IsObject (.mapping entries)) : overlay entries entries = entries := by
  have over_nothing := overlaid_overlaid objects none
  rw [overlaid_none] at over_nothing
  exact Value.mapping.inj over_nothing

/-- Under names that are all new, what is laid over a mapping goes to its end. -/
theorem overlay_of_fresh {base layer : List (Value × Value)} (object : IsObject layer)
    (fresh : ∀ name v, (.text name, v) ∈ layer → field? base name = none) :
    overlay base layer = base ++ layer := by
  induction layer generalizing base with
  | nil => exact (List.append_nil base).symm
  | cons entry rest ih =>
    obtain ⟨key, v⟩ := entry
    obtain ⟨⟨name, is_name⟩, others⟩ := List.forall_mem_cons.mp object.named
    obtain rfl : key = .text name := is_name
    obtain ⟨once, distinct⟩ := List.nodup_cons.mp object.distinct
    have absent : field? base name = none := fresh name v List.mem_cons_self
    have looked_up : lookup? base (.text name) = none := absent
    rw [overlay, looked_up, overlaid_none, Value.insert_of_fresh absent, ih ⟨others, distinct⟩,
      List.append_assoc, List.singleton_append]
    intro later w member
    have listed : Value.text later ∈ rest.map (·.1) := List.mem_map_of_mem member
    have other : Value.text name ≠ .text later := fun equal => once (equal ▸ listed)
    rw [← Value.insert_of_fresh absent, Value.field?_insert_of_ne other]
    exact fresh later w (List.mem_cons_of_mem _ member)

theorem overlay_nil_left {layer : List (Value × Value)} (object : IsObject layer) :
    overlay [] layer = layer := overlay_of_fresh object fun _ _ _ => rfl

end Settings

end TradeJournal
