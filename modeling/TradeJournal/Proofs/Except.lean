/-!
# Results that succeed

What is worked out step by step succeeds when every step does. Such a success is taken apart here,
so that no proof has to go through the ways in which a step fails; a failure is that of the first
step that fails.
-/

namespace TradeJournal

variable {ε α β γ : Type}

/-- **A step and what follows it succeed** when the step does and then what follows does. -/
theorem bind_eq_ok {x : Except ε α} {f : α → Except ε β} {b : β} :
    x >>= f = .ok b ↔ ∃ a, x = .ok a ∧ f a = .ok b := by
  cases x <;> simp [bind, Except.bind]

/-- **A step and what follows it fail** when the step does, or does not and what follows fails. -/
theorem bind_eq_error {x : Except ε α} {f : α → Except ε β} {e : ε} :
    x >>= f = .error e ↔ x = .error e ∨ ∃ a, x = .ok a ∧ f a = .error e := by
  cases x <;> simp [bind, Except.bind]

/-- **What is made of a result is there** when the result is. -/
theorem map_eq_ok {x : Except ε α} {f : α → β} {b : β} :
    f <$> x = .ok b ↔ ∃ a, x = .ok a ∧ f a = b := by
  cases x <;> simp [Functor.map, Except.map]

/-- What is made of a result fails as the result does. -/
theorem map_eq_error {x : Except ε α} {f : α → β} {e : ε} : f <$> x = .error e ↔ x = .error e := by
  cases x <;> simp [Functor.map, Except.map]

/-- What succeeds has no fault. -/
theorem exists_error_iff {x : Except ε α} : (∃ e, x = .error e) ↔ ¬∃ a, x = .ok a := by
  cases x <;> simp

/-- What succeeds with nothing to say is known. -/
theorem eq_ok_of_isOk {x : Except ε Unit} (succeeds : x.isOk = true) : x = .ok () := by
  cases x with
  | error e => cases succeeds
  | ok => rfl

/-! ### Faults -/

/-- **The fault of a result**, if it failed. -/
def fault? : Except ε α → Option ε
  | .ok _ => none
  | .error e => some e

theorem fault?_eq_some_iff {x : Except ε α} {e : ε} : fault? x = some e ↔ x = .error e := by
  cases x <;> simp [fault?]

@[simp] theorem fault?_map (f : α → β) (x : Except ε α) : fault? (f <$> x) = fault? x := by
  cases x <;> rfl

@[simp] theorem fault?_bind_ok (x : Except ε α) (f : α → β) :
    fault? (x >>= fun a => .ok (f a)) = fault? x := by
  cases x <;> rfl

/-- **Of two results that are both asked for** the first one's fault comes first. -/
theorem fault?_both (x : Except ε α) (y : Except ε β) (f : α → β → γ) :
    fault? (do let a ← x; let b ← y; .ok (f a b)) = (fault? x).or (fault? y) := by
  cases x <;> cases y <;> rfl

section

variable {x : Except ε α} {l : List β} {p : β → Option ε}

/-- **What fails with the first fault in a list** fails when there is one. -/
theorem exists_error_iff_of_first (first : fault? x = l.findSome? p) :
    (∃ e, x = .error e) ↔ ∃ b ∈ l, ∃ e, p b = some e := by
  simp only [← fault?_eq_some_iff, ← Option.isSome_iff_exists, first, List.findSome?_isSome_iff]

/-- That fault is one after which everything before it passes. -/
theorem eq_error_iff_of_first (first : fault? x = l.findSome? p) {e : ε} :
    x = .error e ↔ ∃ before b later,
      l = before ++ b :: later ∧ p b = some e ∧ ∀ a ∈ before, p a = none := by
  rw [← fault?_eq_some_iff, first, List.findSome?_eq_some_iff]

end

end TradeJournal
