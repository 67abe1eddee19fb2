import TradeJournal.Proofs.Number.Order
import TradeJournal.Value

/-!
# What values mean as keys

Truth values, whole numbers and floating-point numbers are one key when they are the same number,
and clock readings when they name the same moment. So a value that may serve as a key has a
meaning, and two of them are one key where their meanings are equal. That makes being one key an
equivalence, although `Value.same` compares values kind by kind.
-/

namespace TradeJournal.Value

open Calendar (Day ClockReading Moment)

/-- **What a key can mean.** What is not a number has no place. Of a clock it matters whether its
distance from universal time is known, and the moment that it then names. -/
inductive Meaning
  | nothing
  | number (place? : Option (WithBotTop ℚ))
  | text (s : String)
  | day (d : Day)
  | moment (known : Bool) (micros : Int)
  | foreign (meaning : String)

/-- The moment that a clock reading names, universal time being assumed. -/
def momentOf (r : ClockReading) : Int :=
  (Moment.ofClock r.day r.time).micros - r.ahead.getD 0 * 1_000_000

/-- **The meaning of a value as a key**; lists and mappings, which are no keys, have none. -/
def meaning? : Value → Option Meaning
  | null => some .nothing
  | bool b => some (.number (some (Double.placeOfInt (if b then 1 else 0))))
  | int n => some (.number (some (Double.placeOfInt n)))
  | float x => some (.number x.place?)
  | text s => some (.text s)
  | date d => some (.day d)
  | moment r => some (.moment r.ahead.isSome (momentOf r))
  | foreign face _ => some (.foreign face.meaning)
  | list _ | mapping _ => none

theorem exists_meaning {v : Value} (hashable : v.isHashable = true) : ∃ m, v.meaning? = some m := by
  cases v with
  | list | mapping => cases hashable
  | _ => exact ⟨_, rfl⟩

/-- Clock readings are the same where their meanings are. -/
theorem reading_same_iff {r s : ClockReading} :
    r.same s = true ↔ r.ahead.isSome = s.ahead.isSome ∧ momentOf r = momentOf s := by
  rw [momentOf, momentOf, ClockReading.same]
  cases r.ahead <;> cases s.ahead <;> simp

/-- Floating-point numbers are one key where their places are, what is not a number included. -/
theorem sameKey_float_iff {x y : Double} :
    (float x).sameKey (float y) = true ↔ x.place? = y.place? := by
  by_cases neither : x = .nan ∧ y = .nan
  · obtain ⟨rfl, rfl⟩ := neither
    simp [sameKey, isOneThing]
  · have apart : (float x).isOneThing (float y) = false := by
      rw [isOneThing.eq_def]
      grind
    have compared : (float x).sameKey (float y) = x.same y := by
      rw [sameKey, apart, Bool.false_or, same, sameLeaf] <;> grind
    rw [compared, Double.same_iff]
    constructor
    · rintro ⟨p, px, py⟩
      rw [px, py]
    · intro equal
      obtain ⟨p, px⟩ : ∃ p, x.place? = some p := by
        rw [← Option.isSome_iff_exists, Option.isSome_iff_ne_none, Ne, Double.place?_eq_none_iff]
        rintro rfl
        exact neither ⟨rfl, Double.place?_eq_none_iff.mp equal.symm⟩
      exact ⟨p, px, equal ▸ px⟩

/-- **A value is one key with another where both mean the same.** -/
theorem sameKey_iff {a b : Value} (hashable : b.isHashable = true) :
    a.sameKey b = true ↔ a.meaning? = b.meaning? ∧ b.meaning? ≠ none := by
  cases a <;> cases b
  case float.float x y => simp [sameKey_float_iff, meaning?]
  case bool.float b x =>
    have turned : (bool b).sameKey (float x) = x.sameInt (if b then 1 else 0) := by
      simp [sameKey, isOneThing, same, sameLeaf, wholeNumber?]
    rw [turned, Double.sameInt_iff, eq_comm]
    simp [meaning?]
  case int.float n x =>
    have turned : (int n).sameKey (float x) = x.sameInt n := by
      simp [sameKey, isOneThing, same, sameLeaf, wholeNumber?]
    rw [turned, Double.sameInt_iff, eq_comm]
    simp [meaning?]
  -- Any other two values are compared directly, and values of different kinds differ in meaning.
  all_goals
    simp_all [sameKey, isOneThing, same, sameLeaf, wholeNumber?, meaning?, isHashable, unhashable?,
      Double.placeOfInt_inj, Double.sameInt_iff, reading_same_iff]

/-- What can be a key is one key with itself. -/
theorem sameKey_refl {v : Value} (hashable : v.isHashable = true) : v.sameKey v = true := by
  obtain ⟨m, means⟩ := exists_meaning hashable
  exact (sameKey_iff hashable).mpr ⟨rfl, by simp [means]⟩

/-- Being one key goes both ways. -/
theorem sameKey_symm {a b : Value} (ha : a.isHashable = true) (hb : b.isHashable = true)
    (one : a.sameKey b = true) : b.sameKey a = true := by
  obtain ⟨equal, known⟩ := (sameKey_iff hb).mp one
  exact (sameKey_iff ha).mpr ⟨equal.symm, equal ▸ known⟩

theorem sameKey_trans {a b c : Value} (hb : b.isHashable = true) (hc : c.isHashable = true)
    (first : a.sameKey b = true) (second : b.sameKey c = true) : a.sameKey c = true := by
  obtain ⟨equal, -⟩ := (sameKey_iff hb).mp first
  obtain ⟨equal', known⟩ := (sameKey_iff hc).mp second
  exact (sameKey_iff hc).mpr ⟨equal.trans equal', known⟩

end TradeJournal.Value
