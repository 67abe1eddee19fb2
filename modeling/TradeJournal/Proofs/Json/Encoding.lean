import TradeJournal.Json.Writer
import TradeJournal.Proofs.Json.RoundTrip
import TradeJournal.Proofs.Text.Bytes

/-!
# The bytes of a report

A half of a pair has no bytes, and a text that holds one cannot be written to a file. What the
writer puts around the texts of a report holds none, and a character that is escaped is no half. So
a report can be written exactly when its texts can (`Report.noHalves_written_iff`): nothing is
escaped for having no bytes.
-/

namespace TradeJournal.Json

open Text
  (HalfCoding NoHalves noHalves_append noHalves_cons isPlain isPlain_iff noHalves_of_isPlain)

/-! ### The texts in a report -/

mutual

/-- **The texts in a report**, the names of fields among them. -/
def Report.strings : Report → List String
  | .null | .bool _ => []
  | .text s => [s]
  | .list items => stringsIn items
  | .record fields => stringsInFields fields

/-- The texts in elements. -/
def stringsIn : List Report → List String
  | [] => []
  | item :: rest => item.strings ++ stringsIn rest

/-- The texts in fields. -/
def stringsInFields : List (String × Report) → List String
  | [] => []
  | (name, item) :: rest => name :: (item.strings ++ stringsInFields rest)

end

theorem stringsIn_eq_flatMap (items : List Report) :
    stringsIn items = items.flatMap Report.strings := by
  induction items with
  | nil => rfl
  | cons item rest ih => rw [stringsIn, ih, List.flatMap_cons]

/-! ### Strings -/

variable {coding : HalfCoding}

/-- Characters of the plain alphabet are written with such characters. -/
theorem isPlain_writtenChar {c : Char} (plain : c.toNat < 128) :
    isPlain (writtenChar c) = true := by
  have each : ∀ n < 128, isPlain (writtenChar (Char.ofNat n)) = true := by decide +kernel
  have own := each c.toNat plain
  rwa [Char.ofNat_toNat] at own

/-- Any other character stands for itself. -/
theorem writtenChar_of_not_plain {c : Char} (other : ¬c.toNat < 128) : writtenChar c = [c] := by
  have differs {d : Char} (plain : d.toNat < 128) : c ≠ d := by
    rintro rfl
    exact other plain
  rw [writtenChar, if_neg (differs (by decide)), if_neg (differs (by decide)),
    if_neg (differs (by decide)), if_neg (differs (by decide)), if_neg (differs (by decide)),
    if_neg (by omega), if_neg (by omega), if_neg (by omega)]

theorem noHalves_writtenChar_iff {c : Char} :
    NoHalves coding (writtenChar c) ↔ coding.half? c = none := by
  by_cases plain : c.toNat < 128
  · exact iff_of_true (noHalves_of_isPlain coding (isPlain_writtenChar plain))
      (coding.plain c plain)
  · rw [writtenChar_of_not_plain plain]
    exact List.forall_mem_singleton

/-- What stands around the texts of a report is plain. -/
theorem noHalves_cons_plain {c : Char} {s : List Char} (plain : c.toNat < 128) :
    NoHalves coding (c :: s) ↔ NoHalves coding s := by
  rw [noHalves_cons, and_iff_right (coding.plain c plain)]

theorem noHalves_nil : NoHalves coding [] := List.forall_mem_nil _

theorem noHalves_writtenString_iff {s : String} :
    NoHalves coding (writtenString s) ↔ NoHalves coding s.toList := by
  have body : NoHalves coding (s.toList.flatMap writtenChar) ↔ NoHalves coding s.toList := by
    simp only [NoHalves, List.mem_flatMap, forall_exists_index, and_imp]
    constructor
    · intro written c listed
      exact noHalves_writtenChar_iff.mp (fun d inside => written d c listed inside)
    · intro whole d c listed inside
      exact noHalves_writtenChar_iff.mpr (whole c listed) d inside
  simp (disch := decide) only [writtenString, noHalves_append, noHalves_cons_plain,
    noHalves_nil, body,
    and_true]

theorem noHalves_newLine (depth : Nat) : NoHalves coding (newLine depth) := by
  refine noHalves_of_isPlain coding (isPlain_iff.mpr ?_)
  refine List.forall_mem_cons.mpr ⟨by decide, fun c member => ?_⟩
  obtain rfl := List.eq_of_mem_replicate member
  decide

/-! ### Reports -/

/-- Whether a report is free of halves, at any depth, just when its texts are. -/
def WrittenAsTexts (coding : HalfCoding) (r : Report) : Prop :=
  ∀ depth, NoHalves coding (r.written depth) ↔ ∀ s ∈ r.strings, NoHalves coding s.toList

section

variable {depth : Nat}

theorem noHalves_writtenRest_iff {items : List Report}
    (each : ∀ item ∈ items, WrittenAsTexts coding item) :
    NoHalves coding (writtenRest depth items) ↔
      ∀ s ∈ stringsIn items, NoHalves coding s.toList := by
  induction items with
  | nil => exact iff_of_true noHalves_nil (List.forall_mem_nil _)
  | cons item rest ih =>
    obtain ⟨first, others⟩ := List.forall_mem_cons.mp each
    simp (disch := decide) only [writtenRest, stringsIn, noHalves_append, noHalves_cons_plain,
      noHalves_newLine, first _, ih others, List.forall_mem_append, true_and]

theorem noHalves_writtenFields_iff {fields : List (String × Report)}
    (each : ∀ field ∈ fields, WrittenAsTexts coding field.2) :
    NoHalves coding (writtenFields depth fields) ↔
      ∀ s ∈ stringsInFields fields, NoHalves coding s.toList := by
  induction fields with
  | nil => exact iff_of_true noHalves_nil (List.forall_mem_nil _)
  | cons field rest ih =>
    obtain ⟨name, item⟩ := field
    obtain ⟨first, others⟩ := List.forall_mem_cons.mp each
    simp (disch := decide) only [writtenFields, stringsInFields, noHalves_append,
      noHalves_cons_plain,
      noHalves_newLine, noHalves_writtenString_iff, first _, ih others, List.forall_mem_append,
      List.forall_mem_cons, true_and, and_assoc]

end

/-- A report without texts, whose own text is plain. -/
theorem writtenAsTexts_of_isPlain {r : Report} {s : List Char} (no_texts : r.strings = [])
    (written : ∀ depth, r.written depth = s) (plain : isPlain s = true) :
    WrittenAsTexts coding r := by
  intro depth
  rw [written, no_texts]
  exact iff_of_true (noHalves_of_isPlain coding plain) (List.forall_mem_nil _)

/-- **A report has bytes exactly when the texts in it have.** -/
theorem Report.noHalves_written_iff (r : Report) : WrittenAsTexts coding r := by
  -- A report inside another one is written deeper, so the depth is general.
  induction r using Report.induct with
  | null => exact writtenAsTexts_of_isPlain (s := "null".toList) rfl (fun _ => rfl) (by decide)
  | bool b =>
    cases b with
    | false => exact writtenAsTexts_of_isPlain (s := "false".toList) rfl (fun _ => rfl) (by decide)
    | true => exact writtenAsTexts_of_isPlain (s := "true".toList) rfl (fun _ => rfl) (by decide)
  | text s =>
    intro depth
    rw [Report.written, noHalves_writtenString_iff, Report.strings, List.forall_mem_singleton]
  | list items each =>
    cases items with
    | nil => exact writtenAsTexts_of_isPlain (s := ['[', ']']) rfl (fun _ => rfl) (by decide)
    | cons item rest =>
      intro depth
      obtain ⟨first, others⟩ := List.forall_mem_cons.mp each
      simp (disch := decide) only [Report.written, Report.strings, stringsIn, noHalves_append,
        noHalves_cons_plain, noHalves_newLine, noHalves_nil, first _,
        noHalves_writtenRest_iff others,
        List.forall_mem_append, true_and, and_true]
  | record fields each =>
    cases fields with
    | nil =>
      exact writtenAsTexts_of_isPlain (s := [Char.ofNat 0x7B, Char.ofNat 0x7D]) rfl (fun _ => rfl)
        (by decide)
    | cons field rest =>
      intro depth
      obtain ⟨name, item⟩ := field
      obtain ⟨first, others⟩ := List.forall_mem_cons.mp each
      simp (disch := decide) only [Report.written, Report.strings, stringsInFields, noHalves_append,
        noHalves_cons_plain, noHalves_newLine, noHalves_nil, noHalves_writtenString_iff, first _,
        noHalves_writtenFields_iff others, List.forall_mem_append, List.forall_mem_cons, true_and,
        and_true, and_assoc]

end TradeJournal.Json
