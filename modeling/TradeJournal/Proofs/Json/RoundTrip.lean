import Mathlib.Tactic.SplitIfs
import TradeJournal.Json.Reader
import TradeJournal.Json.Writer
import TradeJournal.Proofs.Except

/-!
# Reports as they are read back

What a report says is a value: its lists are lists, its records mappings with names as keys. Reading
the text of a report gives this value back (`Json.parse_written`), whatever characters are in its
texts. A text that is written ends where its quotes do, a list or record where its bracket does, so
each of them is read back in front of anything that follows; and the text of a report is longer than
the reading is deep, so the fuel is enough.
-/

namespace TradeJournal.Json

open Text (charOfCode joinUnits isHalf)

/-! ### Reports as values -/

mutual

/-- **What a report says.** -/
def Report.value : Report → Value
  | .null => .null
  | .bool b => .bool b
  | .text s => .text s
  | .list items => .list (valuesOf items)
  | .record fields => .mapping (Value.ofEntries (entriesOf fields))

/-- What the elements of a list say. -/
def valuesOf : List Report → List Value
  | [] => []
  | item :: rest => item.value :: valuesOf rest

/-- What the fields of a record say, under their names. -/
def entriesOf : List (String × Report) → List (Value × Value)
  | [] => []
  | (name, item) :: rest => (.text name, item.value) :: entriesOf rest

end

/-- **What holds of a report as soon as it holds of all reports inside holds of every one.** -/
theorem Report.induct {P : Report → Prop} (null : P .null) (bool : ∀ b, P (.bool b))
    (text : ∀ s, P (.text s)) (list : ∀ items, (∀ item ∈ items, P item) → P (.list items))
    (record : ∀ fields, (∀ field ∈ fields, P field.2) → P (.record fields)) (r : Report) : P r :=
  @Report.rec P (fun items => ∀ item ∈ items, P item) (fun fields => ∀ field ∈ fields, P field.2)
    (fun field => P field.2) null bool text list record (by simp)
    (fun _ _ first rest => List.forall_mem_cons.mpr ⟨first, rest⟩) (by simp)
    (fun _ _ first rest => List.forall_mem_cons.mpr ⟨first, rest⟩) (fun _ _ inside => inside) r

/-! ### Texts -/

/-- Characters are no halves, so the codes of a text are joined to the text again. -/
theorem joinUnits_map_toNat (s : List Char) : joinUnits (s.map Char.toNat) = s := by
  have valid (c : Char) : c.toNat < 0xD800 ∨ 0xDFFF < c.toNat := c.valid.imp id And.left
  have code (c : Char) : charOfCode c.toNat = c := by
    have whole : isHalf c.toNat = false := by
      have := valid c
      rw [isHalf]
      simp
      omega
    rw [charOfCode, whole]
    exact Char.ofNat_toNat c
  induction s with
  | nil => rfl
  | cons c rest ih =>
    cases rest with
    | nil => exact congrArg (· :: []) (code c)
    | cons d rest =>
      have := valid c
      rw [List.map_cons, List.map_cons, joinUnits, if_neg (by omega), code]
      exact congrArg (c :: ·) ih

/-- A control character is one of those that four digits name. -/
theorem hexFour?_of_control {n : Nat} (control : n < 32) :
    ∃ a b c d, Text.hexDigits 4 n = [a, b, c, d] ∧ hexFour? a b c d = some n := by
  have each : ∀ n < 32,
      hexFour? (Text.hexDigit (n / 16 / 16 / 16 % 16)) (Text.hexDigit (n / 16 / 16 % 16))
      (Text.hexDigit (n / 16 % 16)) (Text.hexDigit (n % 16)) = some n := by decide +kernel
  exact ⟨_, _, _, _, rfl, each n control⟩

section

variable {opening : Nat} {s rest : List Char} {units : List Nat}
  (read : stringUnits opening s = .ok (units, rest))
include read

/-- A character that is not escaped stands for itself. -/
theorem stringUnits_plain {c : Char} (no_quote : c ≠ '"') (no_backslash : c ≠ '\\')
    (printed : 32 ≤ c.toNat) : stringUnits opening (c :: s) = .ok (c.toNat :: units, rest) := by
  rw [stringUnits, if_neg (Nat.not_lt.mpr printed), read]
  · rfl
  · exact no_quote
  all_goals simp [no_backslash]

/-- A letter after a backslash stands for another character. -/
theorem stringUnits_escaped {letter c : Char} (stands : escaped? letter = some c) :
    stringUnits opening ('\\' :: letter :: s) = .ok (c.toNat :: units, rest) := by
  have no_number : letter ≠ 'u' := by
    rintro rfl
    cases stands
  rw [stringUnits, stands]
  · dsimp only
    rw [read]
    rfl
  all_goals simp [no_number]

/-- Four digits after a backslash stand for the unit that they name. -/
theorem stringUnits_numbered {a b c d : Char} {unit : Nat} (stands : hexFour? a b c d = some unit)
    (more : s ≠ []) :
    stringUnits opening ('\\' :: 'u' :: a :: b :: c :: d :: s) = .ok (unit :: units, rest) := by
  obtain ⟨e, after, rfl⟩ := List.exists_cons_of_ne_nil more
  rw [stringUnits, stands]
  dsimp only
  rw [read]
  rfl

/-- **Every character is read back.** -/
theorem stringUnits_writtenChar (more : s ≠ []) (c : Char) :
    stringUnits opening (writtenChar c ++ s) = .ok (c.toNat :: units, rest) := by
  rw [writtenChar]
  split_ifs with quote backslash line_end carriage tab back feed control
  · exact stringUnits_escaped read (by rw [quote]; rfl)
  · exact stringUnits_escaped read (by rw [backslash]; rfl)
  · exact stringUnits_escaped read (by rw [line_end]; rfl)
  · exact stringUnits_escaped read (by rw [carriage]; rfl)
  · exact stringUnits_escaped read (by rw [tab]; rfl)
  · exact stringUnits_escaped read (by rw [← Char.ofNat_toNat c, back]; rfl)
  · exact stringUnits_escaped read (by rw [← Char.ofNat_toNat c, feed]; rfl)
  · obtain ⟨a, b, c', d, digits, named⟩ := hexFour?_of_control control
    rw [digits]
    exact stringUnits_numbered read named more
  · exact stringUnits_plain read quote backslash (Nat.not_lt.mp control)

end

/-- **Every text is read back.** -/
theorem stringBody_written (s : String) (tail : List Char) :
    stringBody (s.toList.flatMap writtenChar ++ '"' :: tail) = .ok (s, tail) := by
  -- Character by character: each is read in front of what has been read already.
  have units (opening : Nat) (cs : List Char) :
      stringUnits opening (cs.flatMap writtenChar ++ '"' :: tail) =
      .ok (cs.map Char.toNat, tail) := by
    induction cs with
    | nil => rfl
    | cons c rest ih =>
      rw [List.flatMap_cons, List.append_assoc]
      exact stringUnits_writtenChar ih (by simp) c
  rw [stringBody, units]
  change Except.ok (String.ofList (joinUnits _), tail) = _
  rw [joinUnits_map_toNat, String.ofList_toList]

theorem writtenString_append (s : String) (tail : List Char) :
    writtenString s ++ tail = '"' :: (s.toList.flatMap writtenChar ++ '"' :: tail) := by
  rw [writtenString, List.cons_append, List.cons_append, List.append_assoc]
  rfl

/-! ### Blanks -/

/-- A text is not cut where it does not begin with a blank. -/
theorem skipBlanks_cons {c : Char} (solid : ¬(c = ' ' ∨ c = '\t' ∨ c = '\n' ∨ c = '\r'))
    (s : List Char) :
    skipBlanks (c :: s) = c :: s := by
  rw [skipBlanks, List.dropWhile_cons_of_neg (by simpa using solid)]

theorem skipBlanks_blank (s : List Char) : skipBlanks (' ' :: s) = skipBlanks s := rfl

/-- A new line is made of blanks. -/
theorem skipBlanks_newLine (depth : Nat) (s : List Char) :
    skipBlanks (newLine depth ++ s) = skipBlanks s := by
  have blanks (n : Nat) : skipBlanks (List.replicate n ' ' ++ s) = skipBlanks s := by
    induction n with
    | zero => rfl
    | succ n ih => exact ih
  exact blanks (2 * depth)

/-- A report begins with a quote, a bracket or a letter. -/
theorem exists_written_eq_cons (r : Report) (depth : Nat) : ∃ c rest, r.written depth = c :: rest ∧
    c ∈ ['n', 't', 'f', '"', '[', Char.ofNat 0x7B] := by
  cases r with
  | null => exact ⟨'n', _, rfl, by decide⟩
  | bool b =>
    cases b
    · exact ⟨'f', _, rfl, by decide⟩
    · exact ⟨'t', _, rfl, by decide⟩
  | text s => exact ⟨'"', _, rfl, by decide⟩
  | list items => cases items <;> exact ⟨'[', _, rfl, by decide⟩
  | record fields =>
    rcases fields with _ | ⟨⟨name, item⟩, rest⟩ <;> exact ⟨Char.ofNat 0x7B, _, rfl, by decide⟩

theorem skipBlanks_written (r : Report) (depth : Nat) (tail : List Char) :
    skipBlanks (r.written depth ++ tail) = r.written depth ++ tail := by
  obtain ⟨c, rest, begins, listed⟩ := exists_written_eq_cons r depth
  have solid : ∀ c ∈ ['n', 't', 'f', '"', '[', Char.ofNat 0x7B],
      ¬(c = ' ' ∨ c = '\t' ∨ c = '\n' ∨ c = '\r') := by
    simp only [List.forall_mem_cons, List.not_mem_nil, false_implies, implies_true, and_true]
    decide
  rw [begins, List.cons_append, skipBlanks_cons (solid c listed)]

/-! ### Steps of the reader -/

section

variable {fuel : Nat} {body rest after next : List Char}

theorem value_text {text : String} (read : stringBody body = .ok (text, rest)) :
    value (fuel + 1) ('"' :: body) = .ok (.text text, rest) := by
  change stringBody body >>= _ = _
  rw [read]
  rfl

theorem value_list {items : List Value} (some_item : skipBlanks body = next)
    (not_closed : next.head? ≠ some ']')
    (read : elements fuel next = .ok (items, rest)) :
    value (fuel + 1) ('[' :: body) = .ok (.list items, rest) := by
  rw [value, if_neg (by decide), if_pos rfl, some_item]
  · split
    · exact absurd rfl not_closed
    · rw [read]
      rfl
  · decide

theorem value_mapping {entries : List (Value × Value)} (some_name : skipBlanks body = next)
    (begins : next.head? = some '"') (read : members fuel [] next = .ok (entries, rest)) :
    value (fuel + 1) (Char.ofNat 0x7B :: body) = .ok (.mapping entries, rest) := by
  obtain ⟨after, rfl⟩ := List.head?_eq_some_iff.mp begins
  rw [value, if_pos (by decide), some_name]
  · dsimp only
    rw [if_neg (by decide), read]
    rfl
  · decide

variable {item : Value}

theorem elements_last (read : value fuel body = .ok (item, after))
    (closed : skipBlanks after = ']' :: rest) :
    elements (fuel + 1) body = .ok ([item], rest) := by
  change value fuel body >>= _ = _
  rw [read]
  simp only [bind, Except.bind, closed]

theorem elements_more {items : List Value} (read : value fuel body = .ok (item, after))
    (goes_on : skipBlanks after = ',' :: next)
    (others : elements fuel (skipBlanks next) = .ok (items, rest)) :
    elements (fuel + 1) body = .ok (item :: items, rest) := by
  change value fuel body >>= _ = _
  rw [read]
  simp only [bind, Except.bind, goes_on, others]

variable {made : List (Value × Value)} {name : String} {colon : List Char}
  (named : stringBody body = .ok (name, after)) (has_colon : skipBlanks after = ':' :: colon)
  {left : List Char} (read : value fuel (skipBlanks colon) = .ok (item, left))
include named has_colon read

theorem members_last (closed : skipBlanks left = Char.ofNat 0x7D :: rest) :
    members (fuel + 1) made ('"' :: body) = .ok (Value.insert made (.text name) item, rest) := by
  change stringBody body >>= _ = _
  rw [named]
  simp only [bind, Except.bind, has_colon, read, closed]
  rfl

theorem members_more {entries : List (Value × Value)} (goes_on : skipBlanks left = ',' :: next)
    (others : members fuel (Value.insert made (.text name) item) (skipBlanks next) =
      .ok (entries, rest)) :
    members (fuel + 1) made ('"' :: body) = .ok (entries, rest) := by
  change stringBody body >>= _ = _
  rw [named]
  simp only [bind, Except.bind, has_colon, read, goes_on, others]
  rfl

end

/-! ### Reports -/

/-- Whether a report is read back in front of whatever follows, with fuel for each of its
characters. -/
def Report.ReadsBack (r : Report) : Prop :=
  ∀ {depth fuel : Nat} (tail : List Char), (r.written depth).length ≤ fuel →
    Json.value fuel (r.written depth ++ tail) = .ok (r.value, tail)

/-- **The elements of a list are read back** up to the bracket. -/
theorem elements_written {item : Report} {rest : List Report} (first : item.ReadsBack)
    (others : ∀ r ∈ rest, r.ReadsBack) {depth fuel : Nat} (tail : List Char)
    (enough : (item.written (depth + 1)).length + (writtenRest depth rest).length < fuel) :
    elements fuel (item.written (depth + 1) ++
      (writtenRest depth rest ++ (newLine depth ++ ']' :: tail))) =
      .ok (item.value :: valuesOf rest, tail) := by
  obtain ⟨fuel, rfl⟩ := Nat.exists_eq_succ_of_ne_zero (Nat.ne_zero_of_lt enough)
  -- The first element is read in front of all the others, which are shorter than the fuel that is
  -- left.
  have read := first (writtenRest depth rest ++ (newLine depth ++ ']' :: tail))
    (show (item.written (depth + 1)).length ≤ fuel by omega)
  induction rest generalizing item fuel with
  | nil =>
    refine elements_last read ?_
    rw [writtenRest, List.nil_append, skipBlanks_newLine, skipBlanks_cons (by decide)]
  | cons next rest ih =>
    obtain ⟨second, others⟩ := List.forall_mem_cons.mp others
    simp only [writtenRest, List.length_append, List.length_cons] at enough
    obtain ⟨fuel, rfl⟩ := Nat.exists_eq_succ_of_ne_zero (show fuel ≠ 0 by omega)
    simp only [writtenRest, List.append_assoc, List.cons_append] at read ⊢
    refine elements_more read (skipBlanks_cons (by decide) _) ?_
    rw [skipBlanks_newLine, skipBlanks_written]
    exact ih second others fuel (by omega) (second _ (by omega))

/-- **The fields of a record are read back** up to the bracket, one after the other. -/
theorem members_written {name : String} {item : Report} {rest : List (String × Report)}
    (first : item.ReadsBack) (others : ∀ field ∈ rest, field.2.ReadsBack) {depth fuel : Nat}
    (made : List (Value × Value)) (tail : List Char)
    (enough : (item.written (depth + 1)).length + (writtenFields depth rest).length < fuel) :
    members fuel made (writtenString name ++ ':' :: ' ' :: (item.written (depth + 1) ++
        (writtenFields depth rest ++ (newLine depth ++ Char.ofNat 0x7D :: tail)))) =
      .ok ((entriesOf ((name, item) :: rest)).foldl
        (fun made entry => Value.insert made entry.1 entry.2) made, tail) := by
  obtain ⟨fuel, rfl⟩ := Nat.exists_eq_succ_of_ne_zero (Nat.ne_zero_of_lt enough)
  have read := first (writtenFields depth rest ++ (newLine depth ++ Char.ofNat 0x7D :: tail))
    (show (item.written (depth + 1)).length ≤ fuel by omega)
  rw [← skipBlanks_written, ← skipBlanks_blank] at read
  induction rest generalizing name item fuel made with
  | nil =>
    rw [writtenString_append]
    refine members_last (stringBody_written name _) (skipBlanks_cons (by decide) _) read ?_
    rw [writtenFields, List.nil_append, skipBlanks_newLine, skipBlanks_cons (by decide)]
  | cons field rest ih =>
    obtain ⟨name', next⟩ := field
    obtain ⟨second, others⟩ := List.forall_mem_cons.mp others
    change next.ReadsBack at second
    simp only [writtenFields, List.length_append, List.length_cons] at enough
    obtain ⟨fuel, rfl⟩ := Nat.exists_eq_succ_of_ne_zero (show fuel ≠ 0 by omega)
    simp only [writtenFields, List.append_assoc, List.cons_append] at read ⊢
    rw [writtenString_append]
    refine members_more (stringBody_written name _) (skipBlanks_cons (by decide) _) read
      (skipBlanks_cons (by decide) _) ?_
    have next_name (tail : List Char) :
        skipBlanks (newLine (depth + 1) ++ (writtenString name' ++ tail)) =
        writtenString name' ++ tail := by
      rw [skipBlanks_newLine, writtenString_append, skipBlanks_cons (by decide)]
    rw [next_name]
    refine ih second others _ fuel (by omega) ?_
    rw [skipBlanks_blank, skipBlanks_written]
    exact second _ (by omega)

/-- A report has some text, so reading it takes some fuel. -/
theorem Report.exists_fuel {r : Report} {depth fuel : Nat}
    (enough : (r.written depth).length ≤ fuel) :
    ∃ n, fuel = n + 1 := by
  obtain ⟨c, rest, begins, -⟩ := exists_written_eq_cons r depth
  rw [begins, List.length_cons] at enough
  exact Nat.exists_eq_succ_of_ne_zero (by omega)

/-- **Every report is read back.** -/
theorem readsBack (r : Report) : r.ReadsBack := by
  induction r using Report.induct with
  | null =>
    intro depth fuel tail enough
    obtain ⟨fuel, rfl⟩ := Report.exists_fuel enough
    rfl
  | bool b =>
    intro depth fuel tail enough
    obtain ⟨fuel, rfl⟩ := Report.exists_fuel enough
    cases b <;> rfl
  | text s =>
    intro depth fuel tail enough
    obtain ⟨fuel, rfl⟩ := Report.exists_fuel enough
    rw [Report.written, writtenString_append]
    exact value_text (stringBody_written s tail)
  | list items each =>
    intro depth fuel tail enough
    obtain ⟨fuel, rfl⟩ := Report.exists_fuel enough
    cases items with
    | nil => rfl
    | cons item rest =>
      obtain ⟨first, others⟩ := List.forall_mem_cons.mp each
      simp only [Report.written, List.length_append, List.length_cons] at enough
      simp only [Report.written, List.append_assoc, List.cons_append, List.nil_append]
      refine value_list ((skipBlanks_newLine _ _).trans (skipBlanks_written item _ _)) ?_
        (elements_written first others tail (by omega))
      obtain ⟨c, after, begins, listed⟩ := exists_written_eq_cons item (depth + 1)
      rw [begins, List.cons_append, List.head?_cons]
      intro closed
      obtain rfl := Option.some.inj closed
      exact absurd listed (by decide)
  | record fields each =>
    intro depth fuel tail enough
    obtain ⟨fuel, rfl⟩ := Report.exists_fuel enough
    cases fields with
    | nil => rfl
    | cons field rest =>
      obtain ⟨name, item⟩ := field
      obtain ⟨first, others⟩ := List.forall_mem_cons.mp each
      simp only [Report.written, List.length_append, List.length_cons] at enough
      simp only [Report.written, List.append_assoc, List.cons_append, List.nil_append]
      refine value_mapping ?_ ?_
        (@members_written name item rest first others depth fuel [] tail (by omega))
      · rw [skipBlanks_newLine, writtenString_append, skipBlanks_cons (by decide)]
      · rw [writtenString_append, List.head?_cons]

/-- **Reading the text of a report gives back what it says.** -/
theorem parse_written (r : Report) : parse (r.written 0) = .ok r.value := by
  have whole : value (2 * (r.written 0).length + 2) (r.written 0 ++ []) = .ok (r.value, []) :=
    readsBack r [] (by omega)
  have from_start := skipBlanks_written r 0 []
  rw [List.append_nil] at whole from_start
  obtain ⟨c, rest, begins, listed⟩ := exists_written_eq_cons r 0
  have no_mark : (r.written 0).head? ≠ some (Char.ofNat 0xFEFF) := by
    rw [begins, List.head?_cons]
    intro marked
    obtain rfl := Option.some.inj marked
    exact absurd listed (by decide)
  rw [parse, if_neg no_mark, from_start, whole]
  rfl

end TradeJournal.Json
