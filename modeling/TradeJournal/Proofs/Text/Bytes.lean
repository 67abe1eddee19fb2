import TradeJournal.Host
import TradeJournal.Text.Utf8

/-!
# The bytes of a text

Every text has bytes, unless a half of a pair is in it. The bytes of a character begin with one that
says how many are to follow, and each of those carries six more bits; so what has bytes is decoded
to itself (`decodeUtf8_toUTF8`), and a file that a text was written to holds that text.
-/

namespace TradeJournal

namespace Text

/-! ### Texts without halves -/

section

variable (coding : HalfCoding)

/-- **Whether there is no half in a text**: no character of it stands in for one. -/
def NoHalves (s : List Char) : Prop := ∀ c ∈ s, coding.half? c = none

instance (s : List Char) : Decidable (NoHalves coding s) :=
  List.decidableBAll (coding.half? · = none) s

/-- Whether a text is of the plain alphabet. -/
def isPlain (s : List Char) : Bool := s.all (·.toNat < 128)

theorem isPlain_iff {s : List Char} : isPlain s = true ↔ ∀ c ∈ s, c.toNat < 128 := by
  simp [isPlain]

/-- A text of the plain alphabet has no half. -/
theorem noHalves_of_isPlain {s : List Char} (plain : isPlain s = true) : NoHalves coding s :=
  fun c member => coding.plain c (isPlain_iff.mp plain c member)

/-- Where no character stands in for a half there are none. -/
theorem noHalves_whole (s : List Char) : NoHalves .whole s := fun _ _ => rfl

variable {coding}

theorem noHalves_append {s t : List Char} :
    NoHalves coding (s ++ t) ↔ NoHalves coding s ∧ NoHalves coding t :=
  List.forall_mem_append

theorem noHalves_cons {c : Char} {s : List Char} :
    NoHalves coding (c :: s) ↔ coding.half? c = none ∧ NoHalves coding s :=
  List.forall_mem_cons

end

/-! ### Decoding -/

theorem toNat_ofNat {n : Nat} (small : n < 256) : (UInt8.ofNat n).toNat = n := by
  simp
  omega

section

variable {offset : Nat} {b : UInt8} {rest : List UInt8}

/-- No character is under way. -/
theorem utf8Decode_none : utf8Decode offset none (b :: rest) =
    match utf8Lead b with
    | none => .error ⟨.start, offset, [b]⟩
    | some (0, code, _, _) => (Char.ofNat code :: ·) <$> utf8Decode (offset + 1) none rest
    | some (owed + 1, code, low, high) =>
      utf8Decode (offset + 1) (some ⟨owed + 1, code, low, high, offset, [b]⟩) rest := rfl

/-- A character is under way. -/
theorem utf8Decode_some {p : Utf8Pending} : utf8Decode offset (some p) (b :: rest) =
    if b.toNat < p.low ∨ p.high < b.toNat then .error ⟨.continuation, p.offset, p.bytes.reverse⟩
    else if p.owed ≤ 1 then
      (Char.ofNat (p.code * 64 + (b.toNat - 0x80)) :: ·) <$> utf8Decode (offset + 1) none rest
    else utf8Decode (offset + 1)
      (some ⟨p.owed - 1, p.code * 64 + (b.toNat - 0x80), 0x80, 0xBF, p.offset,
        b :: p.bytes⟩) rest := rfl

/-- **The byte that begins a character.** -/
theorem utf8Decode_first {owed code low high : Nat}
    (leads : utf8Lead b = some (owed + 1, code, low, high)) :
    utf8Decode offset none (b :: rest) =
      utf8Decode (offset + 1) (some ⟨owed + 1, code, low, high, offset, [b]⟩) rest := by
  rw [utf8Decode_none, leads]

/-- A byte that stands for itself. -/
theorem utf8Decode_plain {n : Nat} (small : n < 0x80) :
    utf8Decode offset none (UInt8.ofNat n :: rest) =
    (Char.ofNat n :: ·) <$> utf8Decode (offset + 1) none rest := by
  rw [utf8Decode_none, utf8Lead, toNat_ofNat (by omega), if_pos small]

variable {code low high start : Nat} {bytes : List UInt8} {n : Nat} (least : low ≤ n + 0x80)
  (most : n + 0x80 ≤ high) (six_bits : n < 64)
include least most six_bits

/-- **A byte that continues a character**, with more to follow. -/
theorem utf8Decode_middle (owed : Nat) :
    utf8Decode offset (some ⟨owed + 2, code, low, high, start, bytes⟩)
      (UInt8.ofNat (n + 0x80) :: rest) =
      utf8Decode (offset + 1)
        (some ⟨owed + 1, code * 64 + n, 0x80, 0xBF, start,
          UInt8.ofNat (n + 0x80) :: bytes⟩) rest := by
  rw [utf8Decode_some, toNat_ofNat (by omega)]
  simp only
  rw [if_neg (by omega), if_neg (by omega), Nat.add_sub_cancel]
  rfl

/-- **The byte that ends a character.** -/
theorem utf8Decode_last :
    utf8Decode offset (some ⟨1, code, low, high, start, bytes⟩) (UInt8.ofNat (n + 0x80) :: rest) =
      (Char.ofNat (code * 64 + n) :: ·) <$> utf8Decode (offset + 1) none rest := by
  rw [utf8Decode_some, toNat_ofNat (by omega)]
  simp only
  rw [if_neg (by omega), if_pos (by decide), Nat.add_sub_cancel]

end

theorem utf8Lead_two {n : Nat} (low : 2 ≤ n) (high : n < 32) :
    utf8Lead (UInt8.ofNat (n + 0xC0)) = some (1, n, 0x80, 0xBF) := by
  rw [utf8Lead, toNat_ofNat (by omega), if_neg (by omega), if_neg (by omega), if_pos (by omega),
    Nat.add_sub_cancel]

/-- Of three bytes the second one is bounded where the character would be short or a half. -/
theorem utf8Lead_three {n : Nat} (high : n < 16) : utf8Lead (UInt8.ofNat (n + 0xE0)) =
    some (2, n, if n = 0 then 0xA0 else 0x80, if n = 13 then 0x9F else 0xBF) := by
  have each : ∀ n < 16, utf8Lead (UInt8.ofNat (n + 0xE0)) =
    some (2, n, if n = 0 then 0xA0 else 0x80, if n = 13 then 0x9F else 0xBF) := by decide +kernel
  exact each n high

/-- Of four bytes it is bounded where the character would be short or beyond the last one. -/
theorem utf8Lead_four {n : Nat} (high : n < 5) : utf8Lead (UInt8.ofNat (n + 0xF0)) =
    some (3, n, if n = 0 then 0x90 else 0x80, if n = 4 then 0x8F else 0xBF) := by
  have each : ∀ n < 5, utf8Lead (UInt8.ofNat (n + 0xF0)) =
    some (3, n, if n = 0 then 0x90 else 0x80, if n = 4 then 0x8F else 0xBF) := by decide +kernel
  exact each n high

/-- **The bytes of a character are decoded to it.** -/
theorem utf8Decode_char (c : Char) (offset : Nat) (rest : List UInt8) :
    ∃ next, utf8Decode offset none (String.utf8EncodeChar c ++ rest) =
      (c :: ·) <$> utf8Decode next none rest := by
  have valid : c.toNat < 0xD800 ∨ 0xDFFF < c.toNat ∧ c.toNat < 0x110000 := c.valid
  have again : Char.ofNat c.toNat = c := Char.ofNat_toNat c
  have bytes : String.utf8EncodeChar c =
      if c.toNat ≤ 127 then [UInt8.ofNat c.toNat]
      else if c.toNat ≤ 2047 then
        [UInt8.ofNat (c.toNat / 64 % 32 + 192), UInt8.ofNat (c.toNat % 64 + 128)]
      else if c.toNat ≤ 65535 then
        [UInt8.ofNat (c.toNat / 4096 % 16 + 224), UInt8.ofNat (c.toNat / 64 % 64 + 128),
          UInt8.ofNat (c.toNat % 64 + 128)]
      else
        [UInt8.ofNat (c.toNat / 262144 % 8 + 240), UInt8.ofNat (c.toNat / 4096 % 64 + 128),
          UInt8.ofNat (c.toNat / 64 % 64 + 128), UInt8.ofNat (c.toNat % 64 + 128)] := rfl
  -- As many bytes as the code needs; the bounds of the second one hold because the code is that of
  -- a character.
  rw [bytes]
  generalize c.toNat = v at *
  split
  · next plain =>
    refine ⟨offset + 1, ?_⟩
    rw [List.cons_append, List.nil_append, utf8Decode_plain (by omega), again]
  split
  · next short two =>
    refine ⟨offset + 1 + 1, ?_⟩
    simp only [List.cons_append, List.nil_append]
    rw [utf8Decode_first (utf8Lead_two (by omega) (by omega)),
      utf8Decode_last (by omega) (by omega) (by omega)]
    have whole : v / 64 % 32 * 64 + v % 64 = v := by omega
    rw [whole, again]
  split
  · next short two three =>
    refine ⟨offset + 1 + 1 + 1, ?_⟩
    simp only [List.cons_append, List.nil_append]
    rw [utf8Decode_first (utf8Lead_three (by omega)),
      utf8Decode_middle (by split <;> omega) (by split <;> omega) (by omega),
      utf8Decode_last (by omega) (by omega) (by omega)]
    have whole : (v / 4096 % 16 * 64 + v / 64 % 64) * 64 + v % 64 = v := by omega
    rw [whole, again]
  · next short two three =>
    refine ⟨offset + 1 + 1 + 1 + 1, ?_⟩
    simp only [List.cons_append, List.nil_append]
    rw [utf8Decode_first (utf8Lead_four (by omega)),
      utf8Decode_middle (by split <;> omega) (by split <;> omega) (by omega),
      utf8Decode_middle (by omega) (by omega) (by omega),
      utf8Decode_last (by omega) (by omega) (by omega)]
    have whole : ((v / 262144 % 8 * 64 + v / 4096 % 64) * 64 + v / 64 % 64) * 64 + v % 64 =
        v := by omega
    rw [whole, again]

/-- The bytes of an array, from an index on. -/
theorem toList_loop_eq (bytes : ByteArray) (i : Nat) (before : List UInt8) :
    ByteArray.toList.loop bytes i before = before.reverse ++ bytes.data.toList.drop i := by
  fun_induction ByteArray.toList.loop bytes i before with
  | case1 i before less ih =>
    have inside : i < bytes.data.toList.length := by
      rw [Array.length_toList]
      exact less
    have byte : bytes.get! i = bytes.data.toList[i] := by
      rw [Array.getElem_toList]
      exact getElem!_pos bytes.data i less
    rw [ih, List.drop_eq_getElem_cons inside, byte]
    simp
  | case2 i before past =>
    have beyond : bytes.data.toList.length ≤ i := by
      rw [Array.length_toList]
      exact Nat.not_lt.mp past
    rw [List.drop_eq_nil_of_le beyond, List.append_nil]

/-- **The bytes of a text are those of its characters.** -/
theorem toList_toUTF8 (s : String) : s.toUTF8.toList = s.toList.flatMap String.utf8EncodeChar := by
  rw [ByteArray.toList, toList_loop_eq, String.toUTF8_eq_toByteArray, ← String.utf8Encode_toList,
    List.utf8Encode,
    List.toList_data_toByteArray]
  rfl

theorem toList_toUTF8_empty : "".toUTF8.toList = [] := by
  rw [toList_toUTF8, String.toList_empty, List.flatMap_nil]

theorem toList_toUTF8_append (s t : String) : (s ++ t).toUTF8.toList =
    s.toUTF8.toList ++ t.toUTF8.toList := by
  rw [toList_toUTF8, toList_toUTF8, toList_toUTF8, String.toList_append, List.flatMap_append]

/-- **The bytes of a text are decoded to it.** -/
theorem decodeUtf8_toUTF8 (s : String) : decodeUtf8 s.toUTF8.toList = .ok s.toList := by
  have each (cs : List Char) (offset : Nat) :
      utf8Decode offset none (cs.flatMap String.utf8EncodeChar) = .ok cs := by
    induction cs generalizing offset with
    | nil => rfl
    | cons c rest ih =>
      obtain ⟨next, decoded⟩ := utf8Decode_char c offset (rest.flatMap String.utf8EncodeChar)
      rw [List.flatMap_cons, decoded, ih]
      rfl
  rw [decodeUtf8, toList_toUTF8, each]

end Text

variable {coding : Text.HalfCoding}

/-- **A text without halves has its bytes.** -/
theorem encoded_of_noHalves {s : String} (whole : Text.NoHalves coding s.toList) :
    encoded coding s = .ok s.toUTF8.toList := by
  rw [encoded, Text.encodeUtf8, (Text.halves?_eq_none_iff coding s.toList).mpr whole]
  rfl

/-- A text with a half in it has no bytes. -/
theorem exists_encoded_eq_error {s : String} (half : ¬Text.NoHalves coding s.toList) :
    ∃ fault, encoded coding s = .error fault := by
  cases found : Text.halves? coding s.toList with
  | none => exact absurd ((Text.halves?_eq_none_iff coding s.toList).mp found) half
  | some h => exact ⟨.notEncodable h, by rw [encoded, Text.encodeUtf8, found]; rfl⟩

end TradeJournal
