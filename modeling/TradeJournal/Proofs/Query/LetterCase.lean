import TradeJournal.Proofs.Query.Scanning
import TradeJournal.Proofs.Text.LetterCase

/-!
# Letter case in queries

Operator words are compared in upper case and tags are kept in lower case, so a query whose letters
are typed in the other case has the same tokens. This is shown for one word first, and then along
the text: no letter is a delimiter, so the words stand in the same places whatever the case of their
letters.
-/

namespace TradeJournal

open Text (SameLetters folded)

namespace Tag

theorem body_folded (raw : List Char) : body (folded raw) = body raw := by
  rw [body, Text.trim_folded, Text.lower_folded, ← body]

/-- **The canonical spelling of a tag does not depend on the case of its letters.** -/
theorem normalize_eq_of_sameLetters {raw raw' : String}
    (same : SameLetters raw.toList raw'.toList) :
    normalize raw = normalize raw' := congrArg ofBody (same.congr body_folded)

end Tag

namespace Query

namespace Token

theorem operator?_folded (word : List Char) : operator? (folded word) = operator? word := by
  rw [operator?, Text.upper_folded, ← operator?]

/-- **The token of a word does not depend on the case of its letters.** -/
theorem ofWord?_folded (word : List Char) : ofWord? (folded word) = ofWord? word := by
  rw [ofWord?, operator?_folded, Tag.body_folded, ← ofWord?]

end Token

theorem delimits_toLower_iff {c : Char} : Delimits c.toLower ↔ Delimits c := by
  rw [Delimits, Text.toLower_eq_iff (by decide), Text.toLower_eq_iff (by decide),
    Text.isBlank_toLower,
    ← Delimits]

namespace Token

/-- No letter is a delimiter, so the token of a delimiter is the same as well. -/
theorem ofDelimiter_toLower (c : Char) : ofDelimiter c.toLower = ofDelimiter c := by
  simp only [ofDelimiter, Text.toLower_eq_iff (d := '(') (by decide),
    Text.toLower_eq_iff (d := ')') (by decide)]

theorem scanFrom_folded (word text : List Char) :
    scanFrom (folded word) (folded text) = scanFrom word text := by
  have whole_word (word : List Char) : ofWord? (folded word).reverse = ofWord? word.reverse := by
    rw [folded, ← List.map_reverse, ← folded, ofWord?_folded]
  -- The word read so far is folded with the text, since characters go over from the one to the
  -- other.
  induction text generalizing word with
  | nil => exact congrArg Option.toList (whole_word word)
  | cons c rest ih =>
    rw [Text.folded_cons]
    by_cases delimits : Delimits c
    · rw [scanFrom_of_delimits delimits, scanFrom_of_delimits (delimits_toLower_iff.mpr delimits),
        whole_word, ofDelimiter_toLower, scan, scan]
      exact congrArg (fun tokens => _ ++ (_ ++ tokens)) (ih [])
    · rw [scanFrom_of_not_delimits delimits,
        scanFrom_of_not_delimits (mt delimits_toLower_iff.mp delimits), ← Text.folded_cons]
      exact ih (c :: word)

theorem scan_folded (text : List Char) : scan (folded text) = scan text := scanFrom_folded [] text

end Token

/-- **Queries with the same letters have the same tokens.** -/
theorem tokenize_eq_of_sameLetters {query query' : String}
    (same : SameLetters query.toList query'.toList) : tokenize query = tokenize query' :=
  same.congr Token.scan_folded

end Query

end TradeJournal
