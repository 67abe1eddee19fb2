import Mathlib.Data.List.Basic
import TradeJournal.Completion
import TradeJournal.Proofs.Except
import TradeJournal.Proofs.Query.Scanning

/-!
# What a completion keeps

A completion is a part of the typed text with a tag behind it, and the text is cut where words end:
behind everything that was typed, when a tag is due, and otherwise before the word that has been
begun. So the tokens before the cut stay, and the tag is one token more.

The word that has been begun is the last one between blanks, without the opening parentheses that it
begins with. It is replaced as a whole. As long as no parenthesis stands in it, it is a single tag
or nothing, so that a completion adds a tag or replaces one. But parentheses need no blanks around
them: in `AND(sc` the word that is replaced holds an operator and a parenthesis, and these are lost.
-/

namespace TradeJournal.Completion

open Query (Token Delimits tokenize)

/-- **The word that has been begun**: the last one of a text, without the opening parentheses that
it begins with. -/
def begun (typed : List Char) : List Char :=
  (Text.lastWord (Text.trimEnd typed)).dropWhile (· = '(')

/-- **Whether a completion only adds a tag**, or replaces the tag that was typed last. -/
def AddsTag (typed completed : List Token) (tag : String) : Prop :=
  completed = typed ++ [.tag tag] ∨
    ∃ kept old, typed = kept ++ [.tag old] ∧ completed = kept ++ [.tag tag]

/-- No token is lost to a tag. -/
theorem AddsTag.length_le {typed completed : List Token} {tag : String}
    (h : AddsTag typed completed tag) : typed.length ≤ completed.length := by
  rcases h with rfl | ⟨kept, old, rfl, rfl⟩ <;> simp

/-! ### Proposed tags -/

theorem mem_of_mem_ranked_filter {allowed : List TagStats} {chosen : TagStats → Bool} {s : TagStats}
    (h : s ∈ TagIndex.ranked (allowed.filter chosen)) : s ∈ allowed :=
  (List.mem_filter.mp (List.mem_mergeSort.mp h)).1

theorem mem_of_mem_fitting {stats : List TagStats} {body : List Char} {excluded : List String}
    {s : TagStats} (h : s ∈ fitting stats body excluded) : s ∈ stats := by
  rcases List.mem_append.mp h with begins | occurs
  · exact (List.mem_filter.mp (mem_of_mem_ranked_filter begins)).1
  · exact (List.mem_filter.mp (mem_of_mem_ranked_filter occurs)).1

/-! ### Cutting the typed text -/

/-- A text that ends with a delimiter, if with anything, may be followed by a tag. -/
def Ends (before : List Char) : Prop := ∀ c ∈ before.getLast?, Delimits c

theorem scan_append_tag {before : List Char} (ends : Ends before) {tag : String}
    (canonical : Tag.IsCanonical tag) :
    Token.scan (before ++ tag.toList) = Token.scan before ++ [.tag tag] := by
  rw [Token.scan_append_of_ends ends, Token.scan_canonical canonical]

/-- **The text around the word that has been begun**: the text before it, the opening parentheses
that its last word begins with, and the blanks behind it. -/
theorem exists_append_begun (typed : List Char) :
    ∃ before lead tail, before ++ begun typed = Text.trimEnd typed ∧
      lead ++ begun typed = Text.lastWord (Text.trimEnd typed) ∧
      Text.trimEnd typed ++ tail = typed ∧ Text.allBlank tail = true ∧ Ends before ∧ Ends lead := by
  obtain ⟨tail, blank, whole⟩ := Text.exists_trimEnd_append typed
  obtain ⟨head, whole', head_ends⟩ := Text.exists_append_lastWord (Text.trimEnd typed)
  obtain ⟨last, last_eq⟩ : ∃ last, Text.lastWord (Text.trimEnd typed) = last := ⟨_, rfl⟩
  have parts : last.takeWhile (· = '(') ++ begun typed = last := by
    rw [begun, last_eq]
    exact List.takeWhile_append_dropWhile
  have lead_ends : Ends (last.takeWhile (· = '(')) := by
    intro c member
    have opening := List.all_eq_true.mp List.all_takeWhile c (List.mem_of_getLast? member)
    exact Or.inl (of_decide_eq_true opening)
  refine ⟨head ++ last.takeWhile (· = '('), last.takeWhile (· = '('), tail, ?_, ?_, whole,
    blank, ?_,
    lead_ends⟩
  · rw [List.append_assoc, parts, ← last_eq, whole']
  · rw [parts, last_eq]
  · intro c member
    rw [List.getLast?_append, Option.mem_def, Option.or_eq_some_iff] at member
    rcases member with inside | ⟨-, before⟩
    · exact lead_ends c inside
    · exact Or.inr (Or.inr (head_ends c before))

/-! ### What is replaced -/

/-- Whether tokens end with one after which a tag or a group is due. -/
def Awaits (tokens : List Token) : Prop := ∃ token ∈ tokens.getLast?, awaitsOperand token = true

theorem awaits_append_of_ne_nil {first second : List Token} (more : second ≠ []) :
    Awaits (first ++ second) ↔ Awaits second := by
  rw [Awaits, Awaits, List.getLast?_append_of_ne_nil _ more]

/-- The test that a completion makes. -/
theorem awaits_iff {tokens : List Token} :
    (tokens.getLast?.map awaitsOperand).getD false = true ↔ Awaits tokens := by
  cases last : tokens.getLast? <;> simp [Awaits, last]

/-- **Where a typed text is cut**: the tokens before the cut stay, and what is behind it is nothing
or the word that has been begun, which then does not end where a tag is due. -/
structure CutsAt (typed before : List Char) (replaced : List Token) : Prop where
  ends : Ends before
  scan_eq : Token.scan typed = Token.scan before ++ replaced
  replaces : replaced = [] ∨ replaced = Token.scan (begun typed)
  not_awaits : ¬Awaits replaced

theorem not_awaits_nil : ¬Awaits [] := by simp [Awaits]

/-- A text of blanks is cut at its start. -/
theorem CutsAt.of_allBlank {typed : List Char} (blank : Text.allBlank typed = true) :
    CutsAt typed [] [] where
  ends := by simp [Ends]
  scan_eq := Token.scan_blanks blank
  replaces := Or.inl rfl
  not_awaits := not_awaits_nil

/-- Where a tag is due, the text is cut behind everything but the blanks at its end. -/
theorem CutsAt.of_awaits {typed : List Char} :
    CutsAt typed (Text.trimEnd typed ++ if (Text.trimEnd typed).getLast? = some '(' then []
      else [' '])
      [] where
  ends := by
    intro c member
    split at member
    · next opening =>
      rw [List.append_nil, opening, Option.mem_some_iff] at member
      exact Or.inl member.symm
    · rw [List.getLast?_append_of_ne_nil _ (List.cons_ne_nil _ _)] at member
      exact Option.mem_some_iff.mp member ▸ Query.delimits_blank
  scan_eq := by
    obtain ⟨tail, blank, whole⟩ := Text.exists_trimEnd_append typed
    have separator_blank : Text.allBlank
        (if (Text.trimEnd typed).getLast? = some '(' then [] else [' ']) = true := by
      split <;> rfl
    rw [Token.scan_append_blanks separator_blank, List.append_nil]
    calc Token.scan typed
        _ = Token.scan (Text.trimEnd typed ++ tail) := by rw [whole]
        _ = Token.scan (Text.trimEnd typed) := Token.scan_append_blanks blank _
  replaces := Or.inl rfl
  not_awaits := not_awaits_nil

/-- **Any other text is cut before the word that has been begun.** -/
theorem CutsAt.of_not_awaits {typed : List Char}
    (other : ¬Awaits (Token.scan (Text.lastWord (Text.trimEnd typed)))) :
    CutsAt typed ((Text.trimEnd typed).take ((Text.trimEnd typed).length - (begun typed).length))
      (Token.scan (begun typed)) := by
  obtain ⟨before, lead, tail, text, last, whole, blank, ends, lead_ends⟩ :=
    exists_append_begun typed
  have cut : (Text.trimEnd typed).take ((Text.trimEnd typed).length - (begun typed).length) =
      before := by
    rw [← text, List.length_append, Nat.add_sub_cancel, List.take_left]
  rw [cut]
  refine ⟨ends, ?_, Or.inr rfl, fun awaits => ?_⟩
  · calc Token.scan typed
        _ = Token.scan (Text.trimEnd typed ++ tail) := by rw [whole]
        _ = Token.scan (before ++ begun typed) := by rw [Token.scan_append_blanks blank, text]
        _ = Token.scan before ++ Token.scan (begun typed) := Token.scan_append_of_ends ends _
  · have some_token : Token.scan (begun typed) ≠ [] := by
      intro none
      rw [none] at awaits
      exact not_awaits_nil awaits
    refine other ?_
    rw [← last, Token.scan_append_of_ends lead_ends, awaits_append_of_ne_nil some_token]
    exact awaits

/-- **What a completion goes on with** is an entry of the index, behind the text up to a cut. -/
theorem continuation_cuts {typed : List Char} {stats : List TagStats} {excluded : List String}
    {s : TagStats} (proposed : s ∈ (continuation typed stats excluded).2) :
    s ∈ stats ∧ ∃ replaced, CutsAt typed (continuation typed stats excluded).1 replaced := by
  -- The branches are those of the definition: a blank text, one with a tag due, a closed one, a
  -- word.
  rw [continuation] at proposed ⊢
  split at proposed
  · next blank =>
    rw [if_pos blank]
    exact ⟨mem_of_mem_ranked_filter proposed, [], .of_allBlank blank⟩
  · next not_blank =>
    rw [if_neg not_blank]
    dsimp only at proposed ⊢
    split at proposed
    · next due =>
      rw [if_pos due]
      exact ⟨mem_of_mem_ranked_filter proposed, [], .of_awaits⟩
    · next not_due =>
      rw [if_neg not_due]
      split at proposed
      · cases proposed
      · next not_closed =>
        rw [if_neg not_closed]
        refine ⟨?_, _, .of_not_awaits fun awaits => not_due (awaits_iff.mpr awaits)⟩
        dsimp only at proposed
        split at proposed
        · exact mem_of_mem_ranked_filter proposed
        · exact mem_of_mem_fitting proposed

/-! ### Words without parentheses -/

/-- The token of a word is a tag, or one after which a tag is due. -/
theorem ofWord?_cases {word : List Char} {token : Token} (h : Token.ofWord? word = some token) :
    awaitsOperand token = true ∨ ∃ text, token = .tag text := by
  have shape := Token.isOperator_or_isTag_of_ofWord? h
  cases token with
  | tag text => exact Or.inr ⟨text, rfl⟩
  | and | or | not => exact Or.inl rfl
  | opening | closing => simp [Token.isOperator, Token.isTag] at shape

/-- No blank stands in the word that has been begun. -/
theorem begun_solid (typed : List Char) : ∀ c ∈ begun typed, Text.isBlank c = false :=
  fun c member => Text.lastWord_solid _ c (List.dropWhile_sublist _ |>.mem member)

/-- **A begun word without parentheses is one tag or nothing**, unless a tag is due after it. -/
theorem scan_begun {typed : List Char} (plain : ∀ c ∈ begun typed, c ≠ '(' ∧ c ≠ ')')
    (other : ¬Awaits (Token.scan (begun typed))) :
    Token.scan (begun typed) = [] ∨ ∃ old, Token.scan (begun typed) = [.tag old] := by
  have solid : ∀ c ∈ begun typed, ¬Query.Delimits c := by
    intro c member
    simp [Query.Delimits, plain c member, begun_solid typed c member]
  rw [Token.scan_of_word solid] at other ⊢
  cases word : Token.ofWord? (begun typed) with
  | none => exact Or.inl rfl
  | some token =>
    rw [word] at other
    rcases ofWord?_cases word with awaits | ⟨old, rfl⟩
    · exact absurd ⟨token, rfl, awaits⟩ other
    · exact Or.inr ⟨old, rfl⟩

/-- **A completion adds a tag** when one is due, or when no parenthesis stands in the word that it
replaces. -/
theorem CutsAt.addsTag {typed before : List Char} {replaced : List Token}
    (cuts : CutsAt typed before replaced) (tag : String)
    (safe : Awaits (Token.scan typed) ∨ ∀ c ∈ begun typed, c ≠ '(' ∧ c ≠ ')') :
    AddsTag (Token.scan typed) (Token.scan before ++ [.tag tag]) tag := by
  rw [cuts.scan_eq] at safe ⊢
  by_cases nothing : replaced = []
  · rw [nothing, List.append_nil]
    exact Or.inl rfl
  · have plain := safe.resolve_left fun awaits =>
      cuts.not_awaits ((awaits_append_of_ne_nil nothing).mp awaits)
    have is_begun := cuts.replaces.resolve_left nothing
    have other := cuts.not_awaits
    rw [is_begun] at nothing other ⊢
    obtain ⟨old, whole⟩ := (scan_begun plain other).resolve_left nothing
    rw [whole]
    exact Or.inr ⟨Token.scan before, old, rfl, rfl⟩

/-! ### Completions -/

/-- **The completions of a value** are written from its continuation. -/
theorem exists_of_mem_suggest {typed : String} {index : TagIndex} {current : Option Record}
    {limit : Int} {completions : List String} {completion : String}
    (suggested : suggest (.text typed) index current limit = .ok completions)
    (member : completion ∈ completions) :
    ∃ excluded, ∃ s ∈ (continuation typed.toList index.stats excluded).2,
      completion =
        String.ofList ((continuation typed.toList index.stats excluded).1 ++ s.tag.toList) := by
  rw [suggest] at suggested
  split at suggested
  · obtain rfl := Except.ok.inj suggested
    cases member
  · obtain ⟨excluded, rfl⟩ : ∃ excluded, Completion.completions typed index excluded limit =
        completions := by
      cases current with
      | none => exact ⟨[], Except.ok.inj suggested⟩
      | some r =>
        obtain ⟨excluded, -, written⟩ := bind_eq_ok.mp suggested
        exact ⟨excluded, Except.ok.inj written⟩
    obtain ⟨s, proposed, rfl⟩ := List.mem_map.mp member
    exact ⟨excluded, s, List.mem_of_mem_take proposed, rfl⟩

/-- **A completion keeps what was typed.** It has the tokens before the word that has been begun, or
all tokens, and one tag of the index behind them. When a tag is due at the end of the typed text, or
no parenthesis stands in the word that has been begun, it adds a tag or replaces one. -/
theorem completion_keeps_typed (typed : String) (index : TagIndex) (current : Option Record)
    (limit : Int) (canonical : ∀ s ∈ index.stats, Tag.IsCanonical s.tag) (completions : List String)
    (suggested : suggest (.text typed) index current limit = .ok completions) :
    ∀ completion ∈ completions, ∃ s ∈ index.stats,
      (∃ kept replaced, tokenize typed = kept ++ replaced ∧
        tokenize completion = kept ++ [.tag s.tag] ∧
        (replaced = [] ∨ replaced = Token.scan (begun typed.toList))) ∧
      (Awaits (tokenize typed) ∨ (∀ c ∈ begun typed.toList, c ≠ '(' ∧ c ≠ ')') →
        AddsTag (tokenize typed) (tokenize completion) s.tag) := by
  intro completion member
  obtain ⟨excluded, s, proposed, rfl⟩ := exists_of_mem_suggest suggested member
  obtain ⟨listed, replaced, cuts⟩ := continuation_cuts proposed
  have written : tokenize (String.ofList
        ((continuation typed.toList index.stats excluded).1 ++ s.tag.toList))
      = Token.scan (continuation typed.toList index.stats excluded).1 ++ [.tag s.tag] := by
    rw [tokenize, String.toList_ofList, scan_append_tag cuts.ends (canonical s listed)]
  rw [written]
  exact ⟨s, listed, ⟨_, replaced, cuts.scan_eq, rfl, cuts.replaces⟩, cuts.addsTag s.tag⟩

/-- A word behind the opening parenthesis of a group: the parenthesis stays. -/
theorem completion_keeps_typed_group :
    let index : TagIndex := ⟨[⟨"#swing", 1, "", [], .infinity true⟩]⟩
    (∀ s ∈ index.stats, Tag.IsCanonical s.tag) ∧
      suggest (.text "#a AND (s") index none 5 = .ok ["#a AND (#swing"] ∧
      ∃ s ∈ index.stats, AddsTag (tokenize "#a AND (s") (tokenize "#a AND (#swing") s.tag := by
  intro index
  have canonical : ∀ s ∈ index.stats, Tag.IsCanonical s.tag :=
    List.forall_mem_singleton.mpr ⟨"swing".toList, by decide, by decide, rfl⟩
  have suggested : suggest (.text "#a AND (s") index none 5 = .ok ["#a AND (#swing"] := by
    decide +kernel
  obtain ⟨s, listed, -, adds⟩ :=
    completion_keeps_typed "#a AND (s" index none 5 canonical _ suggested
    "#a AND (#swing" List.mem_cons_self
  have word : begun "#a AND (s".toList = ['s'] := by decide +kernel
  have plain : ∀ c ∈ begun "#a AND (s".toList, c ≠ '(' ∧ c ≠ ')' := by
    rw [word]
    simp
  exact ⟨canonical, suggested, s, listed, adds (Or.inr plain)⟩

/-- **An operator that is glued to the begun word is lost**, and the parenthesis behind it too: they
are replaced with the word. -/
theorem completion_replaces_glued_operator :
    let index : TagIndex := ⟨[⟨"#sandscape", 1, "", [], .infinity true⟩]⟩
    (∀ s ∈ index.stats, Tag.IsCanonical s.tag) ∧
      suggest (.text "#a AND(sc") index none 5 = .ok ["#a #sandscape"] ∧
      ∀ s ∈ index.stats, ¬AddsTag (tokenize "#a AND(sc") (tokenize "#a #sandscape") s.tag := by
  intro index
  refine ⟨List.forall_mem_singleton.mpr ⟨"sandscape".toList, by decide, by decide, rfl⟩,
    by decide +kernel, fun s _ adds => ?_⟩
  have shorter : (tokenize "#a #sandscape").length < (tokenize "#a AND(sc").length := by decide
  exact Nat.not_le_of_lt shorter adds.length_le

end TradeJournal.Completion
