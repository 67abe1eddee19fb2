import TradeJournal.Proofs.Completion.Ranking

/-!
# Completing a word where it stands

A begun word is completed alike wherever it stands: behind a blank, and behind the opening
parentheses of groups. What is proposed is a matter of the word alone, and the text before it stays
in front of every completion. How a text goes on (`GoesOn`) says both, since the tiers do not
mention what stands before the word; so the law is that two texts with the same tiers are completed
with the same tags (`suggest_eq_map`).

A word of which no tag remains, such as `!!` or a marker alone, is completed like any other one
where it stands behind a blank. Behind an opening parenthesis it is not seen: it has no token, so
the parenthesis is the last token, and the word stays in front of tags that are proposed as if it
were not there.
-/

namespace TradeJournal.Completion

open Query (Token)

/-- **A word that may be completed**: without blanks and parentheses, and no operator in any
case. -/
structure IsWord (word : List Char) : Prop where
  some_char : word ≠ []
  solid : ∀ c ∈ word, ¬Query.Delimits c
  not_operator : Token.operator? word = none

/-! ### What is proposed in tiers -/

/-- **The tags that are proposed**, given their tiers, while a record is being edited. -/
def proposed (tier : String → Option Nat) (index : TagIndex) (current : Option Record)
    (limit : Int) :
    Except Value.Misuse (List String) :=
  if limit ≤ 0 ∨ index.isEmpty then .ok []
  else do
    let carried ← match current with
      | some r => r.tags
      | none => .ok []
    .ok ((TagIndex.limited limit
      (level (allowed index.stats carried) tier 0 ++
        level (allowed index.stats carried) tier 1)).map (·.tag))

/-- **Every completion is a proposed tag behind the text that stays**, also where the tags of the
edited record cannot be had. -/
theorem suggest_eq_map {typed : String} {before : List Char} {tier : String → Option Nat}
    (goes_on : GoesOn typed.toList before tier) (index : TagIndex) (current : Option Record)
    (limit : Int) :
    suggest (.text typed) index current limit =
      List.map (String.ofList before ++ ·) <$> proposed tier index current limit := by
  have written (carried : List String) : completions typed index carried limit =
      ((TagIndex.limited limit
        (level (allowed index.stats carried) tier 0 ++
          level (allowed index.stats carried) tier 1)).map
          (·.tag)).map (String.ofList before ++ ·) := by
    rw [completions, goes_on.continuation_eq, List.map_map]
    refine List.map_congr_left fun s _ => ?_
    simp
  rw [suggest, proposed]
  split
  · rfl
  · cases current with
    | none => exact congrArg Except.ok (written [])
    | some r =>
      dsimp only
      cases r.tags with
      | error m => rfl
      | ok carried => exact congrArg Except.ok (written carried)

/-! ### The last word of a text -/

section

variable {head word : List Char} {depth : Nat}

/-- Opening parentheses are scanned one by one. -/
theorem scan_replicate_opening_append (depth : Nat) (text : List Char) :
    Token.scan (List.replicate depth '(' ++ text) =
      List.replicate depth .opening ++ Token.scan text := by
  induction depth with
  | zero => rfl
  | succ depth ih =>
    rw [List.replicate_succ, List.cons_append, Token.scan_cons (Or.inl rfl), ih]
    rfl

theorem opening_of_mem {c : Char} (member : c ∈ List.replicate depth '(') : c = '(' :=
  List.eq_of_mem_replicate member

theorem solid_opening {c : Char} (member : c ∈ List.replicate depth '(') :
    Text.isBlank c = false := by
  rw [opening_of_mem member]
  rfl

namespace IsWord

variable (is_word : IsWord word)
include is_word

/-- **A word that may be completed is a tag**, or nothing remains of it. -/
theorem scan_eq :
    Token.scan word = if Tag.body word = [] then [] else [.tag (Tag.ofBody (Tag.body word))] := by
  rw [Token.scan_of_word is_word.solid, Token.ofWord?, is_word.not_operator]
  by_cases nothing : Tag.body word = []
  · simp [Tag.ofBody, nothing]
  · have some_tag : Tag.ofBody (Tag.body word) ≠ "" := by
      simp [Tag.ofBody, nothing, String.ext_iff]
    simp [some_tag, nothing]

/-- Opening parentheses and a word are the last word of a text whose other words are apart from
them. -/
theorem endsWith (apart : ∀ c ∈ head.getLast?, Text.isBlank c = true) (depth : Nat) :
    EndsWith (head ++ (List.replicate depth '(' ++ word)) head
      (List.replicate depth '(' ++ word) [] where
  whole := List.append_nil _
  some_last := List.append_ne_nil_of_right_ne_nil _ is_word.some_char
  solid := by
    refine List.forall_mem_append.mpr ⟨fun c => solid_opening, fun c member => ?_⟩
    exact Bool.eq_false_iff.mpr fun blank => is_word.solid c member (Or.inr (Or.inr blank))
  apart := apart
  blank := rfl

/-- No parenthesis stands at the end of a word. -/
theorem getLast?_ne {c : Char} (delimits : Query.Delimits c) (before : List Char) :
    (before ++ word).getLast? ≠ some c := by
  rw [List.getLast?_append_of_ne_nil _ is_word.some_char]
  exact fun is_last => is_word.solid c (List.mem_of_getLast? is_last) delimits

/-- **A tag is due behind a word** just when nothing remains of the word and a parenthesis is
open. -/
theorem awaits_iff (depth : Nat) :
    Awaits (Token.scan (List.replicate depth '(' ++ word)) ↔ depth ≠ 0 ∧ Tag.body word = [] := by
  rw [scan_replicate_opening_append, is_word.scan_eq]
  split
  · next nothing =>
    rw [List.append_nil]
    cases depth with
    | zero => simp [not_awaits_nil]
    | succ depth =>
      simp only [nothing, ne_eq, Nat.succ_ne_zero, not_false_eq_true, and_self, iff_true]
      exact ⟨.opening, by simp [List.getLast?_replicate], rfl⟩
  · next some_body =>
    rw [awaits_append_of_ne_nil (List.cons_ne_nil _ _)]
    simp [Awaits, awaitsOperand, some_body]

/-- **A word of which a tag remains goes on alike everywhere**, and so does any word behind a
blank. -/
theorem goesOn (apart : ∀ c ∈ head.getLast?, Text.isBlank c = true)
    (seen : depth = 0 ∨ Tag.body word ≠ []) :
    GoesOn (head ++ (List.replicate depth '(' ++ word)) (head ++ List.replicate depth '(')
      (tierOf (Tag.body word)) := by
  refine .word (is_word.endsWith apart depth) ?_ (is_word.getLast?_ne (Or.inr (Or.inl rfl)) _)
    (fun c => opening_of_mem) fun opens => ?_
  · rw [is_word.awaits_iff]
    rintro ⟨behind, nothing⟩
    exact seen.elim behind fun some_body => some_body nothing
  · exact is_word.solid _ (List.mem_of_head? opens) (Or.inl rfl)

/-- **A word of which nothing remains is not seen behind an open parenthesis**: the text goes on as
it does without the word, with the word before every tag. -/
theorem exists_goesOn_of_nothing (apart : ∀ c ∈ head.getLast?, Text.isBlank c = true)
    (opens : depth ≠ 0)
    (nothing : Tag.body word = []) :
    ∃ tier, GoesOn (head ++ List.replicate depth '(') (head ++ List.replicate depth '(') tier ∧
      GoesOn (head ++ (List.replicate depth '(' ++ word))
        (head ++ (List.replicate depth '(' ++ word) ++ [' ']) tier := by
  have alone : EndsWith (head ++ List.replicate depth '(') head (List.replicate depth '(') [] :=
    ⟨List.append_nil _, by simpa using opens, fun c => solid_opening, apart, rfl⟩
  have awaits := (is_word.awaits_iff depth).mpr ⟨opens, nothing⟩
  have ends (text : List Char) : Token.scan (head ++ text) = Token.scan head ++ Token.scan text :=
    Token.scan_append_of_ends (fun c is_last => Or.inr (Or.inr (apart c is_last))) text
  -- The word has no token, so that with it and without it the text has the same ones.
  have same : Token.scan (List.replicate depth '(' ++ word) =
      Token.scan (List.replicate depth '(') := by
    have without := scan_replicate_opening_append depth []
    rw [List.append_nil] at without
    rw [scan_replicate_opening_append, is_word.scan_eq, if_pos nothing, without]
    rfl
  have due := GoesOn.due alone (same ▸ awaits)
  have due' := GoesOn.due (is_word.endsWith apart depth) awaits
  have last_opening : (List.replicate depth '(').getLast? = some '(' := by
    simp [List.getLast?_replicate, opens]
  rw [if_pos last_opening, List.append_nil] at due
  rw [if_neg (is_word.getLast?_ne (Or.inl rfl) _)] at due'
  refine ⟨_, due, ?_⟩
  rw [ends (List.replicate depth '('), ← same, ← ends]
  exact due'

end IsWord

end

/-! ### Completions where a word stands -/

theorem toList_append_opening (head : String) (depth : Nat) (word : String) :
    (head ++ String.ofList (List.replicate depth '(') ++ word).toList =
      head.toList ++ (List.replicate depth '(' ++ word.toList) := by
  simp

/-- **A word is completed alike wherever it stands.** Behind a text that is empty or ends with a
blank, and any number of opening parentheses, the completions of a word are those of the word alone,
in their order, each with that text and the parentheses before it. So it is when a tag remains of
the word, or no parenthesis stands before it. Otherwise the word is passed over: the tags that are
proposed behind the parentheses alone are proposed behind the word, with a blank between. -/
theorem word_completed_where_it_stands (head word : String) (depth : Nat)
    (apart : ∀ c ∈ head.toList.getLast?, Text.isBlank c = true) (is_word : IsWord word.toList)
    (index : TagIndex) (current : Option Record) (limit : Int) :
    let before := head ++ String.ofList (List.replicate depth '(')
    (depth = 0 ∨ Tag.normalize word ≠ "" →
        suggest (.text (before ++ word)) index current limit =
          List.map (before ++ ·) <$> suggest (.text word) index current limit) ∧
      (depth ≠ 0 → Tag.normalize word = "" →
        ∃ tags : Except Value.Misuse (List String),
          suggest (.text before) index current limit = List.map (before ++ ·) <$> tags ∧
          suggest (.text (before ++ word)) index current limit =
            List.map (before ++ word ++ " " ++ ·) <$> tags) := by
  intro before
  have nothing_iff : Tag.normalize word = "" ↔ Tag.body word.toList = [] := by
    simp [Tag.normalize, Tag.ofBody, String.ext_iff]
  have before_eq : before = String.ofList (head.toList ++ List.replicate depth '(') := by
    simp [before, String.ofList_append]
  refine ⟨fun seen => ?_, fun opens nothing => ?_⟩
  · rw [Ne, nothing_iff] at seen
    have alone : GoesOn word.toList [] (tierOf (Tag.body word.toList)) :=
      @IsWord.goesOn [] _ 0 is_word (by simp) (Or.inl rfl)
    have behind := is_word.goesOn apart seen
    rw [← toList_append_opening] at behind
    rw [suggest_eq_map behind, suggest_eq_map alone, ← before_eq]
    simp
  · obtain ⟨tier, without, behind⟩ :=
      is_word.exists_goesOn_of_nothing apart opens (nothing_iff.mp nothing)
    have text : before.toList = head.toList ++ List.replicate depth '(' := by
      rw [before_eq, String.toList_ofList]
    have kept : String.ofList ((before ++ word).toList ++ [' ']) = before ++ word ++ " " := by
      rw [String.ofList_append, String.ofList_toList]
    rw [← toList_append_opening] at behind
    rw [← text] at without
    refine ⟨proposed tier index current limit, ?_, ?_⟩
    · rw [suggest_eq_map without, String.ofList_toList]
    · rw [suggest_eq_map behind, kept]

/-- A word in two groups behind an operator; and a word of which nothing remains, first behind a
blank and then in a group whose other tag is not proposed again. -/
theorem word_completed_where_it_stands_nested :
    let index : TagIndex :=
      ⟨[⟨"#swing", 9, "", [], .infinity true⟩, ⟨"#scalp", 3, "", [], .infinity true⟩]⟩
    let law (head : String) (depth : Nat) (word : String) : Prop :=
      suggest (.text (head ++ String.ofList (List.replicate depth '(') ++ word)) index none 5 =
        List.map (head ++ String.ofList (List.replicate depth '(') ++ ·) <$>
          suggest (.text word) index none 5
    (IsWord "SC".toList ∧ law "#a and " 2 "SC" ∧
        suggest (.text "#a and ((SC") index none 5 = .ok ["#a and ((#scalp"]) ∧
      IsWord "!!".toList ∧ law "#a and " 0 "!!" ∧ Tag.normalize "!!" = "" ∧
        ∃ tags,
          suggest (.text "#swing and (") index none 5 = List.map ("#swing and (" ++ ·) <$> tags ∧
          suggest (.text "#swing and (!!") index none 5 =
            List.map ("#swing and (!! " ++ ·) <$> tags ∧
          suggest (.text "#swing and (!!") index none 5 = .ok ["#swing and (!! #scalp"] := by
  intro index law
  have is_word : IsWord "SC".toList :=
    ⟨by decide, by simp [Query.Delimits, Text.isBlank], by decide +kernel⟩
  have is_word' : IsWord "!!".toList :=
    ⟨by decide, by simp [Query.Delimits, Text.isBlank], by decide +kernel⟩
  have nothing : Tag.normalize "!!" = "" := by decide +kernel
  have apart : ∀ c ∈ "#a and ".toList.getLast?, Text.isBlank c = true := by simp [Text.isBlank]
  have apart' : ∀ c ∈ "#swing and ".toList.getLast?, Text.isBlank c = true := by simp [Text.isBlank]
  obtain ⟨same, -⟩ := word_completed_where_it_stands "#a and " "SC" 2 apart is_word index none 5
  obtain ⟨same', -⟩ := word_completed_where_it_stands "#a and " "!!" 0 apart is_word' index none 5
  obtain ⟨-, passed⟩ :=
    word_completed_where_it_stands "#swing and " "!!" 1 apart' is_word' index none 5
  obtain ⟨tags, without, behind⟩ := passed Nat.one_ne_zero nothing
  exact ⟨⟨is_word, same (Or.inr (by decide +kernel)), by decide +kernel⟩, is_word',
    same' (Or.inl rfl),
    nothing, tags, without, behind, by decide +kernel⟩

/-- **A word of which nothing remains is not replaced behind an opening parenthesis**, although it
is where it stands alone. -/
theorem completion_passes_over_word :
    let index : TagIndex := ⟨[⟨"#swing", 1, "", [], .infinity true⟩]⟩
    IsWord "!!".toList ∧ suggest (.text "!!") index none 5 = .ok ["#swing"] ∧
      suggest (.text "(!!") index none 5 = .ok ["(!! #swing"] ∧
      suggest (.text "(!!") index none 5 ≠
        List.map ("(" ++ ·) <$> suggest (.text "!!") index none 5 := by
  intro index
  have alone : suggest (.text "!!") index none 5 = .ok ["#swing"] := by decide +kernel
  have grouped : suggest (.text "(!!") index none 5 = .ok ["(!! #swing"] := by decide +kernel
  refine ⟨⟨by decide, by simp [Query.Delimits, Text.isBlank], by decide +kernel⟩, alone,
    grouped, ?_⟩
  rw [alone, grouped]
  intro same
  have texts : ["(!! #swing"] = ["(#swing"] := Except.ok.inj same
  simp at texts

end TradeJournal.Completion
