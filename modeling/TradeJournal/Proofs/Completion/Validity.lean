import TradeJournal.Proofs.Completion.Preservation
import TradeJournal.Proofs.Query.Beginning

/-!
# Completions where a tag is due

Someone who types the beginning of a query and stops where a tag or a group is due is offered a tag,
and nothing but the ends of the open groups is missing behind it: every completion, closed up, is a
query. What has been typed is the beginning of a query by its tokens alone
(`Query.isBeginning_iff`), and a completion has these tokens and one tag, because behind such a
beginning nothing is replaced. This is so whichever words stand at the end, those included of which
no token remains.
-/

namespace TradeJournal.Completion

open Query (Token IsBeginning Leads tokenize problems parse)

/-- **A text with all its groups closed**: as many closing parentheses are put behind it as opening
ones in it are left open. -/
def closedUp (text : String) : String :=
  String.ofList (text.toList
    ++ List.replicate (text.toList.count '(' - text.toList.count ')') ')')

/-- The tokens of a text with its groups closed. -/
theorem tokenize_closedUp (text : String) :
    tokenize (closedUp text) = tokenize text
      ++ List.replicate ((tokenize text).count .opening -
        (tokenize text).count .closing) .closing := by
  have breaks (n : Nat) : Query.Breaks (List.replicate n ')') := by
    intro c first
    rw [List.eq_of_mem_replicate (List.mem_of_head? first)]
    exact Or.inr (Or.inl rfl)
  rw [tokenize, tokenize, closedUp, String.toList_ofList, Token.scan_append (breaks _),
    Token.scan_replicate_closing, Token.count_scan (Or.inl ⟨rfl, rfl⟩),
    Token.count_scan (Or.inr ⟨rfl, rfl⟩)]

/-- **Nothing is replaced where a tag is due**, or where nothing has been typed that has a token. -/
theorem CutsAt.replaced_eq_nil {typed before : List Char} {replaced : List Token}
    (cuts : CutsAt typed before replaced)
    (due : Token.scan typed = [] ∨ Awaits (Token.scan typed)) :
    replaced = [] := by
  rw [cuts.scan_eq] at due
  rcases due with nothing | awaits
  · exact (List.append_eq_nil_iff.mp nothing).2
  · by_contra something
    exact cuts.not_awaits ((awaits_append_of_ne_nil something).mp awaits)

/-- A beginning that stops where a tag is due does not lead behind a complete operand. -/
theorem ne_operator_of_leads {tokens : List Token} (due : tokens = [] ∨ Awaits tokens)
    {expects : Query.Expectation} {depth : Nat} (leads : Leads .operand 0 tokens expects depth) :
    expects ≠ .operator := by
  rw [leads.expects_eq]
  rcases due with rfl | ⟨last, is_last, awaits⟩
  · exact nofun
  · rw [Option.mem_def] at is_last
    rw [is_last, Option.map_some, Option.getD_some]
    cases last with
    | tag | closing => cases awaits
    | and | or | not | opening => exact nofun

/-- **Behind the beginning of a query that stops where a tag is due**, a tag and the ends of the
open groups make it a query. -/
theorem isQuery_of_isBeginning {tokens : List Token} (begins : IsBeginning tokens)
    (due : tokens = [] ∨ Awaits tokens) (tag : String) :
    problems (tokens ++ .tag tag ::
        List.replicate (tokens.count .opening - tokens.count .closing) .closing) = [] ∧
      ∃ tree, parse (tokens ++ .tag tag ::
        List.replicate (tokens.count .opening - tokens.count .closing) .closing) = .ok tree := by
  obtain ⟨expects, depth, leads⟩ := Query.isBeginning_iff.mp begins
  have open_groups : tokens.count .opening - tokens.count .closing = depth := by
    have counted := leads.depth_add
    omega
  have completed := Query.leads_completed (ne_operator_of_leads due leads) tag depth
  rw [open_groups]
  exact (Query.leads_append.mpr ⟨expects, depth, leads, completed⟩).isQuery

/-- **Completions where a tag is due are queries** once their groups are closed. When the typed text
is the beginning of a query by its tokens and stops where a tag or a group is due, or has no token
yet, every completion has these tokens and a tag of the index behind them; and when as many
parentheses are closed behind it as it leaves open, the check finds nothing and the query is
parsed. -/
theorem completions_lead_to_queries (typed : String) (index : TagIndex) (current : Option Record)
    (limit : Int) (canonical : ∀ s ∈ index.stats, Tag.IsCanonical s.tag)
    (begins : IsBeginning (tokenize typed)) (due : tokenize typed = [] ∨ Awaits (tokenize typed))
    (completions : List String)
    (suggested : suggest (.text typed) index current limit = .ok completions) :
    ∀ completion ∈ completions, ∃ s ∈ index.stats,
      tokenize completion = tokenize typed ++ [.tag s.tag] ∧
        problems (tokenize (closedUp completion)) = [] ∧
        ∃ tree, parse (tokenize (closedUp completion)) = .ok tree := by
  intro completion member
  obtain ⟨excluded, s, proposed, rfl⟩ := exists_of_mem_suggest suggested member
  obtain ⟨listed, replaced, cuts⟩ := continuation_cuts proposed
  have kept : tokenize typed = Token.scan (continuation typed.toList index.stats excluded).1 := by
    rw [tokenize, cuts.scan_eq, cuts.replaced_eq_nil due, List.append_nil]
  have added : tokenize (String.ofList
      ((continuation typed.toList index.stats excluded).1 ++ s.tag.toList))
        = tokenize typed ++ [.tag s.tag] := by
    rw [kept, tokenize, String.toList_ofList, scan_append_tag cuts.ends (canonical s listed)]
  refine ⟨s, listed, added, ?_⟩
  rw [tokenize_closedUp, added, List.append_assoc, List.count_append, List.count_append]
  exact isQuery_of_isBeginning begins due s.tag

/-- Two groups are open behind a word of which no token remains: both are closed behind the tag. -/
theorem completions_lead_to_queries_nested :
    let index : TagIndex := ⟨[⟨"#swing", 1, "", [], .infinity true⟩]⟩
    (∀ s ∈ index.stats, Tag.IsCanonical s.tag) ∧
      IsBeginning (tokenize "#a or (not b AND (!!") ∧ Awaits (tokenize "#a or (not b AND (!!") ∧
      suggest (.text "#a or (not b AND (!!") index none 5 = .ok ["#a or (not b AND (!! #swing"] ∧
      closedUp "#a or (not b AND (!! #swing" = "#a or (not b AND (!! #swing))" ∧
      ∃ tree, parse (tokenize "#a or (not b AND (!! #swing))") = .ok tree := by
  intro index
  have canonical : ∀ s ∈ index.stats, Tag.IsCanonical s.tag :=
    List.forall_mem_singleton.mpr ⟨"swing".toList, by decide, by decide, rfl⟩
  have scanned : tokenize "#a or (not b AND (!!" =
      [.tag "#a", .or, .opening, .not, .tag "#b", .and, .opening] := by decide +kernel
  have begins : IsBeginning (tokenize "#a or (not b AND (!!") := by
    rw [scanned]
    exact ⟨[.tag "#c", .closing, .closing], by decide +kernel⟩
  have awaits : Awaits (tokenize "#a or (not b AND (!!") := by
    rw [scanned]
    exact ⟨.opening, rfl, rfl⟩
  have suggested : suggest (.text "#a or (not b AND (!!") index none 5
      = .ok ["#a or (not b AND (!! #swing"] := by decide +kernel
  have closed : closedUp "#a or (not b AND (!! #swing" = "#a or (not b AND (!! #swing))" := by
    decide +kernel
  obtain ⟨s, -, -, -, parsed⟩ := completions_lead_to_queries "#a or (not b AND (!!" index none 5
    canonical begins (Or.inr awaits) _ suggested _ List.mem_cons_self
  exact ⟨canonical, begins, awaits, suggested, closed, closed ▸ parsed⟩

end TradeJournal.Completion
