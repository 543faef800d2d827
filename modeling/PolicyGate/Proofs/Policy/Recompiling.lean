import PolicyGate.Proofs.Policy.Display
import PolicyGate.Proofs.Policy.Formatting
import PolicyGate.Proofs.Source.Assignments
import PolicyGate.Proofs.Source.Places

/-!
# Compiling what is displayed

A text whose variables are numbers keeps them (`numberVariables_numbered`), so it is compiled as the tree
that it spells. The display of a compiled rule or caveat is such a text, and compiles to that rule or
caveat: `compileDocument_display`.
-/

namespace PolicyGate

open Source (Document TokenKind Written Spells Prints numberVariables isNumeric)

/-! ## Texts with numbered variables -/

theorem numberVariables_numbered {document : String}
    (h : ∀ name ∈ Source.variableNames (Source.pieces document.toList), isNumeric name = true) :
    (numberVariables document).text = document := by
  have same : ∀ p ∈ Source.pieces document.toList,
      p.replaced (Source.assignments (Source.variableNames (Source.pieces document.toList))) = p.spelling := by
    intro p hp
    cases p with
    | plain text => rfl
    | var name =>
      have numeric := h name (List.mem_filterMap.mpr ⟨_, hp, rfl⟩)
      simp only [Source.Piece.replaced, Source.lookup_numeric numeric, Source.Piece.spelling]
  rw [numberVariables, List.flatMap_congr same, Source.pieces_spelling, String.ofList_toList]

theorem compileDocument_of_spells {document : String} {d : Document} (spells : Spells document.toList d.tokens)
    (ok : d.WellFormed) (numbered : NumberedTokens d.tokens) :
    compileDocument document = Policy.lowerAll [] d.policies := by
  have numeric : ∀ name ∈ Source.variableNames (Source.pieces document.toList), isNumeric name = true := by
    rw [spells.variableNames]
    refine List.forall_mem_map.mpr fun name hn => ?_
    obtain ⟨k, hk, var⟩ := List.mem_filterMap.mp hn
    exact (numbered k hk).2 name var
  obtain ⟨ts, hts, kinds⟩ := spells.tokenize
  obtain ⟨d', read, same⟩ := Document.exists_ofText (by rw [hts, ← kinds]; rfl) ok
  rw [compileDocument, numberVariables_numbered numeric]
  simp only [read]
  have policies : d'.withoutOffsets.policies = d.withoutOffsets.policies := by rw [same]
  calc Policy.lowerAll [] d'.policies
      = Policy.lowerAll [] d'.withoutOffsets.policies := (lowerAll_withoutOffset [] _).symm
    _ = Policy.lowerAll [] d.withoutOffsets.policies := by rw [policies]
    _ = Policy.lowerAll [] d.policies := lowerAll_withoutOffset [] _

/-! ## Documents with one rule or caveat -/

def singletonDocument (word item : String) : String :=
  "policy \"p\" \x7b " ++ word ++ " \x7b " ++ item ++ " \x7d \x7d"

theorem isWritten_word {word : String} {c : Char} {cs : List Char} (spelled : word.toList = c :: cs)
    (first : c.isAlpha = true) (others : cs.all Source.isWordChar = true) :
    (TokenKind.identifier word).IsWritten := by
  show Source.IsIdentifier word.toList
  rw [spelled]
  refine ⟨⟨List.cons_ne_nil c cs, List.forall_mem_cons.mpr ⟨Source.isWordChar_of_first (.inl first), ?_⟩⟩, ?_⟩
  · exact List.all_eq_true.mp others
  · intro d hd
    cases hd
    exact .inl first

theorem singletonDocument_prints {word item : String} {ks : List TokenKind}
    (hw : (TokenKind.identifier word).IsWritten) (h : Prints Source.Delimited item.toList ks) :
    Prints Source.AnyText (singletonDocument word item).toList
      (.identifier "policy" :: .string "p" :: .leftBrace :: .identifier word :: .leftBrace ::
        (ks ++ [.rightBrace, .rightBrace])) := by
  have opening : "policy \"p\" \x7b ".toList =
      "policy".toList ++ ' ' :: (Text.Quoted.quote "p".toList ++ [' ', '{', ' ']) := rfl
  have policy : (TokenKind.identifier "policy").IsWritten := isWritten_word rfl rfl rfl
  unfold singletonDocument
  rw [String.toList_append, String.toList_append, String.toList_append, String.toList_append, opening]
  simp only [List.append_assoc, List.cons_append, List.nil_append]
  refine .word (k := .identifier "policy") policy rfl rfl (.blank rfl ?_)
  refine .word (k := .string "p") trivial rfl rfl (.blank rfl ?_)
  refine .closed (k := .leftBrace) ⟨trivial, fun _ => rfl⟩ (.blank rfl ?_)
  refine .word (k := .identifier word) hw rfl rfl (.blank rfl ?_)
  refine .closed (k := .leftBrace) ⟨trivial, fun _ => rfl⟩ (.blank rfl ?_)
  refine h.delimited rfl (.blank rfl ?_)
  refine .closed (k := .rightBrace) ⟨trivial, fun _ => rfl⟩ (.blank rfl ?_)
  exact .closed (k := .rightBrace) ⟨trivial, fun _ => rfl⟩ .nil

theorem compileDocument_item {word item : String} {ks : List TokenKind} {p : Source.Policy}
    (hw : (TokenKind.identifier word).IsWritten) (prints : Prints Source.Delimited item.toList ks)
    (numbered : NumberedTokens ks)
    (tokens : p.tokens = .identifier "policy" :: .string "p" :: .leftBrace :: .identifier word ::
      .leftBrace :: (ks ++ [.rightBrace, .rightBrace]))
    (ok : p.WellFormed) : compileDocument (singletonDocument word item) = Policy.lowerAll [] [p] := by
  let tree : Document := ⟨[p], []⟩
  have all : tree.tokens = p.tokens := by simp [tree, Document.tokens, Source.commentTokens]
  have spells : Spells (singletonDocument word item).toList tree.tokens := by
    rw [all, tokens]
    simpa using (singletonDocument_prints hw prints).spells trivial .nil
  have policy : NumberedToken (.identifier "policy") := numbered_of_written (isWritten_word rfl rfl rfl) rfl
  have sign {k : TokenKind} (written : k.IsWritten) (plain : k.var? = none) := numbered_of_written written plain
  have numberedTree : NumberedTokens tree.tokens := by
    rw [all, tokens]
    refine .cons policy (.cons (sign trivial rfl) (.cons (sign trivial rfl) ?_))
    refine .cons (sign hw rfl) (.cons (sign trivial rfl) (numbered.append ?_))
    exact .cons (sign trivial rfl) (.cons (sign trivial rfl) .nil)
  have okTree : tree.WellFormed := fun x hx => List.mem_singleton.mp hx ▸ ok
  exact compileDocument_of_spells spells okTree numberedTree

theorem lowerAll_singleton {p : Source.Policy} {q : Policy} (lowers : p.lower = .ok q) :
    Policy.lowerAll [] [p] = .ok [q] := by
  simp [Policy.lowerAll, lowers, Except.map]

theorem compileDocument_inlineRule {s : Source.Rule} (numbered : NumberedTokens s.tokens)
    (ok : s.comments = [] ∧ s.WellFormed) : compileDocument (singletonDocument "rules" s.inlineText) =
      Policy.lowerAll [] [⟨[], "p", 0, some ⟨[s], []⟩, none⟩] := by
  have prints : Prints Source.Delimited s.inlineText.toList s.tokens :=
    Source.Rule.inlineText_prints fun k hk => (numbered k hk).1
  refine compileDocument_item (isWritten_word rfl rfl rfl) prints numbered ?_
    ⟨fun b hb x hx => ?_, fun b hb => (by cases hb)⟩
  · simp [Source.Policy.tokens, Source.optionalTokens, Source.Block.tokens, Source.commentTokens,
      Source.Rule.commentedTokens, ok.1]
  · cases hb
    exact List.mem_singleton.mp hx ▸ ok.2

theorem compileDocument_rule {s : Source.Rule} {r : Rule} (h : rules.Displays s r) :
    compileDocument (singletonDocument "rules" r.text) = .ok [⟨"p", [r], []⟩] := by
  have text : s.inlineText = r.text := h.text_eq
  rw [← text, compileDocument_inlineRule h.numbered h.ok]
  exact lowerAll_singleton (lower_policy_ok.mpr ⟨rfl, .cons h.lower_eq .nil, .nil⟩)

theorem compileDocument_caveat {s : Source.Caveat} {c : Caveat} (h : caveats.Displays s c) :
    compileDocument (singletonDocument "caveats" c.text) = .ok [⟨"p", [], [c]⟩] := by
  have text : caveats.text s = c.text := h.text_eq
  have prints : Prints Source.Delimited (caveats.text s).toList (Source.queryTokens s.queries) := by
    have list := Source.queries_prints fun k hk => (h.numbered k hk).1
    simpa [caveats] using list
  have lowers : (⟨[], "p", 0, none, some ⟨[s], []⟩⟩ : Source.Policy).lower = .ok ⟨"p", [], [c]⟩ :=
    lower_policy_ok.mpr ⟨rfl, .nil, .cons h.lower_eq .nil⟩
  rw [← text, ← lowerAll_singleton lowers]
  refine compileDocument_item (isWritten_word rfl rfl rfl) prints h.numbered ?_
    ⟨fun b hb => (by cases hb), fun b hb x hx => ?_⟩
  · simp [Source.Policy.tokens, Source.optionalTokens, Source.Block.tokens, Source.commentTokens,
      Source.Caveat.commentedTokens, h.ok.1]
  · cases hb
    exact List.mem_singleton.mp hx ▸ h.ok.2

/-! ## Documents that compile -/

theorem written_blockItems {α : Type} {word : String} {tokens : α → List TokenKind}
    {b : Option (Source.Block α)} (h : Written (Source.optionalTokens word tokens b)) :
    ∀ i ∈ Source.blockItems b, Written (tokens i) := by
  cases b with
  | none =>
    intro i hi
    cases hi
  | some b =>
    simp only [Source.optionalTokens, Source.Block.tokens, Source.Written.cons, Source.Written.append] at h
    exact h.2.2.1.of_flatMap

theorem forall_blockItems {α : Type} {ok : α → Prop} {b : Option (Source.Block α)}
    (h : ∀ x ∈ b, ∀ i ∈ x.items, ok i) : ∀ i ∈ Source.blockItems b, ok i := by
  cases b with
  | none =>
    intro i hi
    cases hi
  | some b => exact h b rfl

/-- What a document is compiled to is displayed as texts that compile to it again. -/
theorem compileDocument_display {document : String} {policies : List Policy}
    (h : compileDocument document = .ok policies) {p : Policy} (hp : p ∈ policies) :
    (∀ r ∈ p.rules, r.HasFourDigitYears →
      compileDocument (singletonDocument "rules" r.text) = .ok [⟨"p", [r], []⟩]) ∧
    ∀ c ∈ p.caveats, c.HasFourDigitYears →
      compileDocument (singletonDocument "caveats" c.text) = .ok [⟨"p", [], [c]⟩] := by
  unfold compileDocument at h
  simp only at h
  split at h
  · cases h
  next tree read =>
  obtain ⟨_, _, ok, _⟩ := Document.sound_of_ofText read
  obtain ⟨source, hs, lowered⟩ := exists_of_forall₂ (lowerAll_ok.mp h).1 hp
  obtain ⟨-, lowersRules, lowersCaveats⟩ := lower_policy_ok.mp lowered
  have written := (Source.Written.append.mp (Document.written_tokens read)).1.of_flatMap source hs
  simp only [Source.Policy.tokens, Source.Written.cons, Source.Written.append] at written
  obtain ⟨-, -, -, -, writtenRules, writtenCaveats, -⟩ := written
  constructor
  · intro r hr years
    obtain ⟨s, hs', lowers⟩ := exists_of_forall₂ lowersRules hr
    have tokens := (Source.Written.append.mp (written_blockItems writtenRules s hs')).2
    have body := forall_blockItems (ok source hs).rules s hs'
    obtain ⟨shown, displays⟩ := faithful_rules { s with comments := [] } r ⟨rfl, body⟩ tokens lowers years
    exact compileDocument_rule displays
  · intro c hc years
    obtain ⟨s, hs', lowers⟩ := exists_of_forall₂ lowersCaveats hc
    have tokens := (Source.Written.append.mp (written_blockItems writtenCaveats s hs')).2
    have queries := forall_blockItems (ok source hs).caveats s hs'
    obtain ⟨shown, displays⟩ := faithful_caveats { s with comments := [] } c ⟨rfl, queries⟩ tokens lowers years
    exact compileDocument_caveat displays

theorem compileDocument_display_leap :
    ∃ r c, r.text = "*a($0) <- b($0, hex:) @ $0 <= \"2016-12-31T23:59:60.500Z\"" ∧
      c.text = "[*q() <- c($1) @ $1 in [-1, 2]]" ∧
      compileDocument ("policy \"a\"\x7brules\x7b*a($x)<-b($x,hex:)@$x<=\"2017-01-01T00:59:60.5+01:00\"\x7d" ++
        "caveats\x7b[*q()<-c($y)@$y in[2,-1]]\x7d\x7d") = .ok [⟨"a", [r], [c]⟩] ∧
      compileDocument (singletonDocument "rules" r.text) = .ok [⟨"p", [r], []⟩] ∧
      compileDocument (singletonDocument "caveats" c.text) = .ok [⟨"p", [], [c]⟩] := by
  let rule : Source.Rule := ⟨[], ⟨"a", [.var "x"]⟩, [⟨"b", [.var "x", .literal (.bytes [])]⟩],
    [.compare "x" .lessOrEqual (.string "2017-01-01T00:59:60.5+01:00")]⟩
  let query : Source.Rule :=
    ⟨[], ⟨"q", []⟩, [⟨"c", [.var "y"]⟩], [.member "y" false (.integer 2) [.integer (-1)]]⟩
  let tree : Document := ⟨[⟨[], "a", 0, some ⟨[rule], []⟩, some ⟨[⟨[], [query]⟩], []⟩⟩], []⟩
  let leap : Time.Instant := ⟨1483228799, 1500000000, by decide⟩
  let r : Rule := ⟨⟨"a", [.var 0]⟩, [⟨"b", [.var 0, .atom (.bytes [])]⟩], [⟨0, .date .before leap⟩]⟩
  let c : Caveat := ⟨[⟨⟨"q", []⟩, [⟨"c", [.var 1]⟩], [⟨1, .integerIn (.ofList [2, -1]) false⟩]⟩]⟩
  have dates : r.HasFourDigitYears := by
    intro x hx test t ht
    obtain rfl := List.mem_singleton.mp hx
    cases ht
    show 0 ≤ leap.clock.date.year ∧ leap.clock.date.year ≤ 9999
    decide
  have noDates : c.HasFourDigitYears := by
    intro q hq x hx test t ht
    obtain rfl := List.mem_singleton.mp hq
    obtain rfl := List.mem_singleton.mp hx
    cases ht
  have compiled {document : String} (kinds : (Source.tokenize document).map (List.map Source.Token.kind) =
      .ok (tree.tokens ++ [.endOfDocument])) : compileDocument document = .ok [⟨"a", [r], [c]⟩] := by
    obtain ⟨d, read, same⟩ := Document.exists_ofText kinds (by decide)
    have policies : d.numbered.withoutOffsets.policies = tree.numbered.withoutOffsets.policies := by
      rw [← numbered_withoutOffsets, same, numbered_withoutOffsets]
    rw [compileDocument_of_ofText read, ← lowerAll_withoutOffset]
    show Policy.lowerAll [] d.numbered.withoutOffsets.policies = _
    rw [policies]
    decide +kernel
  have again {document : String} (h : compileDocument document = .ok [⟨"a", [r], [c]⟩]) :
      compileDocument document = .ok [⟨"a", [r], [c]⟩] ∧
        compileDocument (singletonDocument "rules" r.text) = .ok [⟨"p", [r], []⟩] ∧
        compileDocument (singletonDocument "caveats" c.text) = .ok [⟨"p", [], [c]⟩] := by
    have display := compileDocument_display h List.mem_cons_self
    exact ⟨h, display.1 r List.mem_cons_self dates, display.2 c List.mem_cons_self noDates⟩
  exact ⟨r, c, by decide +kernel, by decide +kernel, again (compiled (by decide +kernel))⟩

end PolicyGate
