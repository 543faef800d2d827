import PolicyGate.Proofs.Source.Recognition
import PolicyGate.Proofs.Source.RoundTrip

/-!
# The documents that are accepted

Each reader of the grammar recognizes its rule. A tokenized text is therefore read exactly if its
significant tokens are a sentence of the grammar, and is refused at the first token with which they cannot
begin a sentence any more.
-/

namespace PolicyGate.Source

open Computability

namespace Parser

/-! ## Predicates and constraints -/

theorem noMore_comma {k : TokenKind} (h : k ≠ .comma) : NoMore .comma Anything k :=
  ⟨h, trivial⟩

theorem recognizes_terms (c : Cursor) :
    terms.Recognizes c (Grammar.opt (Grammar.list .comma Grammar.term)) (· = .rightParen) := by
  unfold terms
  refine .look (recognizes_if Cursor.sees_eq_true (fun close => ?_) fun more => ?_)
  · refine (recognizes_pure [] c).left ((refuses_oneOf ?_).mul _)
    rintro ⟨t, ht⟩
    rw [close] at ht
    cases t with
    | var name => cases ht
    | literal v => cases v <;> cases ht
  · have list := recognizes_separated .comma recognizes_term (by simp) trivial TokenKind.noConfusion c
    refine (list.mono ?_).present more
    rintro _ rfl
    exact noMore_comma TokenKind.noConfusion

theorem recognizes_predicate (c : Cursor) : predicate.Recognizes c Grammar.predicate Anything := by
  unfold predicate Grammar.predicate
  simp only [mul_assoc]
  refine .look ?_
  split
  · next name h =>
    refine (recognizes_advance h TokenKind.noConfusion ⟨name, rfl⟩).then (fun _ d => ?_) (by simp)
    refine (recognizes_expect TokenKind.noConfusion d).then (fun _ d => ?_) (by simp)
    refine (recognizes_terms d).bind (fun ts d _ => ?_) (by simp) fun n _ => starts_oneOf (fun _ e => e) n
    exact (recognizes_expect TokenKind.noConfusion d).map _
  · next h =>
    refine recognizes_fail (by simp) ((refuses_oneOf ?_).mul _)
    rintro ⟨name, hn⟩
    exact h name hn

theorem names_eq : Grammar.word "prefix" + Grammar.word "suffix" + Grammar.word "match" =
    oneOf fun k => ∃ f : StringTest, k = .identifier f.text := by
  ext ks
  constructor
  · rintro ((⟨_, rfl, rfl⟩ | ⟨_, rfl, rfl⟩) | ⟨_, rfl, rfl⟩)
    · exact ⟨_, ⟨.startsWith, rfl⟩, rfl⟩
    · exact ⟨_, ⟨.endsWith, rfl⟩, rfl⟩
    · exact ⟨_, ⟨.fits, rfl⟩, rfl⟩
  · rintro ⟨_, ⟨f, rfl⟩, rfl⟩
    cases f
    · exact .inl (.inl ⟨_, rfl, rfl⟩)
    · exact .inl (.inr ⟨_, rfl, rfl⟩)
    · exact .inr ⟨_, rfl, rfl⟩

theorem recognizes_stringTest {c : Cursor} {name : String} (h : c.peek.kind = .identifier name) :
    (stringTest name).Recognizes c Grammar.stringTest Anything := by
  unfold stringTest Grammar.stringTest
  rw [names_eq]
  simp only [mul_assoc]
  cases hf : StringTest.ofName? name with
  | none =>
    refine recognizes_fail ?_ ((refuses_oneOf ?_).mul _)
    · have word : HasWord (oneOf fun k => ∃ f : StringTest, k = .identifier f.text) :=
        hasWord_oneOf ⟨.startsWith, rfl⟩
      simp [word]
    · rintro ⟨f, hn⟩
      rw [h] at hn
      cases hn
      rw [ofName?_text] at hf
      cases hf
  | some f =>
    have named : TokenKind.identifier name = .identifier f.text := congrArg _ (text_of_ofName? hf)
    refine (recognizes_advance h TokenKind.noConfusion ⟨f, named⟩).then (fun _ d => ?_) (by simp)
    refine (recognizes_expect TokenKind.noConfusion d).then (fun _ d => ?_) (by simp)
    refine (recognizes_variableName _ d).then (fun _ d => ?_) (by simp)
    refine (recognizes_expect TokenKind.noConfusion d).then (fun _ d => ?_) (by simp)
    refine (recognizes_stringContent _ d).then (fun _ d => ?_) (by simp)
    exact (recognizes_expect TokenKind.noConfusion d).map _

theorem recognizes_membershipWord (c : Cursor) :
    membershipWord.Recognizes c (Grammar.opt (Grammar.word "not") * Grammar.word "in") Anything := by
  unfold membershipWord
  rw [opt_mul]
  refine .look (recognizes_if Cursor.seesWord_eq_true (fun negated => ?_) fun notNegated => ?_)
  · have both := (recognizes_tok negated TokenKind.noConfusion).then
      (fun _ d => (recognizes_expectWord "in" d).map fun _ => true) (by simp)
    refine both.right (refuses_tok ?_)
    rw [negated]
    simp
  have refused : Refuses (Grammar.word "not" * Grammar.word "in") c.peek.kind :=
    (refuses_tok notNegated).mul _
  refine recognizes_if Cursor.seesWord_eq_true (fun plain => ?_) fun other => ?_
  · exact ((recognizes_tok plain TokenKind.noConfusion).map fun _ => false).left refused
  · exact recognizes_fail (by simp) (.add (refuses_tok other) refused)

theorem recognizes_set (c : Cursor) : set.Recognizes c Grammar.set Anything := by
  unfold set Grammar.set Grammar.list
  simp only [mul_assoc]
  refine (recognizes_expect TokenKind.noConfusion c).then (fun _ d => ?_) (by simp)
  refine (recognizes_literal _ d).then (fun _ d => ?_) (by simp)
  have others := recognizes_others .comma (recognizes_literal .literal) (by simp) trivial
    TokenKind.noConfusion d
  refine others.bind (fun _ d _ => ?_) (by simp) fun n _ => starts_tok (noMore_comma TokenKind.noConfusion) n
  exact (recognizes_expect TokenKind.noConfusion d).map _

theorem recognizes_relation (subject : String) (c : Cursor) :
    (relation subject).Recognizes c Grammar.relation Anything := by
  unfold relation Grammar.relation
  refine .look ?_
  cases h : comparison? c.peek.kind with
  | some op =>
    have kind := comparison?_eq_some.mp h
    have here : op.token ≠ .endOfDocument := by cases op <;> exact TokenKind.noConfusion
    have noWord (w : String) : c.peek.kind ≠ .identifier w := by
      rw [kind]
      cases op <;> exact TokenKind.noConfusion
    refine ((recognizes_advance kind here ⟨op, rfl⟩).then (fun _ d => ?_) (by simp)).left ?_
    · exact (recognizes_literal _ d).map _
    · exact (Refuses.opt (refuses_tok (noWord _)) (refuses_tok (noWord _))).mul _
  | none =>
    refine ((recognizes_membershipWord c).then (fun _ d => ?_) (by simp)).right ((refuses_oneOf ?_).mul _)
    · exact (recognizes_set d).map _
    · rintro ⟨op, hop⟩
      rw [comparison?_eq_some.mpr hop] at h
      cases h

theorem recognizes_constraint (c : Cursor) : constraint.Recognizes c Grammar.constraint Anything := by
  unfold constraint Grammar.constraint
  refine .look ?_
  split
  · next name h =>
    refine (recognizes_stringTest h).right ((refuses_oneOf ?_).mul _)
    rintro ⟨x, hx⟩
    rw [h] at hx
    cases hx
  · next h =>
    refine ((recognizes_variableName _ c).then (fun x d => recognizes_relation x d) (by simp)).left ?_
    unfold Grammar.stringTest
    rw [names_eq]
    simp only [mul_assoc]
    refine (refuses_oneOf ?_).mul _
    rintro ⟨f, hf⟩
    exact h _ hf

/-! ## Rules and caveats -/

theorem recognizes_constraints (c : Cursor) :
    constraints.Recognizes c (Grammar.opt (Grammar.tok .atSign * Grammar.list .comma Grammar.constraint))
      EndsRule := by
  unfold constraints
  refine .look (recognizes_if Cursor.sees_eq_true (fun more => ?_) fun none => ?_)
  · refine Recognizes.present ?_ fun ends => ends.2 more
    refine (recognizes_tok more TokenKind.noConfusion).then (fun _ d => ?_) (by simp)
    have list := recognizes_separated .comma recognizes_constraint (by simp) trivial TokenKind.noConfusion d
    exact list.mono fun k hk => noMore_comma hk.1
  · exact (recognizes_pure [] c).left ((refuses_tok none).mul _)

theorem recognizes_rule (c : Cursor) : rule.Recognizes c Grammar.rule EndsRule := by
  unfold rule ruleBody Grammar.rule
  simp only [mul_assoc]
  refine (recognizes_expect TokenKind.noConfusion c).then (fun _ d => ?_) (by simp)
  refine (recognizes_predicate d).then (fun head d => ?_) (by simp)
  refine (recognizes_expect TokenKind.noConfusion d).then (fun _ d => ?_) (by simp)
  have body := recognizes_separated .comma recognizes_predicate (by simp) trivial TokenKind.noConfusion d
  refine body.bind (fun body d _ => (recognizes_constraints d).map _) (by simp) fun n hn => ?_
  refine .opt (fun k ks hk => noMore_comma (hn k ks hk).1) ?_
  rw [mul_assoc]
  exact starts_tok (noMore_comma TokenKind.noConfusion) _

theorem recognizes_caveatList (c : Cursor) : caveatList.Recognizes c Grammar.caveat Anything := by
  unfold caveatList caveatQueries Grammar.caveat
  simp only [mul_assoc]
  refine (recognizes_delimiter TokenKind.noConfusion _ c).then (fun _ d => ?_) (by simp)
  have queries := recognizes_separated .or recognizes_rule (by simp)
    ⟨TokenKind.noConfusion, TokenKind.noConfusion⟩ TokenKind.noConfusion d
  refine queries.bind (fun queries d _ => (recognizes_expect TokenKind.noConfusion d).map _) (by simp)
    fun n _ => starts_tok ?_ n
  exact ⟨TokenKind.noConfusion, TokenKind.noConfusion, TokenKind.noConfusion⟩

/-! ## Blocks -/

theorem recognizes_takeComments {after : TokenKind → Prop} (c : Cursor) :
    takeComments.Recognizes c 1 after :=
  recognizes_nothing rfl c.takeComments_tokens

theorem recognizes_takeHoisted {after : TokenKind → Prop} (c : Cursor) : takeHoisted.Recognizes c 1 after :=
  recognizes_nothing rfl rfl

theorem recognizes_commentedRule (c : Cursor) : commentedRule.Recognizes c Grammar.rule EndsRule := by
  unfold commentedRule
  refine Recognizes.silent (recognizes_takeComments c) (fun comments d _ => ?_) (by simp)
  exact (recognizes_rule d).done fun r d => (recognizes_takeHoisted d).map _

/-- What may stand in front of a caveat of a block. -/
def beforeCaveat (isFirst : Bool) : Language TokenKind :=
  if isFirst then 1 else Grammar.opt (Grammar.tok .comma)

theorem recognizes_caveatSeparator (isFirst : Bool) (c : Cursor) :
    (caveatSeparator isFirst).Recognizes c (beforeCaveat isFirst) (· ≠ .comma) := by
  unfold caveatSeparator
  refine .look ?_
  cases isFirst with
  | true => exact recognizes_pure [] c
  | false =>
    rw [Bool.not_false, Bool.true_and]
    refine recognizes_if Cursor.sees_eq_true (fun comma => ?_) fun none => ?_
    · refine Recognizes.present ?_ fun e => e comma
      refine (recognizes_tok comma TokenKind.noConfusion).done fun _ d => ?_
      refine (recognizes_takeHoisted d).done fun hoisted d => ?_
      exact (recognizes_takeComments d).map _
    · exact (recognizes_pure [] c).left (refuses_tok none)

theorem recognizes_commentedCaveat (isFirst : Bool) (c : Cursor) :
    (commentedCaveat isFirst).Recognizes c (beforeCaveat isFirst * Grammar.caveat) Anything := by
  unfold commentedCaveat
  have word : HasWord (beforeCaveat isFirst * Grammar.caveat) := by
    cases isFirst <;> simp [beforeCaveat]
  refine Recognizes.silent (recognizes_takeComments c) (fun comments d _ => ?_) word
  refine (recognizes_caveatSeparator isFirst d).bind (fun around d _ => ?_) (by simp) fun n _ => ?_
  · exact (recognizes_caveatList d).done fun queries d => (recognizes_takeHoisted d).map _
  · rw [Grammar.caveat, mul_assoc, mul_assoc]
    exact starts_tok TokenKind.noConfusion _

def blockRest (item : Bool → Language TokenKind) (isFirst : Bool) : Language TokenKind :=
  Grammar.opt (item isFirst * (item false)∗) * Grammar.tok .rightBrace

theorem rules_eq : Grammar.rules = blockRest (fun _ => Grammar.rule) true := by
  rw [blockRest, Grammar.opt, Language.one_add_self_mul_kstar_eq_kstar, Grammar.rules]

theorem caveats_eq :
    Grammar.caveats = blockRest (fun isFirst => beforeCaveat isFirst * Grammar.caveat) true := by
  simp only [blockRest, beforeCaveat, if_true, one_mul]
  rfl

section
variable {α : Type} {item : Bool → Parser α} {progresses : ∀ b, (item b).Progresses}
  {l : Bool → Language TokenKind} {afterItem : TokenKind → Prop}

theorem starts_blockRest (hl : ∀ n, Starts (l false * n) afterItem) (close : afterItem .rightBrace)
    (n : Language TokenKind) : Starts (blockRest l false * n) afterItem := by
  rw [blockRest, mul_assoc]
  refine .opt (starts_tok close n) ?_
  rw [mul_assoc]
  exact hl _

/-- The end of a block: the comments in front of the brace stay in the block. -/
theorem recognizes_close {c : Cursor} (close : c.peek.kind = .rightBrace) :
    (do
      let comments ← takeComments
      advance
      return ⟨[], comments⟩ : Parser (Block α)).Recognizes c (Grammar.tok .rightBrace) Anything := by
  refine Recognizes.silent (recognizes_takeComments c) (fun comments d taken => ?_) (by simp)
  have same : d.tokens = c.tokens := by rw [← c.takeComments_tokens, takeComments_ok.mp taken]
  have next : d.peek.kind = .rightBrace := by rw [d.peek_eq, same, ← c.peek_eq, close]
  exact (recognizes_tok next TokenKind.noConfusion).map _

theorem recognizes_blockAt (hi : ∀ b c, (item b).Recognizes c (l b) afterItem)
    (hl : ∀ n, Starts (l false * n) afterItem) (close : afterItem .rightBrace)
    (inside : ∀ b, Refuses (l b) .rightBrace) (isFirst : Bool) (c : Cursor) :
    (blockAt item progresses isFirst).Recognizes c (blockRest l isFirst) Anything := by
  induction hn : c.ahead.length using Nat.strong_induction_on generalizing c isFirst with
  | _ n ih =>
  rw [blockRest, opt_mul]
  by_cases closed : c.sees .rightBrace = true
  · have kind := Cursor.sees_eq_true.mp closed
    refine Recognizes.congr ((recognizes_close kind).left ?_) (blockAt_run_close closed)
    rw [kind]
    exact ((inside isFirst).mul _).mul _
  · refine Recognizes.congr (Recognizes.right ?_ ?_) (blockAt_run_item closed)
    · -- behind the first item stands the rest of a block again
      have rest : (l false)∗ * Grammar.tok .rightBrace = blockRest l false := by
        rw [blockRest, Grammar.opt, Language.one_add_self_mul_kstar_eq_kstar]
      rw [mul_assoc, rest]
      refine (hi isFirst c).bind (fun x d read => ?_) (by simp [blockRest])
        fun n _ => starts_blockRest hl close n
      exact (ih _ (hn ▸ progresses _ _ _ _ read) false d rfl).map _
    · exact refuses_tok fun e => closed (Cursor.sees_eq_true.mpr e)

theorem recognizes_optionalBlock (name : String) {contents : Parser (Block α)} {m : Language TokenKind}
    (h : ∀ c, contents.Recognizes c m Anything) (word : HasWord m) (c : Cursor) :
    (optionalBlock name contents).Recognizes c
      (Grammar.opt (Grammar.word name * (Grammar.tok .leftBrace * m))) (· ≠ .identifier name) := by
  unfold optionalBlock
  refine .look (recognizes_if Cursor.seesWord_eq_true (fun there => ?_) fun none => ?_)
  · refine Recognizes.present ?_ fun e => e there
    refine (recognizes_tok there TokenKind.noConfusion).then (fun _ d => ?_) (by simp [word])
    refine (recognizes_expect TokenKind.noConfusion d).then (fun _ d => ?_) word
    exact ((h d).map _).mono fun _ _ => trivial
  · exact (recognizes_pure _ c).left ((refuses_tok none).mul _)

end

theorem recognizes_ruleBlock (c : Cursor) :
    (block (fun _ => commentedRule) fun _ => progresses_commentedRule).Recognizes c Grammar.rules
      Anything := by
  rw [rules_eq]
  refine recognizes_blockAt (fun _ => recognizes_commentedRule) (fun n => ?_) ?_ (fun _ => ?_) true c
  · simp only [Grammar.rule, mul_assoc]
    exact starts_tok ⟨TokenKind.noConfusion, TokenKind.noConfusion⟩ _
  · exact ⟨TokenKind.noConfusion, TokenKind.noConfusion⟩
  · simp only [Grammar.rule, mul_assoc]
    exact (refuses_tok TokenKind.noConfusion).mul _

theorem recognizes_caveatBlock (c : Cursor) :
    (block commentedCaveat progresses_commentedCaveat).Recognizes c Grammar.caveats Anything := by
  rw [caveats_eq]
  refine recognizes_blockAt recognizes_commentedCaveat (fun _ _ _ _ => trivial) trivial
    (fun isFirst => ?_) true c
  · have caveat : Refuses Grammar.caveat .rightBrace := by
      simp only [Grammar.caveat, mul_assoc]
      exact (refuses_tok TokenKind.noConfusion).mul _
    cases isFirst with
    | true => rwa [beforeCaveat, if_pos rfl, one_mul]
    | false => exact Refuses.opt (refuses_tok TokenKind.noConfusion) caveat

theorem recognizes_policy (c : Cursor) : policy.Recognizes c Grammar.policy Anything := by
  unfold policy policyBody Grammar.policy
  simp only [mul_assoc]
  refine Recognizes.silent (recognizes_takeComments c) (fun comments d _ => ?_) (by simp [Grammar.caveats])
  refine (recognizes_expectWord _ d).then (fun offset d => ?_) (by simp)
  refine (recognizes_stringContent _ d).then (fun name d => ?_) (by simp)
  refine (recognizes_expect TokenKind.noConfusion d).then (fun _ d => ?_) (by simp)
  have rules := recognizes_optionalBlock "rules" recognizes_ruleBlock (by simp [Grammar.rules]) d
  refine rules.bind (fun rules d _ => ?_) (by simp) fun n _ => ?_
  · have caveats := recognizes_optionalBlock "caveats" recognizes_caveatBlock (by simp [Grammar.caveats]) d
    refine caveats.bind (fun caveats d _ => ?_) (by simp) fun n _ => starts_tok TokenKind.noConfusion n
    refine (recognizes_delimiter TokenKind.noConfusion _ d).done fun _ d => ?_
    exact (recognizes_takeHoisted d).map _
  · simp only [mul_assoc]
    refine .opt (starts_tok TokenKind.noConfusion n) ?_
    rw [mul_assoc]
    exact starts_tok (by simp) _

/-! ## Documents -/

/-- The tokens ahead are the rest of a tokenized text. -/
def Whole (c : Cursor) : Prop :=
  ∃ ts t, c.tokens = ts ++ [t] ∧ t.kind = .endOfDocument ∧ ∀ u ∈ ts, u.kind ≠ .endOfDocument

theorem Whole.takes {c d : Cursor} {us : List Token} (h : Whole c) (takes : c.Takes us d) : Whole d := by
  obtain ⟨ts, t, tokens, last, inside⟩ := h
  rw [takes.tokens] at tokens
  rcases List.append_eq_append_iff.mp tokens with ⟨vs, rfl, hd⟩ | ⟨vs, rfl, hd⟩
  · exact ⟨vs, t, hd, last, fun u hu => inside u (List.mem_append_right us hu)⟩
  · cases vs with
    | nil => exact ⟨[], t, hd.symm, last, fun u hu => (by cases hu)⟩
    | cons v vs =>
      -- the end of the document would have been passed
      obtain ⟨rfl, -⟩ := List.cons_eq_cons.mp hd
      exact absurd last (takes.inside t (by simp))

theorem Whole.peek {c : Cursor} (h : Whole c) : ∃ ts, c.tokens = c.peek :: ts ∧
    (c.peek.kind = .endOfDocument → ts = []) := by
  obtain ⟨ts, t, tokens, last, inside⟩ := h
  rw [c.peek_eq, tokens]
  cases ts with
  | nil => exact ⟨[], rfl, fun _ => rfl⟩
  | cons u us => exact ⟨us ++ [t], rfl, fun e => absurd e (inside u List.mem_cons_self)⟩

theorem mem_sentence_of_policy {ks ls : List TokenKind} (hk : ks ∈ Grammar.policy)
    (hl : ls ∈ Grammar.sentence) : ks ++ ls ∈ Grammar.sentence := by
  rw [Grammar.sentence, Grammar.document, kstar_mul]
  exact .inr (Language.append_mem_mul hk hl)

theorem policy_of_mem_sentence {k : TokenKind} {ks : List TokenKind} (h : k :: ks ∈ Grammar.sentence)
    (hk : k ≠ .endOfDocument) : k :: ks ∈ Grammar.policy * Grammar.sentence := by
  rw [Grammar.sentence, Grammar.document, kstar_mul] at h
  rcases h with ⟨k', rfl, e⟩ | h
  · cases e
    exact absurd rfl hk
  · exact h

theorem end_mem_sentence : [TokenKind.endOfDocument] ∈ Grammar.sentence := by
  rw [Grammar.sentence, Grammar.document, kstar_mul]
  exact .inl ⟨_, rfl, rfl⟩

theorem documentFrom_ok {c : Cursor} {d : Document} (h : documentFrom c = .ok d) (whole : Whole c) :
    c.tokens.map Token.kind ∈ Grammar.sentence := by
  fun_induction documentFrom c generalizing d with
  | case1 c close =>
    obtain ⟨ts, tokens, last⟩ := whole.peek
    have kind := Cursor.sees_eq_true.mp close
    rw [tokens, last kind, List.map_singleton, kind]
    exact end_mem_sentence
  | case2 => cases h
  | case3 => cases h
  | case4 c close p c' read doc rest ih =>
    obtain ⟨us, takes, mem, -⟩ := (recognizes_policy c).ok read
    rw [takes.tokens, List.map_append]
    exact mem_sentence_of_policy mem (ih rest (whole.takes takes))

theorem documentFrom_error {c : Cursor} {e : SyntaxError} (h : documentFrom c = .error e) :
    ∃ us d, c.Takes us d ∧ e.offset = d.peek.offset ∧ Viable (us.map Token.kind) ∧
      ∀ ks, us.map Token.kind ++ d.peek.kind :: ks ∉ Grammar.sentence := by
  fun_induction documentFrom c with
  | case1 => cases h
  | case2 c close e' read =>
    cases h
    have kind : c.peek.kind ≠ .endOfDocument := fun k => close (Cursor.sees_eq_true.mpr k)
    obtain ⟨us, d, takes, place, ⟨ks, viable⟩, never⟩ := (recognizes_policy c).error read
    refine ⟨us, d, takes, place, ⟨ks ++ [.endOfDocument], ?_⟩, fun ks hk => ?_⟩
    · rw [← List.append_assoc]
      exact mem_sentence_of_policy viable end_mem_sentence
    · obtain ⟨ls, next⟩ := takes.next ks
      refine never Grammar.sentence ks (fun _ _ _ => trivial) ?_
      rw [next] at hk ⊢
      exact policy_of_mem_sentence hk kind
  | case3 c close p c' read e' rest ih =>
    cases h
    have kind : c.peek.kind ≠ .endOfDocument := fun k => close (Cursor.sees_eq_true.mpr k)
    obtain ⟨us, takes, mem, exact⟩ := (recognizes_policy c).ok read
    obtain ⟨vs, d, takes', place, ⟨ks, viable⟩, never⟩ := ih rest
    refine ⟨us ++ vs, d, takes.trans takes', place, ⟨ks, ?_⟩, fun ks hk => ?_⟩
    · rw [List.map_append, List.append_assoc]
      exact mem_sentence_of_policy mem viable
    · obtain ⟨ls, next⟩ := (takes.trans takes').next ks
      rw [next] at hk
      have whole := policy_of_mem_sentence hk kind
      rw [← next] at whole
      exact never ks (takes'.behind (fun ls => exact Grammar.sentence ls fun _ _ _ => trivial) whole)
  | case4 => cases h

end Parser

/-- With the token `t` these tokens first cannot begin a sentence. -/
def StopsAt (ts : List Token) (t : Token) : Prop :=
  ∃ before behind, ts = before ++ t :: behind ∧ Viable (before.map Token.kind) ∧
    ¬Viable (before.map Token.kind ++ [t.kind])

section
variable {document : String} {ts : List Token}

theorem whole_of_tokenize (h : tokenize document = .ok ts) : Parser.Whole ⟨lexemes [] ts, []⟩ := by
  obtain ⟨ks, kinds, spells⟩ := spells_of_tokenize h
  obtain ⟨us, vs, rfl, hus, hvs⟩ := List.map_eq_append_iff.mp kinds
  obtain ⟨t, rfl, ht⟩ := List.map_eq_singleton_iff.mp hvs
  refine ⟨significantTokens us, t, ?_, ht, fun u hu e => ?_⟩
  · rw [Cursor.tokens, lexemes_tokens]
    simp [significantTokens, ht, TokenKind.isComment]
  · have written : u.kind ∈ ks := hus ▸ List.mem_map_of_mem (List.mem_filter.mp hu).1
    rw [e] at written
    exact spells.written _ written

theorem ofText_of_tokenize (h : tokenize document = .ok ts) :
    Document.ofText document = Parser.documentFrom ⟨lexemes [] ts, []⟩ := by
  rw [Document.ofText, h]
  rfl

theorem mem_sentence_of_ofText (h : tokenize document = .ok ts) {d : Document}
    (read : Document.ofText document = .ok d) :
    (significantTokens ts).map Token.kind ∈ Grammar.sentence := by
  rw [ofText_of_tokenize h] at read
  rw [← lexemes_tokens []]
  exact Parser.documentFrom_ok read (whole_of_tokenize h)

theorem stopsAt_of_ofText (h : tokenize document = .ok ts) {e : SyntaxError}
    (refused : Document.ofText document = .error e) :
    ∃ t, StopsAt (significantTokens ts) t ∧ e.offset = t.offset := by
  rw [ofText_of_tokenize h] at refused
  obtain ⟨us, d, takes, place, viable, never⟩ := Parser.documentFrom_error refused
  obtain ⟨vs, ahead, -⟩ := ((whole_of_tokenize h).takes takes).peek
  refine ⟨d.peek, ⟨us, vs, ?_, viable, ?_⟩, place⟩
  · rw [← ahead, ← takes.tokens, Cursor.tokens, lexemes_tokens]
  · rintro ⟨ks, hk⟩
    rw [List.append_assoc] at hk
    exact never ks hk

theorem StopsAt.not_mem_sentence {t : Token} (h : StopsAt ts t) : ts.map Token.kind ∉ Grammar.sentence := by
  obtain ⟨before, behind, rfl, -, never⟩ := h
  intro hk
  refine never ⟨behind.map Token.kind, ?_⟩
  simpa using hk

theorem exists_ofText_of_kinds {document' : String} {ts' : List Token} (h : tokenize document = .ok ts)
    (h' : tokenize document' = .ok ts')
    (same : (significantTokens ts').map Token.kind = (significantTokens ts).map Token.kind) {d : Document}
    (read : Document.ofText document = .ok d) :
    ∃ d', Document.ofText document' = .ok d' ∧ d.Agrees AnyComments d' := by
  obtain ⟨ks, kinds, spells⟩ := spells_of_tokenize h
  obtain ⟨ks', kinds', -⟩ := spells_of_tokenize h'
  have significant : withoutComments ks' = withoutComments ks := by
    rw [significantTokens_kinds, significantTokens_kinds, kinds, kinds'] at same
    simpa [withoutComments, TokenKind.isComment] using same
  rw [ofText_of_tokenize h] at read
  obtain ⟨ok, written, -⟩ := Document.sound_of_ofTokens read kinds fun he => spells.written _ he
  rw [ofText_of_tokenize h']
  exact Document.ofTokens_significant kinds' ok (significant ▸ written)

/-- A tokenized text is accepted exactly if it is a sentence of the grammar, and refused at the first
token that no sentence has there. Texts that differ in their comments and layout have the same tree. -/
theorem Document.ofText_recognizes (h : tokenize document = .ok ts) :
    ((∃ d, Document.ofText document = .ok d) ↔ (significantTokens ts).map Token.kind ∈ Grammar.sentence) ∧
      (∀ e, Document.ofText document = .error e →
        ∃ t, StopsAt (significantTokens ts) t ∧ e.offset = t.offset) ∧
      ∀ document' ts', tokenize document' = .ok ts' →
        (significantTokens ts').map Token.kind = (significantTokens ts).map Token.kind →
        ∀ d, Document.ofText document = .ok d →
          ∃ d', Document.ofText document' = .ok d' ∧ d.Agrees AnyComments d' := by
  refine ⟨⟨?_, fun sentence => ?_⟩, fun e refused => stopsAt_of_ofText h refused, ?_⟩
  · rintro ⟨d, read⟩
    exact mem_sentence_of_ofText h read
  · cases read : Document.ofText document with
    | ok d => exact ⟨d, rfl⟩
    | error e =>
      obtain ⟨t, stops, -⟩ := stopsAt_of_ofText h read
      exact absurd sentence stops.not_mem_sentence
  · exact fun document' ts' h' same d read => exists_ofText_of_kinds h h' same read

theorem Document.ofText_recognizes_block :
    (∃ ts, tokenize "policy \"p\"\x7brules//c\n\x7d" = .ok ts ∧
      (significantTokens ts).map Token.kind ∉ Grammar.sentence ∧
      ∃ t, StopsAt (significantTokens ts) t ∧ t.offset = 20) ∧
    ∃ ts, tokenize "policy \"p\"//c\n\x7b\x7d" = .ok ts ∧
      (significantTokens ts).map Token.kind ∈ Grammar.sentence ∧
      ∃ d, Document.ofText "policy\"p\"\x7b\x7d" = .ok d ∧
        Document.Agrees AnyComments ⟨[⟨["//c"], "p", 0, none, none⟩], []⟩ d := by
  constructor
  · have tokens : tokenize "policy \"p\"\x7brules//c\n\x7d" = .ok [⟨.identifier "policy", 0⟩, ⟨.string "p", 7⟩,
        ⟨.leftBrace, 10⟩, ⟨.identifier "rules", 11⟩, ⟨.comment "//c", 16⟩, ⟨.rightBrace, 20⟩,
        ⟨.endOfDocument, 21⟩] := by decide +kernel
    have refused : Document.ofText "policy \"p\"\x7brules//c\n\x7d" =
        .error ⟨20, .unexpectedToken (.token .leftBrace) .rightBrace⟩ := by decide +kernel
    obtain ⟨accepted, stops, -⟩ := Document.ofText_recognizes tokens
    obtain ⟨t, stop, place⟩ := stops _ refused
    refine ⟨_, tokens, fun sentence => ?_, t, stop, place.symm⟩
    obtain ⟨d, read⟩ := accepted.mpr sentence
    rw [refused] at read
    cases read
  · have tokens : tokenize "policy \"p\"//c\n\x7b\x7d" = .ok [⟨.identifier "policy", 0⟩, ⟨.string "p", 7⟩,
        ⟨.comment "//c", 10⟩, ⟨.leftBrace, 14⟩, ⟨.rightBrace, 15⟩, ⟨.endOfDocument, 16⟩] := by decide +kernel
    have tokens' : tokenize "policy\"p\"\x7b\x7d" = .ok [⟨.identifier "policy", 0⟩, ⟨.string "p", 6⟩,
        ⟨.leftBrace, 9⟩, ⟨.rightBrace, 10⟩, ⟨.endOfDocument, 11⟩] := by decide +kernel
    have read : Document.ofText "policy \"p\"//c\n\x7b\x7d" =
        .ok ⟨[⟨["//c"], "p", 0, none, none⟩], []⟩ := by decide +kernel
    obtain ⟨accepted, -, same⟩ := Document.ofText_recognizes tokens
    exact ⟨_, tokens, accepted.mp ⟨_, read⟩, same _ _ tokens' rfl _ read⟩

end
end PolicyGate.Source
