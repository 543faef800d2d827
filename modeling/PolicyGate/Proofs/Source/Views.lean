import PolicyGate.Proofs.Source.Blocks

/-!
# Whatever is written as the grammar says is read

A `View` says which tokens a cursor shows: all of them, as in canonical layout, or only the significant
ones. Whatever is written as the grammar says is read as a tree that agrees with the one written but for
offsets, and for comments where the view leaves them out: `Document.ofTokens_significant` and
`Document.ofTokens_tokens`.
-/

namespace PolicyGate.Source

structure View where
  shows : Cursor → List TokenKind → Prop
  write : List String → List TokenKind
  same : List String → List String → Prop
  write_nil : write [] = []
  same_nil : same [] []
  same_append : ∀ {cs cs' ds ds'}, same cs cs' → same ds ds' → same (cs ++ ds) (cs' ++ ds')
  advance : ∀ {c k ks}, shows c (k :: ks) → k.isComment = false → c.peek.kind = k ∧ shows c.advance ks
  takeComments : ∀ {c cs k ks}, shows c (write cs ++ k :: ks) → k.isComment = false →
    c.peek.kind = k ∧ ∃ ds d, c.takeComments = (ds, d) ∧ same cs ds ∧ shows d (k :: ks)
  takeHoisted : ∀ {c ks}, shows c ks → ∃ ds d, c.takeHoisted = (ds, d) ∧ same [] ds ∧ shows d ks

/-! ## Trees that agree -/

section
variable (same : List String → List String → Prop)

def Rule.Agrees (r r' : Rule) : Prop :=
  ∃ cs, same r.comments cs ∧ r' = { r with comments := cs }

def Caveat.Agrees (c c' : Caveat) : Prop :=
  same c.comments c'.comments ∧ c'.queries = c.queries

def Block.Agrees {α : Type} (item : α → α → Prop) (b b' : Block α) : Prop :=
  List.Forall₂ item b.items b'.items ∧ same b.trailingComments b'.trailingComments

structure Policy.Agrees (p p' : Policy) : Prop where
  comments : same p.comments p'.comments
  name : p'.name = p.name
  rules : Option.Rel (Block.Agrees same (Rule.Agrees same)) p.rules p'.rules
  caveats : Option.Rel (Block.Agrees same (Caveat.Agrees same)) p.caveats p'.caveats

def Document.Agrees (d d' : Document) : Prop :=
  List.Forall₂ (Policy.Agrees same) d.policies d'.policies ∧ same d.trailingComments d'.trailingComments

end

/-! ## Completeness -/

theorem Significant.not_comment {k : TokenKind} (h : k.isSignificant = true) : k.isComment = false := by
  cases k <;> first | rfl | cases h

namespace View

variable (v : View)

def Leads (ks : List TokenKind) (stops : TokenKind → Prop) : Prop :=
  ∀ c, v.shows c ks → stops c.peek.kind

variable {v}

theorem leads_comments {cs : List String} {k : TokenKind} {ks : List TokenKind}
    {stops : TokenKind → Prop} (hk : k.isComment = false) (h : stops k) :
    v.Leads (v.write cs ++ k :: ks) stops := by
  intro c hc
  rw [(v.takeComments hc hk).1]
  exact h

theorem leads_cons {k : TokenKind} {ks : List TokenKind} {stops : TokenKind → Prop}
    (hk : k.isComment = false) (h : stops k) : v.Leads (k :: ks) stops := by
  intro c hc
  rw [(v.advance hc hk).1]
  exact h

theorem passes {c : Cursor} {ks ls : List TokenKind} (h : v.shows c (ks ++ ls)) (hk : Significant ks) :
    ∃ d, c.Passes ks d ∧ v.shows d ls := by
  induction ks generalizing c with
  | nil => exact ⟨c, rfl, h⟩
  | cons k ks ih =>
    obtain ⟨hks, rest⟩ : k.isSignificant = true ∧ Significant ks := List.forall_mem_cons.mp hk
    obtain ⟨hpeek, hadv⟩ := v.advance h (Significant.not_comment hks)
    obtain ⟨d, hp, hd⟩ := ih hadv rest
    exact ⟨d, ⟨hpeek, hp⟩, hd⟩

end View

namespace Parser

variable {v : View}

/-- The readers of the items of a block: every item that is written is read. -/
structure CompletesItem {α : Type} (v : View) (item : Bool → Parser α)
    (written : Bool → α → List TokenKind → Prop) (ok : α → Prop) (agrees : α → α → Prop)
    (stops : TokenKind → Prop) : Prop where
  starts : ∀ {isFirst x ks rest}, written isFirst x ks →
    v.Leads (ks ++ rest) fun k => k ≠ .rightBrace ∧ (isFirst = false → stops k)
  complete : ∀ {isFirst x ks rest c}, ok x → written isFirst x ks → v.shows c (ks ++ rest) →
    v.Leads rest stops → ∃ x' d, (item isFirst).run c = .ok (x', d) ∧ agrees x x' ∧ v.shows d rest

theorem completesItem_rule :
    CompletesItem v (fun _ => commentedRule) (Rule.WrittenAs v.write) Rule.WellFormed
      (Rule.Agrees v.same) EndsRule where
  starts {isFirst r ks rest} h := by
    subst h
    rw [List.append_assoc]
    refine View.leads_comments (k := .star) rfl ?_
    exact ⟨TokenKind.noConfusion, fun _ => ⟨TokenKind.noConfusion, TokenKind.noConfusion⟩⟩
  complete {isFirst r ks rest c} ok h hc hs := by
    subst h
    rw [List.append_assoc] at hc
    obtain ⟨-, cs, d, ht, hcs, hd⟩ := v.takeComments (k := .star) hc rfl
    have ahead : v.shows d (r.tokens ++ rest) := hd
    obtain ⟨e, hp, he⟩ := View.passes ahead (significant_rule r)
    obtain ⟨hs', f, hh, hhs, hf⟩ := v.takeHoisted he
    have bare : Bare { r with comments := [] } := ⟨rfl, ok⟩
    have rule_run := reads_rule.complete bare hp (hs e he)
    refine ⟨{ r with comments := cs ++ hs' }, f, ?_, ⟨cs ++ hs', ?_, rfl⟩, hf⟩
    · simp only [commentedRule, bind_ok, takeComments_ok, takeHoisted_ok, pure_ok]
      exact ⟨cs, d, ht, _, e, rule_run, hs', f, hh, rfl, rfl⟩
    · simpa using v.same_append hcs hhs

theorem completesItem_caveat :
    CompletesItem v commentedCaveat (Caveat.WrittenAs v.write) Caveat.WellFormed
      (Caveat.Agrees v.same) Anything where
  starts {isFirst x ks rest} h := by
    rcases h with rfl | ⟨_, rfl⟩
    · rw [List.append_assoc]
      refine View.leads_comments (k := .leftBracket) rfl ?_
      exact ⟨TokenKind.noConfusion, fun _ => trivial⟩
    · rw [List.append_assoc]
      refine View.leads_comments (k := .comma) rfl ?_
      exact ⟨TokenKind.noConfusion, fun _ => trivial⟩
  complete {isFirst x ks rest c} ok h hc _ := by
    suffices hs : ∃ cs d ds e, c.takeComments = (cs, d) ∧ v.same x.comments cs ∧
        (caveatSeparator isFirst).run d = .ok (ds, e) ∧ v.same [] ds ∧
        v.shows e (queryTokens x.queries ++ rest) by
      obtain ⟨cs, d, ds, e, ht, hcs, hsep, hds, he⟩ := hs
      obtain ⟨f, hp, hf⟩ := View.passes he (significant_queries x.queries)
      obtain ⟨hs, g, hh, hhs, hg⟩ := v.takeHoisted hf
      have queries_run := reads_caveatList.complete ok hp trivial
      refine ⟨⟨cs ++ ds ++ hs, x.queries⟩, g, ?_, ⟨?_, rfl⟩, hg⟩
      · simp only [commentedCaveat, bind_ok, takeComments_ok, takeHoisted_ok, pure_ok]
        exact ⟨cs, d, ht, ds, e, hsep, x.queries, f, queries_run, hs, g, hh, rfl, rfl⟩
      · simpa using v.same_append (v.same_append hcs hds) hhs
    simp only [caveatSeparator, cursor_bind_ok]
    rcases h with rfl | ⟨rfl, rfl⟩
    · rw [List.append_assoc] at hc
      obtain ⟨-, cs, d, ht, hcs, hd⟩ := v.takeComments (k := .leftBracket) hc rfl
      refine ⟨cs, d, [], d, ht, hcs, ?_, v.same_nil, hd⟩
      have hn : ¬ d.sees .comma = true := by
        rw [Cursor.sees_eq_true, (v.advance hd rfl).1]
        exact TokenKind.noConfusion
      rw [if_neg (by simp [hn])]
      rfl
    · rw [List.append_assoc] at hc
      obtain ⟨-, cs, d, ht, hcs, hd⟩ := v.takeComments (k := .comma) hc rfl
      obtain ⟨hpeek, hadv⟩ := v.advance hd rfl
      obtain ⟨hs, e, hh, hhs, he⟩ := v.takeHoisted hadv
      have he' : v.shows e (v.write [] ++ (queryTokens x.queries ++ rest)) := by
        rw [v.write_nil]
        exact he
      obtain ⟨-, ds, f, ht', hds, hf⟩ := v.takeComments (k := .leftBracket) he' rfl
      refine ⟨cs, d, hs ++ ds, f, ht, hcs, ?_, v.same_append hhs hds, hf⟩
      rw [if_pos (by simpa using Cursor.sees_eq_true.mpr hpeek)]
      simp only [bind_ok, advance_ok, takeHoisted_ok, takeComments_ok, pure_ok]
      exact ⟨(), _, rfl, hs, e, hh, ds, f, ht', rfl, rfl⟩

section
variable {α : Type} {item : Bool → Parser α} {written : Bool → α → List TokenKind → Prop}
  {ok : α → Prop} {agrees : α → α → Prop} {stops : TokenKind → Prop}
  (progresses : ∀ b, (item b).Progresses)

theorem CompletesItem.block (h : CompletesItem v item written ok agrees stops)
    (hs : stops .rightBrace) {c : Cursor} {b : Block α} {ks rest : List TokenKind}
    (hok : ∀ x ∈ b.items, ok x) (hw : b.WrittenAs v.write written ks) (hc : v.shows c (ks ++ rest)) :
    ∃ b' d, (Parser.block item progresses).run c = .ok (b', d) ∧ b.Agrees v.same agrees b' ∧
      v.shows d rest := by
  obtain ⟨items, trailing⟩ := b
  obtain ⟨l, rfl, hl⟩ := hw
  suffices hb : ∀ {isFirst c}, ItemsWrittenAs written isFirst items l →
      v.shows c (l ++ (v.write trailing ++ .rightBrace :: rest)) →
      ∃ b' d, blockFrom item progresses isFirst c = .ok (b', d) ∧
        Block.Agrees v.same agrees ⟨items, trailing⟩ b' ∧ v.shows d rest by
    refine hb hl ?_
    simpa [List.append_assoc] using hc
  clear hl hc
  intro isFirst c hl hc
  induction items generalizing isFirst c l with
  | nil =>
    cases hl
    obtain ⟨hpeek, cs, d, ht, hcs, hd⟩ := v.takeComments (k := .rightBrace) hc rfl
    refine ⟨⟨[], cs⟩, d.advance, ?_, ⟨.nil, hcs⟩, (v.advance hd rfl).2⟩
    rw [blockFrom, if_pos (Cursor.sees_eq_true.mpr hpeek), ht]
  | cons x xs ih =>
    obtain ⟨k, m, rfl, hk, hm⟩ := hl
    obtain ⟨okx, okxs⟩ := List.forall_mem_cons.mp hok
    rw [List.append_assoc] at hc
    -- behind an item stands the next one or the end of the block
    have next : v.Leads (m ++ (v.write trailing ++ .rightBrace :: rest)) stops := by
      cases xs with
      | nil => cases hm; exact View.leads_comments rfl hs
      | cons y ys =>
        obtain ⟨k', m', rfl, hk', _⟩ := hm
        intro d hd
        rw [List.append_assoc] at hd
        exact (h.starts hk' d hd).2 rfl
    obtain ⟨x', d, item_run, hx, hd⟩ := h.complete okx hk hc next
    obtain ⟨⟨items, trailing'⟩, e, block_run, ⟨hxs, ht⟩, he⟩ := ih okxs m hm hd
    refine ⟨⟨x' :: items, trailing'⟩, e, ?_, ⟨.cons hx hxs, ht⟩, he⟩
    have hn : ¬ c.sees .rightBrace = true := by
      rw [Cursor.sees_eq_true]
      exact (h.starts hk c hc).1
    rw [blockFrom, if_neg hn]
    split
    · next hi => rw [item_run] at hi; cases hi
    · next hi =>
      rw [item_run] at hi
      cases hi
      rw [block_run]

theorem CompletesItem.optional (h : CompletesItem v item written ok agrees stops)
    (hs : stops .rightBrace) {word : String} {c : Cursor} {b : Option (Block α)}
    {ks rest : List TokenKind} (hok : ∀ x ∈ b, ∀ i ∈ x.items, ok i)
    (hw : OptionalWrittenAs v.write written word b ks) (hc : v.shows c (ks ++ rest))
    (hr : v.Leads rest (· ≠ .identifier word)) :
    ∃ b' d, (optionalBlock word (Parser.block item progresses)).run c = .ok (b', d) ∧
      Option.Rel (Block.Agrees v.same agrees) b b' ∧ v.shows d rest := by
  simp only [optionalBlock, cursor_bind_ok]
  cases b with
  | none =>
    cases hw
    refine ⟨none, c, ?_, .none, hc⟩
    rw [if_neg fun hw => hr c hc (Cursor.seesWord_eq_true.mp hw)]
    rfl
  | some b =>
    obtain ⟨l, rfl, hl⟩ := hw
    obtain ⟨hword, hc⟩ := v.advance hc rfl
    obtain ⟨hbrace, hc⟩ := v.advance hc rfl
    obtain ⟨b', d, block_run, hb, hd⟩ := h.block progresses hs (hok b rfl) hl hc
    refine ⟨some b', d, ?_, .some hb, hd⟩
    rw [if_pos (Cursor.seesWord_eq_true.mpr hword)]
    simp only [bind_ok, advance_ok, expect_ok, pure_ok]
    exact ⟨(), _, rfl, _, _, ⟨hbrace, rfl, rfl⟩, b', d, block_run, rfl, rfl⟩

end

theorem leads_optional {α : Type} {written : Bool → α → List TokenKind → Prop} {word : String}
    {b : Option (Block α)} {ks rest : List TokenKind} {stops : TokenKind → Prop}
    (hw : OptionalWrittenAs v.write written word b ks) (h : stops (.identifier word))
    (hr : v.Leads rest stops) : v.Leads (ks ++ rest) stops := by
  cases b with
  | none => cases hw; exact hr
  | some b =>
    obtain ⟨l, rfl, _⟩ := hw
    exact View.leads_cons rfl h

theorem policy_complete {c : Cursor} {p : Policy} {ks rest : List TokenKind} (hok : p.WellFormed)
    (hw : p.WrittenAs v.write ks) (hc : v.shows c (ks ++ rest)) :
    ∃ p' d, policy.run c = .ok (p', d) ∧ p.Agrees v.same p' ∧ v.shows d rest := by
  obtain ⟨l, m, rfl, hl, hm⟩ := hw
  simp only [List.append_assoc, List.cons_append, List.nil_append] at hc
  obtain ⟨-, cs, c1, ht, hcs, hc1⟩ := v.takeComments (k := .identifier "policy") hc rfl
  obtain ⟨hword, hc2⟩ := v.advance hc1 rfl
  obtain ⟨hname, hc3⟩ := v.advance hc2 rfl
  obtain ⟨hopen, hc4⟩ := v.advance hc3 rfl
  have close {word : String} : v.Leads (.rightBrace :: rest) (· ≠ .identifier word) :=
    View.leads_cons rfl TokenKind.noConfusion
  have between : v.Leads (m ++ .rightBrace :: rest) (· ≠ .identifier "rules") :=
    leads_optional hm (by decide) close
  obtain ⟨rules, c5, rules_run, hrules, hc5⟩ := completesItem_rule.optional
    (fun _ => progresses_commentedRule) ⟨TokenKind.noConfusion, TokenKind.noConfusion⟩ hok.rules hl hc4
    between
  obtain ⟨caveats, c6, caveats_run, hcaveats, hc6⟩ := completesItem_caveat.optional
    progresses_commentedCaveat trivial hok.caveats hm hc5 close
  obtain ⟨hclose, hc7⟩ := v.advance hc6 rfl
  obtain ⟨hs, c8, hh, hhs, hc8⟩ := v.takeHoisted hc7
  refine ⟨⟨cs ++ hs, p.name, c1.peek.offset, rules, caveats⟩, c8, ?_, ⟨?_, rfl, hrules, hcaveats⟩, hc8⟩
  · simp only [policy, policyBody, bind_ok, takeComments_ok, expectWord_ok, stringContent_ok, expect_ok,
      delimiter_ok, takeHoisted_ok, pure_ok]
    exact ⟨cs, c1, ht, _, _, ⟨hword, rfl, rfl⟩, p.name, _, ⟨hname, rfl⟩, _, _, ⟨hopen, rfl, rfl⟩,
      rules, c5, rules_run, caveats, c6, caveats_run, (), _, ⟨hclose, rfl⟩, hs, c8, hh, rfl, rfl⟩
  · simpa using v.same_append hcs hhs

theorem documentFrom_complete {c : Cursor} {d : Document} {ks : List TokenKind} (hok : d.WellFormed)
    (hw : d.WrittenAs v.write ks) (hc : v.shows c (ks ++ [.endOfDocument])) :
    ∃ d', documentFrom c = .ok d' ∧ d.Agrees v.same d' := by
  obtain ⟨policies, trailing⟩ := d
  obtain ⟨l, rfl, hl⟩ := hw
  rw [List.append_assoc] at hc
  change PoliciesWrittenAs v.write policies l at hl
  induction policies generalizing c l with
  | nil =>
    cases hl
    obtain ⟨hpeek, cs, d, ht, hcs, _⟩ := v.takeComments (k := .endOfDocument) hc rfl
    refine ⟨⟨[], cs⟩, ?_, .nil, hcs⟩
    rw [documentFrom, if_pos (Cursor.sees_eq_true.mpr hpeek), ht]
  | cons p ps ih =>
    obtain ⟨l, m, rfl, hp, hps⟩ := hl
    obtain ⟨okp, okps⟩ := List.forall_mem_cons.mp hok
    rw [List.append_assoc] at hc
    have hn : ¬ c.sees .endOfDocument = true := by
      obtain ⟨_, _, rfl, _⟩ := hp
      rw [List.append_assoc] at hc
      rw [Cursor.sees_eq_true, (v.takeComments (k := .identifier "policy") hc rfl).1]
      exact TokenKind.noConfusion
    obtain ⟨p', e, policy_run, agrees, he⟩ := policy_complete okp hp hc
    obtain ⟨⟨ps', trailing'⟩, document_run, hps', ht⟩ := ih okps m he hps
    refine ⟨⟨p' :: ps', trailing'⟩, ?_, .cons agrees hps', ht⟩
    rw [documentFrom, if_neg hn]
    split
    · next hi => rw [policy_run] at hi; cases hi
    · next hi =>
      rw [policy_run] at hi
      cases hi
      rw [document_run]

end Parser

/-! ## The two views -/

def AnyComments (_ _ : List String) : Prop := True

def View.significant : View where
  shows c ks := c.kinds = ks
  write := noComments
  same := AnyComments
  write_nil := rfl
  same_nil := trivial
  same_append _ _ := trivial
  advance {c k ks} h _ := by
    obtain ⟨ahead, hoisted⟩ := c
    obtain ⟨l, ls, rfl, rfl, hls⟩ := List.map_eq_cons_iff.mp h
    exact ⟨rfl, hls⟩
  takeComments {c cs k ks} h _ := by
    obtain ⟨ahead, hoisted⟩ := c
    obtain ⟨l, ls, rfl, rfl, hls⟩ := List.map_eq_cons_iff.mp h
    exact ⟨rfl, l.comments, _, rfl, trivial, congrArg (l.token.kind :: ·) hls⟩
  takeHoisted h := ⟨_, _, rfl, trivial, h⟩

theorem lexemes_commentTokens {ts : List Token} {cs : List String} {k : TokenKind} {ks : List TokenKind}
    (h : ts.map Token.kind = commentTokens cs ++ k :: ks) (hk : k.isComment = false)
    (pending : List String) :
    ∃ t us, lexemes pending ts = ⟨pending ++ cs, t⟩ :: lexemes [] us ∧ t.kind = k ∧
      us.map Token.kind = ks := by
  induction cs generalizing ts pending with
  | nil =>
    obtain ⟨t, us, rfl, rfl, hus⟩ := List.map_eq_cons_iff.mp h
    exact ⟨t, us, by rw [lexemes_token hk, List.append_nil], rfl, hus⟩
  | cons c cs ih =>
    obtain ⟨t, ts, rfl, ht, hts⟩ := List.map_eq_cons_iff.mp h
    obtain ⟨t', us, hl, hk', hus⟩ := ih hts (pending ++ [c])
    exact ⟨t', us, by rw [lexemes_comment ht, hl, List.append_assoc]; rfl, hk', hus⟩

/-- All tokens of a cursor, each comment in front of the construct that it belongs to. -/
def View.layout : View where
  shows c ks := c.hoisted = [] ∧ ∃ ts, c.ahead = lexemes [] ts ∧ ts.map Token.kind = ks
  write := commentTokens
  same := Eq
  write_nil := rfl
  same_nil := rfl
  same_append := by
    rintro _ _ _ _ rfl rfl
    rfl
  advance {c k ks} h hk := by
    obtain ⟨ahead, hoisted⟩ := c
    obtain ⟨rfl, ts, rfl, hts⟩ := h
    obtain ⟨t, us, rfl, rfl, hus⟩ := List.map_eq_cons_iff.mp hts
    rw [lexemes_token hk]
    exact ⟨rfl, rfl, us, rfl, hus⟩
  takeComments {c cs k ks} h hk := by
    obtain ⟨ahead, hoisted⟩ := c
    obtain ⟨rfl, ts, rfl, hts⟩ := h
    obtain ⟨t, us, hl, rfl, hus⟩ := lexemes_commentTokens hts hk []
    rw [hl]
    refine ⟨rfl, cs, _, rfl, rfl, rfl, t :: us, (lexemes_token hk [] us).symm, ?_⟩
    rw [List.map_cons, hus]
  takeHoisted {c ks} h := by
    obtain ⟨ahead, hoisted⟩ := c
    obtain ⟨rfl, h⟩ := h
    exact ⟨[], _, rfl, rfl, rfl, h⟩

/-- Comments may stand anywhere between the significant tokens. -/
theorem Document.ofTokens_significant {ts : List Token} {d : Document} {ks : List TokenKind}
    (hts : ts.map Token.kind = ks ++ [.endOfDocument]) (hok : d.WellFormed)
    (hw : d.WrittenAs noComments (withoutComments ks)) :
    ∃ d', Document.ofTokens ts = .ok d' ∧ d.Agrees AnyComments d' := by
  refine Parser.documentFrom_complete (v := .significant) hok hw ?_
  show Cursor.kinds ⟨lexemes [] ts, []⟩ = _
  rw [Cursor.kinds, lexemes_kinds, hts, withoutComments, List.filter_append]
  rfl

theorem Document.ofTokens_tokens {ts : List Token} {d : Document}
    (hts : ts.map Token.kind = d.tokens ++ [.endOfDocument]) (hok : d.WellFormed) :
    ∃ d', Document.ofTokens ts = .ok d' ∧ d.Agrees Eq d' :=
  Parser.documentFrom_complete (v := .layout) hok d.writtenAs_tokens ⟨rfl, ts, rfl, hts⟩

end PolicyGate.Source
