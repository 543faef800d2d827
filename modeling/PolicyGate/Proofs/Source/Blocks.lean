import Mathlib.Data.List.Basic
import PolicyGate.Proofs.Source.Reading
import PolicyGate.Proofs.Source.Written

/-!
# What the readers of documents read

From one cursor to another a reader passes significant tokens and gives comments away; `Spends` keeps
account of both. What is read is written as the grammar says and no comment is lost
(`Document.sound_of_ofTokens`).
-/

namespace PolicyGate.Source

/-! ## Tokens and comments ahead of a cursor -/

namespace Cursor

def kinds (c : Cursor) : List TokenKind :=
  c.ahead.map (·.token.kind)

def comments (c : Cursor) : List String :=
  c.hoisted ++ c.ahead.flatMap (·.comments)

/-- From `c` to `d` significant tokens of these kinds are passed and these comments are taken. -/
structure Spends (c : Cursor) (ks : List TokenKind) (cs : List String) (d : Cursor) : Prop where
  kinds : c.kinds = ks ++ d.kinds
  comments : c.comments.Perm (cs ++ d.comments)

theorem Spends.refl (c : Cursor) : c.Spends [] [] c :=
  ⟨rfl, .refl _⟩

theorem Spends.trans {c d e : Cursor} {ks ls : List TokenKind} {cs ds : List String}
    (h : c.Spends ks cs d) (h' : d.Spends ls ds e) : c.Spends (ks ++ ls) (cs ++ ds) e where
  kinds := by rw [h.kinds, h'.kinds, List.append_assoc]
  comments := by
    rw [List.append_assoc]
    exact h.comments.trans (h'.comments.append_left cs)

theorem advance_spends {c : Cursor} (h : c.peek.kind ≠ .endOfDocument) :
    c.Spends [c.peek.kind] [] c.advance := by
  obtain ⟨ahead, hoisted⟩ := c
  cases ahead with
  | nil => exact absurd rfl h
  | cons l ls => exact ⟨rfl, by simp [Cursor.comments, advance]⟩

theorem takeComments_spends {c d : Cursor} {cs : List String} (h : c.takeComments = (cs, d)) :
    c.Spends [] cs d := by
  obtain ⟨ahead, hoisted⟩ := c
  cases ahead with
  | nil => cases h; exact .refl _
  | cons l ls =>
    cases h
    refine ⟨rfl, ?_⟩
    simp only [Cursor.comments, List.flatMap_cons, List.nil_append, ← List.append_assoc]
    exact List.perm_append_comm.append_right _

theorem takeHoisted_spends {c d : Cursor} {cs : List String} (h : c.takeHoisted = (cs, d)) :
    c.Spends [] cs d := by
  cases h
  exact ⟨rfl, .refl _⟩

theorem Passes.spends {c d : Cursor} {ks : List TokenKind} (h : c.Passes ks d) (hk : Significant ks) :
    c.Spends ks [] d := by
  induction ks generalizing c with
  | nil => cases h; exact .refl _
  | cons k ks ih =>
    obtain ⟨hks, rest⟩ : k.isSignificant = true ∧ Significant ks := List.forall_mem_cons.mp hk
    obtain ⟨rfl, h⟩ := h
    have hne : c.peek.kind ≠ .endOfDocument := fun e => by rw [e] at hks; cases hks
    exact (advance_spends hne).trans (ih h rest)

end Cursor

/-! ## Soundness -/

namespace Parser

/-- The readers of the items of a block: what an item is written as, and the comments it takes. -/
structure ReadsItem {α : Type} (item : Bool → Parser α) (written : Bool → α → List TokenKind → Prop)
    (ok : α → Prop) (comments : α → List String) : Prop where
  sound : ∀ {isFirst c x d}, (item isFirst).run c = .ok (x, d) →
    ok x ∧ ∃ ks, written isFirst x ks ∧ c.Spends ks (comments x) d

theorem readsItem_rule :
    ReadsItem (fun _ => commentedRule) (Rule.WrittenAs noComments) Rule.WellFormed Rule.comments where
  sound {_ c r d} h := by
    simp only [commentedRule, bind_ok, takeComments_ok, takeHoisted_ok, pure_ok] at h
    obtain ⟨cs, e, hc, r, e', hr, hs, f, hh, rfl, rfl⟩ := h
    obtain ⟨⟨_, ok⟩, hp⟩ := reads_rule.sound hr
    refine ⟨ok, r.tokens, rfl, ?_⟩
    have spends := ((Cursor.takeComments_spends hc).trans (hp.spends (significant_rule r))).trans
      (Cursor.takeHoisted_spends hh)
    simpa using spends

theorem caveatSeparator_sound {isFirst : Bool} {c d : Cursor} {cs : List String}
    (h : (caveatSeparator isFirst).run c = .ok (cs, d)) :
    c.Spends [] cs d ∨ isFirst = false ∧ c.Spends [.comma] cs d := by
  simp only [caveatSeparator, cursor_bind_ok] at h
  split at h
  · next hc =>
    simp only [bind_ok, advance_ok, takeComments_ok, takeHoisted_ok, pure_ok] at h
    obtain ⟨_, _, rfl, hs, e, hh, cs, e', ht, rfl, rfl⟩ := h
    obtain ⟨hfirst, hcomma⟩ : isFirst = false ∧ c.sees .comma = true := by simpa using hc
    rw [Cursor.sees_eq_true] at hcomma
    have spends := ((Cursor.advance_spends (c := c) (by rw [hcomma]; decide)).trans
      (Cursor.takeHoisted_spends hh)).trans (Cursor.takeComments_spends ht)
    rw [hcomma] at spends
    exact .inr ⟨hfirst, by simpa using spends⟩
  · obtain ⟨rfl, rfl⟩ := pure_ok.mp h
    exact .inl (.refl _)

theorem readsItem_caveat :
    ReadsItem commentedCaveat (Caveat.WrittenAs noComments) Caveat.WellFormed Caveat.comments where
  sound {isFirst c x d} h := by
    simp only [commentedCaveat, bind_ok, takeComments_ok, takeHoisted_ok, pure_ok] at h
    obtain ⟨cs, e, hc, around, e', ha, qs, e'', hq, hs, f, hh, rfl, rfl⟩ := h
    obtain ⟨ok, hp⟩ := reads_caveatList.sound hq
    refine ⟨ok, ?_⟩
    have front := Cursor.takeComments_spends hc
    have back := (hp.spends (significant_queries qs)).trans (Cursor.takeHoisted_spends hh)
    rcases caveatSeparator_sound ha with sep | ⟨hfirst, sep⟩
    · exact ⟨queryTokens qs, .inl rfl, by simpa using (front.trans sep).trans back⟩
    · exact ⟨.comma :: queryTokens qs, .inr ⟨hfirst, rfl⟩, by simpa using (front.trans sep).trans back⟩

section
variable {α : Type} {item : Bool → Parser α} {written : Bool → α → List TokenKind → Prop}
  {ok : α → Prop} {comments : α → List String} {progresses : ∀ b, (item b).Progresses}

theorem ReadsItem.block_sound (h : ReadsItem item written ok comments) {c d : Cursor} {b : Block α}
    (hb : (block item progresses).run c = .ok (b, d)) :
    (∀ x ∈ b.items, ok x) ∧
      ∃ ks, b.WrittenAs noComments written ks ∧ c.Spends ks (b.allComments comments) d := by
  suffices hs : ∀ {isFirst c b d}, blockFrom item progresses isFirst c = .ok (b, d) →
      (∀ x ∈ b.items, ok x) ∧ ∃ l, ItemsWrittenAs written isFirst b.items l ∧
        c.Spends (l ++ [.rightBrace]) (b.allComments comments) d by
    obtain ⟨okb, l, hl, spends⟩ := hs hb
    exact ⟨okb, _, ⟨l, rfl, hl⟩, spends⟩
  intro isFirst c b d hb
  fun_induction blockFrom item progresses isFirst c generalizing b d with
  | case1 isFirst c hc cs e ht =>
    cases hb
    refine ⟨fun x hx => (by cases hx), [], rfl, ?_⟩
    have taken := Cursor.takeComments_spends ht
    have brace : e.peek.kind = .rightBrace := by
      rw [← Cursor.sees_eq_true.mp hc]
      unfold Cursor.takeComments at ht
      unfold Cursor.peek
      split at ht <;> cases ht <;> simp_all
    have passed := Cursor.advance_spends (c := e) (by rw [brace]; decide)
    rw [brace] at passed
    simpa [Block.allComments] using taken.trans passed
  | case2 => cases hb
  | case3 => cases hb
  | case4 isFirst c hc x e hi b' f hb' ih =>
    cases hb
    obtain ⟨okb, l, hl, rest⟩ := ih hb'
    obtain ⟨okx, k, hk, first⟩ := h.sound hi
    refine ⟨List.forall_mem_cons.mpr ⟨okx, okb⟩, k ++ l, ⟨k, l, rfl, hk, hl⟩, ?_⟩
    simpa [Block.allComments] using first.trans rest

theorem ReadsItem.optional_sound (h : ReadsItem item written ok comments) {word : String} {c d : Cursor}
    {b : Option (Block α)} (hb : (optionalBlock word (block item progresses)).run c = .ok (b, d)) :
    (∀ x ∈ b, ∀ i ∈ x.items, ok i) ∧
      ∃ ks, OptionalWrittenAs noComments written word b ks ∧
        c.Spends ks (optionalComments comments b) d := by
  simp only [optionalBlock, cursor_bind_ok] at hb
  split at hb
  · next hw =>
    simp only [bind_ok, advance_ok, expect_ok, pure_ok] at hb
    obtain ⟨_, _, rfl, _, _, ⟨hl, _, rfl⟩, b, _, hb, rfl, rfl⟩ := hb
    obtain ⟨okb, ks, hks, spends⟩ := h.block_sound hb
    refine ⟨fun x hx => (by cases hx; exact okb), _, ⟨ks, rfl, hks⟩, ?_⟩
    have passes : c.Passes [.identifier word, .leftBrace] c.advance.advance :=
      ⟨Cursor.seesWord_eq_true.mp hw, hl, rfl⟩
    have front := passes.spends (.cons rfl (.cons rfl .nil))
    simpa [optionalComments] using front.trans spends
  · obtain ⟨rfl, rfl⟩ := pure_ok.mp hb
    exact ⟨fun x hx => (by cases hx), [], rfl, .refl _⟩

end

theorem policy_sound {c d : Cursor} {p : Policy} (h : policy.run c = .ok (p, d)) :
    p.WellFormed ∧ ∃ ks, p.WrittenAs noComments ks ∧ c.Spends ks p.allComments d := by
  simp only [policy, policyBody, bind_ok, takeComments_ok, expectWord_ok, stringContent_ok, expect_ok,
    delimiter_ok, takeHoisted_ok, pure_ok] at h
  obtain ⟨cs, e, ht, _, _, ⟨hw, _, rfl⟩, name, _, ⟨hn, rfl⟩, _, _, ⟨hl, _, rfl⟩, rules, e1, hrules,
    caveats, e2, hcaveats, _, _, ⟨hr, rfl⟩, hs, f, hh, rfl, rfl⟩ := h
  obtain ⟨ok1, l, hl1, spends1⟩ := readsItem_rule.optional_sound hrules
  obtain ⟨ok2, m, hm, spends2⟩ := readsItem_caveat.optional_sound hcaveats
  refine ⟨⟨ok1, ok2⟩, _, ⟨l, m, rfl, hl1, hm⟩, ?_⟩
  have opens : e.Passes [.identifier "policy", .string name, .leftBrace] e.advance.advance.advance :=
    ⟨hw, hn, hl, rfl⟩
  have closes : e2.Passes [.rightBrace] e2.advance := ⟨hr, rfl⟩
  have spends := ((Cursor.takeComments_spends ht).trans
    ((opens.spends (.cons rfl (.cons rfl (.cons rfl .nil)))).trans spends1)).trans
    (spends2.trans ((closes.spends (.cons rfl .nil)).trans (Cursor.takeHoisted_spends hh)))
  refine ⟨by simpa [noComments] using spends.kinds, spends.comments.trans ?_⟩
  refine List.Perm.append_right _ ?_
  -- the hoisted comments are taken last, but stand behind those in front of the policy
  have swap : (optionalComments Rule.comments rules ++ optionalComments Caveat.comments caveats ++ hs).Perm
      (hs ++ (optionalComments Rule.comments rules ++ optionalComments Caveat.comments caveats)) :=
    List.perm_append_comm
  simpa [Policy.allComments] using swap.append_left cs

theorem hoisted_of_policy {c d : Cursor} {p : Policy} (h : policy.run c = .ok (p, d)) :
    d.hoisted = [] := by
  simp only [policy, policyBody, bind_ok, takeHoisted_ok, pure_ok] at h
  obtain ⟨_, _, _, _, _, _, _, _, _, _, _, _, _, _, _, _, _, _, _, _, _, _, _, hh, _, rfl⟩ := h
  cases hh
  rfl

theorem documentFrom_sound {c : Cursor} {d : Document} {ks : List TokenKind}
    (h : documentFrom c = .ok d) (hh : c.hoisted = []) (hc : c.kinds = ks ++ [.endOfDocument])
    (hk : .endOfDocument ∉ ks) :
    d.WellFormed ∧ d.WrittenAs noComments ks ∧ c.comments.Perm d.allComments := by
  fun_induction documentFrom c generalizing d ks with
  | case1 c hs =>
    cases h
    obtain ⟨ahead, hoisted⟩ := c
    cases hh
    cases ahead with
    | nil => simp [Cursor.kinds] at hc
    | cons l ls =>
      cases ks with
      | nil =>
        cases ls with
        | cons m ms => simp [Cursor.kinds] at hc
        | nil =>
          refine ⟨fun p hp => (by cases hp), ⟨[], rfl, rfl⟩, ?_⟩
          simp [Cursor.comments, Document.allComments, Cursor.takeComments]
      | cons k ks =>
        have hl : l.token.kind = k := (List.cons.inj hc).1
        have he : l.token.kind = .endOfDocument := Cursor.sees_eq_true.mp hs
        exact absurd (he ▸ hl ▸ List.mem_cons_self) hk
  | case2 => cases h
  | case3 => cases h
  | case4 c hs p e hp doc hd ih =>
    cases h
    obtain ⟨okp, l, hl, spends⟩ := policy_sound hp
    -- the policy ends in front of the end of the document, so its tokens are the first of `ks`
    have hend : .endOfDocument ∉ l := fun he => by
      have := significant_of_firm hl.firm _ he
      cases this
    obtain ⟨m, rfl, hm⟩ : ∃ m, ks = l ++ m ∧ e.kinds = m ++ [.endOfDocument] := by
      rw [spends.kinds] at hc
      rcases List.append_eq_append_iff.mp hc with ⟨m, rfl, hm⟩ | ⟨m, rfl, hm⟩
      · exact ⟨m, rfl, hm⟩
      · cases m with
        | nil => exact ⟨[], by simp, by simpa using hm.symm⟩
        | cons k ms =>
          have hk' : k = .endOfDocument := (List.cons.inj hm).1.symm
          exact absurd (List.mem_append_right ks (hk' ▸ List.mem_cons_self)) hend
    obtain ⟨okd, ⟨n, hn, written⟩, perm⟩ :=
      ih hd (hoisted_of_policy hp) hm fun hk' => hk (List.mem_append_right l hk')
    refine ⟨List.forall_mem_cons.mpr ⟨okp, okd⟩, ⟨l ++ n, ?_, l, n, rfl, hl, written⟩, ?_⟩
    · rw [hn, List.append_assoc]
    · simpa [Document.allComments] using spends.comments.trans (perm.append_left p.allComments)

end Parser

/-! ## From tokens to lexemes -/

def TokenKind.comment? : TokenKind → Option String
  | comment text => some text
  | _ => none

def withoutComments (ks : List TokenKind) : List TokenKind :=
  ks.filter (!·.isComment)

def significantTokens (ts : List Token) : List Token :=
  ts.filter (!·.kind.isComment)

theorem exists_of_isComment {k : TokenKind} (h : k.isComment = true) : ∃ text, k = .comment text := by
  cases k <;> first | exact ⟨_, rfl⟩ | cases h

theorem lexemes_comment {t : Token} {text : String} (hk : t.kind = .comment text)
    (pending : List String) (ts : List Token) :
    lexemes pending (t :: ts) = lexemes (pending ++ [text]) ts := by
  rw [lexemes]
  simp only [hk]

theorem lexemes_token {t : Token} (hk : t.kind.isComment = false) (pending : List String)
    (ts : List Token) : lexemes pending (t :: ts) = ⟨pending, t⟩ :: lexemes [] ts := by
  rw [lexemes]
  split
  · next text h => rw [h] at hk; cases hk
  · rfl

theorem lexemes_tokens (pending : List String) (ts : List Token) :
    (lexemes pending ts).map Lexeme.token = significantTokens ts := by
  induction ts generalizing pending with
  | nil => rfl
  | cons t ts ih =>
    by_cases hk : t.kind.isComment = true
    · obtain ⟨text, ht⟩ := exists_of_isComment hk
      rw [lexemes_comment ht, ih]
      simp [significantTokens, hk]
    · rw [lexemes_token (by simpa using hk)]
      simp [ih, significantTokens, hk]

theorem significantTokens_kinds (ts : List Token) :
    (significantTokens ts).map Token.kind = withoutComments (ts.map Token.kind) := by
  rw [withoutComments, List.filter_map]
  rfl

theorem lexemes_kinds (pending : List String) (ts : List Token) :
    (lexemes pending ts).map (·.token.kind) = withoutComments (ts.map Token.kind) := by
  rw [← significantTokens_kinds, ← lexemes_tokens pending, List.map_map]
  rfl

theorem lexemes_comments {pending : List String} {ts : List Token} {ks : List TokenKind}
    (h : ts.map Token.kind = ks ++ [.endOfDocument]) :
    (lexemes pending ts).flatMap (·.comments) = pending ++ ks.filterMap TokenKind.comment? := by
  induction ks generalizing ts pending with
  | nil =>
    obtain ⟨t, rfl, ht⟩ := List.map_eq_singleton_iff.mp h
    rw [lexemes_token (by rw [ht]; rfl)]
    simp [lexemes]
  | cons k ks ih =>
    obtain ⟨t, ts, rfl, ht, hts⟩ := List.map_eq_cons_iff.mp h
    by_cases hk : t.kind.isComment = true
    · obtain ⟨text, hc⟩ := exists_of_isComment hk
      rw [lexemes_comment hc, ih hts, ← ht, hc]
      simp [TokenKind.comment?]
    · have hn : k.comment? = none := by
        rw [← ht]
        cases h : t.kind <;> first | rfl | (rw [h] at hk; exact absurd rfl hk)
      rw [lexemes_token (by simpa using hk), List.flatMap_cons, ih hts, List.filterMap_cons, hn]
      rfl

/-- What is read is written as the grammar says, and each comment is somewhere in the tree. -/
theorem Document.sound_of_ofTokens {ts : List Token} {d : Document} {ks : List TokenKind}
    (h : Document.ofTokens ts = .ok d) (hts : ts.map Token.kind = ks ++ [.endOfDocument])
    (hk : .endOfDocument ∉ ks) :
    d.WellFormed ∧ d.WrittenAs noComments (withoutComments ks) ∧
      (ks.filterMap TokenKind.comment?).Perm d.allComments := by
  have hkinds : Cursor.kinds ⟨lexemes [] ts, []⟩ = withoutComments ks ++ [.endOfDocument] := by
    rw [Cursor.kinds, lexemes_kinds, hts, withoutComments, List.filter_append]
    rfl
  have hcomments : Cursor.comments ⟨lexemes [] ts, []⟩ = ks.filterMap TokenKind.comment? := by
    rw [Cursor.comments, lexemes_comments hts]
    rfl
  rw [← hcomments]
  exact Parser.documentFrom_sound h rfl hkinds fun he => hk (List.mem_filter.mp he).1

end PolicyGate.Source
