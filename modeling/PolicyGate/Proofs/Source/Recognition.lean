import PolicyGate.Proofs.Source.Grammar
import PolicyGate.Proofs.Source.Loops
import PolicyGate.Proofs.Source.Reading

/-!
# Readers recognize their languages

`Recognizes p c l after` says of a reader at the cursor `c` that it passes a word of the language `l` and
that no other way of reading `l` goes on, or fails at the first token that cannot stand there. `after`
are the tokens that may stand behind what is read; the readers look no further ahead than one token.
-/

namespace PolicyGate.Source

open Computability

/-! ## Tokens that are passed -/

namespace Cursor

def tokens (c : Cursor) : List Token :=
  c.ahead.map Lexeme.token

/-- From `c` to `d` these tokens are passed, none of them the end of the document. -/
structure Takes (c : Cursor) (us : List Token) (d : Cursor) : Prop where
  tokens : c.tokens = us ++ d.tokens
  inside : ∀ t ∈ us, t.kind ≠ .endOfDocument

theorem Takes.refl (c : Cursor) : c.Takes [] c :=
  ⟨rfl, fun t ht => (by cases ht)⟩

theorem Takes.trans {c d e : Cursor} {us vs : List Token} (h : c.Takes us d) (h' : d.Takes vs e) :
    c.Takes (us ++ vs) e where
  tokens := by rw [h.tokens, h'.tokens, List.append_assoc]
  inside := List.forall_mem_append.mpr ⟨h.inside, h'.inside⟩

theorem peek_eq (c : Cursor) : c.peek = c.tokens.headD ⟨.endOfDocument, 0⟩ := by
  obtain ⟨ahead, hoisted⟩ := c
  cases ahead <;> rfl

theorem Takes.next {c d : Cursor} {us : List Token} (h : c.Takes us d) (ks : List TokenKind) :
    ∃ ls, us.map Token.kind ++ d.peek.kind :: ks = c.peek.kind :: ls := by
  rw [peek_eq c, h.tokens]
  cases us with
  | nil =>
    rw [peek_eq d]
    exact ⟨ks, rfl⟩
  | cons t us => exact ⟨_, rfl⟩

/-- What holds behind `us` for every next token holds for what is passed from there. -/
theorem Takes.behind {d e : Cursor} {us vs : List Token} {l m : Language TokenKind} (h : d.Takes vs e)
    (exact : ∀ ks, us.map Token.kind ++ d.peek.kind :: ks ∈ l * m → d.peek.kind :: ks ∈ m)
    {ks : List TokenKind} (hk : (us ++ vs).map Token.kind ++ e.peek.kind :: ks ∈ l * m) :
    vs.map Token.kind ++ e.peek.kind :: ks ∈ m := by
  obtain ⟨ls, next⟩ := h.next ks
  rw [List.map_append, List.append_assoc, next] at hk
  rw [next]
  exact exact ls hk

theorem advance_takes {c : Cursor} (h : c.peek.kind ≠ .endOfDocument) : c.Takes [c.peek] c.advance := by
  obtain ⟨ahead, hoisted⟩ := c
  cases ahead with
  | nil => exact absurd rfl h
  | cons l ls =>
    refine ⟨rfl, fun t ht => ?_⟩
    rw [List.mem_singleton.mp ht]
    exact h

theorem takeComments_tokens (c : Cursor) : c.takeComments.2.tokens = c.tokens := by
  obtain ⟨ahead, hoisted⟩ := c
  cases ahead <;> rfl

end Cursor

namespace Parser

/-- The reader passes a word of `l`, such that nothing but what is behind can go on, or fails at the
first token that no word of `l` has there. -/
structure Recognizes {α : Type} (p : Parser α) (c : Cursor) (l : Language TokenKind)
    (after : TokenKind → Prop) : Prop where
  ok : ∀ {x d}, p.run c = .ok (x, d) → ∃ us, c.Takes us d ∧ us.map Token.kind ∈ l ∧
    ∀ m ks, Starts m after → us.map Token.kind ++ d.peek.kind :: ks ∈ l * m → d.peek.kind :: ks ∈ m
  error : ∀ {e}, p.run c = .error e → ∃ us d, c.Takes us d ∧ e.offset = d.peek.offset ∧
    (∃ ks, us.map Token.kind ++ ks ∈ l) ∧
    ∀ m ks, Starts m after → us.map Token.kind ++ d.peek.kind :: ks ∉ l * m

section
variable {α β : Type} {p q : Parser α} {c : Cursor} {l m : Language TokenKind}
  {P after between : TokenKind → Prop}

/-! ## Putting readers together -/

theorem Recognizes.congr (h : q.Recognizes c l after) (same : p.run c = q.run c) :
    p.Recognizes c l after where
  ok hr := h.ok (same ▸ hr)
  error hr := h.error (same ▸ hr)

theorem Recognizes.mono {after' : TokenKind → Prop} (h : p.Recognizes c l after)
    (ha : ∀ k, after' k → after k) : p.Recognizes c l after' where
  ok hr := by
    obtain ⟨us, takes, mem, exact⟩ := h.ok hr
    exact ⟨us, takes, mem, fun m ks hm => exact m ks fun k ks hk => ha k (hm k ks hk)⟩
  error hr := by
    obtain ⟨us, d, takes, place, viable, never⟩ := h.error hr
    exact ⟨us, d, takes, place, viable, fun m ks hm => never m ks fun k ks hk => ha k (hm k ks hk)⟩

theorem recognizes_nothing {x : α} {d : Cursor} (h : p.run c = .ok (x, d)) (same : d.tokens = c.tokens) :
    p.Recognizes c 1 after where
  ok hr := by
    rw [h] at hr
    cases hr
    refine ⟨[], ⟨same.symm, fun t ht => (by cases ht)⟩, rfl, fun m ks _ hk => ?_⟩
    rwa [one_mul] at hk
  error hr := by
    rw [h] at hr
    cases hr

theorem recognizes_pure (x : α) (c : Cursor) : (Pure.pure x : Parser α).Recognizes c 1 after :=
  recognizes_nothing rfl rfl

theorem recognizes_advance {k : TokenKind} (next : c.peek.kind = k) (here : k ≠ .endOfDocument) (hP : P k) :
    advance.Recognizes c (oneOf P) after where
  ok hr := by
    cases hr
    rw [← next] at here hP
    refine ⟨[c.peek], Cursor.advance_takes here, ⟨_, hP, rfl⟩, fun m ks _ hk => ?_⟩
    exact (cons_mem_oneOf_mul.mp hk).2
  error hr := by cases hr

theorem recognizes_tok {k : TokenKind} (next : c.peek.kind = k) (here : k ≠ .endOfDocument) :
    advance.Recognizes c (Grammar.tok k) after :=
  recognizes_advance next here rfl

theorem recognizes_fail {expected : Expectation} (word : HasWord l) (never : Refuses l c.peek.kind) :
    (fail expected : Parser α).Recognizes c l after where
  ok hr := by cases hr
  error hr := by
    cases hr
    exact ⟨[], c, .refl c, rfl, word, fun m ks _ => never m ks⟩

theorem Recognizes.bind {k : α → Parser β} (h : p.Recognizes c l between)
    (hk : ∀ x d, p.run c = .ok (x, d) → (k x).Recognizes d m after) (word : HasWord m)
    (starts : ∀ n, Starts n after → Starts (m * n) between) : (p >>= k).Recognizes c (l * m) after where
  ok hr := by
    obtain ⟨x, d, first, second⟩ := bind_ok.mp hr
    obtain ⟨us, takes, mem, exact⟩ := h.ok first
    obtain ⟨vs, takes', mem', exact'⟩ := (hk x d first).ok second
    refine ⟨us ++ vs, takes.trans takes', ?_, fun n ks hn hks => ?_⟩
    · rw [List.map_append]
      exact Language.append_mem_mul mem mem'
    · -- the first reader stopped where every word of `l` stops, so the rest is a word of `m * n`
      rw [mul_assoc] at hks
      exact exact' n ks hn (takes'.behind (fun ls => exact (m * n) ls (starts n hn)) hks)
  error {e} hr := by
    rw [run_bind] at hr
    cases first : p.run c with
    | error e' =>
      rw [first] at hr
      cases hr
      obtain ⟨us, d, takes, place, ⟨ks, hks⟩, never⟩ := h.error first
      obtain ⟨ls, hls⟩ := word
      refine ⟨us, d, takes, place, ⟨ks ++ ls, ?_⟩, fun n ks hn hks => ?_⟩
      · rw [← List.append_assoc]
        exact Language.append_mem_mul hks hls
      · rw [mul_assoc] at hks
        exact never _ ks (starts n hn) hks
    | ok r =>
      obtain ⟨x, d⟩ := r
      rw [first] at hr
      obtain ⟨us, takes, mem, exact⟩ := h.ok first
      obtain ⟨vs, d', takes', place, ⟨ks, hks⟩, never⟩ := (hk x d first).error hr
      refine ⟨us ++ vs, d', takes.trans takes', place, ⟨ks, ?_⟩, fun n ks hn hks => ?_⟩
      · rw [List.map_append, List.append_assoc]
        exact Language.append_mem_mul mem hks
      · rw [mul_assoc] at hks
        exact never n ks hn (takes'.behind (fun ls => exact (m * n) ls (starts n hn)) hks)

theorem Recognizes.then {k : α → Parser β} (h : p.Recognizes c l Anything)
    (hk : ∀ x d, (k x).Recognizes d m after) (word : HasWord m) : (p >>= k).Recognizes c (l * m) after :=
  h.bind (fun x d _ => hk x d) word fun _ _ _ _ _ => trivial

theorem Recognizes.done {k : α → Parser β} (h : p.Recognizes c l after)
    (hk : ∀ x d, (k x).Recognizes d 1 after) : (p >>= k).Recognizes c l after := by
  have starts : ∀ n, Starts n after → Starts (1 * n) after := fun n hn => by rwa [one_mul]
  have both := h.bind (fun x d _ => hk x d) hasWord_one starts
  rwa [mul_one] at both

theorem Recognizes.map (h : p.Recognizes c l after) (f : α → β) :
    (p >>= fun x => Pure.pure (f x)).Recognizes c l after :=
  h.done fun x d => recognizes_pure (f x) d

theorem Recognizes.look {k : Cursor → Parser α} (h : (k c).Recognizes c l after) :
    (cursor >>= k).Recognizes c l after :=
  h.congr rfl

theorem recognizes_if {b : Bool} {Q : Prop} (hb : b = true ↔ Q) (yes : Q → p.Recognizes c l after)
    (no : ¬Q → q.Recognizes c l after) : (if b = true then p else q).Recognizes c l after := by
  by_cases h : b = true
  · rw [if_pos h]
    exact yes (hb.mp h)
  · rw [if_neg h]
    exact no fun hq => h (hb.mpr hq)

theorem Recognizes.silent {k : α → Parser β} (h : p.Recognizes c 1 Anything)
    (hk : ∀ x d, p.run c = .ok (x, d) → (k x).Recognizes d m after) (word : HasWord m) :
    (p >>= k).Recognizes c m after := by
  have both := h.bind hk word fun _ _ _ _ _ => trivial
  rwa [one_mul] at both

theorem Recognizes.or_left (h : p.Recognizes c l after)
    (other : ∀ n ks, Starts n after → c.peek.kind :: ks ∉ m * n) : p.Recognizes c (l + m) after where
  ok hr := by
    obtain ⟨us, takes, mem, exact⟩ := h.ok hr
    refine ⟨us, takes, .inl mem, fun n ks hn hks => ?_⟩
    obtain ⟨ls, next⟩ := takes.next ks
    rw [add_mul] at hks
    rcases hks with hks | hks
    · exact exact n ks hn hks
    · rw [next] at hks
      exact absurd hks (other n ls hn)
  error hr := by
    obtain ⟨us, d, takes, place, ⟨ks, viable⟩, never⟩ := h.error hr
    refine ⟨us, d, takes, place, ⟨ks, .inl viable⟩, fun n ks hn hks => ?_⟩
    obtain ⟨ls, next⟩ := takes.next ks
    rw [add_mul] at hks
    rcases hks with hks | hks
    · exact never n ks hn hks
    · rw [next] at hks
      exact other n ls hn hks

theorem Recognizes.left (h : p.Recognizes c l after) (other : Refuses m c.peek.kind) :
    p.Recognizes c (l + m) after :=
  h.or_left fun n ks _ => other n ks

theorem Recognizes.right (h : p.Recognizes c m after) (other : Refuses l c.peek.kind) :
    p.Recognizes c (l + m) after := by
  rw [add_comm]
  exact h.left other

theorem Recognizes.present (h : p.Recognizes c l after) (here : ¬after c.peek.kind) :
    p.Recognizes c (Grammar.opt l) after := by
  rw [Grammar.opt, add_comm]
  refine h.or_left fun n ks hn hk => ?_
  rw [one_mul] at hk
  exact here (hn _ ks hk)

end

/-! ## Single tokens -/

section
variable {k : TokenKind}

theorem recognizes_expect (hk : k ≠ .endOfDocument) (c : Cursor) :
    (expect k).Recognizes c (Grammar.tok k) Anything := by
  unfold expect
  refine .look (recognizes_if Cursor.sees_eq_true (fun kind => ?_) fun other => ?_)
  · exact (recognizes_tok kind hk).map _
  · exact recognizes_fail Grammar.hasWord_tok (refuses_tok other)

theorem recognizes_expectWord (word : String) (c : Cursor) :
    (expectWord word).Recognizes c (Grammar.word word) Anything := by
  unfold expectWord
  refine .look (recognizes_if Cursor.seesWord_eq_true (fun kind => ?_) fun other => ?_)
  · exact (recognizes_tok kind TokenKind.noConfusion).map _
  · exact recognizes_fail Grammar.hasWord_word (refuses_tok other)

theorem recognizes_delimiter (hk : k ≠ .endOfDocument) (expected : Expectation) (c : Cursor) :
    (delimiter k expected).Recognizes c (Grammar.tok k) Anything := by
  unfold delimiter
  refine .look (recognizes_if Cursor.sees_eq_true (fun kind => ?_) fun other => ?_)
  · exact recognizes_tok kind hk
  · exact recognizes_fail Grammar.hasWord_tok (refuses_tok other)

theorem recognizes_literal (expected : Expectation) (c : Cursor) :
    (literal expected).Recognizes c Grammar.literal Anything := by
  unfold literal
  refine .look ?_
  cases h : literal? c.peek.kind with
  | none =>
    refine recognizes_fail Grammar.hasWord_literal (refuses_oneOf ?_)
    rintro ⟨v, hv⟩
    rw [literal?_eq_some.mpr hv] at h
    cases h
  | some v =>
    have kind := literal?_eq_some.mp h
    exact (recognizes_advance kind (by cases v <;> exact TokenKind.noConfusion) ⟨v, rfl⟩).map _

theorem recognizes_variableName (expected : Expectation) (c : Cursor) :
    (variableName expected).Recognizes c Grammar.var Anything := by
  unfold variableName
  refine .look ?_
  split
  · next name h =>
    exact (recognizes_advance h TokenKind.noConfusion ⟨name, rfl⟩).map _
  · next h =>
    refine recognizes_fail Grammar.hasWord_var (refuses_oneOf ?_)
    rintro ⟨name, hn⟩
    exact h name hn

theorem recognizes_stringContent (expected : Expectation) (c : Cursor) :
    (stringContent expected).Recognizes c Grammar.string Anything := by
  unfold stringContent
  refine .look ?_
  split
  · next content h =>
    exact (recognizes_advance h TokenKind.noConfusion ⟨content, rfl⟩).map _
  · next h =>
    refine recognizes_fail Grammar.hasWord_string (refuses_oneOf ?_)
    rintro ⟨content, hc⟩
    exact h content hc

theorem term_eq : Grammar.term = Grammar.var + Grammar.literal := by
  ext ks
  constructor
  · rintro ⟨_, ⟨t, rfl⟩, rfl⟩
    cases t with
    | var name => exact .inl ⟨_, ⟨name, rfl⟩, rfl⟩
    | literal v => exact .inr ⟨_, ⟨v, rfl⟩, rfl⟩
  · rintro (⟨_, ⟨name, rfl⟩, rfl⟩ | ⟨_, ⟨v, rfl⟩, rfl⟩)
    · exact ⟨_, ⟨.var name, rfl⟩, rfl⟩
    · exact ⟨_, ⟨.literal v, rfl⟩, rfl⟩

theorem recognizes_term (c : Cursor) : term.Recognizes c Grammar.term Anything := by
  unfold term
  rw [term_eq]
  refine .look ?_
  split
  · next name h =>
    refine ((recognizes_advance h TokenKind.noConfusion ⟨name, rfl⟩).map _).left (refuses_oneOf ?_)
    rintro ⟨v, hv⟩
    rw [h] at hv
    cases v <;> cases hv
  · next h =>
    refine ((recognizes_literal .term c).map _).right (refuses_oneOf ?_)
    rintro ⟨name, hn⟩
    exact h name hn

end

/-! ## Items with separators -/

section
variable {α : Type} {item : Parser α} {l : Language TokenKind} {after : TokenKind → Prop}

/-- What may follow items does not go on with another one. -/
def NoMore (separator : TokenKind) (after : TokenKind → Prop) (k : TokenKind) : Prop :=
  k ≠ separator ∧ after k

theorem starts_others {separator : TokenKind} (hs : after separator) {n : Language TokenKind}
    (hn : Starts n (NoMore separator after)) : Starts ((Grammar.tok separator * l)∗ * n) after := by
  refine .kstar (fun k ks hk => (hn k ks hk).2) fun n => ?_
  rw [mul_assoc]
  exact starts_tok hs _

theorem recognizes_others (separator : TokenKind) (hi : ∀ c, item.Recognizes c l after)
    (word : HasWord l) (hs : after separator) (here : separator ≠ .endOfDocument) (c : Cursor) :
    (others separator item).Recognizes c (Grammar.tok separator * l)∗ (NoMore separator after) := by
  induction hn : c.ahead.length using Nat.strong_induction_on generalizing c with
  | _ n ih =>
  rw [← Language.one_add_self_mul_kstar_eq_kstar]
  by_cases more : c.sees separator ∧ separator ≠ .endOfDocument
  · have kind : c.peek.kind = separator := Cursor.sees_eq_true.mp more.1
    refine Recognizes.congr (Recognizes.present ?_ fun e => e.1 kind) (others_run_more more)
    rw [mul_assoc]
    refine (recognizes_tok kind here).bind (fun _ d passed => ?_) (by simp [word]) fun _ _ _ _ _ => trivial
    cases passed
    refine (hi _).bind (fun x d read => ?_) hasWord_kstar fun n => starts_others hs
    exact (ih _ (hn ▸ length_lt_of_separator more read) d rfl).map _
  · have other : c.peek.kind ≠ separator := fun e => more ⟨Cursor.sees_eq_true.mpr e, here⟩
    exact (recognizes_nothing (others_run_done more) rfl).left (((refuses_tok other).mul l).mul _)

theorem recognizes_separated (separator : TokenKind) (hi : ∀ c, item.Recognizes c l after)
    (word : HasWord l) (hs : after separator) (here : separator ≠ .endOfDocument) (c : Cursor) :
    (separated separator item).Recognizes c (Grammar.list separator l) (NoMore separator after) := by
  unfold separated Grammar.list
  refine (hi c).bind (fun x d _ => ?_) hasWord_kstar fun n => starts_others hs
  exact (recognizes_others separator hi word hs here d).map _

end
end Parser
end PolicyGate.Source
