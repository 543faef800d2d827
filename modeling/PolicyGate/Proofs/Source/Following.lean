import Mathlib.Data.List.Forall2
import PolicyGate.Proofs.Source.Loops
import PolicyGate.Proofs.Source.Renaming

/-!
# Reading renamed tokens

Tokens follow others where their variables are renamed by `f` and their offsets are mapped back by `g`.
The parser treats both alike: the tree follows the tree, and an error is found at the token that follows
the one found in the other tokens (`Document.ofTokens_follows`).
-/

namespace PolicyGate.Source

def Policy.mapOffset (g : Nat → Nat) (p : Policy) : Policy :=
  { p with offset := g p.offset }

def Document.mapOffsets (g : Nat → Nat) (d : Document) : Document :=
  { d with policies := d.policies.map (Policy.mapOffset g) }

def SyntaxFault.rename (f : String → String) : SyntaxFault → SyntaxFault
  | unexpectedToken expected found => .unexpectedToken expected (found.rename f)
  | fault => fault

section
variable (f : String → String) (g : Nat → Nat)

structure Token.Follows (t t' : Token) : Prop where
  kind : t'.kind = t.kind.rename f
  offset : g t'.offset = t.offset

structure Lexeme.Follows (l l' : Lexeme) : Prop where
  comments : l'.comments = l.comments
  token : l.token.Follows f g l'.token

structure Cursor.Follows (c c' : Cursor) : Prop where
  ahead : List.Forall₂ (Lexeme.Follows f g) c.ahead c'.ahead
  hoisted : c'.hoisted = c.hoisted

/-- Both succeed, with related results, or both fail, the second at a place that comes from that of the
first. -/
inductive Follows {α β : Type} (R : α → β → Prop) : Except SyntaxError α → Except SyntaxError β → Prop
  | ok {x y} (related : R x y) : Follows R (.ok x) (.ok y)
  | error {e e'} (fault : e'.fault = e.fault.rename f) (offset : g e'.offset = e.offset) :
      Follows R (.error e) (.error e')

namespace Parser

def Follows {α β : Type} (R : α → β → Prop) (p : Parser α) (q : Parser β) : Prop :=
  ∀ c c', c.Follows f g c' →
    Source.Follows f g (fun r r' => R r.1 r'.1 ∧ r.2.Follows f g r'.2) (p.run c) (q.run c')

end Parser
end

variable {f : String → String} {g : Nat → Nat}

/-! ## Places -/

theorem rename_eq_iff {k l : TokenKind} (hk : k.var? = none) : l.rename f = k ↔ l = k := by
  constructor
  · intro h
    cases l with
    | var name =>
      rw [← h] at hk
      cases hk
    | _ => exact h
  · rintro rfl
    cases l with
    | var name => cases hk
    | _ => rfl

theorem Cursor.Follows.peek (start : g 0 = 0) {c c' : Cursor} (h : c.Follows f g c') :
    c.peek.Follows f g c'.peek := by
  obtain ⟨ahead, hoisted⟩ := c
  obtain ⟨ahead', hoisted'⟩ := c'
  obtain ⟨h, -⟩ := h
  cases h with
  | nil => exact ⟨rfl, start⟩
  | cons first rest => exact first.token

theorem Cursor.Follows.sees (start : g 0 = 0) {c c' : Cursor} (h : c.Follows f g c') {k : TokenKind}
    (hk : k.var? = none) : c'.sees k = c.sees k := by
  have kind := (h.peek start).kind
  rw [Bool.eq_iff_iff, Cursor.sees, Cursor.sees, beq_iff_eq, beq_iff_eq, kind]
  exact rename_eq_iff hk

theorem Cursor.Follows.seesWord (start : g 0 = 0) {c c' : Cursor} (h : c.Follows f g c') (word : String) :
    c'.seesWord word = c.seesWord word :=
  h.sees start (k := .identifier word) rfl

theorem Cursor.Follows.advance {c c' : Cursor} (h : c.Follows f g c') :
    c.advance.Follows f g c'.advance := by
  obtain ⟨ahead, hoisted⟩ := c
  obtain ⟨ahead', hoisted'⟩ := c'
  obtain ⟨h, same⟩ := h
  cases h with
  | nil => exact ⟨.nil, same⟩
  | cons first rest => exact ⟨rest, congrArg₂ (· ++ ·) same first.comments⟩

theorem Cursor.Follows.takeComments {c c' : Cursor} (h : c.Follows f g c') :
    c'.takeComments.1 = c.takeComments.1 ∧ c.takeComments.2.Follows f g c'.takeComments.2 := by
  obtain ⟨ahead, hoisted⟩ := c
  obtain ⟨ahead', hoisted'⟩ := c'
  obtain ⟨h, same⟩ := h
  cases h with
  | nil => exact ⟨rfl, .nil, same⟩
  | cons first rest => exact ⟨first.comments, .cons ⟨rfl, first.token⟩ rest, same⟩

theorem lexemes_follow {ts ts' : List Token} (h : List.Forall₂ (Token.Follows f g) ts ts')
    (pending : List String) :
    List.Forall₂ (Lexeme.Follows f g) (lexemes pending ts) (lexemes pending ts') := by
  induction h generalizing pending with
  | nil => exact .nil
  | @cons t t' ts ts' first _ ih =>
    have kind := first.kind
    rw [lexemes, lexemes]
    cases hk : t.kind with
    | comment text =>
      rw [hk] at kind
      rw [kind]
      exact ih _
    | _ =>
      rw [hk] at kind
      rw [kind]
      exact .cons ⟨rfl, first⟩ (ih [])

theorem Follows.cases {α β : Type} {R : α → β → Prop} {a : Except SyntaxError α}
    {b : Except SyntaxError β} (h : Follows f g R a b) :
    (∃ x y, a = .ok x ∧ b = .ok y ∧ R x y) ∨
      ∃ e e', a = .error e ∧ b = .error e' ∧ e'.fault = e.fault.rename f ∧ g e'.offset = e.offset := by
  cases h with
  | ok related => exact .inl ⟨_, _, rfl, rfl, related⟩
  | error fault offset => exact .inr ⟨_, _, rfl, rfl, fault, offset⟩

theorem Follows.bind {α β γ δ : Type} {R : α → β → Prop} {S : γ → δ → Prop} {a : Except SyntaxError α}
    {b : Except SyntaxError β} {k : α → Except SyntaxError γ} {k' : β → Except SyntaxError δ}
    (h : Follows f g R a b) (hk : ∀ x y, a = .ok x → R x y → Follows f g S (k x) (k' y)) :
    Follows f g S (a >>= k) (b >>= k') := by
  cases h with
  | ok related => exact hk _ _ rfl related
  | error fault offset => exact .error fault offset

namespace Parser

/-! ## Putting readers together -/

section
variable {α β γ δ : Type} {R R' : α → β → Prop} {S : γ → δ → Prop} {p : Parser α} {q : Parser β}

theorem Follows.mono (h : p.Follows f g R q) (hR : ∀ x y, R x y → R' x y) : p.Follows f g R' q := by
  intro c c' hc
  have related := h c c' hc
  generalize p.run c = r, q.run c' = r' at related ⊢
  cases related with
  | ok related => exact .ok ⟨hR _ _ related.1, related.2⟩
  | error fault offset => exact .error fault offset

theorem follows_pure {x : α} {y : β} (h : R x y) :
    Follows f g R (Pure.pure x) (Pure.pure y) := by
  intro c c' hc
  exact .ok ⟨h, hc⟩

theorem Follows.bind {k : α → Parser γ} {k' : β → Parser δ} (h : p.Follows f g R q)
    (hk : ∀ x y, R x y → (k x).Follows f g S (k' y)) : (p >>= k).Follows f g S (q >>= k') := by
  intro c c' hc
  rw [run_bind_eq, run_bind_eq]
  refine (h c c' hc).bind fun r r' _ related => ?_
  exact hk r.1 r'.1 related.1 _ _ related.2

theorem follows_cursor : Follows f g (Cursor.Follows f g) cursor cursor := by
  intro c c' hc
  exact .ok ⟨hc, hc⟩

theorem follows_advance : Follows f g Eq advance advance := by
  intro c c' hc
  exact .ok ⟨rfl, hc.advance⟩

theorem follows_takeComments : Follows f g Eq takeComments takeComments := by
  intro c c' hc
  exact .ok ⟨hc.takeComments.1.symm, hc.takeComments.2⟩

theorem follows_takeHoisted : Follows f g Eq takeHoisted takeHoisted := by
  intro c c' hc
  exact .ok ⟨hc.hoisted.symm, hc.ahead, rfl⟩

end

-- The end of the document that a cursor sees behind all tokens stands at 0, which must come from 0.
variable (start : g 0 = 0)
include start

section
variable {α β : Type} {R : α → β → Prop} {p : Parser α} {q : Parser β}

theorem follows_fail (expected : Expectation) : Follows f g R (fail expected) (fail expected) := by
  intro c c' hc
  have peek := hc.peek start
  exact .error (congrArg (SyntaxFault.unexpectedToken expected) peek.kind) peek.offset

theorem follows_if_sees {k : TokenKind} (hk : k.var? = none) {yes no : Cursor → Parser α}
    {yes' no' : Cursor → Parser β}
    (hyes : ∀ {c c'}, c.Follows f g c' → (yes c).Follows f g R (yes' c'))
    (hno : ∀ {c c'}, c.Follows f g c' → (no c).Follows f g R (no' c')) :
    Follows f g R (cursor >>= fun c => if c.sees k then yes c else no c)
      (cursor >>= fun c => if c.sees k then yes' c else no' c) := by
  refine follows_cursor.bind fun c c' hc => ?_
  rw [hc.sees start hk]
  by_cases h : c.sees k = true
  · rw [if_pos h, if_pos h]
    exact hyes hc
  · rw [if_neg h, if_neg h]
    exact hno hc

theorem follows_if_seesWord {word : String} {yes no : Cursor → Parser α} {yes' no' : Cursor → Parser β}
    (hyes : ∀ {c c'}, c.Follows f g c' → (yes c).Follows f g R (yes' c'))
    (hno : ∀ {c c'}, c.Follows f g c' → (no c).Follows f g R (no' c')) :
    Follows f g R (cursor >>= fun c => if c.seesWord word then yes c else no c)
      (cursor >>= fun c => if c.seesWord word then yes' c else no' c) :=
  follows_if_sees start (k := .identifier word) rfl hyes hno

end

/-! ## Tokens -/

theorem expect_follows {k : TokenKind} (hk : k.var? = none) :
    (expect k).Follows f g (fun o o' => g o' = o) (expect k) := by
  unfold expect
  refine follows_if_sees start hk (fun hc => ?_) fun _ => follows_fail start _
  exact follows_advance.bind fun _ _ _ => follows_pure (hc.peek start).offset

theorem expectWord_follows (word : String) :
    (expectWord word).Follows f g (fun o o' => g o' = o) (expectWord word) := by
  unfold expectWord
  refine follows_if_seesWord start (fun hc => ?_) fun _ => follows_fail start _
  exact follows_advance.bind fun _ _ _ => follows_pure (hc.peek start).offset

theorem delimiter_follows {k : TokenKind} (hk : k.var? = none) (expected : Expectation) :
    (delimiter k expected).Follows f g Eq (delimiter k expected) := by
  unfold delimiter
  exact follows_if_sees start hk (fun _ => follows_advance) fun _ => follows_fail start _

omit start in
theorem literal?_rename (k : TokenKind) : literal? (k.rename f) = literal? k := by
  cases k <;> rfl

omit start in
theorem comparison?_rename (k : TokenKind) : comparison? (k.rename f) = comparison? k := by
  cases k <;> rfl

theorem literal_follows (expected : Expectation) :
    (literal expected).Follows f g Eq (literal expected) := by
  unfold literal
  refine follows_cursor.bind fun c c' hc => ?_
  rw [(hc.peek start).kind, literal?_rename]
  cases literal? c.peek.kind with
  | none => exact follows_fail start _
  | some value => exact follows_advance.bind fun _ _ _ => follows_pure rfl

theorem variableName_follows (expected : Expectation) :
    (variableName expected).Follows f g (fun name name' => name' = f name) (variableName expected) := by
  unfold variableName
  refine follows_cursor.bind fun c c' hc => ?_
  rw [(hc.peek start).kind]
  cases c.peek.kind with
  | var name => exact follows_advance.bind fun _ _ _ => follows_pure rfl
  | _ => exact follows_fail start _

theorem stringContent_follows (expected : Expectation) :
    (stringContent expected).Follows f g Eq (stringContent expected) := by
  unfold stringContent
  refine follows_cursor.bind fun c c' hc => ?_
  rw [(hc.peek start).kind]
  cases c.peek.kind with
  | string content => exact follows_advance.bind fun _ _ _ => follows_pure rfl
  | _ => exact follows_fail start _

/-! ## Items with separators -/

section
variable {α β : Type} {R : α → β → Prop} {item : Parser α} {item' : Parser β} {separator : TokenKind}

theorem others_follows (hs : separator.var? = none) (hi : item.Follows f g R item') :
    (others separator item).Follows f g (List.Forall₂ R) (others separator item') := by
  intro c c' hc
  simp only [others]
  induction hn : c.ahead.length using Nat.strong_induction_on generalizing c c' with
  | _ n ih =>
  rw [othersFrom_eq, othersFrom_eq, hc.sees start hs]
  by_cases more : c.sees separator ∧ separator ≠ .endOfDocument
  · rw [if_pos more, if_pos more]
    refine (hi _ _ hc.advance).bind fun x y read first => ?_
    refine (ih _ (hn ▸ length_lt_of_separator more read) _ _ first.2 rfl).bind fun xs ys _ rest => ?_
    exact .ok ⟨.cons first.1 rest.1, rest.2⟩
  · rw [if_neg more, if_neg more]
    exact .ok ⟨.nil, hc⟩

theorem separated_follows (hs : separator.var? = none) (hi : item.Follows f g R item') :
    (separated separator item).Follows f g (List.Forall₂ R) (separated separator item') := by
  unfold separated
  refine hi.bind fun x y first => (others_follows start hs hi).bind fun xs ys rest => ?_
  exact follows_pure (.cons first rest)

end

abbrev FollowsAs (f : String → String) (g : Nat → Nat) {α : Type} (rename : α → α) (p : Parser α) : Prop :=
  p.Follows f g (fun x y => y = rename x) p

omit start in
theorem forall₂_eq_map {α : Type} {rename : α → α} {xs ys : List α}
    (h : List.Forall₂ (fun x y => y = rename x) xs ys) : ys = xs.map rename := by
  rw [← List.forall₂_eq_eq_eq, List.forall₂_map_right_iff]
  exact h.flip.imp fun _ _ e => e

/-! ## Rules -/

theorem term_follows : FollowsAs f g (Term.rename f) term := by
  unfold term
  refine follows_cursor.bind fun c c' hc => ?_
  rw [(hc.peek start).kind]
  have otherwise : FollowsAs f g (Term.rename f) (do return .literal (← literal .term)) := by
    refine (literal_follows start .term).bind fun v v' same => ?_
    exact follows_pure (same ▸ rfl)
  cases c.peek.kind with
  | var name => exact follows_advance.bind fun _ _ _ => follows_pure rfl
  | _ => exact otherwise

theorem terms_follows : FollowsAs f g (List.map (Term.rename f)) terms := by
  unfold terms
  refine follows_if_sees start rfl (fun _ => follows_pure rfl) fun _ => ?_
  exact (separated_follows start rfl (term_follows start)).mono fun _ _ => forall₂_eq_map

theorem predicate_follows : FollowsAs f g (Predicate.rename f) predicate := by
  unfold predicate
  refine follows_cursor.bind fun c c' hc => ?_
  rw [(hc.peek start).kind]
  cases c.peek.kind with
  | identifier name =>
    refine follows_advance.bind fun _ _ _ => (expect_follows start rfl).bind fun _ _ _ => ?_
    refine (terms_follows start).bind fun ts ts' terms => (expect_follows start rfl).bind fun _ _ _ => ?_
    exact follows_pure (terms ▸ rfl)
  | _ => exact follows_fail start _

theorem stringTest_follows (name : String) : FollowsAs f g (Constraint.rename f) (stringTest name) := by
  unfold stringTest
  cases StringTest.ofName? name with
  | none => exact follows_fail start _
  | some function =>
    refine follows_advance.bind fun _ _ _ => (expect_follows start rfl).bind fun _ _ _ => ?_
    refine (variableName_follows start _).bind fun v v' subject => ?_
    refine (expect_follows start rfl).bind fun _ _ _ => ?_
    refine (stringContent_follows start _).bind fun s s' value => ?_
    refine (expect_follows start rfl).bind fun _ _ _ => ?_
    exact follows_pure (subject ▸ value ▸ rfl)

theorem membershipWord_follows : membershipWord.Follows f g Eq membershipWord := by
  unfold membershipWord
  refine follows_cursor.bind fun c c' hc => ?_
  rw [hc.seesWord start, hc.seesWord start]
  by_cases negated : c.seesWord "not" = true
  · rw [if_pos negated]
    refine follows_advance.bind fun _ _ _ => (expectWord_follows start "in").bind fun _ _ _ => ?_
    exact follows_pure rfl
  · rw [if_neg negated]
    by_cases plain : c.seesWord "in" = true
    · rw [if_pos plain]
      exact follows_advance.bind fun _ _ _ => follows_pure rfl
    · rw [if_neg plain]
      exact follows_fail start _

theorem set_follows : set.Follows f g Eq set := by
  unfold set
  refine (expect_follows start rfl).bind fun _ _ _ => ?_
  refine (literal_follows start _).bind fun v v' first => ?_
  refine (others_follows start rfl (literal_follows start _)).bind fun vs vs' rest => ?_
  refine (expect_follows start rfl).bind fun _ _ _ => ?_
  rw [List.forall₂_eq_eq_eq] at rest
  exact follows_pure (first ▸ rest ▸ rfl)

theorem relation_follows {subject subject' : String} (h : subject' = f subject) :
    (relation subject).Follows f g (fun x y => y = x.rename f) (relation subject') := by
  subst h
  unfold relation
  refine follows_cursor.bind fun c c' hc => ?_
  rw [(hc.peek start).kind, comparison?_rename]
  cases comparison? c.peek.kind with
  | some op =>
    refine follows_advance.bind fun _ _ _ => (literal_follows start _).bind fun v v' value => ?_
    exact follows_pure (value ▸ rfl)
  | none =>
    refine (membershipWord_follows start).bind fun b b' negated => ?_
    refine (set_follows start).bind fun vs vs' members => ?_
    exact follows_pure (negated ▸ members ▸ rfl)

theorem constraint_follows : FollowsAs f g (Constraint.rename f) constraint := by
  unfold constraint
  refine follows_cursor.bind fun c c' hc => ?_
  rw [(hc.peek start).kind]
  have otherwise : FollowsAs f g (Constraint.rename f) (do relation (← variableName .constraint)) :=
    (variableName_follows start _).bind fun v v' subject => relation_follows start subject
  cases c.peek.kind with
  | identifier name => exact stringTest_follows start name
  | _ => exact otherwise

theorem constraints_follows : FollowsAs f g (List.map (Constraint.rename f)) constraints := by
  unfold constraints
  refine follows_if_sees start rfl (fun _ => ?_) fun _ => follows_pure rfl
  refine follows_advance.bind fun _ _ _ => ?_
  exact (separated_follows start rfl (constraint_follows start)).mono fun _ _ => forall₂_eq_map

theorem rule_follows : FollowsAs f g (Rule.rename f) rule := by
  unfold rule ruleBody
  refine (expect_follows start rfl).bind fun _ _ _ => ?_
  refine (predicate_follows start).bind fun p p' head => (expect_follows start rfl).bind fun _ _ _ => ?_
  refine (separated_follows start rfl (predicate_follows start)).bind fun ps ps' body => ?_
  refine (constraints_follows start).bind fun xs xs' constraints => ?_
  exact follows_pure (head ▸ forall₂_eq_map body ▸ constraints ▸ rfl)

theorem caveatList_follows : FollowsAs f g (List.map (Rule.rename f)) caveatList := by
  unfold caveatList caveatQueries
  refine (delimiter_follows start rfl _).bind fun _ _ _ => ?_
  refine (separated_follows start rfl (rule_follows start)).bind fun qs qs' queries => ?_
  refine (expect_follows start rfl).bind fun _ _ _ => ?_
  exact follows_pure (forall₂_eq_map queries)

/-! ## Blocks -/

theorem commentedRule_follows : FollowsAs f g (Rule.rename f) commentedRule := by
  unfold commentedRule
  refine follows_takeComments.bind fun cs cs' comments => (rule_follows start).bind fun r r' rule => ?_
  refine follows_takeHoisted.bind fun ds ds' hoisted => ?_
  exact follows_pure (comments ▸ rule ▸ hoisted ▸ rfl)

theorem caveatSeparator_follows (isFirst : Bool) :
    (caveatSeparator isFirst).Follows f g Eq (caveatSeparator isFirst) := by
  unfold caveatSeparator
  refine follows_cursor.bind fun c c' hc => ?_
  rw [hc.sees start (k := .comma) rfl]
  by_cases comma : (!isFirst && c.sees .comma) = true
  · rw [if_pos comma]
    refine follows_advance.bind fun _ _ _ => follows_takeHoisted.bind fun cs cs' hoisted => ?_
    refine follows_takeComments.bind fun ds ds' comments => ?_
    exact follows_pure (hoisted ▸ comments ▸ rfl)
  · rw [if_neg comma]
    exact follows_pure rfl

theorem commentedCaveat_follows (isFirst : Bool) :
    FollowsAs f g (Caveat.rename f) (commentedCaveat isFirst) := by
  unfold commentedCaveat
  refine follows_takeComments.bind fun cs cs' comments => ?_
  refine (caveatSeparator_follows start isFirst).bind fun ds ds' around => ?_
  refine (caveatList_follows start).bind fun qs qs' queries => ?_
  refine follows_takeHoisted.bind fun es es' hoisted => ?_
  exact follows_pure (comments ▸ around ▸ queries ▸ hoisted ▸ rfl)

theorem block_follows {α : Type} {rename : α → α} {item : Bool → Parser α}
    {progresses : ∀ b, (item b).Progresses} (hi : ∀ isFirst, FollowsAs f g rename (item isFirst)) :
    FollowsAs f g (Block.map rename) (block item progresses) := by
  intro c c' hc
  simp only [block]
  generalize true = isFirst
  induction hn : c.ahead.length using Nat.strong_induction_on generalizing c c' isFirst with
  | _ n ih =>
  rw [blockFrom_eq, blockFrom_eq, hc.sees start (k := .rightBrace) rfl]
  by_cases close : c.sees .rightBrace = true
  · rw [if_pos close, if_pos close]
    obtain ⟨comments, taken⟩ := hc.takeComments
    exact .ok ⟨congrArg (Block.mk []) comments, taken.advance⟩
  · rw [if_neg close, if_neg close]
    refine (hi isFirst _ _ hc).bind fun x y read first => ?_
    refine (ih _ (hn ▸ progresses isFirst _ _ _ read) _ _ first.2 false rfl).bind fun b b' _ rest => ?_
    exact .ok ⟨first.1 ▸ rest.1 ▸ rfl, rest.2⟩

theorem optionalBlock_follows {α : Type} {rename : α → α} {contents : Parser (Block α)}
    (h : FollowsAs f g (Block.map rename) contents) (word : String) :
    FollowsAs f g (Option.map (Block.map rename)) (optionalBlock word contents) := by
  unfold optionalBlock
  refine follows_if_seesWord start (fun _ => ?_) fun _ => follows_pure rfl
  refine follows_advance.bind fun _ _ _ => (expect_follows start rfl).bind fun _ _ _ => ?_
  exact h.bind fun b b' contents => follows_pure (contents ▸ rfl)

/-! ## Documents -/

theorem policy_follows : policy.Follows f g (fun p p' => p'.mapOffset g = p.rename f) policy := by
  unfold policy policyBody
  refine follows_takeComments.bind fun cs cs' comments => ?_
  refine (expectWord_follows start "policy").bind fun o o' offset => ?_
  refine (stringContent_follows start _).bind fun n n' name => (expect_follows start rfl).bind fun _ _ _ => ?_
  refine (optionalBlock_follows start (block_follows start fun _ => commentedRule_follows start) "rules").bind
    fun rs rs' rules => ?_
  refine (optionalBlock_follows start (block_follows start (commentedCaveat_follows start)) "caveats").bind
    fun xs xs' caveats => ?_
  subst comments offset name rules caveats
  rw [Option.isSome_map, Option.isSome_map]
  refine (delimiter_follows start rfl _).bind fun _ _ _ => follows_takeHoisted.bind fun ds ds' hoisted => ?_
  subst hoisted
  exact follows_pure rfl

theorem documentFrom_follows {c c' : Cursor} (hc : c.Follows f g c') :
    Source.Follows f g (fun d d' => d'.mapOffsets g = d.rename f) (documentFrom c) (documentFrom c') := by
  induction hn : c.ahead.length using Nat.strong_induction_on generalizing c c' with
  | _ n ih =>
  rw [documentFrom_eq, documentFrom_eq, hc.sees start (k := .endOfDocument) rfl]
  by_cases done : c.sees .endOfDocument = true
  · rw [if_pos done, if_pos done]
    exact .ok (congrArg (Document.mk []) hc.takeComments.1)
  · rw [if_neg done, if_neg done]
    refine (policy_follows start _ _ hc).bind fun p p' read first => ?_
    refine (ih _ (hn ▸ progresses_policy _ _ _ read) first.2 rfl).bind fun d d' _ rest => ?_
    have policies : d'.policies.map (Policy.mapOffset g) = d.policies.map (Policy.rename f) :=
      congrArg Document.policies rest
    have comments : d'.trailingComments = d.trailingComments :=
      (congrArg Document.trailingComments rest :)
    exact .ok (congrArg₂ Document.mk (congrArg₂ List.cons first.1 policies) comments)

end Parser

theorem Document.ofTokens_follows (start : g 0 = 0) {ts ts' : List Token}
    (h : List.Forall₂ (Token.Follows f g) ts ts') :
    Follows f g (fun d d' => d'.mapOffsets g = d.rename f) (Document.ofTokens ts) (Document.ofTokens ts') :=
  Parser.documentFrom_follows start ⟨lexemes_follow h [], rfl⟩

end PolicyGate.Source
