import PolicyGate.Proofs.Source.Pieces
import PolicyGate.Proofs.Source.RoundTrip

/-!
# Renaming the variables of a tree

A tree with renamed variables is written as the tokens with their variables renamed. Numbering the
variables of a text therefore numbers those of its tree: `Document.IsTreeOf.numbered`.
-/

namespace PolicyGate.Source

/-! ## Renaming -/

section
variable (f : String → String)

def Term.rename : Term → Term
  | var name => .var (f name)
  | literal value => .literal value

def Predicate.rename (p : Predicate) : Predicate :=
  { p with terms := p.terms.map (Term.rename f) }

def Constraint.rename : Constraint → Constraint
  | compare subject op value => .compare (f subject) op value
  | member subject negated first others => .member (f subject) negated first others
  | test function subject value => .test function (f subject) value

def Rule.rename (r : Rule) : Rule :=
  { r with
    head := r.head.rename f
    body := r.body.map (Predicate.rename f)
    constraints := r.constraints.map (Constraint.rename f) }

def Caveat.rename (c : Caveat) : Caveat :=
  { c with queries := c.queries.map (Rule.rename f) }

def Block.map {α : Type} (g : α → α) (b : Block α) : Block α :=
  { b with items := b.items.map g }

def Policy.rename (p : Policy) : Policy :=
  { p with
    rules := p.rules.map (Block.map (Rule.rename f))
    caveats := p.caveats.map (Block.map (Caveat.rename f)) }

def Document.rename (d : Document) : Document :=
  { d with policies := d.policies.map (Policy.rename f) }

def renameTokens (ks : List TokenKind) : List TokenKind :=
  ks.map (TokenKind.rename f)

end

variable {f : String → String}

/-! ## Tokens -/

theorem renameTokens_append (ks ls : List TokenKind) :
    renameTokens f (ks ++ ls) = renameTokens f ks ++ renameTokens f ls :=
  List.map_append

theorem renameTokens_joined {α : Type} {k : TokenKind} (hk : k.rename f = k) {tokens : α → List TokenKind}
    {g : α → α} (h : ∀ x, renameTokens f (tokens x) = tokens (g x)) (xs : List α) :
    renameTokens f (joined k (xs.map tokens)) = joined k ((xs.map g).map tokens) := by
  cases xs with
  | nil => rfl
  | cons x xs =>
    simp only [List.map_cons, joined, renameTokens_append, h, List.flatMap_map]
    congr 1
    simp only [renameTokens, List.map_flatMap, List.map_cons, hk]
    congr 1
    funext y
    rw [← h y]
    rfl

theorem rename_literal (v : Literal) : v.token.rename f = v.token := by
  cases v <;> rfl

theorem rename_term (t : Term) : t.token.rename f = (t.rename f).token := by
  cases t with
  | var name => rfl
  | literal v => exact rename_literal v

theorem Predicate.tokens_rename (p : Predicate) : renameTokens f p.tokens = (p.rename f).tokens := by
  have term (t : Term) : renameTokens f [t.token] = [(t.rename f).token] := by
    rw [← rename_term]
    rfl
  have terms : renameTokens f (termTokens p.terms) = termTokens (p.terms.map (Term.rename f)) :=
    renameTokens_joined rfl term p.terms
  rw [Predicate.tokens, Predicate.tokens, Predicate.rename, ← terms]
  show _ :: _ :: renameTokens f (termTokens p.terms ++ [.rightParen]) = _
  rw [renameTokens_append]
  rfl

theorem Constraint.tokens_rename (x : Constraint) : renameTokens f x.tokens = (x.rename f).tokens := by
  cases x with
  | compare subject op value =>
    have operator : op.token.rename f = op.token := by cases op <;> rfl
    simp only [renameTokens, Constraint.tokens, Constraint.rename, List.map_cons, List.map_nil, operator,
      rename_literal]
    rfl
  | member subject negated first others =>
    have words : renameTokens f (membershipTokens negated) = membershipTokens negated := by
      cases negated <;> rfl
    have set : renameTokens f (setTokens first others) = setTokens first others := by
      have comma : TokenKind.comma.rename f = .comma := rfl
      have brackets : TokenKind.leftBracket.rename f = .leftBracket ∧
        TokenKind.rightBracket.rename f = .rightBracket := ⟨rfl, rfl⟩
      simp [renameTokens, setTokens, rename_literal, List.map_flatMap, comma, brackets]
    show _ :: renameTokens f (_ ++ _) = _
    rw [renameTokens_append, words, set]
    rfl
  | test function subject value => rfl

theorem Rule.tokens_rename (r : Rule) : renameTokens f r.tokens = (r.rename f).tokens := by
  have body := renameTokens_joined (f := f) (k := .comma) rfl Predicate.tokens_rename r.body
  have constraints : renameTokens f (constraintTokens r.constraints) =
      constraintTokens (r.constraints.map (Constraint.rename f)) := by
    unfold constraintTokens
    by_cases hx : r.constraints = []
    · rw [hx]
      rfl
    · rw [if_neg hx, if_neg (by simpa using hx)]
      exact congrArg (TokenKind.atSign :: ·) (renameTokens_joined rfl Constraint.tokens_rename _)
  show _ :: renameTokens f (_ ++ _) = _
  rw [renameTokens_append, Predicate.tokens_rename]
  show _ :: (_ ++ _ :: renameTokens f (_ ++ _)) = _
  rw [renameTokens_append, body, constraints]
  rfl

theorem queryTokens_rename (qs : List Rule) :
    renameTokens f (queryTokens qs) = queryTokens (qs.map (Rule.rename f)) := by
  have queries := renameTokens_joined (f := f) (k := .or) rfl Rule.tokens_rename qs
  show _ :: renameTokens f (_ ++ _) = _
  rw [renameTokens_append, queries]
  rfl

/-! ## Trees as authors write them -/

theorem Rule.WrittenAs.rename {isFirst : Bool} {r : Rule} {ks : List TokenKind}
    (h : r.WrittenAs noComments isFirst ks) :
    (r.rename f).WrittenAs noComments isFirst (renameTokens f ks) := by
  cases h
  exact r.tokens_rename

theorem Caveat.WrittenAs.rename {isFirst : Bool} {c : Caveat} {ks : List TokenKind}
    (h : c.WrittenAs noComments isFirst ks) :
    (c.rename f).WrittenAs noComments isFirst (renameTokens f ks) := by
  rcases h with rfl | ⟨hf, rfl⟩
  · exact .inl (queryTokens_rename c.queries)
  · exact .inr ⟨hf, congrArg (TokenKind.comma :: ·) (queryTokens_rename c.queries)⟩

section
variable {α : Type} {written : Bool → α → List TokenKind → Prop} {g : α → α}

theorem ItemsWrittenAs.rename {isFirst : Bool} {xs : List α} {ks : List TokenKind}
    (h : ItemsWrittenAs written isFirst xs ks)
    (item : ∀ isFirst x ks, written isFirst x ks → written isFirst (g x) (renameTokens f ks)) :
    ItemsWrittenAs written isFirst (xs.map g) (renameTokens f ks) := by
  induction xs generalizing isFirst ks with
  | nil => cases h; rfl
  | cons x xs ih =>
    obtain ⟨l, m, rfl, hl, hm⟩ := h
    exact ⟨_, _, renameTokens_append l m, item _ _ _ hl, ih hm⟩

theorem OptionalWrittenAs.rename {word : String} {b : Option (Block α)} {ks : List TokenKind}
    (h : OptionalWrittenAs noComments written word b ks)
    (item : ∀ isFirst x ks, written isFirst x ks → written isFirst (g x) (renameTokens f ks)) :
    OptionalWrittenAs noComments written word (b.map (Block.map g)) (renameTokens f ks) := by
  cases b with
  | none => cases h; rfl
  | some b =>
    obtain ⟨l, rfl, m, rfl, hm⟩ := h
    refine ⟨renameTokens f _, rfl, renameTokens f m, ?_, hm.rename item⟩
    rw [renameTokens_append]
    rfl

end

theorem Policy.WrittenAs.rename {p : Policy} {ks : List TokenKind} (h : p.WrittenAs noComments ks) :
    (p.rename f).WrittenAs noComments (renameTokens f ks) := by
  obtain ⟨l, m, rfl, hl, hm⟩ := h
  refine ⟨renameTokens f l, renameTokens f m, ?_, hl.rename fun _ _ _ => Rule.WrittenAs.rename,
    hm.rename fun _ _ _ => Caveat.WrittenAs.rename⟩
  show _ :: _ :: _ :: renameTokens f (_ ++ (_ ++ _)) = _
  rw [renameTokens_append, renameTokens_append]
  rfl

theorem Document.WrittenAs.rename {d : Document} {ks : List TokenKind} (h : d.WrittenAs noComments ks) :
    (d.rename f).WrittenAs noComments (renameTokens f ks) := by
  obtain ⟨l, rfl, hl⟩ := h
  suffices hp : ∀ {ps l}, PoliciesWrittenAs noComments ps l →
      PoliciesWrittenAs noComments (ps.map (Policy.rename f)) (renameTokens f l) by
    refine ⟨renameTokens f l, ?_, hp hl⟩
    rw [renameTokens_append]
    rfl
  intro ps
  induction ps with
  | nil => intro l hl; cases hl; rfl
  | cons p ps ih =>
    rintro _ ⟨l, m, rfl, hl, hm⟩
    exact ⟨_, _, renameTokens_append l m, hl.rename, ih hm⟩

/-! ## Trees that can be written -/

theorem Rule.WellFormed.rename {r : Rule} (h : r.WellFormed) : (r.rename f).WellFormed := by
  intro e
  exact h (List.map_eq_nil_iff.mp e)

theorem Caveat.WellFormed.rename {c : Caveat} (h : c.WellFormed) : (c.rename f).WellFormed := by
  obtain ⟨hne, hq⟩ := h
  refine ⟨fun e => hne (List.map_eq_nil_iff.mp e), fun q hq' => ?_⟩
  obtain ⟨r, hr, rfl⟩ := List.mem_map.mp hq'
  exact ⟨(hq r hr).1, (hq r hr).2.rename⟩

theorem forall_items_rename {α : Type} {g : α → α} {ok : α → Prop} {b : Option (Block α)}
    (h : ∀ x ∈ b, ∀ i ∈ x.items, ok i) (hg : ∀ x, ok x → ok (g x)) :
    ∀ x ∈ b.map (Block.map g), ∀ i ∈ x.items, ok i := by
  intro x hx i hi
  obtain ⟨y, hy, rfl⟩ := Option.map_eq_some_iff.mp hx
  obtain ⟨j, hj, rfl⟩ := List.mem_map.mp hi
  exact hg j (h y hy j hj)

theorem Document.WellFormed.rename {d : Document} (h : d.WellFormed) : (d.rename f).WellFormed := by
  intro p hp
  obtain ⟨q, hq, rfl⟩ := List.mem_map.mp hp
  exact ⟨forall_items_rename (h q hq).rules fun _ => Rule.WellFormed.rename,
    forall_items_rename (h q hq).caveats fun _ => Caveat.WellFormed.rename⟩

/-! ## Numbering -/

def Document.variableNames (d : Document) : List (List Char) :=
  (d.tokens.filterMap TokenKind.var?).map String.toList

def Document.numbered (d : Document) : Document :=
  d.rename (numberedName (assignments d.variableNames))

theorem filterMap_filter_var? {p : TokenKind → Bool} (hp : ∀ name, p (.var name) = true)
    (ks : List TokenKind) :
    (ks.filter p).filterMap TokenKind.var? = ks.filterMap TokenKind.var? := by
  rw [List.filterMap_filter]
  congr 1
  funext k
  cases k with
  | var name => rw [if_pos (hp name)]
  | _ => exact ite_self _

theorem Document.WrittenAs.variableNames {d : Document} {ks : List TokenKind}
    (h : d.WrittenAs noComments (withoutComments ks)) :
    d.variableNames = (ks.filterMap TokenKind.var?).map String.toList := by
  have same := congrArg (List.filterMap TokenKind.var?) h.firm
  unfold withoutCommas withoutComments firmOnly at same
  rw [filterMap_filter_var? fun _ => rfl, filterMap_filter_var? fun _ => rfl,
    filterMap_filter_var? fun _ => rfl] at same
  rw [Document.variableNames, ← same]

theorem withoutComments_rename (ks : List TokenKind) :
    withoutComments (renameTokens f ks) = renameTokens f (withoutComments ks) := by
  unfold withoutComments renameTokens
  rw [List.filter_map]
  congr 2
  funext k
  cases k <;> rfl

/-! ## Texts of a tree -/

/-- The text spells the tree, with any layout and with any comments. -/
def Document.IsTreeOf (d : Document) (text : List Char) : Prop :=
  ∃ ks, Spells text ks ∧ d.WellFormed ∧ d.WrittenAs noComments (withoutComments ks)

theorem Document.isTreeOf_of_ofText {document : String} {d : Document}
    (h : Document.ofText document = .ok d) : d.IsTreeOf document.toList := by
  obtain ⟨ks, spells, ok, written, -⟩ := Document.sound_of_ofText h
  exact ⟨ks, spells, ok, written⟩

theorem Document.IsTreeOf.exists_ofText {document : String} {d : Document} (h : d.IsTreeOf document.toList) :
    ∃ d', Document.ofText document = .ok d' ∧ d.Agrees AnyComments d' := by
  obtain ⟨ks, spells, ok, written⟩ := h
  obtain ⟨ts, hts, hk⟩ := spells.tokenize
  obtain ⟨d', hd', agrees⟩ := Document.ofTokens_significant hk ok written
  refine ⟨d', ?_, agrees⟩
  rw [Document.ofText, hts]
  exact hd'

theorem Document.IsTreeOf.variableNames {text : List Char} {d : Document} (h : d.IsTreeOf text) :
    PolicyGate.Source.variableNames (pieces text) = d.variableNames := by
  obtain ⟨ks, spells, -, written⟩ := h
  rw [spells.variableNames, written.variableNames]

theorem Document.variableNames_of_ofText {document : String} {d : Document}
    (h : Document.ofText document = .ok d) :
    PolicyGate.Source.variableNames (pieces document.toList) = d.variableNames :=
  (Document.isTreeOf_of_ofText h).variableNames

/-- A text that spells the renamed tokens of a text has the renamed tree. -/
theorem Document.IsTreeOf.rename {text : List Char} {d : Document} (h : d.IsTreeOf text)
    {text' : List Char} (respelled : ∀ ks, Spells text ks → d.WrittenAs noComments (withoutComments ks) →
      Spells text' (renameTokens f ks)) : (d.rename f).IsTreeOf text' := by
  obtain ⟨ks, spells, ok, written⟩ := h
  refine ⟨renameTokens f ks, respelled ks spells written, ok.rename, ?_⟩
  rw [withoutComments_rename]
  exact written.rename

theorem Document.IsTreeOf.numbered {document : String} {d : Document} (h : d.IsTreeOf document.toList) :
    d.numbered.IsTreeOf (numberVariables document).text.toList := by
  refine h.rename fun ks spells _ => ?_
  rw [← h.variableNames]
  simpa [numberVariables, renameTokens] using spells.replaced (assignments _)

end PolicyGate.Source
