import PolicyGate.Policy.Lowering
import PolicyGate.Proofs.Source.Following

/-!
# The variables of a tree

The occurrences of variables in a tree, in the order in which they are written. Renaming renames them and
nothing else (`Document.rename_rename`), and offsets do not matter for them.
-/

namespace PolicyGate.Source

def Term.var? : Term → Option String
  | var name => some name
  | literal _ => none

def Predicate.vars (p : Predicate) : List String :=
  p.terms.filterMap Term.var?

def Constraint.subject : Constraint → String
  | compare subject _ _ => subject
  | member subject _ _ _ => subject
  | test _ subject _ => subject

def Rule.vars (r : Rule) : List String :=
  r.head.vars ++ r.body.flatMap Predicate.vars ++ r.constraints.map Constraint.subject

def Caveat.vars (c : Caveat) : List String :=
  c.queries.flatMap Rule.vars

def Policy.vars (p : Policy) : List String :=
  (blockItems p.rules).flatMap Rule.vars ++ (blockItems p.caveats).flatMap Caveat.vars

def Document.vars (d : Document) : List String :=
  d.policies.flatMap Policy.vars

/-! ## The variables among the tokens -/

def tokenVars (ks : List TokenKind) : List String :=
  ks.filterMap TokenKind.var?

theorem tokenVars_append (ks ls : List TokenKind) : tokenVars (ks ++ ls) = tokenVars ks ++ tokenVars ls :=
  List.filterMap_append

theorem tokenVars_cons {k : TokenKind} (hk : k.var? = none) (ks : List TokenKind) :
    tokenVars (k :: ks) = tokenVars ks :=
  List.filterMap_cons_none hk

theorem tokenVars_flatMap {α : Type} {tokens : α → List TokenKind} {vars : α → List String}
    (h : ∀ x, tokenVars (tokens x) = vars x) (xs : List α) :
    tokenVars (xs.flatMap tokens) = xs.flatMap vars := by
  induction xs with
  | nil => rfl
  | cons x xs ih => rw [List.flatMap_cons, tokenVars_append, h, ih, List.flatMap_cons]

theorem tokenVars_joined {α : Type} {separator : TokenKind} (hs : separator.var? = none)
    {tokens : α → List TokenKind} {vars : α → List String} (h : ∀ x, tokenVars (tokens x) = vars x)
    (xs : List α) : tokenVars (joined separator (xs.map tokens)) = xs.flatMap vars := by
  cases xs with
  | nil => rfl
  | cons x xs =>
    have separated (y : α) : tokenVars (separator :: tokens y) = vars y := by rw [tokenVars_cons hs, h]
    rw [List.map_cons, joined, List.flatMap_map, tokenVars_append, h, tokenVars_flatMap separated,
      List.flatMap_cons]

theorem var?_literal (v : Literal) : v.token.var? = none := by
  cases v <;> rfl

theorem var?_term (t : Term) : t.token.var? = t.var? := by
  cases t with
  | var name => rfl
  | literal v => exact var?_literal v

theorem tokenVars_terms (ts : List Term) : tokenVars (termTokens ts) = ts.filterMap Term.var? := by
  have single (t : Term) : tokenVars [t.token] = t.var?.toList := by
    rw [← var?_term, tokenVars, List.filterMap_cons]
    cases t.token.var? <;> rfl
  rw [termTokens, tokenVars_joined rfl single, List.filterMap_eq_flatMap_toList]

theorem tokenVars_predicate (p : Predicate) : tokenVars p.tokens = p.vars := by
  rw [Predicate.tokens, tokenVars_cons rfl, tokenVars_cons rfl, tokenVars_append, tokenVars_terms]
  exact List.append_nil _

theorem tokenVars_literals (vs : List Literal) :
    tokenVars (vs.flatMap fun v => [.comma, v.token]) = [] := by
  have none (v : Literal) : tokenVars [.comma, v.token] = [] := by
    rw [tokenVars_cons rfl, tokenVars_cons (var?_literal v)]
    rfl
  rw [tokenVars_flatMap none]
  simp

theorem tokenVars_constraint (x : Constraint) : tokenVars x.tokens = [x.subject] := by
  cases x with
  | compare subject op value => cases op <;> cases value <;> rfl
  | member subject negated first others =>
    have words : tokenVars (membershipTokens negated) = [] := by cases negated <;> rfl
    have set : tokenVars (setTokens first others) = [] := by
      rw [setTokens, tokenVars_cons rfl, tokenVars_cons (var?_literal first), tokenVars_append,
        tokenVars_literals]
      rfl
    show subject :: tokenVars (membershipTokens negated ++ setTokens first others) = [subject]
    rw [tokenVars_append, words, set]
    rfl
  | test function subject value => rfl

theorem tokenVars_constraints (xs : List Constraint) :
    tokenVars (constraintTokens xs) = xs.map Constraint.subject := by
  unfold constraintTokens
  by_cases h : xs = []
  · rw [if_pos h, h]
    rfl
  · rw [if_neg h, tokenVars_cons rfl, tokenVars_joined rfl tokenVars_constraint]
    exact List.map_eq_flatMap.symm

theorem tokenVars_rule (r : Rule) : tokenVars r.tokens = r.vars := by
  rw [Rule.tokens, tokenVars_cons rfl, tokenVars_append, tokenVars_predicate, tokenVars_cons rfl,
    tokenVars_append, tokenVars_joined rfl tokenVars_predicate, tokenVars_constraints, ← List.append_assoc]
  rfl

theorem tokenVars_comments (comments : List String) : tokenVars (commentTokens comments) = [] := by
  simp [tokenVars, commentTokens, List.filterMap_map, TokenKind.var?, Function.comp_def]

theorem tokenVars_commentedRule (r : Rule) : tokenVars r.commentedTokens = r.vars := by
  rw [Rule.commentedTokens, tokenVars_append, tokenVars_comments, tokenVars_rule]
  rfl

theorem tokenVars_commentedCaveat (c : Caveat) : tokenVars c.commentedTokens = c.vars := by
  rw [Caveat.commentedTokens, tokenVars_append, tokenVars_comments, queryTokens, tokenVars_cons rfl,
    tokenVars_append, tokenVars_joined rfl tokenVars_rule]
  exact List.append_nil _

theorem tokenVars_optional {α : Type} {tokens : α → List TokenKind} {vars : α → List String}
    (h : ∀ x, tokenVars (tokens x) = vars x) (word : String) (b : Option (Block α)) :
    tokenVars (optionalTokens word tokens b) = (blockItems b).flatMap vars := by
  cases b with
  | none => rfl
  | some b =>
    rw [optionalTokens, tokenVars_cons rfl, tokenVars_cons rfl, Block.tokens, tokenVars_append,
      tokenVars_append, tokenVars_comments, tokenVars_flatMap h]
    exact List.append_nil _

theorem tokenVars_policy (p : Policy) : tokenVars p.tokens = p.vars := by
  have brace : tokenVars [.rightBrace] = [] := rfl
  rw [Policy.tokens, tokenVars_append, tokenVars_comments, tokenVars_cons rfl, tokenVars_cons rfl,
    tokenVars_cons rfl, tokenVars_append, tokenVars_append, tokenVars_optional tokenVars_commentedRule,
    tokenVars_optional tokenVars_commentedCaveat, brace, List.append_nil]
  rfl

theorem Document.variableNames_eq (d : Document) : d.variableNames = d.vars.map String.toList := by
  have tokens : tokenVars d.tokens = d.vars := by
    rw [Document.tokens, tokenVars_append, tokenVars_comments, tokenVars_flatMap tokenVars_policy]
    exact List.append_nil _
  rw [← tokens]
  rfl

/-- The name that stands for a name of a text with these variables. -/
def nameIn (names : List String) : String → String :=
  numberedName (assignments (names.map String.toList))

theorem Document.numbered_eq_rename (d : Document) : d.numbered = d.rename (nameIn d.vars) := by
  rw [numbered, d.variableNames_eq]
  rfl

/-! ## Renamed trees -/

section
variable (f : String → String)

theorem flatMap_map_vars {α : Type} {g : α → α} {vars : α → List String}
    (h : ∀ x, vars (g x) = (vars x).map f) (xs : List α) :
    (xs.map g).flatMap vars = (xs.flatMap vars).map f := by
  rw [List.flatMap_map, List.map_flatMap]
  simp only [h]

theorem Predicate.vars_rename (p : Predicate) : (p.rename f).vars = p.vars.map f := by
  unfold Predicate.vars Predicate.rename
  rw [List.filterMap_map, List.map_filterMap]
  congr 1
  funext t
  cases t <;> rfl

theorem Rule.vars_rename (r : Rule) : (r.rename f).vars = r.vars.map f := by
  have subject : Constraint.subject ∘ Constraint.rename f = f ∘ Constraint.subject := by
    funext x
    cases x <;> rfl
  have subjects : (r.constraints.map (Constraint.rename f)).map Constraint.subject =
      (r.constraints.map Constraint.subject).map f := by
    rw [List.map_map, List.map_map, subject]
  simp only [Rule.vars, Rule.rename, List.map_append, Predicate.vars_rename,
    flatMap_map_vars f (Predicate.vars_rename f), subjects]

theorem Caveat.vars_rename (c : Caveat) : (c.rename f).vars = c.vars.map f :=
  flatMap_map_vars f (Rule.vars_rename f) c.queries

theorem blockItems_map {α : Type} (g : α → α) (b : Option (Block α)) :
    blockItems (b.map (Block.map g)) = (blockItems b).map g := by
  cases b <;> rfl

theorem Policy.vars_rename (p : Policy) : (p.rename f).vars = p.vars.map f := by
  simp only [Policy.vars, Policy.rename, blockItems_map, List.map_append,
    flatMap_map_vars f (Rule.vars_rename f), flatMap_map_vars f (Caveat.vars_rename f)]

theorem Document.vars_rename (d : Document) : (d.rename f).vars = d.vars.map f :=
  flatMap_map_vars f (Policy.vars_rename f) d.policies

end

/-! ## Trees renamed twice

What a renaming does depends on the variables of the tree alone. -/

section
variable {f g k : String → String}

theorem map_rename_rename {α : Type} {rename : (String → String) → α → α} {vars : α → List String}
    (item : ∀ x, (∀ n ∈ vars x, g (f n) = k n) → rename g (rename f x) = rename k x) {xs : List α}
    (h : ∀ n ∈ xs.flatMap vars, g (f n) = k n) : (xs.map (rename f)).map (rename g) = xs.map (rename k) := by
  rw [List.map_map]
  exact List.map_congr_left fun x hx => item x fun n hn => h n (List.mem_flatMap.mpr ⟨x, hx, hn⟩)

theorem Term.rename_rename (t : Term) (h : ∀ n ∈ t.var?.toList, g (f n) = k n) :
    (t.rename f).rename g = t.rename k := by
  cases t with
  | var name => exact congrArg Term.var (h name (by simp [Term.var?]))
  | literal value => rfl

theorem Constraint.rename_rename (x : Constraint) (h : ∀ n ∈ [x.subject], g (f n) = k n) :
    (x.rename f).rename g = x.rename k := by
  have same := h x.subject List.mem_cons_self
  cases x <;> simp only [Constraint.rename, Constraint.subject] at same ⊢ <;> rw [same]

theorem Predicate.rename_rename (p : Predicate) (h : ∀ n ∈ p.vars, g (f n) = k n) :
    (p.rename f).rename g = p.rename k := by
  rw [Predicate.vars, List.filterMap_eq_flatMap_toList] at h
  exact congrArg (Predicate.mk p.name) (map_rename_rename Term.rename_rename h)

theorem Rule.rename_rename (r : Rule) (h : ∀ n ∈ r.vars, g (f n) = k n) :
    (r.rename f).rename g = r.rename k := by
  rw [Rule.vars, List.map_eq_flatMap] at h
  obtain ⟨predicates, subjects⟩ := List.forall_mem_append.mp h
  obtain ⟨head, body⟩ := List.forall_mem_append.mp predicates
  have heads := r.head.rename_rename head
  have bodies := map_rename_rename Predicate.rename_rename body
  have constraints := map_rename_rename Constraint.rename_rename subjects
  simp only [Rule.rename, heads, bodies, constraints]

theorem Caveat.rename_rename (c : Caveat) (h : ∀ n ∈ c.vars, g (f n) = k n) :
    (c.rename f).rename g = c.rename k :=
  congrArg (Caveat.mk c.comments) (map_rename_rename Rule.rename_rename h)

theorem optional_rename_rename {α : Type} {rename : (String → String) → α → α} {vars : α → List String}
    (item : ∀ x, (∀ n ∈ vars x, g (f n) = k n) → rename g (rename f x) = rename k x) {b : Option (Block α)}
    (h : ∀ n ∈ (blockItems b).flatMap vars, g (f n) = k n) :
    (b.map (Block.map (rename f))).map (Block.map (rename g)) = b.map (Block.map (rename k)) := by
  cases b with
  | none => rfl
  | some b =>
    have items : (b.items.map (rename f)).map (rename g) = b.items.map (rename k) := map_rename_rename item h
    simp only [Option.map_some, Block.map, items]

theorem Policy.rename_rename (p : Policy) (h : ∀ n ∈ p.vars, g (f n) = k n) :
    (p.rename f).rename g = p.rename k := by
  obtain ⟨inRules, inCaveats⟩ := List.forall_mem_append.mp h
  have rules := optional_rename_rename Rule.rename_rename inRules
  have caveats := optional_rename_rename Caveat.rename_rename inCaveats
  simp only [Policy.rename, rules, caveats]

theorem Document.rename_rename (d : Document) (h : ∀ n ∈ d.vars, g (f n) = k n) :
    (d.rename f).rename g = d.rename k := by
  have policies := map_rename_rename Policy.rename_rename h
  simp only [Document.rename, policies]

end

theorem Document.vars_mapOffsets (g : Nat → Nat) (d : Document) : (d.mapOffsets g).vars = d.vars :=
  List.flatMap_map ..

end PolicyGate.Source
