import PolicyGate.Proofs.Policy.Sets
import PolicyGate.Proofs.Time.Rfc3339

/-!
# Compiled constructs as they are displayed

What was compiled can be compiled again from its display. For each kind of construct there is one of the
tree that is written as the compiled one is displayed, and lowered to it (`Construct.Displays`); it names
variables by their numbers, and lists sets in their order. The kinds are `faithful_terms`,
`faithful_predicates`, `faithful_constraints`, `faithful_rules` and `faithful_caveats`.
-/

namespace PolicyGate

open Source (TokenKind Literal Written joined varId isNumeric)
open Time (Instant)

/-! ## Tokens with numbered variables -/

/-- The token can be written, and is no variable but a numbered one. -/
def NumberedToken (k : TokenKind) : Prop :=
  k.IsWritten ∧ ∀ name, k.var? = some name → isNumeric name.toList = true

def NumberedTokens (ks : List TokenKind) : Prop :=
  ∀ k ∈ ks, NumberedToken k

theorem numbered_of_written {k : TokenKind} (hw : k.IsWritten) (hv : k.var? = none) : NumberedToken k := by
  refine ⟨hw, fun name h => ?_⟩
  rw [hv] at h
  cases h

theorem numbered_var (id : UInt32) : NumberedToken (.var (toString id.toNat)) := by
  refine ⟨Source.isWord_toString _, fun name h => ?_⟩
  cases h
  exact Source.isNumeric_toString _

theorem NumberedTokens.nil : NumberedTokens [] := by
  intro k hk
  cases hk

theorem NumberedTokens.cons {k : TokenKind} {ks : List TokenKind} (hk : NumberedToken k)
    (h : NumberedTokens ks) : NumberedTokens (k :: ks) :=
  List.forall_mem_cons.mpr ⟨hk, h⟩

theorem NumberedTokens.append {ks ls : List TokenKind} (hk : NumberedTokens ks) (hl : NumberedTokens ls) :
    NumberedTokens (ks ++ ls) :=
  List.forall_mem_append.mpr ⟨hk, hl⟩

theorem NumberedTokens.joined {separator : TokenKind} {kss : List (List TokenKind)}
    (hs : NumberedToken separator) (h : ∀ ks ∈ kss, NumberedTokens ks) :
    NumberedTokens (joined separator kss) := by
  intro k hk
  rcases Source.mem_joined hk with rfl | ⟨ks, hks, hk⟩
  · exact hs
  · exact h ks hks k hk

theorem varId_toString (id : UInt32) : varId (toString id.toNat) = .ok id :=
  varId_eq_ok.mpr ⟨Text.repr_ne_nil _, Source.isNumeric_toString _, Text.digitsValue_repr _⟩

/-! ## Kinds of constructs -/

/-- How a kind of construct is written in the tree, which trees are meant, and what they are lowered to;
and how the compiled construct is displayed. -/
structure Construct (σ τ : Type) where
  text : σ → String
  tokens : σ → List TokenKind
  ok : σ → Prop
  lower : σ → Except RuleFault τ
  display : τ → String

namespace Construct

variable {σ τ : Type}

/-- The tree `s` is written as `x` is displayed, and is lowered to it. -/
structure Displays (c : Construct σ τ) (s : σ) (x : τ) : Prop where
  text_eq : c.text s = c.display x
  lower_eq : c.lower s = .ok x
  ok : c.ok s
  numbered : NumberedTokens (c.tokens s)

/-- Whatever was lowered, and satisfies the condition, is displayed as the text of a tree. -/
def Faithful (c : Construct σ τ) (within : τ → Prop) : Prop :=
  ∀ s x, c.ok s → Written (c.tokens s) → c.lower s = .ok x → within x → ∃ s', c.Displays s' x

theorem Faithful.all {c : Construct σ τ} {within : τ → Prop} (h : c.Faithful within) {ss : List σ}
    {xs : List τ} (ok : ∀ s ∈ ss, c.ok s) (written : ∀ s ∈ ss, Written (c.tokens s))
    (lowered : ss.mapM c.lower = .ok xs) (hx : ∀ x ∈ xs, within x) :
    ∃ ss', List.Forall₂ c.Displays ss' xs := by
  replace lowered := mapM_ok lowered
  induction lowered with
  | nil => exact ⟨[], .nil⟩
  | @cons s x ss xs first _ ih =>
    obtain ⟨ok, oks⟩ := List.forall_mem_cons.mp ok
    obtain ⟨writes, writtens⟩ := List.forall_mem_cons.mp written
    obtain ⟨within, withins⟩ := List.forall_mem_cons.mp hx
    obtain ⟨s', display⟩ := h s x ok writes first within
    obtain ⟨ss', displays⟩ := ih oks writtens withins
    exact ⟨s' :: ss', .cons display displays⟩

section
variable {c : Construct σ τ} {ss : List σ} {xs : List τ} (h : List.Forall₂ c.Displays ss xs)
include h

theorem mapM_lower : ss.mapM c.lower = .ok xs :=
  mapM_of_forall₂ (h.imp fun _ _ => Displays.lower_eq)

theorem map_text : ss.map c.text = xs.map c.display := by
  induction h with
  | nil => rfl
  | cons first _ ih => rw [List.map_cons, List.map_cons, first.text_eq, ih]

theorem eq_nil_iff : ss = [] ↔ xs = [] := by
  cases h <;> simp

theorem all_displayed {p : σ → Prop} (hp : ∀ s x, c.Displays s x → p s) : ∀ s ∈ ss, p s := by
  induction h with
  | nil => simp
  | cons first _ ih => exact List.forall_mem_cons.mpr ⟨hp _ _ first, ih⟩

theorem numbered_joined {separator : TokenKind} (hs : NumberedToken separator) :
    NumberedTokens (joined separator (ss.map c.tokens)) := by
  refine .joined hs (List.forall_mem_map.mpr ?_)
  exact all_displayed h fun _ _ => Displays.numbered

end
end Construct

/-! ## Terms and predicates -/

def terms : Construct Source.Term Term where
  text := Source.Term.text
  tokens t := [t.token]
  ok _ := True
  lower := Source.Term.lower
  display := Term.text

theorem text_literal (v : Literal) : v.text = v.atom.text := by
  cases v <;> rfl

theorem numbered_literal {v : Literal} (h : v.token.IsWritten) : NumberedToken v.token :=
  numbered_of_written h (Source.var?_literal v)

theorem faithful_terms : terms.Faithful fun _ => True := by
  intro t x _ written lowered _
  cases t with
  | var name =>
    obtain ⟨id, -, rfl⟩ := lower_var_ok.mp lowered
    have lowers := lower_var_ok.mpr ⟨id, varId_toString id, rfl⟩
    exact ⟨.var (toString id.toNat), rfl, lowers, trivial, .cons (numbered_var id) .nil⟩
  | literal v =>
    cases lowered
    have token := numbered_literal (written _ List.mem_cons_self)
    exact ⟨.literal v, text_literal v, rfl, trivial, .cons token .nil⟩

def predicates : Construct Source.Predicate Predicate where
  text := Source.Predicate.text
  tokens := Source.Predicate.tokens
  ok _ := True
  lower := Source.Predicate.lower
  display := Predicate.text

theorem faithful_predicates : predicates.Faithful fun _ => True := by
  intro p x _ written lowered _
  obtain ⟨xs, hxs, lowered⟩ := except_bind_ok.mp lowered
  cases lowered
  simp only [predicates, Source.Predicate.tokens, Source.Written.cons, Source.Written.append] at written
  obtain ⟨name, -, inside, -⟩ := written
  obtain ⟨ts, displays⟩ := faithful_terms.all (fun _ _ => trivial) inside.of_joined hxs fun _ _ => trivial
  refine ⟨⟨p.name, ts⟩, ?_, ?_, trivial, ?_⟩
  · show p.name ++ "(" ++ String.intercalate ", " (ts.map terms.text) ++ ")" = _
    rw [Construct.map_text displays]
    rfl
  · exact except_bind_ok.mpr ⟨xs, Construct.mapM_lower displays, rfl⟩
  · have comma : NumberedToken .comma := numbered_of_written trivial rfl
    refine .cons (numbered_of_written name rfl) (.cons (numbered_of_written trivial rfl) ?_)
    exact (Construct.numbered_joined displays comma).append (.cons (numbered_of_written trivial rfl) .nil)

/-! ## Constraints -/

def Check.HasFourDigitYear (c : Check) : Prop :=
  ∀ test t, c = .date test t → t.HasFourDigitYear

theorem exists_comparison {op : Source.Comparison} {value : Literal} {check : Check}
    (lowered : Source.comparisonCheck op value = .ok check) (year : check.HasFourDigitYear) :
    ∃ shown, Source.comparisonCheck op shown = .ok check ∧
      (value.token.IsWritten → shown.token.IsWritten) ∧
      ∀ subject, varText subject ++ " " ++ op.text ++ " " ++ shown.text = Constraint.text ⟨subject, check⟩ := by
  have date {test : DateTest} {content : String} (h : Source.dateCheck test content = .ok check) :
      ∃ t, check = .date test t ∧ Source.dateCheck test t.text = .ok check := by
    unfold Source.dateCheck at h ⊢
    split at h
    · next t _ =>
      cases h
      have again := Time.Instant.ofText?_text (year test t rfl)
      exact ⟨t, rfl, by simp only [again]⟩
    · cases h
  unfold Source.comparisonCheck at lowered
  split at lowered
  · cases lowered
    refine ⟨_, rfl, id, fun subject => ?_⟩
    cases op <;> rfl
  · cases lowered
    refine ⟨_, rfl, id, fun subject => ?_⟩
    have spelled : " == " = " " ++ ("==" ++ " ") := rfl
    show _ = varText subject ++ " == " ++ _
    rw [spelled]
    simp only [String.append_assoc]
    rfl
  · obtain ⟨t, rfl, again⟩ := date lowered
    exact ⟨.string t.text, again, fun _ => trivial, fun _ => rfl⟩
  · obtain ⟨t, rfl, again⟩ := date lowered
    exact ⟨.string t.text, again, fun _ => trivial, fun _ => rfl⟩
  · cases lowered
    refine ⟨_, rfl, id, fun subject => ?_⟩
    have spelled : " == hex:" = " " ++ ("==" ++ (" " ++ "hex:")) := rfl
    show _ = varText subject ++ " == hex:" ++ _
    rw [spelled]
    simp only [String.append_assoc]
    rfl
  · cases lowered

theorem exists_membership {negated : Bool} {first : Literal} {others : List Literal} {check : Check}
    (lowered : Source.membershipCheck negated first others = .ok check) :
    ∃ shown rest, (∀ l ∈ shown :: rest, l ∈ first :: others) ∧
      Source.membershipCheck negated shown rest = .ok check ∧
      ∀ subject, membershipText subject negated ((shown :: rest).map Literal.text) =
        Constraint.text ⟨subject, check⟩ := by
  cases first with
  | symbol name =>
    obtain ⟨y, ys, members⟩ := SetKind.symbols.exists_members lowered
    exact ⟨_, ys, members⟩
  | string content =>
    obtain ⟨y, ys, members⟩ := SetKind.strings.exists_members lowered
    exact ⟨_, ys, members⟩
  | integer value =>
    obtain ⟨y, ys, members⟩ := SetKind.integers.exists_members lowered
    exact ⟨_, ys, members⟩
  | bytes value =>
    obtain ⟨y, ys, members⟩ := SetKind.bytes.exists_members lowered
    exact ⟨_, ys, members⟩

theorem text_stringTest {function : Source.StringTest} {value : String} {check : Check}
    (lowered : Source.stringTestCheck function value = .ok check) (subject : UInt32) :
    stringTestText function.text subject value = Constraint.text ⟨subject, check⟩ := by
  unfold Source.stringTestCheck at lowered
  split at lowered
  · cases lowered
    rfl
  · cases lowered
    rfl
  · split at lowered
    · cases lowered
      rfl
    · cases lowered

theorem numbered_set {first shown : Literal} {others rest : List Literal}
    (members : ∀ l ∈ shown :: rest, l ∈ first :: others) (h : Written (Source.setTokens first others)) :
    NumberedTokens (Source.setTokens shown rest) := by
  rw [Source.setTokens_eq] at h ⊢
  have written := (Source.Written.append.mp (Source.Written.cons.mp h).2).1.of_joined
  have bracket : NumberedTokens [.rightBracket] := .cons (numbered_of_written trivial rfl) .nil
  refine .cons (numbered_of_written trivial rfl) (.append (.joined (numbered_of_written trivial rfl) ?_) bracket)
  refine List.forall_mem_map.mpr fun l hl => .cons (numbered_literal ?_) .nil
  exact written l (members l hl) _ List.mem_cons_self

def constraints : Construct Source.Constraint Constraint where
  text := Source.Constraint.text
  tokens := Source.Constraint.tokens
  ok _ := True
  lower := Source.Constraint.lower
  display := Constraint.text

theorem displays_constraint {shown : Source.Constraint} {x : Constraint}
    (subject : shown.subject = toString x.subject.toNat) (check : shown.lowerCheck = .ok x.check)
    (text : shown.text = x.text) (numbered : NumberedTokens shown.tokens) : constraints.Displays shown x where
  text_eq := text
  lower_eq := lower_constraint_ok.mpr ⟨subject ▸ varId_toString x.subject, check⟩
  ok := trivial
  numbered := numbered

theorem faithful_constraints : constraints.Faithful fun c => c.check.HasFourDigitYear := by
  intro c x _ written lowered year
  obtain ⟨-, hcheck⟩ := lower_constraint_ok.mp lowered
  cases c with
  | compare subject op value =>
    obtain ⟨shown, check, writes, text⟩ := exists_comparison hcheck year
    obtain ⟨-, operator, literal, -⟩ : _ ∧ op.token.IsWritten ∧ value.token.IsWritten ∧ Written [] := by
      simpa only [constraints, Source.Constraint.tokens, Source.Written.cons] using written
    have op_var : op.token.var? = none := by cases op <;> rfl
    refine ⟨.compare (toString x.subject.toNat) op shown, displays_constraint rfl check (text x.subject) ?_⟩
    refine .cons (numbered_var x.subject) (.cons (numbered_of_written operator op_var) ?_)
    exact .cons (numbered_literal (writes literal)) .nil
  | member subject negated first others =>
    obtain ⟨shown, rest, members, check, text⟩ := exists_membership hcheck
    obtain ⟨-, words, set⟩ : _ ∧ Written (Source.membershipTokens negated) ∧
        Written (Source.setTokens first others) := by
      simpa only [constraints, Source.Constraint.tokens, Source.Written.cons, Source.Written.append]
        using written
    refine ⟨.member (toString x.subject.toNat) negated shown rest,
      displays_constraint rfl check (text x.subject) ?_⟩
    refine .cons (numbered_var x.subject) (.append (fun k hk => ?_) (numbered_set members set))
    have vars : Source.tokenVars (Source.membershipTokens negated) = [] := by cases negated <;> rfl
    exact numbered_of_written (words k hk) (List.filterMap_eq_nil_iff.mp vars k hk)
  | test function subject value =>
    have name : (TokenKind.identifier function.text).IsWritten := written _ List.mem_cons_self
    refine ⟨.test function (toString x.subject.toNat) value, displays_constraint rfl hcheck ?_ ?_⟩
    · rw [← text_stringTest hcheck x.subject]
      have spelled : "($" = "(" ++ "$" := rfl
      simp only [Source.Constraint.text, stringTestText, varText, spelled, String.append_assoc]
    · refine .cons (numbered_of_written name rfl) (.cons (numbered_of_written trivial rfl) ?_)
      refine .cons (numbered_var x.subject) (.cons (numbered_of_written trivial rfl) ?_)
      exact .cons (numbered_of_written trivial rfl) (.cons (numbered_of_written trivial rfl) .nil)

/-! ## Rules and caveats -/

def rules : Construct Source.Rule Rule where
  text := Source.Rule.inlineText
  tokens := Source.Rule.tokens
  ok r := r.comments = [] ∧ r.WellFormed
  lower := Source.Rule.lower
  display := Rule.text

def Rule.HasFourDigitYears (r : Rule) : Prop :=
  ∀ c ∈ r.constraints, c.check.HasFourDigitYear

theorem faithful_rules : rules.Faithful Rule.HasFourDigitYears := by
  intro r x ok written lowered years
  obtain ⟨⟨lowersHead, lowersBody, lowersConstraints⟩, bound⟩ := lower_rule_ok.mp lowered
  obtain ⟨-, writtenHead, -, writtenBody, writtenConstraints⟩ : _ ∧ Written r.head.tokens ∧ _ ∧
      Written (joined .comma (r.body.map Source.Predicate.tokens)) ∧
      Written (Source.constraintTokens r.constraints) := by
    simpa only [rules, Source.Rule.tokens, Source.Written.cons, Source.Written.append] using written
  have inConstraints : ∀ c ∈ r.constraints, Written c.tokens := by
    intro c hc
    rw [Source.constraintTokens, if_neg (List.ne_nil_of_mem hc)] at writtenConstraints
    exact (Source.Written.cons.mp writtenConstraints).2.of_joined c hc
  obtain ⟨head, displaysHead⟩ := faithful_predicates r.head x.head trivial writtenHead lowersHead trivial
  obtain ⟨body, displaysBody⟩ :=
    faithful_predicates.all (fun _ _ => trivial) writtenBody.of_joined lowersBody fun _ _ => trivial
  obtain ⟨conditions, displaysConstraints⟩ :=
    faithful_constraints.all (fun _ _ => trivial) inConstraints lowersConstraints years
  have comma : NumberedToken .comma := numbered_of_written trivial rfl
  refine ⟨⟨[], head, body, conditions⟩, ?_, lower_rule_ok.mpr ⟨⟨displaysHead.lower_eq,
    Construct.mapM_lower displaysBody, Construct.mapM_lower displaysConstraints⟩, bound⟩, ⟨rfl, ?_⟩, ?_⟩
  · show "*" ++ predicates.text head ++ " <- " ++ String.intercalate ", " (body.map predicates.text) ++
      (if conditions = [] then ""
        else " @ " ++ String.intercalate ", " (conditions.map constraints.text)) = x.text
    simp only [displaysHead.text_eq, Construct.map_text displaysBody, Construct.map_text displaysConstraints,
      Construct.eq_nil_iff displaysConstraints]
    rfl
  · intro none
    have lengths := (mapM_ok lowersBody).length_eq
    rw [(Construct.eq_nil_iff displaysBody).mp none] at lengths
    exact ok.2 (List.eq_nil_of_length_eq_zero lengths)
  · refine .cons (numbered_of_written trivial rfl) (displaysHead.numbered.append ?_)
    refine .cons (numbered_of_written trivial rfl) ((Construct.numbered_joined displaysBody comma).append ?_)
    unfold Source.constraintTokens
    split
    · exact .nil
    · exact .cons (numbered_of_written trivial rfl) (Construct.numbered_joined displaysConstraints comma)

def caveats : Construct Source.Caveat Caveat where
  text c := "[" ++ String.intercalate " || " (c.queries.map Source.Rule.inlineText) ++ "]"
  tokens c := Source.queryTokens c.queries
  ok c := c.comments = [] ∧ c.WellFormed
  lower := Source.Caveat.lower
  display := Caveat.text

def Caveat.HasFourDigitYears (c : Caveat) : Prop :=
  ∀ q ∈ c.queries, q.HasFourDigitYears

theorem faithful_caveats : caveats.Faithful Caveat.HasFourDigitYears := by
  intro c x ok written lowered years
  obtain ⟨-, some, queriesOk⟩ := ok
  replace lowered := lower_caveat_ok.mp lowered
  obtain ⟨-, inside, -⟩ : _ ∧ Written (joined .or (c.queries.map Source.Rule.tokens)) ∧ _ := by
    simpa only [caveats, Source.queryTokens, Source.Written.cons, Source.Written.append] using written
  obtain ⟨queries, displays⟩ := faithful_rules.all queriesOk inside.of_joined lowered years
  refine ⟨⟨[], queries⟩, ?_, lower_caveat_ok.mpr (Construct.mapM_lower displays), ⟨rfl, ?_, ?_⟩, ?_⟩
  · show "[" ++ String.intercalate " || " (queries.map rules.text) ++ "]" = _
    rw [Construct.map_text displays]
    rfl
  · intro none
    have lengths := (mapM_ok lowered).length_eq
    rw [(Construct.eq_nil_iff displays).mp none] at lengths
    exact some (List.eq_nil_of_length_eq_zero lengths)
  · exact Construct.all_displayed displays fun _ _ => Construct.Displays.ok
  · have or : NumberedToken .or := numbered_of_written trivial rfl
    refine .cons (numbered_of_written trivial rfl) ((Construct.numbered_joined displays or).append ?_)
    exact .cons (numbered_of_written trivial rfl) .nil

end PolicyGate
