import PolicyGate.Proofs.Policy.Meaning
import PolicyGate.Proofs.Policy.Recompiling
import PolicyGate.Proofs.Time.Years

/-!
# Dates that are displayed

A date of a policy is kept in UTC and displayed there. In the years 0 to 9999 the display compiles to the same
constraint, whatever the offset, the fraction and the second of the author's text were. The offset may move a
date into the year before or behind these; its display has a sign then, and is refused as no date:
`compileDocument_date`.
-/

namespace PolicyGate

open Source (Comparison TokenKind)
open Time (Instant)

def Constraint.alone (x : Constraint) : Rule where
  head := ⟨"r", []⟩
  body := [⟨"q", [.var x.subject]⟩]
  constraints := [x]

def DateTest.operator : DateTest → Comparison
  | before => .lessOrEqual
  | after => .greaterOrEqual

def datedRule (subject : UInt32) (test : DateTest) (literal : String) : Source.Rule where
  comments := []
  head := ⟨"r", []⟩
  body := [⟨"q", [.var (toString subject.toNat)]⟩]
  constraints := [.compare (toString subject.toNat) test.operator (.string literal)]

section
variable (subject : UInt32) (test : DateTest) (literal : String)

theorem datedRule_text (t : Instant) :
    (datedRule subject test t.text).inlineText = (Constraint.alone ⟨subject, .date test t⟩).text := by
  cases test <;> rfl

theorem datedRule_numbered : NumberedTokens (datedRule subject test literal).tokens := by
  have tokens : (datedRule subject test literal).tokens = [.star, .identifier "r", .leftParen, .rightParen, .arrow,
      .identifier "q", .leftParen, .var (toString subject.toNat), .rightParen, .atSign,
      .var (toString subject.toNat), test.operator.token, .string literal] := by
    cases test <;> rfl
  have name (word : String) (c : Char) (spelled : word.toList = [c]) (letter : c.isAlpha = true) :
      NumberedToken (.identifier word) :=
    numbered_of_written (isWritten_word spelled letter rfl) rfl
  have operator : NumberedToken test.operator.token := by
    cases test <;> exact numbered_of_written trivial rfl
  have sign {k : TokenKind} (written : k.IsWritten) (plain : k.var? = none) := numbered_of_written written plain
  rw [tokens]
  refine .cons (sign trivial rfl) (.cons (name "r" 'r' rfl rfl) ?_)
  refine .cons (sign trivial rfl) (.cons (sign trivial rfl) (.cons (sign trivial rfl) ?_))
  refine .cons (name "q" 'q' rfl rfl) (.cons (sign trivial rfl) (.cons (numbered_var subject) ?_))
  refine .cons (sign trivial rfl) (.cons (sign trivial rfl) (.cons (numbered_var subject) ?_))
  exact .cons operator (.cons (sign trivial rfl) .nil)

theorem lower_datedBody :
    (datedRule subject test literal).body.mapM Source.Predicate.lower = .ok [⟨"q", [.var subject]⟩] := by
  have named : (Source.Term.var (toString subject.toNat)).lower = .ok (.var subject) :=
    lower_var_ok.mpr ⟨subject, varId_toString subject, rfl⟩
  apply mapM_of_forall₂
  refine .cons (lower_predicate_ok.mpr ⟨rfl, ?_⟩) .nil
  exact mapM_of_forall₂ (.cons named .nil)

variable {literal}

theorem lower_datedRule {t : Instant} (h : Instant.ofText? literal = some t) :
    (datedRule subject test literal).lower = .ok (Constraint.alone ⟨subject, .date test t⟩) := by
  have check : Source.comparisonCheck test.operator (.string literal) = .ok (.date test t) := by
    cases test <;> simp [DateTest.operator, Source.comparisonCheck, Source.dateCheck, h]
  have condition : (Source.Constraint.compare (toString subject.toNat) test.operator (.string literal)).lower =
      .ok ⟨subject, .date test t⟩ :=
    lower_constraint_ok.mpr ⟨varId_toString subject, check⟩
  apply lower_rule_ok.mpr
  refine ⟨⟨rfl, lower_datedBody subject test literal, mapM_of_forall₂ (.cons condition .nil)⟩, ?_, ?_⟩
  · simp [Constraint.alone, Predicate.vars]
  · simp [Constraint.alone, Predicate.vars]

theorem lower_datedRule_error (h : Instant.ofText? literal = none) :
    (datedRule subject test literal).lower = .error (.notADate literal) := by
  have check : Source.comparisonCheck test.operator (.string literal) = .error (.notADate literal) := by
    cases test <;> simp [DateTest.operator, Source.comparisonCheck, Source.dateCheck, h]
  have condition : (Source.Constraint.compare (toString subject.toNat) test.operator (.string literal)).lower =
      .error (.notADate literal) :=
    except_bind_error.mpr (.inr ⟨subject, varId_toString subject, except_bind_error.mpr (.inl check)⟩)
  have conditions : (datedRule subject test literal).constraints.mapM Source.Constraint.lower =
      .error (.notADate literal) :=
    mapM_eq_error.mpr ⟨[], _, [], rfl, by simp, condition⟩
  apply except_bind_error.mpr
  refine .inr ⟨⟨"r", []⟩, rfl, except_bind_error.mpr (.inr ⟨_, lower_datedBody subject test literal, ?_⟩)⟩
  exact except_bind_error.mpr (.inl conditions)

/-! ## Documents with one date -/

theorem compileDocument_dated {t : Instant} (h : Instant.ofText? literal = some t) :
    compileDocument (singletonDocument "rules" (datedRule subject test literal).inlineText) =
      .ok [⟨"p", [Constraint.alone ⟨subject, .date test t⟩], []⟩] := by
  rw [compileDocument_inlineRule (datedRule_numbered subject test literal) ⟨rfl, List.cons_ne_nil _ _⟩]
  exact lowerAll_singleton (lower_policy_ok.mpr ⟨rfl, .cons (lower_datedRule subject test h) .nil, .nil⟩)

theorem compileDocument_dated_error (h : Instant.ofText? literal = none) :
    compileDocument (singletonDocument "rules" (datedRule subject test literal).inlineText) =
      .error (.policyFault "p" (.inRule 1 (.notADate literal))) := by
  have fails := lower_datedRule_error subject test h
  have items : Source.lowerItems Source.Rule.lower .inRule [datedRule subject test literal] =
      .error (.inRule 1 (.notADate literal)) :=
    lowerItems_eq_error.mpr ⟨[], _, [], _, rfl, by simp, fails, rfl⟩
  have policy : (⟨[], "p", 0, some ⟨[datedRule subject test literal], []⟩, none⟩ : Source.Policy).lower =
      .error (.inRule 1 (.notADate literal)) :=
    except_bind_error.mpr (.inl items)
  rw [compileDocument_inlineRule (datedRule_numbered subject test literal) ⟨rfl, List.cons_ne_nil _ _⟩]
  simp [Policy.lowerAll, policy]

end

/-! ## Dates of compiled policies -/

theorem Source.Constraint.ChecksAs.literal {c : Source.Constraint} {test : DateTest} {t : Instant}
    (h : c.ChecksAs (.date test t)) : ∃ literal, Instant.ofText? literal = some t := by
  cases h with
  | before isDate => exact ⟨_, isDate⟩
  | after isDate => exact ⟨_, isDate⟩
  | member set same => cases set

theorem exists_literal {s : Source.Rule} {r : Rule} (h : s.Means r) {x : Constraint} (hx : x ∈ r.constraints)
    {test : DateTest} {t : Instant} (date : x.check = .date test t) :
    ∃ literal, Instant.ofText? literal = some t := by
  obtain ⟨c, -, means⟩ := exists_of_forall₂ h.constraints hx
  have checks := means.check
  rw [date] at checks
  exact checks.literal

/-- The rules of a policy and the queries of its caveats. -/
def Policy.HasRule (p : Policy) (r : Rule) : Prop :=
  r ∈ p.rules ∨ ∃ c ∈ p.caveats, r ∈ c.queries

theorem means_of_compileDocument {document : String} {policies : List Policy}
    (h : compileDocument document = .ok policies) {p : Policy} (hp : p ∈ policies) {r : Rule} (hr : p.HasRule r) :
    ∃ s : Source.Rule, s.Means r := by
  unfold compileDocument at h
  simp only at h
  split at h
  · cases h
  next tree read =>
  obtain ⟨source, -, lowered⟩ := exists_of_forall₂ (lowerAll_ok.mp h).1 hp
  have means := Source.Policy.lower_eq_ok.mp lowered
  rcases hr with hr | ⟨c, hc, hr⟩
  · obtain ⟨s, -, hs⟩ := exists_of_forall₂ means.rules hr
    exact ⟨s, hs⟩
  · obtain ⟨d, -, hd⟩ := exists_of_forall₂ means.caveats hc
    obtain ⟨s, -, hs⟩ := exists_of_forall₂ hd hr
    exact ⟨s, hs⟩

/-- A date constraint survives its display, unless its offset has moved it out of the years of four digits. -/
theorem compileDocument_date {document : String} {policies : List Policy}
    (h : compileDocument document = .ok policies) {p : Policy} (hp : p ∈ policies) {r : Rule} (hr : p.HasRule r)
    {x : Constraint} (hx : x ∈ r.constraints) {test : DateTest} {t : Instant} (date : x.check = .date test t) :
    t.HasFourDigitYear ∧
        compileDocument (singletonDocument "rules" x.alone.text) = .ok [⟨"p", [x.alone], []⟩] ∨
      (t.clock.date.year = -1 ∨ t.clock.date.year = 10000) ∧
        compileDocument (singletonDocument "rules" x.alone.text) =
          .error (.policyFault "p" (.inRule 1 (.notADate t.text))) := by
  obtain ⟨s, means⟩ := means_of_compileDocument h hp hr
  obtain ⟨literal, read⟩ := exists_literal means hx date
  have years := Instant.year_of_ofText? read
  obtain ⟨subject, check⟩ := x
  cases date
  rw [← datedRule_text]
  by_cases four : t.HasFourDigitYear
  · exact .inl ⟨four, compileDocument_dated subject test (Instant.ofText?_text four)⟩
  · refine .inr ⟨?_, compileDocument_dated_error subject test (Instant.ofText?_text_eq_none four)⟩
    unfold Instant.HasFourDigitYear at four
    omega

theorem compileDocument_date_leap :
    let x : Constraint := ⟨0, .date .before ⟨1483228799, 1500000000, by decide⟩⟩
    x.text = "$0 <= \"2016-12-31T23:59:60.500Z\"" ∧
      compileDocument (singletonDocument "rules" (datedRule 0 .before "2017-01-01T00:59:60.5+01:00").inlineText) =
        .ok [⟨"p", [x.alone], []⟩] ∧
      compileDocument (singletonDocument "rules" x.alone.text) = .ok [⟨"p", [x.alone], []⟩] := by
  intro x
  have read : Instant.ofText? "2017-01-01T00:59:60.5+01:00" = some ⟨1483228799, 1500000000, by decide⟩ := by
    decide +kernel
  have compiled := compileDocument_dated 0 .before read
  refine ⟨by decide +kernel, compiled, ?_⟩
  have survives := compileDocument_date compiled List.mem_cons_self (.inl List.mem_cons_self)
    (x := x) List.mem_cons_self rfl
  rcases survives with ⟨-, again⟩ | ⟨years, -⟩
  · exact again
  · exact absurd years (by decide +kernel)

/-- The first day of the year 0, an hour ahead of UTC, is in the year -1 there. -/
theorem compileDocument_date_refused : ∃ x : Constraint,
    compileDocument (singletonDocument "rules" "*r() <- q($0) @ $0 >= \"0000-01-01T00:00:00+01:00\"") =
        .ok [⟨"p", [x.alone], []⟩] ∧
      x.alone.text = "*r() <- q($0) @ $0 >= \"-0001-12-31T23:00:00Z\"" ∧
      compileDocument (singletonDocument "rules" x.alone.text) =
        .error (.policyFault "p" (.inRule 1 (.notADate "-0001-12-31T23:00:00Z"))) := by
  let t : Instant := ⟨-62167222800, 0, by decide⟩
  have moved : ¬t.HasFourDigitYear := by
    show ¬(0 ≤ t.clock.date.year ∧ t.clock.date.year ≤ 9999)
    decide
  have text : t.text = "-0001-12-31T23:00:00Z" := by decide +kernel
  refine ⟨⟨0, .date .after t⟩, ?_, by decide +kernel, ?_⟩
  · have read : Instant.ofText? "0000-01-01T00:00:00+01:00" = some t := by decide +kernel
    have spelled : (datedRule 0 .after "0000-01-01T00:00:00+01:00").inlineText =
        "*r() <- q($0) @ $0 >= \"0000-01-01T00:00:00+01:00\"" := by decide +kernel
    rw [← spelled]
    exact compileDocument_dated 0 .after read
  · rw [← datedRule_text, ← text]
    exact compileDocument_dated_error 0 .after (Instant.ofText?_text_eq_none moved)

end PolicyGate
