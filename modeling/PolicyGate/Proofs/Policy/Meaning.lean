import PolicyGate.Proofs.Policy.Sets

/-!
# What a policy of the tree means

A policy of the tree means a compiled one with the same constructs in the same order
(`Source.Policy.Means`). A variable means the number that its name writes, a constraint the check that the
table of operators and literals gives for it (`Source.Constraint.ChecksAs`), and a set the set of its
literals. Lowering a policy is finding what it means: `Source.Policy.lower_eq_ok`.
-/

namespace PolicyGate

open Source (Literal)
open Time (Instant)

/-! ## Meanings -/

/-- The members of the set that a check asks about, and whether they are the ones to exclude. -/
def Check.set? : Check → Option (List Literal × Bool)
  | integerIn set negated => some (set.toList.map .integer, negated)
  | stringIn set negated => some (set.toList.map .string, negated)
  | symbolIn set negated => some (set.toList.map .symbol, negated)
  | bytesIn set negated => some (set.toList.map .bytes, negated)
  | _ => none

namespace Source

inductive Term.Means : Term → PolicyGate.Term → Prop
  | var {name : String} {id : UInt32} (written : Writes name id) : Means (.var name) (.var id)
  | literal (value : Literal) : Means (.literal value) (.atom value.atom)

structure Predicate.Means (p : Predicate) (q : PolicyGate.Predicate) : Prop where
  name : p.name = q.name
  terms : List.Forall₂ Term.Means p.terms q.terms

/-- The check that a constraint asks for. Of a set only its members count, not their order or number. -/
inductive Constraint.ChecksAs : Constraint → Check → Prop
  | integer (subject : String) (op : Comparison) (value : Int64) :
    ChecksAs (.compare subject op (.integer value)) (.integer op.integerTest value)
  | string (subject content : String) :
    ChecksAs (.compare subject .equal (.string content)) (.string .equal content)
  | before {subject content : String} {date : Instant} (isDate : Instant.ofText? content = some date) :
    ChecksAs (.compare subject .lessOrEqual (.string content)) (.date .before date)
  | after {subject content : String} {date : Instant} (isDate : Instant.ofText? content = some date) :
    ChecksAs (.compare subject .greaterOrEqual (.string content)) (.date .after date)
  | bytes (subject : String) (value : Bytes) :
    ChecksAs (.compare subject .equal (.bytes value)) (.bytesEqual value)
  | member {subject : String} {negated : Bool} {first : Literal} {others members : List Literal}
    {check : Check} (set : check.set? = some (members, negated))
    (same : ∀ l, l ∈ members ↔ l ∈ first :: others) :
    ChecksAs (.member subject negated first others) check
  | startsWith (subject value : String) :
    ChecksAs (.test .startsWith subject value) (.string .startsWith value)
  | endsWith (subject value : String) :
    ChecksAs (.test .endsWith subject value) (.string .endsWith value)
  | fits {subject value : String} (pattern : isPattern value = true) :
    ChecksAs (.test .fits subject value) (.string .fits value)

structure Constraint.Means (x : Constraint) (y : PolicyGate.Constraint) : Prop where
  subject : Writes x.subject y.subject
  check : x.ChecksAs y.check

structure Rule.Means (r : Rule) (s : PolicyGate.Rule) : Prop where
  head : r.head.Means s.head
  body : List.Forall₂ Predicate.Means r.body s.body
  constraints : List.Forall₂ Constraint.Means r.constraints s.constraints
  bound : s.IsBound

def Caveat.Means (c : Caveat) (d : PolicyGate.Caveat) : Prop :=
  List.Forall₂ Rule.Means c.queries d.queries

structure Policy.Means (p : Policy) (q : PolicyGate.Policy) : Prop where
  name : p.name = q.name
  rules : List.Forall₂ Rule.Means (blockItems p.rules) q.rules
  caveats : List.Forall₂ Caveat.Means (blockItems p.caveats) q.caveats

end Source

/-! ## Lowering gives what is meant -/

theorem membershipCheck_eq_ok {negated : Bool} {first : Literal} {others : List Literal} {check : Check} :
    Source.membershipCheck negated first others = .ok check ↔
      ∃ members, check.set? = some (members, negated) ∧ ∀ l, l ∈ members ↔ l ∈ first :: others := by
  constructor
  · intro h
    cases first with
    | integer x =>
      obtain ⟨set, rfl, same⟩ := SetKind.integers.membershipCheck_eq_ok.mp h
      exact ⟨_, rfl, same⟩
    | string x =>
      obtain ⟨set, rfl, same⟩ := SetKind.strings.membershipCheck_eq_ok.mp h
      exact ⟨_, rfl, same⟩
    | symbol x =>
      obtain ⟨set, rfl, same⟩ := SetKind.symbols.membershipCheck_eq_ok.mp h
      exact ⟨_, rfl, same⟩
    | bytes x =>
      obtain ⟨set, rfl, same⟩ := SetKind.bytes.membershipCheck_eq_ok.mp h
      exact ⟨_, rfl, same⟩
  · rintro ⟨members, hs, same⟩
    have inside : first ∈ members := (same first).mpr List.mem_cons_self
    cases check <;> simp only [Check.set?, Option.some.injEq, Prod.mk.injEq, reduceCtorEq] at hs
    case integerIn set _ =>
      obtain ⟨rfl, rfl⟩ := hs
      obtain ⟨x, -, rfl⟩ := List.mem_map.mp inside
      exact SetKind.integers.membershipCheck_eq_ok.mpr ⟨set, rfl, same⟩
    case stringIn set _ =>
      obtain ⟨rfl, rfl⟩ := hs
      obtain ⟨x, -, rfl⟩ := List.mem_map.mp inside
      exact SetKind.strings.membershipCheck_eq_ok.mpr ⟨set, rfl, same⟩
    case bytesIn set _ =>
      obtain ⟨rfl, rfl⟩ := hs
      obtain ⟨x, -, rfl⟩ := List.mem_map.mp inside
      exact SetKind.bytes.membershipCheck_eq_ok.mpr ⟨set, rfl, same⟩
    case symbolIn set _ =>
      obtain ⟨rfl, rfl⟩ := hs
      obtain ⟨x, -, rfl⟩ := List.mem_map.mp inside
      exact SetKind.symbols.membershipCheck_eq_ok.mpr ⟨set, rfl, same⟩

namespace Source

theorem dateCheck_ok {test : DateTest} {text : String} {check : Check} :
    dateCheck test text = .ok check ↔ ∃ date, Instant.ofText? text = some date ∧ .date test date = check := by
  unfold dateCheck
  cases Instant.ofText? text <;> simp

theorem Term.lower_eq_ok {t : Term} {u : PolicyGate.Term} : t.lower = .ok u ↔ t.Means u := by
  cases t with
  | var name =>
    rw [lower_var_ok]
    constructor
    · rintro ⟨id, h, rfl⟩
      exact .var (varId_eq_ok.mp h)
    · rintro ⟨written⟩
      exact ⟨_, varId_eq_ok.mpr written, rfl⟩
  | literal value =>
    constructor
    · rintro ⟨⟩
      exact .literal value
    · rintro ⟨⟩
      rfl

theorem Predicate.lower_eq_ok {p : Predicate} {q : PolicyGate.Predicate} : p.lower = .ok q ↔ p.Means q := by
  rw [lower_predicate_ok, mapM_eq_ok Term.lower_eq_ok]
  constructor
  · rintro ⟨name, terms⟩
    exact ⟨name, terms⟩
  · rintro ⟨name, terms⟩
    exact ⟨name, terms⟩

theorem Constraint.lowerCheck_eq_ok {x : Constraint} {check : Check} :
    x.lowerCheck = .ok check ↔ x.ChecksAs check := by
  constructor
  · intro h
    cases x with
    | compare subject op value =>
      cases value with
      | integer n =>
        have lowered : comparisonCheck op (.integer n) = .ok (.integer op.integerTest n) := by
          cases op <;> rfl
        cases lowered.symm.trans h
        exact .integer subject op n
      | string content =>
        cases op with
        | less => cases h
        | greater => cases h
        | lessOrEqual =>
          obtain ⟨date, isDate, rfl⟩ := dateCheck_ok.mp h
          exact .before isDate
        | greaterOrEqual =>
          obtain ⟨date, isDate, rfl⟩ := dateCheck_ok.mp h
          exact .after isDate
        | equal =>
          cases h
          exact .string subject content
      | bytes value =>
        cases op <;> cases h
        exact .bytes subject value
      | symbol name => cases op <;> cases h
    | member subject negated first others =>
      obtain ⟨members, set, same⟩ := membershipCheck_eq_ok.mp h
      exact .member set same
    | test function subject value =>
      cases function with
      | startsWith =>
        cases h
        exact .startsWith subject value
      | endsWith =>
        cases h
        exact .endsWith subject value
      | fits =>
        simp only [lowerCheck, stringTestCheck] at h
        split at h
        · next pattern =>
          cases h
          exact .fits pattern
        · cases h
  · intro h
    cases h with
    | integer subject op n => cases op <;> rfl
    | before isDate => exact dateCheck_ok.mpr ⟨_, isDate, rfl⟩
    | after isDate => exact dateCheck_ok.mpr ⟨_, isDate, rfl⟩
    | member set same => exact membershipCheck_eq_ok.mpr ⟨_, set, same⟩
    | fits pattern => exact if_pos pattern
    | _ => rfl

theorem Constraint.lower_eq_ok {x : Constraint} {y : PolicyGate.Constraint} :
    x.lower = .ok y ↔ x.Means y := by
  rw [lower_constraint_ok, varId_eq_ok, lowerCheck_eq_ok]
  constructor
  · rintro ⟨subject, check⟩
    exact ⟨subject, check⟩
  · rintro ⟨subject, check⟩
    exact ⟨subject, check⟩

theorem Rule.lower_eq_ok {r : Rule} {s : PolicyGate.Rule} : r.lower = .ok s ↔ r.Means s := by
  rw [lower_rule_ok, Predicate.lower_eq_ok, mapM_eq_ok Predicate.lower_eq_ok,
    mapM_eq_ok Constraint.lower_eq_ok]
  constructor
  · rintro ⟨⟨head, body, constraints⟩, bound⟩
    exact ⟨head, body, constraints, bound⟩
  · rintro ⟨head, body, constraints, bound⟩
    exact ⟨⟨head, body, constraints⟩, bound⟩

theorem Caveat.lower_eq_ok {c : Caveat} {d : PolicyGate.Caveat} : c.lower = .ok d ↔ c.Means d := by
  rw [lower_caveat_ok, mapM_eq_ok Rule.lower_eq_ok, Caveat.Means]

theorem Policy.lower_eq_ok {p : Policy} {q : PolicyGate.Policy} : p.lower = .ok q ↔ p.Means q := by
  simp only [lower_policy_ok, Rule.lower_eq_ok, Caveat.lower_eq_ok]
  constructor
  · rintro ⟨name, rules, caveats⟩
    exact ⟨name, rules, caveats⟩
  · rintro ⟨name, rules, caveats⟩
    exact ⟨name, rules, caveats⟩

end Source
end PolicyGate
