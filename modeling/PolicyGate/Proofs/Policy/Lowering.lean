import PolicyGate.Policy.Compile
import PolicyGate.Proofs.Data.Except
import PolicyGate.Proofs.Source.Occurrences

/-!
# Lowering a construct is lowering its parts

A construct of the tree is lowered just when its parts are: `lower_predicate_ok`, `lower_constraint_ok`,
`lower_rule_ok`, `lower_caveat_ok`, `lower_policy_ok` and `lowerAll_ok`. A variable is lowered to the number
that its name writes (`varId_eq_ok`). A rule is bound, too: each variable of its head and of its constraints
occurs in its body (`Rule.IsBound`). Items that are lowered in order fail as the first one that fails
(`lowerItems_eq_error`).
-/

namespace PolicyGate

open Source (varId)

/-! ## Constructs -/

/-- The name is the decimal numeral of a variable, leading zeros included. -/
structure Source.Writes (name : String) (id : UInt32) : Prop where
  nonempty : name.toList ≠ []
  digits : name.toList.all Char.isDigit = true
  value : Text.digitsValue name.toList = id.toNat

theorem varId_eq_ok {name : String} {id : UInt32} : varId name = .ok id ↔ Source.Writes name id := by
  constructor
  · intro h
    unfold varId at h
    split at h
    · next digits =>
      by_cases empty : name.toList = []
      · rw [Text.natural?, if_neg (by simp [empty])] at h
        cases h
      · rw [Text.natural?, if_pos ⟨empty, digits⟩] at h
        dsimp only at h
        split at h
        · next small =>
          cases h
          exact ⟨empty, digits, (UInt32.toNat_ofNat_of_lt small).symm⟩
        · cases h
    · cases h
  · rintro ⟨nonempty, digits, value⟩
    have number : Text.natural? name.toList = some id.toNat := by
      rw [Text.natural?, if_pos ⟨nonempty, digits⟩, value]
    simp only [varId, if_pos digits, number, if_pos id.toNat_lt_size, UInt32.ofNat_toNat]

theorem lower_var_ok {name : String} {t : Term} :
    (Source.Term.var name).lower = .ok t ↔ ∃ id, varId name = .ok id ∧ .var id = t := by
  rw [Source.Term.lower]
  cases varId name <;> simp [Except.map]

theorem lower_predicate_ok {p : Source.Predicate} {q : Predicate} :
    p.lower = .ok q ↔ p.name = q.name ∧ p.terms.mapM Source.Term.lower = .ok q.terms := by
  rw [Source.Predicate.lower, except_bind_ok]
  constructor
  · rintro ⟨terms, lowered, h⟩
    obtain rfl := except_pure_ok.mp h
    exact ⟨rfl, lowered⟩
  · rintro ⟨name, lowered⟩
    exact ⟨q.terms, lowered, by rw [name]; rfl⟩

/-- The check of a constraint, apart from its variable. -/
def Source.Constraint.lowerCheck : Source.Constraint → Except RuleFault Check
  | compare _ op value => comparisonCheck op value
  | member _ negated first others => membershipCheck negated first others
  | test function _ value => stringTestCheck function value

theorem lower_constraint_ok {x : Source.Constraint} {y : Constraint} :
    x.lower = .ok y ↔ varId x.subject = .ok y.subject ∧ x.lowerCheck = .ok y.check := by
  have parts : x.lower = varId x.subject >>= fun subject => x.lowerCheck >>= fun check =>
      pure { subject, check } := by
    cases x <;> rfl
  rw [parts, except_bind_ok]
  constructor
  · rintro ⟨subject, hs, h⟩
    obtain ⟨check, hc, h⟩ := except_bind_ok.mp h
    obtain rfl := except_pure_ok.mp h
    exact ⟨hs, hc⟩
  · rintro ⟨hs, hc⟩
    exact ⟨y.subject, hs, except_bind_ok.mpr ⟨y.check, hc, rfl⟩⟩

structure Rule.IsBound (r : Rule) : Prop where
  head : ∀ v ∈ r.head.vars, v ∈ r.body.flatMap Predicate.vars
  constraints : ∀ c ∈ r.constraints, c.subject ∈ r.body.flatMap Predicate.vars

theorem lower_rule_ok {r : Source.Rule} {s : Rule} :
    r.lower = .ok s ↔ (r.head.lower = .ok s.head ∧ r.body.mapM Source.Predicate.lower = .ok s.body ∧
      r.constraints.mapM Source.Constraint.lower = .ok s.constraints) ∧ s.IsBound := by
  have bound (s : Rule) : s.IsBound ↔
      (s.head.vars.find? fun v => !(s.body.flatMap Predicate.vars).contains v) = none ∧
        (s.constraints.find? fun c => !(s.body.flatMap Predicate.vars).contains c.subject) = none := by
    simp only [List.find?_eq_none, Bool.not_eq_true', Bool.not_eq_false, List.contains_iff_mem]
    exact ⟨fun h => ⟨h.head, h.constraints⟩, fun h => ⟨h.1, h.2⟩⟩
  rw [Source.Rule.lower, except_bind_ok]
  constructor
  · rintro ⟨head, hh, h⟩
    obtain ⟨body, hb, h⟩ := except_bind_ok.mp h
    obtain ⟨constraints, hc, h⟩ := except_bind_ok.mp h
    simp only at h
    split at h
    · cases h
    next headBound =>
    split at h
    · cases h
    next constraintsBound =>
    obtain rfl := except_pure_ok.mp h
    exact ⟨⟨hh, hb, hc⟩, (bound _).mpr ⟨headBound, constraintsBound⟩⟩
  · rintro ⟨⟨hh, hb, hc⟩, h⟩
    obtain ⟨headBound, constraintsBound⟩ := (bound s).mp h
    refine ⟨s.head, hh, except_bind_ok.mpr ⟨s.body, hb, except_bind_ok.mpr ⟨s.constraints, hc, ?_⟩⟩⟩
    simp only [headBound, constraintsBound]
    rfl

theorem lower_caveat_ok {c : Source.Caveat} {d : Caveat} :
    c.lower = .ok d ↔ c.queries.mapM Source.Rule.lower = .ok d.queries := by
  rw [Source.Caveat.lower, except_bind_ok]
  constructor
  · rintro ⟨queries, lowered, h⟩
    obtain rfl := except_pure_ok.mp h
    exact lowered
  · intro lowered
    exact ⟨d.queries, lowered, rfl⟩

/-! ## Policies -/

theorem lowerItems_ok {α β : Type} {lower : α → Except RuleFault β} {mark : Nat → RuleFault → PolicyFault}
    {xs : List α} {ys : List β} :
    Source.lowerItems lower mark xs = .ok ys ↔ List.Forall₂ (fun x y => lower x = .ok y) xs ys := by
  rw [Source.lowerItems, ← List.zipIdx_map_fst 0 xs, List.forall₂_map_left_iff, List.zipIdx_map_fst]
  constructor
  · intro h
    exact (mapM_ok h).imp fun _ _ => mapError_ok.mp
  · intro h
    exact mapM_of_forall₂ (h.imp fun _ _ => mapError_ok.mpr)

theorem lowerItems_eq_error {α β : Type} {lower : α → Except RuleFault β}
    {mark : Nat → RuleFault → PolicyFault} {xs : List α} {fault : PolicyFault} :
    Source.lowerItems lower mark xs = .error fault ↔ ∃ before x after cause, xs = before ++ x :: after ∧
      (∀ y ∈ before, ∃ z, lower y = .ok z) ∧ lower x = .error cause ∧
        mark (before.length + 1) cause = fault := by
  rw [Source.lowerItems, mapM_eq_error]
  constructor
  · rintro ⟨before, ⟨x, i⟩, after, parts, succeed, fails⟩
    obtain ⟨before, rest, rfl, rfl, others⟩ := List.zipIdx_eq_append_iff.mp parts
    obtain ⟨_, after, rfl, head, rfl⟩ := List.zipIdx_eq_cons_iff.mp others.symm
    cases head
    obtain ⟨cause, fails, marked⟩ := mapError_error.mp fails
    refine ⟨before, x, after, cause, rfl, fun y hy => ?_, fails, by simpa using marked⟩
    rw [← List.zipIdx_map_fst 0 before] at hy
    obtain ⟨indexed, hi, rfl⟩ := List.mem_map.mp hy
    obtain ⟨z, hz⟩ := succeed indexed hi
    exact ⟨z, mapError_ok.mp hz⟩
  · rintro ⟨before, x, after, cause, rfl, succeed, fails, rfl⟩
    refine ⟨before.zipIdx, (x, before.length), after.zipIdx (before.length + 1), ?_, ?_, ?_⟩
    · simp [List.zipIdx_append]
    · intro indexed hi
      have mem : indexed.1 ∈ before := List.fst_mem_of_mem_zipIdx hi
      obtain ⟨z, hz⟩ := succeed indexed.1 mem
      exact ⟨z, mapError_ok.mpr hz⟩
    · exact mapError_error.mpr ⟨cause, fails, rfl⟩

theorem lower_policy_ok {p : Source.Policy} {q : Policy} : p.lower = .ok q ↔ p.name = q.name ∧
    List.Forall₂ (fun r s => r.lower = .ok s) (Source.blockItems p.rules) q.rules ∧
      List.Forall₂ (fun c d => c.lower = .ok d) (Source.blockItems p.caveats) q.caveats := by
  rw [Source.Policy.lower, except_bind_ok]
  constructor
  · rintro ⟨rules, hr, h⟩
    obtain ⟨caveats, hc, h⟩ := except_bind_ok.mp h
    obtain rfl := except_pure_ok.mp h
    exact ⟨rfl, lowerItems_ok.mp hr, lowerItems_ok.mp hc⟩
  · rintro ⟨name, hr, hc⟩
    refine ⟨q.rules, lowerItems_ok.mpr hr, except_bind_ok.mpr ⟨q.caveats, lowerItems_ok.mpr hc, ?_⟩⟩
    rw [name]
    rfl

theorem lowerAll_ok {seen : List String} {ps : List Source.Policy} {qs : List Policy} :
    Policy.lowerAll seen ps = .ok qs ↔ List.Forall₂ (fun p q => p.lower = .ok q) ps qs ∧
      (qs.map Policy.name).Nodup ∧ ∀ q ∈ qs, q.name ∉ seen := by
  induction ps generalizing seen qs with
  | nil =>
    rw [Policy.lowerAll, Except.ok.injEq, List.forall₂_nil_left_iff]
    constructor
    · rintro rfl
      simp
    · rintro ⟨rfl, -⟩
      rfl
  | cons p ps ih =>
    rw [Policy.lowerAll]
    constructor
    · intro h
      split at h
      · cases h
      next new =>
      split at h
      · cases h
      next q hq =>
      obtain ⟨rest, hl, rfl⟩ := except_map_ok.mp h
      obtain ⟨each, distinct, unseen⟩ := ih.mp hl
      have name : p.name = q.name := (lower_policy_ok.mp hq).1
      refine ⟨.cons hq each, List.nodup_cons.mpr ⟨fun h => ?_, distinct⟩, List.forall_mem_cons.mpr ⟨?_, ?_⟩⟩
      · obtain ⟨q', hq', same⟩ := List.mem_map.mp h
        exact unseen q' hq' (by rw [same, name]; exact List.mem_cons_self)
      · rwa [← name]
      · exact fun q' hq' h => unseen q' hq' (List.mem_cons_of_mem _ h)
    · rintro ⟨each, distinct, unseen⟩
      obtain ⟨q, rest, hq, behind, rfl⟩ := List.forall₂_cons_left_iff.mp each
      have name : p.name = q.name := (lower_policy_ok.mp hq).1
      obtain ⟨first, distinct⟩ := List.nodup_cons.mp distinct
      obtain ⟨new, unseen⟩ := List.forall_mem_cons.mp unseen
      have others : Policy.lowerAll (p.name :: seen) ps = .ok rest := by
        refine ih.mpr ⟨behind, distinct, fun q' hq' h => ?_⟩
        rcases List.mem_cons.mp h with same | h
        · exact first (List.mem_map.mpr ⟨q', hq', by rw [same, name]⟩)
        · exact unseen q' hq' h
      rw [if_neg (by rwa [name]), hq]
      exact except_map_ok.mpr ⟨rest, others, rfl⟩

end PolicyGate
