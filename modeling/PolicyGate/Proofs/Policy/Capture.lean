import PolicyGate.Proofs.Policy.Lowering
import PolicyGate.Proofs.Policy.Numbering

/-!
# Variables are not captured

Compiling gives one number to all occurrences of a variable and different numbers to different
variables: `compileDocument_vars`. Numeric names are variables of their own, told apart by their values.
-/

namespace PolicyGate

open Source (assignments isNumeric numberedName numberVariables varId)

/-! ## The variables of policies -/

def Rule.vars (r : Rule) : List UInt32 :=
  r.head.vars ++ r.body.flatMap Predicate.vars ++ r.constraints.map Constraint.subject

def Caveat.vars (c : Caveat) : List UInt32 :=
  c.queries.flatMap Rule.vars

def Policy.vars (p : Policy) : List UInt32 :=
  p.rules.flatMap Rule.vars ++ p.caveats.flatMap Caveat.vars

/-! ## Lowering a variable gives the number that its name writes -/

def Numbers : List String → List UInt32 → Prop :=
  List.Forall₂ fun name id => varId name = .ok id

theorem Numbers.append {ms ns : List String} {is js : List UInt32} (h : Numbers ms is)
    (h' : Numbers ns js) : Numbers (ms ++ ns) (is ++ js) :=
  List.rel_append h h'

theorem numbers_flatMap {α β ε : Type} {f : α → Except ε β} {names : α → List String}
    {ids : β → List UInt32} {xs : List α} {ys : List β} (h : List.Forall₂ (fun x y => f x = .ok y) xs ys)
    (hf : ∀ x y, f x = .ok y → Numbers (names x) (ids y)) :
    Numbers (xs.flatMap names) (ys.flatMap ids) := by
  induction h with
  | nil => exact .nil
  | cons first _ ih => exact (hf _ _ first).append ih

theorem lower_terms {ts : List Source.Term} {ts' : List Term}
    (h : List.Forall₂ (fun t t' => t.lower = .ok t') ts ts') :
    Numbers (ts.filterMap Source.Term.var?) (ts'.filterMap fun
      | .var id => some id
      | .atom _ => none) := by
  induction h with
  | nil => exact .nil
  | @cons t t' ts ts' first _ ih =>
    cases t with
    | literal v =>
      cases first
      exact ih
    | var name =>
      obtain ⟨id, hid, rfl⟩ := lower_var_ok.mp first
      exact .cons hid ih

theorem lower_predicate_vars {p : Source.Predicate} {q : Predicate} (h : p.lower = .ok q) :
    Numbers p.vars q.vars :=
  lower_terms (mapM_ok (lower_predicate_ok.mp h).2)

theorem lower_rule_vars {r : Source.Rule} {s : Rule} (h : r.lower = .ok s) : Numbers r.vars s.vars := by
  obtain ⟨⟨head, body, constraints⟩, -⟩ := lower_rule_ok.mp h
  have subjects : Numbers (r.constraints.map Source.Constraint.subject)
      (s.constraints.map Constraint.subject) :=
    List.forall₂_map_left_iff.mpr (List.forall₂_map_right_iff.mpr
      ((mapM_ok constraints).imp fun _ _ h => (lower_constraint_ok.mp h).1))
  have predicates := numbers_flatMap (mapM_ok body) fun _ _ => lower_predicate_vars
  exact ((lower_predicate_vars head).append predicates).append subjects

theorem lower_caveat_vars {c : Source.Caveat} {d : Caveat} (h : c.lower = .ok d) :
    Numbers c.vars d.vars :=
  numbers_flatMap (mapM_ok (lower_caveat_ok.mp h)) fun _ _ => lower_rule_vars

theorem lower_policy_vars {p : Source.Policy} {q : Policy} (h : p.lower = .ok q) :
    Numbers p.vars q.vars := by
  obtain ⟨-, rules, caveats⟩ := lower_policy_ok.mp h
  exact (numbers_flatMap rules fun _ _ => lower_rule_vars).append
    (numbers_flatMap caveats fun _ _ => lower_caveat_vars)

theorem lowerAll_vars {seen : List String} {ps : List Source.Policy} {qs : List Policy}
    (h : Policy.lowerAll seen ps = .ok qs) :
    Numbers (ps.flatMap Source.Policy.vars) (qs.flatMap Policy.vars) :=
  numbers_flatMap (lowerAll_ok.mp h).1 fun _ _ => lower_policy_vars

/-! ## Numbers are always found -/

/-- The computation does not fail for a variable that is not a number. -/
def Resolves {α : Type} (a : Except RuleFault α) : Prop :=
  ∀ name, a ≠ .error (.unresolvedVariable name)

section
variable {α β : Type}

theorem resolves_ok (x : α) : Resolves (.ok x) := by
  intro name h
  cases h

theorem Resolves.bind {a : Except RuleFault α} {k : α → Except RuleFault β} (ha : Resolves a)
    (hk : ∀ x, Resolves (k x)) : Resolves (a >>= k) := by
  intro name h
  rcases except_bind_error.mp h with h | ⟨x, -, h⟩
  · exact ha name h
  · exact hk x name h

theorem resolves_mapM {f : α → Except RuleFault β} {xs : List α} (h : ∀ x ∈ xs, Resolves (f x)) :
    Resolves (xs.mapM f) := by
  intro name hm
  obtain ⟨x, hx, he⟩ := mapM_error hm
  exact h x hx name he

end

theorem resolves_varId {name : String} (h : isNumeric name.toList = true) : Resolves (varId name) := by
  intro other hv
  have digits : name.toList.all Char.isDigit = true := h
  rw [varId, if_pos digits] at hv
  split at hv
  · split at hv <;> cases hv
  · cases hv

theorem resolves_comparisonCheck (op : Source.Comparison) (value : Source.Literal) :
    Resolves (Source.comparisonCheck op value) := by
  intro name h
  cases op <;> cases value <;> simp only [Source.comparisonCheck, Source.dateCheck] at h <;>
    first | cases h | (split at h <;> cases h)

theorem resolves_setMembers {α : Type} (first : Source.Literal) (pick : Source.Literal → Option α)
    (members : List Source.Literal) : Resolves (Source.setMembers first pick members) := by
  refine resolves_mapM fun l _ => ?_
  intro name h
  split at h <;> cases h

theorem resolves_membershipCheck (negated : Bool) (first : Source.Literal) (others : List Source.Literal) :
    Resolves (Source.membershipCheck negated first others) := by
  cases first <;> exact (resolves_setMembers _ _ _).bind fun _ => resolves_ok _

theorem resolves_stringTestCheck (function : Source.StringTest) (value : String) :
    Resolves (Source.stringTestCheck function value) := by
  cases function with
  | fits =>
    unfold Source.stringTestCheck
    dsimp only
    split
    · exact resolves_ok _
    · intro name h
      cases h
  | _ => exact resolves_ok _

theorem resolves_constraint {x : Source.Constraint} (h : isNumeric x.subject.toList = true) :
    Resolves x.lower := by
  have subject := resolves_varId h
  cases x with
  | compare name op value =>
    exact subject.bind fun _ => (resolves_comparisonCheck op value).bind fun _ => resolves_ok _
  | member name negated first others =>
    exact subject.bind fun _ => (resolves_membershipCheck negated first others).bind fun _ => resolves_ok _
  | test function name value =>
    exact subject.bind fun _ => (resolves_stringTestCheck function value).bind fun _ => resolves_ok _

theorem resolves_predicate {p : Source.Predicate} (h : ∀ name ∈ p.vars, isNumeric name.toList = true) :
    Resolves p.lower := by
  refine (resolves_mapM fun t ht => ?_).bind fun _ => resolves_ok _
  cases t with
  | literal v => exact resolves_ok _
  | var name =>
    have numeric := h name (List.mem_filterMap.mpr ⟨_, ht, rfl⟩)
    intro other hv
    rw [Source.Term.lower, except_map_error] at hv
    exact resolves_varId numeric other hv

theorem resolves_rule {r : Source.Rule} (h : ∀ name ∈ r.vars, isNumeric name.toList = true) :
    Resolves r.lower := by
  obtain ⟨predicates, subjects⟩ := List.forall_mem_append.mp h
  obtain ⟨head, body⟩ := List.forall_mem_append.mp predicates
  refine (resolves_predicate head).bind fun _ => ?_
  refine (resolves_mapM fun p hp => ?_).bind fun _ => (resolves_mapM fun x hx => ?_).bind fun _ => ?_
  · exact resolves_predicate fun name hn => body name (List.mem_flatMap.mpr ⟨p, hp, hn⟩)
  · exact resolves_constraint (subjects _ (List.mem_map_of_mem hx))
  · intro name h
    simp only at h
    split at h
    · cases h
    · split at h <;> cases h

theorem resolves_caveat {c : Source.Caveat} (h : ∀ name ∈ c.vars, isNumeric name.toList = true) :
    Resolves c.lower := by
  refine (resolves_mapM fun r hr => ?_).bind fun _ => resolves_ok _
  exact resolves_rule fun name hn => h name (List.mem_flatMap.mpr ⟨r, hr, hn⟩)

def PolicyFault.cause : PolicyFault → RuleFault
  | inRule _ fault => fault
  | inCaveat _ fault => fault

theorem lowerItems_error {α β : Type} {lower : α → Except RuleFault β}
    {mark : Nat → RuleFault → PolicyFault} (hm : ∀ i fault, (mark i fault).cause = fault) {xs : List α}
    {fault : PolicyFault} (h : Source.lowerItems lower mark xs = .error fault) :
    ∃ x ∈ xs, lower x = .error fault.cause := by
  obtain ⟨before, x, after, cause, rfl, -, fails, rfl⟩ := lowerItems_eq_error.mp h
  exact ⟨x, by simp, by rw [fails, hm]⟩

theorem lower_policy_resolves {p : Source.Policy} {fault : PolicyFault} {name : String}
    (numeric : ∀ v ∈ p.vars, isNumeric v.toList = true) (h : p.lower = .error fault) :
    fault.cause ≠ .unresolvedVariable name := by
  obtain ⟨inRules, inCaveats⟩ := List.forall_mem_append.mp numeric
  intro cause
  rw [Source.Policy.lower] at h
  rcases except_bind_error.mp h with h | ⟨rules, -, h⟩
  · obtain ⟨r, hr, he⟩ := lowerItems_error (fun _ _ => rfl) h
    have resolves := resolves_rule fun v hv => inRules v (List.mem_flatMap.mpr ⟨r, hr, hv⟩)
    exact resolves name (cause ▸ he)
  rcases except_bind_error.mp h with h | ⟨caveats, -, h⟩
  · obtain ⟨c, hc, he⟩ := lowerItems_error (fun _ _ => rfl) h
    have resolves := resolves_caveat fun v hv => inCaveats v (List.mem_flatMap.mpr ⟨c, hc, hv⟩)
    exact resolves name (cause ▸ he)
  · cases h

theorem lowerAll_resolves {seen : List String} {ps : List Source.Policy} {policy : String}
    {fault : PolicyFault} {name : String}
    (numeric : ∀ v ∈ ps.flatMap Source.Policy.vars, isNumeric v.toList = true)
    (h : Policy.lowerAll seen ps = .error (.policyFault policy fault)) :
    fault.cause ≠ .unresolvedVariable name := by
  induction ps generalizing seen with
  | nil => cases h
  | cons p ps ih =>
    obtain ⟨first, rest⟩ := List.forall_mem_append.mp numeric
    rw [Policy.lowerAll] at h
    split at h
    · cases h
    split at h
    · next e he =>
      cases h
      exact lower_policy_resolves first he
    · cases hl : Policy.lowerAll (p.name :: seen) ps with
      | error e =>
        rw [hl] at h
        cases h
        exact ih rest hl
      | ok qs =>
        rw [hl] at h
        cases h

/-! ## Documents -/

section
variable {names : List (List Char)} {x y : String} (hx : x.toList ∈ names)
include hx

theorem isNumeric_numberedName : isNumeric (numberedName (assignments names) x).toList = true := by
  have cases := Source.numberedName_cases hx
  split at cases
  · next numeric => rwa [cases]
  · obtain ⟨i, -, name⟩ := cases
    rw [name]
    exact Source.isNumeric_toString i

/-- The numbers that stand for two names are equal just when the names are one variable. -/
theorem numberedName_value_eq_iff (hy : y.toList ∈ names) :
    Text.digitsValue (numberedName (assignments names) x).toList =
        Text.digitsValue (numberedName (assignments names) y).toList ↔
      (isNumeric x.toList = false ∧ isNumeric y.toList = false ∧ x = y) ∨
        (isNumeric x.toList = true ∧ isNumeric y.toList = true ∧
          Text.digitsValue x.toList = Text.digitsValue y.toList) := by
  have value (i : Nat) : Text.digitsValue (toString i).toList = i := Text.digitsValue_repr i
  have casesX := Source.numberedName_cases hx
  have casesY := Source.numberedName_cases hy
  -- a numeric name keeps its value; the number of a symbolic one is no numeric name's value
  by_cases numericX : isNumeric x.toList = true
  · rw [if_pos numericX] at casesX
    by_cases numericY : isNumeric y.toList = true
    · rw [if_pos numericY] at casesY
      simp [numericX, numericY, casesX, casesY]
    · rw [if_neg numericY] at casesY
      obtain ⟨j, hj, nameY⟩ := casesY
      have fresh := Source.assignment_fresh hj hx numericX
      rw [casesX, nameY, value]
      simp [numericX, numericY, fresh]
  · rw [if_neg numericX] at casesX
    obtain ⟨i, hi, nameX⟩ := casesX
    by_cases numericY : isNumeric y.toList = true
    · rw [if_pos numericY] at casesY
      have fresh := Source.assignment_fresh hi hy numericY
      rw [casesY, nameX, value]
      simp [numericX, numericY, fresh.symm]
    · rw [if_neg numericY] at casesY
      obtain ⟨j, hj, nameY⟩ := casesY
      have same : i = j ↔ x = y := by
        constructor
        · rintro rfl
          exact String.toList_inj.mp (Source.assignments_injective hi hj)
        · rintro rfl
          exact Option.some.inj (hi.symm.trans hj)
      rw [nameX, nameY, value, value]
      simp [numericX, numericY, same]

end

section
variable {document : String} {d : Source.Document} (read : Source.Document.ofText document = .ok d)
include read

theorem isNumeric_nameFor {x : String} (hx : x ∈ d.vars) :
    isNumeric ((numberVariables document).nameFor x).toList = true := by
  rw [Source.nameFor_numberVariables]
  exact isNumeric_numberedName (Source.mem_variableNames read hx)

theorem nameFor_value_eq_iff {x y : String} (hx : x ∈ d.vars) (hy : y ∈ d.vars) :
    Text.digitsValue ((numberVariables document).nameFor x).toList =
        Text.digitsValue ((numberVariables document).nameFor y).toList ↔
      (isNumeric x.toList = false ∧ isNumeric y.toList = false ∧ x = y) ∨
        (isNumeric x.toList = true ∧ isNumeric y.toList = true ∧
          Text.digitsValue x.toList = Text.digitsValue y.toList) := by
  rw [Source.nameFor_numberVariables]
  exact numberedName_value_eq_iff (Source.mem_variableNames read hx) (Source.mem_variableNames read hy)

end

def idOf (name : String) : UInt32 :=
  (varId name).toOption.getD 0

theorem Numbers.eq_map {names : List String} {ids : List UInt32} (h : Numbers names ids) :
    ids = names.map idOf ∧ ∀ name ∈ names, (idOf name).toNat = Text.digitsValue name.toList := by
  induction h with
  | nil => exact ⟨rfl, by simp⟩
  | @cons name id names ids first _ ih =>
    have found : idOf name = id := by
      rw [idOf, first]
      rfl
    refine ⟨congrArg₂ List.cons found.symm ih.1, List.forall_mem_cons.mpr ⟨?_, ih.2⟩⟩
    rw [found, (varId_eq_ok.mp first).value]

/-- Compiling a document gives two occurrences of variables one number just when they are one variable:
the same symbolic name, or numerals of one value. It never fails for a variable without a number. -/
theorem compileDocument_vars (document : String) :
    (∀ policies, compileDocument document = .ok policies →
      ∃ d, Source.Document.ofText document = .ok d ∧ ∃ id : String → UInt32,
        policies.flatMap Policy.vars = d.vars.map id ∧
        ∀ x ∈ d.vars, ∀ y ∈ d.vars, id x = id y ↔
          (isNumeric x.toList = false ∧ isNumeric y.toList = false ∧ x = y) ∨
            (isNumeric x.toList = true ∧ isNumeric y.toList = true ∧
              Text.digitsValue x.toList = Text.digitsValue y.toList)) ∧
    ∀ policy fault name, compileDocument document = .error (.policyFault policy fault) →
      fault.cause ≠ .unresolvedVariable name := by
  rw [compileDocument]
  rcases (Source.Document.ofText_follows document).cases with
    ⟨d, d', read, read', tree⟩ | ⟨e, e', -, read', -⟩
  · have vars : d'.policies.flatMap Source.Policy.vars = d.vars.map (numberVariables document).nameFor := by
      show d'.vars = _
      rw [← Source.Document.vars_mapOffsets, tree, Source.Document.vars_rename]
    simp only [read']
    constructor
    · intro policies h
      obtain ⟨ids, values⟩ := (vars ▸ lowerAll_vars h).eq_map
      have value {x : String} (hx : x ∈ d.vars) := values _ (List.mem_map_of_mem hx)
      refine ⟨d, read, idOf ∘ (numberVariables document).nameFor, by rw [ids, List.map_map], ?_⟩
      intro x hx y hy
      rw [← nameFor_value_eq_iff read hx hy, ← value hx, ← value hy]
      exact UInt32.toNat_inj.symm
    · intro policy fault name h
      refine lowerAll_resolves (fun v hv => ?_) h
      rw [vars] at hv
      obtain ⟨x, hx, rfl⟩ := List.mem_map.mp hv
      exact isNumeric_nameFor read hx
  · simp only [read']
    constructor
    · intro policies h
      cases h
    · intro policy fault name h
      cases h

theorem compileDocument_vars_numeric :
    ∃ policies, compileDocument "policy \"p\"\x7brules\x7b*a($x,$01)<-b($1,$x,$0)\x7d\x7d" = .ok policies ∧
      ∃ id : String → UInt32, policies.flatMap Policy.vars = ["x", "01", "1", "x", "0"].map id ∧
        id "01" = id "1" ∧ id "x" ≠ id "1" ∧ id "x" ≠ id "0" := by
  let rule : Source.Rule :=
    ⟨[], ⟨"a", [.var "x", .var "01"]⟩, [⟨"b", [.var "1", .var "x", .var "0"]⟩], []⟩
  let tree : Source.Document := ⟨[⟨[], "p", 0, some ⟨[rule], []⟩, none⟩], []⟩
  have kinds : (Source.tokenize "policy \"p\"\x7brules\x7b*a($x,$01)<-b($1,$x,$0)\x7d\x7d").map
      (List.map Source.Token.kind) = .ok (tree.tokens ++ [.endOfDocument]) := by decide +kernel
  have ok : tree.WellFormed := by
    intro p hp
    obtain rfl := List.mem_singleton.mp hp
    refine ⟨fun b hb r hr => ?_, fun b hb => (by cases hb)⟩
    cases hb
    obtain rfl := List.mem_singleton.mp hr
    exact List.cons_ne_nil _ _
  obtain ⟨d, read, same⟩ := Source.Document.exists_ofText kinds ok
  have vars : d.vars = ["x", "01", "1", "x", "0"] := by
    have offsets (d : Source.Document) : d.withoutOffsets.vars = d.vars := List.flatMap_map ..
    rw [← offsets d, same]
    rfl
  have compiled : compileDocument "policy \"p\"\x7brules\x7b*a($x,$01)<-b($1,$x,$0)\x7d\x7d" =
      .ok [⟨"p", [⟨⟨"a", [.var 2, .var 1]⟩, [⟨"b", [.var 1, .var 2, .var 0]⟩], []⟩], []⟩] := by
    have policies : d.numbered.withoutOffsets.policies = tree.numbered.withoutOffsets.policies := by
      rw [← numbered_withoutOffsets, same, numbered_withoutOffsets]
    rw [compileDocument_of_ofText read, ← lowerAll_withoutOffset]
    show Policy.lowerAll [] d.numbered.withoutOffsets.policies = _
    rw [policies]
    decide +kernel
  obtain ⟨d', read', id, ids, alike⟩ := (compileDocument_vars _).1 _ compiled
  obtain rfl : d = d' := Except.ok.inj (read.symm.trans read')
  rw [vars] at ids alike
  have apart (y : String) (hy : y ∈ ["x", "01", "1", "x", "0"]) (numeric : isNumeric y.toList = true) :
      id "x" ≠ id y := by
    intro e
    rcases (alike "x" (by simp) y hy).mp e with ⟨-, symbolic, -⟩ | ⟨impossible, -⟩
    · rw [numeric] at symbolic
      cases symbolic
    · exact absurd impossible (by decide)
  refine ⟨_, compiled, id, ids, ?_, apart "1" (by simp) (by decide), apart "0" (by simp) (by decide)⟩
  exact (alike "01" (by simp) "1" (by simp)).mpr (.inr ⟨by decide, by decide, by decide⟩)

end PolicyGate
