import PolicyGate.Proofs.Policy.Capture
import PolicyGate.Proofs.Policy.Meaning

/-!
# Which policies are lowered

The table of operators and literals says which constraints are admitted (`Source.Constraint.IsAdmitted`).
A policy is lowered just when its variables are numbers of 32 bits, its constraints are admitted and its
rules bound (`Source.Policy.IsLowerable`); otherwise the message starts with the first rule or caveat that
is not so (`Source.Policy.FirstFailure`). The result is what the policy means:
`Source.Policy.lower_characterized`.
-/

namespace PolicyGate

open Source (Literal)
open Time (Instant)

/-! ## Accepted constructs -/

namespace Source

structure IsId (name : String) : Prop where
  nonempty : name.toList ≠ []
  digits : name.toList.all Char.isDigit = true
  small : Text.digitsValue name.toList < UInt32.size

/-- The operator applies to the literal: the table of operators and literals. -/
inductive Comparison.Admits : Comparison → Literal → Prop
  | integer (op : Comparison) (value : Int64) : Admits op (.integer value)
  | string (content : String) : Admits .equal (.string content)
  | before {content : String} (isDate : (Instant.ofText? content).isSome) :
    Admits .lessOrEqual (.string content)
  | after {content : String} (isDate : (Instant.ofText? content).isSome) :
    Admits .greaterOrEqual (.string content)
  | bytes (value : Bytes) : Admits .equal (.bytes value)

def Constraint.IsAdmitted : Constraint → Prop
  | compare _ op value => op.Admits value
  | member _ _ first others => ∀ l ∈ others, l.kind = first.kind
  | test function _ value => function = .fits → isPattern value = true

/-- The variable occurs in the body, maybe with other leading zeros. -/
def Rule.Binds (r : Rule) (name : String) : Prop :=
  ∃ n ∈ r.body.flatMap Predicate.vars, Text.digitsValue n.toList = Text.digitsValue name.toList

structure Rule.IsLowerable (r : Rule) : Prop where
  numbered : ∀ name ∈ r.vars, IsId name
  admitted : ∀ x ∈ r.constraints, x.IsAdmitted
  head_bound : ∀ name ∈ r.head.vars, r.Binds name
  constraints_bound : ∀ x ∈ r.constraints, r.Binds x.subject

def Caveat.IsLowerable (c : Caveat) : Prop :=
  ∀ r ∈ c.queries, r.IsLowerable

structure Policy.IsLowerable (p : Policy) : Prop where
  rules : ∀ r ∈ blockItems p.rules, r.IsLowerable
  caveats : ∀ c ∈ blockItems p.caveats, c.IsLowerable

/-- How the message starts that tells of the first rule or caveat, counted from one, that cannot be
lowered. Rules come before caveats. -/
inductive Policy.FirstFailure (p : Policy) : String → Prop
  | rule {before after : List Rule} {r : Rule} (parts : blockItems p.rules = before ++ r :: after)
    (earlier : ∀ s ∈ before, s.IsLowerable) (fails : ¬ r.IsLowerable) :
    FirstFailure p ("rule " ++ toString (before.length + 1) ++ ": ")
  | caveat {before after : List Caveat} {c : Caveat} (rules : ∀ r ∈ blockItems p.rules, r.IsLowerable)
    (parts : blockItems p.caveats = before ++ c :: after) (earlier : ∀ d ∈ before, d.IsLowerable)
    (fails : ¬ c.IsLowerable) : FirstFailure p ("caveat " ++ toString (before.length + 1) ++ ": ")

end Source

/-! ## What is accepted means something -/

theorem exists_forall₂ {α β : Type} {R : α → β → Prop} {xs : List α} :
    (∃ ys, List.Forall₂ R xs ys) ↔ ∀ x ∈ xs, ∃ y, R x y := by
  induction xs with
  | nil => simp
  | cons x xs ih =>
    rw [List.forall_mem_cons, ← ih]
    constructor
    · rintro ⟨_, _ | ⟨first, rest⟩⟩
      exact ⟨⟨_, first⟩, _, rest⟩
    · rintro ⟨⟨y, first⟩, ys, rest⟩
      exact ⟨y :: ys, .cons first rest⟩

theorem SetKind.exists_check {α : Type} [LT α] [DecidableLT α] [Trans (α := α) (· < ·) (· < ·) (· < ·)]
    (kind : SetKind α) {x : α} {negated : Bool} {others : List Literal} :
    (∃ check, Source.membershipCheck negated (kind.make x) others = .ok check) ↔
      ∀ l ∈ others, ∃ y, l = kind.make y := by
  simp only [kind.membershipCheck_ok]
  constructor
  · rintro ⟨check, xs, members, -⟩ l hl
    have hl : l ∈ xs.map kind.make := members ▸ List.mem_cons_of_mem _ hl
    obtain ⟨y, -, rfl⟩ := List.mem_map.mp hl
    exact ⟨y, rfl⟩
  · intro h
    obtain ⟨ys, members⟩ := exists_forall₂.mpr h
    rw [← List.forall₂_map_right_iff (R := (· = ·)), List.forall₂_eq_eq_eq] at members
    exact ⟨_, x :: ys, by rw [members, List.map_cons], rfl⟩

namespace Source

theorem exists_writes {name : String} : (∃ id, Writes name id) ↔ IsId name := by
  constructor
  · rintro ⟨id, nonempty, digits, value⟩
    exact ⟨nonempty, digits, value ▸ id.toNat_lt_size⟩
  · rintro ⟨nonempty, digits, small⟩
    exact ⟨.ofNat _, nonempty, digits, (UInt32.toNat_ofNat_of_lt small).symm⟩

theorem Term.exists_means {t : Term} : (∃ u, t.Means u) ↔ ∀ name ∈ t.var?, IsId name := by
  cases t with
  | literal value => simpa [Term.var?] using ⟨_, Term.Means.literal value⟩
  | var name =>
    simp only [Term.var?, Option.mem_def, Option.some.injEq, forall_eq', ← exists_writes]
    constructor
    · rintro ⟨_, ⟨written⟩⟩
      exact ⟨_, written⟩
    · rintro ⟨id, written⟩
      exact ⟨_, .var written⟩

theorem Predicate.exists_means {p : Predicate} : (∃ q, p.Means q) ↔ ∀ name ∈ p.vars, IsId name := by
  have terms : (∃ q, p.Means q) ↔ ∃ us, List.Forall₂ Term.Means p.terms us := by
    constructor
    · rintro ⟨q, h⟩
      exact ⟨q.terms, h.terms⟩
    · rintro ⟨us, h⟩
      exact ⟨⟨p.name, us⟩, rfl, h⟩
  simp only [terms, exists_forall₂, Term.exists_means, Predicate.vars, List.mem_filterMap, Option.mem_def]
  constructor
  · rintro h name ⟨t, ht, hv⟩
    exact h t ht name hv
  · intro h t ht name hv
    exact h name ⟨t, ht, hv⟩

theorem Constraint.exists_checksAs {x : Constraint} : (∃ check, x.ChecksAs check) ↔ x.IsAdmitted := by
  cases x with
  | compare subject op value =>
    constructor
    · rintro ⟨check, h⟩
      cases h with
      | integer => exact .integer _ _
      | string => exact .string _
      | before isDate => exact .before (by rw [isDate]; rfl)
      | after isDate => exact .after (by rw [isDate]; rfl)
      | bytes => exact .bytes _
    · rintro (_ | _ | isDate | isDate | _)
      · exact ⟨_, .integer _ _ _⟩
      · exact ⟨_, .string _ _⟩
      · obtain ⟨date, isDate⟩ := Option.isSome_iff_exists.mp isDate
        exact ⟨_, .before isDate⟩
      · obtain ⟨date, isDate⟩ := Option.isSome_iff_exists.mp isDate
        exact ⟨_, .after isDate⟩
      · exact ⟨_, .bytes _ _⟩
  | member subject negated first others =>
    simp only [← lowerCheck_eq_ok, lowerCheck, IsAdmitted]
    cases first with
    | integer x =>
      refine SetKind.integers.exists_check.trans (forall₂_congr fun l _ => ?_)
      cases l <;> simp [SetKind.integers, Literal.kind]
    | string x =>
      refine SetKind.strings.exists_check.trans (forall₂_congr fun l _ => ?_)
      cases l <;> simp [SetKind.strings, Literal.kind]
    | symbol x =>
      refine SetKind.symbols.exists_check.trans (forall₂_congr fun l _ => ?_)
      cases l <;> simp [SetKind.symbols, Literal.kind]
    | bytes x =>
      refine SetKind.bytes.exists_check.trans (forall₂_congr fun l _ => ?_)
      cases l <;> simp [SetKind.bytes, Literal.kind]
  | test function subject value =>
    constructor
    · rintro ⟨check, h⟩ rfl
      cases h with
      | fits pattern => exact pattern
    · intro h
      cases function with
      | startsWith => exact ⟨_, .startsWith _ _⟩
      | endsWith => exact ⟨_, .endsWith _ _⟩
      | fits => exact ⟨_, .fits (h rfl)⟩

theorem Constraint.exists_means {x : Constraint} : (∃ y, x.Means y) ↔ IsId x.subject ∧ x.IsAdmitted := by
  rw [← exists_writes, ← exists_checksAs]
  constructor
  · rintro ⟨y, subject, check⟩
    exact ⟨⟨_, subject⟩, _, check⟩
  · rintro ⟨⟨id, subject⟩, check, h⟩
    exact ⟨⟨id, check⟩, subject, h⟩

end Source

/-! ## Bound variables -/

theorem Numbers.forall_mem_iff {ns ms : List String} {is js : List UInt32} (h : Numbers ns js)
    (h' : Numbers ms is) : (∀ j ∈ js, j ∈ is) ↔
      ∀ n ∈ ns, ∃ m ∈ ms, Text.digitsValue m.toList = Text.digitsValue n.toList := by
  obtain ⟨rfl, values⟩ := h.eq_map
  obtain ⟨rfl, values'⟩ := h'.eq_map
  have same {m n : String} (hm : m ∈ ms) (hn : n ∈ ns) :
      idOf m = idOf n ↔ Text.digitsValue m.toList = Text.digitsValue n.toList := by
    rw [← UInt32.toNat_inj, values n hn, values' m hm]
  rw [List.forall_mem_map]
  refine forall₂_congr fun n hn => ?_
  rw [List.mem_map]
  exact exists_congr fun m => and_congr_right fun hm => same hm hn

namespace Source

theorem Predicate.Means.numbers {p : Predicate} {q : PolicyGate.Predicate} (h : p.Means q) :
    Numbers p.vars q.vars :=
  lower_predicate_vars (lower_eq_ok.mpr h)

theorem numbers_body {ps : List Predicate} {qs : List PolicyGate.Predicate}
    (h : List.Forall₂ Predicate.Means ps qs) :
    Numbers (ps.flatMap Predicate.vars) (qs.flatMap PolicyGate.Predicate.vars) :=
  numbers_flatMap (h.imp fun _ _ => Predicate.lower_eq_ok.mpr) fun _ _ => lower_predicate_vars

theorem numbers_subjects {xs : List Constraint} {ys : List PolicyGate.Constraint}
    (h : List.Forall₂ Constraint.Means xs ys) :
    Numbers (xs.map Constraint.subject) (ys.map PolicyGate.Constraint.subject) :=
  List.forall₂_map_left_iff.mpr (List.forall₂_map_right_iff.mpr (h.imp fun _ _ m => varId_eq_ok.mpr m.subject))

theorem isBound_iff {r : Rule} {s : PolicyGate.Rule} (head : r.head.Means s.head)
    (body : List.Forall₂ Predicate.Means r.body s.body)
    (constraints : List.Forall₂ Constraint.Means r.constraints s.constraints) :
    s.IsBound ↔ (∀ name ∈ r.head.vars, r.Binds name) ∧ ∀ x ∈ r.constraints, r.Binds x.subject := by
  have heads := head.numbers.forall_mem_iff (numbers_body body)
  have subjects := (numbers_subjects constraints).forall_mem_iff (numbers_body body)
  rw [List.forall_mem_map, List.forall_mem_map] at subjects
  exact ⟨fun h => ⟨heads.mp h.head, subjects.mp h.constraints⟩,
    fun h => ⟨heads.mpr h.1, subjects.mpr h.2⟩⟩

theorem Rule.exists_means {r : Rule} : (∃ s, r.Means s) ↔ r.IsLowerable := by
  have names : (∀ name ∈ r.vars, IsId name) ↔ (∃ q, r.head.Means q) ∧
      (∃ qs, List.Forall₂ Predicate.Means r.body qs) ∧ ∀ x ∈ r.constraints, IsId x.subject := by
    simp only [Rule.vars, List.forall_mem_append, List.forall_mem_flatMap, List.forall_mem_map, exists_forall₂,
      Predicate.exists_means, and_assoc]
  have checks : (∃ ys, List.Forall₂ Constraint.Means r.constraints ys) ↔
      (∀ x ∈ r.constraints, IsId x.subject) ∧ ∀ x ∈ r.constraints, x.IsAdmitted := by
    simp only [exists_forall₂, Constraint.exists_means, forall_and]
  constructor
  · rintro ⟨s, head, body, constraints, bound⟩
    obtain ⟨ids, admitted⟩ := checks.mp ⟨_, constraints⟩
    obtain ⟨head_bound, constraints_bound⟩ := (isBound_iff head body constraints).mp bound
    exact ⟨names.mpr ⟨⟨_, head⟩, ⟨_, body⟩, ids⟩, admitted, head_bound, constraints_bound⟩
  · rintro ⟨numbered, admitted, head_bound, constraints_bound⟩
    obtain ⟨⟨q, head⟩, ⟨qs, body⟩, ids⟩ := names.mp numbered
    obtain ⟨ys, constraints⟩ := checks.mpr ⟨ids, admitted⟩
    have bound := (isBound_iff (s := ⟨q, qs, ys⟩) head body constraints).mpr ⟨head_bound, constraints_bound⟩
    exact ⟨⟨q, qs, ys⟩, head, body, constraints, bound⟩

theorem Caveat.exists_means {c : Caveat} : (∃ d, c.Means d) ↔ c.IsLowerable := by
  have queries : (∃ d, c.Means d) ↔ ∃ ss, List.Forall₂ Rule.Means c.queries ss := by
    constructor
    · rintro ⟨d, h⟩
      exact ⟨d.queries, h⟩
    · rintro ⟨ss, h⟩
      exact ⟨⟨ss⟩, h⟩
  simp only [queries, exists_forall₂, Rule.exists_means, Caveat.IsLowerable]

theorem Policy.exists_means {p : Policy} : (∃ q, p.Means q) ↔ p.IsLowerable := by
  have rules : (∃ ss, List.Forall₂ Rule.Means (blockItems p.rules) ss) ↔
      ∀ r ∈ blockItems p.rules, r.IsLowerable := by
    simp only [exists_forall₂, Rule.exists_means]
  have caveats : (∃ ds, List.Forall₂ Caveat.Means (blockItems p.caveats) ds) ↔
      ∀ c ∈ blockItems p.caveats, c.IsLowerable := by
    simp only [exists_forall₂, Caveat.exists_means]
  constructor
  · rintro ⟨q, -, hr, hc⟩
    exact ⟨rules.mp ⟨_, hr⟩, caveats.mp ⟨_, hc⟩⟩
  · rintro ⟨hr, hc⟩
    obtain ⟨ss, hr⟩ := rules.mpr hr
    obtain ⟨ds, hc⟩ := caveats.mpr hc
    exact ⟨⟨p.name, ss, ds⟩, rfl, hr, hc⟩

/-! ## Policies -/

theorem Rule.exists_lower {r : Rule} : (∃ s, r.lower = .ok s) ↔ r.IsLowerable := by
  simp only [Rule.lower_eq_ok, Rule.exists_means]

theorem Caveat.exists_lower {c : Caveat} : (∃ d, c.lower = .ok d) ↔ c.IsLowerable := by
  simp only [Caveat.lower_eq_ok, Caveat.exists_means]

theorem not_exists_ok {α ε : Type} {a : Except ε α} {e : ε} (fails : a = .error e) :
    ¬ ∃ x, a = .ok x := by
  rintro ⟨x, h⟩
  cases fails.symm.trans h

theorem Policy.lower_error {p : Policy} {fault : PolicyFault} (h : p.lower = .error fault) :
    ∃ label cause, p.FirstFailure label ∧
      ∀ reasons, fault.message reasons = label ++ RuleFault.message cause reasons := by
  rw [Policy.lower] at h
  rcases except_bind_error.mp h with h | ⟨rules, hr, h⟩
  · obtain ⟨before, r, after, cause, parts, earlier, fails, rfl⟩ := lowerItems_eq_error.mp h
    refine ⟨_, cause, .rule parts (fun s hs => Rule.exists_lower.mp (earlier s hs)) ?_, fun _ => rfl⟩
    exact mt Rule.exists_lower.mpr (not_exists_ok fails)
  rcases except_bind_error.mp h with h | ⟨caveats, -, h⟩
  · obtain ⟨before, c, after, cause, parts, earlier, fails, rfl⟩ := lowerItems_eq_error.mp h
    have rules := exists_forall₂.mp ⟨rules, lowerItems_ok.mp hr⟩
    refine ⟨_, cause, .caveat (fun s hs => Rule.exists_lower.mp (rules s hs)) parts
      (fun d hd => Caveat.exists_lower.mp (earlier d hd)) ?_, fun _ => rfl⟩
    exact mt Caveat.exists_lower.mpr (not_exists_ok fails)
  · cases h

/-- A policy is lowered just when it can be, and to what it means, part by part; otherwise the message
starts with the first rule or caveat that cannot be lowered. -/
theorem Policy.lower_characterized (p : Policy) :
    ((∃ q, p.lower = .ok q) ↔ p.IsLowerable) ∧ (∀ q, p.lower = .ok q ↔ p.Means q) ∧
      ∀ fault, p.lower = .error fault →
        ∃ label cause, p.FirstFailure label ∧
          ∀ reasons, fault.message reasons = label ++ RuleFault.message cause reasons := by
  refine ⟨?_, fun q => Policy.lower_eq_ok, fun fault => Policy.lower_error⟩
  simp only [Policy.lower_eq_ok, Policy.exists_means]

end Source
end PolicyGate
