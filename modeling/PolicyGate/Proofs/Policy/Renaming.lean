import PolicyGate.Proofs.Policy.Lowering

/-!
# Renaming the variables of policies

Where the variables of a tree are given other numbers, the policies that it is lowered to have their
variables renamed: `lower_policy_renumbered`.
-/

namespace PolicyGate

open Source (varId)

/-! ## Renaming -/

section
variable (ρ : UInt32 → UInt32)

def Term.rename : Term → Term
  | var id => .var (ρ id)
  | atom value => .atom value

def Predicate.rename (p : Predicate) : Predicate :=
  { p with terms := p.terms.map (Term.rename ρ) }

def Constraint.rename (c : Constraint) : Constraint :=
  { c with subject := ρ c.subject }

def Rule.rename (r : Rule) : Rule where
  head := r.head.rename ρ
  body := r.body.map (Predicate.rename ρ)
  constraints := r.constraints.map (Constraint.rename ρ)

def Caveat.rename (c : Caveat) : Caveat where
  queries := c.queries.map (Rule.rename ρ)

def Policy.rename (p : Policy) : Policy :=
  { p with rules := p.rules.map (Rule.rename ρ), caveats := p.caveats.map (Caveat.rename ρ) }

theorem Predicate.vars_rename (p : Predicate) : (p.rename ρ).vars = p.vars.map ρ := by
  unfold vars rename
  rw [List.filterMap_map, List.map_filterMap]
  congr 1
  funext t
  cases t <;> rfl

end

variable {ρ : UInt32 → UInt32}

theorem Rule.IsBound.rename {r : Rule} (h : r.IsBound) : (r.rename ρ).IsBound := by
  have body : (r.rename ρ).body.flatMap Predicate.vars = (r.body.flatMap Predicate.vars).map ρ := by
    simp only [Rule.rename, List.flatMap_map, List.map_flatMap, Predicate.vars_rename]
  constructor
  · rw [body]
    intro v hv
    obtain ⟨w, hw, rfl⟩ := List.mem_map.mp (Predicate.vars_rename ρ r.head ▸ hv)
    exact List.mem_map_of_mem (h.head w hw)
  · rw [body]
    intro c hc
    obtain ⟨x, hx, rfl⟩ := List.mem_map.mp hc
    exact List.mem_map_of_mem (h.constraints x hx)

/-! ## Other numbers -/

/-- Where `f` gives a name a number, `g` gives it the renamed number. -/
def Renumbers (f g : String → String) (ρ : UInt32 → UInt32) (names : List String) : Prop :=
  ∀ x ∈ names, ∀ id, varId (f x) = .ok id → varId (g x) = .ok (ρ id)

variable {f g : String → String}

theorem Renumbers.append {ms ns : List String} : Renumbers f g ρ (ms ++ ns) ↔
    Renumbers f g ρ ms ∧ Renumbers f g ρ ns :=
  List.forall_mem_append

theorem forall₂_renumbered {σ τ ε : Type} {lower : σ → Except ε τ} {rename : (String → String) → σ → σ}
    {out : τ → τ} {vars : σ → List String}
    (item : ∀ x y, Renumbers f g ρ (vars x) → lower (rename f x) = .ok y → lower (rename g x) = .ok (out y))
    {xs : List σ} {ys : List τ} (h : Renumbers f g ρ (xs.flatMap vars))
    (lowered : List.Forall₂ (fun x y => lower x = .ok y) (xs.map (rename f)) ys) :
    List.Forall₂ (fun x y => lower x = .ok y) (xs.map (rename g)) (ys.map out) := by
  rw [List.forall₂_map_left_iff] at lowered
  rw [List.forall₂_map_left_iff, List.forall₂_map_right_iff]
  induction lowered with
  | nil => exact .nil
  | cons first _ ih =>
    obtain ⟨here, behind⟩ := Renumbers.append.mp h
    exact .cons (item _ _ here first) (ih behind)

theorem mapM_renumbered {σ τ ε : Type} {lower : σ → Except ε τ} {rename : (String → String) → σ → σ}
    {out : τ → τ} {vars : σ → List String}
    (item : ∀ x y, Renumbers f g ρ (vars x) → lower (rename f x) = .ok y → lower (rename g x) = .ok (out y))
    {xs : List σ} {ys : List τ} (h : Renumbers f g ρ (xs.flatMap vars))
    (lowered : (xs.map (rename f)).mapM lower = .ok ys) :
    (xs.map (rename g)).mapM lower = .ok (ys.map out) :=
  mapM_of_forall₂ (forall₂_renumbered item h (mapM_ok lowered))

theorem lower_term_renumbered (t : Source.Term) (t' : Term) (h : Renumbers f g ρ t.var?.toList)
    (lowered : (t.rename f).lower = .ok t') : (t.rename g).lower = .ok (t'.rename ρ) := by
  cases t with
  | literal value =>
    cases lowered
    rfl
  | var name =>
    obtain ⟨id, hid, rfl⟩ := lower_var_ok.mp lowered
    exact lower_var_ok.mpr ⟨ρ id, h name (by simp [Source.Term.var?]) id hid, rfl⟩

theorem lower_predicate_renumbered (p : Source.Predicate) (q : Predicate) (h : Renumbers f g ρ p.vars)
    (lowered : (p.rename f).lower = .ok q) : (p.rename g).lower = .ok (q.rename ρ) := by
  rw [Source.Predicate.vars, List.filterMap_eq_flatMap_toList] at h
  obtain ⟨name, terms⟩ := lower_predicate_ok.mp lowered
  exact lower_predicate_ok.mpr ⟨name, mapM_renumbered lower_term_renumbered h terms⟩

theorem lower_constraint_renumbered (x : Source.Constraint) (y : Constraint)
    (h : Renumbers f g ρ [x.subject]) (lowered : (x.rename f).lower = .ok y) :
    (x.rename g).lower = .ok (y.rename ρ) := by
  have subject (k : String → String) : (x.rename k).subject = k x.subject := by cases x <;> rfl
  have check : (x.rename g).lowerCheck = (x.rename f).lowerCheck := by cases x <;> rfl
  obtain ⟨number, checked⟩ := lower_constraint_ok.mp lowered
  rw [subject] at number
  refine lower_constraint_ok.mpr ⟨?_, check.trans checked⟩
  rw [subject]
  exact h x.subject List.mem_cons_self y.subject number

theorem lower_rule_renumbered (r : Source.Rule) (s : Rule) (h : Renumbers f g ρ r.vars)
    (lowered : (r.rename f).lower = .ok s) : (r.rename g).lower = .ok (s.rename ρ) := by
  rw [Source.Rule.vars, List.map_eq_flatMap] at h
  obtain ⟨predicates, subjects⟩ := Renumbers.append.mp h
  obtain ⟨inHead, inBody⟩ := Renumbers.append.mp predicates
  obtain ⟨⟨head, body, constraints⟩, bound⟩ := lower_rule_ok.mp lowered
  refine lower_rule_ok.mpr ⟨⟨?_, ?_, ?_⟩, bound.rename⟩
  · exact lower_predicate_renumbered r.head s.head inHead head
  · exact mapM_renumbered lower_predicate_renumbered inBody body
  · exact mapM_renumbered lower_constraint_renumbered subjects constraints

theorem lower_caveat_renumbered (c : Source.Caveat) (d : Caveat) (h : Renumbers f g ρ c.vars)
    (lowered : (c.rename f).lower = .ok d) : (c.rename g).lower = .ok (d.rename ρ) :=
  lower_caveat_ok.mpr (mapM_renumbered lower_rule_renumbered h (lower_caveat_ok.mp lowered))

theorem lower_policy_renumbered (p : Source.Policy) (q : Policy) (h : Renumbers f g ρ p.vars)
    (lowered : (p.rename f).lower = .ok q) : (p.rename g).lower = .ok (q.rename ρ) := by
  obtain ⟨inRules, inCaveats⟩ := Renumbers.append.mp h
  obtain ⟨name, rules, caveats⟩ := lower_policy_ok.mp lowered
  simp only [Source.Policy.rename, Source.blockItems_map] at rules caveats
  refine lower_policy_ok.mpr ⟨name, ?_, ?_⟩
  · simp only [Source.Policy.rename, Source.blockItems_map]
    exact forall₂_renumbered lower_rule_renumbered inRules rules
  · simp only [Source.Policy.rename, Source.blockItems_map]
    exact forall₂_renumbered lower_caveat_renumbered inCaveats caveats

end PolicyGate
