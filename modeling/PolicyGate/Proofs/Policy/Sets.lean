import Mathlib.Data.Set.List
import PolicyGate.Policy.Text
import PolicyGate.Proofs.Policy.Lowering

/-!
# Sets and their members

An ordered set is the set of its own members (`OrderedSet.ofList_toList`). Literals of each kind make sets
of that kind (`SetKind`): a set of literals is lowered just when all are of the kind of the first
(`SetKind.membershipCheck_ok`), and a set has members again that make it (`SetKind.exists_members`).
-/

namespace PolicyGate

open Source (Literal)

namespace OrderedSet

variable {α : Type} [LT α]

theorem eq_of_toList {a b : OrderedSet α} (h : a.toList = b.toList) : a = b := by
  cases a
  cases b
  cases h
  rfl

variable [DecidableLT α]

theorem insertInto_ne_nil (x : α) (ys : List α) : insertInto x ys ≠ [] := by
  cases ys with
  | nil => exact List.cons_ne_nil _ _
  | cons y ys =>
    unfold insertInto
    split
    · exact List.cons_ne_nil _ _
    split <;> exact List.cons_ne_nil _ _

variable [Trans (α := α) (· < ·) (· < ·) (· < ·)]

theorem toList_ofList {xs : List α} (h : xs.Pairwise (· < ·)) : (ofList xs).toList = xs := by
  induction h with
  | nil => rfl
  | @cons x xs first _ ih =>
    show insertInto x (ofList xs).toList = x :: xs
    rw [ih]
    cases xs with
    | nil => rfl
    | cons y ys => exact if_pos (first y List.mem_cons_self)

theorem ofList_toList (s : OrderedSet α) : ofList s.toList = s :=
  eq_of_toList (toList_ofList s.ascending)

theorem mem_of_mem_ofList {x : α} {xs : List α} (h : x ∈ (ofList xs).toList) : x ∈ xs := by
  induction xs with
  | nil => cases h
  | cons y ys ih =>
    rcases mem_insertInto h with rfl | h
    · exact List.mem_cons_self
    · exact List.mem_cons_of_mem y (ih h)

omit [Trans (α := α) (· < ·) (· < ·) (· < ·)] in
theorem mem_insertInto_of_mem {x y : α} {ys : List α} (h : y ∈ ys) : y ∈ insertInto x ys := by
  induction ys with
  | nil => cases h
  | cons z zs ih =>
    unfold insertInto
    split
    · exact List.mem_cons_of_mem x h
    split
    · rcases List.mem_cons.mp h with rfl | h
      · exact List.mem_cons_self
      · exact List.mem_cons_of_mem z (ih h)
    · exact h

section
variable [Std.Trichotomous (α := α) (· < ·)]

omit [Trans (α := α) (· < ·) (· < ·) (· < ·)] in
theorem mem_insertInto_self (x : α) (ys : List α) : x ∈ insertInto x ys := by
  induction ys with
  | nil => exact List.mem_cons_self
  | cons y ys ih =>
    unfold insertInto
    split
    · exact List.mem_cons_self
    next notBelow =>
    split
    · exact List.mem_cons_of_mem y ih
    next notAbove =>
    rw [Std.Trichotomous.trichotomous x y notBelow notAbove]
    exact List.mem_cons_self

theorem mem_ofList {x : α} {xs : List α} : x ∈ (ofList xs).toList ↔ x ∈ xs := by
  refine ⟨mem_of_mem_ofList, fun h => ?_⟩
  induction xs with
  | nil => cases h
  | cons y ys ih =>
    rcases List.mem_cons.mp h with rfl | h
    · exact mem_insertInto_self x _
    · exact mem_insertInto_of_mem (ih h)

end

omit [DecidableLT α] [Trans (α := α) (· < ·) (· < ·) (· < ·)] in
theorem eq_of_mem_iff [Std.Asymm (α := α) (· < ·)] {a b : OrderedSet α}
    (h : ∀ x, x ∈ a.toList ↔ x ∈ b.toList) : a = b := by
  have distinct (s : OrderedSet α) : s.toList.Nodup :=
    s.ascending.imp ne_of_irrefl
  have perm := (List.perm_ext_iff_of_nodup (distinct a) (distinct b)).mpr h
  exact eq_of_toList (perm.eq_of_pairwise (fun _ _ _ _ below above => (Std.Asymm.asymm _ _ below above).elim)
    a.ascending b.ascending)

end OrderedSet

/-- A kind of literals that sets are made of, and the check of membership in such a set. -/
structure SetKind (α : Type) [LT α] [DecidableLT α] [Trans (α := α) (· < ·) (· < ·) (· < ·)] where
  make : α → Literal
  pick : Literal → Option α
  check : OrderedSet α → Bool → Check
  pick_eq_some : ∀ {l x}, pick l = some x ↔ l = make x
  membershipCheck_eq : ∀ x negated others, Source.membershipCheck negated (make x) others =
    Source.setMembers (make x) pick (make x :: others) >>= fun xs => pure (check (.ofList xs) negated)
  text_check : ∀ subject set negated, Constraint.text ⟨subject, check set negated⟩ =
    membershipText subject negated (set.toList.map fun x => (make x).text)

namespace SetKind

def integers : SetKind Int64 where
  make := .integer
  pick := Literal.integer?
  check := .integerIn
  pick_eq_some {l x} := by cases l <;> simp [Literal.integer?]
  membershipCheck_eq _ _ _ := rfl
  text_check _ _ _ := rfl

def strings : SetKind String where
  make := .string
  pick := Literal.string?
  check := .stringIn
  pick_eq_some {l x} := by cases l <;> simp [Literal.string?]
  membershipCheck_eq _ _ _ := rfl
  text_check _ _ _ := rfl

def symbols : SetKind String where
  make := .symbol
  pick := Literal.symbol?
  check := .symbolIn
  pick_eq_some {l x} := by cases l <;> simp [Literal.symbol?]
  membershipCheck_eq _ _ _ := rfl
  text_check _ _ _ := rfl

def bytes : SetKind Bytes where
  make := .bytes
  pick := Literal.bytes?
  check := .bytesIn
  pick_eq_some {l x} := by cases l <;> simp [Literal.bytes?]
  membershipCheck_eq _ _ _ := rfl
  text_check _ _ _ := rfl

variable {α : Type} [LT α] [DecidableLT α] [Trans (α := α) (· < ·) (· < ·) (· < ·)] (kind : SetKind α)

theorem make_injective : Function.Injective kind.make := by
  intro x y same
  have picked : kind.pick (kind.make x) = some y := kind.pick_eq_some.mpr same
  exact Option.some.inj ((kind.pick_eq_some.mpr rfl).symm.trans picked)

theorem setMembers_ok {first : Literal} {members : List Literal} {xs : List α} :
    Source.setMembers first kind.pick members = .ok xs ↔ members = xs.map kind.make := by
  unfold Source.setMembers
  constructor
  · intro h
    rw [← List.forall₂_eq_eq_eq, List.forall₂_map_right_iff]
    refine (mapM_ok h).imp fun l x hx => kind.pick_eq_some.mp ?_
    cases picked : kind.pick l with
    | none =>
      rw [picked] at hx
      cases hx
    | some y =>
      rw [picked] at hx
      cases hx
      rfl
  · rintro rfl
    refine mapM_of_forall₂ (List.forall₂_map_left_iff.mpr (List.forall₂_same.mpr fun x _ => ?_))
    rw [kind.pick_eq_some.mpr rfl]

theorem membershipCheck_ok {x : α} {negated : Bool} {others : List Literal} {check : Check} :
    Source.membershipCheck negated (kind.make x) others = .ok check ↔
      ∃ xs, kind.make x :: others = xs.map kind.make ∧ kind.check (.ofList xs) negated = check := by
  rw [kind.membershipCheck_eq, except_bind_ok]
  simp only [kind.setMembers_ok, except_pure_ok]

/-- Literals make the set of just those literals, in whatever order and however often they occur. -/
theorem membershipCheck_eq_ok [Std.Trichotomous (α := α) (· < ·)] [Std.Asymm (α := α) (· < ·)] {x : α}
    {negated : Bool} {others : List Literal} {check : Check} :
    Source.membershipCheck negated (kind.make x) others = .ok check ↔
      ∃ set, kind.check set negated = check ∧
        ∀ l, l ∈ set.toList.map kind.make ↔ l ∈ kind.make x :: others := by
  rw [kind.membershipCheck_ok]
  constructor
  · rintro ⟨xs, members, rfl⟩
    refine ⟨.ofList xs, rfl, fun l => ?_⟩
    simp only [members, List.mem_map, OrderedSet.mem_ofList]
  · rintro ⟨set, rfl, same⟩
    have made : kind.make x :: others ∈ Set.range (List.map kind.make) := by
      rw [Set.range_list_map]
      intro l hl
      obtain ⟨y, -, rfl⟩ := List.mem_map.mp ((same l).mpr hl)
      exact ⟨y, rfl⟩
    obtain ⟨xs, members⟩ := made
    refine ⟨xs, members.symm, ?_⟩
    have sets : OrderedSet.ofList xs = set := by
      refine OrderedSet.eq_of_mem_iff fun y => ?_
      have of_make (ys : List α) : kind.make y ∈ ys.map kind.make ↔ y ∈ ys :=
        List.mem_map_of_injective kind.make_injective
      rw [OrderedSet.mem_ofList, ← of_make, members, ← same, of_make]
    rw [sets]

theorem exists_members {x : α} {negated : Bool} {others : List Literal} {check : Check}
    (h : Source.membershipCheck negated (kind.make x) others = .ok check) :
    ∃ y ys, (∀ l ∈ kind.make y :: ys, l ∈ kind.make x :: others) ∧
      Source.membershipCheck negated (kind.make y) ys = .ok check ∧
      ∀ subject, membershipText subject negated ((kind.make y :: ys).map Literal.text) =
        Constraint.text ⟨subject, check⟩ := by
  obtain ⟨xs, members, rfl⟩ := kind.membershipCheck_ok.mp h
  have sorted := OrderedSet.ofList_toList (.ofList xs)
  cases hs : (OrderedSet.ofList xs).toList with
  | nil =>
    cases xs with
    | nil => cases members
    | cons x xs => exact absurd hs (OrderedSet.insertInto_ne_nil x _)
  | cons y ys =>
    refine ⟨y, ys.map kind.make, ?_, kind.membershipCheck_ok.mpr ⟨y :: ys, rfl, ?_⟩, fun subject => ?_⟩
    · rw [members, ← List.map_cons, ← hs]
      intro l hl
      obtain ⟨z, hz, rfl⟩ := List.mem_map.mp hl
      exact List.mem_map_of_mem (OrderedSet.mem_of_mem_ofList hz)
    · rw [← hs, sorted]
    · rw [kind.text_check, hs, ← List.map_cons, List.map_map]
      rfl

end SetKind
end PolicyGate
