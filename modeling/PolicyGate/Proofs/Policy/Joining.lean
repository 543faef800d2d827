import Mathlib.Data.FinEnum
import Mathlib.Data.Fintype.Sum
import PolicyGate.Proofs.Policy.Capture
import PolicyGate.Proofs.Policy.Display
import PolicyGate.Proofs.Policy.Renaming
import PolicyGate.Proofs.Source.Joining

/-!
# Policies do not influence one another

The variables of a document are numbered together, so a policy can have other numbers in a longer document.
They are its own numbers, renamed: `compileDocument_joined`.
-/

namespace PolicyGate

open Source (Document isNumeric nameIn numberedName varId)

/-! ## Renamings -/

/-- Where two labellings tell the same members apart, a renaming takes the one to the other. -/
theorem exists_injective {ι α : Type} [Finite α] {s : Set ι} {a b : ι → α}
    (h : ∀ x ∈ s, ∀ y ∈ s, a x = a y ↔ b x = b y) :
    ∃ ρ : α → α, Function.Injective ρ ∧ ∀ x ∈ s, ρ (a x) = b x := by
  classical
  have := Fintype.ofFinite α
  -- any member with this label will do, since the other labelling does not tell them apart
  let f (v : α) : α := if found : ∃ x ∈ s, a x = v then b found.choose else v
  have at_label : ∀ x ∈ s, f (a x) = b x := by
    intro x hx
    have found : ∃ y ∈ s, a y = a x := ⟨x, hx, rfl⟩
    obtain ⟨mem, same⟩ := found.choose_spec
    simp only [f, dif_pos found]
    exact (h _ mem x hx).mp same
  have injective : Set.InjOn f (a '' s) := by
    rintro _ ⟨x, hx, rfl⟩ _ ⟨y, hy, rfl⟩ same
    rw [at_label x hx, at_label y hy] at same
    exact (h x hx y hy).mpr same
  have within : Set.MapsTo f (a '' s) (Finset.univ : Finset α) := fun v _ =>
    Finset.mem_coe.mpr (Finset.mem_univ (f v))
  obtain ⟨g, extends_f⟩ := within.exists_equiv_extend_of_card_eq Finset.card_univ.symm injective
  refine ⟨fun v => g v, Subtype.val_injective.comp g.injective, fun x hx => ?_⟩
  exact (extends_f (a x) ⟨x, hx, rfl⟩).trans (at_label x hx)

/-- Different numbers stay different, and a number that one of the names writes stays. -/
structure IsRenumbering (ρ : UInt32 → UInt32) (names : List String) : Prop where
  injective : Function.Injective ρ
  numeric : ∀ x ∈ names, ∀ id, varId x = .ok id → ρ id = id

/-! ## Numbers in a longer text -/

theorem nameIn_numeric (names : List String) {x : String} (numeric : isNumeric x.toList = true) :
    nameIn names x = x := by
  rw [nameIn, numberedName, Source.lookup_numeric numeric]

theorem idOf_eq {name : String} {id : UInt32} (h : varId name = .ok id) : idOf name = id := by
  rw [idOf, h]
  rfl

theorem varId_nameIn {names all : List String} (few : all.toFinset.card < 2 ^ 32) {x : String} (hx : x ∈ all)
    {id : UInt32} (h : varId (nameIn names x) = .ok id) :
    varId (nameIn all x) = .ok (idOf (nameIn all x)) := by
  suffices fits : ∃ i, varId (nameIn all x) = .ok i by
    obtain ⟨i, hi⟩ := fits
    rw [hi, idOf_eq hi]
  have cases := Source.numberedName_cases (List.mem_map_of_mem (f := String.toList) hx)
  by_cases numeric : isNumeric x.toList = true
  · rw [nameIn_numeric names numeric] at h
    rw [nameIn_numeric all numeric]
    exact ⟨id, h⟩
  · rw [if_neg numeric] at cases
    obtain ⟨i, assigned, name⟩ := cases
    have distinct := Source.card_map_toList_le all
    have small : i < UInt32.size := ((Source.assignment_lt assigned).trans_le distinct).trans few
    have number : (UInt32.ofNat i).toNat = i := UInt32.toNat_ofNat_of_lt small
    refine ⟨UInt32.ofNat i, ?_⟩
    rw [nameIn, name, ← varId_toString (UInt32.ofNat i), number]

theorem idOf_nameIn_eq_iff {names : List String} {x y : String} (hx : x ∈ names) (hy : y ∈ names)
    {i j : UInt32} (hi : varId (nameIn names x) = .ok i) (hj : varId (nameIn names y) = .ok j) :
    idOf (nameIn names x) = idOf (nameIn names y) ↔
      (isNumeric x.toList = false ∧ isNumeric y.toList = false ∧ x = y) ∨
        (isNumeric x.toList = true ∧ isNumeric y.toList = true ∧
          Text.digitsValue x.toList = Text.digitsValue y.toList) := by
  rw [idOf_eq hi, idOf_eq hj, ← UInt32.toNat_inj, ← (varId_eq_ok.mp hi).value, ← (varId_eq_ok.mp hj).value]
  exact numberedName_value_eq_iff (List.mem_map_of_mem hx) (List.mem_map_of_mem hy)

theorem exists_renumbering {names all : List String} (sub : names ⊆ all) (few : all.toFinset.card < 2 ^ 32)
    (resolved : ∀ x ∈ names, ∃ id, varId (nameIn names x) = .ok id) :
    ∃ ρ, IsRenumbering ρ names ∧ Renumbers (nameIn names) (nameIn all) ρ names := by
  have value : ∀ x ∈ {x | x ∈ names}, ∀ y ∈ {x | x ∈ names},
      idOf (nameIn names x) = idOf (nameIn names y) ↔ idOf (nameIn all x) = idOf (nameIn all y) := by
    intro x hx y hy
    obtain ⟨i, hi⟩ := resolved x hx
    obtain ⟨j, hj⟩ := resolved y hy
    rw [idOf_nameIn_eq_iff hx hy hi hj, idOf_nameIn_eq_iff (sub hx) (sub hy)
      (varId_nameIn few (sub hx) hi) (varId_nameIn few (sub hy) hj)]
  obtain ⟨ρ, injective, takes⟩ := exists_injective value
  refine ⟨ρ, ⟨injective, fun x hx id h => ?_⟩, fun x hx id h => ?_⟩
  · have numeric : isNumeric x.toList = true := (varId_eq_ok.mp h).digits
    have same := takes x hx
    rw [nameIn_numeric names numeric, nameIn_numeric all numeric, idOf_eq h] at same
    exact same
  · rw [← idOf_eq h, takes x hx]
    exact varId_nameIn few (sub hx) h

/-! ## Joined documents -/

theorem compileDocument_ok {document : String} {d : Document} (h : d.IsTreeOf document.toList)
    {ps : List Policy} : compileDocument document = .ok ps ↔
      List.Forall₂ (fun p q => p.lower = .ok q) (d.policies.map (Source.Policy.rename (nameIn d.vars))) ps ∧
        (ps.map Policy.name).Nodup := by
  rw [compileDocument_of_isTreeOf h, Document.numbered_eq_rename, lowerAll_ok]
  simp [Document.rename]

theorem resolved_of_compileDocument {document : String} {d : Document} (h : d.IsTreeOf document.toList)
    {ps : List Policy} (compiled : compileDocument document = .ok ps) :
    ∀ x ∈ d.vars, ∃ id, varId (nameIn d.vars x) = .ok id := by
  rw [compileDocument_of_isTreeOf h, Document.numbered_eq_rename] at compiled
  have numbers : Numbers (d.vars.map (nameIn d.vars)) (ps.flatMap Policy.vars) := by
    rw [← d.vars_rename]
    exact lowerAll_vars compiled
  intro x hx
  obtain ⟨id, -, found⟩ := exists_of_forall₂ numbers.flip (List.mem_map_of_mem hx)
  exact ⟨id, found⟩

/-- Two documents that compile and have no policy name in common compile one after the other, too. The
policies are those of both, each with the variables of its own document up to a renaming. -/
theorem compileDocument_joined {d₁ d₂ : String} {t₁ t₂ : Document} {ps₁ ps₂ : List Policy}
    (read₁ : Document.ofText d₁ = .ok t₁) (read₂ : Document.ofText d₂ = .ok t₂)
    (few : (t₁.vars ++ t₂.vars).toFinset.card < 2 ^ 32)
    (compiled₁ : compileDocument d₁ = .ok ps₁) (compiled₂ : compileDocument d₂ = .ok ps₂)
    (disjoint : ∀ p ∈ ps₁, ∀ q ∈ ps₂, p.name ≠ q.name) :
    ∃ ρ₁ ρ₂, IsRenumbering ρ₁ t₁.vars ∧ IsRenumbering ρ₂ t₂.vars ∧
      compileDocument (d₁ ++ "\n" ++ d₂) =
        .ok (ps₁.map (Policy.rename ρ₁) ++ ps₂.map (Policy.rename ρ₂)) := by
  have tree₁ := Document.isTreeOf_of_ofText read₁
  have tree₂ := Document.isTreeOf_of_ofText read₂
  have tree : (t₁.followedBy t₂).IsTreeOf (d₁ ++ "\n" ++ d₂).toList := by
    simpa using tree₁.followedBy tree₂
  obtain ⟨ρ₁, keeps₁, renumbers₁⟩ := exists_renumbering (List.subset_append_left t₁.vars t₂.vars) few
    (resolved_of_compileDocument tree₁ compiled₁)
  obtain ⟨ρ₂, keeps₂, renumbers₂⟩ := exists_renumbering (List.subset_append_right t₁.vars t₂.vars) few
    (resolved_of_compileDocument tree₂ compiled₂)
  obtain ⟨lowers₁, distinct₁⟩ := (compileDocument_ok tree₁).mp compiled₁
  obtain ⟨lowers₂, distinct₂⟩ := (compileDocument_ok tree₂).mp compiled₂
  refine ⟨ρ₁, ρ₂, keeps₁, keeps₂, (compileDocument_ok tree).mpr ⟨?_, ?_⟩⟩
  · have policies : (t₁.followedBy t₂).policies = t₁.policies ++ t₂.policies := rfl
    rw [Document.vars_followedBy, policies, List.map_append]
    exact List.rel_append (forall₂_renumbered lower_policy_renumbered renumbers₁ lowers₁)
      (forall₂_renumbered lower_policy_renumbered renumbers₂ lowers₂)
  · have names (ρ : UInt32 → UInt32) (ps : List Policy) :
        (ps.map (Policy.rename ρ)).map Policy.name = ps.map Policy.name := by
      rw [List.map_map]
      rfl
    rw [List.map_append, names, names]
    refine List.nodup_append.mpr ⟨distinct₁, distinct₂, ?_⟩
    intro m hm n hn
    obtain ⟨p, hp, rfl⟩ := List.mem_map.mp hm
    obtain ⟨q, hq, rfl⟩ := List.mem_map.mp hn
    exact disjoint p hp q hq

/-- `$x` is 1 and `$y` is 0 when each document stands alone, but both numbers are taken when they stand
together. -/
theorem compileDocument_joined_shifted :
    let policy (name : String) (i j : UInt32) : Policy :=
      ⟨name, [⟨⟨"a", [.var i]⟩, [⟨"b", [.var i, .var j]⟩], []⟩], []⟩
    compileDocument "policy \"p\"\x7brules\x7b*a($x)<-b($x,$0)\x7d\x7d" = .ok [policy "p" 1 0] ∧
      compileDocument "policy \"q\"\x7brules\x7b*a($y)<-b($y,$1)\x7d\x7d" = .ok [policy "q" 0 1] ∧
      ∃ ρ₁ ρ₂, IsRenumbering ρ₁ ["x", "x", "0"] ∧ IsRenumbering ρ₂ ["y", "y", "1"] ∧
        compileDocument ("policy \"p\"\x7brules\x7b*a($x)<-b($x,$0)\x7d\x7d" ++ "\n" ++
          "policy \"q\"\x7brules\x7b*a($y)<-b($y,$1)\x7d\x7d") =
            .ok ([policy "p" 1 0].map (Policy.rename ρ₁) ++ [policy "q" 0 1].map (Policy.rename ρ₂)) := by
  intro policy
  let tree (name x n : String) : Document :=
    ⟨[⟨[], name, 0, some ⟨[⟨[], ⟨"a", [.var x]⟩, [⟨"b", [.var x, .var n]⟩], []⟩], []⟩, none⟩], []⟩
  have kinds₁ : (Source.tokenize "policy \"p\"\x7brules\x7b*a($x)<-b($x,$0)\x7d\x7d").map
      (List.map Source.Token.kind) = .ok ((tree "p" "x" "0").tokens ++ [.endOfDocument]) := by decide +kernel
  have kinds₂ : (Source.tokenize "policy \"q\"\x7brules\x7b*a($y)<-b($y,$1)\x7d\x7d").map
      (List.map Source.Token.kind) = .ok ((tree "q" "y" "1").tokens ++ [.endOfDocument]) := by decide +kernel
  obtain ⟨t₁, read₁, vars₁, lowers₁⟩ := compileDocument_of_tokens kinds₁ (by decide)
  obtain ⟨t₂, read₂, vars₂, lowers₂⟩ := compileDocument_of_tokens kinds₂ (by decide)
  have compiled₁ := lowers₁.trans (by decide +kernel : _ = .ok [policy "p" 1 0])
  have compiled₂ := lowers₂.trans (by decide +kernel : _ = .ok [policy "q" 0 1])
  have names₁ : t₁.vars = ["x", "x", "0"] := vars₁
  have names₂ : t₂.vars = ["y", "y", "1"] := vars₂
  have joined := compileDocument_joined read₁ read₂ (by rw [names₁, names₂]; decide) compiled₁ compiled₂
    (by simp [policy])
  rw [names₁, names₂] at joined
  exact ⟨compiled₁, compiled₂, joined⟩

end PolicyGate
