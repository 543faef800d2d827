import Mathlib.Data.List.Perm.Subperm
import Mathlib.Data.List.NodupEquivFin
import Mathlib.Data.List.Range
import Mathlib.Data.Finset.Card
import Mathlib.Data.Finset.Dedup
import Mathlib.Data.Finset.Filter
import Mathlib.Data.Finset.Image
import PolicyGate.Source.Variables

/-!
# The numbers given to names

Each symbolic name has a number, no other name has the same one, and no numeric name stands for it. The
number depends on the order of the names and not on their spelling (`assignments_map`), and it is smaller
than the number of names (`assignment_lt`).
-/

namespace PolicyGate.Source

theorem le_length_filter_range (count : Nat) (taken : List Nat) :
    count ≤ ((List.range (count + taken.length)).filter fun n => !taken.contains n).length := by
  have split := List.length_eq_length_filter_add (l := List.range (count + taken.length))
    (fun n => taken.contains n)
  have distinct : ((List.range (count + taken.length)).filter fun n => taken.contains n).Nodup :=
    List.nodup_range.filter _
  have few : ((List.range (count + taken.length)).filter fun n => taken.contains n).length ≤
      taken.length := by
    refine (distinct.subperm fun n hn => ?_).length_le
    simpa using (List.mem_filter.mp hn).2
  rw [List.length_range] at split
  omega

theorem mem_zip_fst {α β : Type} {a : α} {l : List α} {r : List β} (h : l.length ≤ r.length)
    (ha : a ∈ l) : ∃ b, (a, b) ∈ l.zip r := by
  rw [← List.map_fst_zip h] at ha
  obtain ⟨⟨_, b⟩, hp, rfl⟩ := List.mem_map.mp ha
  exact ⟨b, hp⟩

theorem zip_snd_inj {α β : Type} {a a' : α} {b : β} {l : List α} {r : List β} (h : r.Nodup)
    (ha : (a, b) ∈ l.zip r) (ha' : (a', b) ∈ l.zip r) : a = a' := by
  obtain ⟨i, hi, ei⟩ := List.getElem_of_mem ha
  obtain ⟨j, hj, ej⟩ := List.getElem_of_mem ha'
  rw [List.getElem_zip, Prod.mk.injEq] at ei ej
  obtain rfl : i = j := h.getElem_inj_iff.mp (ei.2.trans ej.2.symm)
  exact ei.1.symm.trans ej.1

theorem mem_of_lookup {α β : Type} [BEq α] [LawfulBEq α] {a : α} {b : β} {l : List (α × β)}
    (h : l.lookup a = some b) : (a, b) ∈ l := by
  obtain ⟨l₁, l₂, rfl, -⟩ := List.lookup_eq_some_iff.mp h
  exact List.mem_append_right _ List.mem_cons_self

/-! ## Renamed names -/

theorem eraseDups_map {α β : Type} [BEq α] [LawfulBEq α] [BEq β] [LawfulBEq β] {g : α → β} (l : List α)
    (h : ∀ x ∈ l, ∀ y ∈ l, g x = g y → x = y) : (l.map g).eraseDups = l.eraseDups.map g := by
  match l with
  | [] => rfl
  | x :: l =>
    have others : (l.map g).filter (fun b => !b == g x) = (l.filter fun a => !a == x).map g := by
      rw [List.filter_map]
      refine congrArg (List.map g) (List.filter_congr fun y hy => ?_)
      have same : g y = g x ↔ y = x :=
        ⟨h y (List.mem_cons_of_mem x hy) x List.mem_cons_self, congrArg g⟩
      rw [Function.comp_apply, Bool.eq_iff_iff]
      simp [same]
    have mem {a : α} (ha : a ∈ l.filter fun a => !a == x) : a ∈ x :: l :=
      List.mem_cons_of_mem x (List.mem_filter.mp ha).1
    have fewer := List.length_filter_le (fun a => !a == x) l
    rw [List.map_cons, List.eraseDups_cons, List.eraseDups_cons, others, List.map_cons,
      eraseDups_map (l.filter fun a => !a == x) fun a ha b hb => h a (mem ha) b (mem hb)]
termination_by l.length

theorem lookup_map_injective {α β : Type} [BEq α] [LawfulBEq α] {g : α → α} {l : List (α × β)} {a : α}
    (h : ∀ e ∈ l, g e.1 = g a → e.1 = a) : (l.map (Prod.map g id)).lookup (g a) = l.lookup a := by
  induction l with
  | nil => rfl
  | cons e l ih =>
    obtain ⟨first, rest⟩ := List.forall_mem_cons.mp h
    obtain ⟨b, n⟩ := e
    have same : (g a == g b) = (a == b) := by
      rw [Bool.eq_iff_iff, beq_iff_eq, beq_iff_eq]
      exact ⟨fun e => (first e.symm).symm, congrArg g⟩
    rw [List.map_cons, Prod.map_apply, List.lookup_cons, List.lookup_cons, same, ih rest]
    rfl

/-- Names that can be told apart as before are given the numbers that they had. -/
theorem assignments_map {names : List (List Char)} {g : List Char → List Char}
    (numeric : ∀ n ∈ names, isNumeric n = true → g n = n)
    (symbolic : ∀ n ∈ names, isNumeric n = false → isNumeric (g n) = false)
    (injective : ∀ n ∈ names, ∀ m ∈ names, g n = g m → n = m) :
    assignments (names.map g) = (assignments names).map (Prod.map g id) := by
  have kind : ∀ n ∈ names, isNumeric (g n) = isNumeric n := by
    intro n hn
    cases h : isNumeric n with
    | true => rw [numeric n hn h, h]
    | false => exact symbolic n hn h
  have first : ((names.map g).filter fun n => !isNumeric n).eraseDups =
      ((names.filter fun n => !isNumeric n).eraseDups).map g := by
    have kept : names.filter ((fun n => !isNumeric n) ∘ g) = names.filter fun n => !isNumeric n :=
      List.filter_congr fun n hn => congrArg (!·) (kind n hn)
    rw [List.filter_map, kept]
    refine eraseDups_map _ fun n hn m hm => ?_
    exact injective n (List.mem_filter.mp hn).1 m (List.mem_filter.mp hm).1
  have second : ((names.map g).filter isNumeric).map Text.digitsValue =
      (names.filter isNumeric).map Text.digitsValue := by
    have kept : names.filter (isNumeric ∘ g) = names.filter isNumeric := List.filter_congr kind
    rw [List.filter_map, kept, List.map_map]
    refine List.map_congr_left fun n hn => ?_
    obtain ⟨hn, digits⟩ := List.mem_filter.mp hn
    rw [Function.comp_apply, numeric n hn digits]
  simp only [assignments, first, second, List.length_map, List.zip_map_left]

/-! ## The number of a name -/

variable {names : List (List Char)} {name name' : List Char} {id : Nat}

theorem mem_of_mem_assignments {e : List Char × Nat} (h : e ∈ assignments names) : e.1 ∈ names :=
  (List.mem_filter.mp (List.mem_eraseDups.mp (List.of_mem_zip h).1)).1

theorem exists_assignment (h : name ∈ names) (symbolic : isNumeric name = false) :
    ∃ id, (assignments names).lookup name = some id := by
  have listed : name ∈ (names.filter fun n => !isNumeric n).eraseDups :=
    List.mem_eraseDups.mpr (List.mem_filter.mpr ⟨h, by simp [symbolic]⟩)
  obtain ⟨id, hid⟩ := mem_zip_fst (le_length_filter_range _ _) listed
  refine Option.isSome_iff_exists.mp (List.lookup_isSome_iff.mpr ⟨(name, id), hid, ?_⟩)
  exact beq_self_eq_true name

theorem symbolic_of_assignment (h : (assignments names).lookup name = some id) :
    name ∈ names ∧ isNumeric name = false := by
  have listed := List.mem_eraseDups.mp (List.of_mem_zip (mem_of_lookup h)).1
  simpa using listed

theorem lookup_numeric (numeric : isNumeric name = true) : (assignments names).lookup name = none := by
  cases h : (assignments names).lookup name with
  | none => rfl
  | some id =>
    have symbolic := (symbolic_of_assignment h).2
    rw [numeric] at symbolic
    cases symbolic

theorem assignments_injective (h : (assignments names).lookup name = some id)
    (h' : (assignments names).lookup name' = some id) : name = name' :=
  zip_snd_inj (List.nodup_range.filter _) (mem_of_lookup h) (mem_of_lookup h')

theorem assignment_fresh (h : (assignments names).lookup name = some id) (taken : name' ∈ names)
    (numeric : isNumeric name' = true) : Text.digitsValue name' ≠ id := by
  have free := (List.mem_filter.mp (List.of_mem_zip (mem_of_lookup h)).2).2
  rintro rfl
  have listed : Text.digitsValue name' ∈ (names.filter isNumeric).map Text.digitsValue :=
    List.mem_map_of_mem (List.mem_filter.mpr ⟨taken, numeric⟩)
  simp only [Bool.not_eq_true', List.contains_eq_mem, decide_eq_false_iff_not] at free
  exact free listed

/-! ## Few names have small numbers -/

theorem nodup_eraseDups {α : Type} [BEq α] [LawfulBEq α] (l : List α) : l.eraseDups.Nodup := by
  match l with
  | [] => exact List.nodup_nil
  | x :: l =>
    have fewer := List.length_filter_le (fun a => !a == x) l
    rw [List.eraseDups_cons]
    refine List.nodup_cons.mpr ⟨fun hx => ?_, nodup_eraseDups (l.filter fun a => !a == x)⟩
    have other := (List.mem_filter.mp (List.mem_eraseDups.mp hx)).2
    simp at other
termination_by l.length

/-- The numbers of a range that pass a test are in order, so the place of one tells how many smaller ones
pass. -/
theorem length_filter_range_le {count i : Nat} {p : Nat → Bool}
    (h : i < ((List.range count).filter p).length) :
    ((List.range (((List.range count).filter p)[i])).filter p).length ≤ i := by
  obtain ⟨passing, listed⟩ : ∃ passing, passing = (List.range count).filter p := ⟨_, rfl⟩
  have ascending : passing.Pairwise (· < ·) := listed ▸ List.pairwise_lt_range.filter p
  simp only [← listed] at h ⊢
  have inRange : passing[i] < count := by
    have mem : passing[i] ∈ (List.range count).filter p := listed ▸ List.getElem_mem h
    exact List.mem_range.mp (List.mem_filter.mp mem).1
  have earlier : ∀ n ∈ (List.range passing[i]).filter p, n ∈ passing.take i := by
    intro n hn
    obtain ⟨small, passes⟩ := List.mem_filter.mp hn
    have small : n < passing[i] := List.mem_range.mp small
    have mem : n ∈ passing := by
      rw [listed]
      exact List.mem_filter.mpr ⟨List.mem_range.mpr (small.trans inRange), passes⟩
    obtain ⟨j, hj, rfl⟩ := List.getElem_of_mem mem
    rcases Nat.lt_trichotomy j i with before | rfl | behind
    · exact List.mem_take_iff_getElem.mpr ⟨j, by omega, rfl⟩
    · exact absurd small (Nat.lt_irrefl _)
    · have := List.pairwise_iff_getElem.mp ascending i j h hj behind
      omega
  calc ((List.range passing[i]).filter p).length
      ≤ (passing.take i).length := ((List.nodup_range.filter p).subperm earlier).length_le
    _ ≤ i := List.length_take_le i passing

theorem getElem_filter_range_le {count i : Nat} {p : Nat → Bool} {s : Finset Nat}
    (h : i < ((List.range count).filter p).length) (hp : ∀ n, p n = false → n ∈ s) :
    ((List.range count).filter p)[i] ≤ i + s.card := by
  have passing := length_filter_range_le h
  generalize ((List.range count).filter p)[i] = n at passing ⊢
  have others : ((List.range n).filter fun m => !p m).length ≤ s.card := by
    rw [← List.toFinset_card_of_nodup (List.nodup_range.filter _)]
    refine Finset.card_le_card fun m hm => hp m ?_
    simpa using (List.mem_filter.mp (List.mem_toFinset.mp hm)).2
  have split := List.length_eq_length_filter_add (l := List.range n) p
  rw [List.length_range] at split
  omega

theorem lt_of_mem_assignments (h : (name, id) ∈ assignments names) : id < names.toFinset.card := by
  obtain ⟨symbolic, hs⟩ : ∃ l, l = (names.filter fun n => !isNumeric n).eraseDups := ⟨_, rfl⟩
  obtain ⟨taken, ht⟩ : ∃ l, l = (names.filter isNumeric).map Text.digitsValue := ⟨_, rfl⟩
  have table : assignments names = symbolic.zip
      ((List.range (symbolic.length + taken.length)).filter fun n => !taken.contains n) := by
    rw [hs, ht]
    rfl
  -- a number is behind those of earlier symbolic names and those that numeric names take
  have few_symbolic : symbolic.length = (names.toFinset.filter fun n => ¬ isNumeric n = true).card := by
    rw [hs, ← List.toFinset_card_of_nodup (nodup_eraseDups _)]
    congr 1
    ext n
    simp
  have few_taken : taken.toFinset.card ≤ (names.toFinset.filter fun n => isNumeric n = true).card := by
    refine le_trans (Finset.card_le_card fun n hn => ?_) (Finset.card_image_le (f := Text.digitsValue))
    rw [ht] at hn
    simpa using hn
  have all := Finset.card_filter_add_card_filter_not (s := names.toFinset) fun n => isNumeric n = true
  rw [table] at h
  obtain ⟨i, hi, at_i⟩ := List.getElem_of_mem h
  rw [List.getElem_zip, Prod.mk.injEq] at at_i
  rw [List.length_zip] at hi
  have small := getElem_filter_range_le (p := fun n => !taken.contains n) (s := taken.toFinset)
    (lt_of_lt_of_le hi (Nat.min_le_right _ _)) (by simp)
  rw [at_i.2] at small
  omega

theorem assignment_lt (h : (assignments names).lookup name = some id) : id < names.toFinset.card :=
  lt_of_mem_assignments (mem_of_lookup h)

theorem card_map_toList_le (names : List String) :
    (names.map String.toList).toFinset.card ≤ names.toFinset.card := by
  have image : (names.map String.toList).toFinset = names.toFinset.image String.toList := by
    ext n
    simp
  rw [image]
  exact Finset.card_image_le

end PolicyGate.Source
