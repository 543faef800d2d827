import Mathlib.Data.Nat.Nth
import PolicyGate.Proofs.Source.Assignments
import PolicyGate.Proofs.Source.Pieces

/-!
# Names and their numbers in canonical order

The symbolic names of a document are listed in the order of their first occurrence, and the numbers given
to them are the smallest ones that none of its numeric names stands for: `numberVariables_canonical`. What
counts as an occurrence is a variable among the tokens, so nothing in a string or a comment does.
-/

namespace PolicyGate.Source

/-! ## First occurrences -/

section
variable {α : Type} [BEq α] [LawfulBEq α]

theorem pairwise_eraseDups_filter (l : List α) (p : α → Bool) :
    (l.filter p).eraseDups.Pairwise fun a b => l.idxOf a < l.idxOf b := by
  induction l generalizing p with
  | nil => exact .nil
  | cons x l ih =>
    -- behind the first member, places are counted from the second one on
    have later {q : α → Bool} (hq : q x = false) :
        (l.filter q).eraseDups.Pairwise fun a b => (x :: l).idxOf a < (x :: l).idxOf b := by
      have other {a : α} (ha : a ∈ (l.filter q).eraseDups) : x ≠ a := by
        rintro rfl
        rw [(List.mem_filter.mp (List.mem_eraseDups.mp ha)).2] at hq
        cases hq
      refine (ih q).imp_of_mem fun ha hb before => ?_
      rw [List.idxOf_cons_ne l (other ha), List.idxOf_cons_ne l (other hb)]
      exact Nat.succ_lt_succ before
    cases hp : p x with
    | false =>
      rw [List.filter_cons_of_neg (by simp [hp])]
      exact later hp
    | true =>
      rw [List.filter_cons_of_pos hp, List.eraseDups_cons, List.filter_filter]
      refine List.pairwise_cons.mpr ⟨fun b hb => ?_, later (by simp)⟩
      have other : x ≠ b := by
        rintro rfl
        simpa using (List.mem_filter.mp (List.mem_eraseDups.mp hb)).2
      rw [List.idxOf_cons_self, List.idxOf_cons_ne l other]
      exact Nat.succ_pos _

end

/-! ## Numbers in order -/

theorem filter_range_eq_map_nth (p : Nat → Bool) (count : Nat) :
    (List.range count).filter p = (List.range (Nat.count (p ·) count)).map (Nat.nth (p ·)) := by
  induction count with
  | zero => rfl
  | succ count ih =>
    rw [List.range_succ, List.filter_append, ih, Nat.count_succ]
    by_cases hp : p count = true
    · rw [if_pos hp, List.range_succ, List.map_append, List.filter_cons_of_pos hp, List.map_singleton,
        Nat.nth_count hp]
      rfl
    · rw [if_neg hp, List.filter_cons_of_neg hp]
      exact List.append_nil _

/-- No numeric name stands for the number. -/
def IsFree (names : List (List Char)) (n : Nat) : Prop :=
  ∀ name ∈ names, isNumeric name = true → Text.digitsValue name ≠ n

section
variable (names : List (List Char))

theorem map_fst_assignments :
    (assignments names).map Prod.fst = (names.filter fun n => !isNumeric n).eraseDups :=
  List.map_fst_zip (le_length_filter_range _ _)

theorem map_snd_assignments :
    (assignments names).map Prod.snd =
      (List.range (assignments names).length).map (Nat.nth (IsFree names)) := by
  obtain ⟨symbolic, hs⟩ : ∃ l, l = (names.filter fun n => !isNumeric n).eraseDups := ⟨_, rfl⟩
  obtain ⟨taken, ht⟩ : ∃ l, l = (names.filter isNumeric).map Text.digitsValue := ⟨_, rfl⟩
  have table : assignments names = symbolic.zip
      ((List.range (symbolic.length + taken.length)).filter fun n => !taken.contains n) := by
    rw [hs, ht]
    rfl
  have free : (fun n => (!taken.contains n) = true) = IsFree names := by
    funext n
    rw [ht, IsFree]
    simp
  have enough := le_length_filter_range symbolic.length taken
  rw [table, List.length_zip, Nat.min_eq_left enough, List.zip_eq_zip_take_min, Nat.min_eq_left enough,
    List.take_length, List.map_snd_zip (by simp)]
  rw [filter_range_eq_map_nth, List.length_map, List.length_range] at enough
  rw [filter_range_eq_map_nth, ← List.map_take, List.take_range, Nat.min_eq_left enough, free]

end

/-! ## Variables of a document -/

def varNames (ts : List Token) : List String :=
  ts.filterMap fun t => t.kind.var?

theorem variableNames_of_tokenize {document : String} {ts : List Token} (h : tokenize document = .ok ts) :
    variableNames (pieces document.toList) = (varNames ts).map String.toList := by
  obtain ⟨ks, kinds, spells⟩ := spells_of_tokenize h
  have all : (ts.map Token.kind).filterMap TokenKind.var? = varNames ts := List.filterMap_map
  rw [spells.variableNames, ← all, kinds, List.filterMap_append]
  exact congrArg _ (List.append_nil _).symm

/-- The names that are given numbers are the symbolic ones among the tokens, by their first occurrences,
and the numbers are the first ones that no numeric name stands for; there are as many names as that at
least. -/
theorem numberVariables_canonical {document : String} {ts : List Token} (h : tokenize document = .ok ts) :
    let names := varNames ts
    let given := (numberVariables document).assignments
    (∀ name, name ∈ given.map Prod.fst ↔ name ∈ names ∧ isNumeric name.toList = false) ∧
      (given.map Prod.fst).Pairwise (fun m n => names.idxOf m < names.idxOf n) ∧
      given.map Prod.snd = (List.range given.length).map
        (Nat.nth fun n => ∀ name ∈ names, isNumeric name.toList = true → Text.digitsValue name.toList ≠ n) ∧
      ∀ entry ∈ given, entry.2 < names.toFinset.card := by
  intro names given
  obtain ⟨table, ht⟩ : ∃ l, l = assignments (names.map String.toList) := ⟨_, rfl⟩
  have listed : given = table.map fun entry => (String.ofList entry.1, entry.2) := by
    rw [ht, ← variableNames_of_tokenize h]
    rfl
  have symbolic : given.map Prod.fst = (names.filter fun n => !isNumeric n.toList).eraseDups := by
    have injective : ∀ x ∈ names.filter fun n => !isNumeric n.toList,
        ∀ y ∈ names.filter fun n => !isNumeric n.toList, x.toList = y.toList → x = y :=
      fun _ _ _ _ => String.toList_inj.mp
    calc given.map Prod.fst
        = (table.map Prod.fst).map String.ofList := by rw [listed, List.map_map, List.map_map]; rfl
      _ = ((names.filter fun n => !isNumeric n.toList).map String.toList).eraseDups.map String.ofList := by
          rw [ht, map_fst_assignments, List.filter_map]; rfl
      _ = (names.filter fun n => !isNumeric n.toList).eraseDups := by
          rw [eraseDups_map _ injective, List.map_map]; simp
  have numbers : given.map Prod.snd = table.map Prod.snd := by
    rw [listed, List.map_map]
    rfl
  have free : IsFree (names.map String.toList) =
      fun n => ∀ name ∈ names, isNumeric name.toList = true → Text.digitsValue name.toList ≠ n := by
    funext n
    rw [IsFree, List.forall_mem_map]
  refine ⟨fun name => ?_, ?_, ?_, fun entry he => ?_⟩
  · rw [symbolic, List.mem_eraseDups, List.mem_filter]
    simp
  · rw [symbolic]
    exact pairwise_eraseDups_filter names _
  · have count : given.length = table.length := by rw [listed, List.length_map]
    rw [numbers, count, ← free, ht, map_snd_assignments]
  · rw [listed] at he
    obtain ⟨⟨name, id⟩, found, rfl⟩ := List.mem_map.mp he
    rw [ht] at found
    exact (lt_of_mem_assignments found).trans_le (card_map_toList_le names)

theorem numberVariables_canonical_reserved :
    ∃ ts, tokenize "$x \"$1 $s\" $02 //$c\n$y $x $0" = .ok ts ∧ varNames ts = ["x", "02", "y", "x", "0"] ∧
      (numberVariables "$x \"$1 $s\" $02 //$c\n$y $x $0").assignments = [("x", 1), ("y", 3)] ∧
      [1, 3] = (List.range 2).map (Nat.nth fun n => ∀ name ∈ ["x", "02", "y", "x", "0"],
        isNumeric name.toList = true → Text.digitsValue name.toList ≠ n) := by
  have found : (tokenize "$x \"$1 $s\" $02 //$c\n$y $x $0").map varNames =
      .ok ["x", "02", "y", "x", "0"] := by decide +kernel
  have given : (numberVariables "$x \"$1 $s\" $02 //$c\n$y $x $0").assignments =
      [("x", 1), ("y", 3)] := by decide +kernel
  cases tokens : tokenize "$x \"$1 $s\" $02 //$c\n$y $x $0" with
  | error e => rw [tokens] at found; cases found
  | ok ts =>
    rw [tokens] at found
    have names : varNames ts = ["x", "02", "y", "x", "0"] := Except.ok.inj found
    obtain ⟨-, -, numbers, -⟩ := numberVariables_canonical tokens
    rw [names, given] at numbers
    exact ⟨ts, rfl, names, given, numbers⟩

end PolicyGate.Source
