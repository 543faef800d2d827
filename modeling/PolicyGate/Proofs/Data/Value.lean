import PolicyGate.Data.Value
import PolicyGate.Proofs.Data.StringMap

/-!
# Data that is read back

In JSON there are no tags: a tagged value is a record with one member (`Value.untagged`). Members are read
from a record wherever they stand in it (`row?_untagged`). A reader restores what a writer has written, in
the form without tags (`Restores`), and so it does for lists (`Restores.mapM`).
-/

namespace PolicyGate.Data.Value

open StringMap (keys)

theorem isSingle_of_nodup {ms : List (String × Value)} (h : (keys ms).Nodup) (names : List String) :
    isSingle names ms = true := by
  refine List.all_eq_true.mpr fun n _ => decide_eq_true ?_
  have once : (keys ms).count n ≤ 1 := List.nodup_iff_count_le_one.mp h n
  rw [keys, List.count, List.countP_map, List.countP_eq_length_filter] at once
  exact once

theorem untaggedMembers_eq (ms : List (String × Value)) :
    untaggedMembers ms = ms.map fun m => (m.1, m.2.untagged) := by
  induction ms with
  | nil => rw [untaggedMembers, List.map_nil]
  | cons m ms ih => rw [untaggedMembers, ih, List.map_cons]

theorem keys_untaggedMembers (ms : List (String × Value)) : keys (untaggedMembers ms) = keys ms := by
  rw [untaggedMembers_eq, keys, keys, List.map_map]
  rfl

theorem row?_untagged {v : Value} {row ms : List (String × Value)} (hv : v = record ms)
    (h : (keys ms).Nodup) (hrow : row ⊆ ms) :
    v.untagged.row? (keys row) = some (row.map fun m => some m.2.untagged) := by
  have distinct : (keys (untaggedMembers ms)).Nodup := (keys_untaggedMembers ms).symm ▸ h
  have found : ∀ m ∈ row, ((fun n => member? n (untaggedMembers ms)) ∘ Prod.fst) m = some m.2.untagged := by
    intro m hm
    refine (StringMap.lookup_eq_some distinct).mpr ?_
    rw [untaggedMembers_eq]
    exact List.mem_map.mpr ⟨m, hrow hm, rfl⟩
  rw [hv, untagged, row?, if_pos (isSingle_of_nodup distinct _), keys, List.map_map, List.map_congr_left found]

/-! ## Readers and writers -/

variable {α : Type}

/-- What is written is read back once its tags are gone. -/
def Restores (read? : Value → Option α) (write : α → Value) : Prop :=
  ∀ x, read? (write x).untagged = some x

theorem Restores.mapM {read? : Value → Option α} {write : α → Value} (h : Restores read? write)
    (xs : List α) : (untaggedList (xs.map write)).mapM read? = some xs := by
  induction xs with
  | nil => rw [List.map_nil, untaggedList, List.mapM_nil]; rfl
  | cons x xs ih =>
    rw [List.map_cons, untaggedList, List.mapM_cons, h x, ih]
    rfl

theorem restores_text : Restores text? text := fun _ => rfl

end PolicyGate.Data.Value
