import Mathlib.Data.List.DropRight
import PolicyGate.Text.Blank

/-!
# Runs of characters

Where a run of characters with a property ends, and what trimming removes: a text is its trimmed form
between blanks (`exists_trim`), and a text without blanks stands between blanks as their trimmed form
(`trim_between`).
-/

namespace PolicyGate.Text

section
variable {p : Char → Bool} {cs rest : List Char}

theorem takeWhile_run (h : ∀ c ∈ cs, p c = true) (hr : ∀ c ∈ rest.head?, p c = false) :
    (cs ++ rest).takeWhile p = cs := by
  rw [List.takeWhile_append_of_pos h]
  cases rest with
  | nil => simp
  | cons d rest => simp [hr d rfl]

theorem dropWhile_run (h : ∀ c ∈ cs, p c = true) (hr : ∀ c ∈ rest.head?, p c = false) :
    (cs ++ rest).dropWhile p = rest := by
  rw [List.dropWhile_append_of_pos h]
  cases rest with
  | nil => rfl
  | cons d rest => simp [hr d rfl]

theorem of_mem_takeWhile {c : Char} (h : c ∈ cs.takeWhile p) : p c = true :=
  List.all_eq_true.mp List.all_takeWhile c h

theorem head?_dropWhile_stop : ∀ c ∈ (cs.dropWhile p).head?, p c = false := by
  intro c hc
  have := List.head?_dropWhile_not p cs
  rw [Option.mem_def.mp hc] at this
  simpa using this

end

/-! ## Trimming -/

theorem toNat_of_isBlank {c : Char} (hc : isBlank c = true) : c.toNat < 48 ∨ 122 < c.toNat := by
  unfold isBlank at hc
  simp only [Bool.or_eq_true, Bool.and_eq_true, decide_eq_true_eq, beq_iff_eq] at hc
  omega

theorem isBlank_of_toNat {c : Char} (low : 48 ≤ c.toNat) (high : c.toNat ≤ 122) : isBlank c = false := by
  refine Bool.eq_false_iff.mpr fun blank => ?_
  have outside := toNat_of_isBlank blank
  omega

theorem trimStart_eq {cs : List Char} (h : ∀ c ∈ cs.head?, isBlank c = false) : trimStart cs = cs :=
  @dropWhile_run isBlank [] cs (List.forall_mem_nil _) h

theorem mem_of_mem_trimEnd {cs : List Char} {c : Char} (h : c ∈ trimEnd cs) : c ∈ cs := by
  unfold trimEnd at h
  rw [List.mem_reverse] at h
  exact List.mem_reverse.mp ((List.dropWhile_suffix _).subset h)

theorem trimEnd_cons {c : Char} (hc : isBlank c = false) (cs : List Char) :
    trimEnd (c :: cs) = c :: trimEnd cs := by
  unfold trimEnd
  rw [List.reverse_cons, List.dropWhile_append]
  split
  · next h =>
    rw [List.isEmpty_iff] at h
    simp [h, hc]
  · simp

theorem trimEnd_trimEnd (cs : List Char) : trimEnd (trimEnd cs) = trimEnd cs := by
  unfold trimEnd
  rw [List.reverse_reverse, List.dropWhile_idempotent]

theorem exists_trimEnd_append (cs : List Char) :
    ∃ blanks, cs = trimEnd cs ++ blanks ∧ ∀ c ∈ blanks, isBlank c = true := by
  refine ⟨(cs.reverse.takeWhile isBlank).reverse, ?_, fun c hc => ?_⟩
  · rw [trimEnd, ← List.reverse_append, List.takeWhile_append_dropWhile, List.reverse_reverse]
  · exact of_mem_takeWhile (List.mem_reverse.mp hc)

theorem exists_trim (cs : List Char) :
    ∃ before after, cs = before ++ trim cs ++ after ∧ ∀ c ∈ before ++ after, isBlank c = true := by
  obtain ⟨after, rest, blank⟩ := exists_trimEnd_append (trimStart cs)
  refine ⟨cs.takeWhile isBlank, after, ?_, List.forall_mem_append.mpr ⟨fun _ => of_mem_takeWhile, blank⟩⟩
  calc cs = cs.takeWhile isBlank ++ trimStart cs := List.takeWhile_append_dropWhile.symm
    _ = cs.takeWhile isBlank ++ (trim cs ++ after) := congrArg _ rest
    _ = cs.takeWhile isBlank ++ trim cs ++ after := (List.append_assoc ..).symm

theorem trimEnd_append {core after : List Char} (hc : ∀ c ∈ core, isBlank c = false)
    (ha : ∀ c ∈ after, isBlank c = true) : trimEnd (core ++ after) = core := by
  have last : ∀ c ∈ core.reverse.head?, isBlank c = false := fun c h =>
    hc c (List.mem_reverse.mp (List.mem_of_mem_head? h))
  rw [trimEnd, List.reverse_append, dropWhile_run (fun c h => ha c (List.mem_reverse.mp h)) last,
    List.reverse_reverse]

theorem trim_between {before core after : List Char} (nonempty : core ≠ []) (hb : ∀ c ∈ before, isBlank c = true)
    (hc : ∀ c ∈ core, isBlank c = false) (ha : ∀ c ∈ after, isBlank c = true) :
    trim (before ++ core ++ after) = core := by
  have first : ∀ c ∈ (core ++ after).head?, isBlank c = false := by
    rw [List.head?_append_of_ne_nil _ nonempty]
    exact fun c h => hc c (List.mem_of_mem_head? h)
  rw [trim, trimStart, List.append_assoc, dropWhile_run hb first, trimEnd_append hc ha]

end PolicyGate.Text
