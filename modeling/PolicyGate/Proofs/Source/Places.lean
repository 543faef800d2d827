import PolicyGate.Proofs.Source.Pieces

/-!
# Places in a text with numbered variables

`Place table ps new old` says that the place `new` of the text in which the variables of the pieces are
replaced comes from the place `old`: between pieces, or inside a plain one. The edits lead back from
there (`originalOffset_numberVariables`).
-/

namespace PolicyGate.Source

def replacedText (table : List (List Char × Nat)) (cs : List Char) : List Char :=
  (pieces cs).flatMap (Piece.replaced table)

variable {table : List (List Char × Nat)}

theorem pieces_spelling (cs : List Char) : (pieces cs).flatMap Piece.spelling = cs := by
  induction hn : cs.length using Nat.strong_induction_on generalizing cs with
  | _ n ih =>
  cases cs with
  | nil => rw [pieces_nil]; rfl
  | cons c cs =>
    have tiles := firstPiece_tiles c cs
    have lengths := congrArg List.length tiles
    have nonempty := List.length_pos_iff.mpr (firstPiece_spelling_ne_nil c cs)
    rw [List.length_append] at lengths
    rw [pieces_cons, List.flatMap_cons, ih _ (by omega) (firstPiece c cs).2 rfl, ← tiles]

/-- The place `new` of the replaced text comes from the place `old` of the author's. -/
inductive Place (table : List (List Char × Nat)) : List Piece → Nat → Nat → Prop
  | start {ps} : Place table ps 0 0
  | inside {text ps k} (within : k ≤ Text.width text) : Place table (.plain text :: ps) k k
  | later {p ps new old} (place : Place table ps new old) :
      Place table (p :: ps) (Text.width (p.replaced table) + new) (Text.width p.spelling + old)

theorem Place.append (ps : List Piece) {qs : List Piece} {new old : Nat} (h : Place table qs new old) :
    Place table (ps ++ qs) (Text.width (ps.flatMap (Piece.replaced table)) + new)
      (Text.width (ps.flatMap Piece.spelling) + old) := by
  induction ps with
  | nil => simpa [Text.width] using h
  | cons p ps ih =>
    rw [List.flatMap_cons, List.flatMap_cons, Text.width_append, Text.width_append, Nat.add_assoc, Nat.add_assoc]
    exact .later ih

/-! ## Edits -/

/-- The place that the edits give for `offset`, between texts that begin at `new` and at `old`. -/
def placeFrom (edits : List Edit) (new old offset : Nat) : Nat :=
  match (edits.takeWhile fun e => e.newStart ≤ offset).getLast? with
  | none => old + (offset - new)
  | some e => if offset < e.newEnd then e.oldStart else e.oldEnd + (offset - e.newEnd)

theorem originalOffset_eq (n : Numbered) (offset : Nat) :
    n.originalOffset offset = placeFrom n.edits 0 0 offset := by
  unfold Numbered.originalOffset placeFrom
  cases (n.edits.takeWhile fun e => e.newStart ≤ offset).getLast? with
  | none => exact (Nat.zero_add offset).symm
  | some e => rfl

/-- A piece stays what it is, or is a variable with an edit of its own. -/
theorem editsFrom_cons (table : List (List Char × Nat)) (new old : Nat) (p : Piece) (ps : List Piece) :
    let rest := editsFrom table (new + Text.width (p.replaced table)) (old + Text.width p.spelling) ps
    (p.replaced table = p.spelling ∧ editsFrom table new old (p :: ps) = rest) ∨
      (p.replaced table ≠ [] ∧ editsFrom table new old (p :: ps) =
        ⟨new, new + Text.width (p.replaced table), old, old + Text.width p.spelling⟩ :: rest) := by
  cases p with
  | plain text => exact .inl ⟨rfl, by rw [editsFrom]⟩
  | var name =>
    rw [editsFrom]
    cases hl : table.lookup name with
    | none => exact .inl ⟨by simp only [Piece.replaced, hl, Piece.spelling], rfl⟩
    | some id => exact .inr ⟨by simp [Piece.replaced, hl], rfl⟩

theorem newStart_of_mem_editsFrom {new old : Nat} {ps : List Piece} {e : Edit}
    (h : e ∈ editsFrom table new old ps) : new ≤ e.newStart := by
  induction ps generalizing new old with
  | nil => cases h
  | cons p ps ih =>
    rcases editsFrom_cons table new old p ps with ⟨-, edits⟩ | ⟨-, edits⟩
    · rw [edits] at h
      exact Nat.le_trans (Nat.le_add_right _ _) (ih h)
    · rw [edits] at h
      rcases List.mem_cons.mp h with rfl | h
      · exact Nat.le_refl _
      · exact Nat.le_trans (Nat.le_add_right _ _) (ih h)

theorem takeWhile_of_late {edits : List Edit} {offset : Nat} (h : ∀ e ∈ edits, offset < e.newStart) :
    edits.takeWhile (fun e => e.newStart ≤ offset) = [] := by
  cases edits with
  | nil => rfl
  | cons e edits =>
    have late := h e List.mem_cons_self
    exact List.takeWhile_cons_of_neg (by simpa using late)

theorem placeFrom_of_late {edits : List Edit} {offset : Nat} (h : ∀ e ∈ edits, offset < e.newStart)
    (new old : Nat) : placeFrom edits new old offset = old + (offset - new) := by
  rw [placeFrom, takeWhile_of_late h]
  rfl

theorem placeFrom_later (table : List (List Char × Nat)) (p : Piece) (ps : List Piece) (new old k : Nat) :
    placeFrom (editsFrom table new old (p :: ps)) new old
        (new + (Text.width (p.replaced table) + k)) =
      placeFrom
        (editsFrom table (new + Text.width (p.replaced table)) (old + Text.width p.spelling) ps)
        (new + Text.width (p.replaced table)) (old + Text.width p.spelling)
        (new + Text.width (p.replaced table) + k) := by
  rw [← Nat.add_assoc]
  rcases editsFrom_cons table new old p ps with ⟨same, edits⟩ | ⟨-, edits⟩
  · rw [edits, placeFrom, placeFrom, same]
    split
    · omega
    · rfl
  · rw [edits, placeFrom, placeFrom, List.takeWhile_cons_of_pos (by simp; omega), List.getLast?_cons]
    cases ((editsFrom table _ _ ps).takeWhile _).getLast? with
    | none => exact if_neg (by simp)
    | some e => rfl

theorem placeFrom_start (ps : List Piece) (new old : Nat) :
    placeFrom (editsFrom table new old ps) new old new = old := by
  induction ps generalizing new old with
  | nil => simp [placeFrom, editsFrom]
  | cons p ps ih =>
    by_cases empty : p.replaced table = []
    · have step := placeFrom_later table p ps new old 0
      rcases editsFrom_cons table new old p ps with ⟨same, -⟩ | ⟨nonempty, -⟩
      · rw [← same, empty] at step
        exact step.trans (ih new old)
      · exact absurd empty nonempty
    · have later : ∀ e ∈ editsFrom table (new + Text.width (p.replaced table))
          (old + Text.width p.spelling) ps, new < e.newStart := fun e he =>
        Nat.lt_of_lt_of_le (Nat.lt_add_of_pos_right (Text.width_pos empty)) (newStart_of_mem_editsFrom he)
      rcases editsFrom_cons table new old p ps with ⟨-, edits⟩ | ⟨-, edits⟩
      · rw [edits, placeFrom_of_late later]
        omega
      · -- the first edit begins here, the others do not
        rw [edits, placeFrom, List.takeWhile_cons_of_pos (by simp), takeWhile_of_late later]
        exact if_pos (Nat.lt_add_of_pos_right (Text.width_pos empty))

theorem Place.placeFrom {ps : List Piece} {new old : Nat} (h : Place table ps new old) (n o : Nat) :
    placeFrom (editsFrom table n o ps) n o (n + new) = o + old := by
  induction h generalizing n o with
  | start => exact placeFrom_start _ n o
  | @inside text ps k within =>
    rcases Nat.lt_or_eq_of_le within with before | rfl
    · rw [editsFrom, placeFrom_of_late]
      · omega
      · intro e he
        have := newStart_of_mem_editsFrom he
        exact Nat.lt_of_lt_of_le (Nat.add_lt_add_left before n) this
    · exact (placeFrom_later table (.plain text) ps n o 0).trans (placeFrom_start _ _ _)
  | later place ih =>
    rw [placeFrom_later, ih, Nat.add_assoc]

theorem originalOffset_numberVariables {document : String} {new old : Nat}
    (h : Place (assignments (variableNames (pieces document.toList))) (pieces document.toList) new old) :
    (numberVariables document).originalOffset new = old := by
  have place := h.placeFrom 0 0
  rw [Nat.zero_add, Nat.zero_add] at place
  rw [originalOffset_eq]
  exact place

end PolicyGate.Source
