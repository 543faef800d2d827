import PolicyGate.Proofs.Source.Assignments
import PolicyGate.Proofs.Source.Places

/-!
# Where the bytes of a numbered text come from

Each byte of a text with numbered variables lies in the new form of one piece (`exists_piece`), and its
place comes from that piece: from the same place inside it, or from its start if it is a variable that got
a number (`originalOffset_piece`). So the map of offsets goes up byte by byte outside of such variables
and stands still inside them (`rewritten_or_copied`), which makes it exact.
-/

namespace PolicyGate.Source

variable {table : List (List Char × Nat)}

def Piece.isNumbered (table : List (List Char × Nat)) : Piece → Bool
  | plain _ => false
  | var name => (table.lookup name).isSome

theorem Piece.exists_name {p : Piece} (h : p.isNumbered table) : ∃ name, p = .var name := by
  cases p with
  | plain text => cases h
  | var name => exact ⟨name, rfl⟩

theorem Piece.replaced_of_not_numbered {p : Piece} (h : ¬p.isNumbered table) :
    p.replaced table = p.spelling := by
  cases p with
  | plain text => rfl
  | var name =>
    have free : table.lookup name = none := Option.not_isSome_iff_eq_none.mp h
    simp [replaced, free, spelling]

theorem editsFrom_of_numbered {p : Piece} (h : p.isNumbered table) (new old : Nat) (ps : List Piece) :
    editsFrom table new old (p :: ps) =
      ⟨new, new + Text.width (p.replaced table), old, old + Text.width p.spelling⟩ ::
        editsFrom table (new + Text.width (p.replaced table)) (old + Text.width p.spelling) ps := by
  cases p with
  | plain text => cases h
  | var name => exact if_pos h

theorem editsFrom_of_not_numbered {p : Piece} (h : ¬p.isNumbered table) (new old : Nat) (ps : List Piece) :
    editsFrom table new old (p :: ps) =
      editsFrom table (new + Text.width (p.replaced table)) (old + Text.width p.spelling) ps := by
  cases p with
  | plain text => rfl
  | var name => exact if_neg h

/-! ## Pieces at an offset -/

theorem exists_piece {text : Piece → List Char} {ps : List Piece} {k : Nat}
    (h : k < Text.width (ps.flatMap text)) :
    ∃ front p back j, ps = front ++ p :: back ∧ k = Text.width (front.flatMap text) + j ∧
      j < Text.width (text p) := by
  induction ps generalizing k with
  | nil => exact absurd h (Nat.not_lt_zero k)
  | cons p ps ih =>
    rw [List.flatMap_cons, Text.width_append] at h
    by_cases first : k < Text.width (text p)
    · exact ⟨[], p, ps, k, rfl, (Nat.zero_add k).symm, first⟩
    · obtain ⟨front, q, back, j, rfl, hk, hj⟩ := ih (k := k - Text.width (text p)) (by omega)
      refine ⟨p :: front, q, back, j, rfl, ?_, hj⟩
      rw [List.flatMap_cons, Text.width_append]
      omega

theorem flatMap_split (text : Piece → List Char) (front : List Piece) (p : Piece) (back : List Piece) :
    (front ++ p :: back).flatMap text = front.flatMap text ++ text p ++ back.flatMap text := by
  rw [List.flatMap_append, List.flatMap_cons, List.append_assoc]

theorem placeFrom_append (front ps : List Piece) (new old k : Nat) :
    placeFrom (editsFrom table new old (front ++ ps)) new old
        (new + (Text.width (front.flatMap (Piece.replaced table)) + k)) =
      placeFrom
        (editsFrom table (new + Text.width (front.flatMap (Piece.replaced table)))
          (old + Text.width (front.flatMap Piece.spelling)) ps)
        (new + Text.width (front.flatMap (Piece.replaced table)))
        (old + Text.width (front.flatMap Piece.spelling))
        (new + Text.width (front.flatMap (Piece.replaced table)) + k) := by
  induction front generalizing new old with
  | nil => simp [Text.width]
  | cons p front ih =>
    simp only [List.cons_append, List.flatMap_cons, Text.width_append, Nat.add_assoc]
    rw [placeFrom_later]
    simpa only [Nat.add_assoc] using ih (new + Text.width (p.replaced table)) (old + Text.width p.spelling)

theorem placeFrom_first {p : Piece} (ps : List Piece) {j : Nat} (h : j < Text.width (p.replaced table))
    (new old : Nat) :
    placeFrom (editsFrom table new old (p :: ps)) new old (new + j) =
      old + if p.isNumbered table then 0 else j := by
  have later : ∀ e ∈ editsFrom table (new + Text.width (p.replaced table))
      (old + Text.width p.spelling) ps, new + j < e.newStart := by
    intro e he
    have := newStart_of_mem_editsFrom he
    omega
  by_cases numbered : p.isNumbered table
  · rw [editsFrom_of_numbered numbered, placeFrom, List.takeWhile_cons_of_pos (by simp),
      takeWhile_of_late later]
    simp [h, numbered]
  · rw [editsFrom_of_not_numbered numbered, placeFrom_of_late later]
    simp [numbered]

section
variable {document : String} {front back : List Piece} {p : Piece} {j : Nat}

def numbersOf (document : String) : List (List Char × Nat) :=
  assignments (variableNames (pieces document.toList))

theorem originalOffset_piece (hps : pieces document.toList = front ++ p :: back)
    (hj : j < Text.width (p.replaced (numbersOf document))) :
    (numberVariables document).originalOffset
        (Text.width (front.flatMap (Piece.replaced (numbersOf document))) + j) =
      Text.width (front.flatMap Piece.spelling) + if p.isNumbered (numbersOf document) then 0 else j := by
  have place := @placeFrom_append (numbersOf document) front (p :: back) 0 0 j
  rw [placeFrom_first back hj, Nat.zero_add, Nat.zero_add, ← hps] at place
  rw [originalOffset_eq]
  exact place

theorem originalOffset_behind (hps : pieces document.toList = front ++ p :: back) :
    (numberVariables document).originalOffset
        (Text.width (front.flatMap (Piece.replaced (numbersOf document))) +
          Text.width (p.replaced (numbersOf document))) =
      Text.width (front.flatMap Piece.spelling) + Text.width p.spelling := by
  have place : Place (numbersOf document) (front ++ p :: back) _ _ := .append front (.later .start)
  rw [← hps] at place
  exact originalOffset_numberVariables place

theorem originalOffset_end (document : String) :
    (numberVariables document).originalOffset (numberVariables document).text.utf8ByteSize =
      document.utf8ByteSize := by
  have place : Place (numbersOf document) (pieces document.toList ++ []) _ _ := .append _ .start
  rw [List.append_nil, pieces_spelling, Nat.add_zero, Nat.add_zero, Text.width_ofList, Text.width_ofList,
    String.ofList_toList] at place
  exact originalOffset_numberVariables place

end

/-! ## The variables that are rewritten -/

/-- Where a variable stands behind the pieces `front`, in the numbered text and in the author's. -/
def editBehind (table : List (List Char × Nat)) (front : List Piece) (name : List Char) : Edit where
  newStart := Text.width (front.flatMap (Piece.replaced table))
  newEnd := Text.width (front.flatMap (Piece.replaced table)) + Text.width (Piece.replaced table (.var name))
  oldStart := Text.width (front.flatMap Piece.spelling)
  oldEnd := Text.width (front.flatMap Piece.spelling) + Text.width (Piece.var name).spelling

/-- At `e` stands a variable of the document whose name is no number. -/
def IsRewritten (document : String) (e : Edit) : Prop :=
  ∃ front name back, pieces document.toList = front ++ .var name :: back ∧ isNumeric name = false ∧
    e = editBehind (numbersOf document) front name

theorem editsFrom_append (new old : Nat) (front ps : List Piece) :
    editsFrom table new old (front ++ ps) =
      editsFrom table new old front ++
        editsFrom table (new + Text.width (front.flatMap (Piece.replaced table)))
          (old + Text.width (front.flatMap Piece.spelling)) ps := by
  induction front generalizing new old with
  | nil => simp [editsFrom, Text.width]
  | cons p front ih =>
    simp only [List.cons_append, List.flatMap_cons, Text.width_append]
    by_cases numbered : p.isNumbered table
    · simp only [editsFrom_of_numbered numbered, ih, Nat.add_assoc, List.cons_append]
    · simp only [editsFrom_of_not_numbered numbered, ih, Nat.add_assoc]

theorem exists_of_mem_editsFrom {e : Edit} {ps : List Piece} (h : e ∈ editsFrom table 0 0 ps) :
    ∃ front name back, ps = front ++ .var name :: back ∧ (Piece.var name).isNumbered table ∧
      e = editBehind table front name := by
  induction ps using List.reverseRecOn with
  | nil => cases h
  | append_singleton ps p ih =>
    rw [editsFrom_append, List.mem_append] at h
    rcases h with h | h
    · obtain ⟨front, name, back, rfl, numbered, rfl⟩ := ih h
      exact ⟨front, name, back ++ [p], by simp, numbered, rfl⟩
    · by_cases numbered : p.isNumbered table
      · rw [editsFrom_of_numbered numbered] at h
        cases p with
        | plain text => cases numbered
        | var name => exact ⟨ps, name, [], rfl, numbered, by simpa [editsFrom, editBehind] using h⟩
      · rw [editsFrom_of_not_numbered numbered] at h
        cases h

/-- The edits are in order and do not overlap, so the last one that begins at or before a place is found by
looking at their starts alone. -/
theorem editsFrom_ordered (new old : Nat) (ps : List Piece) :
    (editsFrom table new old ps).Pairwise fun e e' => e.newEnd ≤ e'.newStart := by
  induction ps generalizing new old with
  | nil => exact .nil
  | cons p ps ih =>
    by_cases numbered : p.isNumbered table
    · rw [editsFrom_of_numbered numbered, List.pairwise_cons]
      exact ⟨fun e he => newStart_of_mem_editsFrom he, ih _ _⟩
    · rw [editsFrom_of_not_numbered numbered]
      exact ih _ _

/-- The place `o` of the numbered text lies in no variable that is rewritten. -/
def IsKept (document : String) (o : Nat) : Prop :=
  ∀ e, IsRewritten document e → ¬(e.newStart ≤ o ∧ o < e.newEnd)

section
variable {document : String}

theorem text_numberVariables (document : String) :
    (numberVariables document).text =
      String.ofList ((pieces document.toList).flatMap (Piece.replaced (numbersOf document))) :=
  rfl

theorem isNumbered_iff {front back : List Piece} {name : List Char}
    (hps : pieces document.toList = front ++ .var name :: back) :
    (Piece.var name).isNumbered (numbersOf document) ↔ isNumeric name = false := by
  have listed : name ∈ variableNames (pieces document.toList) := by
    rw [hps, variableNames_append]
    simp [variableNames]
  constructor
  · intro h
    obtain ⟨id, hid⟩ := Option.isSome_iff_exists.mp h
    exact (symbolic_of_assignment hid).2
  · intro h
    exact Option.isSome_iff_exists.mpr (exists_assignment listed h)

theorem mem_edits_iff {e : Edit} : e ∈ (numberVariables document).edits ↔ IsRewritten document e := by
  constructor
  · intro h
    obtain ⟨front, name, back, hps, numbered, rfl⟩ := exists_of_mem_editsFrom h
    exact ⟨front, name, back, hps, (isNumbered_iff hps).mp numbered, rfl⟩
  · rintro ⟨front, name, back, hps, symbolic, rfl⟩
    have edits : (numberVariables document).edits =
        editsFrom (numbersOf document) 0 0 (front ++ .var name :: back) := by
      rw [← hps]
      rfl
    rw [edits, editsFrom_append, editsFrom_of_numbered ((isNumbered_iff hps).mpr symbolic)]
    simp [editBehind]

/-- Byte `o` of the numbered text is one of a piece that stays as it is, and the next byte comes from one place
further on. -/
def IsCopied (document : String) (o : Nat) : Prop :=
  ∃ front p back j, pieces document.toList = front ++ p :: back ∧ j < Text.width p.spelling ∧
    p.replaced (numbersOf document) = p.spelling ∧
    o = Text.width (front.flatMap (Piece.replaced (numbersOf document))) + j ∧
    (numberVariables document).originalOffset o = Text.width (front.flatMap Piece.spelling) + j ∧
    (numberVariables document).originalOffset (o + 1) = (numberVariables document).originalOffset o + 1

theorem rewritten_or_copied {o : Nat} (h : o < (numberVariables document).text.utf8ByteSize) :
    (∃ e, IsRewritten document e ∧ e.newStart ≤ o ∧ o < e.newEnd ∧
      (numberVariables document).originalOffset o = e.oldStart ∧
      e.oldStart ≤ (numberVariables document).originalOffset (o + 1)) ∨ IsCopied document o := by
  rw [text_numberVariables, ← Text.width_ofList] at h
  obtain ⟨front, p, back, j, hps, rfl, hj⟩ := exists_piece h
  have here := originalOffset_piece hps hj
  have behind := originalOffset_behind hps
  by_cases numbered : p.isNumbered (numbersOf document)
  · left
    obtain ⟨name, rfl⟩ := Piece.exists_name numbered
    rw [if_pos numbered] at here
    refine ⟨editBehind (numbersOf document) front name,
      ⟨front, name, back, hps, (isNumbered_iff hps).mp numbered, rfl⟩, Nat.le_add_right _ _,
      Nat.add_lt_add_left hj _, here, ?_⟩
    by_cases next : j + 1 < Text.width (Piece.replaced (numbersOf document) (.var name))
    · have := originalOffset_piece hps next
      rw [if_pos numbered] at this
      exact Nat.le_of_eq this.symm
    · have last : j + 1 = Text.width (Piece.replaced (numbersOf document) (.var name)) := by omega
      rw [Nat.add_assoc, last, behind]
      exact Nat.le_add_right _ _
  · right
    have same := Piece.replaced_of_not_numbered numbered
    rw [if_neg numbered] at here
    refine ⟨front, p, back, j, hps, same ▸ hj, same, rfl, here, ?_⟩
    rw [here]
    by_cases next : j + 1 < Text.width (p.replaced (numbersOf document))
    · have := originalOffset_piece hps next
      rw [if_neg numbered] at this
      exact this
    · have last : j + 1 = Text.width (p.replaced (numbersOf document)) := by omega
      rw [Nat.add_assoc, last, behind, ← same, ← last]
      rfl

theorem originalOffset_of_isRewritten {e : Edit} {o : Nat} (h : IsRewritten document e)
    (first : e.newStart ≤ o) (last : o < e.newEnd) :
    (numberVariables document).originalOffset o = e.oldStart := by
  obtain ⟨front, name, back, hps, symbolic, rfl⟩ := h
  obtain ⟨j, rfl⟩ := Nat.exists_eq_add_of_le first
  have place := originalOffset_piece hps (Nat.lt_of_add_lt_add_left last)
  rw [if_pos ((isNumbered_iff hps).mpr symbolic)] at place
  exact place

theorem IsKept.isCopied {o : Nat} (kept : IsKept document o)
    (h : o < (numberVariables document).text.utf8ByteSize) : IsCopied document o := by
  rcases rewritten_or_copied h with ⟨e, rewritten, first, last, -⟩ | copied
  · exact absurd ⟨first, last⟩ (kept e rewritten)
  · exact copied

theorem originalOffset_mono {o o' : Nat} (le : o ≤ o')
    (h : o' ≤ (numberVariables document).text.utf8ByteSize) :
    (numberVariables document).originalOffset o ≤ (numberVariables document).originalOffset o' := by
  induction o', le using Nat.le_induction with
  | base => exact Nat.le_refl _
  | succ o' _ ih =>
    refine Nat.le_trans (ih (Nat.le_of_succ_le h)) ?_
    rcases rewritten_or_copied h with ⟨e, -, -, -, here, next⟩ | ⟨_, _, _, _, -, -, -, -, -, next⟩
    · rw [here]
      exact next
    · rw [next]
      exact Nat.le_succ _

theorem IsKept.originalOffset_lt {o o' : Nat} (kept : IsKept document o) (lt : o < o')
    (h : o' ≤ (numberVariables document).text.utf8ByteSize) :
    (numberVariables document).originalOffset o < (numberVariables document).originalOffset o' := by
  obtain ⟨_, _, _, _, -, -, -, -, -, next⟩ := kept.isCopied (Nat.lt_of_lt_of_le lt h)
  have behind : (numberVariables document).originalOffset (o + 1) ≤
      (numberVariables document).originalOffset o' := originalOffset_mono lt h
  omega

theorem IsKept.same_byte {o : Nat} (kept : IsKept document o)
    (h : o < (numberVariables document).text.utf8ByteSize) :
    ∃ byte, (Text.toBytes (numberVariables document).text)[o]? = some byte ∧
      (Text.toBytes document)[(numberVariables document).originalOffset o]? = some byte := by
  obtain ⟨front, p, back, j, hps, hj, same, rfl, here, -⟩ := kept.isCopied h
  have old : document = String.ofList (front.flatMap Piece.spelling ++ p.spelling ++
      back.flatMap Piece.spelling) := by
    rw [← flatMap_split, ← hps, pieces_spelling, String.ofList_toList]
  have short : j < (Text.toBytes (String.ofList p.spelling)).length := by
    rw [← Text.width_toList, String.toList_ofList]
    exact hj
  refine ⟨(Text.toBytes (String.ofList p.spelling))[j], ?_, ?_⟩
  · rw [text_numberVariables, hps, flatMap_split, same, Text.getElem?_toBytes_part hj,
      List.getElem?_eq_getElem short]
  · rw [here]
    conv_lhs => rw [old]
    rw [Text.getElem?_toBytes_part hj, List.getElem?_eq_getElem short]

theorem exists_kept {b : Nat} (h : b < document.utf8ByteSize)
    (outside : ∀ e, IsRewritten document e → ¬(e.oldStart ≤ b ∧ b < e.oldEnd)) :
    ∃ o, o ≤ (numberVariables document).text.utf8ByteSize ∧ IsKept document o ∧
      (numberVariables document).originalOffset o = b := by
  have within : b < Text.width ((pieces document.toList).flatMap Piece.spelling) := by
    rw [pieces_spelling, Text.width_ofList, String.ofList_toList]
    exact h
  obtain ⟨front, p, back, j, hps, rfl, hj⟩ := exists_piece within
  by_cases numbered : p.isNumbered (numbersOf document)
  · obtain ⟨name, rfl⟩ := Piece.exists_name numbered
    have rewritten : IsRewritten document (editBehind (numbersOf document) front name) :=
      ⟨front, name, back, hps, (isNumbered_iff hps).mp numbered, rfl⟩
    exact absurd ⟨Nat.le_add_right _ _, Nat.add_lt_add_left hj _⟩ (outside _ rewritten)
  · have same := Piece.replaced_of_not_numbered numbered
    have place := originalOffset_piece hps (same ▸ hj)
    rw [if_neg numbered] at place
    refine ⟨_, ?_, ?_, place⟩
    · rw [text_numberVariables, ← Text.width_ofList, hps, flatMap_split, Text.width_append, Text.width_append,
        same]
      omega
    · -- what comes from the start of a variable does not come from outside of all variables
      intro e rewritten ⟨first, last⟩
      refine outside e rewritten ?_
      rw [← place, originalOffset_of_isRewritten rewritten first last]
      obtain ⟨front, name, back, -, -, rfl⟩ := rewritten
      refine ⟨Nat.le_refl _, Nat.lt_add_of_pos_right (Text.width_pos ?_)⟩
      simp [Piece.spelling]

theorem dollar_of_isRewritten {e : Edit} (h : IsRewritten document e) :
    (Text.toBytes document)[e.oldStart]? = some '$'.toUInt8 := by
  obtain ⟨front, name, back, hps, -, rfl⟩ := h
  have old : document = String.ofList (front.flatMap Piece.spelling ++ ['$'] ++
      (name ++ back.flatMap Piece.spelling)) := by
    have text := pieces_spelling document.toList
    rw [hps, flatMap_split, Piece.spelling] at text
    rw [← document.ofList_toList, ← text]
    simp
  have one : 0 < Text.width ['$'] := by decide
  conv_lhs => rw [old]
  exact Text.getElem?_toBytes_part one

end

/-- The edits are the rewritten variables, in order, and the map of offsets is exact: it is monotone, leads from
all places in a rewritten variable to the `$` of that variable, from the end to the end, and from any other
place to a byte of the author's text that is the same, and it leads to each byte outside of the rewritten
variables from just one such place. -/
theorem originalOffset_exact (document : String) :
    ((numberVariables document).edits.Pairwise (fun e e' => e.newEnd ≤ e'.newStart) ∧
      ∀ e, e ∈ (numberVariables document).edits ↔ IsRewritten document e) ∧
    (∀ o o', o ≤ o' → o' ≤ (numberVariables document).text.utf8ByteSize →
      (numberVariables document).originalOffset o ≤ (numberVariables document).originalOffset o') ∧
    (∀ e, IsRewritten document e →
      (Text.toBytes document)[e.oldStart]? = some '$'.toUInt8 ∧
      ∀ o, e.newStart ≤ o → o < e.newEnd → (numberVariables document).originalOffset o = e.oldStart) ∧
    (∀ o, o ≤ (numberVariables document).text.utf8ByteSize → IsKept document o →
      (o = (numberVariables document).text.utf8ByteSize ∧
        (numberVariables document).originalOffset o = document.utf8ByteSize) ∨
      ∃ byte, (Text.toBytes (numberVariables document).text)[o]? = some byte ∧
        (Text.toBytes document)[(numberVariables document).originalOffset o]? = some byte) ∧
    ∀ b, b < document.utf8ByteSize → (∀ e, IsRewritten document e → ¬(e.oldStart ≤ b ∧ b < e.oldEnd)) →
      ∃! o, o ≤ (numberVariables document).text.utf8ByteSize ∧ IsKept document o ∧
        (numberVariables document).originalOffset o = b := by
  refine ⟨⟨editsFrom_ordered 0 0 _, fun e => mem_edits_iff⟩, fun o o' => originalOffset_mono, ?_, ?_, ?_⟩
  · intro e rewritten
    exact ⟨dollar_of_isRewritten rewritten, fun o => originalOffset_of_isRewritten rewritten⟩
  · intro o h kept
    rcases Nat.eq_or_lt_of_le h with rfl | h
    · exact .inl ⟨rfl, originalOffset_end document⟩
    · exact .inr (kept.same_byte h)
  · intro b h outside
    obtain ⟨o, ho, kept, here⟩ := exists_kept h outside
    refine ⟨o, ⟨ho, kept, here⟩, ?_⟩
    rintro o' ⟨ho', kept', here'⟩
    rcases Nat.lt_trichotomy o' o with lt | same | gt
    · have := kept'.originalOffset_lt lt ho
      omega
    · exact same
    · have := kept.originalOffset_lt gt ho'
      omega

end PolicyGate.Source
