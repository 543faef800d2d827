import PolicyGate.Proofs.Message.Values

/-!
# Where refusing and dropping agree

The walks that refuse and those that drop are put together in the same ways, so a relation that is kept
by each of these ways relates them all: `fieldsFacts_related`. Two walks agree when the second has the run
of the first wherever nothing is to be dropped, and neither warns of anything there (`Agrees`);
`flatten_agrees` says it for a whole message.
-/

namespace PolicyGate

/-- A reason for which something would be dropped. -/
def FlattenError.IsDroppable : FlattenError → Prop
  | unsupportedKind .. | misaligned .. => True
  | unnamedEnum .. | invalidTimestamp .. | kindMismatch .. | pathCollision .. => False

def FlattenError.IsMisaligned : FlattenError → Prop
  | misaligned .. => True
  | unsupportedKind .. | unnamedEnum .. | invalidTimestamp .. | kindMismatch .. | pathCollision .. =>
    False

namespace Message

/-! ## Relations between the walks of two policies -/

/-- The relation is kept by all ways in which walks are put together. Where the first walk refuses a
column that is too short, the second one warns of it and goes on. -/
structure Keeps (R : ∀ {α : Type}, Walk α → Walk α → Prop) : Prop where
  of_pure : ∀ {α : Type} (x : α), R (pure x) (pure x)
  of_throw : ∀ {α : Type} {e : FlattenError}, ¬e.IsMisaligned → R (throw e : Walk α) (throw e)
  of_bind : ∀ {α β : Type} {w w' : Walk α} {f f' : α → Walk β}, R w w' → (∀ x, R (f x) (f' x)) →
    R (w >>= f) (w' >>= f')
  of_orDrop : ∀ {w w' : Walk FactSet} (message path : String), R w w' →
    R (orDrop .reject message path w) (orDrop .drop message path w')
  of_ownDropped : ∀ {α : Type} {w w' : Walk α}, R w w' → R (withOwnDropped w) (withOwnDropped w')
  of_short : ∀ {w w' : Walk FactSet} (path : String) (present count : Nat), R w w' →
    R (throw (.misaligned path present count))
      (do modify fun t => { t with warnings := t.warnings ++ [.subField path present count] }; w')

section
variable {R : ∀ {α : Type}, Walk α → Walk α → Prop} (keeps : Keeps R)
include keeps

theorem Keeps.addFact (path : String) (atom : Atom) (facts : FactSet) :
    R (addFact path atom facts) (addFact path atom facts) := by
  unfold Message.addFact
  cases facts.get? path with
  | none => exact keeps.of_pure _
  | some old => exact keeps.of_throw id

theorem Keeps.addFacts (es : List (String × Atom)) (facts : FactSet) :
    R (addFacts es facts) (addFacts es facts) := by
  induction es generalizing facts with
  | nil => exact keeps.of_pure facts
  | cons e es ih => exact keeps.of_bind (keeps.addFact e.1 e.2 facts) ih

theorem Keeps.scalarAtom (path : String) (declared : FieldKind) (s : Scalar) :
    R (scalarAtom path declared s) (scalarAtom path declared s) := by
  unfold Message.scalarAtom
  by_cases hk : s.kind ≠ declared
  · rw [if_pos hk]
    exact keeps.of_throw id
  · rw [if_neg hk]
    cases s with
    | uint64 n =>
      by_cases hn : (n.toNat : Int) ≤ Int64.maxValue.toInt
      · simp only [if_pos hn]
        exact keeps.of_pure _
      · simp only [if_neg hn]
        exact keeps.of_throw id
    | enum number name =>
      cases name with
      | none => exact keeps.of_throw id
      | some name => exact keeps.of_pure _
    | float | double | group => exact keeps.of_throw id
    | _ => exact keeps.of_pure _

theorem Keeps.leafAtoms (path : String) (declared : FieldKind) (values : List FieldValue) :
    R (values.mapM (leafAtom path declared)) (values.mapM (leafAtom path declared)) := by
  induction values with
  | nil =>
    rw [List.mapM_nil]
    exact keeps.of_pure []
  | cons value values ih =>
    have first : R (leafAtom path declared value) (leafAtom path declared value) := by
      cases value with
      | scalar s => exact keeps.scalarAtom path declared s
      | message name fields => exact keeps.of_throw id
    rw [List.mapM_cons]
    exact keeps.of_bind first fun a => keeps.of_bind ih fun as => keeps.of_pure (a :: as)

theorem Keeps.timestampAtom (path : String) (fields : List Field) :
    R (timestampAtom path fields) (timestampAtom path fields) := by
  unfold Message.timestampAtom
  cases timestampInstant fields with
  | ok t => exact keeps.of_pure _
  | error fault => exact keeps.of_throw id

theorem Keeps.addColumns (count : Nat) (cs : List (String × List Atom)) (facts : FactSet) :
    R (addColumns .reject count cs facts) (addColumns .drop count cs facts) := by
  induction cs generalizing facts with
  | nil => exact keeps.of_pure facts
  | cons column cs ih =>
    obtain ⟨path, atoms⟩ := column
    unfold Message.addColumns
    by_cases hl : atoms.length ≠ count
    · rw [if_pos hl, if_pos hl]
      exact keeps.of_short path atoms.length count (ih facts)
    · rw [if_neg hl, if_neg hl]
      exact keeps.of_bind (keeps.addFact path (.list atoms) facts) ih

-- Along the recursion of the walks.
mutual

theorem fieldsFacts_related (message above : String) : (fields : List Field) → (facts : FactSet) →
    R (fieldsFacts .reject message above fields facts) (fieldsFacts .drop message above fields facts)
  | [], facts => by
    simp only [fieldsFacts]
    exact keeps.of_pure facts
  | f :: fields, facts => by
    have own := keeps.of_orDrop message (joinPath above f.name)
      (fieldFacts_related (joinPath above f.name) f)
    have rest := fieldsFacts_related message above fields
    simp only [fieldsFacts]
    exact keeps.of_bind own fun m => keeps.of_bind (keeps.addFacts m.entries facts) rest

theorem fieldFacts_related (path : String) : (f : Field) →
    R (fieldFacts .reject path f) (fieldFacts .drop path f)
  | .mk name kind content => by
    simp only [fieldFacts]
    by_cases supported : isUnsupported kind = true
    · rw [if_pos supported, if_pos supported]
      exact keeps.of_throw id
    · rw [if_neg supported, if_neg supported]
      exact contentFacts_related path kind content

theorem contentFacts_related (path : String) (kind : FieldKind) : (content : FieldContent) →
    R (contentFacts .reject path kind content) (contentFacts .drop path kind content)
  | .unset => by
    simp only [contentFacts]
    exact keeps.of_pure _
  | .single value => by
    simp only [contentFacts]
    exact valueFacts_related path kind value .empty
  | .repeated values => by
    simp only [contentFacts]
    by_cases hk : kind = .message
    · rw [if_pos hk, if_pos hk]
      have elements := keeps.of_ownDropped (elementsFacts_related path values)
      exact keeps.of_bind elements fun r => keeps.addColumns values.length _ .empty
    · rw [if_neg hk, if_neg hk]
      have atoms := keeps.leafAtoms path kind values
      exact keeps.of_bind atoms fun as => keeps.addFact path (.list as) .empty
  | .map entries => by
    simp only [contentFacts]
    exact entriesFacts_related path kind entries .empty

theorem valueFacts_related (path : String) (declared : FieldKind) : (value : FieldValue) →
    (facts : FactSet) →
    R (valueFacts .reject path declared value facts) (valueFacts .drop path declared value facts)
  | .scalar s, facts => by
    have atom := keeps.scalarAtom path declared s
    simp only [valueFacts]
    exact keeps.of_bind atom fun a => keeps.addFact path a facts
  | .message name fields, facts => by
    simp only [valueFacts]
    by_cases hd : declared = .message
    · rw [if_neg (not_not_intro hd), if_neg (not_not_intro hd)]
      by_cases hn : name = timestampName
      · rw [if_pos hn, if_pos hn]
        have atom := keeps.timestampAtom path fields
        exact keeps.of_bind atom fun a => keeps.addFact path a facts
      · rw [if_neg hn, if_neg hn]
        exact fieldsFacts_related name path fields facts
    · rw [if_pos hd, if_pos hd]
      exact keeps.of_throw id

theorem elementsFacts_related (path : String) : (values : List FieldValue) →
    R (elementsFacts .reject path values) (elementsFacts .drop path values)
  | [] => by
    simp only [elementsFacts]
    exact keeps.of_pure _
  | value :: values => by
    have first := valueFacts_related path .message value .empty
    have rest := elementsFacts_related path values
    simp only [elementsFacts]
    exact keeps.of_bind first fun m => keeps.of_bind rest fun ms => keeps.of_pure (m :: ms)

theorem entriesFacts_related (path : String) (kind : FieldKind) :
    (entries : List (MapKey × FieldValue)) → (facts : FactSet) →
    R (entriesFacts .reject path kind entries facts) (entriesFacts .drop path kind entries facts)
  | [], facts => by
    simp only [entriesFacts]
    exact keeps.of_pure facts
  | (key, value) :: entries, facts => by
    have first := valueFacts_related (path ++ "." ++ key.text) kind value facts
    have rest := entriesFacts_related path kind entries
    simp only [entriesFacts]
    exact keeps.of_bind first rest

end

end

/-! ## Agreement -/

section
variable {α β : Type}

def Stands (r : Except FlattenError α) : Prop :=
  ∀ e, r = .error e → ¬e.IsDroppable

/-- Where the result of `w` stands, `w'` has the same run, and no warning is added. -/
def Agrees (w w' : Walk α) : Prop :=
  ∀ t r t', w.run t = (r, t') → Stands r → w'.run t = (r, t') ∧ t'.warnings = t.warnings

variable {w w' : Walk α}

theorem stands_ok (x : α) : Stands (.ok x) := by
  intro e h
  cases h

theorem stands_error {e : FlattenError} (h : ¬e.IsDroppable) : Stands (.error e : Except FlattenError α) := by
  intro e' h'
  cases h'
  exact h

theorem Still.agrees (h : Still w) : Agrees w w := by
  intro t r t' run _
  have same := h t
  rw [run] at same
  exact ⟨run, congrArg Trail.warnings same⟩

theorem agrees_throw {e : FlattenError} (h : e.IsDroppable) : Agrees (throw e) w' := by
  intro t r t' run stands
  cases run
  exact absurd h (stands e rfl)

theorem Agrees.bind {f f' : α → Walk β} (hw : Agrees w w') (hf : ∀ x, Agrees (f x) (f' x)) :
    Agrees (w >>= f) (w' >>= f') := by
  intro t r t' run stands
  rw [run_bind] at run
  cases first : w.run t with
  | mk r₁ t₁ =>
    rw [first] at run
    cases r₁ with
    | error e =>
      cases run
      obtain ⟨run', same⟩ := hw t _ _ first (stands_error (stands e rfl))
      rw [run_bind, run']
      exact ⟨rfl, same⟩
    | ok x =>
      obtain ⟨run', same⟩ := hw t _ _ first (stands_ok x)
      obtain ⟨run'', same'⟩ := hf x t₁ r t' run stands
      rw [run_bind, run']
      exact ⟨run'', same'.trans same⟩

theorem Agrees.orDrop {w w' : Walk FactSet} (h : Agrees w w') (message path : String) :
    Agrees (orDrop .reject message path w) (orDrop .drop message path w') := by
  intro t r t' run stands
  rw [run_orDrop_reject] at run
  obtain ⟨run', same⟩ := h t r t' run stands
  refine ⟨?_, same⟩
  rw [run_orDrop_drop, run']
  split
  · next p kind t₁ failed =>
    cases failed
    exact absurd trivial (stands _ rfl)
  · rfl

theorem Agrees.withOwnDropped (h : Agrees w w') : Agrees (withOwnDropped w) (withOwnDropped w') := by
  intro t r t' run stands
  rw [run_withOwnDropped] at run ⊢
  split at run
  · next x t₁ first =>
    obtain ⟨run', same⟩ := h _ _ _ first (stands_ok x)
    cases run
    rw [run']
    exact ⟨rfl, same⟩
  · next e t₁ failed =>
    cases run
    obtain ⟨run', same⟩ := h _ _ _ failed (stands_error (stands e rfl))
    rw [run']
    exact ⟨rfl, same⟩

end

theorem keeps_agrees : Keeps Agrees where
  of_pure x := (still_pure x).agrees
  of_throw _ := (still_throw _).agrees
  of_bind := Agrees.bind
  of_orDrop message path h := h.orDrop message path
  of_ownDropped := Agrees.withOwnDropped
  of_short _ _ _ _ := agrees_throw trivial

/-- Unless refusing fails for something that would be dropped, both policies have one result, and neither
warns. -/
theorem flatten_agrees {m : Message} (stands : Stands (flatten .reject m).1) (policy : UnsupportedFields) :
    flatten policy m = ((flatten .reject m).1, []) := by
  obtain ⟨run, quiet⟩ := fieldsFacts_related keeps_agrees m.name "" m.fields .empty {} _ _ rfl stands
  cases policy with
  | reject => exact Prod.ext rfl quiet
  | drop =>
    have dropped : flatten .drop m = flatten .reject m := by
      unfold flatten
      rw [run]
      rfl
    rw [dropped]
    exact Prod.ext rfl quiet

end Message
end PolicyGate
