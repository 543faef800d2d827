import PolicyGate.Authorizer.Call
import PolicyGate.Proofs.Fact.Reading
import PolicyGate.Proofs.Message.Values
import PolicyGate.Proofs.Message.Warnings
import PolicyGate.Proofs.Time.Years

/-!
# What messages are turned into

Whatever a message holds, and whether fields are refused or dropped, its atoms are derived ones: no walk adds
another (`fieldsFacts_returns`). So all facts of a call are told by their text (`Authorizer.facts_ambient`).
-/

namespace PolicyGate

open Data (StringMap)

/-! ## Maps with a property of their values -/

namespace Data.StringMap

variable {β : Type} {P : β → Prop} {m : StringMap β}

def All (P : β → Prop) (m : StringMap β) : Prop :=
  ∀ key b, m.get? key = some b → P b

theorem all_empty : All P .empty := by
  intro key b h
  cases h

theorem All.of_mem (h : m.All P) {e : String × β} (he : e ∈ m.entries) : P e.2 :=
  h e.1 e.2 (get?_eq_some.mpr he)

theorem All.set (h : m.All P) (key : String) {value : Option β → β} (hv : P (value (m.get? key))) :
    (m.set key value).All P := by
  intro k b hb
  rw [get?_set] at hb
  by_cases same : k = key
  · simp [same] at hb
    exact hb ▸ hv
  · simp [same] at hb
    exact h k b hb

end Data.StringMap

namespace Message

/-! ## Postconditions of walks -/

section
variable {α β : Type} {w : Walk α} {P : α → Prop} {Q : β → Prop}

/-- Every result of the walk satisfies `P`. -/
structure Returns (w : Walk α) (P : α → Prop) : Prop where
  holds : ∀ {t x t'}, w.run t = (.ok x, t') → P x

theorem returns_pure {x : α} (h : P x) : Returns (pure x) P := by
  constructor
  intro t y t' run
  cases run
  exact h

theorem returns_throw (e : FlattenError) : Returns (throw e : Walk α) P := by
  constructor
  intro t y t' run
  cases run

theorem returns_any (w : Walk α) : Returns w fun _ => True := by
  constructor
  intros
  trivial

theorem Returns.bind {f : α → Walk β} (hw : Returns w P) (hf : ∀ x, P x → Returns (f x) Q) :
    Returns (w >>= f) Q := by
  constructor
  intro t y t' run
  obtain ⟨x, t₁, first, second⟩ := run_bind_eq_ok run
  exact (hf x (hw.holds first)).holds second

theorem Returns.mapM {f : α → Walk β} {xs : List α} (h : ∀ x, Returns (f x) Q) :
    Returns (xs.mapM f) fun ys => ∀ y ∈ ys, Q y := by
  induction xs with
  | nil =>
    rw [List.mapM_nil]
    exact returns_pure (by simp)
  | cons x xs ih =>
    rw [List.mapM_cons]
    apply (h x).bind
    intro y hy
    apply ih.bind
    intro ys hys
    exact returns_pure (List.forall_mem_cons.mpr ⟨hy, hys⟩)

theorem Returns.orDrop {w : Walk FactSet} {P : FactSet → Prop} (h : Returns w P) (none : P .empty)
    (policy : UnsupportedFields) (message path : String) : Returns (orDrop policy message path w) P := by
  constructor
  intro t x t' run
  cases policy with
  | reject =>
    rw [run_orDrop_reject] at run
    exact h.holds run
  | drop =>
    rw [run_orDrop_drop] at run
    split at run
    · cases run
      exact none
    · exact h.holds run

theorem Returns.withOwnDropped (h : Returns w P) : Returns (withOwnDropped w) fun r => P r.1 := by
  constructor
  intro t r t' run
  obtain ⟨t₁, first, -, -⟩ := run_withOwnDropped_eq_ok run
  exact h.holds first

end

/-! ## Derived atoms -/

abbrev Derived (facts : FactSet) : Prop :=
  facts.All Atom.IsDerived

variable {facts : FactSet} {atom : Atom}

theorem addFact_returns (path : String) (ha : atom.IsDerived) (h : Derived facts) :
    Returns (addFact path atom facts) Derived := by
  unfold addFact
  cases facts.get? path with
  | none => exact returns_pure (h.set path ha)
  | some old => exact returns_throw _

theorem addFacts_returns {es : List (String × Atom)} (hes : ∀ e ∈ es, e.2.IsDerived)
    (h : Derived facts) : Returns (addFacts es facts) Derived := by
  induction es generalizing facts with
  | nil => exact returns_pure h
  | cons e es ih =>
    obtain ⟨he, hes⟩ := List.forall_mem_cons.mp hes
    unfold addFacts
    apply (addFact_returns e.1 he h).bind
    intro facts' h'
    exact ih hes h'

theorem scalarAtom_returns (path : String) (declared : FieldKind) (s : Scalar) :
    Returns (scalarAtom path declared s) Atom.IsDerived := by
  unfold scalarAtom
  by_cases other : s.kind ≠ declared
  · rw [if_pos other]
    exact returns_throw _
  · rw [if_neg other]
    cases s with
    | uint64 n =>
      by_cases fits : (n.toNat : Int) ≤ Int64.maxValue.toInt
      · simp only [if_pos fits]
        exact returns_pure (.integer _)
      · simp only [if_neg fits]
        exact returns_throw _
    | enum number name =>
      cases name with
      | none => exact returns_throw _
      | some name => exact returns_pure (.string name)
    | float | double | group => exact returns_throw _
    | string content => exact returns_pure (.string content)
    | bytes value => exact returns_pure (.bytes value)
    | bool _ | int32 _ | int64 _ | uint32 _ => exact returns_pure (.integer _)

theorem leafAtom_returns (path : String) (declared : FieldKind) (value : FieldValue) :
    Returns (leafAtom path declared value) Atom.IsDerived := by
  cases value with
  | scalar s => exact scalarAtom_returns path declared s
  | message name fields => exact returns_throw _

theorem isDerived_date {t : Time.Instant} (first : -62135596800 ≤ t.seconds)
    (last : t.seconds ≤ 253402300799) : Atom.IsDerived (.date t) := by
  have lower : Time.Date.firstDay 1 * Time.secondsPerDay = -62135596800 := by decide
  have upper : Time.Date.firstDay 10000 * Time.secondsPerDay = 253402300800 := by decide
  apply Atom.IsDerived.date
  · rw [Time.Instant.le_year]
    omega
  · have before : ¬10000 ≤ t.clock.date.year := by
      rw [Time.Instant.le_year]
      omega
    omega

theorem timestampAtom_returns (path : String) (fields : List Field) :
    Returns (timestampAtom path fields) Atom.IsDerived := by
  unfold timestampAtom
  cases read : timestampInstant fields with
  | error fault => exact returns_throw _
  | ok t =>
    apply returns_pure
    obtain ⟨fits, found⟩ := timestampInstant_eq_ok.mp read
    rw [instantOf?, Time.Instant.of?, dif_pos fits.isInstant] at found
    cases found
    exact isDerived_date fits.seconds_range.1 fits.seconds_range.2

theorem addColumns_returns (policy : UnsupportedFields) (count : Nat) {cs : List (String × List Atom)}
    (hcs : ∀ c ∈ cs, ∀ a ∈ c.2, a.IsDerived) (h : Derived facts) :
    Returns (addColumns policy count cs facts) Derived := by
  induction cs generalizing facts with
  | nil => exact returns_pure h
  | cons c cs ih =>
    obtain ⟨hc, hcs⟩ := List.forall_mem_cons.mp hcs
    unfold addColumns
    by_cases short : c.2.length ≠ count
    · simp only [if_pos short]
      cases policy with
      | reject => exact returns_throw _
      | drop =>
        apply (returns_any _).bind
        intro _ _
        exact ih hcs h
    · simp only [if_neg short]
      apply (addFact_returns c.1 (.list hc) h).bind
      intro facts' h'
      exact ih hcs h'

theorem columns_derived (dropped : List String) {elements : List FactSet}
    (h : ∀ m ∈ elements, Derived m) : (columns dropped elements).All fun atoms => ∀ a ∈ atoms, a.IsDerived := by
  have entries : ∀ e ∈ elements.flatMap StringMap.entries, e.2.IsDerived := by
    intro e he
    obtain ⟨m, hm, he⟩ := List.mem_flatMap.mp he
    exact (h m hm).of_mem he
  unfold columns
  -- each step puts one atom at the end of a column
  apply List.foldlRecOn
  · exact StringMap.all_empty
  · intro m hm e he
    by_cases gone : dropped.any (isUnder e.1) = true
    · simp only [if_pos gone]
      exact hm
    · simp only [if_neg gone]
      apply hm.set
      cases column : m.get? e.1 with
      | none => simp [entries e he]
      | some atoms =>
        have := hm e.1 atoms column
        simp only [Option.getD_some, List.forall_mem_append, List.forall_mem_singleton]
        exact ⟨this, entries e he⟩

/-! ## Whole messages -/

-- Along the recursion of the walks.
mutual

theorem fieldsFacts_returns (policy : UnsupportedFields) (message above : String) :
    (fields : List Field) → {facts : FactSet} → Derived facts →
      Returns (fieldsFacts policy message above fields facts) Derived
  | [], facts, h => by
    simp only [fieldsFacts]
    exact returns_pure h
  | f :: fields, facts, h => by
    simp only [fieldsFacts]
    have own := fieldFacts_returns policy (joinPath above f.name) f
    apply (own.orDrop StringMap.all_empty policy message (joinPath above f.name)).bind
    intro own hown
    apply (addFacts_returns (fun e he => hown.of_mem he) h).bind
    intro facts' h'
    exact fieldsFacts_returns policy message above fields h'

theorem fieldFacts_returns (policy : UnsupportedFields) (path : String) : (f : Field) →
    Returns (fieldFacts policy path f) Derived
  | .mk name kind content => by
    simp only [fieldFacts]
    by_cases unsupported : isUnsupported kind = true
    · rw [if_pos unsupported]
      exact returns_throw _
    · rw [if_neg unsupported]
      exact contentFacts_returns policy path kind content

theorem contentFacts_returns (policy : UnsupportedFields) (path : String) (kind : FieldKind) :
    (content : FieldContent) → Returns (contentFacts policy path kind content) Derived
  | .unset => by
    simp only [contentFacts]
    exact returns_pure StringMap.all_empty
  | .single value => by
    simp only [contentFacts]
    exact valueFacts_returns policy path kind value StringMap.all_empty
  | .repeated values => by
    simp only [contentFacts]
    by_cases messages : kind = .message
    · rw [if_pos messages]
      apply (elementsFacts_returns policy path values).withOwnDropped.bind
      intro r hr
      have columns := columns_derived r.2 hr
      exact addColumns_returns policy values.length (fun c hc => columns.of_mem hc) StringMap.all_empty
    · rw [if_neg messages]
      apply (Returns.mapM (leafAtom_returns path kind)).bind
      intro atoms hatoms
      exact addFact_returns path (.list hatoms) StringMap.all_empty
  | .map entries => by
    simp only [contentFacts]
    exact entriesFacts_returns policy path kind entries StringMap.all_empty

theorem valueFacts_returns (policy : UnsupportedFields) (path : String) (declared : FieldKind) :
    (value : FieldValue) → {facts : FactSet} → Derived facts →
      Returns (valueFacts policy path declared value facts) Derived
  | .scalar s, facts, h => by
    simp only [valueFacts]
    apply (scalarAtom_returns path declared s).bind
    intro a ha
    exact addFact_returns path ha h
  | .message name fields, facts, h => by
    simp only [valueFacts]
    by_cases other : declared ≠ .message
    · rw [if_pos other]
      exact returns_throw _
    · rw [if_neg other]
      by_cases timestamp : name = timestampName
      · rw [if_pos timestamp]
        apply (timestampAtom_returns path fields).bind
        intro a ha
        exact addFact_returns path ha h
      · rw [if_neg timestamp]
        exact fieldsFacts_returns policy name path fields h

theorem elementsFacts_returns (policy : UnsupportedFields) (path : String) : (values : List FieldValue) →
    Returns (elementsFacts policy path values) fun elements => ∀ m ∈ elements, Derived m
  | [] => by
    simp only [elementsFacts]
    exact returns_pure (by simp)
  | value :: values => by
    simp only [elementsFacts]
    apply (valueFacts_returns policy path .message value StringMap.all_empty).bind
    intro first hfirst
    apply (elementsFacts_returns policy path values).bind
    intro elements helements
    exact returns_pure (List.forall_mem_cons.mpr ⟨hfirst, helements⟩)

theorem entriesFacts_returns (policy : UnsupportedFields) (path : String) (kind : FieldKind) :
    (entries : List (MapKey × FieldValue)) → {facts : FactSet} → Derived facts →
      Returns (entriesFacts policy path kind entries facts) Derived
  | [], facts, h => by
    simp only [entriesFacts]
    exact returns_pure h
  | (key, value) :: entries, facts, h => by
    simp only [entriesFacts]
    apply (valueFacts_returns policy (path ++ "." ++ key.text) kind value h).bind
    intro facts' h'
    exact entriesFacts_returns policy path kind entries h'

end

/-- All atoms that a message is turned into are derived ones. -/
theorem flatten_derived {policy : UnsupportedFields} {m : Message} {warnings : List DropWarning}
    (h : m.flatten policy = (.ok facts, warnings)) : Derived facts := by
  unfold flatten at h
  cases run : (fieldsFacts policy m.name "" m.fields .empty).run {} with
  | mk result trail =>
    simp only [run, Prod.mk.injEq] at h
    rw [h.1] at run
    exact (fieldsFacts_returns policy m.name "" m.fields StringMap.all_empty).holds run

end Message

theorem Authorizer.facts_ambient {κ : Type} {a : Authorizer κ} {method : String} {request : Option Message}
    {facts : List Fact} {warnings : List DropWarning} (h : a.facts method request = (.ok facts, warnings)) :
    ∀ f ∈ facts, f.IsAmbient := by
  unfold Authorizer.facts at h
  cases request with
  | none =>
    cases h
    exact List.forall_mem_singleton.mpr (.method method)
  | some m =>
    cases flat : m.flatten a.unsupportedFields with
    | mk result ws =>
      simp only [flat] at h
      cases result with
      | error e => cases h
      | ok fields =>
        cases h
        refine List.forall_mem_cons.mpr ⟨.method method, ?_⟩
        intro f hf
        obtain ⟨e, he, rfl⟩ := List.mem_map.mp hf
        exact .argument e.1 ((Message.flatten_derived flat).of_mem he)

end PolicyGate
