import PolicyGate.Proofs.Message.Columns
import PolicyGate.Proofs.Message.Values

/-!
# Exact flattening

When no field may be dropped, each walk of a message adds the leaves of what it walks over, and fails
just when something in it has no exact form or two leaves have one path. The proofs follow the recursion
of the walks; `flatten_reject` is the result for a whole message.
-/

namespace PolicyGate.Message

open Data (StringMap)

/-! ## Putting walks together -/

section
variable {facts : FactSet} {ok ok' : Prop} {es fs : List (String × Atom)}

theorem adds_throw (e : FlattenError) (h : ¬ok) : Adds (throw e) facts ok es := by
  refine (yields_throw e).congr fun facts' => ?_
  simp [h]

theorem Adds.merge {w : Walk FactSet} {next : FactSet → Walk FactSet} (hw : Adds w .empty ok es)
    (hnext : ∀ m, Adds (next m) m ok' fs) :
    Adds (w >>= fun own => addFacts own.entries facts >>= next) facts (ok ∧ ok') (es ++ fs) := by
  refine (Yields.bind hw fun own _ => (adds_facts own.entries facts).bind hnext).congr fun facts' => ?_
  rw [← exists_own]
  constructor
  · rintro ⟨own, ⟨ho, hown⟩, ⟨-, ho'⟩, h⟩
    exact ⟨⟨ho, ho'⟩, own, hown, h⟩
  · rintro ⟨⟨ho, ho'⟩, own, hown, h⟩
    exact ⟨own, ⟨ho, hown⟩, ⟨trivial, ho'⟩, h⟩

theorem addColumns_adds (count : Nat) (cs : List (String × List Atom)) (facts : FactSet) :
    Adds (addColumns .reject count cs facts) facts (∀ column ∈ cs, column.2.length = count)
      (cs.map fun column => (column.1, .list column.2)) := by
  induction cs generalizing facts with
  | nil => exact (adds_nothing facts).congr (by simp)
  | cons column cs ih =>
    obtain ⟨path, atoms⟩ := column
    unfold addColumns
    by_cases hl : atoms.length = count
    · rw [if_neg (not_not_intro hl)]
      exact ((adds_fact path (.list atoms) facts).bind ih).congr (by simp [hl])
    · rw [if_pos hl]
      exact adds_throw _ fun h => hl (h _ List.mem_cons_self)

theorem Yields.adds_list {w : Walk (List Atom)} {atoms : List Atom}
    (h : Yields w fun found => ok ∧ found = atoms) (path : String) :
    Adds (w >>= fun found => addFact path (.list found) .empty) .empty ok [(path, .list atoms)] := by
  refine (h.bind fun found _ => Message.adds_fact path (.list found) .empty).congr fun facts => ?_
  constructor
  · rintro ⟨found, ⟨ho, rfl⟩, -, h⟩
    exact ⟨ho, h⟩
  · rintro ⟨ho, h⟩
    exact ⟨atoms, ⟨ho, rfl⟩, trivial, h⟩

theorem columns_adds {w : Walk (List FactSet)} {leaves : List (List (String × Atom))} {count : Nat}
    (hc : leaves.length = count) (hw : Yields w fun elements => ok ∧ Hold elements leaves) :
    Adds
      (withOwnDropped w >>= fun r => addColumns .reject count (columns r.2 r.1).entries .empty)
      .empty (ok ∧ Aligned leaves) (columnsOf leaves) := by
  subst hc
  have added : ∀ r : List FactSet × List String, (ok ∧ Hold r.1 leaves) ∧ r.2 = [] →
      Adds (addColumns .reject leaves.length (columns r.2 r.1).entries .empty) .empty (Aligned leaves)
        (columnsOf leaves) := by
    rintro ⟨elements, dropped⟩ ⟨⟨-, hold⟩, rfl⟩
    refine Yields.congr (addColumns_adds leaves.length _ .empty) fun facts => ?_
    rw [columns_complete_iff hold]
    refine and_congr_right fun aligned => ?_
    have same := (columns_perm hold aligned).append_left StringMap.empty.entries
    exact ⟨fun h => h.trans same, fun h => h.trans same.symm⟩
  -- conversely, aligned leaves are those of some elements
  refine (hw.withOwnDropped.bind added).congr fun facts => ?_
  constructor
  · rintro ⟨r, ⟨⟨ho, -⟩, -⟩, aligned, h⟩
    exact ⟨⟨ho, aligned⟩, h⟩
  · rintro ⟨⟨ho, aligned⟩, h⟩
    obtain ⟨elements, hold⟩ := exists_hold aligned.distinct
    exact ⟨(elements, []), ⟨⟨ho, hold⟩, rfl⟩, aligned, h⟩

end

/-! ## Names and paths -/

theorem dotted_ne_empty (path name : String) : path ++ "." ++ name ≠ "" := by
  intro h
  have lengths := congrArg String.length h
  simp only [String.length_append, String.length_empty] at lengths
  have dot : ".".length = 1 := rfl
  omega

theorem pathOf_ne_empty (above : Option String) {name : String} (hn : name ≠ "") :
    pathOf above name ≠ "" := by
  cases above with
  | none => exact hn
  | some path => exact dotted_ne_empty path name

theorem joinPath_eq {above : Option String} (ha : above ≠ some "") (name : String) :
    joinPath (above.getD "") name = pathOf above name := by
  cases above with
  | none => rfl
  | some path => exact if_neg fun h => ha (congrArg some h)

def NamedBelow (path : String) (value : FieldValue) : Prop :=
  ∀ p f, ReachesFrom path value p f → f.name ≠ ""

def HoldsExactly (path : String) (kind : FieldKind) (value : FieldValue) : Prop :=
  (value.kind = kind ∧ value.IsExact) ∧ ∀ p f, ReachesFrom path value p f → f.IsExact p

theorem holdsExactly_scalar (path : String) (kind : FieldKind) (s : Scalar) :
    HoldsExactly path kind (.scalar s) ↔ (s.kind = kind ∧ s.IsExact) ∧ s.atom?.isSome = true := by
  constructor
  · intro h
    exact ⟨h.1, Scalar.isSome_atom? h.1.2⟩
  · intro h
    exact ⟨h.1, fun p f below => below.elim⟩

theorem holdsExactly_timestamp (path : String) (fields : List Field) :
    HoldsExactly path .message (.message timestampName fields) ↔
      IsTimestamp fields ∧ ((instantOf? fields).map Atom.date).isSome = true := by
  rw [Option.isSome_map]
  constructor
  · intro h
    have exact : IsTimestamp fields := h.1.2 rfl
    exact ⟨exact, isSome_instantOf? exact⟩
  · intro h
    exact ⟨⟨rfl, fun _ => h.1⟩, fun p f below => absurd rfl below.1⟩

theorem holdsExactly_message {name : String} (hn : name ≠ timestampName) (path : String)
    (fields : List Field) :
    HoldsExactly path .message (.message name fields) ↔
      ∀ p f, Reaches (some path) fields p f → f.IsExact p := by
  constructor
  · intro h p f inside
    exact h.2 p f ⟨hn, inside⟩
  · intro h
    exact ⟨⟨rfl, fun e => absurd e hn⟩, fun p f below => h p f below.2⟩

theorem holdsExactly_iff_of_ne {kind : FieldKind} (hk : kind ≠ .message) (path : String)
    (value : FieldValue) : HoldsExactly path kind value ↔ value.kind = kind ∧ value.IsExact := by
  constructor
  · exact fun h => h.1
  · intro h
    refine ⟨h, fun p f below => ?_⟩
    cases value with
    | scalar s => exact below.elim
    | message name fields => exact absurd h.1.symm hk

theorem isExact_iff {path name : String} {kind : FieldKind} {content : FieldContent}
    (supported : kind ≠ .float ∧ kind ≠ .double ∧ kind ≠ .group) :
    ((∀ value ∈ content.values path, HoldsExactly value.1 kind value.2) ∧
        ∀ values, kind = .message → content = .repeated values → Aligned (elementsLeaves path values)) ↔
      (Field.mk name kind content).IsExact path ∧
        ∀ value ∈ content.values path, ∀ p f, ReachesFrom value.1 value.2 p f → f.IsExact p := by
  constructor
  · rintro ⟨held, aligned⟩
    exact ⟨⟨supported, fun value hv => (held value hv).1, aligned⟩, fun value hv => (held value hv).2⟩
  · rintro ⟨⟨_, held, aligned⟩, below⟩
    exact ⟨fun value hv => ⟨held value hv, below value hv⟩, aligned⟩

theorem length_elementsLeaves (path : String) (values : List FieldValue) :
    (elementsLeaves path values).length = values.length := by
  induction values with
  | nil => simp [elementsLeaves]
  | cons value values ih => simp [elementsLeaves, ih]

theorem isUnsupported_eq_false {kind : FieldKind} :
    isUnsupported kind = false ↔ kind ≠ .float ∧ kind ≠ .double ∧ kind ≠ .group := by
  simp [isUnsupported, and_assoc]

/-! ## The walks -/

-- Along the recursion of the walks; paths below the top are never empty, so joining them puts a dot.
mutual

theorem fieldsFacts_adds (message : String) {above : Option String} (ha : above ≠ some "") :
    (fields : List Field) → (∀ p f, Reaches above fields p f → f.name ≠ "") → (facts : FactSet) →
    Adds (fieldsFacts .reject message (above.getD "") fields facts) facts
      (∀ p f, Reaches above fields p f → f.IsExact p) (fieldsLeaves above fields)
  | [], _, facts => by
    simp only [fieldsFacts, fieldsLeaves]
    exact (adds_nothing facts).congr ⟨fun _ p f h => absurd h not_reaches_nil, fun _ => trivial⟩
  | f :: fields, named, facts => by
    obtain ⟨⟨here, below⟩, later⟩ := forall_reaches_cons.mp named
    have own := fieldFacts_adds (pathOf_ne_empty above here) f below
    have rest := fieldsFacts_adds message ha fields later
    simp only [fieldsFacts, fieldsLeaves, joinPath_eq ha]
    rw [forall_reaches_cons]
    exact Adds.merge (Yields.orDrop own message _) rest

theorem fieldFacts_adds {path : String} (hp : path ≠ "") :
    (f : Field) → (∀ value ∈ f.content.values path, NamedBelow value.1 value.2) →
    Adds (fieldFacts .reject path f) .empty
      (f.IsExact path ∧
        ∀ value ∈ f.content.values path, ∀ p g, ReachesFrom value.1 value.2 p g → g.IsExact p)
      (fieldLeaves path f)
  | .mk name kind content, named => by
    simp only [fieldFacts, fieldLeaves]
    by_cases supported : kind ≠ .float ∧ kind ≠ .double ∧ kind ≠ .group
    · rw [isUnsupported_eq_false.mpr supported, if_neg Bool.false_ne_true]
      exact (contentFacts_adds hp kind content named).congr (isExact_iff supported)
    · rw [if_pos (by simpa using fun h => supported (isUnsupported_eq_false.mp h))]
      exact adds_throw _ fun h => supported h.1.supported

theorem contentFacts_adds {path : String} (hp : path ≠ "") (kind : FieldKind) :
    (content : FieldContent) → (∀ value ∈ content.values path, NamedBelow value.1 value.2) →
    Adds (contentFacts .reject path kind content) .empty
      ((∀ value ∈ content.values path, HoldsExactly value.1 kind value.2) ∧
        ∀ values, kind = .message → content = .repeated values → Aligned (elementsLeaves path values))
      (contentLeaves path kind content)
  | .unset, _ => by
    simp only [contentFacts, contentLeaves]
    exact (adds_nothing .empty).congr (by simp [FieldContent.values])
  | .single value, named => by
    simp only [contentFacts, contentLeaves]
    have held := valueFacts_adds hp kind value (named _ (List.mem_singleton_self _)) .empty
    exact held.congr (by simp [FieldContent.values])
  | .repeated values, named => by
    simp only [contentFacts, contentLeaves]
    by_cases hk : kind = .message
    · rw [if_pos hk, if_pos hk]
      have held := elementsFacts_yields hp values fun value hv => named _ (List.mem_map_of_mem hv)
      refine (columns_adds (length_elementsLeaves path values) held).congr ?_
      simp [FieldContent.values, hk]
    · rw [if_neg hk, if_neg hk]
      refine (Yields.adds_list (leafAtoms_yield hk path values) path).congr ?_
      simp [FieldContent.values, hk, holdsExactly_iff_of_ne hk]
  | .map entries, named => by
    simp only [contentFacts, contentLeaves]
    have inner : ∀ entry ∈ entries, NamedBelow (path ++ "." ++ entry.1.text) entry.2 :=
      fun entry he => named _ (List.mem_map_of_mem he)
    have held := entriesFacts_adds path kind entries inner .empty
    refine held.congr ?_
    rw [FieldContent.values, List.forall_mem_map]
    simp

theorem valueFacts_adds {path : String} (hp : path ≠ "") (declared : FieldKind) :
    (value : FieldValue) → NamedBelow path value → (facts : FactSet) →
    Adds (valueFacts .reject path declared value facts) facts (HoldsExactly path declared value)
      (valueLeaves path value)
  | .scalar s, _, facts => by
    simp only [valueFacts, valueLeaves, holdsExactly_scalar]
    exact Yields.adds_fact (scalarAtom_yields path declared s) path facts
  | .message name fields, named, facts => by
    simp only [valueFacts, valueLeaves]
    by_cases hd : declared = .message
    · rw [if_neg (not_not_intro hd), hd]
      by_cases hn : name = timestampName
      · rw [if_pos hn, if_pos hn, hn, holdsExactly_timestamp]
        exact Yields.adds_fact (timestampAtom_yields path fields) path facts
      · rw [if_neg hn, if_neg hn, holdsExactly_message hn]
        have above : some path ≠ some "" := fun h => hp (Option.some.inj h)
        exact fieldsFacts_adds name above fields (fun p f h => named p f ⟨hn, h⟩) facts
    · rw [if_pos hd]
      exact adds_throw _ fun h => hd h.1.1.symm

theorem elementsFacts_yields {path : String} (hp : path ≠ "") :
    (values : List FieldValue) → (∀ value ∈ values, NamedBelow path value) →
    Yields (elementsFacts .reject path values) fun elements =>
      (∀ value ∈ values, HoldsExactly path .message value) ∧ Hold elements (elementsLeaves path values)
  | [], _ => by
    simp only [elementsFacts, elementsLeaves]
    exact (yields_pure []).congr fun elements => by simp
  | value :: values, named => by
    obtain ⟨here, later⟩ := List.forall_mem_cons.mp named
    have first := valueFacts_adds hp .message value here .empty
    have rest := elementsFacts_yields hp values later
    simp only [elementsFacts, elementsLeaves]
    have both := Yields.bind first fun m _ => rest.bind fun ms _ => yields_pure (m :: ms)
    refine both.congr fun elements => ?_
    rw [List.forall_mem_cons]
    constructor
    · rintro ⟨m, ⟨hv, hm⟩, ms, ⟨hvs, hms⟩, rfl⟩
      exact ⟨⟨hv, hvs⟩, .cons hm hms⟩
    · rintro ⟨⟨hv, hvs⟩, _ | ⟨hm, hms⟩⟩
      exact ⟨_, ⟨hv, hm⟩, _, ⟨hvs, hms⟩, rfl⟩

theorem entriesFacts_adds (path : String) (kind : FieldKind) :
    (entries : List (MapKey × FieldValue)) →
    (∀ entry ∈ entries, NamedBelow (path ++ "." ++ entry.1.text) entry.2) → (facts : FactSet) →
    Adds (entriesFacts .reject path kind entries facts) facts
      (∀ entry ∈ entries, HoldsExactly (path ++ "." ++ entry.1.text) kind entry.2)
      (entriesLeaves path entries)
  | [], _, facts => by
    simp only [entriesFacts, entriesLeaves]
    exact (adds_nothing facts).congr (by simp)
  | (key, value) :: entries, named, facts => by
    obtain ⟨here, later⟩ := List.forall_mem_cons.mp named
    have first := valueFacts_adds (dotted_ne_empty path key.text) kind value here facts
    have rest := entriesFacts_adds path kind entries later
    simp only [entriesFacts, entriesLeaves]
    exact (first.bind rest).congr (by simp)

end

/-! ## Whole messages -/

theorem flatten_reject_eq_ok {m : Message} (named : m.IsNamed) {facts : FactSet} :
    (flatten .reject m).1 = .ok facts ↔ m.IsExact ∧ facts.entries.Perm m.leaves := by
  have top : (none : Option String) ≠ some "" := fun h => by cases h
  have walk := fieldsFacts_adds m.name top m.fields named .empty {} facts
  constructor
  · intro h
    exact ((walk _).mp (Prod.ext h rfl)).1
  · intro h
    exact congrArg Prod.fst ((walk {}).mpr ⟨h, rfl⟩)

/-- A message is flattened just when all it reaches is exact and no two of its leaves have one path;
then the facts are its leaves. -/
theorem flatten_reject (m : Message) (named : m.IsNamed) :
    ((∃ facts, (flatten .reject m).1 = .ok facts) ↔ m.IsExact ∧ (paths m.leaves).Nodup) ∧
      ∀ facts, (flatten .reject m).1 = .ok facts → facts.entries.Perm m.leaves := by
  simp only [flatten_reject_eq_ok named]
  refine ⟨⟨?_, ?_⟩, fun facts h => h.2⟩
  · rintro ⟨facts, exact, h⟩
    exact ⟨exact, (StringMap.Perm.keys h).nodup_iff.mp facts.nodup_keys⟩
  · rintro ⟨exact, nodup⟩
    obtain ⟨facts, h⟩ := StringMap.exists_entries nodup
    exact ⟨facts, exact, h⟩

def transfer : Message where
  name := "payments.Transfer"
  fields := [
    .single "amount" .uint64 (.scalar (.uint64 5)),
    .mk "lines" .message (.repeated [
      .message "payments.Line" [.single "to" .string (.scalar (.string "ann"))],
      .message "payments.Line" [.single "to" .string (.scalar (.string "bob"))]]),
    .mk "labels" .string (.map [(.string "team", .scalar (.string "ops"))]),
    .mk "flags" .bool (.repeated []),
    .single "at" .message (.message timestampName [.single "seconds" .int64 (.scalar (.int64 60))])]

theorem flatten_reject_transfer :
    transfer.IsNamed ∧ ∃ facts, (flatten .reject transfer).1 = .ok facts ∧
      facts.entries.Perm [
        ("amount", .integer 5), ("lines.to", .list [.string "ann", .string "bob"]),
        ("labels.team", .string "ops"), ("flags", .list []), ("at", .date ⟨60, 0, by decide⟩)] := by
  have named : transfer.IsNamed := by
    unfold Message.IsNamed transfer
    simp [forall_reaches_cons, not_reaches_nil, ReachesFrom, FieldContent.values, Field.single,
      Field.name, Field.content, timestampName]
  obtain ⟨facts, run⟩ : ∃ facts, (flatten .reject transfer).1 = .ok facts := ⟨_, rfl⟩
  exact ⟨named, facts, run, (flatten_reject transfer named).2 facts run⟩

end PolicyGate.Message
