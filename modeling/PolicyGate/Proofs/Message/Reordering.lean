import Mathlib.Data.List.Perm.Basic
import PolicyGate.Proofs.Message.Outcomes

/-!
# The order of map entries

Maps have no order, but a walk has to visit their entries in some order and stops at the first that
fails. `flatten_reorders` says that the order does not matter, under either policy, in a message whose
values have their declared kinds and whose map keys read differently. A map of scalars fails in one sort
of way only (`Plain`); a map of messages brings the sum of the gains of its entries.
-/

namespace PolicyGate

open Data (StringMap)
open Message

/-! ## Reordering -/

mutual

/-- The values are equal up to the order of the entries of the maps in them. -/
inductive ValueReorders : FieldValue → FieldValue → Prop
  | scalar {s : Scalar} : ValueReorders (.scalar s) (.scalar s)
  | message {name : String} {fields fields' : List Field} (inside : FieldsReorder fields fields') :
      ValueReorders (.message name fields) (.message name fields')

inductive FieldsReorder : List Field → List Field → Prop
  | nil : FieldsReorder [] []
  | cons {name : String} {kind : FieldKind} {content content' : FieldContent} {fields fields' : List Field}
      (first : ContentReorders content content') (rest : FieldsReorder fields fields') :
      FieldsReorder (.mk name kind content :: fields) (.mk name kind content' :: fields')

inductive ContentReorders : FieldContent → FieldContent → Prop
  | unset : ContentReorders .unset .unset
  | single {value value' : FieldValue} (inside : ValueReorders value value') :
      ContentReorders (.single value) (.single value')
  | «repeated» {values values' : List FieldValue} (inside : ElementsReorder values values') :
      ContentReorders (.repeated values) (.repeated values')
  | map {entries middle entries' : List (MapKey × FieldValue)} (inside : EntriesReorder entries middle)
      (order : middle.Perm entries') : ContentReorders (.map entries) (.map entries')

inductive ElementsReorder : List FieldValue → List FieldValue → Prop
  | nil : ElementsReorder [] []
  | cons {value value' : FieldValue} {values values' : List FieldValue} (first : ValueReorders value value')
      (rest : ElementsReorder values values') : ElementsReorder (value :: values) (value' :: values')

/-- The entries stand in the same order, but inside them the order may differ. -/
inductive EntriesReorder : List (MapKey × FieldValue) → List (MapKey × FieldValue) → Prop
  | nil : EntriesReorder [] []
  | cons {key : MapKey} {value value' : FieldValue} {entries entries' : List (MapKey × FieldValue)}
      (first : ValueReorders value value') (rest : EntriesReorder entries entries') :
      EntriesReorder ((key, value) :: entries) ((key, value') :: entries')

end

structure Message.Reorders (m m' : Message) : Prop where
  name : m.name = m'.name
  fields : FieldsReorder m.fields m'.fields

/-! ## Regular messages -/

/-- The values of a field have its declared kind, and the keys of a map read differently. -/
structure Field.IsRegular (f : Field) : Prop where
  kinds : ∀ path, ∀ held ∈ f.content.values path, held.2.kind = f.kind
  keys : ∀ entries, f.content = .map entries → (entries.map fun entry => entry.1.text).Nodup

theorem isRegular_map {name : String} {kind : FieldKind} {entries : List (MapKey × FieldValue)} :
    (Field.mk name kind (.map entries)).IsRegular ↔
      (∀ entry ∈ entries, entry.2.kind = kind) ∧ (entries.map fun entry => entry.1.text).Nodup := by
  constructor
  · intro h
    exact ⟨List.forall_mem_map.mp (h.kinds ""), h.keys entries rfl⟩
  · rintro ⟨kinds, keys⟩
    refine ⟨fun path => List.forall_mem_map.mpr kinds, fun entries' h => ?_⟩
    cases h
    exact keys

def Message.IsRegular (m : Message) : Prop :=
  ∀ path f, Reaches none m.fields path f → f.IsRegular

namespace Message

def RegularBelow (root : String) (value : FieldValue) : Prop :=
  ∀ p f, ReachesFrom root value p f → f.IsRegular

/-! ## What reordering leaves as it is -/

theorem ValueReorders.eq_of_kind {value value' : FieldValue} (hk : value.kind ≠ .message)
    (h : ValueReorders value value') : value' = value := by
  cases h with
  | scalar => rfl
  | message inside => exact absurd rfl hk

theorem elements_eq_of_kind {values values' : List FieldValue}
    (hk : ∀ value ∈ values, value.kind ≠ .message) (h : ElementsReorder values values') :
    values' = values := by
  induction values generalizing values' with
  | nil =>
    cases h
    rfl
  | cons value values ih =>
    obtain ⟨here, later⟩ := List.forall_mem_cons.mp hk
    cases h with
    | cons first rest => rw [ValueReorders.eq_of_kind here first, ih later rest]

theorem entries_eq_of_kind {entries entries' : List (MapKey × FieldValue)}
    (hk : ∀ entry ∈ entries, entry.2.kind ≠ .message) (h : EntriesReorder entries entries') :
    entries' = entries := by
  induction entries generalizing entries' with
  | nil =>
    cases h
    rfl
  | cons entry entries ih =>
    obtain ⟨here, later⟩ := List.forall_mem_cons.mp hk
    cases h with
    | cons first rest => rw [ValueReorders.eq_of_kind here first, ih later rest]

theorem length_of_elementsReorder {values values' : List FieldValue} (h : ElementsReorder values values') :
    values'.length = values.length := by
  induction values generalizing values' with
  | nil =>
    cases h
    rfl
  | cons value values ih =>
    cases h with
    | cons first rest => rw [List.length_cons, List.length_cons, ih rest]

/-- A timestamp has no maps where its seconds and nanoseconds are. -/
theorem timestampParts_reorder {fields fields' : List Field} (h : FieldsReorder fields fields')
    (seconds : Int64) (nanos : Int32) :
    timestampParts seconds nanos fields' = timestampParts seconds nanos fields := by
  induction fields generalizing fields' seconds nanos with
  | nil =>
    cases h
    rfl
  | cons f fields ih =>
    cases h with
    | cons first rest =>
      simp only [timestampParts, ih rest]
      cases first with
      | single inside => cases inside <;> rfl
      | _ => rfl

theorem timestampAtom_reorder (path : String) {fields fields' : List Field}
    (h : FieldsReorder fields fields') : timestampAtom path fields' = timestampAtom path fields := by
  unfold timestampAtom timestampInstant
  rw [timestampParts_reorder h]

/-! ## Scalars -/

section
variable {kind : FieldKind} {unsupported : Prop}

/-- Among the scalars of a kind that is supported, it is large unsigned numbers that have no exact
form. -/
theorem scalarAtom_plain {s : Scalar} (hs : s.kind = kind) (supported : isUnsupported kind = false)
    (path : String) :
    Plain (scalarAtom path kind s) (fun a => s.IsExact ∧ s.atom? = some a) (kind = .uint64) where
  yields := by
    refine (scalarAtom_yields path kind s).congr fun a => ?_
    simp [hs]
  still := still_scalarAtom path kind s
  sort {t e t'} run := by
    subst hs
    unfold scalarAtom at run
    rw [if_neg (not_not_intro rfl)] at run
    cases s with
    | uint64 n =>
      by_cases hn : (n.toNat : Int) ≤ Int64.maxValue.toInt
      · simp only [if_pos hn] at run
        cases run
      · simp only [if_neg hn] at run
        cases run
        simp [Scalar.kind]
    | enum number name =>
      cases name with
      | none =>
        cases run
        simp [Scalar.kind]
      | some name => cases run
    | float | double | group => cases supported
    | _ => cases run

theorem leafAtom_plain {value : FieldValue} (hv : value.kind = kind) (hk : kind ≠ .message)
    (supported : isUnsupported kind = false) (path : String) :
    Plain (leafAtom path kind value) (fun a => value.IsExact ∧ value.atom? = some a)
      (kind = .uint64) := by
  cases value with
  | scalar s => exact scalarAtom_plain hv supported path
  | message name fields => exact absurd hv.symm hk

theorem addFact_plain {path : String} {facts : FactSet} (absent : path ∉ paths facts.entries)
    (atom : Atom) :
    Plain (addFact path atom facts) (fun facts' => facts'.entries.Perm (facts.entries ++ [(path, atom)]))
      unsupported where
  yields := Yields.congr (adds_fact path atom facts) fun _ => by rw [true_and]
  still := still_addFact path atom facts
  sort run := by
    unfold addFact at run
    rw [StringMap.get?_eq_none.mpr absent] at run
    cases run

theorem valueFacts_plain {value : FieldValue} (hv : value.kind = kind) (hk : kind ≠ .message)
    (supported : isUnsupported kind = false) (policy : UnsupportedFields) {path : String} {facts : FactSet}
    (absent : path ∉ paths facts.entries) :
    Plain (valueFacts policy path kind value facts)
      (fun facts' => value.IsExact ∧ facts'.entries.Perm (facts.entries ++ leafAt path value.atom?))
      (kind = .uint64) := by
  cases value with
  | message name fields => exact absurd hv.symm hk
  | scalar s =>
    simp only [valueFacts]
    refine ((scalarAtom_plain hv supported path).bind fun a _ => addFact_plain absent a).congr fun facts' => ?_
    constructor
    · rintro ⟨a, ⟨exact, ha⟩, h⟩
      refine ⟨exact, ?_⟩
      rw [FieldValue.atom?, ha]
      exact h
    · rintro ⟨exact, h⟩
      obtain ⟨a, ha⟩ := Option.isSome_iff_exists.mp (Scalar.isSome_atom? exact)
      rw [FieldValue.atom?, ha] at h
      exact ⟨a, ⟨exact, ha⟩, h⟩

theorem eq_of_mem_leafAt {path p : String} {atom : Option Atom} (h : p ∈ paths (leafAt path atom)) :
    p = path := by
  obtain ⟨leaf, hl, rfl⟩ := List.mem_map.mp h
  obtain ⟨a, -, rfl⟩ := Option.map_eq_some_iff.mp (Option.mem_toList.mp hl)
  rfl

/-- A map of scalars; no path is taken twice, so only a scalar can be at fault. -/
theorem entriesFacts_plain {entries : List (MapKey × FieldValue)}
    (kinds : ∀ entry ∈ entries, entry.2.kind = kind) (hk : kind ≠ .message)
    (supported : isUnsupported kind = false) (policy : UnsupportedFields) {path : String} {facts : FactSet}
    (keys : (entries.map fun entry => entry.1.text).Nodup)
    (absent : ∀ entry ∈ entries, path ++ "." ++ entry.1.text ∉ paths facts.entries) :
    Plain (entriesFacts policy path kind entries facts)
      (fun facts' => (∀ entry ∈ entries, entry.2.IsExact) ∧ facts'.entries.Perm
        (facts.entries ++ entries.flatMap fun entry => leafAt (path ++ "." ++ entry.1.text) entry.2.atom?))
      (kind = .uint64) := by
  induction entries generalizing facts with
  | nil =>
    simp only [entriesFacts]
    refine (plain_pure facts).congr fun facts' => ?_
    rw [List.flatMap_nil, List.append_nil]
    constructor
    · rintro rfl
      exact ⟨by simp, .refl _⟩
    · exact fun h => StringMap.eq_of_perm h.2
  | cons entry entries ih =>
    obtain ⟨here, later⟩ := List.forall_mem_cons.mp kinds
    obtain ⟨hne, keys⟩ := List.nodup_cons.mp keys
    obtain ⟨free, absent⟩ := List.forall_mem_cons.mp absent
    have absent' (m : FactSet) (hm : m.entries.Perm
        (facts.entries ++ leafAt (path ++ "." ++ entry.1.text) entry.2.atom?)) :
        ∀ other ∈ entries, path ++ "." ++ other.1.text ∉ paths m.entries := by
      intro other ho taken
      have taken := (StringMap.Perm.keys hm).subset taken
      rw [StringMap.keys, List.map_append, List.mem_append] at taken
      rcases taken with taken | taken
      · exact absent other ho taken
      · have same : other.1.text = entry.1.text := (String.append_right_inj _).mp (eq_of_mem_leafAt taken)
        exact hne (List.mem_map.mpr ⟨other, ho, same⟩)
    simp only [entriesFacts]
    have first := valueFacts_plain here hk supported policy free
    refine (first.bind fun m hm => ih later keys (absent' m hm.2)).congr fun facts' => ?_
    rw [List.forall_mem_cons, List.flatMap_cons, ← exists_between]
    constructor
    · rintro ⟨m, ⟨exact, hm⟩, exact', h⟩
      exact ⟨⟨exact, exact'⟩, m, hm, h⟩
    · rintro ⟨⟨exact, exact'⟩, m, hm, h⟩
      exact ⟨m, ⟨exact, hm⟩, exact', h⟩

theorem contentFacts_plain {content content' : FieldContent}
    (kinds : ∀ path, ∀ held ∈ content.values path, held.2.kind = kind)
    (keys : ∀ entries, content = .map entries → (entries.map fun entry => entry.1.text).Nodup)
    (h : ContentReorders content content') (hk : kind ≠ .message) (supported : isUnsupported kind = false)
    (policy : UnsupportedFields) (path : String) :
    ∃ P, Plain (contentFacts policy path kind content) P (kind = .uint64) ∧
      Plain (contentFacts policy path kind content') P (kind = .uint64) := by
  have absent (p : String) : p ∉ paths (StringMap.empty : FactSet).entries := List.not_mem_nil
  cases h with
  | unset =>
    simp only [contentFacts]
    exact ⟨_, plain_pure _, plain_pure _⟩
  | single inside =>
    have declared := kinds path _ (List.mem_singleton_self _)
    rw [ValueReorders.eq_of_kind (by rwa [declared]) inside]
    simp only [contentFacts]
    have plain := valueFacts_plain declared hk supported policy (absent path)
    exact ⟨_, plain, plain⟩
  | @«repeated» values values' inside =>
    have declared : ∀ value ∈ values, value.kind = kind := List.forall_mem_map.mp (kinds path)
    rw [elements_eq_of_kind (fun value hv => by rwa [declared value hv]) inside]
    simp only [contentFacts, if_neg hk]
    have plain := (Plain.mapM fun value hv => leafAtom_plain (declared value hv) hk supported path).bind
      fun atoms _ => addFact_plain (absent path) (.list atoms)
    exact ⟨_, plain, plain⟩
  | @map entries middle entries' inside order =>
    have declared : ∀ entry ∈ entries, entry.2.kind = kind := List.forall_mem_map.mp (kinds path)
    rw [entries_eq_of_kind (fun entry he => by rwa [declared entry he]) inside] at order
    simp only [contentFacts]
    have plain := entriesFacts_plain declared hk supported policy (keys entries rfl)
      (fun entry _ => absent (path ++ "." ++ entry.1.text))
    have plain' := entriesFacts_plain (fun entry he => declared entry (order.mem_iff.mpr he)) hk supported
      policy ((order.map _).nodup_iff.mp (keys entries rfl))
      (fun entry _ => absent (path ++ "." ++ entry.1.text))
    refine ⟨_, plain, plain'.congr fun facts => ?_⟩
    have same := (order.flatMap_right fun entry =>
      leafAt (path ++ "." ++ entry.1.text) entry.2.atom?).append_left (StringMap.empty : FactSet).entries
    refine and_congr ?_ ⟨fun h => h.trans same.symm, fun h => h.trans same⟩
    exact forall_congr' fun entry => by rw [order.mem_iff]

end

/-! ## Putting walks together -/

section
variable {policy : UnsupportedFields} {facts : FactSet} {P : FactSet → Prop} {ds : List String}

theorem Draws.merge {w : Walk FactSet} {next : FactSet → Walk FactSet} {ok : Prop}
    {es : List (String × Atom)} {y : Gain} (hw : Draws policy w (fun own => ok ∧ own.entries.Perm es) ds)
    (hnext : ∀ m, Brings policy (next m) m y) :
    Brings policy (w >>= fun own => addFacts own.entries facts >>= next) facts
      (Gain.followedBy ⟨ok, es, ds⟩ y) := by
  have added (own : FactSet) : Brings policy (addFacts own.entries facts >>= next) facts
      (Gain.followedBy ⟨True, own.entries, []⟩ y) :=
    ((adds_facts own.entries facts).brings (settles_addFacts own.entries facts)).bind hnext
  refine (Draws.bind hw fun own _ => added own).congr fun facts' => ?_
  show _ ↔ (ok ∧ y.ok) ∧ facts'.entries.Perm (facts.entries ++ (es ++ y.facts))
  rw [← exists_own]
  constructor
  · rintro ⟨own, ⟨ho, hown⟩, ⟨-, hy⟩, h⟩
    exact ⟨⟨ho, hy⟩, own, hown, h⟩
  · rintro ⟨⟨ho, hy⟩, own, hown, h⟩
    exact ⟨own, ⟨ho, hown⟩, ⟨trivial, hy⟩, h⟩

theorem exists_addColumns_draws (policy : UnsupportedFields) (count : Nat)
    (cs : List (String × List Atom)) (facts : FactSet) :
    ∃ P, Draws policy (addColumns policy count cs facts) P [] := by
  induction cs generalizing facts with
  | nil => exact ⟨_, draws_pure facts⟩
  | cons column cs ih =>
    obtain ⟨path, atoms⟩ := column
    unfold addColumns
    by_cases hl : atoms.length = count
    · rw [if_neg (not_not_intro hl)]
      choose R rest using ih
      have fact : Brings policy (addFact path (.list atoms) facts) facts _ :=
        (adds_fact path (.list atoms) facts).brings (settles_addFact path (.list atoms) facts)
      exact ⟨_, Draws.bind fact fun m _ => rest m⟩
    · rw [if_pos hl]
      cases policy with
      | reject => exact ⟨_, draws_throw fun p kind e => by cases e⟩
      | drop =>
        obtain ⟨P, rest⟩ := ih facts
        exact ⟨_, (draws_warn (.subField path atoms.length count)).bind fun _ _ => rest⟩

theorem columns_dropped_perm {own : List String} (h : own.Perm ds) (elements : List FactSet) :
    columns own elements = columns ds elements := by
  have same (path : String) : own.any (isUnder path) = ds.any (isUnder path) := h.any_eq
  simp only [columns, same]

/-- The columns of elements do not depend on the order in which their paths were dropped. -/
theorem exists_columns_draws {R : List FactSet → Prop} (count : Nat) (ds : List String) :
    ∃ Q, ∀ w, Draws policy w R ds →
      Draws policy
        (withOwnDropped w >>= fun r => addColumns policy count (columns r.2 r.1).entries .empty) Q [] := by
  choose Q columns using fun elements =>
    exists_addColumns_draws policy count (Message.columns ds elements).entries .empty
  refine ⟨_, fun w hw => Draws.ownDropped (R := Q) hw fun elements own _ same => ?_⟩
  rw [columns_dropped_perm same]
  exact columns elements

def EntryBrings (policy : UnsupportedFields) (path : String) (entry : MapKey × FieldValue) (y : Gain) : Prop :=
  ∀ facts, Brings policy (valueFacts policy (path ++ "." ++ entry.1.text) .message entry.2 facts) facts y

theorem entries_bring {path : String} {entries : List (MapKey × FieldValue)} {ys : List Gain}
    (h : List.Forall₂ (EntryBrings policy path) entries ys) (facts : FactSet) :
    Brings policy (entriesFacts policy path .message entries facts) facts (.total ys) := by
  induction h generalizing facts with
  | nil =>
    simp only [entriesFacts]
    exact brings_nothing facts
  | cons first _ ih =>
    simp only [entriesFacts]
    exact (first facts).bind ih

end

/-! ## The walks -/

section
variable (policy : UnsupportedFields)

theorem fieldFacts_alike (message path : String) {name : String} {kind : FieldKind}
    {content content' : FieldContent} (regular : (Field.mk name kind content).IsRegular)
    (h : ContentReorders content content')
    (messages : kind = .message → ∃ P ds, Draws policy (contentFacts policy path .message content) P ds ∧
      Draws policy (contentFacts policy path .message content') P ds) :
    ∃ P ds, Draws policy (orDrop policy message path (fieldFacts policy path (.mk name kind content))) P ds ∧
      Draws policy (orDrop policy message path (fieldFacts policy path (.mk name kind content'))) P ds := by
  simp only [fieldFacts]
  by_cases supported : isUnsupported kind = false
  · rw [supported, if_neg Bool.false_ne_true, if_neg Bool.false_ne_true]
    by_cases hk : kind = .message
    · subst hk
      obtain ⟨P, ds, draws, draws'⟩ := messages rfl
      exact ⟨P, ds, draws.orDrop message path, draws'.orDrop message path⟩
    · obtain ⟨P, plain, plain'⟩ :=
        contentFacts_plain regular.kinds regular.keys h hk supported policy path
      obtain ⟨Q, ds, draws⟩ := Plain.exists_draws policy P (kind = .uint64) message path
      exact ⟨Q, ds, draws _ plain, draws _ plain'⟩
  · rw [if_pos (by simpa using supported), if_pos (by simpa using supported)]
    obtain ⟨Q, ds, draws⟩ := Plain.exists_draws policy (fun _ => False) True message path
    have plain := draws _ (plain_throw (iff_true_intro ⟨path, kind, rfl⟩))
    exact ⟨Q, ds, plain, plain⟩

-- Along the recursion of the walks; paths in the conditions need not be those of the walks.
mutual

theorem fieldsFacts_alike (message path : String) {above : Option String} :
    (fields : List Field) → {fields' : List Field} → FieldsReorder fields fields' →
    (∀ p f, Reaches above fields p f → f.IsRegular) →
    ∃ y, ∀ facts, Brings policy (fieldsFacts policy message path fields facts) facts y ∧
      Brings policy (fieldsFacts policy message path fields' facts) facts y
  | [], _, .nil, _ => by
    simp only [fieldsFacts]
    exact ⟨.nothing, fun facts => ⟨brings_nothing facts, brings_nothing facts⟩⟩
  | .mk name kind content :: fields, _, .cons first rest, regular => by
    obtain ⟨⟨here, below⟩, later⟩ := forall_reaches_cons.mp regular
    obtain ⟨P, ds, own, own'⟩ := fieldFacts_alike policy message (joinPath path name) here first fun hk =>
      contentFacts_alike (joinPath path name) content first (hk ▸ here.kinds) below
    obtain ⟨ok, es, entries⟩ := own.exists_entries
    obtain ⟨y, more⟩ := fieldsFacts_alike message path fields rest later
    simp only [fieldsFacts, Field.name]
    exact ⟨_, fun facts => ⟨Draws.merge (own.congr entries) fun m => (more m).1,
      Draws.merge (own'.congr entries) fun m => (more m).2⟩⟩

theorem contentFacts_alike (path : String) {root : String} :
    (content : FieldContent) → {content' : FieldContent} → ContentReorders content content' →
    (∀ p, ∀ held ∈ content.values p, held.2.kind = .message) →
    (∀ held ∈ content.values root, RegularBelow held.1 held.2) →
    ∃ P ds, Draws policy (contentFacts policy path .message content) P ds ∧
      Draws policy (contentFacts policy path .message content') P ds
  | .unset, _, .unset, _, _ => by
    simp only [contentFacts]
    exact ⟨_, _, draws_pure _, draws_pure _⟩
  | .single value, _, .single inside, kinds, below => by
    obtain ⟨y, held⟩ := valueFacts_alike path value inside (kinds root _ (List.mem_singleton_self _))
      (below _ (List.mem_singleton_self _))
    simp only [contentFacts]
    exact ⟨_, _, (held .empty).1, (held .empty).2⟩
  | .repeated values, _, .repeated inside, kinds, below => by
    have later : ∀ value ∈ values, RegularBelow root value := fun value hv =>
      below _ (List.mem_map_of_mem hv)
    obtain ⟨P, ds, held, held'⟩ := elementsFacts_alike path values inside
      (List.forall_mem_map.mp (kinds root)) later
    obtain ⟨Q, columns⟩ := exists_columns_draws (R := P) values.length ds
    simp only [contentFacts, length_of_elementsReorder inside]
    exact ⟨Q, [], columns _ held, columns _ held'⟩
  | .map entries, _, .map inside order, kinds, below => by
    obtain ⟨ys, held, held'⟩ := entriesFacts_alike path entries inside
      (List.forall_mem_map.mp (kinds root)) (List.forall_mem_map.mp below)
    obtain ⟨ys', held', order'⟩ := List.perm_comp_forall₂ order.symm held'
    simp only [contentFacts]
    exact ⟨_, _, entries_bring held .empty, (entries_bring held' .empty).reorder order'⟩

theorem valueFacts_alike (path : String) {root : String} :
    (value : FieldValue) → {value' : FieldValue} → ValueReorders value value' → value.kind = .message →
    RegularBelow root value →
    ∃ y, ∀ facts, Brings policy (valueFacts policy path .message value facts) facts y ∧
      Brings policy (valueFacts policy path .message value' facts) facts y
  | .scalar s, _, _, hk, _ => by cases s <;> cases hk
  | .message name fields, _, .message inside, _, regular => by
    simp only [valueFacts, ne_eq, not_true_eq_false, if_false]
    by_cases hn : name = timestampName
    · simp only [if_pos hn, timestampAtom_reorder path inside]
      have settles (facts : FactSet) := settles_valueFacts path (.message name fields) facts
      simp only [valueFacts, ne_eq, not_true_eq_false, if_false, if_pos hn] at settles
      have brings (facts : FactSet) : Brings policy _ facts _ :=
        (Yields.adds_fact (timestampAtom_yields path fields) path facts).brings (settles facts)
      exact ⟨_, fun facts => ⟨brings facts, brings facts⟩⟩
    · simp only [if_neg hn]
      exact fieldsFacts_alike name path fields inside fun p f h => regular p f ⟨hn, h⟩

theorem elementsFacts_alike (path : String) {root : String} :
    (values : List FieldValue) → {values' : List FieldValue} → ElementsReorder values values' →
    (∀ value ∈ values, value.kind = .message) → (∀ value ∈ values, RegularBelow root value) →
    ∃ P ds, Draws policy (elementsFacts policy path values) P ds ∧
      Draws policy (elementsFacts policy path values') P ds
  | [], _, .nil, _, _ => by
    simp only [elementsFacts]
    exact ⟨_, _, draws_pure _, draws_pure _⟩
  | value :: values, _, .cons first rest, kinds, below => by
    obtain ⟨hk, kinds⟩ := List.forall_mem_cons.mp kinds
    obtain ⟨here, later⟩ := List.forall_mem_cons.mp below
    obtain ⟨y, held⟩ := valueFacts_alike path value first hk here
    obtain ⟨P, ds, more, more'⟩ := elementsFacts_alike path values rest kinds later
    simp only [elementsFacts]
    exact ⟨_, _, Draws.bind (held .empty).1 fun m _ => more.bind fun ms _ => draws_pure (m :: ms),
      Draws.bind (held .empty).2 fun m _ => more'.bind fun ms _ => draws_pure (m :: ms)⟩

theorem entriesFacts_alike (path : String) {root : String} :
    (entries : List (MapKey × FieldValue)) → {entries' : List (MapKey × FieldValue)} →
    EntriesReorder entries entries' → (∀ entry ∈ entries, entry.2.kind = .message) →
    (∀ entry ∈ entries, RegularBelow (root ++ "." ++ entry.1.text) entry.2) →
    ∃ ys, List.Forall₂ (EntryBrings policy path) entries ys ∧
      List.Forall₂ (EntryBrings policy path) entries' ys
  | [], _, .nil, _, _ => ⟨[], .nil, .nil⟩
  | (key, value) :: entries, _, .cons first rest, kinds, below => by
    obtain ⟨hk, kinds⟩ := List.forall_mem_cons.mp kinds
    obtain ⟨here, later⟩ := List.forall_mem_cons.mp below
    obtain ⟨y, held⟩ := valueFacts_alike (path ++ "." ++ key.text) value first hk here
    obtain ⟨ys, more, more'⟩ := entriesFacts_alike path entries rest kinds later
    exact ⟨y :: ys, .cons (fun facts => (held facts).1) more, .cons (fun facts => (held facts).2) more'⟩

end

end

/-! ## Whole messages -/

theorem Draws.result_flatten {policy : UnsupportedFields} {m : Message} {P : FactSet → Prop}
    {ds : List String} (h : Draws policy (fieldsFacts policy m.name "" m.fields .empty) P ds)
    (facts : FactSet) : (flatten policy m).1 = .ok facts ↔ P facts := by
  rw [← h.result {} facts]
  constructor
  · exact fun run => ⟨_, Prod.ext run rfl⟩
  · rintro ⟨t, run⟩
    exact congrArg Prod.fst run

/-- The order of map entries does not matter: both messages have the same facts, or both have none. -/
theorem flatten_reorders (policy : UnsupportedFields) {m m' : Message} (regular : m.IsRegular)
    (h : m.Reorders m') :
    (∃ facts, (flatten policy m).1 = .ok facts ∧ (flatten policy m').1 = .ok facts) ∨
      ∃ e e', (flatten policy m).1 = .error e ∧ (flatten policy m').1 = .error e' := by
  obtain ⟨y, walks⟩ := fieldsFacts_alike policy m.name "" m.fields h.fields regular
  obtain ⟨walk, walk'⟩ := walks .empty
  rw [h.name] at walk'
  have same (facts : FactSet) : (flatten policy m).1 = .ok facts ↔ (flatten policy m').1 = .ok facts :=
    (Draws.result_flatten walk facts).trans (Draws.result_flatten walk' facts).symm
  cases hr : (flatten policy m).1 with
  | ok facts => exact .inl ⟨facts, rfl, (same facts).mp hr⟩
  | error e =>
    cases hr' : (flatten policy m').1 with
    | ok facts =>
      rw [(same facts).mpr hr'] at hr
      cases hr
    | error e' => exact .inr ⟨e, e', rfl, rfl⟩

def quotas : Message where
  name := "payments.Quotas"
  fields := [.mk "teams" .message (.map [
    (.string "ops", .message "payments.Quota" [
      .mk "limits" .uint64 (.map [(.int 1, .scalar (.uint64 5)), (.int 2, .scalar (.uint64 7))])]),
    (.string "dev", .message "payments.Quota" [
      .mk "limits" .uint64 (.map [
        (.int 1, .scalar (.uint64 9)), (.int 2, .scalar (.uint64 9223372036854775808))])])])]

def quotasReversed : Message where
  name := "payments.Quotas"
  fields := [.mk "teams" .message (.map [
    (.string "dev", .message "payments.Quota" [
      .mk "limits" .uint64 (.map [
        (.int 2, .scalar (.uint64 9223372036854775808)), (.int 1, .scalar (.uint64 9))])]),
    (.string "ops", .message "payments.Quota" [
      .mk "limits" .uint64 (.map [(.int 2, .scalar (.uint64 7)), (.int 1, .scalar (.uint64 5))])])])]

theorem flatten_reorders_quotas :
    quotas.IsRegular ∧ quotas.Reorders quotasReversed ∧
      ∃ facts, (flatten .drop quotas).1 = .ok facts ∧ (flatten .drop quotasReversed).1 = .ok facts := by
  have regular : quotas.IsRegular := by
    unfold Message.IsRegular quotas
    simp [forall_reaches_cons, ReachesFrom, not_reaches_nil, FieldContent.values, Field.content,
      timestampName, isRegular_map, FieldValue.kind, Scalar.kind]
    decide
  have reorders : quotas.Reorders quotasReversed := by
    refine ⟨rfl, .cons (.map (.cons (.message ?_) (.cons (.message ?_) .nil)) (.swap _ _ _)) .nil⟩
    · exact .cons (.map (.cons .scalar (.cons .scalar .nil)) (.swap _ _ _)) .nil
    · exact .cons (.map (.cons .scalar (.cons .scalar .nil)) (.swap _ _ _)) .nil
  refine ⟨regular, reorders, ?_⟩
  rcases flatten_reorders .drop regular reorders with same | ⟨e, _, failed, -⟩
  · exact same
  · cases failed

end Message
end PolicyGate
