import PolicyGate.Proofs.Message.Flattening
import PolicyGate.Proofs.Message.Warnings

/-!
# Exact facts when fields are dropped

Where fields may be dropped, the facts that remain are those that the message holds
(`Message.Holds`): in particular each list has one entry for each element of its field. A leaf whose
path is missing lies at or below a path that was warned of. `flatten_drop` says both for a whole message;
its proof keeps account of facts and warnings (`Accounts`) along the recursion of the walks.
-/

namespace PolicyGate

open Data (StringMap)
open Message

/-! ## What a message holds -/

mutual

/-- The value at `path` holds exactly `atom` at the path `p`. -/
inductive ValueHolds : String → FieldValue → String → Atom → Prop
  | scalar {path : String} {s : Scalar} {atom : Atom} (exact : s.IsExact) (carries : s.atom? = some atom) :
      ValueHolds path (.scalar s) path atom
  | timestamp {path : String} {fields : List Field} {t : Time.Instant} (exact : IsTimestamp fields)
      (carries : instantOf? fields = some t) :
      ValueHolds path (.message timestampName fields) path (.date t)
  | message {path name p : String} {fields : List Field} {f : Field} {atom : Atom}
      (ordinary : name ≠ timestampName) (mem : f ∈ fields)
      (holds : FieldHolds (pathOf (some path) f.name) f p atom) :
      ValueHolds path (.message name fields) p atom

inductive FieldHolds : String → Field → String → Atom → Prop
  | single {path name p : String} {kind : FieldKind} {value : FieldValue} {atom : Atom}
      (declared : value.kind = kind) (holds : ValueHolds path value p atom) :
      FieldHolds path (.mk name kind (.single value)) p atom
  | entry {path name p : String} {kind : FieldKind} {entries : List (MapKey × FieldValue)} {key : MapKey}
      {value : FieldValue} {atom : Atom} (mem : (key, value) ∈ entries) (declared : value.kind = kind)
      (holds : ValueHolds (path ++ "." ++ key.text) value p atom) :
      FieldHolds path (.mk name kind (.map entries)) p atom
  | scalars {path name : String} {kind : FieldKind} {values : List FieldValue} {atoms : List Atom}
      (supported : isUnsupported kind = false) (scalar : kind ≠ .message)
      (each : List.Forall₂ (fun v a => (v.kind = kind ∧ v.IsExact) ∧ v.atom? = some a) values atoms) :
      FieldHolds path (.mk name kind (.repeated values)) path (.list atoms)
  | column {path name p : String} {values : List FieldValue} {atoms : List Atom} (nonempty : values ≠ [])
      (each : ColumnHolds path values p atoms) :
      FieldHolds path (.mk name .message (.repeated values)) p (.list atoms)

/-- Each of the values at `path` holds its atom at the path `p`, in order. -/
inductive ColumnHolds : String → List FieldValue → String → List Atom → Prop
  | nil {path p : String} : ColumnHolds path [] p []
  | cons {path p : String} {value : FieldValue} {values : List FieldValue} {atom : Atom} {atoms : List Atom}
      (first : ValueHolds path value p atom) (rest : ColumnHolds path values p atoms) :
      ColumnHolds path (value :: values) p (atom :: atoms)

end

def Message.Holds (m : Message) (p : String) (atom : Atom) : Prop :=
  ∃ f ∈ m.fields, FieldHolds f.name f p atom

/-! ## The leaves of a message -/

mutual

inductive ValueHasLeaf : String → FieldValue → String → Prop
  | scalar {path : String} {s : Scalar} : ValueHasLeaf path (.scalar s) path
  | timestamp {path : String} {fields : List Field} :
      ValueHasLeaf path (.message timestampName fields) path
  | message {path name p : String} {fields : List Field} {f : Field} (ordinary : name ≠ timestampName)
      (mem : f ∈ fields) (leaf : FieldHasLeaf (pathOf (some path) f.name) f p) :
      ValueHasLeaf path (.message name fields) p

/-- The field at `path` has a leaf at the path `p`. A list of scalars is a leaf even where it is
empty. -/
inductive FieldHasLeaf : String → Field → String → Prop
  | held {path held p : String} {f : Field} {value : FieldValue}
      (mem : (held, value) ∈ f.content.values path) (leaf : ValueHasLeaf held value p) :
      FieldHasLeaf path f p
  | emptyList {path name : String} {kind : FieldKind} (scalar : kind ≠ .message) :
      FieldHasLeaf path (.mk name kind (.repeated [])) path

end

def Message.HasLeaf (m : Message) (p : String) : Prop :=
  ∃ f ∈ m.fields, FieldHasLeaf f.name f p

def IsBelow (p root : String) : Prop :=
  p = root ∨ ∃ rest, p = root ++ "." ++ rest

theorem isBelow_refl (p : String) : IsBelow p p :=
  .inl rfl

theorem IsBelow.trans {p q r : String} (h : IsBelow p q) (h' : IsBelow q r) : IsBelow p r := by
  rcases h with rfl | ⟨x, rfl⟩
  · exact h'
  rcases h' with rfl | ⟨y, rfl⟩
  · exact .inr ⟨x, rfl⟩
  · exact .inr ⟨y ++ "." ++ x, by simp only [String.append_assoc]⟩

theorem isBelow_dotted (path name : String) : IsBelow (path ++ "." ++ name) path :=
  .inr ⟨name, rfl⟩

theorem isBelow_values {path held : String} {value : FieldValue} {content : FieldContent}
    (h : (held, value) ∈ content.values path) : IsBelow held path := by
  cases content with
  | unset => cases h
  | single v =>
    cases List.mem_singleton.mp h
    exact isBelow_refl path
  | «repeated» values =>
    obtain ⟨v, -, e⟩ := List.mem_map.mp h
    cases e
    exact isBelow_refl path
  | map entries =>
    obtain ⟨entry, -, e⟩ := List.mem_map.mp h
    cases e
    exact isBelow_dotted path _

mutual

theorem isBelow_of_valueHasLeaf {path p : String} {value : FieldValue} :
    ValueHasLeaf path value p → IsBelow p path
  | .scalar => isBelow_refl _
  | .timestamp => isBelow_refl _
  | .message _ _ leaf => (isBelow_of_fieldHasLeaf leaf).trans (isBelow_dotted _ _)

theorem isBelow_of_fieldHasLeaf {path p : String} {f : Field} : FieldHasLeaf path f p → IsBelow p path
  | .held mem leaf => (isBelow_of_valueHasLeaf leaf).trans (isBelow_values mem)
  | .emptyList _ => isBelow_refl _

end

theorem isUnder_iff {p root : String} : isUnder p root = true ↔ IsBelow p root := by
  unfold isUnder IsBelow
  simp only [Bool.or_eq_true, beq_iff_eq, Bool.and_eq_true, List.isPrefixOf_iff_prefix]
  refine or_congr_right ?_
  constructor
  · rintro ⟨⟨rest, hrest⟩, hdot⟩
    rw [← hrest, ← String.length_toList, List.drop_left] at hdot
    cases rest with
    | nil => cases hdot
    | cons c rest =>
      cases hdot
      refine ⟨String.ofList rest, String.toList_inj.mp ?_⟩
      simp [← hrest]
  · rintro ⟨rest, rfl⟩
    refine ⟨⟨'.' :: rest.toList, by simp⟩, ?_⟩
    simp [← String.length_toList]

namespace Message

/-! ## Keeping account -/

def Warned (ws : List DropWarning) (p : String) : Prop :=
  ∃ w ∈ ws, IsBelow p w.path

/-- From `facts` to `facts'` only what `holds` is added, and each leaf has a fact or was warned of. -/
structure Accounts (holds : String → Atom → Prop) (leaf : String → Prop) (facts facts' : FactSet)
    (ws : List DropWarning) : Prop where
  kept : facts.entries ⊆ facts'.entries
  exact : ∀ p atom, (p, atom) ∈ facts'.entries → (p, atom) ∈ facts.entries ∨ holds p atom
  covered : ∀ p, leaf p → p ∈ paths facts'.entries ∨ Warned ws p

section
variable {holds holds' : String → Atom → Prop} {leaf leaf' : String → Prop} {facts m facts' : FactSet}
  {ws ws' : List DropWarning}

theorem Accounts.imp (h : Accounts holds leaf facts facts' ws) (hh : ∀ p a, holds p a → holds' p a)
    (hl : ∀ p, leaf' p → leaf p) (hw : ws ⊆ ws') : Accounts holds' leaf' facts facts' ws' where
  kept := h.kept
  exact p a hp := (h.exact p a hp).imp_right (hh p a)
  covered p hp := by
    rcases h.covered p (hl p hp) with hp | ⟨w, mem, below⟩
    · exact .inl hp
    · exact .inr ⟨w, hw mem, below⟩

theorem accounts_refl (facts : FactSet) (ws : List DropWarning) :
    Accounts (fun _ _ => False) (fun _ => False) facts facts ws where
  kept := List.Subset.refl _
  exact _ _ hp := .inl hp
  covered _ hp := hp.elim

theorem Accounts.trans (h : Accounts holds leaf facts m ws) (h' : Accounts holds' leaf' m facts' ws')
    (hw : ws ⊆ ws') :
    Accounts (fun p a => holds p a ∨ holds' p a) (fun p => leaf p ∨ leaf' p) facts facts' ws' where
  kept := List.Subset.trans h.kept h'.kept
  exact p a hp := by
    rcases h'.exact p a hp with hm | new
    · exact (h.exact p a hm).imp_right .inl
    · exact .inr (.inr new)
  covered p hp := by
    rcases hp with hp | hp
    · rcases h.covered p hp with mem | ⟨w, mem, below⟩
      · exact .inl (List.map_subset Prod.fst h'.kept mem)
      · exact .inr ⟨w, hw mem, below⟩
    · exact h'.covered p hp

end

def GivesFacts (w : Walk FactSet) (facts : FactSet) (holds : String → Atom → Prop)
    (leaf : String → Prop) : Prop :=
  Gives w (Accounts holds leaf facts)

section
variable {w : Walk FactSet} {facts : FactSet} {holds holds' : String → Atom → Prop}
  {leaf leaf' : String → Prop}

theorem GivesFacts.imp (h : GivesFacts w facts holds leaf) (hh : ∀ p a, holds p a → holds' p a)
    (hl : ∀ p, leaf' p → leaf p) : GivesFacts w facts holds' leaf' :=
  Gives.mono h fun _ ws a => a.imp hh hl (List.Subset.refl ws)

theorem givesFacts_nothing (facts : FactSet) :
    GivesFacts (pure facts) facts (fun _ _ => False) fun _ => False := by
  refine (gives_pure facts).mono ?_
  rintro facts' ws rfl
  exact accounts_refl facts' ws

theorem GivesFacts.bind {f : FactSet → Walk FactSet} (hw : GivesFacts w facts holds leaf)
    (hf : ∀ m, GivesFacts (f m) m holds' leaf') :
    GivesFacts (w >>= f) facts (fun p a => holds p a ∨ holds' p a) fun p => leaf p ∨ leaf' p := by
  refine (Gives.bind hw hf).mono ?_
  rintro facts' ws ⟨m, earlier, sub, first, second⟩
  exact first.trans second sub

theorem givesFacts_addFact (path : String) (atom : Atom) (facts : FactSet) :
    GivesFacts (addFact path atom facts) facts (fun p a => p = path ∧ a = atom) fun p => p = path := by
  refine (Yields.gives (adds_fact path atom facts) (still_addFact path atom facts)).mono ?_
  rintro facts' ws ⟨-, added⟩
  refine ⟨fun e he => ?_, fun p a hp => ?_, ?_⟩
  · exact added.symm.subset (List.mem_append_left _ he)
  · rcases List.mem_append.mp (added.subset hp) with hp | hp
    · exact .inl hp
    · cases List.mem_singleton.mp hp
      exact .inr ⟨rfl, rfl⟩
  · rintro p rfl
    have mem : (p, atom) ∈ facts'.entries := added.symm.subset (by simp)
    exact .inl (StringMap.mem_keys mem)

theorem givesFacts_addFacts (es : List (String × Atom)) (facts : FactSet) :
    GivesFacts (addFacts es facts) facts (fun p a => (p, a) ∈ es) fun p => p ∈ paths es := by
  induction es generalizing facts with
  | nil => exact (givesFacts_nothing facts).imp (by simp) (by simp [StringMap.keys])
  | cons e es ih =>
    obtain ⟨path, atom⟩ := e
    refine ((givesFacts_addFact path atom facts).bind ih).imp ?_ ?_
    · rintro p a (⟨rfl, rfl⟩ | h)
      · exact List.mem_cons_self
      · exact List.mem_cons_of_mem _ h
    · intro p hp
      exact List.mem_cons.mp hp

theorem Gives.addFact {w : Walk Atom} {ok : Atom → Prop} (h : Gives w fun a _ => ok a) (path : String)
    (facts : FactSet) :
    GivesFacts (w >>= fun a => Message.addFact path a facts) facts (fun p a => p = path ∧ ok a)
      fun p => p = path := by
  refine (Gives.bind h fun a => givesFacts_addFact path a facts).mono ?_
  rintro facts' ws ⟨a, earlier, -, ha, added⟩
  refine added.imp ?_ (fun _ hp => hp) (List.Subset.refl ws)
  rintro p b ⟨hp, rfl⟩
  exact ⟨hp, ha⟩

theorem GivesFacts.orDrop (h : GivesFacts w .empty holds leaf) (message : String) {path : String}
    (below : ∀ p, leaf p → IsBelow p path) :
    GivesFacts (Message.orDrop .drop message path w) .empty holds leaf := by
  refine (Gives.orDrop h message path).mono ?_
  rintro facts' ws (added | ⟨rfl, warning, mem, rfl⟩)
  · exact added
  · refine ⟨List.Subset.refl _, fun p a hp => .inl hp, fun p hp => ?_⟩
    exact .inr ⟨warning, mem, below p hp⟩

theorem GivesFacts.merge {next : FactSet → Walk FactSet} (hw : GivesFacts w .empty holds leaf)
    (hnext : ∀ m, GivesFacts (next m) m holds' leaf') :
    GivesFacts (w >>= fun own => addFacts own.entries facts >>= next) facts
      (fun p a => holds p a ∨ holds' p a) fun p => leaf p ∨ leaf' p := by
  refine (Gives.bind hw fun own => (givesFacts_addFacts own.entries facts).bind hnext).mono ?_
  rintro facts' ws ⟨own, earlier, sub, first, added⟩
  refine ⟨added.kept, fun p a hp => ?_, fun p hp => ?_⟩
  · rcases added.exact p a hp with old | mem | new
    · exact .inl old
    · rcases first.exact p a mem with h | h
      · cases h
      · exact .inr (.inl h)
    · exact .inr (.inr new)
  · rcases hp with hp | hp
    · rcases first.covered p hp with mem | ⟨w, mem, below⟩
      · exact added.covered p (.inl mem)
      · exact .inr ⟨w, sub mem, below⟩
    · exact added.covered p (.inr hp)

end

/-! ## Leaves that are read -/

theorem scalarAtom_gives (path : String) (declared : FieldKind) (s : Scalar) :
    Gives (scalarAtom path declared s) fun a _ => (s.kind = declared ∧ s.IsExact) ∧ s.atom? = some a :=
  (scalarAtom_yields path declared s).gives (still_scalarAtom path declared s)

theorem timestampAtom_gives (path : String) (fields : List Field) :
    Gives (timestampAtom path fields) fun a _ =>
      IsTimestamp fields ∧ (instantOf? fields).map .date = some a :=
  (timestampAtom_yields path fields).gives (still_timestampAtom path fields)

theorem leafAtom_gives (path : String) (declared : FieldKind) (value : FieldValue) :
    Gives (leafAtom path declared value) fun a _ =>
      (value.kind = declared ∧ value.IsExact) ∧ value.atom? = some a := by
  cases value with
  | scalar s => exact scalarAtom_gives path declared s
  | message name fields => exact gives_throw _

theorem leafAtoms_give (path : String) (declared : FieldKind) (values : List FieldValue) :
    Gives (values.mapM (leafAtom path declared)) fun atoms _ =>
      List.Forall₂ (fun v a => (v.kind = declared ∧ v.IsExact) ∧ v.atom? = some a) values atoms := by
  induction values with
  | nil =>
    rw [List.mapM_nil]
    refine (gives_pure []).mono ?_
    rintro _ _ rfl
    exact .nil
  | cons value values ih =>
    rw [List.mapM_cons]
    refine ((leafAtom_gives path declared value).bind fun a => ih.bind fun as => gives_pure (a :: as)).mono ?_
    rintro _ ws ⟨a, _, -, ha, as, _, -, has, rfl⟩
    exact .cons ha has

theorem kind_of_forall₂ {kind : FieldKind} {values : List FieldValue} {atoms : List Atom}
    (each : List.Forall₂ (fun v a => (v.kind = kind ∧ v.IsExact) ∧ v.atom? = some a) values atoms)
    {value : FieldValue} (hv : value ∈ values) : value.kind = kind := by
  induction each with
  | nil => cases hv
  | cons first _ ih =>
    rcases List.mem_cons.mp hv with rfl | hv
    · exact first.1.1
    · exact ih hv

/-! ## Columns without what was dropped -/

theorem columns_eq_filter (dropped : List String) (elements : List FactSet) :
    columns dropped elements =
      ((elements.flatMap StringMap.entries).filter fun e => !dropped.any (isUnder e.1)).foldl gather
        .empty := by
  rw [List.foldl_filter, columns]
  congr 1
  funext m e
  obtain ⟨path, atom⟩ := e
  by_cases hd : dropped.any (isUnder path) = true
  · simp [hd]
  · simp [hd, gather]

theorem atomsAt_filter (keep : String → Bool) {path : String} (h : keep path = true)
    (es : List (String × Atom)) : atomsAt path (es.filter fun e => keep e.1) = atomsAt path es := by
  unfold atomsAt
  rw [List.filter_filter]
  congr 1
  refine List.filter_congr fun e _ => ?_
  by_cases he : e.1 = path
  · simp [he, h]
  · simp [he]

theorem get?_foldl_gather (es : List (String × Atom)) (path : String) :
    (es.foldl gather .empty).get? path = if path ∈ paths es then some (atomsAt path es) else none := by
  have absent := foldl_gather_eq_none es .empty path
  have values := getD_foldl_gather es .empty path
  cases hc : (es.foldl gather .empty).get? path with
  | none => rw [if_neg (absent.mp hc).2]
  | some atoms =>
    have present : path ∈ paths es := by
      by_contra missing
      rw [absent.mpr ⟨rfl, missing⟩] at hc
      cases hc
    rw [hc] at values
    rw [if_pos present]
    exact congrArg some values

theorem get?_columns_dropped {dropped : List String} {elements : List FactSet} {path : String}
    {atoms : List Atom} :
    (columns dropped elements).get? path = some atoms ↔
      ((∃ m ∈ elements, path ∈ paths m.entries) ∧ ¬dropped.any (isUnder path) = true) ∧
        atoms = elements.filterMap (StringMap.get? · path) := by
  have present : path ∈ paths ((elements.flatMap StringMap.entries).filter fun e =>
        !dropped.any (isUnder e.1)) ↔
      (∃ m ∈ elements, path ∈ paths m.entries) ∧ ¬dropped.any (isUnder path) = true := by
    simp only [StringMap.keys, List.mem_map, List.mem_filter, List.mem_flatMap]
    constructor
    · rintro ⟨e, ⟨⟨m, hm, he⟩, kept⟩, rfl⟩
      exact ⟨⟨m, hm, e, he, rfl⟩, by simpa using kept⟩
    · rintro ⟨⟨m, hm, e, he, rfl⟩, kept⟩
      exact ⟨e, ⟨⟨m, hm, he⟩, by simpa using kept⟩, rfl⟩
  rw [columns_eq_filter, get?_foldl_gather]
  by_cases hp : path ∈ paths ((elements.flatMap StringMap.entries).filter fun e =>
      !dropped.any (isUnder e.1))
  · have kept : (!dropped.any (isUnder path)) = true := by simpa using (present.mp hp).2
    rw [if_pos hp, atomsAt_filter (fun p => !dropped.any (isUnder p)) kept, atomsAt_flatMap,
      Option.some.injEq, eq_comm]
    exact ⟨fun h => ⟨present.mp hp, h⟩, fun h => h.2⟩
  · rw [if_neg hp]
    constructor
    · intro h
      cases h
    · rintro ⟨h, -⟩
      exact absurd (present.mpr h) hp

theorem givesFacts_addColumns (count : Nat) (cs : List (String × List Atom)) (facts : FactSet) :
    GivesFacts (addColumns .drop count cs facts) facts
      (fun p a => ∃ atoms, (p, atoms) ∈ cs ∧ atoms.length = count ∧ a = .list atoms)
      fun p => p ∈ StringMap.keys cs := by
  induction cs generalizing facts with
  | nil => exact (givesFacts_nothing facts).imp (by simp) (by simp [StringMap.keys])
  | cons column cs ih =>
    obtain ⟨path, atoms⟩ := column
    have later {p : String} {a : Atom} :
        (∃ atoms, (p, atoms) ∈ cs ∧ atoms.length = count ∧ a = .list atoms) →
        ∃ as, (p, as) ∈ (path, atoms) :: cs ∧ as.length = count ∧ a = .list as := by
      rintro ⟨as, mem, rest⟩
      exact ⟨as, List.mem_cons_of_mem _ mem, rest⟩
    unfold addColumns
    by_cases hl : atoms.length = count
    · rw [if_neg (not_not_intro hl)]
      refine ((givesFacts_addFact path (.list atoms) facts).bind ih).imp ?_ ?_
      · rintro p a (⟨rfl, rfl⟩ | h)
        · exact ⟨atoms, List.mem_cons_self, hl, rfl⟩
        · exact later h
      · intro p hp
        exact List.mem_cons.mp hp
    · rw [if_pos hl]
      refine ((gives_warn (.subField path atoms.length count)).bind fun _ => ih facts).mono ?_
      rintro facts' ws ⟨_, earlier, sub, warned, added⟩
      refine ⟨added.kept, fun p a hp => (added.exact p a hp).imp_right later, fun p hp => ?_⟩
      rcases List.mem_cons.mp hp with rfl | hp
      · exact .inr ⟨_, sub warned, isBelow_refl _⟩
      · exact added.covered p hp

/-! ## The elements of a repeated message -/

abbrev Elements (path : String) (values : List FieldValue) (elements : List FactSet)
    (ws : List DropWarning) : Prop :=
  List.Forall₂ (fun value m => Accounts (ValueHolds path value) (ValueHasLeaf path value) .empty m ws)
    values elements

theorem Elements.columnHolds {path p : String} {values : List FieldValue} {elements : List FactSet}
    {ws : List DropWarning} (h : Elements path values elements ws)
    (complete : (elements.filterMap (StringMap.get? · p)).length = values.length) :
    ColumnHolds path values p (elements.filterMap (StringMap.get? · p)) := by
  induction h with
  | nil => exact .nil
  | @cons value m values elements first rest ih =>
    -- the column is as long as there are elements, so none of them lacks the path
    have bound : (elements.filterMap (StringMap.get? · p)).length ≤ values.length :=
      rest.length_eq ▸ List.length_filterMap_le _ _
    cases hm : m.get? p with
    | none =>
      simp only [List.filterMap_cons, hm, List.length_cons] at complete
      omega
    | some a =>
      simp only [List.filterMap_cons, hm, List.length_cons] at complete ⊢
      have holds : ValueHolds path value p a := by
        rcases first.exact p a (StringMap.get?_eq_some.mp hm) with h | h
        · cases h
        · exact h
      exact .cons holds (ih (by omega))

theorem Elements.exists_mem {path : String} {values : List FieldValue} {elements : List FactSet}
    {ws : List DropWarning} (h : Elements path values elements ws) {value : FieldValue}
    (hv : value ∈ values) :
    ∃ m ∈ elements, Accounts (ValueHolds path value) (ValueHasLeaf path value) .empty m ws := by
  induction h with
  | nil => cases hv
  | @cons v m values elements first rest ih =>
    rcases List.mem_cons.mp hv with rfl | hv
    · exact ⟨m, List.mem_cons_self, first⟩
    · obtain ⟨m', mem, account⟩ := ih hv
      exact ⟨m', List.mem_cons_of_mem m mem, account⟩

theorem columns_give {w : Walk (List FactSet)} {path name : String} {values : List FieldValue}
    (hw : Gives w (Elements path values)) (settles : Settles w) :
    GivesFacts
      (withOwnDropped w >>= fun r =>
        addColumns .drop values.length (columns r.2 r.1).entries .empty)
      .empty (FieldHolds path (.mk name .message (.repeated values)))
      fun p => ∃ value ∈ values, ValueHasLeaf path value p := by
  refine ((hw.withOwnDropped settles).bind fun r => givesFacts_addColumns values.length _ _).mono ?_
  rintro facts ws ⟨⟨elements, dropped⟩, earlier, sub, ⟨each, warned⟩, added⟩
  refine ⟨added.kept, fun p a hp => (added.exact p a hp).imp_right ?_, ?_⟩
  · rintro ⟨atoms, mem, length, rfl⟩
    obtain ⟨⟨⟨m, hm, -⟩, -⟩, rfl⟩ := get?_columns_dropped.mp (StringMap.get?_eq_some.mpr mem)
    refine .column ?_ (Elements.columnHolds each length)
    rintro rfl
    cases each
    cases hm
  · rintro p ⟨value, hv, leaf⟩
    obtain ⟨m, hm, account⟩ := Elements.exists_mem each hv
    rcases account.covered p leaf with mem | ⟨w, mem, below⟩
    · by_cases hd : dropped.any (isUnder p) = true
      · obtain ⟨d, hd, under⟩ := List.any_eq_true.mp hd
        obtain ⟨w, hw, rfl⟩ := warned d hd
        exact .inr ⟨w, sub hw, isUnder_iff.mp under⟩
      · have column := get?_columns_dropped.mpr ⟨⟨⟨m, hm, mem⟩, hd⟩, rfl⟩
        exact added.covered p (StringMap.mem_keys (StringMap.get?_eq_some.mp column))
    · exact .inr ⟨w, sub mem, below⟩

/-! ## Walks that settle -/

theorem settles_addFact (path : String) (atom : Atom) (facts : FactSet) :
    Settles (addFact path atom facts) := by
  intro t p kind t' hr
  unfold addFact at hr
  cases hf : facts.get? path with
  | none => rw [hf] at hr; cases hr
  | some old => rw [hf] at hr; cases hr

theorem settles_addFacts (es : List (String × Atom)) (facts : FactSet) : Settles (addFacts es facts) := by
  induction es generalizing facts with
  | nil => exact settles_pure facts
  | cons e es ih => exact (settles_addFact e.1 e.2 facts).bind ih

theorem settles_fieldsFacts (message above : String) (fields : List Field) (facts : FactSet) :
    Settles (fieldsFacts .drop message above fields facts) := by
  induction fields generalizing facts with
  | nil =>
    simp only [fieldsFacts]
    exact settles_pure facts
  | cons f fields ih =>
    simp only [fieldsFacts]
    exact (settles_orDrop _ _ _).bind fun own => (settles_addFacts own.entries facts).bind ih

/-- A value in the place of a message has a form, or the walk fails for another reason. -/
theorem settles_valueFacts (path : String) (value : FieldValue) (facts : FactSet) :
    Settles (valueFacts .drop path .message value facts) := by
  cases value with
  | scalar s =>
    have mismatch : s.kind ≠ .message := by cases s <;> exact FieldKind.noConfusion
    simp only [valueFacts, scalarAtom, if_pos mismatch]
    refine Settles.bind ?_ fun a => settles_addFact path a facts
    intro t p kind t' hr
    cases hr
  | message name fields =>
    simp only [valueFacts, if_neg (not_not_intro (rfl : FieldKind.message = .message))]
    by_cases hn : name = timestampName
    · rw [if_pos hn]
      refine Settles.bind ?_ fun a => settles_addFact path a facts
      intro t p kind t' hr
      unfold timestampAtom at hr
      cases ht : timestampInstant fields with
      | ok i => rw [ht] at hr; cases hr
      | error fault => rw [ht] at hr; cases hr
    · rw [if_neg hn]
      exact settles_fieldsFacts name path fields facts

theorem settles_elementsFacts (path : String) (values : List FieldValue) :
    Settles (elementsFacts .drop path values) := by
  induction values with
  | nil =>
    simp only [elementsFacts]
    exact settles_pure []
  | cons value values ih =>
    simp only [elementsFacts]
    exact (settles_valueFacts path value .empty).bind fun m => ih.bind fun ms => settles_pure (m :: ms)

/-! ## The walks -/

theorem scalarList_gives (path name : String) {kind : FieldKind} (supported : isUnsupported kind = false)
    (hk : kind ≠ .message) (values : List FieldValue) :
    GivesFacts (do
      let atoms ← values.mapM (leafAtom path kind)
      addFact path (.list atoms) .empty) .empty (FieldHolds path (.mk name kind (.repeated values)))
      (FieldHasLeaf path (.mk name kind (.repeated values))) := by
  have read := leafAtoms_give path kind values
  refine (Gives.bind read fun atoms => givesFacts_addFact path (.list atoms) .empty).mono ?_
  rintro facts ws ⟨atoms, earlier, -, each, added⟩
  refine added.imp ?_ (fun p leaf => ?_) (List.Subset.refl ws)
  · rintro p a ⟨rfl, rfl⟩
    exact .scalars supported hk each
  · -- without messages the only leaf is the list itself
    cases leaf with
    | held mem leaf =>
      obtain ⟨value, hv, e⟩ := List.mem_map.mp mem
      cases e
      cases leaf with
      | scalar => rfl
      | timestamp => rfl
      | message ordinary mem leaf => exact absurd (kind_of_forall₂ each hv).symm hk
    | emptyList scalar => rfl

-- Along the recursion of the walks, as where nothing is dropped.
mutual

theorem fieldsFacts_give (message : String) {above : Option String} (ha : above ≠ some "") :
    (fields : List Field) → (∀ p f, Reaches above fields p f → f.name ≠ "") → (facts : FactSet) →
    GivesFacts (fieldsFacts .drop message (above.getD "") fields facts) facts
      (fun p a => ∃ f ∈ fields, FieldHolds (pathOf above f.name) f p a)
      fun p => ∃ f ∈ fields, FieldHasLeaf (pathOf above f.name) f p
  | [], _, facts => by
    simp only [fieldsFacts]
    exact (givesFacts_nothing facts).imp (by simp) (by simp)
  | f :: fields, named, facts => by
    obtain ⟨⟨here, below⟩, later⟩ := forall_reaches_cons.mp named
    have own := fieldFacts_give (pathOf_ne_empty above here) f below
    have rest := fieldsFacts_give message ha fields later
    simp only [fieldsFacts, joinPath_eq ha]
    refine ((own.orDrop message fun p => isBelow_of_fieldHasLeaf).merge rest).imp ?_ ?_
    · simp
    · simp

theorem fieldFacts_give {path : String} (hp : path ≠ "") :
    (f : Field) → (∀ value ∈ f.content.values path, NamedBelow value.1 value.2) →
    GivesFacts (fieldFacts .drop path f) .empty (FieldHolds path f) (FieldHasLeaf path f)
  | .mk name kind content, named => by
    simp only [fieldFacts]
    by_cases supported : isUnsupported kind = true
    · rw [if_pos supported]
      exact gives_throw _
    · rw [if_neg supported]
      exact contentFacts_give hp name kind (by simpa using supported) content named

theorem contentFacts_give {path : String} (hp : path ≠ "") (name : String) (kind : FieldKind)
    (supported : isUnsupported kind = false) :
    (content : FieldContent) → (∀ value ∈ content.values path, NamedBelow value.1 value.2) →
    GivesFacts (contentFacts .drop path kind content) .empty (FieldHolds path (.mk name kind content))
      (FieldHasLeaf path (.mk name kind content))
  | .unset, _ => by
    simp only [contentFacts]
    refine (givesFacts_nothing .empty).imp (fun p a h => h.elim) ?_
    rintro p ⟨mem, leaf⟩
    cases mem
  | .single value, named => by
    simp only [contentFacts]
    have held := valueFacts_give hp kind value (named _ (List.mem_singleton_self _)) .empty
    refine held.imp (fun p a h => .single h.1 h.2) ?_
    rintro p ⟨mem, leaf⟩
    cases List.mem_singleton.mp mem
    exact leaf
  | .repeated values, named => by
    simp only [contentFacts]
    by_cases hk : kind = .message
    · subst hk
      rw [if_pos rfl]
      have held := elementsFacts_give hp values fun value hv => named _ (List.mem_map_of_mem hv)
      refine (columns_give held (settles_elementsFacts path values)).imp (fun p a h => h) ?_
      intro p leaf
      cases leaf with
      | held mem leaf =>
        obtain ⟨_, hv, e⟩ := List.mem_map.mp mem
        cases e
        exact ⟨_, hv, leaf⟩
      | emptyList scalar => exact absurd rfl scalar
    · rw [if_neg hk]
      exact scalarList_gives path name supported hk values
  | .map entries, named => by
    simp only [contentFacts]
    have inner : ∀ entry ∈ entries, NamedBelow (path ++ "." ++ entry.1.text) entry.2 :=
      fun entry he => named _ (List.mem_map_of_mem he)
    refine (entriesFacts_give path kind entries inner .empty).imp ?_ ?_
    · rintro p a ⟨⟨key, value⟩, mem, declared, holds⟩
      exact .entry mem declared holds
    · rintro p ⟨mem, leaf⟩
      obtain ⟨entry, he, e⟩ := List.mem_map.mp mem
      cases e
      exact ⟨entry, he, leaf⟩

theorem valueFacts_give {path : String} (hp : path ≠ "") (declared : FieldKind) :
    (value : FieldValue) → NamedBelow path value → (facts : FactSet) →
    GivesFacts (valueFacts .drop path declared value facts) facts
      (fun p a => value.kind = declared ∧ ValueHolds path value p a) (ValueHasLeaf path value)
  | .scalar s, _, facts => by
    simp only [valueFacts]
    refine ((scalarAtom_gives path declared s).addFact path facts).imp ?_ ?_
    · rintro p a ⟨rfl, ⟨kind, exact⟩, carries⟩
      exact ⟨kind, .scalar exact carries⟩
    · intro p leaf
      cases leaf
      rfl
  | .message name fields, named, facts => by
    simp only [valueFacts]
    by_cases hd : declared = .message
    · rw [if_neg (not_not_intro hd)]
      by_cases hn : name = timestampName
      · rw [if_pos hn]
        subst hn
        refine ((timestampAtom_gives path fields).addFact path facts).imp ?_ ?_
        · rintro p a ⟨rfl, exact, carries⟩
          obtain ⟨t, ht, rfl⟩ := Option.map_eq_some_iff.mp carries
          exact ⟨hd.symm, .timestamp exact ht⟩
        · intro p leaf
          cases leaf with
          | timestamp => rfl
          | message ordinary mem leaf => exact absurd rfl ordinary
      · rw [if_neg hn]
        have above : some path ≠ some "" := fun h => hp (Option.some.inj h)
        refine (fieldsFacts_give name above fields (fun p f h => named p f ⟨hn, h⟩) facts).imp ?_ ?_
        · rintro p a ⟨f, mem, holds⟩
          exact ⟨hd.symm, .message hn mem holds⟩
        · intro p leaf
          cases leaf with
          | timestamp => exact absurd rfl hn
          | message ordinary mem leaf => exact ⟨_, mem, leaf⟩
    · rw [if_pos hd]
      exact gives_throw _

theorem elementsFacts_give {path : String} (hp : path ≠ "") :
    (values : List FieldValue) → (∀ value ∈ values, NamedBelow path value) →
    Gives (elementsFacts .drop path values) (Elements path values)
  | [], _ => by
    simp only [elementsFacts]
    refine (gives_pure []).mono ?_
    rintro elements ws rfl
    exact .nil
  | value :: values, named => by
    obtain ⟨here, later⟩ := List.forall_mem_cons.mp named
    have first := valueFacts_give hp .message value here .empty
    have rest := elementsFacts_give hp values later
    simp only [elementsFacts]
    refine (Gives.bind first fun m => rest.bind fun ms => gives_pure (m :: ms)).mono ?_
    rintro elements ws ⟨m, earlier, sub, own, ms, later, sub', others, rfl⟩
    refine .cons (own.imp (fun p a h => h.2) (fun p hp => hp) sub) (others.imp fun value m own => ?_)
    exact own.imp (fun p a h => h) (fun p hp => hp) sub'

theorem entriesFacts_give (path : String) (kind : FieldKind) :
    (entries : List (MapKey × FieldValue)) →
    (∀ entry ∈ entries, NamedBelow (path ++ "." ++ entry.1.text) entry.2) → (facts : FactSet) →
    GivesFacts (entriesFacts .drop path kind entries facts) facts
      (fun p a => ∃ entry ∈ entries, entry.2.kind = kind ∧
        ValueHolds (path ++ "." ++ entry.1.text) entry.2 p a)
      fun p => ∃ entry ∈ entries, ValueHasLeaf (path ++ "." ++ entry.1.text) entry.2 p
  | [], _, facts => by
    simp only [entriesFacts]
    exact (givesFacts_nothing facts).imp (by simp) (by simp)
  | (key, value) :: entries, named, facts => by
    obtain ⟨here, later⟩ := List.forall_mem_cons.mp named
    have first := valueFacts_give (dotted_ne_empty path key.text) kind value here facts
    have rest := entriesFacts_give path kind entries later
    simp only [entriesFacts]
    refine (first.bind rest).imp ?_ ?_
    · simp
    · simp

end

/-! ## Whole messages -/

/-- Where fields may be dropped, each fact is one that the message holds, its lists being complete, and
each leaf without a fact lies at or below a path that was warned of. -/
theorem flatten_drop (m : Message) (named : m.IsNamed) {facts : FactSet}
    (h : (flatten .drop m).1 = .ok facts) :
    (∀ p atom, (p, atom) ∈ facts.entries → m.Holds p atom) ∧
      ∀ p, m.HasLeaf p → p ∉ paths facts.entries →
        ∃ warning ∈ (flatten .drop m).2, IsBelow p warning.path := by
  have top : (none : Option String) ≠ some "" := fun h => by cases h
  have walk := fieldsFacts_give m.name top m.fields named .empty
  obtain ⟨-, account⟩ := walk.ok (t := {}) (Prod.ext h rfl)
  refine ⟨fun p atom hp => ?_, fun p leaf missing => ?_⟩
  · exact (account.exact p atom hp).resolve_left fun h => by cases h
  · exact (account.covered p leaf).resolve_left missing

def batch : Message where
  name := "payments.Batch"
  fields := [
    .mk "lines" .message (.repeated [
      .message "payments.Line" [
        .single "amount" .uint64 (.scalar (.uint64 5)),
        .mk "tags" .message (.repeated [
          .message "payments.Tag" [.single "id" .int32 (.scalar (.int32 1))]])],
      .message "payments.Line" [
        .single "amount" .uint64 (.scalar (.uint64 9223372036854775808)),
        .mk "tags" .message (.repeated [
          .message "payments.Tag" [.single "id" .int32 (.scalar (.int32 2))],
          .message "payments.Tag" [.single "id" .int32 (.scalar (.int32 3))]])]])]

theorem flatten_drop_batch :
    batch.IsNamed ∧ ∃ facts, (flatten .drop batch).1 = .ok facts ∧
      batch.Holds "lines.tags.id" (.list [.list [.integer 1], .list [.integer 2, .integer 3]]) ∧
      batch.HasLeaf "lines.amount" ∧
      ∃ warning ∈ (flatten .drop batch).2, IsBelow "lines.amount" warning.path := by
  have named : batch.IsNamed := by
    unfold Message.IsNamed batch
    simp [forall_reaches_cons, not_reaches_nil, ReachesFrom, FieldContent.values, Field.single,
      Field.name, Field.content, timestampName]
  have leaf : batch.HasLeaf "lines.amount" := by
    refine ⟨_, List.mem_cons_self, .held List.mem_cons_self ?_⟩
    refine .message (by decide) List.mem_cons_self (.held List.mem_cons_self .scalar)
  obtain ⟨facts, run, entries⟩ : ∃ facts, (flatten .drop batch).1 = .ok facts ∧ facts.entries =
      [("lines.tags.id", .list [.list [.integer 1], .list [.integer 2, .integer 3]])] := ⟨_, rfl, rfl⟩
  obtain ⟨exact, warned⟩ := flatten_drop batch named run
  refine ⟨named, facts, run, exact _ _ ?_, leaf, warned _ leaf ?_⟩
  · rw [entries]
    exact List.mem_singleton_self _
  · rw [entries]
    decide

end Message
end PolicyGate
