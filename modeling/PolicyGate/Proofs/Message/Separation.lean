import Mathlib.Data.List.TakeWhile
import PolicyGate.Proofs.Message.Agreement
import PolicyGate.Proofs.Message.Dropping

/-!
# Fields kept apart by their names

The leaves of a field lie at or below its path, so fields at the top of a message whose names are distinct
and have no dots cannot meet (`Separated`): each leaf shows the field it comes from. A message of such
fields is flattened field by field, with one result under both policies: `flatten_of_fits` if each field
fits, and `flatten_of_fails` if one fails behind others that fit.
-/

namespace PolicyGate

open Data (StringMap)
open Message

/-! ## Paths and names -/

/-- A name without dots, which stands for one step of a path. -/
def IsPlain (name : String) : Prop :=
  '.' ∉ name.toList

def firstStep (path : String) : List Char :=
  path.toList.takeWhile (· ≠ '.')

theorem firstStep_of_isBelow {path name : String} (h : IsBelow path name) (plain : IsPlain name) :
    firstStep path = name.toList := by
  have all : ∀ c ∈ name.toList, decide (c ≠ '.') = true := by
    intro c hc
    refine decide_eq_true ?_
    rintro rfl
    exact plain hc
  rcases h with rfl | ⟨rest, rfl⟩
  · exact List.takeWhile_eq_self_iff.mpr all
  · have dotted : (name ++ "." ++ rest).toList = name.toList ++ '.' :: rest.toList := by simp
    rw [firstStep, dotted, List.takeWhile_append_of_pos all, List.takeWhile_cons_of_neg (by simp),
      List.append_nil]

theorem IsBelow.unique {path name name' : String} (h : IsBelow path name) (h' : IsBelow path name')
    (plain : IsPlain name) (plain' : IsPlain name') : name = name' :=
  String.toList_inj.mp ((firstStep_of_isBelow h plain).symm.trans (firstStep_of_isBelow h' plain'))

namespace Message

theorem isBelow_leafAt {path p : String} {a : Atom} {atom : Option Atom} (h : (p, a) ∈ leafAt path atom) :
    IsBelow p path := by
  cases atom with
  | none => cases h
  | some b =>
    cases List.mem_singleton.mp h
    exact isBelow_refl path

theorem mem_of_mem_columnsOf {p : String} {a : Atom} {leaves : List (List (String × Atom))}
    (h : (p, a) ∈ columnsOf leaves) : ∃ es ∈ leaves, p ∈ paths es := by
  cases leaves with
  | nil => cases h
  | cons first rest =>
    obtain ⟨path, hp, e⟩ := List.mem_map.mp h
    cases e
    exact ⟨first, List.mem_cons_self, hp⟩

-- Along the recursion of the leaves.
mutual

theorem isBelow_of_mem_fieldsLeaves {path p : String} {a : Atom} : (fields : List Field) →
    (p, a) ∈ fieldsLeaves (some path) fields → IsBelow p path
  | [], h => by
    simp only [fieldsLeaves] at h
    cases h
  | f :: fields, h => by
    simp only [fieldsLeaves] at h
    rcases List.mem_append.mp h with h | h
    · exact (isBelow_of_mem_fieldLeaves f h).trans (isBelow_dotted path f.name)
    · exact isBelow_of_mem_fieldsLeaves fields h

theorem isBelow_of_mem_fieldLeaves {path p : String} {a : Atom} : (f : Field) →
    (p, a) ∈ fieldLeaves path f → IsBelow p path
  | .mk name kind content, h => by
    simp only [fieldLeaves] at h
    exact isBelow_of_mem_contentLeaves kind content h

theorem isBelow_of_mem_contentLeaves {path p : String} {a : Atom} (kind : FieldKind) :
    (content : FieldContent) → (p, a) ∈ contentLeaves path kind content → IsBelow p path
  | .unset, h => by
    simp only [contentLeaves] at h
    cases h
  | .single value, h => by
    simp only [contentLeaves] at h
    exact isBelow_of_mem_valueLeaves value h
  | .repeated values, h => by
    simp only [contentLeaves] at h
    by_cases hk : kind = .message
    · rw [if_pos hk] at h
      obtain ⟨es, hes, hp⟩ := mem_of_mem_columnsOf h
      obtain ⟨e, he, rfl⟩ := List.mem_map.mp hp
      exact isBelow_of_mem_elementsLeaves values hes he
    · rw [if_neg hk] at h
      cases List.mem_singleton.mp h
      exact isBelow_refl path
  | .map entries, h => by
    simp only [contentLeaves] at h
    exact isBelow_of_mem_entriesLeaves entries h

theorem isBelow_of_mem_valueLeaves {path p : String} {a : Atom} : (value : FieldValue) →
    (p, a) ∈ valueLeaves path value → IsBelow p path
  | .scalar s, h => by
    simp only [valueLeaves] at h
    exact isBelow_leafAt h
  | .message name fields, h => by
    simp only [valueLeaves] at h
    by_cases hn : name = timestampName
    · rw [if_pos hn] at h
      exact isBelow_leafAt h
    · rw [if_neg hn] at h
      exact isBelow_of_mem_fieldsLeaves fields h

theorem isBelow_of_mem_elementsLeaves {path : String} {es : List (String × Atom)} {e : String × Atom} :
    (values : List FieldValue) → es ∈ elementsLeaves path values → e ∈ es → IsBelow e.1 path
  | [], h, _ => by
    simp only [elementsLeaves] at h
    cases h
  | value :: values, h, he => by
    simp only [elementsLeaves] at h
    rcases List.mem_cons.mp h with rfl | h
    · exact isBelow_of_mem_valueLeaves value he
    · exact isBelow_of_mem_elementsLeaves values h he

theorem isBelow_of_mem_entriesLeaves {path p : String} {a : Atom} :
    (entries : List (MapKey × FieldValue)) → (p, a) ∈ entriesLeaves path entries → IsBelow p path
  | [], h => by
    simp only [entriesLeaves] at h
    cases h
  | (key, value) :: entries, h => by
    simp only [entriesLeaves] at h
    rcases List.mem_append.mp h with h | h
    · exact (isBelow_of_mem_valueLeaves value h).trans (isBelow_dotted path key.text)
    · exact isBelow_of_mem_entriesLeaves entries h

end

/-! ## Separated fields -/

structure Separated (fields : List Field) : Prop where
  plain : ∀ f ∈ fields, IsPlain f.name
  distinct : (fields.map Field.name).Nodup

def topLeaves (f : Field) : List (String × Atom) :=
  fieldLeaves f.name f

theorem fieldsLeaves_top (fields : List Field) : fieldsLeaves none fields = fields.flatMap topLeaves := by
  induction fields with
  | nil => simp [fieldsLeaves]
  | cons f fields ih =>
    rw [fieldsLeaves, ih, List.flatMap_cons]
    rfl

theorem Separated.of_cons {f : Field} {fields : List Field} (h : Separated (f :: fields)) :
    Separated fields where
  plain g hg := h.plain g (List.mem_cons_of_mem f hg)
  distinct := (List.nodup_cons.mp h.distinct).2

theorem Separated.mem_topLeaves {fields : List Field} (h : Separated fields) {f : Field} (hf : f ∈ fields)
    {leaf : String × Atom} (hl : leaf ∈ fieldsLeaves none fields) (below : IsBelow leaf.1 f.name) :
    leaf ∈ topLeaves f := by
  rw [fieldsLeaves_top] at hl
  obtain ⟨g, hg, hl⟩ := List.mem_flatMap.mp hl
  have name : g.name = f.name :=
    (isBelow_of_mem_fieldLeaves g hl).unique below (h.plain g hg) (h.plain f hf)
  have same : g = f := List.inj_on_of_nodup_map h.distinct hg hf name
  exact same ▸ hl

theorem Separated.nodup_paths {fields : List Field} (h : Separated fields)
    (each : ∀ f ∈ fields, (paths (topLeaves f)).Nodup) : (paths (fieldsLeaves none fields)).Nodup := by
  induction fields with
  | nil =>
    simp only [fieldsLeaves]
    exact List.nodup_nil
  | cons f fields ih =>
    obtain ⟨own, others⟩ := List.forall_mem_cons.mp each
    rw [fieldsLeaves_top, List.flatMap_cons, ← fieldsLeaves_top, paths, StringMap.keys, List.map_append]
    refine List.nodup_append.mpr ⟨own, ih h.of_cons others, ?_⟩
    rintro p hp q hq rfl
    obtain ⟨⟨_, a⟩, ha, rfl⟩ := List.mem_map.mp hp
    obtain ⟨⟨_, b⟩, hb, rfl⟩ := List.mem_map.mp hq
    rw [fieldsLeaves_top] at hb
    obtain ⟨g, hg, hb⟩ := List.mem_flatMap.mp hb
    have plain := h.plain g (List.mem_cons_of_mem f hg)
    have same : f.name = g.name := (isBelow_of_mem_fieldLeaves f ha).unique
      (isBelow_of_mem_fieldLeaves g hb) (h.plain f List.mem_cons_self) plain
    exact (List.nodup_cons.mp h.distinct).1 (same ▸ List.mem_map_of_mem hg)

def SameLeaves (f g : Field) : Prop :=
  ∀ leaf, leaf ∈ topLeaves f ↔ leaf ∈ topLeaves g

theorem Separated.sameLeaves {fields others : List Field} (h : Separated fields) (h' : Separated others)
    (same : (fieldsLeaves none fields).Perm (fieldsLeaves none others)) {f g : Field} (hf : f ∈ fields)
    (hg : g ∈ others) (name : f.name = g.name) : SameLeaves f g := by
  intro leaf
  constructor
  · intro hl
    have below : IsBelow leaf.1 g.name := name ▸ isBelow_of_mem_fieldLeaves f hl
    refine h'.mem_topLeaves hg (same.subset ?_) below
    rw [fieldsLeaves_top]
    exact List.mem_flatMap.mpr ⟨f, hf, hl⟩
  · intro hl
    have below : IsBelow leaf.1 f.name := name ▸ isBelow_of_mem_fieldLeaves g hl
    refine h.mem_topLeaves hf (same.symm.subset ?_) below
    rw [fieldsLeaves_top]
    exact List.mem_flatMap.mpr ⟨g, hg, hl⟩

theorem Separated.forall₂_sameLeaves {fields others : List Field} (h : Separated fields)
    (h' : Separated others) (names : fields.map Field.name = others.map Field.name)
    (same : (fieldsLeaves none fields).Perm (fieldsLeaves none others)) :
    List.Forall₂ SameLeaves fields others := by
  have length : fields.length = others.length := by simpa using congrArg List.length names
  refine List.forall₂_iff_get.mpr ⟨length, fun i hi hi' => ?_⟩
  refine h.sameLeaves h' same (List.get_mem _ _) (List.get_mem _ _) ?_
  have name := List.getElem_of_eq names (i := i) (by simpa using hi)
  simpa using name

/-! ## Fields that fit -/

def Throughout (Q : String → Field → Prop) (path : String) (f : Field) : Prop :=
  Q path f ∧ ∀ value ∈ f.content.values path, ∀ p g, ReachesFrom value.1 value.2 p g → Q p g

theorem forall_reaches_iff {fields : List Field} {Q : String → Field → Prop} :
    (∀ p f, Reaches none fields p f → Q p f) ↔ ∀ f ∈ fields, Throughout Q f.name f := by
  induction fields with
  | nil => simp [not_reaches_nil]
  | cons f fields ih =>
    rw [forall_reaches_cons, ih, List.forall_mem_cons]
    rfl

end Message

/-- The field has an exact form, its names are not empty, and no two of its leaves have one path. -/
structure Field.Fits (f : Field) : Prop where
  exact : Throughout (fun p g => g.name ≠ "" ∧ g.IsExact p) f.name f
  distinct : (paths (topLeaves f)).Nodup

def Field.Fails (f : Field) (e : FlattenError) : Prop :=
  ∀ t, (fieldFacts .reject f.name f).run t = (.error e, t)

namespace Message

theorem exists_run {fields : List Field} (separated : Separated fields) (fits : ∀ f ∈ fields, f.Fits)
    (message : String) :
    ∃ facts : FactSet, facts.entries.Perm (fieldsLeaves none fields) ∧
      (fieldsFacts .reject message "" fields .empty).run {} = (.ok facts, {}) := by
  have reached := forall_reaches_iff.mpr fun f hf => (fits f hf).exact
  obtain ⟨facts, perm⟩ := StringMap.exists_entries (separated.nodup_paths fun f hf => (fits f hf).distinct)
  have top : (none : Option String) ≠ some "" := fun h => by cases h
  have walk := fieldsFacts_adds message top fields (fun p f h => (reached p f h).1) .empty
  exact ⟨facts, perm, (walk {} facts {}).mpr ⟨⟨fun p f h => (reached p f h).2, perm⟩, rfl⟩⟩

theorem flatten_of_fits {m : Message} (separated : Separated m.fields) (fits : ∀ f ∈ m.fields, f.Fits)
    (policy : UnsupportedFields) :
    ∃ facts, flatten policy m = (.ok facts, []) ∧ facts.entries.Perm m.leaves := by
  obtain ⟨facts, perm, run⟩ := exists_run separated fits m.name
  have done : (flatten .reject m).1 = .ok facts := congrArg Prod.fst run
  have stands : Stands (flatten .reject m).1 := done ▸ stands_ok facts
  exact ⟨facts, by rw [flatten_agrees stands policy, done], perm⟩

theorem fieldsFacts_append (policy : UnsupportedFields) (message above : String) (before after : List Field)
    (facts : FactSet) :
    fieldsFacts policy message above (before ++ after) facts =
      fieldsFacts policy message above before facts >>= fieldsFacts policy message above after := by
  induction before generalizing facts with
  | nil => simp only [fieldsFacts, List.nil_append, pure_bind]
  | cons f before ih => simp only [fieldsFacts, List.cons_append, bind_assoc, ih]

theorem run_of_fails {f : Field} {e : FlattenError} (h : f.Fails e) (message : String)
    (after : List Field) (facts : FactSet) (t : Trail) :
    (fieldsFacts .reject message "" (f :: after) facts).run t = (.error e, t) := by
  have own : (orDrop .reject message f.name (fieldFacts .reject f.name f)).run t = (.error e, t) := by
    unfold orDrop
    rw [run_tryCatch, h t]
    cases e <;> rfl
  simp only [fieldsFacts]
  rw [run_bind]
  have top : joinPath "" f.name = f.name := rfl
  rw [top, own]

/-- A message fails as its first field that does not fit. -/
theorem flatten_of_fails {m : Message} {before after : List Field} {f : Field} {e : FlattenError}
    (fields : m.fields = before ++ f :: after) (separated : Separated before)
    (fits : ∀ g ∈ before, g.Fits) (fails : f.Fails e) (stays : ¬e.IsDroppable)
    (policy : UnsupportedFields) : flatten policy m = (.error e, []) := by
  obtain ⟨facts, -, first⟩ := exists_run separated fits m.name
  have run : (fieldsFacts .reject m.name "" m.fields .empty).run {} = (.error e, {}) := by
    rw [fields, fieldsFacts_append, run_bind, first]
    exact run_of_fails fails m.name after facts {}
  have refused : (flatten .reject m).1 = .error e := congrArg Prod.fst run
  rw [flatten_agrees (refused ▸ stands_error stays) policy, refused]

end Message
end PolicyGate
