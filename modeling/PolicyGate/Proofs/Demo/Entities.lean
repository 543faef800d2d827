import PolicyGate.Demo.Message
import PolicyGate.Proofs.Message.Separation
import PolicyGate.Proofs.Text.Numerals

/-!
# Entities in facts

What the facts of a request keep of its entities. A path that ends in `name` or `value` splits in one way,
so one entity, the entities of a list and those of a map are each read back from their leaves
(`entityField_injective`, `entityList_injective`, `entityMap_injective`), whatever the keys of a map look
like.
-/

namespace PolicyGate.Demo

open Data (StringMap)
open Message

/-! ## One entity -/

def Entity.leaves (path : String) (e : Entity) : List (String × Atom) :=
  [(path ++ "." ++ "name", .string e.name), (path ++ "." ++ "value", .integer e.value)]

theorem valueLeaves_entity (path : String) (e : Entity) :
    valueLeaves path e.fieldValue = e.leaves path := by
  simp [valueLeaves, Entity.fieldValue, timestampName, fieldsLeaves, Field.single, Field.name, pathOf,
    fieldLeaves, contentLeaves, leafAt, Scalar.atom?, Scalar.number?, Entity.leaves]

theorem dotted_inj {x y name : String} (h : x ++ "." ++ name = y ++ "." ++ name) : x = y := by
  rwa [String.append_left_inj, String.append_left_inj] at h

theorem name_ne_value (x y : String) : x ++ "." ++ "name" ≠ y ++ "." ++ "value" := by
  intro h
  -- the last five characters differ
  have chars : x.toList ++ ".name".toList = (y.toList ++ ['.']) ++ "value".toList := by
    simpa using congrArg String.toList h
  exact absurd (List.append_inj' chars rfl).2 (by decide)

theorem Entity.nodup_leaves (path : String) (e : Entity) : (paths (e.leaves path)).Nodup := by
  simp [StringMap.keys, Entity.leaves]

theorem Entity.name_of_mem {x y name : String} {e : Entity}
    (h : (x ++ "." ++ "name", Atom.string name) ∈ e.leaves y) : x = y ∧ name = e.name := by
  rcases List.mem_cons.mp h with h | h
  · obtain ⟨path, atom⟩ := Prod.mk.inj h
    exact ⟨dotted_inj path, Atom.string.inj atom⟩
  · exact absurd (Prod.mk.inj (List.mem_singleton.mp h)).1 (name_ne_value x y)

theorem Entity.value_of_mem {x y : String} {value : Int64} {e : Entity}
    (h : (x ++ "." ++ "value", Atom.integer value) ∈ e.leaves y) : x = y ∧ value = e.value := by
  rcases List.mem_cons.mp h with h | h
  · exact absurd (Prod.mk.inj h).1.symm (name_ne_value y x)
  · obtain ⟨path, atom⟩ := Prod.mk.inj (List.mem_singleton.mp h)
    exact ⟨dotted_inj path, Atom.integer.inj atom⟩

theorem Entity.path_unique {x y p : String} {d e : Entity} (hd : p ∈ paths (d.leaves x))
    (he : p ∈ paths (e.leaves y)) : x = y := by
  simp only [StringMap.keys, Entity.leaves, List.map_cons, List.map_nil, List.mem_cons, List.not_mem_nil,
    or_false] at hd he
  rcases hd with rfl | rfl
  · rcases he with same | mixed
    · exact dotted_inj same
    · exact absurd mixed (name_ne_value x y)
  · rcases he with mixed | same
    · exact absurd mixed.symm (name_ne_value y x)
    · exact dotted_inj same

theorem Entity.ext_fields {d e : Entity} (name : d.name = e.name) (value : d.value = e.value) : d = e := by
  cases d
  cases e
  cases name
  cases value
  rfl

theorem isExact_scalar {s : Scalar} (exact : s.IsExact) (name path : String) :
    (Field.single name s.kind (.scalar s)).IsExact path where
  supported := by
    cases s with
    | float | double | group => exact exact.elim
    | _ => exact ⟨nofun, nofun, nofun⟩
  held value hv := by
    cases List.mem_singleton.mp hv
    exact ⟨rfl, exact⟩
  aligned values _ h := by cases h

theorem Entity.throughout (path : String) (e : Entity) (p : String) (g : Field)
    (h : ReachesFrom path e.fieldValue p g) : g.name ≠ "" ∧ g.IsExact p := by
  have below := h.2
  rcases reaches_cons.mp below with ⟨-, rfl⟩ | ⟨value, hv, inside⟩ | below
  · exact ⟨(by decide : "name" ≠ ""), isExact_scalar (s := .string e.name) trivial "name" p⟩
  · cases List.mem_singleton.mp hv
    exact inside.elim
  rcases reaches_cons.mp below with ⟨-, rfl⟩ | ⟨value, hv, inside⟩ | below
  · exact ⟨(by decide : "value" ≠ ""), isExact_scalar (s := .int64 e.value) trivial "value" p⟩
  · cases List.mem_singleton.mp hv
    exact inside.elim
  · exact absurd below not_reaches_nil

theorem Entity.isExact (e : Entity) : e.fieldValue.kind = .message ∧ e.fieldValue.IsExact :=
  ⟨rfl, fun h => absurd h (by decide)⟩

theorem throughout_of_entities {name : String} (named : name ≠ "") {content : FieldContent}
    (entities : ∀ value ∈ content.values name, ∃ e : Entity, value.2 = e.fieldValue)
    (aligned : ∀ values, content = .repeated values → Aligned (elementsLeaves name values)) :
    Throughout (fun p g => g.name ≠ "" ∧ g.IsExact p) name (.mk name .message content) := by
  refine ⟨⟨named, ⟨nofun, nofun, nofun⟩, fun value hv => ?_, fun values _ h => aligned values h⟩, ?_⟩
  · obtain ⟨e, he⟩ := entities value hv
    exact he ▸ e.isExact
  · intro value hv p g below
    obtain ⟨e, he⟩ := entities value hv
    exact e.throughout value.1 p g (he ▸ below)

/-! ## An entity that may be missing -/

def entityField (name : String) (entity : Option Entity) : Field :=
  .optional name .message (entity.map Entity.fieldValue)

theorem topLeaves_entityField (name : String) (entity : Option Entity) :
    topLeaves (entityField name entity) = entity.toList.flatMap (Entity.leaves name) := by
  cases entity with
  | none => simp [topLeaves, entityField, Field.optional, fieldLeaves, contentLeaves]
  | some e =>
    simp [topLeaves, entityField, Field.optional, Field.name, fieldLeaves, contentLeaves, valueLeaves_entity]

theorem entityField_fits {name : String} (named : name ≠ "") (entity : Option Entity) :
    (entityField name entity).Fits where
  exact := by
    cases entity with
    | none => exact throughout_of_entities named (fun value hv => by cases hv) fun values h => by cases h
    | some e =>
      refine throughout_of_entities named (fun value hv => ?_) fun values h => by cases h
      cases List.mem_singleton.mp hv
      exact ⟨e, rfl⟩
  distinct := by
    rw [topLeaves_entityField]
    cases entity with
    | none => exact List.nodup_nil
    | some e => simpa using e.nodup_leaves name

theorem entityField_injective {name : String} {x y : Option Entity}
    (same : SameLeaves (entityField name x) (entityField name y)) : x = y := by
  unfold SameLeaves at same
  simp only [topLeaves_entityField] at same
  cases x with
  | none =>
    cases y with
    | none => rfl
    | some e => exact absurd ((same _).mpr List.mem_cons_self) List.not_mem_nil
  | some d =>
    cases y with
    | none => exact absurd ((same _).mp List.mem_cons_self) List.not_mem_nil
    | some e =>
      simp only [Option.toList_some, List.flatMap_singleton] at same
      have name := Entity.name_of_mem ((same _).mp List.mem_cons_self)
      have value := Entity.value_of_mem ((same _).mp (List.mem_cons_of_mem _ (List.mem_singleton_self _)))
      rw [Entity.ext_fields name.2 value.2]

/-! ## A list of entities -/

def entityList (name : String) (entities : List Entity) : Field :=
  .mk name .message (.repeated (entities.map Entity.fieldValue))

theorem elementsLeaves_entities (path : String) (entities : List Entity) :
    elementsLeaves path (entities.map Entity.fieldValue) = entities.map (Entity.leaves path) := by
  induction entities with
  | nil => simp [elementsLeaves]
  | cons e entities ih => simp [elementsLeaves, valueLeaves_entity, ih]

theorem aligned_entities (path : String) (entities : List Entity) :
    Aligned (entities.map (Entity.leaves path)) where
  distinct es hes := by
    obtain ⟨e, -, rfl⟩ := List.mem_map.mp hes
    exact e.nodup_leaves path
  same es hes fs hfs := by
    obtain ⟨d, -, rfl⟩ := List.mem_map.mp hes
    obtain ⟨e, -, rfl⟩ := List.mem_map.mp hfs
    exact List.Subset.refl _

theorem lookup_name (path : String) (e : Entity) :
    (e.leaves path).lookup (path ++ "." ++ "name") = some (.string e.name) :=
  (StringMap.lookup_eq_some (e.nodup_leaves path)).mpr List.mem_cons_self

theorem lookup_value (path : String) (e : Entity) :
    (e.leaves path).lookup (path ++ "." ++ "value") = some (.integer e.value) :=
  (StringMap.lookup_eq_some (e.nodup_leaves path)).mpr (List.mem_cons_of_mem _ (List.mem_singleton_self _))

theorem topLeaves_entityList (name : String) (entities : List Entity) :
    topLeaves (entityList name entities) = columnsOf (entities.map (Entity.leaves name)) := by
  simp [topLeaves, entityList, Field.name, fieldLeaves, contentLeaves, elementsLeaves_entities]

theorem entityList_fits {name : String} (named : name ≠ "") (entities : List Entity) :
    (entityList name entities).Fits where
  exact := by
    refine throughout_of_entities named (fun value hv => ?_) fun values h => ?_
    · obtain ⟨v, hv, e⟩ := List.mem_map.mp hv
      obtain ⟨d, -, rfl⟩ := List.mem_map.mp hv
      exact ⟨d, e ▸ rfl⟩
    · cases h
      rw [elementsLeaves_entities]
      exact aligned_entities name entities
  distinct := by
    rw [topLeaves_entityList]
    exact nodup_columnsOf (aligned_entities name entities)

theorem mem_topLeaves_entityList {name : String} {entities : List Entity} {leaf : String × Atom} :
    leaf ∈ topLeaves (entityList name entities) ↔ entities ≠ [] ∧
      (leaf = (name ++ "." ++ "name", .list (entities.map fun e => .string e.name)) ∨
        leaf = (name ++ "." ++ "value", .list (entities.map fun e => .integer e.value))) := by
  rw [topLeaves_entityList]
  cases entities with
  | nil => simp [columnsOf]
  | cons e entities =>
    have names : ((e :: entities).map (Entity.leaves name)).filterMap (List.lookup (name ++ "." ++ "name")) =
        (e :: entities).map fun e => .string e.name := by
      rw [List.filterMap_map, ← List.filterMap_eq_map]
      exact congrFun (congrArg List.filterMap (funext (lookup_name name))) _
    have values : ((e :: entities).map (Entity.leaves name)).filterMap (List.lookup (name ++ "." ++ "value")) =
        (e :: entities).map fun e => .integer e.value := by
      rw [List.filterMap_map, ← List.filterMap_eq_map]
      exact congrFun (congrArg List.filterMap (funext (lookup_value name))) _
    rw [← names, ← values]
    simp [columnsOf, StringMap.keys, Entity.leaves]

theorem entityList_injective {name : String} {xs ys : List Entity}
    (same : SameLeaves (entityList name xs) (entityList name ys)) : xs = ys := by
  unfold SameLeaves at same
  simp only [mem_topLeaves_entityList] at same
  by_cases hx : xs = []
  · subst hx
    by_contra hy
    exact ((same _).mpr ⟨fun h => hy h.symm, .inl rfl⟩).1 rfl
  · obtain ⟨-, names | mixed⟩ := (same _).mp ⟨hx, .inl rfl⟩
    · obtain ⟨-, mixed | values⟩ := (same _).mp ⟨hx, .inr rfl⟩
      · exact absurd (Prod.mk.inj mixed).1.symm (name_ne_value name name)
      · have names := Atom.list.inj (Prod.mk.inj names).2
        have values := Atom.list.inj (Prod.mk.inj values).2
        refine List.ext_getElem (by simpa using congrArg List.length names) fun i hi hi' => ?_
        refine Entity.ext_fields ?_ ?_
        · have := List.getElem_of_eq names (i := i) (by simpa using hi)
          simpa using this
        · have := List.getElem_of_eq values (i := i) (by simpa using hi)
          simpa using this
    · exact absurd (Prod.mk.inj mixed).1 (name_ne_value name name)

/-! ## A map of entities -/

section
variable {κ : Type} {name : String} {key : κ → MapKey}

/-- Each key of a map has a text of its own. -/
def Distinguishes (key : κ → MapKey) : Prop :=
  ∀ j k, (key j).text = (key k).text → j = k

theorem key_of_path (distinguishes : Distinguishes key) {j k : κ}
    (h : name ++ "." ++ (key j).text = name ++ "." ++ (key k).text) : j = k :=
  distinguishes j k (by rwa [String.append_right_inj] at h)

theorem entriesLeaves_entities (path : String) (entries : List (κ × Entity)) :
    entriesLeaves path (entries.map fun (k, e) => (key k, e.fieldValue)) =
      entries.flatMap fun entry => entry.2.leaves (path ++ "." ++ (key entry.1).text) := by
  induction entries with
  | nil => simp [entriesLeaves]
  | cons entry entries ih => simp [entriesLeaves, valueLeaves_entity, ih]

variable [DecidableEq κ]

/-- The entity at a key of a map; the last entry of a key counts. -/
def entityAt? (entries : List (κ × Entity)) (key : κ) : Option Entity :=
  entries.reverse.lookup key

theorem entityAt?_cons (k : κ) (e : Entity) (rest : List (κ × Entity)) (key : κ) :
    entityAt? ((k, e) :: rest) key =
      (entityAt? rest key).or (if key = k then some e else none) := by
  unfold entityAt?
  rw [List.reverse_cons, List.lookup_append]
  by_cases h : key = k
  · simp [h]
  · simp [h, List.lookup_cons, beq_false_of_ne h]

theorem entityAt?_eq_none {entries : List (κ × Entity)} {key : κ} :
    entityAt? entries key = none ↔ ¬(entries.any fun other => other.1 = key) = true := by
  rw [entityAt?, List.lookup_eq_none_iff, List.any_eq_true, not_exists]
  refine forall_congr' fun entry => ?_
  rw [List.mem_reverse, not_and]
  refine forall_congr' fun _ => ?_
  rw [bne_iff_ne, decide_eq_true_iff]
  exact ne_comm

theorem mem_lastEntries {entries : List (κ × Entity)} {key : κ} {e : Entity} :
    (key, e) ∈ lastEntries entries ↔ entityAt? entries key = some e := by
  induction entries with
  | nil => simp [lastEntries, entityAt?]
  | cons entry rest ih =>
    obtain ⟨k, d⟩ := entry
    rw [entityAt?_cons]
    unfold lastEntries
    by_cases later : (rest.any fun other => other.1 = k) = true
    · rw [if_pos later, ih]
      by_cases hk : key = k
      · subst hk
        obtain ⟨found, h⟩ := Option.ne_none_iff_exists'.mp fun h => entityAt?_eq_none.mp h later
        rw [h, Option.some_or]
      · rw [if_neg hk, Option.or_none]
    · rw [if_neg later, List.mem_cons, ih, Prod.mk.injEq]
      have absent := entityAt?_eq_none.mpr later
      by_cases hk : key = k
      · subst hk
        simp [absent, eq_comm]
      · simp [hk]

theorem nodup_lastEntries (entries : List (κ × Entity)) : ((lastEntries entries).map Prod.fst).Nodup := by
  induction entries with
  | nil => simp [lastEntries]
  | cons entry rest ih =>
    obtain ⟨k, d⟩ := entry
    unfold lastEntries
    by_cases later : (rest.any fun other => other.1 = k) = true
    · rw [if_pos later]
      exact ih
    · rw [if_neg later]
      refine List.nodup_cons.mpr ⟨fun h => ?_, ih⟩
      obtain ⟨⟨_, e⟩, he, rfl⟩ := List.mem_map.mp h
      rw [mem_lastEntries, entityAt?_eq_none.mpr later] at he
      cases he

theorem topLeaves_entityMap (entries : List (κ × Entity)) :
    topLeaves (entityMap name key entries) =
      (lastEntries entries).flatMap fun entry => entry.2.leaves (name ++ "." ++ (key entry.1).text) := by
  rw [← entriesLeaves_entities]
  simp [topLeaves, entityMap, Field.name, fieldLeaves, contentLeaves]

theorem mem_topLeaves_entityMap {entries : List (κ × Entity)} {leaf : String × Atom} :
    leaf ∈ topLeaves (entityMap name key entries) ↔ ∃ k e, entityAt? entries k = some e ∧
      leaf ∈ e.leaves (name ++ "." ++ (key k).text) := by
  rw [topLeaves_entityMap, List.mem_flatMap]
  constructor
  · rintro ⟨⟨k, e⟩, he, h⟩
    exact ⟨k, e, mem_lastEntries.mp he, h⟩
  · rintro ⟨k, e, he, h⟩
    exact ⟨(k, e), mem_lastEntries.mpr he, h⟩

theorem entityMap_subset (distinguishes : Distinguishes key) {xs ys : List (κ × Entity)}
    (sub : ∀ leaf ∈ topLeaves (entityMap name key xs), leaf ∈ topLeaves (entityMap name key ys))
    {k : κ} {e : Entity} (h : entityAt? xs k = some e) : entityAt? ys k = some e := by
  obtain ⟨i, c, hc, names⟩ :=
    mem_topLeaves_entityMap.mp (sub _ (mem_topLeaves_entityMap.mpr ⟨k, e, h, List.mem_cons_self⟩))
  obtain ⟨j, d, hd, values⟩ := mem_topLeaves_entityMap.mp (sub _ (mem_topLeaves_entityMap.mpr
    ⟨k, e, h, List.mem_cons_of_mem _ (List.mem_singleton_self _)⟩))
  obtain ⟨path, name⟩ := Entity.name_of_mem names
  obtain ⟨path', value⟩ := Entity.value_of_mem values
  cases key_of_path distinguishes path
  cases key_of_path distinguishes path'
  -- both leaves come from the one entity at the key
  cases Option.some.inj (hc.symm.trans hd)
  rw [hc, Entity.ext_fields name value]

theorem entityMap_injective (distinguishes : Distinguishes key) {xs ys : List (κ × Entity)}
    (same : SameLeaves (entityMap name key xs) (entityMap name key ys)) (k : κ) :
    entityAt? xs k = entityAt? ys k := by
  refine Option.ext fun e => ⟨?_, ?_⟩
  · exact entityMap_subset distinguishes fun leaf => (same leaf).mp
  · exact entityMap_subset distinguishes fun leaf => (same leaf).mpr

theorem entityMap_fits (named : name ≠ "") (distinguishes : Distinguishes key)
    (entries : List (κ × Entity)) : (entityMap name key entries).Fits where
  exact := by
    refine throughout_of_entities named (fun value hv => ?_) fun values h => by cases h
    obtain ⟨_, hv, e⟩ := List.mem_map.mp hv
    obtain ⟨⟨k, d⟩, -, rfl⟩ := List.mem_map.mp hv
    exact ⟨d, e ▸ rfl⟩
  distinct := by
    rw [topLeaves_entityMap, paths, StringMap.keys, List.map_flatMap]
    refine List.nodup_flatMap.mpr ⟨fun entry _ => entry.2.nodup_leaves _, ?_⟩
    refine (List.pairwise_map.mp (nodup_lastEntries entries)).imp fun differ p hp hq => ?_
    exact differ (key_of_path distinguishes (Entity.path_unique hp hq))

end
end PolicyGate.Demo
