import PolicyGate.Proofs.Demo.Entities
import Std.Data.String.ToInt

/-!
# Demo requests in facts

A demo request has facts, under either policy and without a warning, just when its environment is one of
those declared and its expiry is a valid timestamp; otherwise one of these two fields is named. The facts
determine the request (`Request.flatten_faithful`), where maps count as maps (`Request.Same`).
-/

namespace PolicyGate.Demo

open Message

/-! ## What a request must hold -/

def IsDeclared (environment : Int32) : Prop :=
  environment = 0 ∨ environment = 1 ∨ environment = 2

/-- From 0001-01-01 to 9999-12-31, with less than a second in nanoseconds. -/
structure Timestamp.IsValid (t : Timestamp) : Prop where
  seconds : -62135596800 ≤ t.seconds.toInt ∧ t.seconds.toInt ≤ 253402300799
  nanos : 0 ≤ t.nanos.toInt ∧ t.nanos.toInt ≤ 999999999

def Request.env? : Request → Option Int32
  | create env _ | update env _ | delete env _ => some env
  | read r => some r.env
  | status | watch _ => none

def Request.expireTime? : Request → Option Timestamp
  | read r => r.expireTime
  | status | create .. | update .. | delete .. | watch _ => none

structure Request.IsDerivable (r : Request) : Prop where
  env : ∀ n ∈ r.env?, IsDeclared n
  expireTime : ∀ t ∈ r.expireTime?, t.IsValid

inductive Request.Refused (r : Request) : FlattenError → Prop
  | env {n : Int32} (held : n ∈ r.env?) (undeclared : ¬IsDeclared n) : Refused r (.unnamedEnum "env" n)
  | expireTime {t : Timestamp} {fault : TimestampFault} (held : t ∈ r.expireTime?) (invalid : ¬t.IsValid) :
      Refused r (.invalidTimestamp "expire_time" fault)

/-! ## Requests that are the same -/

structure ReadRequest.Same (r s : ReadRequest) : Prop where
  env : r.env = s.env
  names : r.names = s.names
  expireTime : r.expireTime = s.expireTime
  stuff : ∀ key, entityAt? r.stuff key = entityAt? s.stuff key
  stuff2 : ∀ key, entityAt? r.stuff2 key = entityAt? s.stuff2 key
  stuff3 : ∀ key, entityAt? r.stuff3 key = entityAt? s.stuff3 key
  entities : r.entities = s.entities

/-- The requests are equal, where maps are equal when they have the same entity at each key. -/
def Request.Same : Request → Request → Prop
  | read r, read s => r.Same s
  | r, s => r = s

/-! ## The environment -/

theorem environmentName?_isSome {n : Int32} : (environmentName? n).isSome = true ↔ IsDeclared n := by
  unfold environmentName? IsDeclared
  by_cases h₀ : n = 0
  · simp [h₀]
  by_cases h₁ : n = 1
  · simp [h₁]
  by_cases h₂ : n = 2
  · simp [h₂]
  · simp [h₀, h₁, h₂]

theorem environmentName?_injective {n m : Int32} (hn : IsDeclared n) (hm : IsDeclared m)
    (same : environmentName? n = environmentName? m) : n = m := by
  rcases hn with rfl | rfl | rfl <;> rcases hm with rfl | rfl | rfl <;>
    first | rfl | exact absurd same (by decide)

theorem topLeaves_scalar (name : String) (kind : FieldKind) (s : Scalar) :
    topLeaves (.single name kind (.scalar s)) = leafAt name s.atom? := by
  simp [topLeaves, Field.single, Field.name, fieldLeaves, contentLeaves, valueLeaves]

theorem nodup_leafAt (path : String) (atom : Option Atom) : (paths (leafAt path atom)).Nodup := by
  cases atom with
  | none => exact List.nodup_nil
  | some a => exact List.nodup_singleton path

theorem scalarField_fits {name : String} (named : name ≠ "") {s : Scalar} (exact : s.IsExact) :
    (Field.single name s.kind (.scalar s)).Fits where
  exact := by
    refine ⟨⟨named, isExact_scalar exact name name⟩, fun value hv p g below => ?_⟩
    cases List.mem_singleton.mp hv
    exact below.elim
  distinct := by
    rw [topLeaves_scalar]
    exact nodup_leafAt name _

theorem leafAt_injective {path : String} {x y : Option Atom}
    (same : ∀ leaf, leaf ∈ leafAt path x ↔ leaf ∈ leafAt path y) : x = y := by
  refine Option.ext fun a => ?_
  have := same (path, a)
  simpa [leafAt] using this

theorem scalarField_injective {name : String} {kind : FieldKind} {x y : Scalar}
    (same : SameLeaves (.single name kind (.scalar x)) (.single name kind (.scalar y))) :
    x.atom? = y.atom? := by
  unfold SameLeaves at same
  simp only [topLeaves_scalar] at same
  exact leafAt_injective same

theorem envField_fits {n : Int32} (h : IsDeclared n) : (envField n).Fits :=
  scalarField_fits (s := .enum n (environmentName? n)) (by decide) (environmentName?_isSome.mpr h)

theorem envField_fails {n : Int32} (h : ¬IsDeclared n) : (envField n).Fails (.unnamedEnum "env" n) := by
  have unnamed : environmentName? n = none :=
    Option.not_isSome_iff_eq_none.mp fun named => h (environmentName?_isSome.mp named)
  intro t
  unfold envField
  rw [unnamed]
  simp only [Field.single, Field.name, fieldFacts, contentFacts, valueFacts]
  rfl

theorem envField_injective {n m : Int32} (hn : IsDeclared n) (hm : IsDeclared m)
    (same : SameLeaves (envField n) (envField m)) : n = m := by
  refine environmentName?_injective hn hm ?_
  exact Option.map_injective (fun _ _ => Atom.string.inj) (scalarField_injective same)

/-! ## The expiry -/

def expireField (expireTime : Option Timestamp) : Field :=
  .optional "expire_time" .message (expireTime.map Timestamp.fieldValue)

def Timestamp.fields (t : Timestamp) : List Field :=
  [.single "seconds" .int64 (.scalar (.int64 t.seconds)), .single "nanos" .int32 (.scalar (.int32 t.nanos))]

theorem Timestamp.secondsOf_fields (t : Timestamp) : secondsOf t.fields = t.seconds.toInt := by
  simp [secondsOf, lastOf, Timestamp.fields, Field.single, Field.name, Field.int64?]

theorem Timestamp.nanosOf_fields (t : Timestamp) : nanosOf t.fields = t.nanos.toInt := by
  simp [nanosOf, lastOf, Timestamp.fields, Field.single, Field.name, Field.int32?]

theorem Timestamp.isTimestamp_iff {t : Timestamp} : IsTimestamp t.fields ↔ t.IsValid := by
  constructor
  · intro h
    have seconds := h.seconds_range
    have nanos := h.nanos_range
    rw [t.secondsOf_fields] at seconds
    rw [t.nanosOf_fields] at nanos
    exact ⟨seconds, nanos⟩
  · intro h
    refine ⟨?_, ?_, t.secondsOf_fields ▸ h.seconds, t.nanosOf_fields ▸ h.nanos⟩
    · simp [Timestamp.fields, Field.single, Field.name, Field.int64?]
    · simp [Timestamp.fields, Field.single, Field.name, Field.int32?]

theorem Timestamp.IsValid.exists_instant {t : Timestamp} (h : t.IsValid) :
    ∃ i, instantOf? t.fields = some i ∧ i.seconds = t.seconds.toInt ∧ i.nanos = t.nanos.toInt.toNat := by
  obtain ⟨i, hi⟩ := Option.isSome_iff_exists.mp (isSome_instantOf? (Timestamp.isTimestamp_iff.mpr h))
  refine ⟨i, hi, ?_⟩
  rw [instantOf?, t.secondsOf_fields, t.nanosOf_fields] at hi
  unfold Time.Instant.of? at hi
  split at hi
  · cases hi
    exact ⟨rfl, rfl⟩
  · cases hi

theorem Timestamp.IsValid.eq_of_instant {t u : Timestamp} {i : Time.Instant} (ht : t.IsValid)
    (hu : u.IsValid) (hi : instantOf? t.fields = some i) (hj : instantOf? u.fields = some i) : t = u := by
  obtain ⟨_, hi', seconds, nanos⟩ := ht.exists_instant
  obtain ⟨_, hj', seconds', nanos'⟩ := hu.exists_instant
  cases hi.symm.trans hi'
  cases hj.symm.trans hj'
  have sameSeconds : t.seconds = u.seconds := Int64.toInt_inj.mp (seconds.symm.trans seconds')
  have sameNanos : t.nanos = u.nanos := by
    have := ht.nanos
    have := hu.nanos
    exact Int32.toInt_inj.mp (by omega)
  cases t
  cases u
  cases sameSeconds
  cases sameNanos
  rfl

theorem topLeaves_expireField (expireTime : Option Timestamp) :
    topLeaves (expireField expireTime) =
      leafAt "expire_time" (expireTime.bind fun t => (instantOf? t.fields).map .date) := by
  cases expireTime with
  | none => simp [topLeaves, expireField, Field.optional, fieldLeaves, contentLeaves, leafAt]
  | some t =>
    simp [topLeaves, expireField, Field.optional, Field.name, fieldLeaves, contentLeaves, valueLeaves,
      Timestamp.fieldValue, Timestamp.fields, timestampName]

theorem expireField_fits {expireTime : Option Timestamp} (h : ∀ t ∈ expireTime, t.IsValid) :
    (expireField expireTime).Fits where
  exact := by
    have named : "expire_time" ≠ "" := by decide
    have supported : FieldKind.message ≠ .float ∧ FieldKind.message ≠ .double ∧ FieldKind.message ≠ .group :=
      ⟨nofun, nofun, nofun⟩
    cases expireTime with
    | none =>
      refine ⟨⟨named, supported, fun value hv => ?_, fun _ _ e => by cases e⟩, fun value hv => ?_⟩
      · cases hv
      · cases hv
    | some t =>
      have exact : t.fieldValue.IsExact := fun _ => Timestamp.isTimestamp_iff.mpr (h t rfl)
      refine ⟨⟨named, supported, fun value hv => ?_, fun _ _ e => by cases e⟩, fun value hv p g below => ?_⟩
      · cases List.mem_singleton.mp hv
        exact ⟨rfl, exact⟩
      · cases List.mem_singleton.mp hv
        exact absurd rfl below.1
  distinct := by
    rw [topLeaves_expireField]
    exact nodup_leafAt "expire_time" _

theorem expireField_fails {t : Timestamp} (h : ¬t.IsValid) :
    ∃ fault, (expireField (some t)).Fails (.invalidTimestamp "expire_time" fault) := by
  cases ht : timestampInstant t.fields with
  | ok i => exact absurd (Timestamp.isTimestamp_iff.mp (timestampInstant_eq_ok.mp ht).1) h
  | error fault =>
    refine ⟨fault, fun trail => ?_⟩
    have refused : timestampAtom "expire_time" t.fields =
        throw (.invalidTimestamp "expire_time" fault) := by
      rw [timestampAtom, ht]
    have walk : fieldFacts .reject "expire_time" (expireField (some t)) =
        timestampAtom "expire_time" t.fields >>= fun a => addFact "expire_time" a .empty := by
      simp only [expireField, Field.optional, Option.map_some, Timestamp.fieldValue, fieldFacts,
        contentFacts, valueFacts]
      rfl
    have name : (expireField (some t)).name = "expire_time" := rfl
    rw [name, walk, refused]
    rfl

theorem expireField_injective {x y : Option Timestamp} (hx : ∀ t ∈ x, t.IsValid) (hy : ∀ t ∈ y, t.IsValid)
    (same : SameLeaves (expireField x) (expireField y)) : x = y := by
  unfold SameLeaves at same
  simp only [topLeaves_expireField] at same
  have atoms := leafAt_injective same
  cases x with
  | none =>
    cases y with
    | none => rfl
    | some u =>
      obtain ⟨j, hj, -⟩ := (hy u rfl).exists_instant
      simp [hj] at atoms
  | some t =>
    obtain ⟨i, hi, -⟩ := (hx t rfl).exists_instant
    cases y with
    | none => simp [hi] at atoms
    | some u =>
      obtain ⟨j, hj, -⟩ := (hy u rfl).exists_instant
      simp only [Option.bind_some, hi, hj, Option.map_some, Option.some.injEq, Atom.date.injEq] at atoms
      rw [(hx t rfl).eq_of_instant (hy u rfl) hi (atoms ▸ hj)]

/-! ## Names, and a number of events -/

def namesField (names : List String) : Field :=
  .mk "names" .string (.repeated (names.map fun n => .scalar (.string n)))

theorem topLeaves_namesField (names : List String) :
    topLeaves (namesField names) = [("names", .list (names.map .string))] := by
  simp [topLeaves, namesField, Field.name, fieldLeaves, contentLeaves, List.filterMap_map, Function.comp_def,
    FieldValue.atom?, Scalar.atom?]

theorem namesField_fits (names : List String) : (namesField names).Fits where
  exact := by
    have scalar : ∀ value ∈ (namesField names).content.values "names",
        ∃ n, value.2 = .scalar (.string n) := by
      intro value hv
      obtain ⟨v, hv, e⟩ := List.mem_map.mp hv
      obtain ⟨n, -, rfl⟩ := List.mem_map.mp hv
      exact ⟨n, e ▸ rfl⟩
    refine ⟨⟨(by decide : "names" ≠ ""), ⟨nofun, nofun, nofun⟩, fun value hv => ?_, nofun⟩, ?_⟩
    · obtain ⟨n, hn⟩ := scalar value hv
      rw [hn]
      exact ⟨rfl, trivial⟩
    · intro value hv p g below
      obtain ⟨n, hn⟩ := scalar value hv
      rw [hn] at below
      exact below.elim
  distinct := by
    rw [topLeaves_namesField]
    exact List.nodup_singleton _

theorem namesField_injective {xs ys : List String} (same : SameLeaves (namesField xs) (namesField ys)) :
    xs = ys := by
  unfold SameLeaves at same
  simp only [topLeaves_namesField] at same
  have leaf := List.mem_singleton.mp ((same _).mp (List.mem_singleton_self _))
  have atoms := Atom.list.inj (Prod.mk.inj leaf).2
  exact List.map_injective_iff.mpr (fun _ _ => Atom.string.inj) atoms

theorem maxEvents_injective {x y : UInt32}
    (same : SameLeaves (.single "max_events" .uint32 (.scalar (.uint32 x)))
      (.single "max_events" .uint32 (.scalar (.uint32 y)))) : x = y := by
  obtain ⟨i, atom, number⟩ := Scalar.exists_integer (s := .uint32 x) trivial rfl
  obtain ⟨j, atom', number'⟩ := Scalar.exists_integer (s := .uint32 y) trivial rfl
  have atoms := scalarField_injective same
  rw [atom, atom'] at atoms
  cases atoms
  exact UInt32.toNat_inj.mp (by omega)

/-! ## Keys -/

theorem distinguishes_string : Distinguishes MapKey.string := fun _ _ h => h

theorem distinguishes_int : Distinguishes MapKey.int := fun _ _ h =>
  Int64.toInt_inj.mp (Int.repr_injective h)

theorem distinguishes_bool : Distinguishes MapKey.bool := by
  intro a b h
  cases a <;> cases b <;> first | rfl | exact absurd h (by decide)

/-! ## Requests -/

theorem Request.separated (r : Request) : Separated r.message.fields := by
  cases r with
  | status => exact ⟨List.forall_mem_nil _, List.nodup_nil⟩
  | _ =>
    refine ⟨?_, ?_⟩
    · unfold IsPlain
      simp [Request.message, envField, entityMap, Field.single, Field.optional, Field.name]
    · simp [Request.message, envField, entityMap, Field.single, Field.optional, Field.name]

theorem Request.fits {r : Request} (h : r.IsDerivable) : ∀ f ∈ r.message.fields, f.Fits := by
  cases r with
  | status => exact List.forall_mem_nil _
  | create env entity =>
    exact List.forall_mem_cons.mpr ⟨envField_fits (h.env env rfl),
      List.forall_mem_singleton.mpr (entityField_fits (by decide) entity)⟩
  | update env entity =>
    exact List.forall_mem_cons.mpr ⟨envField_fits (h.env env rfl),
      List.forall_mem_singleton.mpr (entityField_fits (by decide) entity)⟩
  | delete env name =>
    exact List.forall_mem_cons.mpr ⟨envField_fits (h.env env rfl),
      List.forall_mem_singleton.mpr (scalarField_fits (s := .string name) (by decide) trivial)⟩
  | watch maxEvents =>
    exact List.forall_mem_singleton.mpr (scalarField_fits (s := .uint32 maxEvents) (by decide) trivial)
  | read r =>
    simp only [Request.message, List.forall_mem_cons, List.not_mem_nil, false_implies, implies_true, and_true]
    exact ⟨envField_fits (h.env r.env rfl), namesField_fits r.names, expireField_fits h.expireTime,
      entityMap_fits (by decide) distinguishes_string r.stuff,
      entityMap_fits (by decide) distinguishes_int r.stuff2,
      entityMap_fits (by decide) distinguishes_bool r.stuff3, entityList_fits (by decide) r.entities⟩

theorem Request.exists_refused {r : Request} (h : ¬r.IsDerivable) (policy : UnsupportedFields) :
    ∃ e, r.Refused e ∧ flatten policy r.message = (.error e, []) := by
  by_cases env : ∀ n ∈ r.env?, IsDeclared n
  · have expireTime : ¬∀ t ∈ r.expireTime?, t.IsValid := fun expireTime => h ⟨env, expireTime⟩
    cases r with
    | read r =>
      obtain ⟨t, invalid⟩ := not_forall.mp expireTime
      obtain ⟨held, invalid⟩ := Classical.not_imp.mp invalid
      obtain ⟨fault, fails⟩ := expireField_fails invalid
      have start : ∃ after, (read r).message.fields =
          [envField r.env, namesField r.names] ++ expireField (some t) :: after := by
        have present : r.expireTime = some t := held
        rw [← present]
        exact ⟨_, rfl⟩
      obtain ⟨after, start⟩ := start
      refine ⟨_, .expireTime held invalid, flatten_of_fails start ?_ ?_ fails id policy⟩
      · refine ⟨?_, ?_⟩
        · unfold IsPlain
          simp [envField, namesField, Field.single, Field.name]
        · simp [envField, namesField, Field.single, Field.name]
      · exact List.forall_mem_cons.mpr ⟨envField_fits (env r.env rfl),
          List.forall_mem_singleton.mpr (namesField_fits r.names)⟩
    | _ => exact absurd (fun t ht => by cases ht) expireTime
  · obtain ⟨n, undeclared⟩ := not_forall.mp env
    obtain ⟨held, undeclared⟩ := Classical.not_imp.mp undeclared
    have fails := envField_fails undeclared
    have start : ∃ after, r.message.fields = envField n :: after := by
      cases r with
      | status => cases held
      | watch maxEvents => cases held
      | _ => cases held; exact ⟨_, rfl⟩
    obtain ⟨after, start⟩ := start
    have start : r.message.fields = [] ++ envField n :: after := start
    have none : ∀ g ∈ ([] : List Field), g.Fits := List.forall_mem_nil _
    exact ⟨_, .env held undeclared,
      flatten_of_fails start ⟨List.forall_mem_nil _, List.nodup_nil⟩ none fails id policy⟩

theorem Request.same_of_perm {r s : Request} (type : s.message.name = r.message.name) (hr : r.IsDerivable)
    (hs : s.IsDerivable) (perm : r.message.leaves.Perm s.message.leaves) : r.Same s := by
  have fields (names : r.message.fields.map Field.name = s.message.fields.map Field.name) :
      List.Forall₂ SameLeaves r.message.fields s.message.fields :=
    r.separated.forall₂_sameLeaves s.separated names perm
  cases r with
  | status =>
    cases s with
    | status => rfl
    | _ => simp [Request.message] at type
  | create env entity =>
    cases s with
    | create env' entity' =>
      obtain _ | ⟨sameEnv, _ | ⟨sameEntity, -⟩⟩ := fields rfl
      rw [envField_injective (hr.env env rfl) (hs.env env' rfl) sameEnv, entityField_injective sameEntity]
      rfl
    | _ => simp [Request.message] at type
  | update env entity =>
    cases s with
    | update env' entity' =>
      obtain _ | ⟨sameEnv, _ | ⟨sameEntity, -⟩⟩ := fields rfl
      rw [envField_injective (hr.env env rfl) (hs.env env' rfl) sameEnv, entityField_injective sameEntity]
      rfl
    | _ => simp [Request.message] at type
  | delete env name =>
    cases s with
    | delete env' name' =>
      obtain _ | ⟨sameEnv, _ | ⟨sameName, -⟩⟩ := fields rfl
      have names : name = name' := Atom.string.inj (Option.some.inj (scalarField_injective sameName))
      rw [envField_injective (hr.env env rfl) (hs.env env' rfl) sameEnv, names]
      rfl
    | _ => simp [Request.message] at type
  | watch maxEvents =>
    cases s with
    | watch maxEvents' =>
      obtain _ | ⟨sameEvents, -⟩ := fields rfl
      rw [maxEvents_injective sameEvents]
      rfl
    | _ => simp [Request.message] at type
  | read r =>
    cases s with
    | read s =>
      obtain _ | ⟨env, _ | ⟨names, _ | ⟨expireTime, _ | ⟨stuff, _ | ⟨stuff2, _ | ⟨stuff3, _ | ⟨entities, -⟩⟩⟩⟩⟩⟩⟩ :=
        fields rfl
      exact
        { env := envField_injective (hr.env r.env rfl) (hs.env s.env rfl) env
          names := namesField_injective names
          expireTime := expireField_injective hr.expireTime hs.expireTime expireTime
          stuff := entityMap_injective distinguishes_string stuff
          stuff2 := entityMap_injective distinguishes_int stuff2
          stuff3 := entityMap_injective distinguishes_bool stuff3
          entities := entityList_injective entities }
    | _ => simp [Request.message] at type

/-- A request is flattened, without a warning and under either policy, just when its environment is
declared and its expiry is valid; otherwise one of the two is named. Requests of one type with the same
facts are the same. -/
theorem Request.flatten_faithful (policy : UnsupportedFields) (r : Request) :
    ((∃ facts, flatten policy r.message = (.ok facts, [])) ↔ r.IsDerivable) ∧
      (flatten policy r.message).2 = [] ∧
      (∀ e, (flatten policy r.message).1 = .error e → r.Refused e) ∧
      ∀ s policy' facts, s.message.name = r.message.name → (flatten policy r.message).1 = .ok facts →
        (flatten policy' s.message).1 = .ok facts → r.Same s := by
  by_cases h : r.IsDerivable
  · obtain ⟨facts, run, perm⟩ := flatten_of_fits r.separated (Request.fits h) policy
    refine ⟨iff_of_true ⟨facts, run⟩ h, by rw [run], fun e he => ?_, ?_⟩
    · rw [run] at he
      cases he
    · intro s policy' facts' type hr hs
      rw [run] at hr
      cases hr
      by_cases h' : s.IsDerivable
      · obtain ⟨others, run', perm'⟩ := flatten_of_fits s.separated (Request.fits h') policy'
        rw [run'] at hs
        cases hs
        exact Request.same_of_perm type h h' (perm.symm.trans perm')
      · obtain ⟨e, -, run'⟩ := Request.exists_refused h' policy'
        rw [run'] at hs
        cases hs
  · obtain ⟨e, refused, run⟩ := Request.exists_refused h policy
    refine ⟨iff_of_false ?_ h, by rw [run], fun e' he => ?_, fun s policy' facts _ hr => ?_⟩
    · rintro ⟨facts, run'⟩
      rw [run] at run'
      cases run'
    · rw [run] at he
      cases he
      exact refused
    · rw [run] at hr
      cases hr

end PolicyGate.Demo
