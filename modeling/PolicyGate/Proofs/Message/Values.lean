import PolicyGate.Proofs.Message.Leaves
import PolicyGate.Proofs.Message.Walk

/-!
# The atoms of values

Scalars and timestamps become their atoms just when they are exact (`scalarAtom_yields`,
`timestampAtom_yields`); the list of a repeated scalar field has one atom for each element
(`leafAtoms_yield`).
-/

namespace PolicyGate

open Time (Instant)

/-! ## Scalars -/

theorem Scalar.number_bounds {s : Scalar} {n : Int} (exact : s.IsExact) (hn : s.number? = some n) :
    -9223372036854775808 ≤ n ∧ n ≤ 9223372036854775807 := by
  cases s with
  | bool b =>
    cases hn
    cases b <;> decide
  | int32 k =>
    cases hn
    have := k.toInt_lt
    have := k.le_toInt
    omega
  | int64 k =>
    cases hn
    have := k.toInt_lt
    have := k.le_toInt
    omega
  | uint32 k =>
    cases hn
    have := k.toNat_lt
    omega
  | uint64 k =>
    cases hn
    have bound : (k.toNat : Int) ≤ 9223372036854775807 := exact
    omega
  | _ => cases hn

theorem Scalar.exists_integer {s : Scalar} {n : Int} (exact : s.IsExact) (hn : s.number? = some n) :
    ∃ i : Int64, s.atom? = some (.integer i) ∧ i.toInt = n := by
  obtain ⟨low, high⟩ := Scalar.number_bounds exact hn
  refine ⟨Int64.ofInt n, ?_, Int64.toInt_ofInt_of_le (by omega) (by omega)⟩
  cases s with
  | bool _ | int32 _ | int64 _ | uint32 _ | uint64 _ =>
    exact congrArg (Option.map fun n => Atom.integer (Int64.ofInt n)) hn
  | _ => cases hn

theorem Scalar.isSome_atom? {s : Scalar} (h : s.IsExact) : s.atom?.isSome = true := by
  cases s with
  | enum number name =>
    cases name with
    | none => exact h
    | some name => rfl
  | float => exact h.elim
  | double => exact h.elim
  | group => exact h.elim
  | _ => rfl

namespace Message

theorem scalarAtom_yields (path : String) (declared : FieldKind) (s : Scalar) :
    Yields (scalarAtom path declared s) fun a => (s.kind = declared ∧ s.IsExact) ∧ s.atom? = some a := by
  unfold scalarAtom
  by_cases hk : s.kind = declared
  · rw [if_neg (not_not_intro hk)]
    -- The atom that is returned, once the scalar is known to be exact.
    have returned : ∀ a, s.IsExact → s.atom? = some a →
        Yields (pure a : Walk Atom) fun b => (s.kind = declared ∧ s.IsExact) ∧ s.atom? = some b := by
      intro a he ha
      refine (yields_pure a).congr fun b => ?_
      rw [ha]
      simp [hk, he, eq_comm]
    have refused : ∀ e, ¬ s.IsExact →
        Yields (throw e : Walk Atom) fun b => (s.kind = declared ∧ s.IsExact) ∧ s.atom? = some b := by
      intro e he
      refine (yields_throw e).congr fun b => ?_
      simp [he]
    cases s with
    | bool b =>
      refine returned _ trivial ?_
      cases b <;> rfl
    | int32 n => exact returned _ trivial (by simp [Scalar.atom?, Scalar.number?])
    | int64 n => exact returned _ trivial (by simp [Scalar.atom?, Scalar.number?])
    | uint32 n => exact returned _ trivial (by simp [Scalar.atom?, Scalar.number?, Int64.ofInt_eq_ofNat])
    | uint64 n =>
      show Yields (if (n.toNat : Int) ≤ Int64.maxValue.toInt then _ else _) _
      by_cases hn : (n.toNat : Int) ≤ Int64.maxValue.toInt
      · rw [if_pos hn]
        exact returned _ hn (by simp [Scalar.atom?, Scalar.number?, Int64.ofInt_eq_ofNat])
      · rw [if_neg hn]
        exact refused _ hn
    | string s => exact returned _ trivial rfl
    | bytes bs => exact returned _ trivial rfl
    | enum number name =>
      cases name with
      | none => exact refused _ (by simp [Scalar.IsExact])
      | some name => exact returned _ rfl rfl
    | float => exact refused _ id
    | double => exact refused _ id
    | group => exact refused _ id
  · rw [if_pos hk]
    refine (yields_throw _).congr fun a => ?_
    simp [hk]

theorem still_scalarAtom (path : String) (declared : FieldKind) (s : Scalar) :
    Still (scalarAtom path declared s) := by
  unfold scalarAtom
  by_cases hk : s.kind ≠ declared
  · rw [if_pos hk]
    exact still_throw _
  · rw [if_neg hk]
    cases s with
    | uint64 n =>
      by_cases hn : (n.toNat : Int) ≤ Int64.maxValue.toInt
      · simp only [if_pos hn]
        exact still_pure _
      · simp only [if_neg hn]
        exact still_throw _
    | enum number name =>
      cases name with
      | none => exact still_throw _
      | some name => exact still_pure _
    | float | double | group => exact still_throw _
    | _ => exact still_pure _

/-! ## Repeated scalars -/

theorem leafAtom_yields {declared : FieldKind} (hd : declared ≠ .message) (path : String)
    (value : FieldValue) :
    Yields (leafAtom path declared value) fun a =>
      (value.kind = declared ∧ value.IsExact) ∧ value.atom? = some a := by
  cases value with
  | scalar s => exact scalarAtom_yields path declared s
  | message name fields =>
    have mismatch : FieldKind.message ≠ declared := fun h => hd h.symm
    refine (yields_throw _).congr fun a => ?_
    simp [FieldValue.kind, mismatch]

theorem FieldValue.isSome_atom? {declared : FieldKind} (hd : declared ≠ .message) {value : FieldValue}
    (h : value.kind = declared ∧ value.IsExact) : value.atom?.isSome = true := by
  cases value with
  | scalar s => exact Scalar.isSome_atom? h.2
  | message name fields => exact absurd h.1.symm hd

theorem forall₂_read {α β : Type} {ok : α → Prop} {read : α → Option β}
    (h : ∀ x, ok x → (read x).isSome = true) {xs : List α} {ys : List β} :
    List.Forall₂ (fun x y => ok x ∧ read x = some y) xs ys ↔
      (∀ x ∈ xs, ok x) ∧ ys = xs.filterMap read := by
  induction xs generalizing ys with
  | nil => simp
  | cons x xs ih =>
    rw [List.forall_mem_cons]
    constructor
    · rintro (_ | ⟨⟨hx, hr⟩, hxs⟩)
      obtain ⟨hok, rfl⟩ := ih.mp hxs
      exact ⟨⟨hx, hok⟩, by rw [List.filterMap_cons_some hr]⟩
    · rintro ⟨⟨hx, hok⟩, rfl⟩
      obtain ⟨y, hr⟩ := Option.isSome_iff_exists.mp (h x hx)
      rw [List.filterMap_cons_some hr]
      exact .cons ⟨hx, hr⟩ (ih.mpr ⟨hok, rfl⟩)

theorem leafAtoms_yield {declared : FieldKind} (hd : declared ≠ .message) (path : String)
    (values : List FieldValue) :
    Yields (values.mapM (leafAtom path declared)) fun atoms =>
      (∀ value ∈ values, value.kind = declared ∧ value.IsExact) ∧
        atoms = values.filterMap FieldValue.atom? := by
  refine (Yields.mapM fun value _ => leafAtom_yields hd path value).congr fun atoms => ?_
  exact forall₂_read fun value h => FieldValue.isSome_atom? hd h

/-! ## Timestamps -/

theorem lastOf_cons {α : Type} (read : Field → Option α) (name : String) (otherwise : α) (f : Field)
    (fields : List Field) :
    lastOf read name otherwise (f :: fields) =
      if f.name = name then lastOf read name ((read f).getD otherwise) fields
      else lastOf read name otherwise fields := by
  unfold lastOf
  by_cases hn : f.name = name
  · rw [if_pos hn, List.filter_cons_of_pos (by simpa using hn)]
    cases hr : read f with
    | none => rw [List.filterMap_cons_none hr]; rfl
    | some a => rw [List.filterMap_cons_some hr, List.getLast?_cons]; rfl
  · rw [if_neg hn, List.filter_cons_of_neg (by simpa using hn)]

theorem int64?_eq_some {f : Field} {n : Int64} :
    f.int64? = some n ↔ f.content = .single (.scalar (.int64 n)) := by
  unfold Field.int64?
  split
  · simp [Field.content]
  · next hne =>
    constructor
    · intro h; cases h
    · intro h
      cases f with
      | mk name kind content => exact (hne name kind n (congrArg (Field.mk name kind) h)).elim

theorem int32?_eq_some {f : Field} {n : Int32} :
    f.int32? = some n ↔ f.content = .single (.scalar (.int32 n)) := by
  unfold Field.int32?
  split
  · simp [Field.content]
  · next hne =>
    constructor
    · intro h; cases h
    · intro h
      cases f with
      | mk name kind content => exact (hne name kind n (congrArg (Field.mk name kind) h)).elim

theorem timestampParts_eq_ok {fields : List Field} {seconds s : Int64} {nanos n : Int32} :
    timestampParts seconds nanos fields = .ok (s, n) ↔
      ((∀ f ∈ fields, f.name = "seconds" → f.int64?.isSome = true) ∧
        ∀ f ∈ fields, f.name = "nanos" → f.int32?.isSome = true) ∧
      s = lastOf Field.int64? "seconds" seconds fields ∧ n = lastOf Field.int32? "nanos" nanos fields := by
  induction fields generalizing seconds nanos with
  | nil =>
    constructor
    · intro h
      cases h
      simp [lastOf]
    · rintro ⟨-, rfl, rfl⟩
      rfl
  | cons f fields ih =>
    rw [lastOf_cons, lastOf_cons, List.forall_mem_cons, List.forall_mem_cons]
    unfold timestampParts
    by_cases hs : f.name = "seconds"
    · have hn : f.name ≠ "nanos" := by rw [hs]; decide
      rw [if_pos hs, if_pos hs, if_neg hn]
      split
      · next k hk =>
        rw [ih, int64?_eq_some.mpr hk]
        simp [hn]
      · next hne =>
        have missing : f.int64? = none :=
          Option.eq_none_iff_forall_ne_some.mpr fun k hk => hne k (int64?_eq_some.mp hk)
        simp [missing, hs]
    · rw [if_neg hs, if_neg hs]
      by_cases hn : f.name = "nanos"
      · rw [if_pos hn, if_pos hn]
        split
        · next k hk =>
          rw [ih, int32?_eq_some.mpr hk]
          simp [hs]
        · next hne =>
          have missing : f.int32? = none :=
            Option.eq_none_iff_forall_ne_some.mpr fun k hk => hne k (int32?_eq_some.mp hk)
          simp [missing, hn]
      · rw [if_neg hn, if_neg hn, ih]
        simp [hs, hn]

theorem IsTimestamp.isInstant {fields : List Field} (h : IsTimestamp fields) :
    Time.IsInstant (secondsOf fields) (nanosOf fields).toNat := by
  have := h.seconds_range
  have := h.nanos_range
  unfold Time.IsInstant Time.earliestSecond Time.latestSecond Time.nanosPerSecond
  omega

theorem timestampInstant_eq_ok {fields : List Field} {t : Instant} :
    timestampInstant fields = .ok t ↔ IsTimestamp fields ∧ instantOf? fields = some t := by
  unfold timestampInstant
  cases hp : timestampParts 0 0 fields with
  | error fault =>
    constructor
    · intro h; cases h
    · rintro ⟨⟨hs, hn, _, _⟩, _⟩
      rw [timestampParts_eq_ok.mpr ⟨⟨hs, hn⟩, rfl, rfl⟩] at hp
      cases hp
  | ok parts =>
    obtain ⟨s, n⟩ := parts
    obtain ⟨⟨hs, hn⟩, rfl, rfl⟩ := timestampParts_eq_ok.mp hp
    simp only [bind, Except.bind]
    constructor
    · intro h
      split at h
      · next hsr =>
        split at h
        · next hnr =>
          have exact : IsTimestamp fields := ⟨hs, hn, hsr, hnr⟩
          cases h
          exact ⟨exact, dif_pos exact.isInstant⟩
        · cases h
      · cases h
    · rintro ⟨exact, ht⟩
      rw [instantOf?, Instant.of?, dif_pos exact.isInstant] at ht
      cases ht
      exact (dif_pos exact.seconds_range).trans (dif_pos exact.nanos_range)

theorem timestampAtom_yields (path : String) (fields : List Field) :
    Yields (timestampAtom path fields) fun a =>
      IsTimestamp fields ∧ (instantOf? fields).map .date = some a := by
  unfold timestampAtom
  cases ht : timestampInstant fields with
  | ok t =>
    obtain ⟨exact, found⟩ := timestampInstant_eq_ok.mp ht
    refine (yields_pure _).congr fun a => ?_
    simp [exact, found, eq_comm]
  | error fault =>
    refine (yields_throw _).congr fun a => ?_
    constructor
    · exact False.elim
    · rintro ⟨exact, ha⟩
      obtain ⟨t, found, -⟩ := Option.map_eq_some_iff.mp ha
      rw [timestampInstant_eq_ok.mpr ⟨exact, found⟩] at ht
      cases ht

theorem still_timestampAtom (path : String) (fields : List Field) : Still (timestampAtom path fields) := by
  unfold timestampAtom
  cases timestampInstant fields with
  | ok t => exact still_pure _
  | error fault => exact still_throw _

theorem isSome_instantOf? {fields : List Field} (h : IsTimestamp fields) :
    (instantOf? fields).isSome = true := by
  rw [instantOf?, Instant.of?, dif_pos h.isInstant]
  rfl

end Message
end PolicyGate
