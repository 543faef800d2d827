import PolicyGate.Proofs.Message.Dropping

/-!
# What walks come to

`Draws` describes a walk under either policy, up to the order in which paths are dropped: which results
it has, whatever the trail, and which paths it drops. `Plain` walks, which drop nothing and fail in one
sort of way, are dropped alike (`Plain.exists_draws`). A walk that adds to the facts brings a `Gain`, the
same one whatever the facts are; gains can be added up in any order.
-/

namespace PolicyGate.Message

open Data (StringMap)

section
variable {α β : Type} {policy : UnsupportedFields} {w : Walk α} {P Q : α → Prop} {ds es : List String}

/-- The walk succeeds with just the results in `P`, whatever the trail, and then drops the paths `ds` in
some order. Where fields may be dropped, it fails for none that has no exact form. -/
structure Draws (policy : UnsupportedFields) (w : Walk α) (P : α → Prop) (ds : List String) : Prop where
  result : ∀ t x, (∃ t', w.run t = (.ok x, t')) ↔ P x
  dropped : ∀ {t x t'}, w.run t = (.ok x, t') → t'.dropped.Perm (t.dropped ++ ds)
  settles : policy = .drop → Settles w

theorem Draws.congr (h : Draws policy w P ds) (hPQ : ∀ x, P x ↔ Q x) : Draws policy w Q ds where
  result t x := (h.result t x).trans (hPQ x)
  dropped := h.dropped
  settles := h.settles

theorem Draws.perm (h : Draws policy w P ds) (hd : ds.Perm es) : Draws policy w P es where
  result := h.result
  dropped run := (h.dropped run).trans (hd.append_left _)
  settles := h.settles

theorem Draws.unique (h : Draws policy w P ds) {x y : α} (hx : P x) (hy : P y) : x = y := by
  obtain ⟨t, run⟩ := (h.result {} x).mpr hx
  obtain ⟨t', run'⟩ := (h.result {} y).mpr hy
  rw [run] at run'
  cases run'
  rfl

theorem Yields.draws (h : Yields w P) (settles : policy = .drop → Settles w) :
    Draws policy w P [] where
  result t x := by
    constructor
    · rintro ⟨t', run⟩
      exact ((h t x t').mp run).1
    · intro hx
      exact ⟨t, (h t x t).mpr ⟨hx, rfl⟩⟩
  dropped {t x t'} run := by
    obtain ⟨-, rfl⟩ := (h t x t').mp run
    rw [List.append_nil]
  settles := settles

theorem draws_pure (x : α) : Draws policy (pure x) (fun y => y = x) [] :=
  (yields_pure x).draws fun _ => settles_pure x

theorem draws_throw {e : FlattenError} (other : ∀ path kind, e ≠ .unsupportedKind path kind) :
    Draws policy (throw e : Walk α) (fun _ => False) [] :=
  (yields_throw e).draws fun _ t path kind t' run => by
    cases run
    exact other path kind rfl

theorem draws_warn (warning : DropWarning) :
    Draws policy (modify fun t => { t with warnings := t.warnings ++ [warning] } : Walk Unit)
      (fun _ => True) [] where
  result _ _ := ⟨fun _ => trivial, fun _ => ⟨_, rfl⟩⟩
  dropped run := by
    cases run
    rw [List.append_nil]
  settles _ t path kind t' run := by cases run

theorem Draws.bind {f : α → Walk β} {R : α → β → Prop} (hw : Draws policy w P ds)
    (hf : ∀ x, P x → Draws policy (f x) (R x) es) :
    Draws policy (w >>= f) (fun y => ∃ x, P x ∧ R x y) (ds ++ es) where
  result t y := by
    constructor
    · rintro ⟨t', run⟩
      obtain ⟨x, t₁, first, second⟩ := run_bind_eq_ok run
      have hx := (hw.result t x).mp ⟨t₁, first⟩
      exact ⟨x, hx, ((hf x hx).result t₁ y).mp ⟨t', second⟩⟩
    · rintro ⟨x, hx, hy⟩
      obtain ⟨t₁, first⟩ := (hw.result t x).mpr hx
      obtain ⟨t', second⟩ := ((hf x hx).result t₁ y).mpr hy
      refine ⟨t', ?_⟩
      rw [run_bind, first]
      exact second
  dropped {t y t'} run := by
    obtain ⟨x, t₁, first, second⟩ := run_bind_eq_ok run
    have hx := (hw.result t x).mp ⟨t₁, first⟩
    have later := (hf x hx).dropped second
    rw [← List.append_assoc]
    exact later.trans ((hw.dropped first).append_right es)
  settles hp t path kind t' run := by
    rcases run_bind_eq_error run with first | ⟨x, t₁, first, second⟩
    · exact hw.settles hp t path kind t' first
    · have hx := (hw.result t x).mp ⟨t₁, first⟩
      exact (hf x hx).settles hp t₁ path kind t' second

/-- Paths that are dropped apart are gone behind a walk that looks at them in any order. -/
theorem Draws.ownDropped {f : α × List String → Walk β} {R : α → β → Prop} (hw : Draws policy w P ds)
    (hf : ∀ x own, P x → own.Perm ds → Draws policy (f (x, own)) (R x) []) :
    Draws policy (withOwnDropped w >>= f) (fun y => ∃ x, P x ∧ R x y) [] := by
  -- what the walk comes to when it starts with nothing dropped
  have own {t x own t'} (run : (withOwnDropped w).run t = (.ok (x, own), t')) :
      P x ∧ own.Perm ds ∧ t'.dropped = t.dropped := by
    obtain ⟨t₁, first, rfl, rfl⟩ := run_withOwnDropped_eq_ok run
    exact ⟨(hw.result _ x).mp ⟨t₁, first⟩, hw.dropped first, rfl⟩
  refine ⟨fun t y => ⟨?_, ?_⟩, fun run => ?_, fun hp t path kind t' run => ?_⟩
  · rintro ⟨t', run⟩
    obtain ⟨⟨x, ps⟩, t₁, first, second⟩ := run_bind_eq_ok run
    obtain ⟨hx, hps, -⟩ := own first
    exact ⟨x, hx, ((hf x ps hx hps).result t₁ y).mp ⟨t', second⟩⟩
  · rintro ⟨x, hx, hy⟩
    obtain ⟨t₁, first⟩ := (hw.result { t with dropped := [] } x).mpr hx
    obtain ⟨t', second⟩ := ((hf x t₁.dropped hx (hw.dropped first)).result
      { t₁ with dropped := t.dropped } y).mpr hy
    refine ⟨t', ?_⟩
    rw [run_bind, run_withOwnDropped, first]
    exact second
  · obtain ⟨⟨x, ps⟩, t₁, first, second⟩ := run_bind_eq_ok run
    obtain ⟨hx, hps, same⟩ := own first
    rw [← same]
    exact (hf x ps hx hps).dropped second
  · rcases run_bind_eq_error run with first | ⟨⟨x, ps⟩, t₁, first, second⟩
    · obtain ⟨t₁, failed, -⟩ := run_withOwnDropped_eq_error first
      exact hw.settles hp _ path kind t₁ failed
    · obtain ⟨hx, hps, -⟩ := own first
      exact (hf x ps hx hps).settles hp t₁ path kind t' second

end

/-! ## Plain walks -/

section
variable {α β : Type} {w : Walk α} {P : α → Prop} {unsupported : Prop}

/-- A walk that leaves the trail as it is, and whose failures are all for want of an exact form, or none
of them is. -/
structure Plain (w : Walk α) (P : α → Prop) (unsupported : Prop) : Prop where
  yields : Yields w P
  still : Still w
  sort : ∀ {t e t'}, w.run t = (.error e, t') →
    ((∃ path kind, e = .unsupportedKind path kind) ↔ unsupported)

theorem Plain.congr {Q : α → Prop} (h : Plain w P unsupported) (hPQ : ∀ x, P x ↔ Q x) :
    Plain w Q unsupported where
  yields := h.yields.congr hPQ
  still := h.still
  sort := h.sort

theorem plain_pure (x : α) : Plain (pure x) (fun y => y = x) unsupported where
  yields := yields_pure x
  still := still_pure x
  sort run := by cases run

theorem plain_throw {e : FlattenError}
    (h : (∃ path kind, e = .unsupportedKind path kind) ↔ unsupported) :
    Plain (throw e : Walk α) (fun _ => False) unsupported where
  yields := yields_throw e
  still := still_throw e
  sort run := by
    cases run
    exact h

theorem Plain.bind {f : α → Walk β} {R : α → β → Prop} (hw : Plain w P unsupported)
    (hf : ∀ x, P x → Plain (f x) (R x) unsupported) :
    Plain (w >>= f) (fun y => ∃ x, P x ∧ R x y) unsupported where
  yields := hw.yields.bind fun x hx => (hf x hx).yields
  still t := by
    have first := hw.still t
    rw [run_bind]
    cases hr : w.run t with
    | mk r t' =>
      rw [hr] at first
      cases first
      cases r with
      | ok x => exact (hf x ((hw.yields t' x t').mp hr).1).still t'
      | error e => rfl
  sort run := by
    rcases run_bind_eq_error run with first | ⟨x, t₁, first, second⟩
    · exact hw.sort first
    · exact (hf x ((hw.yields _ x t₁).mp first).1).sort second

theorem Plain.mapM {f : α → Walk β} {R : α → β → Prop} {xs : List α}
    (h : ∀ x ∈ xs, Plain (f x) (R x) unsupported) :
    Plain (xs.mapM f) (List.Forall₂ R xs) unsupported := by
  induction xs with
  | nil =>
    rw [List.mapM_nil]
    refine (plain_pure []).congr fun ys => ?_
    simp
  | cons x xs ih =>
    obtain ⟨hx, hxs⟩ := List.forall_mem_cons.mp h
    rw [List.mapM_cons]
    refine (hx.bind fun y _ => (ih hxs).bind fun ys _ => plain_pure (y :: ys)).congr fun zs => ?_
    rw [List.forall₂_cons_left_iff]
    simp only [exists_and_left]

end

/-! ## Dropping -/

section
variable {policy : UnsupportedFields} {w : Walk FactSet} {P : FactSet → Prop} {ds : List String}

theorem run_orDrop (settles : policy = .drop → Settles w) (message path : String) (t : Trail) :
    (orDrop policy message path w).run t = w.run t := by
  cases policy with
  | reject => exact run_orDrop_reject w message path t
  | drop =>
    rw [run_orDrop_drop]
    split
    · next p kind t' failed => exact absurd failed (settles rfl t p kind t')
    · rfl

theorem Draws.orDrop (h : Draws policy w P ds) (message path : String) :
    Draws policy (orDrop policy message path w) P ds := by
  have same := run_orDrop h.settles message path
  refine ⟨fun t x => ?_, fun {t x t'} run => ?_, fun hp t p kind t' run => ?_⟩
  · rw [same]
    exact h.result t x
  · rw [same] at run
    exact h.dropped run
  · rw [same] at run
    exact h.settles hp t p kind t' run

/-- Plain walks with the same results and the same sort of failures are dropped alike. -/
theorem Plain.exists_draws (policy : UnsupportedFields) (P : FactSet → Prop) (unsupported : Prop)
    (message path : String) :
    ∃ Q ds, ∀ w, Plain w P unsupported → Draws policy (Message.orDrop policy message path w) Q ds := by
  by_cases drops : policy = .drop ∧ unsupported
  · obtain ⟨rfl, hu⟩ := drops
    by_cases succeeds : ∃ m, P m
    · refine ⟨P, [], fun w h => Draws.orDrop (h.yields.draws ?_) message path⟩
      obtain ⟨m, hm⟩ := succeeds
      intro _ t p kind t' failed
      have run := (h.yields t m t).mpr ⟨hm, rfl⟩
      rw [failed] at run
      cases run
    · -- the walk fails, and the field is dropped
      refine ⟨fun facts => facts = .empty, [path], fun w h => ?_⟩
      have run (t : Trail) : ∃ warning, (Message.orDrop .drop message path w).run t =
          (.ok .empty, ⟨t.dropped ++ [path], t.warnings ++ [warning]⟩) := by
        have same := h.still t
        rw [run_orDrop_drop]
        cases hr : w.run t with
        | mk r t' =>
          rw [hr] at same
          cases same
          cases r with
          | ok m => exact absurd ⟨m, ((h.yields t' m t').mp hr).1⟩ succeeds
          | error e =>
            obtain ⟨p, kind, rfl⟩ := (h.sort hr).mpr hu
            exact ⟨_, rfl⟩
      refine ⟨fun t facts => ?_, fun {t facts t'} hr => ?_, fun _ => settles_orDrop w message path⟩
      · obtain ⟨warning, hr⟩ := run t
        rw [hr]
        constructor
        · rintro ⟨t', e⟩
          cases e
          rfl
        · rintro rfl
          exact ⟨_, rfl⟩
      · obtain ⟨warning, run⟩ := run t
        rw [run] at hr
        cases hr
        exact .refl _
  · refine ⟨P, [], fun w h => Draws.orDrop (h.yields.draws ?_) message path⟩
    intro hp t p kind t' failed
    exact drops ⟨hp, (h.sort failed).mp ⟨p, kind, rfl⟩⟩

end

/-! ## Gains -/

/-- What a walk adds to the facts, if it succeeds, and what it drops. -/
structure Gain where
  ok : Prop
  facts : List (String × Atom)
  dropped : List String

namespace Gain

def nothing : Gain where
  ok := True
  facts := []
  dropped := []

def followedBy (y y' : Gain) : Gain where
  ok := y.ok ∧ y'.ok
  facts := y.facts ++ y'.facts
  dropped := y.dropped ++ y'.dropped

def total (ys : List Gain) : Gain :=
  ys.foldr followedBy nothing

theorem total_ok (ys : List Gain) : (total ys).ok ↔ ∀ y ∈ ys, y.ok := by
  induction ys with
  | nil => simp [total, nothing]
  | cons y ys ih =>
    rw [List.forall_mem_cons, ← ih]
    rfl

theorem total_facts (ys : List Gain) : (total ys).facts = ys.flatMap facts := by
  induction ys with
  | nil => rfl
  | cons y ys ih =>
    rw [List.flatMap_cons, ← ih]
    rfl

theorem total_dropped (ys : List Gain) : (total ys).dropped = ys.flatMap dropped := by
  induction ys with
  | nil => rfl
  | cons y ys ih =>
    rw [List.flatMap_cons, ← ih]
    rfl

end Gain

section
variable {policy : UnsupportedFields} {w : Walk FactSet} {facts : FactSet} {y y' : Gain}

/-- The walk adds a gain to the facts, provided that no path is taken. -/
def Brings (policy : UnsupportedFields) (w : Walk FactSet) (facts : FactSet) (y : Gain) : Prop :=
  Draws policy w (fun facts' => y.ok ∧ facts'.entries.Perm (facts.entries ++ y.facts)) y.dropped

theorem Brings.perm (h : Brings policy w facts y) (ho : y.ok ↔ y'.ok) (hf : y.facts.Perm y'.facts)
    (hd : y.dropped.Perm y'.dropped) : Brings policy w facts y' := by
  refine (Draws.congr h fun facts' => ?_).perm hd
  have same := hf.append_left facts.entries
  rw [ho]
  exact and_congr_right fun _ => ⟨fun h => h.trans same, fun h => h.trans same.symm⟩

theorem Brings.reorder {ys ys' : List Gain} (h : Brings policy w facts (.total ys)) (order : ys.Perm ys') :
    Brings policy w facts (.total ys') := by
  refine h.perm ?_ ?_ ?_
  · rw [Gain.total_ok, Gain.total_ok]
    exact forall_congr' fun y => by rw [order.mem_iff]
  · rw [Gain.total_facts, Gain.total_facts]
    exact order.flatMap_right _
  · rw [Gain.total_dropped, Gain.total_dropped]
    exact order.flatMap_right _

theorem Adds.brings {ok : Prop} {es : List (String × Atom)} (h : Adds w facts ok es)
    (settles : Settles w) : Brings policy w facts ⟨ok, es, []⟩ :=
  Yields.draws h fun _ => settles

theorem brings_nothing (facts : FactSet) : Brings policy (pure facts) facts .nothing :=
  (adds_nothing facts).brings (settles_pure facts)

theorem Brings.bind {f : FactSet → Walk FactSet} (hw : Brings policy w facts y)
    (hf : ∀ m, Brings policy (f m) m y') : Brings policy (w >>= f) facts (y.followedBy y') := by
  refine (Draws.bind hw fun m _ => hf m).congr fun facts' => ?_
  show _ ↔ (y.ok ∧ y'.ok) ∧ facts'.entries.Perm (facts.entries ++ (y.facts ++ y'.facts))
  rw [← exists_between]
  constructor
  · rintro ⟨m, ⟨ho, hm⟩, ho', h⟩
    exact ⟨⟨ho, ho'⟩, m, hm, h⟩
  · rintro ⟨⟨ho, ho'⟩, m, hm, h⟩
    exact ⟨m, ⟨ho, hm⟩, ho', h⟩

/-- A walk has at most one result, so its results are given by their entries. -/
theorem Draws.exists_entries {P : FactSet → Prop} {ds : List String} (h : Draws policy w P ds) :
    ∃ (ok : Prop) (es : List (String × Atom)), ∀ own, P own ↔ ok ∧ own.entries.Perm es := by
  by_cases succeeds : ∃ own, P own
  · obtain ⟨own, ho⟩ := succeeds
    refine ⟨True, own.entries, fun own' => ?_⟩
    rw [true_and]
    constructor
    · intro ho'
      rw [h.unique ho' ho]
    · intro same
      rw [StringMap.eq_of_perm same]
      exact ho
  · refine ⟨False, [], fun own => ?_⟩
    rw [false_and, iff_false]
    exact fun ho => succeeds ⟨own, ho⟩

end

end PolicyGate.Message
