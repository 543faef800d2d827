import PolicyGate.Proofs.Message.Walk

/-!
# Walks that may drop

`Gives w P` says of a walk that it takes back no warning and warns of each path that it drops, and that
its results, with the warnings so far, are in `P`. The trail still counts behind a field without an exact
form, as dropping goes on from it (`Gives.orDrop`).
-/

namespace PolicyGate

def DropWarning.path : DropWarning → String
  | field _ path _ => path
  | subField path _ _ => path

/-- A trail that goes on from another one; each path dropped since then has a warning. -/
structure Trail.Extends (t t' : Trail) : Prop where
  warnings : t.warnings ⊆ t'.warnings
  dropped : ∃ ps, t'.dropped = t.dropped ++ ps ∧ ∀ p ∈ ps, ∃ w ∈ t'.warnings, w.path = p

theorem Trail.Extends.refl (t : Trail) : t.Extends t := by
  refine ⟨List.Subset.refl _, [], by simp, ?_⟩
  intro p hp
  cases hp

theorem Trail.Extends.trans {t t' t'' : Trail} (h : t.Extends t') (h' : t'.Extends t'') :
    t.Extends t'' := by
  obtain ⟨ps, hps, warned⟩ := h.dropped
  obtain ⟨qs, hqs, warned'⟩ := h'.dropped
  refine ⟨List.Subset.trans h.warnings h'.warnings, ps ++ qs, by rw [hqs, hps, List.append_assoc], ?_⟩
  intro p hp
  rcases List.mem_append.mp hp with hp | hp
  · obtain ⟨w, hw, path⟩ := warned p hp
    exact ⟨w, h'.warnings hw, path⟩
  · exact warned' p hp

theorem Trail.extends_warn (t : Trail) (ps : List String) (w : DropWarning) (h : ∀ p ∈ ps, w.path = p) :
    t.Extends ⟨t.dropped ++ ps, t.warnings ++ [w]⟩ := by
  refine ⟨List.subset_append_left _ _, ps, rfl, ?_⟩
  intro p hp
  exact ⟨w, List.mem_append_right _ (List.mem_singleton_self w), h p hp⟩

namespace Message

section
variable {α β : Type}

/-- The walk goes on from the trail that it is given, and its results, with the warnings so far, are
in `P`. -/
structure Gives (w : Walk α) (P : α → List DropWarning → Prop) : Prop where
  ok : ∀ {t x t'}, w.run t = (.ok x, t') → t.Extends t' ∧ P x t'.warnings
  unsupported : ∀ {t path kind t'}, w.run t = (.error (.unsupportedKind path kind), t') → t.Extends t'

/-- The walk does not fail for a field that has no exact form. -/
def Settles (w : Walk α) : Prop :=
  ∀ t path kind t', w.run t ≠ (.error (.unsupportedKind path kind), t')

variable {w : Walk α} {P Q : α → List DropWarning → Prop}

/-! ## Steps and sequences -/

theorem Gives.mono (h : Gives w P) (hPQ : ∀ x ws, P x ws → Q x ws) : Gives w Q where
  ok hr := ⟨(h.ok hr).1, hPQ _ _ (h.ok hr).2⟩
  unsupported := h.unsupported

theorem gives_pure (x : α) : Gives (pure x) fun y _ => y = x where
  ok hr := by
    cases hr
    exact ⟨.refl _, rfl⟩
  unsupported hr := by cases hr

theorem gives_throw (e : FlattenError) : Gives (throw e : Walk α) P where
  ok hr := by cases hr
  unsupported hr := by
    cases hr
    exact .refl _

theorem Gives.bind {f : α → Walk β} {R : α → β → List DropWarning → Prop} (hw : Gives w P)
    (hf : ∀ x, Gives (f x) (R x)) :
    Gives (w >>= f) fun y ws => ∃ x earlier, earlier ⊆ ws ∧ P x earlier ∧ R x y ws where
  ok hr := by
    obtain ⟨x, t₁, first, second⟩ := run_bind_eq_ok hr
    obtain ⟨ext, hx⟩ := hw.ok first
    obtain ⟨ext', hy⟩ := (hf x).ok second
    exact ⟨ext.trans ext', x, t₁.warnings, ext'.warnings, hx, hy⟩
  unsupported hr := by
    rcases run_bind_eq_error hr with first | ⟨x, t₁, first, second⟩
    · exact hw.unsupported first
    · exact (hw.ok first).1.trans ((hf x).unsupported second)

theorem Yields.gives {R : α → Prop} (h : Yields w R) (still : Still w) :
    Gives w fun x _ => R x where
  ok {t x t'} hr := by
    obtain ⟨hx, rfl⟩ := (h t x t').mp hr
    exact ⟨.refl _, hx⟩
  unsupported {t path kind t'} hr := by
    have same := still t
    rw [hr] at same
    cases same
    exact .refl _

theorem gives_warn (warning : DropWarning) :
    Gives (modify fun t => { t with warnings := t.warnings ++ [warning] } : Walk Unit)
      fun _ ws => warning ∈ ws where
  ok {t x t'} hr := by
    cases hr
    refine ⟨?_, List.mem_append_right _ (List.mem_singleton_self _)⟩
    simpa using t.extends_warn [] warning (by simp)
  unsupported hr := by cases hr

/-! ## Dropping -/

theorem settles_orDrop (w : Walk FactSet) (message path : String) :
    Settles (orDrop .drop message path w) := by
  intro t p kind t' hr
  rw [run_orDrop_drop] at hr
  split at hr
  · cases hr
  · next other => exact other _ _ _ hr

theorem Gives.orDrop {w : Walk FactSet} {P : FactSet → List DropWarning → Prop} (h : Gives w P)
    (message path : String) :
    Gives (orDrop .drop message path w) fun facts ws =>
      P facts ws ∨ (facts = .empty ∧ ∃ w ∈ ws, w.path = path) where
  ok {t facts t'} hr := by
    rw [run_orDrop_drop] at hr
    split at hr
    · next p kind t₁ failed =>
      cases hr
      let warning : DropWarning := .field message path kind
      have warned : warning ∈ t₁.warnings ++ [warning] :=
        List.mem_append_right _ (List.mem_singleton_self _)
      refine ⟨(h.unsupported failed).trans (t₁.extends_warn [path] warning ?_),
        .inr ⟨rfl, _, warned, rfl⟩⟩
      intro q hq
      exact (List.mem_singleton.mp hq).symm
    · exact ⟨(h.ok hr).1, .inl (h.ok hr).2⟩
  unsupported {t p kind t'} hr := absurd hr (settles_orDrop w message path t p kind t')

theorem Settles.bind {f : α → Walk β} (hw : Settles w) (hf : ∀ x, Settles (f x)) :
    Settles (w >>= f) := by
  intro t path kind t' hr
  rcases run_bind_eq_error hr with first | ⟨x, t₁, first, second⟩
  · exact hw t path kind t' first
  · exact hf x t₁ path kind t' second

theorem settles_pure (x : α) : Settles (pure x) := by
  intro t path kind t' hr
  cases hr

theorem Gives.withOwnDropped (h : Gives w P) (settles : Settles w) :
    Gives (withOwnDropped w) fun r ws => P r.1 ws ∧ ∀ p ∈ r.2, ∃ w ∈ ws, w.path = p where
  ok {t r t'} hr := by
    obtain ⟨t₁, first, own, rfl⟩ := run_withOwnDropped_eq_ok hr
    obtain ⟨ext, hx⟩ := h.ok first
    obtain ⟨ps, hps, warned⟩ := ext.dropped
    refine ⟨⟨ext.warnings, [], by simp, by simp⟩, hx, fun p hp => warned p ?_⟩
    rw [own, hps] at hp
    exact hp
  unsupported {t path kind t'} hr := by
    obtain ⟨t₁, failed, -⟩ := run_withOwnDropped_eq_error hr
    exact absurd failed (settles _ path kind t₁)

end
end Message
end PolicyGate
