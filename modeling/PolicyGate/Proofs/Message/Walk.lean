import PolicyGate.Message.Flatten
import PolicyGate.Proofs.Data.StringMap

/-!
# Walks that drop nothing

`Yields w P` says of a walk that it succeeds with just the results in `P`, and leaves the trail as it
was. The rules follow the walk: one for each way in which walks are put together, and one for each
operation on facts.
-/

namespace PolicyGate.Message

open Data (StringMap)

/-- The walk succeeds with just the results in `P`, whatever was dropped before, and drops nothing. -/
def Yields {α : Type} (w : Walk α) (P : α → Prop) : Prop :=
  ∀ (t : Trail) (x : α) (t' : Trail), w.run t = (.ok x, t') ↔ P x ∧ t' = t

section
variable {α β : Type} {w : Walk α} {P Q : α → Prop}

theorem Yields.congr (h : Yields w P) (hPQ : ∀ x, P x ↔ Q x) : Yields w Q := by
  intro t x t'
  rw [h t x t', hPQ]

theorem yields_pure (x : α) : Yields (pure x) fun y => y = x := by
  intro t y t'
  constructor
  · intro h
    cases h
    exact ⟨rfl, rfl⟩
  · rintro ⟨rfl, rfl⟩
    rfl

theorem yields_throw (e : FlattenError) : Yields (throw e : Walk α) fun _ => False := by
  intro t x t'
  constructor
  · intro h; cases h
  · rintro ⟨⟨⟩, _⟩

theorem run_bind (w : Walk α) (f : α → Walk β) (t : Trail) :
    (w >>= f).run t =
      match w.run t with
      | (.ok x, t') => (f x).run t'
      | (.error e, t') => (.error e, t') := by
  rw [ExceptT.run_bind]
  cases h : w.run t with
  | mk r t' =>
    cases r with
    | ok x => simp [bind, StateT.bind, h]
    | error e =>
      simp only [bind, StateT.bind, h]
      rfl

theorem run_bind_eq_ok {f : α → Walk β} {t t' : Trail} {y : β} (h : (w >>= f).run t = (.ok y, t')) :
    ∃ x t₁, w.run t = (.ok x, t₁) ∧ (f x).run t₁ = (.ok y, t') := by
  rw [run_bind] at h
  split at h
  · next x t₁ hw => exact ⟨x, t₁, hw, h⟩
  · cases h

theorem run_bind_eq_error {f : α → Walk β} {t t' : Trail} {e : FlattenError}
    (h : (w >>= f).run t = (.error e, t')) :
    w.run t = (.error e, t') ∨ ∃ x t₁, w.run t = (.ok x, t₁) ∧ (f x).run t₁ = (.error e, t') := by
  rw [run_bind] at h
  split at h
  · next x t₁ hw => exact .inr ⟨x, t₁, hw, h⟩
  · next e' t₁ hw =>
    cases h
    exact .inl hw

theorem Yields.bind {f : α → Walk β} {R : α → β → Prop} (hw : Yields w P)
    (hf : ∀ x, P x → Yields (f x) (R x)) : Yields (w >>= f) fun y => ∃ x, P x ∧ R x y := by
  intro t y t'
  constructor
  · intro run
    obtain ⟨x, t₁, first, second⟩ := run_bind_eq_ok run
    obtain ⟨hx, rfl⟩ := (hw t x t₁).mp first
    obtain ⟨hy, rfl⟩ := (hf x hx t₁ y t').mp second
    exact ⟨⟨x, hx, hy⟩, rfl⟩
  · rintro ⟨⟨x, hx, hy⟩, rfl⟩
    rw [run_bind, (hw t' x t').mpr ⟨hx, rfl⟩]
    exact (hf x hx t' y t').mpr ⟨hy, rfl⟩

theorem Yields.mapM {f : α → Walk β} {R : α → β → Prop} {xs : List α}
    (h : ∀ x ∈ xs, Yields (f x) (R x)) : Yields (xs.mapM f) (List.Forall₂ R xs) := by
  induction xs with
  | nil =>
    rw [List.mapM_nil]
    refine (yields_pure []).congr fun ys => ?_
    simp
  | cons x xs ih =>
    obtain ⟨hx, hxs⟩ := List.forall_mem_cons.mp h
    rw [List.mapM_cons]
    refine (hx.bind fun y _ => (ih hxs).bind fun ys _ => yields_pure (y :: ys)).congr fun zs => ?_
    rw [List.forall₂_cons_left_iff]
    simp only [exists_and_left]

/-- The walk leaves the trail as it was, whatever comes of it. -/
def Still (w : Walk α) : Prop :=
  ∀ t, (w.run t).2 = t

theorem still_pure (x : α) : Still (pure x) := fun _ => rfl

theorem still_throw (e : FlattenError) : Still (throw e : Walk α) := fun _ => rfl

theorem run_tryCatch (w : Walk α) (f : FlattenError → Walk α) (t : Trail) :
    (tryCatch w f).run t =
      match w.run t with
      | (.ok x, t') => (.ok x, t')
      | (.error e, t') => (f e).run t' := by
  show (ExceptT.tryCatch w f).run t = _
  simp only [ExceptT.tryCatch, ExceptT.run, ExceptT.mk]
  cases h : w.run t with
  | mk r t' =>
    have h' : w t = (r, t') := h
    cases r with
    | ok x =>
      simp only [bind, StateT.bind, h']
      rfl
    | error e => simp [bind, StateT.bind, h']

theorem run_orDrop_reject (w : Walk FactSet) (message path : String) (t : Trail) :
    (orDrop .reject message path w).run t = w.run t := by
  unfold orDrop
  rw [run_tryCatch]
  cases w.run t with
  | mk r t' =>
    cases r with
    | ok facts => rfl
    | error e => cases e <;> rfl

theorem run_orDrop_drop (w : Walk FactSet) (message path : String) (t : Trail) :
    (orDrop .drop message path w).run t =
      match w.run t with
      | (.error (.unsupportedKind _ kind), t') =>
        (.ok .empty, ⟨t'.dropped ++ [path], t'.warnings ++ [.field message path kind]⟩)
      | run => run := by
  unfold orDrop
  rw [run_tryCatch]
  cases w.run t with
  | mk r t' =>
    cases r with
    | ok facts => rfl
    | error e => cases e <;> rfl

theorem run_observing (w : Walk α) (t : Trail) :
    (observing w).run t = (.ok (w.run t).1, (w.run t).2) := by
  unfold observing
  rw [run_tryCatch, run_bind]
  cases w.run t with
  | mk r t' =>
    cases r with
    | ok x => rfl
    | error e => rfl

theorem run_withOwnDropped (w : Walk α) (t : Trail) :
    (withOwnDropped w).run t =
      match w.run { t with dropped := [] } with
      | (.ok x, t') => (.ok (x, t'.dropped), { t' with dropped := t.dropped })
      | (.error e, t') => (.error e, { t' with dropped := t.dropped }) := by
  unfold withOwnDropped
  rw [run_bind]
  show ((do
      let result ← observing w
      let own ← getModify fun s => { s with dropped := t.dropped }
      pure (← ofExcept result, own.dropped)) : Walk (α × List String)).run { t with dropped := [] } = _
  rw [run_bind, run_observing]
  cases w.run { t with dropped := [] } with
  | mk r t' =>
    cases r with
    | ok x => rfl
    | error e => rfl

theorem run_withOwnDropped_eq_ok {r : α × List String} {t t' : Trail}
    (h : (withOwnDropped w).run t = (.ok r, t')) :
    ∃ t₁, w.run { t with dropped := [] } = (.ok r.1, t₁) ∧ r.2 = t₁.dropped ∧
      t' = { t₁ with dropped := t.dropped } := by
  rw [run_withOwnDropped] at h
  split at h
  · next t₁ run =>
    cases h
    exact ⟨t₁, run, rfl, rfl⟩
  · cases h

theorem run_withOwnDropped_eq_error {e : FlattenError} {t t' : Trail}
    (h : (withOwnDropped w).run t = (.error e, t')) :
    ∃ t₁, w.run { t with dropped := [] } = (.error e, t₁) ∧ t' = { t₁ with dropped := t.dropped } := by
  rw [run_withOwnDropped] at h
  split at h
  · cases h
  · next t₁ run =>
    cases h
    exact ⟨t₁, run, rfl⟩

theorem Yields.orDrop {w : Walk FactSet} {P : FactSet → Prop} (h : Yields w P) (message path : String) :
    Yields (orDrop .reject message path w) P := by
  intro t x t'
  rw [run_orDrop_reject]
  exact h t x t'

theorem Yields.withOwnDropped (h : Yields w P) :
    Yields (withOwnDropped w) fun r => P r.1 ∧ r.2 = [] := by
  intro t r t'
  constructor
  · intro run
    obtain ⟨t₁, first, own, rfl⟩ := run_withOwnDropped_eq_ok run
    obtain ⟨hx, rfl⟩ := (h _ _ _).mp first
    exact ⟨⟨hx, own⟩, rfl⟩
  · obtain ⟨x, own⟩ := r
    rintro ⟨⟨hx, rfl⟩, rfl⟩
    rw [run_withOwnDropped, (h { t' with dropped := [] } x _).mpr ⟨hx, rfl⟩]

end

/-! ## Adding facts -/

/-- The walk adds just these entries to the facts, provided that `ok` holds and no path is taken. -/
def Adds (w : Walk FactSet) (facts : FactSet) (ok : Prop) (es : List (String × Atom)) : Prop :=
  Yields w fun facts' => ok ∧ facts'.entries.Perm (facts.entries ++ es)

theorem exists_between {facts facts' : FactSet} {es fs : List (String × Atom)} :
    (∃ m : FactSet, m.entries.Perm (facts.entries ++ es) ∧ facts'.entries.Perm (m.entries ++ fs)) ↔
      facts'.entries.Perm (facts.entries ++ (es ++ fs)) := by
  rw [← List.append_assoc]
  constructor
  · rintro ⟨m, hm, h⟩
    exact h.trans (hm.append_right fs)
  · intro h
    -- the map between them exists because its keys are among those of the result
    have nodup := (StringMap.Perm.keys h).nodup_iff.mp facts'.nodup_keys
    rw [StringMap.keys, List.map_append] at nodup
    obtain ⟨m, hm⟩ := StringMap.exists_entries (List.nodup_append.mp nodup).1
    exact ⟨m, hm, h.trans (hm.symm.append_right fs)⟩

theorem exists_own {facts facts' : FactSet} {es fs : List (String × Atom)} :
    (∃ own : FactSet, own.entries.Perm es ∧
      facts'.entries.Perm (facts.entries ++ (own.entries ++ fs))) ↔
      facts'.entries.Perm (facts.entries ++ (es ++ fs)) := by
  constructor
  · rintro ⟨own, hown, h⟩
    exact h.trans ((hown.append_right fs).append_left facts.entries)
  · intro h
    -- they are part of the facts that result, so their paths are distinct
    have nodup := (StringMap.Perm.keys h).nodup_iff.mp facts'.nodup_keys
    rw [StringMap.keys, List.map_append, List.map_append] at nodup
    have own_nodup := (List.nodup_append.mp (List.nodup_append.mp nodup).2.1).1
    obtain ⟨own, hown⟩ := StringMap.exists_entries own_nodup
    exact ⟨own, hown, h.trans ((hown.symm.append_right fs).append_left facts.entries)⟩

theorem adds_nothing (facts : FactSet) : Adds (pure facts) facts True [] := by
  refine (yields_pure facts).congr fun facts' => ?_
  rw [List.append_nil, true_and]
  constructor
  · rintro rfl
    exact .refl _
  · exact StringMap.eq_of_perm

theorem Adds.bind {w : Walk FactSet} {f : FactSet → Walk FactSet} {facts : FactSet} {ok ok' : Prop}
    {es fs : List (String × Atom)} (hw : Adds w facts ok es) (hf : ∀ m, Adds (f m) m ok' fs) :
    Adds (w >>= f) facts (ok ∧ ok') (es ++ fs) := by
  refine (Yields.bind hw fun m _ => hf m).congr fun facts' => ?_
  rw [← exists_between]
  constructor
  · rintro ⟨m, ⟨ho, hm⟩, ho', h⟩
    exact ⟨⟨ho, ho'⟩, m, hm, h⟩
  · rintro ⟨⟨ho, ho'⟩, m, hm, h⟩
    exact ⟨m, ⟨ho, hm⟩, ho', h⟩

theorem Adds.congr {w : Walk FactSet} {facts : FactSet} {ok ok' : Prop} {es : List (String × Atom)}
    (h : Adds w facts ok es) (ho : ok ↔ ok') : Adds w facts ok' es :=
  Yields.congr h fun _ => by rw [ho]

theorem adds_fact (path : String) (atom : Atom) (facts : FactSet) :
    Adds (addFact path atom facts) facts True [(path, atom)] := by
  unfold addFact Adds
  simp only [true_and]
  cases h : facts.get? path with
  | none =>
    refine (yields_pure _).congr fun facts' => ?_
    have put : (facts.set path fun _ => atom).entries.Perm (facts.entries ++ [(path, atom)]) :=
      StringMap.set_perm h
    constructor
    · rintro rfl
      exact put
    · intro h'
      exact StringMap.eq_of_perm (h'.trans put.symm)
  | some old =>
    refine (yields_throw _).congr fun facts' => ?_
    have taken : path ∈ StringMap.keys facts.entries := StringMap.mem_keys (StringMap.get?_eq_some.mp h)
    constructor
    · intro h; cases h
    · intro h'
      have nodup := (StringMap.Perm.keys h').nodup_iff.mp facts'.nodup_keys
      rw [StringMap.keys, List.map_append] at nodup
      exact (List.nodup_append.mp nodup).2.2 path taken path List.mem_cons_self rfl

theorem still_addFact (path : String) (atom : Atom) (facts : FactSet) :
    Still (addFact path atom facts) := by
  unfold addFact
  cases facts.get? path with
  | none => exact still_pure _
  | some old => exact still_throw _

theorem adds_facts (es : List (String × Atom)) (facts : FactSet) :
    Adds (addFacts es facts) facts True es := by
  induction es generalizing facts with
  | nil => exact adds_nothing facts
  | cons e es ih =>
    obtain ⟨path, atom⟩ := e
    exact ((adds_fact path atom facts).bind ih).congr (by simp)

theorem Yields.adds_fact {w : Walk Atom} {ok : Prop} {atom : Option Atom}
    (h : Yields w fun a => ok ∧ atom = some a) (path : String) (facts : FactSet) :
    Adds (w >>= fun a => addFact path a facts) facts (ok ∧ atom.isSome = true)
      (atom.map fun a => (path, a)).toList := by
  refine (h.bind fun a _ => Message.adds_fact path a facts).congr fun facts' => ?_
  cases atom with
  | none => simp
  | some a => simp

end PolicyGate.Message
