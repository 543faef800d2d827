import Mathlib.Data.List.Forall2

/-!
# Computations that may fail

What one computation or several in a row come to, told by their parts.
-/

namespace PolicyGate

variable {ε α β : Type}

/-! ## One computation -/

theorem except_bind_ok {a : Except ε α} {k : α → Except ε β} {y : β} :
    (a >>= k) = .ok y ↔ ∃ x, a = .ok x ∧ k x = .ok y := by
  cases a with
  | error e => simp [bind, Except.bind]
  | ok x => simp [bind, Except.bind]

theorem except_bind_error {a : Except ε α} {k : α → Except ε β} {e : ε} :
    (a >>= k) = .error e ↔ a = .error e ∨ ∃ x, a = .ok x ∧ k x = .error e := by
  cases a with
  | error e' => simp [bind, Except.bind]
  | ok x => simp [bind, Except.bind]

theorem except_pure_ok {x y : α} : (pure x : Except ε α) = .ok y ↔ x = y := by
  simp [pure, Except.pure]

theorem except_map_ok {f : α → β} {a : Except ε α} {y : β} :
    a.map f = .ok y ↔ ∃ x, a = .ok x ∧ f x = y := by
  cases a <;> simp [Except.map]

theorem except_map_error {f : α → β} {a : Except ε α} {e : ε} : a.map f = .error e ↔ a = .error e := by
  cases a <;> simp [Except.map]

theorem mapError_ok {δ : Type} {f : ε → δ} {a : Except ε α} {x : α} : a.mapError f = .ok x ↔ a = .ok x := by
  cases a <;> simp [Except.mapError]

theorem mapError_error {δ : Type} {f : ε → δ} {a : Except ε α} {e : δ} :
    a.mapError f = .error e ↔ ∃ e', a = .error e' ∧ f e' = e := by
  cases a <;> simp [Except.mapError]

/-! ## Computations in a row -/

theorem mapM_ok {f : α → Except ε β} {xs : List α} {ys : List β} (h : xs.mapM f = .ok ys) :
    List.Forall₂ (fun x y => f x = .ok y) xs ys := by
  induction xs generalizing ys with
  | nil =>
    rw [List.mapM_nil, except_pure_ok] at h
    exact h ▸ .nil
  | cons x xs ih =>
    rw [List.mapM_cons] at h
    obtain ⟨y, hy, h⟩ := except_bind_ok.mp h
    obtain ⟨zs, hzs, h⟩ := except_bind_ok.mp h
    exact except_pure_ok.mp h ▸ .cons hy (ih hzs)

theorem mapM_of_forall₂ {f : α → Except ε β} {xs : List α} {ys : List β}
    (h : List.Forall₂ (fun x y => f x = .ok y) xs ys) : xs.mapM f = .ok ys := by
  induction h with
  | nil => rfl
  | cons first _ ih =>
    rw [List.mapM_cons, except_bind_ok]
    exact ⟨_, first, except_bind_ok.mpr ⟨_, ih, rfl⟩⟩

theorem mapM_eq_ok {f : α → Except ε β} {R : α → β → Prop} (item : ∀ {x y}, f x = .ok y ↔ R x y) {xs : List α}
    {ys : List β} : xs.mapM f = .ok ys ↔ List.Forall₂ R xs ys :=
  ⟨fun h => (mapM_ok h).imp fun _ _ => item.mp, fun h => mapM_of_forall₂ (h.imp fun _ _ => item.mpr)⟩

theorem exists_of_forall₂ {R : α → β → Prop} {xs : List α} {ys : List β} (h : List.Forall₂ R xs ys)
    {y : β} (hy : y ∈ ys) : ∃ x ∈ xs, R x y := by
  induction h with
  | nil => cases hy
  | cons first _ ih =>
    rcases List.mem_cons.mp hy with rfl | hy
    · exact ⟨_, List.mem_cons_self, first⟩
    · obtain ⟨x, hx, hr⟩ := ih hy
      exact ⟨x, List.mem_cons_of_mem _ hx, hr⟩

theorem mapM_eq_error {f : α → Except ε β} {xs : List α} {e : ε} : xs.mapM f = .error e ↔
    ∃ before x after, xs = before ++ x :: after ∧ (∀ y ∈ before, ∃ z, f y = .ok z) ∧ f x = .error e := by
  induction xs with
  | nil =>
    constructor
    · intro h
      cases h
    · rintro ⟨before, x, after, parts, -⟩
      cases before <;> cases parts
  | cons a xs ih =>
    rw [List.mapM_cons]
    constructor
    · intro h
      rcases except_bind_error.mp h with h | ⟨b, hb, h⟩
      · exact ⟨[], a, xs, rfl, by simp, h⟩
      rcases except_bind_error.mp h with h | ⟨bs, -, h⟩
      · obtain ⟨before, x, after, rfl, succeed, fails⟩ := ih.mp h
        exact ⟨a :: before, x, after, rfl, List.forall_mem_cons.mpr ⟨⟨b, hb⟩, succeed⟩, fails⟩
      · cases h
    · rintro ⟨before, x, after, parts, succeed, fails⟩
      cases before with
      | nil =>
        cases parts
        exact except_bind_error.mpr (.inl fails)
      | cons y before =>
        cases parts
        obtain ⟨⟨b, hb⟩, succeed⟩ := List.forall_mem_cons.mp succeed
        exact except_bind_error.mpr (.inr ⟨b, hb, except_bind_error.mpr
          (.inl (ih.mpr ⟨before, x, after, rfl, succeed, fails⟩))⟩)

theorem mapM_error {f : α → Except ε β} {xs : List α} {e : ε} (h : xs.mapM f = .error e) :
    ∃ x ∈ xs, f x = .error e := by
  obtain ⟨before, x, after, rfl, -, fails⟩ := mapM_eq_error.mp h
  exact ⟨x, by simp, fails⟩

end PolicyGate
