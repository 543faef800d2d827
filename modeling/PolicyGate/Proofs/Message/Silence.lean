import PolicyGate.Proofs.Message.Agreement
import PolicyGate.Proofs.Message.Dropping

/-!
# Dropping in silence

A walk that drops warns whenever it goes another way than the walk that refuses (`Echoes`), and nothing
that could be dropped is left for it to fail for. So refusing succeeds just where dropping succeeds
without a warning: `flatten_reject_iff_silent`.
-/

namespace PolicyGate.Message

section
variable {α β : Type} {w w' : Walk α}

/-- Unless `w'` adds a warning, it has the run of `w`, and its warnings stay; it does not fail for a column
that is too short. -/
structure Echoes (w w' : Walk α) : Prop where
  same_or_warned : ∀ t, (w.run t = w'.run t ∧ (w'.run t).2.warnings = t.warnings) ∨
    t.warnings.length < (w'.run t).2.warnings.length
  aligned : ∀ {t e t'}, w'.run t = (.error e, t') → ¬e.IsMisaligned

theorem Echoes.length_le (h : Echoes w w') (t : Trail) :
    t.warnings.length ≤ (w'.run t).2.warnings.length := by
  rcases h.same_or_warned t with ⟨-, quiet⟩ | warned
  · exact Nat.le_of_eq (congrArg List.length quiet).symm
  · exact Nat.le_of_lt warned

theorem Still.echoes (h : Still w) (aligned : ∀ {t e t'}, w.run t = (.error e, t') → ¬e.IsMisaligned) :
    Echoes w w where
  same_or_warned t := .inl ⟨rfl, by rw [h t]⟩
  aligned := aligned

theorem Echoes.bind {f f' : α → Walk β} (hw : Echoes w w') (hf : ∀ x, Echoes (f x) (f' x)) :
    Echoes (w >>= f) (w' >>= f') where
  same_or_warned t := by
    have first := hw.same_or_warned t
    rw [run_bind, run_bind]
    cases hr : w'.run t with
    | mk r t₁ =>
      rw [hr] at first
      cases r with
      | error e =>
        refine first.imp_left ?_
        rintro ⟨run, quiet⟩
        rw [run]
        exact ⟨rfl, quiet⟩
      | ok x =>
        -- the rest takes no warning back
        have later := (hf x).length_le t₁
        rcases first with ⟨run, quiet⟩ | warned
        · rw [run]
          rcases (hf x).same_or_warned t₁ with ⟨run', quiet'⟩ | warned
          · exact .inl ⟨run', quiet'.trans quiet⟩
          · rw [quiet] at warned
            exact .inr warned
        · exact .inr (Nat.lt_of_lt_of_le warned later)
  aligned run := by
    rcases run_bind_eq_error run with first | ⟨x, t₁, -, second⟩
    · exact hw.aligned first
    · exact (hf x).aligned second

theorem Echoes.orDrop {w w' : Walk FactSet} (h : Echoes w w') (message path : String) :
    Echoes (orDrop .reject message path w) (orDrop .drop message path w') where
  same_or_warned t := by
    have inner := h.same_or_warned t
    have le := h.length_le t
    rw [run_orDrop_reject, run_orDrop_drop]
    split
    · next p kind t₁ failed =>
      rw [failed] at le
      refine .inr (Nat.lt_of_le_of_lt le ?_)
      rw [List.length_append]
      exact Nat.lt_succ_self _
    · exact inner
  aligned run := by
    rw [run_orDrop_drop] at run
    split at run
    · cases run
    · exact h.aligned run

theorem Echoes.withOwnDropped (h : Echoes w w') : Echoes (withOwnDropped w) (withOwnDropped w') where
  same_or_warned t := by
    have inner := h.same_or_warned { t with dropped := [] }
    rw [run_withOwnDropped, run_withOwnDropped]
    cases hr : w'.run { t with dropped := [] } with
    | mk r t₁ =>
      rw [hr] at inner
      refine inner.imp ?_ fun warned => ?_
      · rintro ⟨run, quiet⟩
        rw [run]
        cases r with
        | ok x => exact ⟨rfl, quiet⟩
        | error e => exact ⟨rfl, quiet⟩
      · cases r with
        | ok x => exact warned
        | error e => exact warned
  aligned run := by
    obtain ⟨t₁, failed, -⟩ := run_withOwnDropped_eq_error run
    exact h.aligned failed

theorem Echoes.short {w w' : Walk FactSet} (h : Echoes w w') (path : String) (present count : Nat) :
    Echoes (throw (.misaligned path present count))
      (do modify fun t => { t with warnings := t.warnings ++ [.subField path present count] }; w') where
  same_or_warned t := by
    have later := h.length_le { t with warnings := t.warnings ++ [.subField path present count] }
    rw [List.length_append] at later
    exact .inr later
  aligned run := h.aligned run

theorem keeps_echoes : Keeps Echoes where
  of_pure x := (still_pure x).echoes fun run => by cases run
  of_throw other := (still_throw _).echoes fun run => by
    cases run
    exact other
  of_bind := Echoes.bind
  of_orDrop message path h := h.orDrop message path
  of_ownDropped := Echoes.withOwnDropped
  of_short path present count h := h.short path present count

end

/-- Refusing succeeds just where dropping succeeds in silence, with the same facts; and dropping never
fails for something that it should drop. -/
theorem flatten_reject_iff_silent (m : Message) :
    (∀ facts, (flatten .reject m).1 = .ok facts ↔ flatten .drop m = (.ok facts, [])) ∧
      (∀ path kind, (flatten .drop m).1 ≠ .error (.unsupportedKind path kind)) ∧
      ∀ path present count, (flatten .drop m).1 ≠ .error (.misaligned path present count) := by
  have echoes : Echoes (fieldsFacts .reject m.name "" m.fields .empty)
      (fieldsFacts .drop m.name "" m.fields .empty) :=
    fieldsFacts_related keeps_echoes m.name "" m.fields .empty
  refine ⟨fun facts => ⟨fun done => ?_, fun silent => ?_⟩, fun path kind failed => ?_,
    fun path present count failed => ?_⟩
  · have stands : Stands (flatten .reject m).1 := done ▸ stands_ok facts
    rw [flatten_agrees stands .drop, done]
  · rcases echoes.same_or_warned {} with ⟨run, -⟩ | warned
    · calc (flatten .reject m).1
          = (flatten .drop m).1 := congrArg (fun r => r.1) run
        _ = .ok facts := congrArg Prod.fst silent
    · have none : ((fieldsFacts .drop m.name "" m.fields .empty).run {}).2.warnings = [] :=
        congrArg Prod.snd silent
      rw [none] at warned
      cases warned
  · exact settles_fieldsFacts m.name "" m.fields .empty {} path kind _ (Prod.ext failed rfl)
  · exact echoes.aligned (t := {}) (Prod.ext failed rfl) trivial

end PolicyGate.Message
