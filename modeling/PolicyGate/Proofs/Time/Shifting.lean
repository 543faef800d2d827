import PolicyGate.Proofs.Time.Order

/-!
# Going back by a span

Away from leap seconds a later clock looks back no further: `earlier_le_earlier`. A step of
whole seconds out of a leap second starts at the second behind it, so from there the order can turn around.
-/

namespace PolicyGate.Time.Instant

/-- The nanoseconds counted from 1970, which run through a leap second and the second behind it alike. -/
def count (t : Instant) : Int :=
  t.seconds * 1000000000 + t.nanos

def InLeapSecond (t : Instant) : Prop :=
  nanosPerSecond ≤ t.nanos

instance (t : Instant) : Decidable t.InLeapSecond :=
  inferInstanceAs (Decidable (_ ≤ _))

theorem earliest_le (t : Instant) : earliest ≤ t := by
  obtain ⟨low, -⟩ := t.isInstant
  rw [le_iff]
  simp only [earliest]
  omega

/-- The parts from which a step back is put together: they make up the difference, and they end in a leap
second only if the step never left it. -/
structure IsBack (t : Instant) (span : Span) (seconds : Int) (nanos : Nat) : Prop where
  shift?_eq : t.shift? (-span) = of? seconds nanos
  seconds_le : seconds ≤ t.seconds
  count_eq : seconds * 1000000000 + nanos = t.count - span.nanoseconds
  nanos_lt : nanos < 1000000000 ∨ nanos ≤ t.nanos ∧ seconds = t.seconds

theorem isBack_of_normalized {t : Instant} {span : Span} {seconds nanos : Int}
    (h : t.shift? (-span) = normalized? seconds nanos)
    (le : seconds * 1000000000 + nanos < (t.seconds + 1) * 1000000000)
    (count : seconds * 1000000000 + nanos = t.count - span.nanoseconds) :
    t.IsBack span (seconds + nanos / 1000000000) (nanos % 1000000000).toNat where
  shift?_eq := h
  seconds_le := by omega
  count_eq := by omega
  nanos_lt := by omega

theorem IsBack.isInstant {t : Instant} {span : Span} {seconds : Int} {nanos : Nat}
    (h : t.IsBack span seconds nanos) (low : earliestSecond ≤ seconds) : IsInstant seconds nanos := by
  obtain ⟨-, high, bound, leap⟩ := t.isInstant
  have := h.seconds_le
  have := h.nanos_lt
  unfold nanosPerSecond at bound leap
  refine ⟨low, by omega, ?_, fun inside => ?_⟩ <;> unfold nanosPerSecond at * <;> omega

theorem exists_isBack (t : Instant) {span : Span} (back : 0 ≤ span.nanoseconds) :
    ∃ seconds nanos, t.IsBack span seconds nanos := by
  obtain ⟨step, hstep⟩ : ∃ step, step = (-span).wholeSeconds := ⟨_, rfl⟩
  obtain ⟨part, hpart⟩ : ∃ part, part = (-span).fraction := ⟨_, rfl⟩
  have parts : step * 1000000000 + part = -span.nanoseconds := by
    rw [hstep, hpart]
    exact Int.tdiv_mul_add_tmod _ _
  have step_le : step ≤ 0 := by
    have : step = -span.nanoseconds.tdiv 1000000000 := hstep.trans (Int.neg_tdiv _ _)
    have := Int.tdiv_nonneg back (b := 1000000000) (by decide)
    omega
  have part_le : part ≤ 0 ∧ -1000000000 < part := by
    have : part = -span.nanoseconds.tmod 1000000000 := hpart.trans (Int.neg_tmod _ _)
    have := Int.tmod_nonneg 1000000000 back
    have := Int.tmod_lt_of_pos span.nanoseconds (b := 1000000000) (by decide)
    omega
  have shift?_eq : t.shift? (-span) =
      if t.nanos < 1000000000 then normalized? (t.seconds + step) (t.nanos + part)
      else if 0 < step ∨ (0 < part ∧ 2 * 1000000000 ≤ t.nanos + part) then
        normalized? (t.seconds + step) (t.nanos - 1000000000 + part)
      else if step < 0 then normalized? (t.seconds + 1 + step) (t.nanos - 1000000000 + part)
      else of? t.seconds (t.nanos + part).toNat := by
    rw [hstep, hpart]
    rfl
  -- a span back leaves a leap second for the second behind it, if it leaves it at all
  have bound : t.nanos < 2000000000 := t.isInstant.2.2.1
  have count : t.count = t.seconds * 1000000000 + t.nanos := rfl
  by_cases calm : t.nanos < 1000000000
  · rw [if_pos calm] at shift?_eq
    exact ⟨_, _, isBack_of_normalized shift?_eq (by omega) (by omega)⟩
  rw [if_neg calm, if_neg (by omega)] at shift?_eq
  by_cases long : step < 0
  · rw [if_pos long] at shift?_eq
    exact ⟨_, _, isBack_of_normalized shift?_eq (by omega) (by omega)⟩
  · rw [if_neg long] at shift?_eq
    exact ⟨_, _, shift?_eq, Int.le_refl _, by omega, .inr ⟨by omega, rfl⟩⟩

/-- What a clock outside leap seconds sees as past, every later clock does. -/
theorem earlier_le_earlier {a b : Instant} (calm : ¬ a.InLeapSecond) (le : a ≤ b) {span : Span}
    (back : 0 ≤ span.nanoseconds) : a.earlier span ≤ b.earlier span := by
  obtain ⟨s, n, ha⟩ := a.exists_isBack back
  obtain ⟨u, m, hb⟩ := b.exists_isBack back
  have a_nanos : a.nanos < 1000000000 := Nat.lt_of_not_ge calm
  have a_count : s * 1000000000 + n = a.seconds * 1000000000 + a.nanos - span.nanoseconds := ha.count_eq
  have b_count : u * 1000000000 + m = b.seconds * 1000000000 + b.nanos - span.nanoseconds := hb.count_eq
  have order : s < u ∨ s = u ∧ n ≤ m := by
    have := ha.seconds_le
    have := ha.nanos_lt
    have := hb.nanos_lt
    rw [le_iff] at le
    omega
  unfold earlier
  rw [ha.shift?_eq, hb.shift?_eq]
  by_cases h : IsInstant s n
  · have h' : IsInstant u m := hb.isInstant (by have := h.1; omega)
    rw [of?, dif_pos h, of?, dif_pos h']
    exact le_iff.mpr order
  · rw [of?, dif_neg h]
    exact earliest_le _

end PolicyGate.Time.Instant
