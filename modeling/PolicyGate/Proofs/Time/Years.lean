import PolicyGate.Proofs.Time.Rfc3339

/-!
# The years of dates that are read

A date is read with a year of four digits, and lies within a day of it in UTC: so its own year is one of -1 to
10000 (`Instant.year_of_ofText?`). In the years -1 and 10000 its text has a sign and is not read again
(`Instant.ofText?_text_eq_none`).
-/

namespace PolicyGate

namespace Text

theorem digitsValue_lt {cs : List Char} (h : ∀ c ∈ cs, c.isDigit = true) : digitsValue cs < 10 ^ cs.length := by
  -- the digits read so far count as a number `n` in front of the others
  suffices ∀ n, cs.foldl (fun n c => 10 * n + (c.toNat - '0'.toNat)) n < (n + 1) * 10 ^ cs.length by
    simpa [digitsValue] using this 0
  induction cs with
  | nil => simp
  | cons c cs ih =>
    intro n
    obtain ⟨hc, hcs⟩ := List.forall_mem_cons.mp h
    have digit : c.toNat - '0'.toNat ≤ 9 := by
      simp only [Char.isDigit, Bool.and_eq_true, decide_eq_true_eq, UInt32.le_iff_toNat_le] at hc
      exact Nat.sub_le_sub_right hc.2 _
    have rest := ih hcs (10 * n + (c.toNat - '0'.toNat))
    rw [List.length_cons, Nat.pow_succ, Nat.mul_comm (10 ^ _) 10, ← Nat.mul_assoc]
    exact Nat.lt_of_lt_of_le rest (Nat.mul_le_mul_right _ (by omega))

end Text

namespace Time

theorem Instant.le_year {t : Instant} {year : Int} :
    year ≤ t.clock.date.year ↔ Date.firstDay year * secondsPerDay ≤ t.seconds := by
  have days : year ≤ t.clock.date.year ↔ Date.firstDay year ≤ t.seconds / secondsPerDay :=
    Date.le_year_ofDays
  rw [days]
  unfold secondsPerDay
  omega

/-! ## Reading -/

namespace Reading

theorem number?_lt {least most n : Nat} {cs rest : List Char} (h : number? least most cs = some (n, rest)) :
    n < 10 ^ most := by
  unfold number? at h
  simp only [Option.ite_none_right_eq_some, Option.some.injEq, Prod.mk.injEq] at h
  obtain ⟨-, rfl, -⟩ := h
  have digits : ∀ c ∈ (cs.take most).takeWhile Char.isDigit, c.isDigit = true :=
    fun c hc => List.all_eq_true.mp List.all_takeWhile c hc
  have short : ((cs.take most).takeWhile Char.isDigit).length ≤ most :=
    Nat.le_trans (List.takeWhile_prefix _).length_le (List.length_take_le _ _)
  exact Nat.lt_of_lt_of_le (Text.digitsValue_lt digits) (Nat.pow_le_pow_right (by decide) short)

theorem number?_sign {c : Char} (hc : c.isDigit = false) {least most : Nat} (pos : 0 < least) (cs : List Char) :
    number? least most (c :: cs) = none := by
  unfold number?
  cases most with
  | zero => simp; omega
  | succ most =>
    rw [List.take_succ_cons, List.takeWhile_cons_of_neg (by simp [hc])]
    simp
    omega

theorem full?_eq_some {cs : List Char} {t : Instant} (h : full? cs = some t) :
    ∃ c : Clock, ∃ offset, 0 ≤ c.date.year ∧ c.date.year ≤ 9999 ∧ c.instant? offset = some t := by
  unfold full? at h
  obtain ⟨⟨year, cs⟩, hyear, h⟩ := Option.bind_eq_some_iff.mp h
  obtain ⟨cs, -, h⟩ := Option.bind_eq_some_iff.mp h
  obtain ⟨⟨month, cs⟩, -, h⟩ := Option.bind_eq_some_iff.mp h
  obtain ⟨cs, -, h⟩ := Option.bind_eq_some_iff.mp h
  obtain ⟨⟨day, cs⟩, -, h⟩ := Option.bind_eq_some_iff.mp h
  obtain ⟨cs, -, h⟩ := Option.bind_eq_some_iff.mp h
  obtain ⟨⟨hour, cs⟩, -, h⟩ := Option.bind_eq_some_iff.mp h
  obtain ⟨cs, -, h⟩ := Option.bind_eq_some_iff.mp h
  obtain ⟨⟨minute, cs⟩, -, h⟩ := Option.bind_eq_some_iff.mp h
  obtain ⟨cs, -, h⟩ := Option.bind_eq_some_iff.mp h
  obtain ⟨⟨second, cs⟩, -, h⟩ := Option.bind_eq_some_iff.mp h
  obtain ⟨⟨nanos, cs⟩, -, h⟩ := Option.bind_eq_some_iff.mp h
  obtain ⟨⟨offset, cs⟩, -, h⟩ := Option.bind_eq_some_iff.mp h
  simp only [Option.ite_none_right_eq_some] at h
  have := number?_lt hyear
  refine ⟨_, offset, ?_, ?_, h.2⟩
  · exact Int.natCast_nonneg year
  · show (year : Int) ≤ 9999
    omega

end Reading

/-! ## Offsets -/

/-- An instant lies less than a day from the day that a clock shows for it at some offset. -/
theorem Clock.seconds_of_instant? {c : Clock} {offset : Int} {t : Instant} (h : c.instant? offset = some t) :
    c.date.Exists ∧ (c.date.toDays - 1) * secondsPerDay < t.seconds ∧
      t.seconds < (c.date.toDays + 2) * secondsPerDay := by
  unfold Clock.instant? at h
  by_cases valid : c.date.Exists ∧ c.hour < 24 ∧ c.minute < 60 ∧ c.second ≤ 60 ∧ offset.natAbs < 86400
  · simp only [if_pos valid, Option.ite_none_right_eq_some, Instant.of?, Option.dite_none_right_eq_some] at h
    obtain ⟨date, hour, minute, second, near⟩ := valid
    obtain ⟨_, _, eq⟩ := h
    cases eq
    refine ⟨date, ?_⟩
    unfold secondsPerDay
    by_cases leap : c.second = 60
    · simp only [if_pos leap]
      omega
    · simp only [if_neg leap]
      omega
  · rw [if_neg valid] at h
    cases h

/-- An offset from UTC moves a date of four digits into the year before or behind at most. -/
theorem Instant.year_of_ofText? {s : String} {t : Instant} (h : Instant.ofText? s = some t) :
    -1 ≤ t.clock.date.year ∧ t.clock.date.year ≤ 10000 := by
  obtain ⟨c, offset, first, last, shown⟩ := Reading.full?_eq_some h
  obtain ⟨date, after, before⟩ := Clock.seconds_of_instant? shown
  have range := date.toDays_range
  have lower := Date.firstDay_le first
  have upper := Date.firstDay_le (show c.date.year + 1 ≤ 10000 by omega)
  have below : ¬10001 ≤ t.clock.date.year := by
    rw [Instant.le_year, show Date.firstDay 10001 = Date.firstDay 10000 + 366 by decide]
    unfold secondsPerDay at *
    omega
  constructor
  · rw [Instant.le_year, show Date.firstDay (-1) = Date.firstDay 0 - 365 by decide]
    unfold secondsPerDay at *
    omega
  · omega

theorem Instant.ofText?_text_eq_none {t : Instant} (h : ¬t.HasFourDigitYear) : Instant.ofText? t.text = none := by
  obtain ⟨c, cs, spelled, sign⟩ : ∃ c cs, t.text.toList = c :: cs ∧ c.isDigit = false := by
    have year : yearText t.clock.date.year =
        (if t.clock.date.year < 0 then "-" else "+") ++ Text.padded 4 t.clock.date.year.natAbs :=
      if_neg h
    unfold Instant.text Clock.dateText
    rw [year]
    by_cases negative : t.clock.date.year < 0
    · exact ⟨'-', _, by simp only [if_pos negative, String.toList_append]; rfl, rfl⟩
    · exact ⟨'+', _, by simp only [if_neg negative, String.toList_append]; rfl, rfl⟩
  unfold Instant.ofText? Reading.full?
  rw [spelled, Reading.number?_sign sign (by decide)]
  rfl

end Time
end PolicyGate
