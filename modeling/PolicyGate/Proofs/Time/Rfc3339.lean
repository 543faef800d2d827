import Mathlib.Algebra.Group.Nat.Defs
import PolicyGate.Proofs.Text.Numerals
import PolicyGate.Proofs.Time.Calendar
import PolicyGate.Time.Rfc3339

/-!
# Instants read back from their text

The clock of an instant shows that instant (`Clock.instant?_clock`), and the exact reader gives each instant
of the years 0 to 9999 back from its text (`Instant.ofText?_text`).
-/

namespace PolicyGate

/-! ## Numerals with zeros in front -/

namespace Text

theorem digitsValue_replicate (k : Nat) (cs : List Char) :
    digitsValue (List.replicate k '0' ++ cs) = digitsValue cs := by
  induction k with
  | zero => rfl
  | succ k ih => exact ih

theorem toList_padded (count n : Nat) :
    (padded count n).toList = List.replicate (count - n.repr.length) '0' ++ n.repr.toList := by
  simp [padded]

theorem digitsValue_padded (count n : Nat) : digitsValue (padded count n).toList = n := by
  rw [toList_padded, digitsValue_replicate, digitsValue_repr]

theorem isDigit_of_mem_padded {count n : Nat} {c : Char} (h : c ∈ (padded count n).toList) :
    c.isDigit = true := by
  rw [toList_padded] at h
  rcases List.mem_append.mp h with h | h
  · rw [List.eq_of_mem_replicate h]
    rfl
  · exact isDigit_of_mem_repr h

theorem length_padded {count n : Nat} (pos : 0 < count) (h : n < 10 ^ count) :
    (padded count n).toList.length = count := by
  have short := (Nat.length_repr_le_iff pos).mpr h
  rw [toList_padded, List.length_append, List.length_replicate, String.length_toList]
  omega

end Text

namespace Time

/-! ## Clocks -/

/-- The parts of a clock keep to their ranges; only a leap second is a sixtieth one. -/
structure Clock.InRange (c : Clock) : Prop where
  hour : c.hour < 24
  minute : c.minute < 60
  second : c.second ≤ 60
  nanos : c.nanos < nanosPerSecond

section
variable (t : Instant)

theorem Instant.clock_inRange : t.clock.InRange := by
  obtain ⟨-, -, few, -⟩ := t.isInstant
  have ofDay : (t.seconds % secondsPerDay).toNat < 86400 := by
    unfold secondsPerDay
    omega
  refine ⟨?_, ?_, ?_, ?_⟩
  · show (t.seconds % secondsPerDay).toNat / 3600 < 24
    omega
  · show (t.seconds % secondsPerDay).toNat / 60 % 60 < 60
    omega
  · show (t.seconds % secondsPerDay).toNat % 60 + _ ≤ 60
    split <;> omega
  · show (if nanosPerSecond ≤ t.nanos then t.nanos - nanosPerSecond else t.nanos) < nanosPerSecond
    unfold nanosPerSecond at *
    split <;> omega

theorem Instant.seconds_clock (leap : Nat) (h : t.clock.second = (t.seconds % secondsPerDay).toNat % 60 + leap) :
    t.clock.date.toDays * secondsPerDay +
      (t.clock.hour * 3600 + t.clock.minute * 60 + (t.clock.second - leap : Nat)) = t.seconds := by
  have days : t.clock.date.toDays = t.seconds / secondsPerDay := Date.toDays_ofDays _
  have hour : t.clock.hour = (t.seconds % secondsPerDay).toNat / 3600 := rfl
  have minute : t.clock.minute = (t.seconds % secondsPerDay).toNat / 60 % 60 := rfl
  rw [days, hour, minute, h]
  unfold secondsPerDay
  omega

/-- The clock of an instant shows that instant, and a leap second as its own second. -/
theorem Clock.instant?_clock
    (year : -262143 ≤ t.clock.date.year ∧ t.clock.date.year ≤ 262142) : t.clock.instant? 0 = some t := by
  have range := t.clock_inRange
  have valid : t.clock.date.Exists ∧ t.clock.hour < 24 ∧ t.clock.minute < 60 ∧ t.clock.second ≤ 60 ∧
      (0 : Int).natAbs < 86400 :=
    ⟨Date.exists_ofDays _, range.hour, range.minute, range.second, by decide⟩
  have found (seconds : Int) (nanos : Nat) (hs : seconds = t.seconds) (hn : nanos = t.nanos) :
      Instant.of? seconds nanos = some t := by
    subst hs hn
    rw [Instant.of?, dif_pos t.isInstant]
  rw [Clock.instant?, if_pos valid]
  simp only [if_pos year, Int.sub_zero]
  by_cases leap : nanosPerSecond ≤ t.nanos
  · have second : t.clock.second = (t.seconds % secondsPerDay).toNat % 60 + 1 :=
      congrArg _ (if_pos leap)
    have nanos : t.clock.nanos = t.nanos - nanosPerSecond := if_pos leap
    have last := t.isInstant.2.2.2 leap
    have sixty : t.clock.second = 60 := by
      unfold secondsPerDay at second
      omega
    have seconds := t.seconds_clock 1 second
    rw [if_pos sixty, if_pos sixty]
    refine found _ _ ?_ (by omega)
    rw [sixty] at seconds
    exact seconds
  · have second : t.clock.second = (t.seconds % secondsPerDay).toNat % 60 + 0 :=
      congrArg _ (if_neg leap)
    have nanos : t.clock.nanos = t.nanos := if_neg leap
    have below : ¬t.clock.second = 60 := by omega
    rw [if_neg below, if_neg below]
    exact found _ _ (t.seconds_clock 0 second) nanos

end

/-! ## Numbers -/

namespace Reading

theorem number?_digits {least most : Nat} {digits rest : List Char} (hd : ∀ c ∈ digits, c.isDigit = true)
    (enough : least ≤ digits.length) (room : digits.length ≤ most)
    (stop : digits.length = most ∨ ∀ c ∈ rest.head?, c.isDigit = false) :
    number? least most (digits ++ rest) = some (Text.digitsValue digits, rest) := by
  have behind : (rest.take (most - digits.length)).takeWhile Char.isDigit = [] := by
    rcases stop with rfl | stop
    · simp
    · cases rest with
      | nil => simp
      | cons c rest =>
        have other : ¬c.isDigit = true := by simp [stop c rfl]
        cases most - digits.length with
        | zero => rfl
        | succ k => rw [List.take_succ_cons, List.takeWhile_cons_of_neg other]
  have run : ((digits ++ rest).take most).takeWhile Char.isDigit = digits := by
    rw [List.take_append, List.take_of_length_le room, List.takeWhile_append_of_pos hd, behind,
      List.append_nil]
  simp only [number?, run, if_pos enough, List.drop_left]

theorem number?_padded_of_le {least count n : Nat} (pos : 0 < count) (enough : least ≤ count)
    (h : n < 10 ^ count) (rest : List Char) :
    number? least count ((Text.padded count n).toList ++ rest) = some (n, rest) := by
  have length := Text.length_padded pos h
  rw [number?_digits (fun c => Text.isDigit_of_mem_padded) (by omega) (by omega) (.inl length),
    Text.digitsValue_padded]

theorem number?_padded {count n : Nat} (pos : 0 < count) (h : n < 10 ^ count) (rest : List Char) :
    number? count count ((Text.padded count n).toList ++ rest) = some (n, rest) :=
  number?_padded_of_le pos (Nat.le_refl count) h rest

theorem fraction?_padded {count n : Nat} (pos : 0 < count) (few : count ≤ 9) (h : n < 10 ^ count)
    {c : Char} (hc : c.isDigit = false) (rest : List Char) :
    fraction? ('.' :: ((Text.padded count n).toList ++ c :: rest)) =
      some (n * 10 ^ (9 - count), c :: rest) := by
  have length := Text.length_padded pos h
  have number : number? 1 9 ((Text.padded count n).toList ++ c :: rest) = some (n, c :: rest) := by
    rw [number?_digits (fun c => Text.isDigit_of_mem_padded) (by omega) (by omega)
      (.inr fun d hd => by cases hd; exact hc), Text.digitsValue_padded]
  have other : ¬c.isDigit = true := by simp [hc]
  simp only [fraction?, number, Option.bind_eq_bind, Option.bind_some, List.length_append, length,
    Nat.add_sub_cancel, List.dropWhile_cons_of_neg other]
  rfl

/-- A fraction is written with as many digits as are needed, and read as the same nanoseconds. -/
theorem fraction?_fractionText {nanos : Nat} (h : nanos < nanosPerSecond) {c : Char}
    (hc : c.isDigit = false) (point : c ≠ '.') (rest : List Char) :
    fraction? ((fractionText nanos).toList ++ c :: rest) = some (nanos, c :: rest) := by
  unfold nanosPerSecond at h
  have pointed (digits : String) : ("." ++ digits).toList = '.' :: digits.toList :=
    String.toList_append
  unfold fractionText
  split
  · next zero =>
    rw [zero]
    show fraction? (c :: rest) = _
    unfold fraction?
    split
    · next eq => exact absurd (List.cons.inj eq).1 point
    · rfl
  split
  · next millis =>
    have value : nanos / 1000000 * 10 ^ (9 - 3) = nanos := by omega
    rw [pointed, List.cons_append, fraction?_padded (by decide) (by decide) (by omega) hc, value]
  split
  · next micros =>
    have value : nanos / 1000 * 10 ^ (9 - 6) = nanos := by omega
    rw [pointed, List.cons_append, fraction?_padded (by decide) (by decide) (by omega) hc, value]
  · rw [pointed, List.cons_append, fraction?_padded (by decide) (by decide) (by omega) hc, Nat.sub_self,
      Nat.pow_zero, Nat.mul_one]

end Reading

/-! ## Instants -/

theorem Date.Exists.month_lt {d : Date} (h : d.Exists) : d.month < 10 ^ 2 := by
  obtain ⟨-, last, -, -⟩ := h
  omega

theorem Date.Exists.day_lt {d : Date} (h : d.Exists) : d.day < 10 ^ 2 := by
  obtain ⟨-, -, -, last⟩ := h
  unfold daysInMonth at last
  split at last
  · split at last <;> omega
  · split at last <;> omega

theorem bind_of_some {α β : Type} {x : Option α} {f : α → Option β} {a : α} {y : Option β} (first : x = some a)
    (rest : f a = y) : x >>= f = y := by
  rw [first]
  exact rest

theorem Clock.toList_parts (c : Clock) :
    (c.dateText ++ "T" ++ c.timeText ++ "Z").toList = (yearText c.date.year).toList ++
      '-' :: ((Text.padded 2 c.date.month).toList ++ '-' :: ((Text.padded 2 c.date.day).toList ++
      'T' :: ((Text.padded 2 c.hour).toList ++ ':' :: ((Text.padded 2 c.minute).toList ++
      ':' :: ((Text.padded 2 c.second).toList ++ ((fractionText c.nanos).toList ++ ['Z'])))))) := by
  simp [Clock.dateText, Clock.timeText]

theorem yearText_eq {year : Int} (first : 0 ≤ year) (last : year ≤ 9999) :
    yearText year = Text.padded 4 year.toNat :=
  if_pos ⟨first, last⟩

theorem Clock.toList_text {c : Clock} (first : 0 ≤ c.date.year) (last : c.date.year ≤ 9999) :
    (c.dateText ++ "T" ++ c.timeText ++ "Z").toList = (Text.padded 4 c.date.year.toNat).toList ++
      '-' :: ((Text.padded 2 c.date.month).toList ++ '-' :: ((Text.padded 2 c.date.day).toList ++
      'T' :: ((Text.padded 2 c.hour).toList ++ ':' :: ((Text.padded 2 c.minute).toList ++
      ':' :: ((Text.padded 2 c.second).toList ++ ((fractionText c.nanos).toList ++ ['Z'])))))) := by
  rw [c.toList_parts, yearText_eq first last]

open Reading in
theorem Clock.full?_text {c : Clock} (date : c.date.Exists) (first : 0 ≤ c.date.year)
    (last : c.date.year ≤ 9999) (range : c.InRange) :
    full? (c.dateText ++ "T" ++ c.timeText ++ "Z").toList = c.instant? 0 := by
  obtain ⟨hours, minutes, seconds, nanos⟩ := range
  have year := number?_padded (by decide) (show c.date.year.toNat < 10 ^ 4 by omega)
  have month := number?_padded (by decide) date.month_lt
  have day := number?_padded (by decide) date.day_lt
  have hour := number?_padded (by decide) (show c.hour < 10 ^ 2 by omega)
  have minute := number?_padded (by decide) (show c.minute < 10 ^ 2 by omega)
  have second := number?_padded (by decide) (show c.second < 10 ^ 2 by omega)
  have fraction := fraction?_fractionText nanos (c := 'Z') rfl (by decide) []
  have offset : offset? (char? ':') ['Z'] = some (0, []) := rfl
  rw [c.toList_text first last, full?]
  refine bind_of_some (year _) (bind_of_some rfl ?_)
  refine bind_of_some (month _) (bind_of_some rfl ?_)
  refine bind_of_some (day _) (bind_of_some rfl ?_)
  refine bind_of_some (hour _) (bind_of_some rfl ?_)
  refine bind_of_some (minute _) (bind_of_some rfl ?_)
  refine bind_of_some (second _) (bind_of_some fraction (bind_of_some offset ?_))
  show (if [] = [] then _ else none) = _
  rw [if_pos rfl, Int.toNat_of_nonneg first]

def Instant.HasFourDigitYear (t : Instant) : Prop :=
  0 ≤ t.clock.date.year ∧ t.clock.date.year ≤ 9999

theorem Instant.ofText?_text {t : Instant} (h : t.HasFourDigitYear) : Instant.ofText? t.text = some t := by
  obtain ⟨first, last⟩ := h
  calc Instant.ofText? t.text = t.clock.instant? 0 :=
        Clock.full?_text (Date.exists_ofDays _) first last t.clock_inRange
    _ = some t := Clock.instant?_clock t ⟨by omega, by omega⟩

/-! ## The characters of a date -/

def isDateSign (c : Char) : Bool :=
  ['-', 'T', ':', '.', 'Z'].contains c

def isDateChar (c : Char) : Bool :=
  c.isDigit || isDateSign c

theorem isDateChar_of_mem_padded {count n : Nat} {c : Char} (h : c ∈ (Text.padded count n).toList) :
    isDateChar c = true := by
  rw [isDateChar, Text.isDigit_of_mem_padded h, Bool.true_or]

theorem isDateChar_of_mem_fractionText {nanos : Nat} {c : Char} (h : c ∈ (fractionText nanos).toList) :
    isDateChar c = true := by
  have pointed {count n : Nat} (h : c ∈ ("." ++ Text.padded count n).toList) : isDateChar c = true := by
    rw [String.toList_append] at h
    rcases List.mem_append.mp h with h | h
    · rw [List.mem_singleton.mp h]
      rfl
    · exact isDateChar_of_mem_padded h
  unfold fractionText at h
  split at h
  · cases h
  split at h
  · exact pointed h
  split at h <;> exact pointed h

section
variable {t : Instant} (h : t.HasFourDigitYear)
include h

theorem Instant.isDateChar_of_mem_text : ∀ c ∈ t.text.toList, isDateChar c = true := by
  have part {count n : Nat} {sign : Char} {rest : List Char} (hs : isDateSign sign = true)
      (hr : ∀ c ∈ rest, isDateChar c = true) :
      ∀ c ∈ (Text.padded count n).toList ++ sign :: rest, isDateChar c = true := by
    refine List.forall_mem_append.mpr ⟨fun c => isDateChar_of_mem_padded, List.forall_mem_cons.mpr ⟨?_, hr⟩⟩
    rw [isDateChar, hs, Bool.or_true]
  have final : ∀ c ∈ ['Z'], isDateChar c = true := List.forall_mem_singleton.mpr rfl
  rw [Instant.text, Clock.toList_text h.1 h.2]
  refine part rfl (part rfl (part rfl (part rfl (part rfl ?_))))
  exact List.forall_mem_append.mpr ⟨fun c => isDateChar_of_mem_padded,
    List.forall_mem_append.mpr ⟨fun c => isDateChar_of_mem_fractionText, final⟩⟩

theorem Instant.exists_text : ∃ c cs, t.text.toList = c :: cs ∧ c.isDigit = true ∧ 'T' ∈ cs := by
  have digits : (Text.padded 4 t.clock.date.year.toNat).toList.length = 4 :=
    Text.length_padded (by decide) (by have := h.2; omega)
  obtain ⟨c, cs, year⟩ := List.exists_cons_of_length_pos (by rw [digits]; decide)
  rw [Instant.text, Clock.toList_text h.1 h.2, year]
  refine ⟨c, _, rfl, Text.isDigit_of_mem_padded (by rw [year]; exact List.mem_cons_self), ?_⟩
  simp

end

end Time
end PolicyGate
