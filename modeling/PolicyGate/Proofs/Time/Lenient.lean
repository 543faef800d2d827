import PolicyGate.Proofs.Text.Runs
import PolicyGate.Proofs.Time.Years

/-!
# Instants of every year read back

The lenient reader takes years with a sign, of any number of digits. So it gives every instant back from its
text, leap seconds and the first and last years included: `Instant.ofLenientText?_text`.
-/

namespace PolicyGate.Time

namespace Reading

variable {count n : Nat} {rest : List Char}

theorem exists_padded (count n : Nat) : ∃ c cs, (Text.padded count n).toList = c :: cs ∧ c.isDigit = true := by
  have nonempty : (Text.padded count n).toList ≠ [] := by
    rw [Text.toList_padded]
    exact List.append_ne_nil_of_right_ne_nil _ (Text.repr_ne_nil n)
  obtain ⟨c, cs, digits⟩ := List.exists_cons_of_ne_nil nonempty
  exact ⟨c, cs, digits, Text.isDigit_of_mem_padded (digits ▸ List.mem_cons_self)⟩

theorem trimStart_padded (count n : Nat) (rest : List Char) :
    Text.trimStart ((Text.padded count n).toList ++ rest) = (Text.padded count n).toList ++ rest := by
  obtain ⟨c, cs, digits, digit⟩ := exists_padded count n
  refine Text.trimStart_eq fun d hd => ?_
  rw [digits] at hd
  obtain rfl := Option.some.inj hd
  obtain ⟨low, high⟩ := Char.isDigit_iff_toNat.mp digit
  exact Text.isBlank_of_toNat low (Nat.le_trans high (by decide))

theorem number?_trimStart (h : n < 10 ^ 2) (rest : List Char) :
    number? 1 2 (Text.trimStart ((Text.padded 2 n).toList ++ rest)) = some (n, rest) := by
  rw [trimStart_padded]
  exact number?_padded_of_le (by decide) (by decide) h rest

theorem number?_signed (n : Nat) (rest : List Char) {c : Char} (hc : c.isDigit = false) :
    number? 1 ((Text.padded 4 n).toList ++ c :: rest).length ((Text.padded 4 n).toList ++ c :: rest) =
      some (n, c :: rest) := by
  obtain ⟨d, ds, digits, -⟩ := exists_padded 4 n
  have enough : 1 ≤ (Text.padded 4 n).toList.length := by simp [digits]
  have room : (Text.padded 4 n).toList.length ≤ ((Text.padded 4 n).toList ++ c :: rest).length := by simp
  rw [number?_digits (fun c => Text.isDigit_of_mem_padded) enough room (.inr fun d hd => by cases hd; exact hc),
    Text.digitsValue_padded]

theorem year?_digit {c : Char} (digit : c.isDigit = true) (cs : List Char) :
    year? (c :: cs) = (number? 1 4 (c :: cs)).map fun (n, rest) => ((n : Int), rest) := by
  unfold year?
  split
  · next eq =>
    rw [(List.cons.inj eq).1] at digit
    cases digit
  · next eq =>
    rw [(List.cons.inj eq).1] at digit
    cases digit
  · rfl

theorem yearText_shape (year : Int) :
    (0 ≤ year ∧ year ≤ 9999 ∧ (yearText year).toList = (Text.padded 4 year.toNat).toList) ∨
      (year < 0 ∧ (yearText year).toList = '-' :: (Text.padded 4 year.natAbs).toList) ∨
      (9999 < year ∧ (yearText year).toList = '+' :: (Text.padded 4 year.natAbs).toList) := by
  by_cases four : 0 ≤ year ∧ year ≤ 9999
  · exact .inl ⟨four.1, four.2, by rw [yearText_eq four.1 four.2]⟩
  · have spelled : yearText year = (if year < 0 then "-" else "+") ++ Text.padded 4 year.natAbs := if_neg four
    by_cases negative : year < 0
    · exact .inr (.inl ⟨negative, by rw [spelled, if_pos negative, String.toList_append]; rfl⟩)
    · exact .inr (.inr ⟨by omega, by rw [spelled, if_neg negative, String.toList_append]; rfl⟩)

theorem year?_yearText (year : Int) (rest : List Char) :
    year? ((yearText year).toList ++ '-' :: rest) = some (year, '-' :: rest) := by
  have read := number?_signed year.natAbs rest (c := '-') rfl
  rcases yearText_shape year with ⟨first, last, spelled⟩ | ⟨negative, spelled⟩ | ⟨large, spelled⟩
  · obtain ⟨c, cs, digits, digit⟩ := exists_padded 4 year.toNat
    have value : (year.toNat : Int) = year := Int.toNat_of_nonneg first
    have read : number? 1 4 ((Text.padded 4 year.toNat).toList ++ '-' :: rest) = some (year.toNat, '-' :: rest) :=
      number?_padded_of_le (by decide) (by decide) (by omega) _
    rw [digits, List.cons_append] at read
    rw [spelled, digits, List.cons_append, year?_digit digit]
    simp only [read, Option.map_some, value]
  · have value : -(year.natAbs : Int) = year := by omega
    rw [spelled, List.cons_append]
    simp only [year?, read, Option.map_some, value]
  · have value : (year.natAbs : Int) = year := by omega
    rw [spelled, List.cons_append]
    simp only [year?, read, Option.map_some, value]

theorem trimStart_yearText (year : Int) (rest : List Char) :
    Text.trimStart ((yearText year).toList ++ rest) = (yearText year).toList ++ rest := by
  rcases yearText_shape year with ⟨-, -, spelled⟩ | ⟨-, spelled⟩ | ⟨-, spelled⟩
  · rw [spelled, trimStart_padded]
  · rw [spelled]
    rfl
  · rw [spelled]
    rfl

end Reading

open Reading in
/-- The lenient reader takes a clock of any year from its text. -/
theorem Clock.lenient?_text {c : Clock} (date : c.date.Exists) (range : c.InRange) :
    lenient? (c.dateText ++ "T" ++ c.timeText ++ "Z").toList = c.instant? 0 := by
  obtain ⟨hours, minutes, seconds, nanos⟩ := range
  have year := year?_yearText c.date.year
  have month := number?_trimStart date.month_lt
  have day := number?_trimStart date.day_lt
  have hour := number?_trimStart (show c.hour < 10 ^ 2 by omega)
  have minute := number?_trimStart (show c.minute < 10 ^ 2 by omega)
  have second := number?_trimStart (show c.second < 10 ^ 2 by omega)
  have fraction := fraction?_fractionText nanos (c := 'Z') rfl (by decide) []
  have zone : zone? (Text.trimStart ['Z']) = some (0, []) := rfl
  rw [c.toList_parts, lenient?, trimStart_yearText]
  refine bind_of_some (year _) (bind_of_some rfl ?_)
  refine bind_of_some (month _) (bind_of_some rfl ?_)
  refine bind_of_some (day _) (bind_of_some rfl ?_)
  refine bind_of_some (hour _) (bind_of_some rfl ?_)
  refine bind_of_some (minute _) (bind_of_some rfl ?_)
  refine bind_of_some (second _) (bind_of_some fraction (bind_of_some zone ?_))
  exact if_pos rfl

theorem Instant.year_range (t : Instant) : -262143 ≤ t.clock.date.year ∧ t.clock.date.year ≤ 262142 := by
  obtain ⟨first, last, -, -⟩ := t.isInstant
  have after : ¬262143 ≤ t.clock.date.year := by
    rw [Instant.le_year, show Date.firstDay 262143 = 95026237 by decide]
    unfold latestSecond at last
    unfold secondsPerDay
    omega
  constructor
  · rw [Instant.le_year, show Date.firstDay (-262143) = -96465292 by decide]
    unfold earliestSecond at first
    unfold secondsPerDay
    omega
  · omega

theorem Instant.ofLenientText?_text (t : Instant) : Instant.ofLenientText? t.text = some t :=
  calc Instant.ofLenientText? t.text = t.clock.instant? 0 :=
        Clock.lenient?_text (Date.exists_ofDays _) t.clock_inRange
    _ = some t := Clock.instant?_clock t t.year_range

end PolicyGate.Time
