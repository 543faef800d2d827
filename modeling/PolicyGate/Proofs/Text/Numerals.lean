import PolicyGate.Text.Decimal
import PolicyGate.Text.Hex

/-!
# Numerals read back

A decimal or hexadecimal numeral is made of digits, and its digits give the number again:
`digitsValue_repr` and `Hex.decode?_encode`. Hexadecimal digits are read in both cases, and nothing else is:
`Hex.decode?_eq_some`.
-/

namespace PolicyGate.Text

theorem digitsValue_repr (n : Nat) : digitsValue n.repr.toList = n := by
  rw [Nat.toList_repr]
  exact Nat.ofDigitChars_ten_toDigits

theorem isDigit_of_mem_repr {n : Nat} {c : Char} (h : c ∈ n.repr.toList) : c.isDigit = true := by
  rw [Nat.toList_repr] at h
  exact Nat.isDigit_of_mem_toDigits (by decide) (by decide) h

theorem repr_ne_nil (n : Nat) : n.repr.toList ≠ [] := by
  rw [Nat.toList_repr]
  exact Nat.toDigits_ne_nil

namespace Hex

theorem digitValue?_digit : ∀ n < 16, digitValue? (digit n) = some n := by decide

theorem isDigit_digit : ∀ n < 16, isDigit (digit n) = true := by decide

theorem decode?_encode (bs : Bytes) : decode? (encode bs) = some bs := by
  induction bs with
  | nil => rfl
  | cons b bs ih =>
    have hb : b.toNat < 256 := b.toNat_lt
    have high := digitValue?_digit (b.toNat / 16) (by omega)
    have low := digitValue?_digit (b.toNat % 16) (by omega)
    have hn : 16 * (b.toNat / 16) + b.toNat % 16 = b.toNat := by omega
    simp only [encode, decode?, high, low, ih, Option.bind_eq_bind, Option.bind_some]
    rw [hn, UInt8.ofNat_toNat]
    rfl

theorem length_encode (bs : Bytes) : (encode bs).length = 2 * bs.length := by
  induction bs with
  | nil => rfl
  | cons b bs ih =>
    rw [encode, List.length_cons, List.length_cons, ih, List.length_cons]
    omega

theorem exists_digit_of_mem_encode {bs : Bytes} {c : Char} (h : c ∈ encode bs) : ∃ n < 16, c = digit n := by
  induction bs with
  | nil => cases h
  | cons b bs ih =>
    have hb : b.toNat < 256 := b.toNat_lt
    rcases List.mem_cons.mp h with rfl | h
    · exact ⟨_, by omega, rfl⟩
    rcases List.mem_cons.mp h with rfl | h
    · exact ⟨_, by omega, rfl⟩
    · exact ih h

theorem isDigit_of_mem_encode {bs : Bytes} {c : Char} (h : c ∈ encode bs) : isDigit c = true := by
  obtain ⟨n, hn, rfl⟩ := exists_digit_of_mem_encode h
  exact isDigit_digit n hn

theorem toNat_mem {c first last : Char} (h : first ≤ c ∧ c ≤ last) :
    first.toNat ≤ c.toNat ∧ c.toNat ≤ last.toNat :=
  ⟨UInt32.le_iff_toNat_le.mp h.1, UInt32.le_iff_toNat_le.mp h.2⟩

theorem digitValue?_range {c : Char} {n : Nat} (h : digitValue? c = some n) :
    (48 ≤ c.toNat ∧ c.toNat ≤ 57 ∧ n = c.toNat - 48) ∨ (97 ≤ c.toNat ∧ c.toNat ≤ 102 ∧ n = c.toNat - 97 + 10) ∨
      (65 ≤ c.toNat ∧ c.toNat ≤ 70 ∧ n = c.toNat - 65 + 10) := by
  unfold digitValue? at h
  split at h
  · next decimal =>
    obtain ⟨low, high⟩ := Char.isDigit_iff_toNat.mp decimal
    exact .inl ⟨low, high, (Option.some.inj h).symm⟩
  split at h
  · next small =>
    obtain ⟨low, high⟩ := toNat_mem small
    exact .inr (.inl ⟨low, high, (Option.some.inj h).symm⟩)
  split at h
  · next capital =>
    obtain ⟨low, high⟩ := toNat_mem capital
    exact .inr (.inr ⟨low, high, (Option.some.inj h).symm⟩)
  · cases h

theorem digitValue?_eq_some {c : Char} {n : Nat} :
    digitValue? c = some n ↔ n < 16 ∧ c.toLower = digit n := by
  have run (base offset count : Nat) (table : ∀ k < count, (Char.ofNat (base + k)).toLower = digit (k + offset))
      (low : base ≤ c.toNat) (high : c.toNat < base + count) : c.toLower = digit (c.toNat - base + offset) := by
    rw [← table (c.toNat - base) (by omega), Nat.add_sub_cancel' low, Char.ofNat_toNat]
  constructor
  · intro h
    rcases digitValue?_range h with ⟨low, high, rfl⟩ | ⟨low, high, rfl⟩ | ⟨low, high, rfl⟩
    · exact ⟨by omega, run 48 0 10 (by decide) low (by omega)⟩
    · exact ⟨by omega, run 97 10 6 (by decide) low (by omega)⟩
    · exact ⟨by omega, run 65 10 6 (by decide) low (by omega)⟩
  · rintro ⟨small, lower⟩
    unfold Char.toLower at lower
    split at lower
    · next capital =>
      have bounds : 'A' ≤ c ∧ c ≤ 'Z' := capital
      obtain ⟨low, high⟩ : 65 ≤ c.toNat ∧ c.toNat ≤ 90 := toNat_mem bounds
      have number : (digit n).toNat = c.toNat + 32 := by
        rw [← lower]
        show (c.val + 32).toNat = _
        rw [UInt32.toNat_add]
        exact Nat.mod_eq_of_lt (show c.toNat + 32 < _ by omega)
      have raised : ∀ k < 16, 97 ≤ (digit k).toNat → digitValue? (Char.ofNat ((digit k).toNat - 32)) = some k := by
        decide
      have value := raised n small (by omega)
      rwa [number, Nat.add_sub_cancel, Char.ofNat_toNat] at value
    · rw [lower]
      exact digitValue?_digit n small

theorem decode?_eq_some {cs : List Char} {bs : Bytes} :
    decode? cs = some bs ↔ cs.map Char.toLower = encode bs := by
  constructor
  · intro h
    fun_induction decode? cs generalizing bs with
    | case1 =>
      cases h
      rfl
    | case2 => cases h
    | case3 c d cs ih =>
      obtain ⟨high, hc, h⟩ := Option.bind_eq_some_iff.mp h
      obtain ⟨low, hd, h⟩ := Option.bind_eq_some_iff.mp h
      obtain ⟨rest, read, h⟩ := Option.bind_eq_some_iff.mp h
      cases h
      obtain ⟨hh, hc⟩ := digitValue?_eq_some.mp hc
      obtain ⟨hl, hd⟩ := digitValue?_eq_some.mp hd
      have number : (UInt8.ofNat (16 * high + low)).toNat = 16 * high + low :=
        UInt8.toNat_ofNat_of_lt' (by show _ < 256; omega)
      have first : (16 * high + low) / 16 = high := by omega
      have second : (16 * high + low) % 16 = low := by omega
      rw [encode, number, first, second, ← ih read]
      simp only [List.map_cons, hc, hd]
  · intro h
    induction bs generalizing cs with
    | nil =>
      rw [List.map_eq_nil_iff.mp h]
      rfl
    | cons b bs ih =>
      have hb : b.toNat < 256 := b.toNat_lt
      obtain ⟨c, cs, rfl, hc, h⟩ := List.map_eq_cons_iff.mp h
      obtain ⟨d, cs, rfl, hd, h⟩ := List.map_eq_cons_iff.mp h
      have high := digitValue?_eq_some.mpr ⟨by omega, hc⟩
      have low := digitValue?_eq_some.mpr ⟨by omega, hd⟩
      have number : 16 * (b.toNat / 16) + b.toNat % 16 = b.toNat := by omega
      simp only [decode?, high, low, ih h, Option.bind_eq_bind, Option.bind_some]
      rw [number, UInt8.ofNat_toNat]
      rfl

end Hex
end PolicyGate.Text
