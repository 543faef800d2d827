import PolicyGate.Text.Base64Url

/-!
# Base64 read back

The characters of a base64 text write numbers of six bits (`sextets`), and numbers that are read as bytes are
those of the bytes (`eq_sextets`). So the texts that are decoded to given bytes are their encoding with a part
of its filling or all of it: `decode?_eq_some`.
-/

namespace PolicyGate.Text.Base64Url

/-! ## Digits -/

theorem digitValue?_digit : ∀ n < 64, digitValue? (digit n) = some n := by decide

theorem digit_ne_filling : ∀ n < 64, digit n ≠ '=' := by decide

theorem eq_ofNat_add {c : Char} {base : Nat} (h : base ≤ c.toNat) :
    c = Char.ofNat (base + (c.toNat - base)) := by
  rw [Nat.add_sub_cancel' h, Char.ofNat_toNat]

theorem eq_digit {c : Char} {n : Nat} (h : digitValue? c = some n) : n < 64 ∧ c = digit n := by
  have range {first last : UInt32} (h : first ≤ c.val ∧ c.val ≤ last) :
      first.toNat ≤ c.toNat ∧ c.toNat ≤ last.toNat :=
    ⟨UInt32.le_iff_toNat_le.mp h.1, UInt32.le_iff_toNat_le.mp h.2⟩
  unfold digitValue? at h
  split at h
  · next upper =>
    obtain ⟨low, high⟩ : 65 ≤ c.toNat ∧ c.toNat ≤ 90 := range (of_decide_eq_true upper)
    obtain rfl : c.toNat - 65 = n := Option.some.inj h
    rw [digit, if_pos (by omega)]
    exact ⟨by omega, eq_ofNat_add low⟩
  split at h
  · next lower =>
    have sides := Bool.and_eq_true_iff.mp lower
    obtain ⟨low, high⟩ : 97 ≤ c.toNat ∧ c.toNat ≤ 122 :=
      range ⟨of_decide_eq_true sides.1, of_decide_eq_true sides.2⟩
    obtain rfl : c.toNat - 97 + 26 = n := Option.some.inj h
    rw [digit, if_neg (by omega), if_pos (by omega), Nat.add_sub_cancel]
    exact ⟨by omega, eq_ofNat_add low⟩
  split at h
  · next decimal =>
    obtain ⟨low, high⟩ : 48 ≤ c.toNat ∧ c.toNat ≤ 57 := Char.isDigit_iff_toNat.mp decimal
    obtain rfl : c.toNat - 48 + 52 = n := Option.some.inj h
    rw [digit, if_neg (by omega), if_neg (by omega), if_pos (by omega), Nat.add_sub_cancel]
    exact ⟨by omega, eq_ofNat_add low⟩
  split at h
  · next hyphen =>
    obtain rfl : 62 = n := Option.some.inj h
    exact ⟨by decide, hyphen⟩
  split at h
  · next underscore =>
    obtain rfl : 63 = n := Option.some.inj h
    exact ⟨by decide, underscore⟩
  · cases h

theorem mapM_digitValue?_digits {ns : List Nat} (h : ∀ n ∈ ns, n < 64) :
    (ns.map digit).mapM digitValue? = some ns := by
  induction ns with
  | nil => rfl
  | cons n ns ih =>
    obtain ⟨hn, hns⟩ := List.forall_mem_cons.mp h
    rw [List.map_cons, List.mapM_cons, digitValue?_digit n hn, ih hns]
    rfl

theorem eq_digits {cs : List Char} {ns : List Nat} (h : cs.mapM digitValue? = some ns) :
    (∀ n ∈ ns, n < 64) ∧ cs = ns.map digit := by
  induction cs generalizing ns with
  | nil =>
    cases h
    simp
  | cons c cs ih =>
    rw [List.mapM_cons] at h
    obtain ⟨n, first, h⟩ := Option.bind_eq_some_iff.mp h
    obtain ⟨rest, others, h⟩ := Option.bind_eq_some_iff.mp h
    cases h
    obtain ⟨bound, rfl⟩ := eq_digit first
    obtain ⟨bounds, rfl⟩ := ih others
    exact ⟨List.forall_mem_cons.mpr ⟨bound, bounds⟩, rfl⟩

/-! ## Groups of six bits -/

/-- The numbers of six bits that write bytes; the last one is filled up with zeros. -/
def sextets : Bytes → List Nat
  | [] => []
  | [a] => [a.toNat / 4, a.toNat % 4 * 16]
  | [a, b] => [a.toNat / 4, a.toNat % 4 * 16 + b.toNat / 16, b.toNat % 16 * 4]
  | a :: b :: c :: rest =>
    a.toNat / 4 :: (a.toNat % 4 * 16 + b.toNat / 16) :: (b.toNat % 16 * 4 + c.toNat / 64) ::
      c.toNat % 64 :: sextets rest

theorem encode_eq (bs : Bytes) : encode bs = (sextets bs).map digit := by
  fun_induction sextets bs with
  | case1 => rfl
  | case2 a => rfl
  | case3 a b => rfl
  | case4 a b c rest ih => rw [encode, ih]; rfl

theorem sextets_lt (bs : Bytes) : ∀ n ∈ sextets bs, n < 64 := by
  fun_induction sextets bs with
  | case1 => simp
  | case2 a =>
    have := a.toNat_lt
    simp only [List.forall_mem_cons]
    exact ⟨by omega, by omega, by simp⟩
  | case3 a b =>
    have := a.toNat_lt
    have := b.toNat_lt
    simp only [List.forall_mem_cons]
    exact ⟨by omega, by omega, by omega, by simp⟩
  | case4 a b c rest ih =>
    have := a.toNat_lt
    have := b.toNat_lt
    have := c.toNat_lt
    simp only [List.forall_mem_cons]
    exact ⟨by omega, by omega, by omega, by omega, ih⟩

theorem ofNat_eq {n : Nat} {b : UInt8} (h : n = b.toNat) : UInt8.ofNat n = b := by
  rw [h, UInt8.ofNat_toNat]

theorem bytesOf?_sextets (bs : Bytes) : bytesOf? (sextets bs) = some bs := by
  fun_induction sextets bs with
  | case1 => rfl
  | case2 a =>
    have first : a.toNat / 4 * 4 + a.toNat % 4 * 16 / 16 = a.toNat := by omega
    rw [bytesOf?, if_pos (by omega), ofNat_eq first]
  | case3 a b =>
    have := b.toNat_lt
    have first : a.toNat / 4 * 4 + (a.toNat % 4 * 16 + b.toNat / 16) / 16 = a.toNat := by omega
    have second : (a.toNat % 4 * 16 + b.toNat / 16) % 16 * 16 + b.toNat % 16 * 4 / 4 = b.toNat := by omega
    rw [bytesOf?, if_pos (by omega), ofNat_eq first, ofNat_eq second]
  | case4 a b c rest ih =>
    have := b.toNat_lt
    have := c.toNat_lt
    have first : a.toNat / 4 * 4 + (a.toNat % 4 * 16 + b.toNat / 16) / 16 = a.toNat := by omega
    have second : (a.toNat % 4 * 16 + b.toNat / 16) % 16 * 16 + (b.toNat % 16 * 4 + c.toNat / 64) / 4 =
        b.toNat := by omega
    have third : (b.toNat % 16 * 4 + c.toNat / 64) % 4 * 64 + c.toNat % 64 = c.toNat := by omega
    rw [bytesOf?, ih, ofNat_eq first, ofNat_eq second, ofNat_eq third]
    rfl

theorem toNat_ofNat {n : Nat} (h : n < 256) : (UInt8.ofNat n).toNat = n :=
  UInt8.toNat_ofNat_of_lt' h

/-- Bits that the last number has too many are zero, so numbers that write bytes are those of the bytes. -/
theorem eq_sextets {ns : List Nat} {bs : Bytes} (small : ∀ n ∈ ns, n < 64) (h : bytesOf? ns = some bs) :
    ns = sextets bs := by
  fun_induction bytesOf? ns generalizing bs with
  | case1 =>
    cases h
    rfl
  | case2 a => cases h
  | case3 a b zero =>
    cases h
    simp only [List.forall_mem_cons] at small
    obtain ⟨ha, hb, -⟩ := small
    have first := toNat_ofNat (show a * 4 + b / 16 < 256 by omega)
    simp only [sextets, first, List.cons.injEq, and_true]
    omega
  | case4 => cases h
  | case5 a b c zero =>
    cases h
    simp only [List.forall_mem_cons] at small
    obtain ⟨ha, hb, hc, -⟩ := small
    have first := toNat_ofNat (show a * 4 + b / 16 < 256 by omega)
    have second := toNat_ofNat (show b % 16 * 16 + c / 4 < 256 by omega)
    simp only [sextets, first, second, List.cons.injEq, and_true]
    omega
  | case6 => cases h
  | case7 a b c d rest ih =>
    obtain ⟨others, more, rfl⟩ := Option.map_eq_some_iff.mp h
    simp only [List.forall_mem_cons] at small
    obtain ⟨ha, hb, hc, hd, smaller⟩ := small
    have first := toNat_ofNat (show a * 4 + b / 16 < 256 by omega)
    have second := toNat_ofNat (show b % 16 * 16 + c / 4 < 256 by omega)
    have third := toNat_ofNat (show c % 4 * 64 + d < 256 by omega)
    simp only [sextets, first, second, third, ih smaller more, List.cons.injEq, and_true]
    omega

/-! ## Filling -/

/-- How many signs fill up the last group of so many characters. -/
def room (count : Nat) : Nat :=
  (4 - count % 4) % 4

theorem ne_filling_of_mem_encode {bs : Bytes} {c : Char} (h : c ∈ encode bs) : c ≠ '=' := by
  rw [encode_eq] at h
  obtain ⟨n, hn, rfl⟩ := List.mem_map.mp h
  exact digit_ne_filling n (sextets_lt bs n hn)

theorem unfilled?_filled {digits : List Char} (clear : ∀ c ∈ digits, c ≠ '=') {k : Nat}
    (few : k ≤ room digits.length) : unfilled? (digits ++ List.replicate k '=') = some digits := by
  have run : (digits ++ List.replicate k '=').takeWhile (· ≠ '=') = digits := by
    rw [List.takeWhile_append_of_pos (by simpa using clear)]
    simp
  unfold unfilled?
  simp only [run, List.drop_left, List.length_replicate]
  rw [if_pos ⟨by simp, few⟩]

theorem eq_filled {cs digits : List Char} (h : unfilled? cs = some digits) :
    ∃ k ≤ room digits.length, cs = digits ++ List.replicate k '=' := by
  unfold unfilled? at h
  simp only at h
  split at h
  · next filled =>
    obtain ⟨signs, few⟩ := filled
    obtain rfl := Option.some.inj h
    refine ⟨_, few, ?_⟩
    rw [← List.eq_replicate_of_mem (by simpa using signs)]
    exact (List.prefix_iff_eq_append.mp (List.takeWhile_prefix _)).symm
  · cases h

theorem decode?_eq_some {cs : List Char} {bs : Bytes} :
    decode? cs = some bs ↔ ∃ k ≤ room (encode bs).length, cs = encode bs ++ List.replicate k '=' := by
  constructor
  · intro h
    obtain ⟨digits, unfilled, h⟩ := Option.bind_eq_some_iff.mp h
    obtain ⟨ns, values, h⟩ := Option.bind_eq_some_iff.mp h
    obtain ⟨small, spelled⟩ := eq_digits values
    rw [spelled, eq_sextets small h, ← encode_eq] at unfilled
    exact eq_filled unfilled
  · rintro ⟨k, few, rfl⟩
    have values := mapM_digitValue?_digits (sextets_lt bs)
    rw [← encode_eq] at values
    rw [decode?, unfilled?_filled (fun c hc => ne_filling_of_mem_encode hc) few]
    simp only [Option.bind_eq_bind, Option.bind_some, values, bytesOf?_sextets]

theorem decode?_encode (bs : Bytes) : decode? (encode bs) = some bs :=
  decode?_eq_some.mpr ⟨0, Nat.zero_le _, (List.append_nil _).symm⟩

theorem encode_inj {bs cs : Bytes} : encode bs = encode cs ↔ bs = cs := by
  refine ⟨fun h => ?_, congrArg encode⟩
  have read := decode?_encode bs
  rw [h, decode?_encode cs] at read
  exact (Option.some.inj read).symm

end PolicyGate.Text.Base64Url
