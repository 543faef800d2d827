import Mathlib.Algebra.Group.Int.Defs
import Mathlib.Algebra.Group.Nat.Defs
import PolicyGate.Assertion.Basic

/-!
# Payloads tell assertions apart

The length in front of a part says where the part ends, and the time has as many bytes in each payload. So
the parts and the time can be read off a payload, and assertions with one payload differ in their
signatures only: `SignedAssertion.payload_unambiguous`.
-/

namespace PolicyGate

/-! ## Numbers as bytes -/

theorem bigEndian_succ (count n : Nat) :
    bigEndian (count + 1) n = UInt8.ofNat (n >>> (8 * count)) :: bigEndian count n := by
  rw [bigEndian, List.range_succ, List.reverse_append]
  rfl

theorem length_bigEndian (count n : Nat) : (bigEndian count n).length = count := by
  simp [bigEndian]

/-- Some bytes tell a number up to multiples of the first one that they have no room for. -/
theorem mod_eq_of_bigEndian {count m n : Nat} (h : bigEndian count m = bigEndian count n) :
    m % 256 ^ count = n % 256 ^ count := by
  induction count with
  | zero => rw [Nat.pow_zero, Nat.mod_one, Nat.mod_one]
  | succ count ih =>
    rw [bigEndian_succ, bigEndian_succ, List.cons.injEq] at h
    obtain ⟨first, rest⟩ := h
    have shifted (k : Nat) : (UInt8.ofNat (k >>> (8 * count))).toNat = k / 256 ^ count % 256 := by
      rw [UInt8.toNat_ofNat', Nat.shiftRight_eq_div_pow, Nat.pow_mul]
    have digit : m / 256 ^ count % 256 = n / 256 ^ count % 256 := by
      rw [← shifted, ← shifted, first]
    rw [Nat.mod_pow_succ, Nat.mod_pow_succ, ih rest, digit]

theorem bigEndian_inj {count m n : Nat} (hm : m < 256 ^ count) (hn : n < 256 ^ count)
    (h : bigEndian count m = bigEndian count n) : m = n := by
  have same := mod_eq_of_bigEndian h
  rwa [Nat.mod_eq_of_lt hm, Nat.mod_eq_of_lt hn] at same

theorem Text.toBytes_inj {s t : String} (h : Text.toBytes s = Text.toBytes t) : s = t :=
  String.toByteArray_inj.mp (ByteArray.ext (Array.toList_inj.mp h))

namespace SignedAssertion

/-! ## Parts behind their lengths -/

def IsShort (part : Bytes) : Prop :=
  part.length < 2 ^ 32

instance (part : Bytes) : Decidable (IsShort part) :=
  inferInstanceAs (Decidable (_ < _))

theorem lengthPrefixed_inj {p q rest rest' : Bytes} (hp : IsShort p) (hq : IsShort q)
    (h : lengthPrefixed p ++ rest = lengthPrefixed q ++ rest') : p = q ∧ rest = rest' := by
  simp only [lengthPrefixed, List.append_assoc] at h
  obtain ⟨lengths, behind⟩ := List.append_inj h (by rw [length_bigEndian, length_bigEndian])
  exact List.append_inj behind (bigEndian_inj hp hq lengths)

theorem parts_inj {ps qs : List Bytes} {rest rest' : Bytes} (count : ps.length = qs.length)
    (hp : ∀ p ∈ ps, IsShort p) (hq : ∀ q ∈ qs, IsShort q)
    (h : ps.flatMap lengthPrefixed ++ rest = qs.flatMap lengthPrefixed ++ rest') :
    ps = qs ∧ rest = rest' := by
  induction ps generalizing qs with
  | nil =>
    obtain rfl := List.length_eq_zero_iff.mp count.symm
    exact ⟨rfl, h⟩
  | cons p ps ih =>
    obtain ⟨q, qs, rfl⟩ := List.exists_cons_of_length_eq_add_one count.symm
    obtain ⟨shortP, shortPs⟩ := List.forall_mem_cons.mp hp
    obtain ⟨shortQ, shortQs⟩ := List.forall_mem_cons.mp hq
    rw [List.flatMap_cons, List.flatMap_cons, List.append_assoc, List.append_assoc] at h
    obtain ⟨rfl, behind⟩ := lengthPrefixed_inj shortP shortQ h
    obtain ⟨rfl, rfl⟩ := ih (Nat.succ.inj count) shortPs shortQs behind
    exact ⟨rfl, rfl⟩

/-! ## The time -/

def timeBytes (t : Time.Instant) : Bytes :=
  signedBytes t.seconds ++ bigEndian 4 t.nanos

theorem time_fits (t : Time.Instant) : -2 ^ 63 ≤ t.seconds ∧ t.seconds < 2 ^ 63 ∧ t.nanos < 2 ^ 32 := by
  obtain ⟨earliest, latest, nanos, -⟩ := t.isInstant
  have first : Time.earliestSecond = -8334601228800 := rfl
  have last : Time.latestSecond = 8210266876799 := rfl
  have second : Time.nanosPerSecond = 1000000000 := rfl
  omega

theorem signedBytes_inj {m n : Int} (hm : -2 ^ 63 ≤ m ∧ m < 2 ^ 63) (hn : -2 ^ 63 ≤ n ∧ n < 2 ^ 63)
    (h : signedBytes m = signedBytes n) : m = n := by
  have size : (UInt64.size : Int) = 18446744073709551616 := rfl
  rw [signedBytes, signedBytes, size] at h
  have wrapped := bigEndian_inj (by omega) (by omega) h
  omega

theorem timeBytes_inj {s t : Time.Instant} (h : timeBytes s = timeBytes t) : s = t := by
  obtain ⟨seconds, nanos⟩ := List.append_inj h (by simp only [signedBytes, length_bigEndian])
  obtain ⟨earliestS, latestS, smallS⟩ := time_fits s
  obtain ⟨earliestT, latestT, smallT⟩ := time_fits t
  have sameSeconds := signedBytes_inj ⟨earliestS, latestS⟩ ⟨earliestT, latestT⟩ seconds
  have sameNanos := bigEndian_inj smallS smallT nanos
  cases s
  cases t
  congr

/-! ## Payloads -/

def parts (a : SignedAssertion) : List Bytes :=
  [Text.toBytes a.principal, Text.toBytes a.userId, Text.toBytes a.audience, a.nonce]

theorem payload_eq (a : SignedAssertion) : a.payload =
    (Text.toBytes domainTag :: a.parts).flatMap lengthPrefixed ++ timeBytes a.signedAt := by
  simp [payload, parts, timeBytes]

theorem isShort_domainTag : IsShort (Text.toBytes domainTag) := by
  decide

/-- A payload says nothing about the signature, and where no part is too long it tells all else. -/
theorem payload_unambiguous (a : SignedAssertion) :
    (∀ signature, { a with signature }.payload = a.payload) ∧
      ∀ b : SignedAssertion, (∀ part ∈ a.parts, IsShort part) → (∀ part ∈ b.parts, IsShort part) →
        a.payload = b.payload → a.principal = b.principal ∧ a.userId = b.userId ∧
          a.audience = b.audience ∧ a.nonce = b.nonce ∧ a.signedAt = b.signedAt := by
  refine ⟨fun signature => rfl, fun b shortA shortB same => ?_⟩
  rw [payload_eq, payload_eq] at same
  have withTag {c : SignedAssertion} (short : ∀ part ∈ c.parts, IsShort part) :
      ∀ part ∈ Text.toBytes domainTag :: c.parts, IsShort part :=
    List.forall_mem_cons.mpr ⟨isShort_domainTag, short⟩
  have count : (Text.toBytes domainTag :: a.parts).length = (Text.toBytes domainTag :: b.parts).length := rfl
  obtain ⟨sameParts, time⟩ := parts_inj count (withTag shortA) (withTag shortB) same
  simp only [parts, List.cons.injEq, true_and, and_true] at sameParts
  obtain ⟨principal, userId, audience, nonce⟩ := sameParts
  exact ⟨Text.toBytes_inj principal, Text.toBytes_inj userId, Text.toBytes_inj audience, nonce,
    timeBytes_inj time⟩

theorem payload_unambiguous_moved :
    let a : SignedAssertion := ⟨"ab", "c", "é", [1, 2], ⟨-1, 1999999999, by decide⟩, [9]⟩
    let b : SignedAssertion := { a with signature := [] }
    let c : SignedAssertion := { a with principal := "a", userId := "bc" }
    (∀ d ∈ [a, b, c], ∀ part ∈ d.parts, IsShort part) ∧ a.payload = b.payload ∧ a.signedAt = b.signedAt ∧
      a.payload ≠ c.payload := by
  intro a b c
  have short : ∀ d ∈ [a, b, c], ∀ part ∈ d.parts, IsShort part := by decide
  have shortA := short a (by decide)
  have resigned : a.payload = b.payload := ((payload_unambiguous a).1 []).symm
  obtain ⟨-, -, -, -, time⟩ := (payload_unambiguous a).2 b shortA (short b (by decide)) resigned
  refine ⟨short, resigned, time, fun same => ?_⟩
  obtain ⟨principal, -⟩ := (payload_unambiguous a).2 c shortA (short c (by decide)) same
  exact absurd principal (by decide)

end SignedAssertion
end PolicyGate
