import Mathlib.Order.Defs.LinearOrder
import PolicyGate.Time.Instant

/-!
# Instants are linearly ordered
-/

namespace PolicyGate.Time.Instant

theorem le_iff {a b : Instant} :
    a ≤ b ↔ a.seconds < b.seconds ∨ (a.seconds = b.seconds ∧ a.nanos ≤ b.nanos) :=
  Iff.rfl

theorem lt_iff {a b : Instant} :
    a < b ↔ a.seconds < b.seconds ∨ (a.seconds = b.seconds ∧ a.nanos < b.nanos) :=
  Iff.rfl

theorem eq_of_parts {a b : Instant} (hs : a.seconds = b.seconds) (hn : a.nanos = b.nanos) : a = b := by
  cases a; cases b; cases hs; cases hn; rfl

instance : LinearOrder Instant where
  le_refl a := .inr ⟨rfl, Nat.le_refl _⟩
  le_trans a b c hab hbc := by
    rw [le_iff] at *
    omega
  lt_iff_le_not_ge a b := by
    rw [lt_iff, le_iff, le_iff]
    omega
  le_antisymm a b hab hba := by
    rw [le_iff] at hab hba
    exact eq_of_parts (by omega) (by omega)
  le_total a b := by
    rw [le_iff, le_iff]
    omega
  toDecidableLE := instDecidableLe
  toDecidableLT := instDecidableLt

end PolicyGate.Time.Instant
