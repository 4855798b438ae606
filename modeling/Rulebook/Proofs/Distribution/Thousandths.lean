import Rulebook.Distribution
import Rulebook.Proofs.Binary64.Rounding

/-!
# Thousandths of a probability

A probability is a binary64 number from zero to one. Its product with a thousand is rounded to
such a number again, and then to a whole one. Both roundings keep the order of probabilities,
so the thousandths only grow with the probability, from none to all.
-/

namespace Rulebook.Distribution

open Binary64 (Representable one)

/-- A whole number is the thousandths of a probability: a nearest binary64 number to a thousand
times the probability is rounded to it, a half going up. -/
def IsThousandths (probability : Binary64) (share : Nat) : Prop :=
  ∃ product, Representable product ∧
    (∀ other, Representable other →
      Nat.dist product (1000 * probability.units) ≤ Nat.dist other (1000 * probability.units)) ∧
    2 * (share * one) ≤ 2 * product + one ∧ 2 * product + one < 2 * ((share + 1) * one)

variable {p q : Binary64}

theorem units_mul_thousand (p : Binary64) :
    (p.mul (.ofNat false 1000)).units = Binary64.round (p.units * (1000 * one)) one := by
  have hthousand := Binary64.units_ofNat (show 1000 < 2 ^ 53 by omega) false
  rw [Binary64.mul, hthousand]

/-- The computed thousandths are those of the probability. -/
theorem isThousandths (p : Binary64) : IsThousandths p (thousandths p) := by
  refine ⟨(p.mul (.ofNat false 1000)).units, ?_, fun other hother => ?_,
    Binary64.roundHalfUp_spec (p.mul (.ofNat false 1000))⟩
  · exact Binary64.representable_round _ _
  · have hpos : 0 < one := Binary64.twoPower_pos 1074
    have hnearest := Binary64.round_nearest (p.units * (1000 * one)) hpos hother
    have hscale : p.units * (1000 * one) = 1000 * p.units * one := by
      rw [Nat.mul_left_comm, Nat.mul_assoc]
    rw [← units_mul_thousand, hscale, Nat.dist_mul_right, Nat.dist_mul_right] at hnearest
    exact Nat.le_of_mul_le_mul_right hnearest hpos

theorem units_mul_thousand_le {units : Nat} (h : p.units ≤ units) :
    (p.mul (.ofNat false 1000)).units ≤ Binary64.round (units * (1000 * one)) one := by
  rw [units_mul_thousand]
  exact Binary64.round_mono (Binary64.twoPower_pos 1074) (Nat.mul_le_mul_right _ h)

theorem thousandths_mono (h : p.units ≤ q.units) : thousandths p ≤ thousandths q := by
  refine Binary64.roundHalfUp_mono ?_
  rw [units_mul_thousand q]
  exact units_mul_thousand_le h

/-- The least probability has no thousandths. -/
theorem thousandths_of_zero (h : p.units = 0) : thousandths p = 0 := by
  have hround := Binary64.round_of_representable (Binary64.twoPower_pos 1074)
    (Binary64.representable_mul_one (show 0 < 2 ^ 53 by omega))
  rw [Nat.zero_mul, Nat.zero_mul] at hround
  have hproduct : (p.mul (.ofNat false 1000)).units = 0 := by
    rw [units_mul_thousand, h, Nat.zero_mul]
    exact hround
  refine Nat.le_zero.mp (Binary64.roundHalfUp_le ?_)
  rw [hproduct]
  exact Nat.zero_le _

theorem round_thousand : Binary64.round (one * (1000 * one)) one = 1000 * one := by
  rw [Nat.mul_comm one]
  exact Binary64.round_of_representable (Binary64.twoPower_pos 1074)
    (Binary64.representable_mul_one (by omega))

theorem thousandths_le (h : p.units ≤ one) : thousandths p ≤ 1000 := by
  have hproduct := units_mul_thousand_le h
  rw [round_thousand] at hproduct
  exact Binary64.roundHalfUp_le hproduct

theorem thousandths_of_one (h : p.units = one) : thousandths p = 1000 := by
  refine Nat.le_antisymm (thousandths_le h.le) (Binary64.le_roundHalfUp ?_)
  rw [units_mul_thousand, h, round_thousand]

/-- An accepted probability is not negative, though its sign may be that of minus zero, and is
at most one. -/
theorem units_of_probability? {written : Json} (h : probability? written = some p) :
    (p.units : Int) = p.signedUnits ∧ p.units ≤ one := by
  unfold probability? at h
  split at h
  · next n =>
    dsimp only at h
    split_ifs at h with hrange
    cases h
    obtain ⟨hlower, hupper⟩ := hrange
    unfold Binary64.signedUnits at hlower hupper ⊢
    split_ifs at hlower hupper ⊢ <;> omega
  · cases h

end Rulebook.Distribution
