import Mathlib.Data.Nat.Dist
import Rulebook.Binary64

/-!
# Rounding to binary64

A magnitude is one of a binary64 number if 53 significant bits write it, in units of
`2 ^ -1074`. Rounding gives such a magnitude, and none of them is nearer to the quotient that
is rounded. What lies on such a magnitude is left alone, and the order of quotients is kept.
Magnitudes beyond the range are not told apart here from those within it.
-/

namespace Rulebook.Binary64

/-- A magnitude has at most 53 significant bits. -/
def Representable (units : Nat) : Prop :=
  ∃ significand exponent, significand < 2 ^ 53 ∧ units = significand * 2 ^ exponent

theorem twoPower_eq (exponent : Nat) : twoPower exponent = 2 ^ exponent := rfl

theorem twoPower_pos (exponent : Nat) : 0 < twoPower exponent := Nat.two_pow_pos exponent

/-- The quotient of a rounded division is the whole part or the number after it. -/
theorem divideEven_bounds (numerator denominator : Nat) :
    numerator / denominator ≤ divideEven numerator denominator ∧
      divideEven numerator denominator ≤ numerator / denominator + 1 := by
  unfold divideEven
  dsimp only
  split
  · omega
  · split <;> omega

/-- No multiple of the denominator is nearer to the numerator than the rounded one. -/
theorem divideEven_nearest (numerator : Nat) {denominator : Nat} (hpos : 0 < denominator)
    (multiple : Nat) :
    Nat.dist (divideEven numerator denominator * denominator) numerator ≤
      Nat.dist (multiple * denominator) numerator := by
  have hdivide := Nat.div_add_mod' numerator denominator
  have hrest := Nat.mod_lt numerator hpos
  -- A multiple is the one below the numerator or lies before it, or it lies behind.
  have hside : multiple * denominator ≤ numerator / denominator * denominator ∨
      numerator / denominator * denominator + denominator ≤ multiple * denominator := by
    rcases Nat.lt_or_ge (numerator / denominator) multiple with hlt | hge
    · right
      rw [← Nat.succ_mul]
      exact Nat.mul_le_mul_right denominator hlt
    · exact Or.inl (Nat.mul_le_mul_right denominator hge)
  have hround : divideEven numerator denominator * denominator =
        numerator / denominator * denominator ∧
          2 * (numerator % denominator) ≤ denominator ∨
      divideEven numerator denominator * denominator =
        numerator / denominator * denominator + denominator ∧
          denominator ≤ 2 * (numerator % denominator) := by
    unfold divideEven
    dsimp only
    split_ifs with hless heq
    · exact Or.inl ⟨rfl, by omega⟩
    · rcases Nat.mod_two_eq_zero_or_one (numerator / denominator) with heven | hodd
      · rw [heven]
        exact Or.inl ⟨rfl, by omega⟩
      · rw [hodd, Nat.succ_mul]
        exact Or.inr ⟨rfl, by omega⟩
    · rw [Nat.succ_mul]
      exact Or.inr ⟨rfl, by omega⟩
  unfold Nat.dist
  omega

/-- A whole number fits into 53 bits once its excess bits are cut off. -/
theorem div_excessBits_lt (magnitude : Nat) :
    magnitude / twoPower (excessBits magnitude) < 2 ^ 53 := by
  have hlog := Nat.lt_log2_self (n := magnitude)
  rw [Nat.div_lt_iff_lt_mul (twoPower_pos _), twoPower_eq, ← Nat.pow_add]
  refine Nat.lt_of_lt_of_le hlog (Nat.pow_le_pow_right Nat.two_pos ?_)
  unfold excessBits
  omega

/-- A whole number with excess bits has all 53 significant ones. -/
theorem le_of_excessBits_pos {magnitude : Nat} (h : 0 < excessBits magnitude) :
    2 ^ 52 * 2 ^ excessBits magnitude ≤ magnitude := by
  have hne : magnitude ≠ 0 := by
    rintro rfl
    simp [excessBits] at h
  have hlog : 52 + excessBits magnitude = magnitude.log2 := by
    unfold excessBits at h ⊢
    omega
  rw [← Nat.pow_add, hlog]
  exact Nat.log2_self_le hne

/-- The magnitude of a binary64 number is a multiple of the spacing of a larger number, or else
it lies below all numbers with that spacing. -/
theorem Representable.multiple_or_lt {units : Nat} (h : Representable units) (excess : Nat) :
    (∃ multiple, units = multiple * 2 ^ excess) ∨ 0 < excess ∧ units < 2 ^ 52 * 2 ^ excess := by
  obtain ⟨significand, exponent, hsignificand, rfl⟩ := h
  rcases Nat.lt_or_ge exponent excess with hlt | hge
  · right
    have hpower : 2 ^ 53 * 2 ^ exponent ≤ 2 ^ 52 * 2 ^ excess := by
      rw [← Nat.pow_add, ← Nat.pow_add]
      exact Nat.pow_le_pow_right Nat.two_pos (by omega)
    have hbelow := Nat.mul_lt_mul_of_pos_right hsignificand (Nat.two_pow_pos exponent)
    exact ⟨by omega, Nat.lt_of_lt_of_le hbelow hpower⟩
  · left
    refine ⟨significand * 2 ^ (exponent - excess), ?_⟩
    rw [Nat.mul_assoc, ← Nat.pow_add, Nat.sub_add_cancel hge]

/-- A rounded quotient is the magnitude of a binary64 number. -/
theorem representable_round (numerator denominator : Nat) :
    Representable (round numerator denominator) := by
  have hfits := div_excessBits_lt (numerator / denominator)
  rw [Nat.div_div_eq_div_mul] at hfits
  have hbound := (divideEven_bounds numerator
    (denominator * twoPower (excessBits (numerator / denominator)))).2
  unfold round
  dsimp only
  generalize divideEven numerator
    (denominator * twoPower (excessBits (numerator / denominator))) = quotient at hbound
  rcases Nat.lt_or_ge quotient (2 ^ 53) with hlt | hge
  · exact ⟨quotient, _, hlt, rfl⟩
  · -- Rounding up to one bit more gives a power of two.
    have hquotient : quotient = 2 ^ 52 * 2 := by omega
    refine ⟨2 ^ 52, excessBits (numerator / denominator) + 1, by omega, ?_⟩
    rw [hquotient, twoPower_eq, Nat.mul_assoc, ← Nat.pow_succ']

/-- No magnitude of a binary64 number is nearer to a quotient than the rounded one. -/
theorem round_nearest (numerator : Nat) {denominator : Nat} (hpos : 0 < denominator)
    {units : Nat} (hunits : Representable units) :
    Nat.dist (round numerator denominator * denominator) numerator ≤
      Nat.dist (units * denominator) numerator := by
  have hround : round numerator denominator * denominator =
      divideEven numerator (denominator * twoPower (excessBits (numerator / denominator))) *
        (denominator * twoPower (excessBits (numerator / denominator))) := by
    rw [round, Nat.mul_assoc, Nat.mul_comm (twoPower _) denominator]
  have hnearest := divideEven_nearest numerator
    (Nat.mul_pos hpos (twoPower_pos (excessBits (numerator / denominator))))
  rw [hround]
  rcases hunits.multiple_or_lt (excessBits (numerator / denominator)) with
    ⟨multiple, rfl⟩ | ⟨hexcess, hlt⟩
  · have hmultiple : multiple * 2 ^ excessBits (numerator / denominator) * denominator =
        multiple * (denominator * twoPower (excessBits (numerator / denominator))) := by
      rw [Nat.mul_assoc, Nat.mul_comm denominator, twoPower_eq]
    rw [hmultiple]
    exact hnearest multiple
  · -- The least number with the spacing lies between the magnitude and the quotient.
    have hleast : 2 ^ 52 * (denominator * twoPower (excessBits (numerator / denominator))) =
        2 ^ 52 * 2 ^ excessBits (numerator / denominator) * denominator := by
      rw [Nat.mul_assoc, Nat.mul_comm denominator, twoPower_eq]
    have hle := Nat.mul_le_mul_right denominator (le_of_excessBits_pos hexcess)
    have hquotient := Nat.div_mul_le_self numerator denominator
    have hbelow := Nat.mul_lt_mul_of_pos_right hlt hpos
    have hbest := hnearest (2 ^ 52)
    rw [hleast] at hbest
    refine hbest.trans ?_
    unfold Nat.dist
    omega

/-- A larger quotient is not rounded to a smaller magnitude. -/
theorem round_mono {denominator lower upper : Nat} (hpos : 0 < denominator)
    (h : lower ≤ upper) : round lower denominator ≤ round upper denominator := by
  rcases Nat.eq_or_lt_of_le h with rfl | hlt
  · exact Nat.le_refl _
  · by_contra hnot
    -- Either quotient is at least as near to its own magnitude as to that of the other one.
    have hlower := round_nearest lower hpos (representable_round upper denominator)
    have hupper := round_nearest upper hpos (representable_round lower denominator)
    have hreversed := Nat.mul_lt_mul_of_pos_right (Nat.lt_of_not_le hnot) hpos
    unfold Nat.dist at hlower hupper
    omega

/-- A quotient that is the magnitude of a binary64 number is rounded to itself. -/
theorem round_of_representable {units denominator : Nat} (hpos : 0 < denominator)
    (h : Representable units) : round (units * denominator) denominator = units := by
  have hnearest := round_nearest (units * denominator) hpos h
  rw [Nat.dist_self] at hnearest
  exact Nat.eq_of_mul_eq_mul_right hpos (Nat.eq_of_dist_eq_zero (Nat.le_zero.mp hnearest))

/-- Whole numbers below `2 ^ 53` are binary64 numbers. -/
theorem representable_mul_one {n : Nat} (h : n < 2 ^ 53) : Representable (n * one) :=
  ⟨n, 1074, h, by rw [one, twoPower_eq]⟩

/-- A whole number below `2 ^ 53` is left alone. -/
theorem units_ofNat {n : Nat} (h : n < 2 ^ 53) (negative : Bool) :
    (ofNat negative n).units = n * one := by
  have hround := round_of_representable Nat.one_pos (representable_mul_one h)
  rw [Nat.mul_one] at hround
  exact hround

theorem roundHalfUp_mono {x y : Binary64} (h : x.units ≤ y.units) :
    x.roundHalfUp ≤ y.roundHalfUp := by
  unfold roundHalfUp
  exact Nat.div_le_div_right (by omega)

/-- A number is rounded to a whole one from which it is not more than a half away, and less than
a half if it is above it. -/
theorem roundHalfUp_spec (x : Binary64) :
    2 * (x.roundHalfUp * one) ≤ 2 * x.units + one ∧
      2 * x.units + one < 2 * ((x.roundHalfUp + 1) * one) := by
  have hpos : 0 < 2 * one := Nat.mul_pos Nat.two_pos (twoPower_pos 1074)
  have hle := Nat.div_mul_le_self (2 * x.units + one) (2 * one)
  have hlt := Nat.lt_div_mul_add hpos (a := 2 * x.units + one)
  have hdouble : ∀ n : Nat, n * (2 * one) = 2 * (n * one) := fun n => Nat.mul_left_comm n 2 one
  rw [hdouble] at hle hlt
  have hnext : (x.roundHalfUp + 1) * one = x.roundHalfUp * one + one := Nat.succ_mul _ _
  rw [hnext, Nat.mul_add]
  exact ⟨hle, hlt⟩

/-- A number up to a whole one is not rounded above it. -/
theorem roundHalfUp_le {x : Binary64} {n : Nat} (h : x.units ≤ n * one) : x.roundHalfUp ≤ n := by
  have hpos : 0 < one := twoPower_pos 1074
  obtain ⟨hle, -⟩ := roundHalfUp_spec x
  have hbelow : x.roundHalfUp * one < (n + 1) * one := by
    rw [Nat.succ_mul]
    omega
  exact Nat.le_of_lt_succ (Nat.lt_of_mul_lt_mul_right hbelow)

/-- A number from a whole one on is not rounded below it. -/
theorem le_roundHalfUp {x : Binary64} {n : Nat} (h : n * one ≤ x.units) : n ≤ x.roundHalfUp := by
  have hpos : 0 < one := twoPower_pos 1074
  obtain ⟨-, hlt⟩ := roundHalfUp_spec x
  have habove : n * one < (x.roundHalfUp + 1) * one := by omega
  exact Nat.le_of_lt_succ (Nat.lt_of_mul_lt_mul_right habove)

end Rulebook.Binary64
