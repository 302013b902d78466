import Mathlib.Data.Nat.Dist
import Mathlib.Data.Nat.Log
import Mathlib.Tactic.Positivity
import Mathlib.Tactic.WLOG
import GlslCompiler.Number.Double

/-!
# Integers without a double

An integer has a double unless it rounds to a magnitude of `2 ^ 1024` or more. Rounding is to 53 binary digits, with no
bound on the exponent: `RoundsTo` says it of two numbers, without the way in which a double is found.
-/

namespace GlslCompiler

/-- The number `m` rounds to `r`: with the last place that 53 binary digits leave to a number of its size, `r` is a
multiple of the last place, no farther from `m` than half of it and, where it is just half, an even multiple. -/
def RoundsTo (m r : Nat) : Prop :=
  ∃ s, r = s * 2 ^ (m.log2 - 52) ∧ 2 * Nat.dist m r ≤ 2 ^ (m.log2 - 52) ∧
    (2 * Nat.dist m r = 2 ^ (m.log2 - 52) → Even s)

/-! ### Rounded quotients -/

theorem dist_roundQuotient {den : Nat} (num : Nat) (hden : 0 < den) :
    2 * Nat.dist num (roundQuotient num den * den) ≤ den ∧
      (2 * Nat.dist num (roundQuotient num den * den) = den → Even (roundQuotient num den)) := by
  have hdivision : den * (num / den) + num % den = num := Nat.div_add_mod num den
  have hrest : num % den < den := Nat.mod_lt num hden
  unfold roundQuotient
  dsimp only
  generalize num / den = below at *
  generalize num % den = rest at *
  have hbelow : Nat.dist num (below * den) = rest := by
    rw [Nat.mul_comm, ← hdivision, Nat.dist_comm, Nat.dist_eq_sub_of_le (Nat.le_add_right _ _), Nat.add_sub_cancel_left]
  have habove : Nat.dist num ((below + 1) * den) = den - rest := by
    rw [Nat.add_mul, Nat.mul_comm below, Nat.one_mul, ← hdivision,
      Nat.dist_eq_sub_of_le (Nat.add_le_add_left hrest.le _), Nat.add_sub_add_left]
  split
  · rw [hbelow]
    exact ⟨by omega, fun h => by omega⟩
  · split
    · rw [habove]
      exact ⟨by omega, fun h => by omega⟩
    · rcases Nat.mod_two_eq_zero_or_one below with heven | hodd
      · rw [heven, Nat.add_zero, hbelow]
        exact ⟨by omega, fun _ => Nat.even_iff.2 heven⟩
      · rw [hodd, habove]
        exact ⟨by omega, fun _ => Nat.even_iff.2 (by omega)⟩

/-- No two multiples are both nearest, one of two equally near ones being odd. -/
theorem eq_of_dist {num den s t : Nat} (hden : 0 < den) (hs : 2 * Nat.dist num (s * den) ≤ den)
    (ht : 2 * Nat.dist num (t * den) ≤ den) (hsEven : 2 * Nat.dist num (s * den) = den → Even s)
    (htEven : 2 * Nat.dist num (t * den) = den → Even t) : s = t := by
  wlog hle : s ≤ t with hswap
  · exact (hswap hden ht hs htEven hsEven (by omega)).symm
  by_contra hne
  have htriangle : Nat.dist (s * den) (t * den) ≤ Nat.dist num (s * den) + Nat.dist num (t * den) := by
    rw [Nat.dist_comm num (s * den)]
    exact Nat.dist.triangle_inequality _ _ _
  have hapart : Nat.dist (s * den) (t * den) = (t - s) * den := by
    rw [Nat.dist_eq_sub_of_le (Nat.mul_le_mul_right den hle), Nat.sub_mul]
  rw [hapart] at htriangle
  -- Two multiples within half a step of one number are neighbours, and then both are just half a step away.
  have hnext : t - s = 1 := by
    by_contra hfar
    have htwo : 2 * den ≤ (t - s) * den := Nat.mul_le_mul_right den (by omega)
    omega
  rw [hnext, Nat.one_mul] at htriangle
  obtain ⟨a, ha⟩ := hsEven (by omega)
  obtain ⟨b, hb⟩ := htEven (by omega)
  omega

theorem roundsTo_iff (m r : Nat) :
    RoundsTo m r ↔ r = roundQuotient m (2 ^ (m.log2 - 52)) * 2 ^ (m.log2 - 52) := by
  have hplace : 0 < 2 ^ (m.log2 - 52) := Nat.two_pow_pos _
  obtain ⟨hnear, heven⟩ := dist_roundQuotient m hplace
  constructor
  · rintro ⟨s, rfl, hs, hsEven⟩
    rw [eq_of_dist hplace hs hnear hsEven heven]
  · rintro rfl
    exact ⟨_, rfl, hnear, heven⟩

theorem roundQuotient_bounds {m : Nat} (hm : 52 ≤ m.log2) :
    2 ^ 52 ≤ roundQuotient m (2 ^ (m.log2 - 52)) ∧ roundQuotient m (2 ^ (m.log2 - 52)) ≤ 2 ^ 53 := by
  have hpos : m ≠ 0 := by
    rintro rfl
    simp at hm
  have hplace : 0 < 2 ^ (m.log2 - 52) := Nat.two_pow_pos _
  have hlow : 2 ^ 52 ≤ m / 2 ^ (m.log2 - 52) := by
    rw [Nat.le_div_iff_mul_le hplace, ← Nat.pow_add, Nat.add_sub_cancel' hm]
    exact Nat.log2_self_le hpos
  have hhigh : m / 2 ^ (m.log2 - 52) < 2 ^ 53 := by
    rw [Nat.div_lt_iff_lt_mul hplace, ← Nat.pow_add, show 53 + (m.log2 - 52) = m.log2 + 1 by omega]
    exact Nat.lt_log2_self
  unfold roundQuotient
  dsimp only
  split
  · omega
  · split <;> omega

/-- A rounded significand of 53 digits is past `2 ^ 1024` just where its last place is too high, the full one a place
earlier. -/
theorem le_roundQuotient_iff {place significand : Nat} (hlow : 2 ^ 52 ≤ significand) (hhigh : significand ≤ 2 ^ 53) :
    2 ^ 1024 ≤ significand * 2 ^ place ↔ 971 < place ∨ 971 ≤ place ∧ significand = 2 ^ 53 := by
  have hsplit : (2 : Nat) ^ 1024 = 2 ^ 53 * 2 ^ 971 := by rw [← Nat.pow_add]
  have hsplit' : (2 : Nat) ^ 1024 = 2 ^ 52 * 2 ^ 972 := by rw [← Nat.pow_add]
  constructor
  · intro h
    by_contra hnot
    rcases Nat.lt_or_ge place 971 with hplace | hplace
    · have hpower : 2 ^ place < 2 ^ 971 := pow_lt_pow_right₀ one_lt_two hplace
      have hless : significand * 2 ^ place < 2 ^ 53 * 2 ^ 971 :=
        Nat.mul_lt_mul_of_le_of_lt hhigh hpower (Nat.two_pow_pos 53)
      omega
    · obtain rfl : place = 971 := by omega
      have hfull : significand < 2 ^ 53 := by omega
      have hless : significand * 2 ^ 971 < 2 ^ 53 * 2 ^ 971 := Nat.mul_lt_mul_of_pos_right hfull (by positivity)
      omega
  · rintro (hplace | ⟨hplace, rfl⟩)
    · rw [hsplit']
      exact Nat.mul_le_mul hlow (pow_le_pow_right₀ one_le_two hplace)
    · rw [hsplit]
      exact Nat.mul_le_mul_left _ (pow_le_pow_right₀ one_le_two hplace)

/-! ### Doubles of integers -/

namespace Double

theorem binaryMagnitude_one {m : Nat} (hm : m ≠ 0) : binaryMagnitude m 1 = m.log2 := by
  have hpower : ¬ m < 2 ^ m.log2 := Nat.not_lt.2 (Nat.log2_self_le hm)
  have hone : Nat.log2 1 = 0 := by decide
  simp [binaryMagnitude, scaleQuotient, hone, hpower]

/-- A number of fewer than 53 binary digits is held exactly, with its significand shifted up. -/
theorem ofQuotient_small {m : Nat} (negative : Bool) (hsmall : m.log2 < 52) :
    ∃ significand exponent, ofQuotient negative m 1 = .finite negative significand exponent := by
  by_cases hm : m = 0
  · subst hm
    exact ⟨_, _, rfl⟩
  have hexponent : max ((m.log2 : Int) - 52) minExponent = m.log2 - 52 := by
    unfold minExponent
    omega
  unfold ofQuotient
  rw [if_neg (by simp [hm]), binaryMagnitude_one hm, hexponent]
  dsimp only
  split
  · exact ⟨_, _, if_neg (by unfold maxExponent; omega)⟩
  · exact ⟨_, _, if_neg (by unfold maxExponent; omega)⟩

theorem infinite_of_ite {p : Prop} [Decidable p] (negative : Bool) (significand : Nat) (exponent : Int) :
    (∃ sign, (if p then infinite negative else finite negative significand exponent) = .infinite sign) ↔ p := by
  split
  · rename_i hp
    exact iff_of_true ⟨negative, rfl⟩ hp
  · rename_i hp
    refine iff_of_false ?_ hp
    rintro ⟨sign, h⟩
    cases h

/-- A number of 53 binary digits or more is rounded; the digits may become one more by that. -/
theorem ofQuotient_large {m : Nat} (negative : Bool) (hlarge : 52 ≤ m.log2) :
    (∃ sign, ofQuotient negative m 1 = .infinite sign) ↔
      971 < m.log2 - 52 ∨ 971 ≤ m.log2 - 52 ∧ roundQuotient m (2 ^ (m.log2 - 52)) = 2 ^ 53 := by
  have hm : m ≠ 0 := by
    rintro rfl
    simp at hlarge
  have hexponent : max ((m.log2 : Int) - 52) minExponent = (m.log2 - 52 : Nat) := by
    unfold minExponent
    omega
  have hscale : scaleQuotient m 1 (m.log2 - 52 : Nat) = (m, 2 ^ (m.log2 - 52)) := by
    simp [scaleQuotient]
  unfold ofQuotient
  rw [if_neg (by simp [hm]), binaryMagnitude_one hm, hexponent]
  dsimp only
  rw [hscale]
  dsimp only
  generalize m.log2 - 52 = place
  generalize roundQuotient m (2 ^ place) = significand
  rw [infinite_of_ite]
  show (971 : Int) < (if significand = 2 ^ 53 then (2 ^ 52, (place : Int) + 1) else (significand, (place : Int))).2 ↔ _
  split
  · rename_i hfull
    simp only [hfull, and_true]
    omega
  · rename_i hfull
    simp only [hfull, and_false, or_false]
    omega

/-- An integer that rounds to `2 ^ 1024` or more has no double, and any other has one. -/
theorem ofInt_infinite_iff (n : Int) :
    (∃ sign, ofInt n = .infinite sign) ↔ ∃ r, RoundsTo n.natAbs r ∧ 2 ^ 1024 ≤ r := by
  simp only [roundsTo_iff, exists_eq_left, ofInt]
  generalize n.natAbs = m
  by_cases hlarge : 52 ≤ m.log2
  · obtain ⟨hlow, hhigh⟩ := roundQuotient_bounds hlarge
    rw [ofQuotient_large _ hlarge]
    exact (le_roundQuotient_iff hlow hhigh).symm
  · have hplace : m.log2 - 52 = 0 := by omega
    have hexact : roundQuotient m (2 ^ 0) * 2 ^ 0 = m := by simp [roundQuotient, Nat.mod_one]
    have hbound : m < 2 ^ 1024 := by
      calc m < 2 ^ (m.log2 + 1) := Nat.lt_log2_self
        _ ≤ 2 ^ 1024 := pow_le_pow_right₀ one_le_two (by omega)
    rw [hplace, hexact]
    refine iff_of_false ?_ (Nat.not_le.2 hbound)
    rintro ⟨sign, h⟩
    obtain ⟨significand, exponent, hfinite⟩ := ofQuotient_small (n < 0) (Nat.lt_of_not_le hlarge)
    rw [hfinite] at h
    cases h

end Double

end GlslCompiler
