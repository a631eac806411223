import CrossingReality.Jdk
import Mathlib.Tactic.Linarith
import Mathlib.Tactic.FieldSimp
import Mathlib.Tactic.Ring
import Mathlib.Algebra.Order.Field.Basic
import Mathlib.Algebra.Order.Field.Rat
import Mathlib.Data.Rat.Cast.Order

/-!
# Scaling a reading

What a calibrated reading should be sent as, and what the code computes instead: it divides the
reading itself, not its distance from the minimum, by a difference of two `int`s that can wrap
around.

**Theorem (`scaled_iff`).** The number sent and both log lines are right exactly where
`ScalesRight` holds.
-/

namespace CrossingReality

/-- Where `v` lies between `lo` and `hi`, from 0 to 1. -/
def position (lo hi v : ℤ) : ℚ := max 0 (min 1 ((v - lo) / (hi - lo)))

/-- What is sent for a quotient. -/
def clamp (x : ℚ) : ℚ := if 1 < x then 1 else if x < 0 then 0 else x

theorem clamp_of_one_lt {x : ℚ} (h : 1 < x) : clamp x = 1 := if_pos h

theorem clamp_of_neg {x : ℚ} (h : x < 0) : clamp x = 0 := by
  rw [clamp, if_neg (h.trans one_pos).not_gt, if_pos h]

/-- The code's divisor: `hi - lo` in 32 bits. -/
def wrap (n : ℤ) : ℤ := if n < 2 ^ 31 then n else n - 2 ^ 32

/-- What the code divides: the reading by its divisor. -/
def quotient (lo hi v : ℤ) : ℚ := v / wrap (hi - lo)

theorem toInt_sub_eq_wrap {lo hi : Int32} (h : lo < hi) :
    (hi - lo).toInt = wrap (hi.toInt - lo.toInt) := by
  have hlt := Int32.lt_iff_toInt_lt.mp h
  have := lo.le_toInt
  have := hi.toInt_lt
  rw [Int32.toInt_sub, Int.bmod_eq_emod, wrap]
  split <;> split <;> omega

theorem position_of_lt {lo hi v : ℤ} (h : lo < hi) (hv : v < lo) : position lo hi v = 0 := by
  have hd : (0 : ℚ) < hi - lo := by exact_mod_cast sub_pos.mpr h
  have hn : (v - lo : ℚ) < 0 := by exact_mod_cast sub_neg.mpr hv
  rw [position, max_eq_left ((min_le_right _ _).trans (div_neg_of_neg_of_pos hn hd).le)]

theorem position_of_gt {lo hi v : ℤ} (h : lo < hi) (hv : hi < v) : position lo hi v = 1 := by
  have hd : (0 : ℚ) < hi - lo := by exact_mod_cast sub_pos.mpr h
  have hn : (hi - lo : ℚ) ≤ v - lo := by exact_mod_cast sub_le_sub_right hv.le lo
  rw [position, min_eq_left ((one_le_div hd).mpr hn), max_eq_right zero_le_one]

theorem position_of_mem {lo hi v : ℤ} (h : lo < hi) (hl : lo ≤ v) (hh : v ≤ hi) :
    position lo hi v = (v - lo) / (hi - lo) := by
  have hd : (0 : ℚ) < hi - lo := by exact_mod_cast sub_pos.mpr h
  have hn : (0 : ℚ) ≤ v - lo := by exact_mod_cast sub_nonneg.mpr hl
  have hle : (v - lo : ℚ) ≤ hi - lo := by exact_mod_cast sub_le_sub_right hh lo
  rw [position, min_eq_right ((div_le_one hd).mpr hle), max_eq_right (div_nonneg hn hd.le)]

/-- What is sent is the position, and the lines about the bounds are logged when they should. -/
def Scaled (lo hi v : ℤ) (x : ℚ) (above below : Prop) : Prop :=
  x = position lo hi v ∧ (above ↔ hi < v) ∧ (below ↔ v < lo)

/-- Where dividing `v` by `hi - lo` does not go wrong. Without wrap-around: when the minimum is 0,
or the reading is out of range on the side where the quotient is, too. With wrap-around: at the
one reading, if any, where the two quotients meet. -/
def ScalesRight (lo hi v : ℤ) : Prop :=
  if hi - lo < 2 ^ 31 then lo = 0 ∨ hi < v ∧ hi - lo < v ∨ v < lo ∧ v < 0
  else 2 ^ 32 * v = (2 ^ 32 - (hi - lo)) * lo

instance (lo hi v : ℤ) : Decidable (ScalesRight lo hi v) := by
  unfold ScalesRight
  infer_instance

/-- Within range, the quotient is the position exactly when the cross products agree. -/
theorem clamp_div_eq_position_iff {lo hi v d : ℤ} (h : lo < hi) (hd : d ≠ 0) (hl : lo ≤ v)
    (hh : v ≤ hi) (h₁ : ¬ 1 < (v / d : ℚ)) (h₀ : ¬ (v / d : ℚ) < 0) :
    clamp (v / d) = position lo hi v ↔ v * (hi - lo) = (v - lo) * d := by
  have hd' : (d : ℚ) ≠ 0 := by exact_mod_cast hd
  have hD : (hi - lo : ℚ) ≠ 0 := by exact_mod_cast (sub_pos.mpr h).ne'
  rw [position_of_mem h hl hh, clamp, if_neg h₁, if_neg h₀, div_eq_div_iff hd' hD]
  exact_mod_cast Iff.rfl

theorem scaled_of_no_wrap {lo hi v : ℤ} (h : lo < hi) (hD : hi - lo < 2 ^ 31) :
    Scaled lo hi v (clamp (v / (hi - lo : ℤ))) (1 < (v / (hi - lo : ℤ) : ℚ))
      ((v / (hi - lo : ℤ) : ℚ) < 0) ↔ ScalesRight lo hi v := by
  have hpos : 0 < hi - lo := sub_pos.mpr h
  have hposQ : (0 : ℚ) < (hi - lo : ℤ) := by exact_mod_cast hpos
  have h₁ : 1 < (v / (hi - lo : ℤ) : ℚ) ↔ hi - lo < v := by
    rw [one_lt_div hposQ]
    exact_mod_cast Iff.rfl
  have h₀ : (v / (hi - lo : ℤ) : ℚ) < 0 ↔ v < 0 := by
    rw [div_neg_iff]
    simp only [hposQ, hposQ.not_gt, and_false, and_true, false_or]
    exact_mod_cast Iff.rfl
  rw [ScalesRight, if_pos hD, Scaled, h₁, h₀]
  rcases lt_or_ge hi v with hv | hv
  · -- Above: both are 1, if the quotient is above 1 as well.
    rw [position_of_gt h hv]
    constructor
    · rintro ⟨-, habove, -⟩
      exact .inr (.inl ⟨hv, habove.mpr hv⟩)
    · intro hcond
      have habove : hi - lo < v := by omega
      exact ⟨clamp_of_one_lt (h₁.mpr habove), by simp [hv, habove], by omega⟩
  rcases lt_or_ge v lo with hv' | hv'
  · -- Below: both are 0, if the quotient is negative as well.
    rw [position_of_lt h hv']
    constructor
    · rintro ⟨-, -, hbelow⟩
      exact .inr (.inr ⟨hv', hbelow.mpr hv'⟩)
    · intro hcond
      have hbelow : v < 0 := by omega
      exact ⟨clamp_of_neg (h₀.mpr hbelow), by omega, by simp [hv', hbelow]⟩
  · -- In range: the two quotients have one denominator, so the numerators have to be equal.
    constructor
    · rintro ⟨hx, habove, hbelow⟩
      have hn₁ : ¬ hi - lo < v := fun h' => absurd (habove.mp h') hv.not_gt
      have hn₀ : ¬ v < 0 := fun h' => absurd (hbelow.mp h') hv'.not_gt
      have hcross := (clamp_div_eq_position_iff h hpos.ne' hv' hv (h₁.not.mpr hn₁)
        (h₀.not.mpr hn₀)).mp hx
      have : v = v - lo := mul_right_cancel₀ hpos.ne' hcross
      exact .inl (by omega)
    · intro hcond
      have hlo : lo = 0 := by omega
      have hn₁ : ¬ hi - lo < v := by omega
      have hn₀ : ¬ v < 0 := by omega
      refine ⟨?_, by omega, by omega⟩
      rw [clamp_div_eq_position_iff h hpos.ne' hv' hv (h₁.not.mpr hn₁) (h₀.not.mpr hn₀), hlo]
      simp

theorem scaled_of_wrap {lo hi v : ℤ} (hlo : -2 ^ 31 ≤ lo) (hhi : hi < 2 ^ 31)
    (hD : 2 ^ 31 ≤ hi - lo) :
    Scaled lo hi v (clamp (v / (hi - lo - 2 ^ 32 : ℤ))) (1 < (v / (hi - lo - 2 ^ 32 : ℤ) : ℚ))
      ((v / (hi - lo - 2 ^ 32 : ℤ) : ℚ) < 0) ↔ ScalesRight lo hi v := by
  have h : lo < hi := by omega
  have hneg : hi - lo - 2 ^ 32 < 0 := by omega
  have hnegQ : ((hi - lo - 2 ^ 32 : ℤ) : ℚ) < 0 := by exact_mod_cast hneg
  have h₁ : 1 < (v / (hi - lo - 2 ^ 32 : ℤ) : ℚ) ↔ v < hi - lo - 2 ^ 32 := by
    rw [one_lt_div_of_neg hnegQ]
    exact_mod_cast Iff.rfl
  have h₀ : (v / (hi - lo - 2 ^ 32 : ℤ) : ℚ) < 0 ↔ 0 < v := by
    rw [div_neg_iff]
    simp only [hnegQ, hnegQ.not_gt, and_false, and_true, or_false]
    exact_mod_cast Iff.rfl
  have hcross : v * (hi - lo) = (v - lo) * (hi - lo - 2 ^ 32) ↔
      2 ^ 32 * v = (2 ^ 32 - (hi - lo)) * lo := by
    constructor <;> intro h' <;> linarith
  rw [ScalesRight, if_neg (by omega), Scaled, h₁, h₀, ← hcross]
  -- The divisor is negative, so the lines can only be right where neither is due.
  constructor
  · rintro ⟨hx, habove, hbelow⟩
    have hl : lo ≤ v := by omega
    have hh : v ≤ hi := by omega
    exact (clamp_div_eq_position_iff h hneg.ne hl hh (h₁.not.mpr (by omega))
      (h₀.not.mpr (by omega))).mp hx
  · intro hx
    have hv := hcross.mp hx
    have hl : lo ≤ v := by nlinarith
    have hnp : ¬ 0 < v := by nlinarith
    have hnd : ¬ v < hi - lo - 2 ^ 32 := by nlinarith
    refine ⟨?_, by omega, by omega⟩
    exact (clamp_div_eq_position_iff h hneg.ne hl (by omega) (h₁.not.mpr hnd)
      (h₀.not.mpr hnp)).mpr hx

/-- **Scaling.** For bounds and readings of 32 bits, what the code sends and logs is right exactly
where `ScalesRight` holds. -/
theorem scaled_iff {lo hi v : ℤ} (hlo : -2 ^ 31 ≤ lo) (hhi : hi < 2 ^ 31) (h : lo < hi) :
    Scaled lo hi v (clamp (quotient lo hi v)) (1 < quotient lo hi v) (quotient lo hi v < 0) ↔
      ScalesRight lo hi v := by
  rcases lt_or_ge (hi - lo) (2 ^ 31) with hD | hD
  · rw [quotient, wrap, if_pos hD]
    exact scaled_of_no_wrap h hD
  · rw [quotient, wrap, if_neg hD.not_gt]
    exact scaled_of_wrap hlo hhi hD

end CrossingReality
