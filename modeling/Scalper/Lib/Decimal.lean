import Mathlib.Algebra.Order.Archimedean.Basic
import Mathlib.Data.Rat.Floor
import Mathlib.Tactic.Linarith
import Mathlib.Tactic.Ring
import Mathlib.Tactic.FieldSimp
import Mathlib.Tactic.Positivity

/-!
# Rounding to a number of decimals

Money is computed in decimals and kept in columns of a fixed scale.  Two rounding rules
meet there: the decimal library rounds half to even when it quantizes, the database
rounds half away from zero when it stores.  Both are a rounding to the nearest integer
after scaling, and everything below is proved from that alone: a rounded value is within
half a unit of the original (`abs_toScale_sub_le`), lies on the grid of the scale
(`onGrid_toScale`), and values already on the grid are kept (`toScale_of_onGrid`).
-/

set_option autoImplicit false

namespace Scalper.Lib

/-! ## Rounding to the nearest integer -/

/-- The nearest integer, ties to the even neighbour. -/
def roundHalfEven (x : ℚ) : ℤ :=
  if x - ⌊x⌋ < 1 / 2 then ⌊x⌋
  else if 1 / 2 < x - ⌊x⌋ then ⌊x⌋ + 1
  else if ⌊x⌋ % 2 = 0 then ⌊x⌋ else ⌊x⌋ + 1

/-- The nearest integer, ties away from zero. -/
def roundHalfAway (x : ℚ) : ℤ :=
  if 0 ≤ x then ⌊x + 1 / 2⌋ else -⌊-x + 1 / 2⌋

/-- What the two rules share: the result is a nearest integer, and integers are kept. -/
structure Nearest (round : ℚ → ℤ) : Prop where
  close : ∀ x, |(round x : ℚ) - x| ≤ 1 / 2
  keeps : ∀ n : ℤ, round n = n

theorem roundHalfEven_nearest : Nearest roundHalfEven where
  close := by
    intro x
    have below := Int.floor_le x
    have above := Int.lt_floor_add_one x
    rw [abs_le]
    unfold roundHalfEven
    split_ifs with small large even
    · constructor <;> linarith
    · push_cast
      constructor <;> linarith
    · constructor <;> linarith
    · push_cast
      constructor <;> linarith
  keeps := by
    intro n
    simp [roundHalfEven]

theorem roundHalfAway_nearest : Nearest roundHalfAway where
  close := by
    intro x
    rw [abs_le]
    unfold roundHalfAway
    split_ifs with nonneg
    · have below := Int.floor_le (x + 1 / 2)
      have above := Int.lt_floor_add_one (x + 1 / 2)
      constructor <;> linarith
    · have below := Int.floor_le (-x + 1 / 2)
      have above := Int.lt_floor_add_one (-x + 1 / 2)
      push_cast
      constructor <;> linarith
  keeps := by
    have half : ∀ m : ℤ, ⌊(m : ℚ) + 1 / 2⌋ = m := by
      intro m
      rw [Int.floor_eq_iff]
      constructor <;> linarith
    intro n
    unfold roundHalfAway
    split_ifs with nonneg
    · exact half n
    · have negated := half (-n)
      push_cast at negated
      rw [negated, neg_neg]

/-- Rounding to a nearest integer keeps the order. -/
theorem Nearest.mono {round : ℚ → ℤ} (nearest : Nearest round) {x y : ℚ} (le : x ≤ y) :
    round x ≤ round y := by
  by_contra above
  have apart : (round y : ℚ) + 1 ≤ round x := by exact_mod_cast Int.lt_of_not_ge above
  have closeX := (abs_le.mp (nearest.close x)).2
  have closeY := (abs_le.mp (nearest.close y)).1
  have same : x = y := by linarith
  exact above (same ▸ le_rfl)

/-! ## Scales -/

/-- Round at a scale: `scale` digits after the decimal point. -/
def toScale (round : ℚ → ℤ) (scale : ℕ) (x : ℚ) : ℚ :=
  round (x * 10 ^ scale) / 10 ^ scale

/-- `Decimal.quantize` under the default context: ties to even. -/
def quantize (scale : ℕ) (x : ℚ) : ℚ := toScale roundHalfEven scale x

/-- Storing into a `NUMERIC(p, scale)` column: ties away from zero. -/
def numeric (scale : ℕ) (x : ℚ) : ℚ := toScale roundHalfAway scale x

/-- The values a scale represents exactly. -/
def OnGrid (scale : ℕ) (x : ℚ) : Prop := ∃ n : ℤ, x = n / 10 ^ scale

theorem onGrid_iff_den {scale : ℕ} {x : ℚ} : OnGrid scale x ↔ (x * 10 ^ scale).den = 1 := by
  have power : (10 : ℚ) ^ scale ≠ 0 := by positivity
  rw [Rat.den_eq_one_iff]
  constructor
  · rintro ⟨n, rfl⟩
    rw [div_mul_cancel₀ _ power, Rat.num_intCast]
  · intro whole
    exact ⟨(x * 10 ^ scale).num, by rw [whole, mul_div_cancel_right₀ _ power]⟩

instance OnGrid.decidable (scale : ℕ) (x : ℚ) : Decidable (OnGrid scale x) :=
  decidable_of_iff _ onGrid_iff_den.symm

theorem onGrid_zero (scale : ℕ) : OnGrid scale 0 := ⟨0, by simp⟩

theorem OnGrid.add {scale : ℕ} {x y : ℚ} (left : OnGrid scale x) (right : OnGrid scale y) :
    OnGrid scale (x + y) := by
  obtain ⟨n, rfl⟩ := left
  obtain ⟨m, rfl⟩ := right
  exact ⟨n + m, by push_cast; ring⟩

theorem OnGrid.intCast_mul {scale : ℕ} {x : ℚ} (grid : OnGrid scale x) (k : ℤ) :
    OnGrid scale (k * x) := by
  obtain ⟨n, rfl⟩ := grid
  exact ⟨k * n, by push_cast; ring⟩

theorem onGrid_toScale (round : ℚ → ℤ) (scale : ℕ) (x : ℚ) :
    OnGrid scale (toScale round scale x) := ⟨round (x * 10 ^ scale), rfl⟩

theorem toScale_of_onGrid {round : ℚ → ℤ} (nearest : Nearest round) {scale : ℕ} {x : ℚ}
    (grid : OnGrid scale x) : toScale round scale x = x := by
  obtain ⟨n, rfl⟩ := grid
  have power : (10 : ℚ) ^ scale ≠ 0 := by positivity
  unfold toScale
  rw [div_mul_cancel₀ _ power, nearest.keeps]

/-- Rounding at a scale moves a value by at most half a unit of that scale. -/
theorem abs_toScale_sub_le {round : ℚ → ℤ} (nearest : Nearest round) (scale : ℕ) (x : ℚ) :
    |toScale round scale x - x| ≤ 1 / 2 / 10 ^ scale := by
  have power : (0 : ℚ) < 10 ^ scale := by positivity
  have shifted : toScale round scale x - x =
      ((round (x * 10 ^ scale) : ℚ) - x * 10 ^ scale) / 10 ^ scale := by
    unfold toScale
    field_simp
  rw [shifted, abs_div, abs_of_pos power]
  exact div_le_div_of_nonneg_right (nearest.close _) power.le

theorem toScale_mono {round : ℚ → ℤ} (nearest : Nearest round) {scale : ℕ} {x y : ℚ}
    (le : x ≤ y) : toScale round scale x ≤ toScale round scale y := by
  have power : (0 : ℚ) < 10 ^ scale := by positivity
  refine div_le_div_of_nonneg_right ?_ power.le
  exact_mod_cast nearest.mono (mul_le_mul_of_nonneg_right le power.le)

theorem quantize_mono {scale : ℕ} {x y : ℚ} (le : x ≤ y) : quantize scale x ≤ quantize scale y :=
  toScale_mono roundHalfEven_nearest le

theorem numeric_mono {scale : ℕ} {x y : ℚ} (le : x ≤ y) : numeric scale x ≤ numeric scale y :=
  toScale_mono roundHalfAway_nearest le

theorem onGrid_quantize (scale : ℕ) (x : ℚ) : OnGrid scale (quantize scale x) :=
  onGrid_toScale _ _ _

theorem abs_quantize_sub_le (scale : ℕ) (x : ℚ) :
    |quantize scale x - x| ≤ 1 / 2 / 10 ^ scale :=
  abs_toScale_sub_le roundHalfEven_nearest scale x

theorem numeric_of_onGrid {scale : ℕ} {x : ℚ} (grid : OnGrid scale x) : numeric scale x = x :=
  toScale_of_onGrid roundHalfAway_nearest grid

end Scalper.Lib
