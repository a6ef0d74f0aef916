import Scalper.Execution.Persist
import Scalper.Lib.DecimalText
import Mathlib.Algebra.Order.Ring.Rat
import Mathlib.Tactic.NormNum

/-!
# Sections of a bot configuration

The models of `packages/scoring/types.py`.  Amounts are exact numbers, and the dictionaries of a
section are lists of their entries.  The bounds the models place on a field, and what their
validators check, are proofs the section carries.
-/

set_option autoImplicit false

namespace Scalper.Scoring

open Scalper.Execution (ExchangeMode)
open Scalper.Lib (zeroDigits)

/-! ## Risk -/

/-- A knob that is switched off is within its bound. -/
theorem switchedOff_nonneg : (0 : ℚ) ≤ 0 := le_rfl

/-- `RiskSection`: a knob at zero is switched off. -/
structure RiskSection where
  cooldownAfterLossMinutes : ℕ := 0
  cooldownAfterStreakNLosses : ℕ := 0
  cooldownAfterStreakNLossesMinutes : ℕ := 0
  maxOpenTradesPerBot : ℕ := 0
  maxOpenTradesGlobal : ℕ := 0
  dailyLossLimitUsd : ℚ := 0
  maxDrawdownPct : ℚ := 0
  blockOppositeSide : Bool := true
  dailyLossLimitUsd_nonneg : 0 ≤ dailyLossLimitUsd := by
    first | exact switchedOff_nonneg | norm_num
  maxDrawdownPct_nonneg : 0 ≤ maxDrawdownPct := by
    first | exact switchedOff_nonneg | norm_num

/-! ## Exchange, signals and execution -/

/-- `ExchangeSection`. -/
structure ExchangeSection where
  mode : ExchangeMode
  account : String
  apiKeyEnv : String
  apiSecretEnv : String
  deriving DecidableEq

/-- `SignalsSection`. -/
structure SignalsSection where
  sourceFilter : Option (List String) := none
  ttlSeconds : ℤ := 120
  deriving DecidableEq

/-- `ExecutionSection`. -/
structure ExecutionSection where
  qty : ℚ
  leverage : ℤ
  slPct : ℚ
  tpPct : ℚ
  tpQtyPct : ℚ
  beTrigger : ℚ
  beSlLevel : ℚ
  trailPct : ℚ
  feeRate : ℚ
  slRetryCount : ℤ := 3
  emergencyCloseOnSlFail : Bool := true
  deriving DecidableEq

/-! ## Shadow variants -/

/-- `_EXECUTION_OVERRIDE_FIELDS`. -/
def executionOverrideFields : List String :=
  ["qty", "leverage", "sl_pct", "tp_pct", "tp_qty_pct", "be_trigger", "be_sl_level", "trail_pct",
    "fee_rate"]

/-- `ShadowVariant`. -/
structure ShadowVariant where
  name : String
  overrides : List (String × ℚ)
  name_ne_empty : name ≠ ""
  targets : ∀ entry ∈ overrides, entry.1 ∈ executionOverrideFields
  deriving DecidableEq

/-- `ShadowConfig`. -/
structure ShadowConfig where
  enabled : Bool
  variants : List ShadowVariant
  maxDurationHours : ℚ
  hours_pos : 0 < maxDurationHours
  hours_le : maxDurationHours ≤ 24
  namesUnique : (variants.map ShadowVariant.name).Nodup
  enabledRequiresVariants : enabled = true → variants ≠ []
  deriving DecidableEq

/-! ## Sizing -/

/-- `SizingTier`. -/
structure SizingTier where
  balanceMin : ℚ
  size : ℚ
  balanceMin_nonneg : 0 ≤ balanceMin
  size_nonneg : 0 ≤ size

/-- `method` of the sizing section. -/
inductive SizingMethod where
  | tier
  | riskPerSl
  deriving DecidableEq, Repr

/-- The first of each run of characters that are digits without being decimal digits, and the
length of the run: superscripts, subscripts, digits in circles and the like. -/
def otherDigits : List (ℕ × ℕ) :=
  [(0xB2, 2), (0xB9, 1), (0x1369, 9), (0x19DA, 1), (0x2070, 1), (0x2074, 6), (0x2080, 10),
    (0x2460, 9), (0x2474, 9), (0x2488, 9), (0x24EA, 1), (0x24F5, 9), (0x24FF, 1), (0x2776, 9),
    (0x2780, 9), (0x278A, 9), (0x10A40, 4), (0x10E60, 9), (0x11052, 9), (0x1F100, 11)]

/-- `str.isdigit` of a character. -/
def isDigit (char : Char) : Bool :=
  (zeroDigits.any fun first => first ≤ char.toNat && char.toNat < first + 10) ||
    otherDigits.any fun run => run.1 ≤ char.toNat && char.toNat < run.1 + run.2

/-- `SizingSection._structural_guards`. -/
def StructuralGuards (method : SizingMethod) (tiers : List SizingTier)
    (scoreMultipliers : List (String × ℚ)) (riskPct : Option ℚ)
    (maxNotionalPerSymbol : List (String × ℚ)) : Prop :=
  (method = .tier → riskPct = none ∧ tiers ≠ [] ∧ scoreMultipliers ≠ [] ∧
    (tiers.map SizingTier.balanceMin).IsChain (· < ·)) ∧
  (method = .riskPerSl → riskPct ≠ none) ∧
  (∃ entry ∈ maxNotionalPerSymbol, entry.1 = "default") ∧
  ∀ entry ∈ scoreMultipliers, entry.1 ≠ "" ∧ entry.1.toList.all isDigit

instance (method : SizingMethod) (tiers : List SizingTier) (scoreMultipliers : List (String × ℚ))
    (riskPct : Option ℚ) (maxNotionalPerSymbol : List (String × ℚ)) :
    Decidable (StructuralGuards method tiers scoreMultipliers riskPct maxNotionalPerSymbol) :=
  inferInstanceAs (Decidable (_ ∧ _ ∧ _ ∧ _))

/-- `SizingSection`. -/
structure SizingSection where
  method : SizingMethod
  tiers : List SizingTier
  scoreMultipliers : List (String × ℚ)
  riskPct : Option ℚ
  maxNotionalPerSymbol : List (String × ℚ)
  riskPct_pos : ∀ risk ∈ riskPct, 0 < risk
  guards : StructuralGuards method tiers scoreMultipliers riskPct maxNotionalPerSymbol

end Scalper.Scoring
