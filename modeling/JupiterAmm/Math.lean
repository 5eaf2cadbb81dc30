import JupiterAmm.Interface

/-!
# Curve results and fees

`get_swap_curve_result` runs the pool's curve on an amount and reports the amounts swapped, the sum
of the two fees the curve took, and the fee rate, which `Fees::fee_pct` computes a second time from
the pool's fee parameters as a decimal.
-/

namespace JupiterAmm

open Rust

/-- `math::fees::Fees`, a wrapper of the token swap program's fees. -/
structure Fees where
  inner : TokenSwapFees
  deriving DecidableEq, Repr

/-- `Fees::new`. -/
def Fees.new (tradeFeeNumerator tradeFeeDenominator ownerTradeFeeNumerator
    ownerTradeFeeDenominator : UInt64) : Fees :=
  ⟨{ tradeFeeNumerator, tradeFeeDenominator, ownerTradeFeeNumerator, ownerTradeFeeDenominator }⟩

/-- One term of `fee_pct`: the quotient of two `u64`s as a decimal, zero at a zero denominator. -/
def feeTerm (crates : Crates) (numerator denominator : UInt64) : Option crates.Decimal :=
  if denominator > 0 then do
    let n ← crates.decimalFromU64 numerator
    let d ← crates.decimalFromU64 denominator
    crates.decimalCheckedDiv n d
  else
    some crates.decimalZero

/-- `Fees::fee_pct`. -/
def Fees.feePct (crates : Crates) (self : Fees) : Option crates.Decimal := do
  let tradeFeePct ← feeTerm crates self.inner.tradeFeeNumerator self.inner.tradeFeeDenominator
  let ownerTradeFeePct ←
    feeTerm crates self.inner.ownerTradeFeeNumerator self.inner.ownerTradeFeeDenominator
  crates.decimalCheckedAdd tradeFeePct ownerTradeFeePct

/-- `math::token_swap::SwapResult`. -/
structure SwapResult (crates : Crates) where
  feePct : crates.Decimal
  fees : U128
  inputAmount : U128
  expectedOutputAmount : U128

/-- `get_swap_curve_result`. The workspace sets no profile, so the sum of the fees overflows into a
panic under `cargo test`. -/
def getSwapCurveResult (crates : Crates) (swapCurve : SwapCurve crates.CurveType crates.Calculator)
    (amount : UInt64) (swapSourceAmount swapDestinationAmount : U128)
    (tradeDirection : TradeDirection) (fees : TokenSwapFees) :
    crates.Result (SwapResult crates) := do
  let curveResult ← okOr (crates.anyhow "quote failed")
    (crates.swapCurveSwap swapCurve (.ofU64 amount) swapSourceAmount swapDestinationAmount
      tradeDirection fees)
  let newFees := Fees.new fees.tradeFeeNumerator fees.tradeFeeDenominator
    fees.ownerTradeFeeNumerator fees.ownerTradeFeeDenominator
  let feePct ← okOr (crates.anyhow "failed to get fee pct") (newFees.feePct crates)
  let fees ← U128.add curveResult.tradeFee curveResult.ownerFee
  pure {
    expectedOutputAmount := curveResult.destinationAmountSwapped
    fees
    inputAmount := curveResult.sourceAmountSwapped
    feePct }

/-- The fees `get_swap_curve_result` rebuilds are the fees it was given. -/
@[simp] theorem Fees.new_eq (fees : TokenSwapFees) :
    Fees.new fees.tradeFeeNumerator fees.tradeFeeDenominator fees.ownerTradeFeeNumerator
      fees.ownerTradeFeeDenominator = ⟨fees⟩ := rfl

section
variable {crates : Crates} {swapCurve : SwapCurve crates.CurveType crates.Calculator}
  {amount : UInt64} {swapSourceAmount swapDestinationAmount : U128}
  {tradeDirection : TradeDirection} {fees : TokenSwapFees}

/-- A swap result comes from a curve result and a fee rate: the amounts are the curve's, the fees
are the sum of its two fees. -/
theorem getSwapCurveResult_eq_ok {r : SwapResult crates} :
    getSwapCurveResult crates swapCurve amount swapSourceAmount swapDestinationAmount
      tradeDirection fees = .ok r ↔
    ∃ c : CurveResult, crates.swapCurveSwap swapCurve (.ofU64 amount) swapSourceAmount
        swapDestinationAmount tradeDirection fees = some c ∧
      (⟨fees⟩ : Fees).feePct crates = some r.feePct ∧
      (U128.add c.tradeFee c.ownerFee : crates.Result U128) = .ok r.fees ∧
      r.inputAmount = c.sourceAmountSwapped ∧
      r.expectedOutputAmount = c.destinationAmountSwapped := by
  unfold getSwapCurveResult
  simp only [Fees.new_eq, Outcome.bind_ok, okOr_eq_ok]
  constructor
  · rintro ⟨c, hc, pct, hpct, sum, hsum, hr⟩
    cases hr
    exact ⟨c, hc, hpct, hsum, rfl, rfl⟩
  · rintro ⟨c, hc, hpct, hsum, hin, hout⟩
    refine ⟨c, hc, r.feePct, hpct, r.fees, hsum, ?_⟩
    rw [← hin, ← hout]
    rfl

/-- A curve that refuses the swap is reported as an `Err`. -/
theorem getSwapCurveResult_of_none
    (h : crates.swapCurveSwap swapCurve (.ofU64 amount) swapSourceAmount swapDestinationAmount
      tradeDirection fees = none) :
    getSwapCurveResult crates swapCurve amount swapSourceAmount swapDestinationAmount
      tradeDirection fees = .error (.err (crates.anyhow "quote failed")) := by
  unfold getSwapCurveResult
  rw [h]
  rfl

end

end JupiterAmm
