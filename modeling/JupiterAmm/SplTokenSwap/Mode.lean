import JupiterAmm.SplTokenSwap.Quote

/-!
# Quotes and the swap mode

`QuoteParams` names the side of the trade that `amount` fixes: what goes in, or what comes out.
`quote` does not read it, so it answers every request with the exact-in quote (`quote_eq_exactIn`).
That keeps the promise of a request with an exact input (`answersMode_of_exactIn`). A request with
an exact output is answered with what the curve pays for that amount of the input, which is the
amount asked for only where the two happen to be the same (`answersMode_exactOut_iff`).
-/

namespace JupiterAmm

open Rust

/-- `SwapCurve::swap` never consumes more than the source amount it is given. -/
def Crates.ConsumesAtMost (crates : Crates) : Prop :=
  ∀ {curve : SwapCurve crates.CurveType crates.Calculator} {amount source destination : U128}
    {direction : TradeDirection} {fees : TokenSwapFees} {c : CurveResult},
    crates.swapCurveSwap curve amount source destination direction fees = some c →
      c.sourceAmountSwapped.toNat ≤ amount.toNat

open Reference in
theorem consumesAtMost_referenceCrates : referenceCrates.ConsumesAtMost := fun hc =>
  (swapStaysWithin_referenceCrates hc).2.1

namespace SplTokenSwapAmm

variable {crates : Crates}

section
variable (self : SplTokenSwapAmm crates) (quoteParams : QuoteParams)

/-- A quote answers for the side its request names: it takes no more than an exact input, and pays
an exact output. -/
def AnswersMode : Prop :=
  ∀ q, self.quote quoteParams = .ok q →
    match quoteParams.swapMode with
    | .exactIn => q.inAmount ≤ quoteParams.amount
    | .exactOut => q.outAmount = quoteParams.amount

/-- The curve swaps the amount, taken as an input, and the fee rate and the amounts fit a quote. -/
def Swaps (c : CurveResult) : Prop :=
  self.curveResult quoteParams = some c ∧ (⟨self.state.fees⟩ : Fees).feePct crates ≠ none ∧
    c.tradeFee.toNat + c.ownerFee.toNat < 2 ^ 64 ∧ c.destinationAmountSwapped.toNat < 2 ^ 64

/-- The quote does not depend on the swap mode: every request gets the exact-in quote. -/
theorem quote_eq_exactIn :
    self.quote quoteParams = self.quote { quoteParams with swapMode := .exactIn } := rfl

end

section
variable {self : SplTokenSwapAmm crates} {quoteParams : QuoteParams}

/-- A quote comes from a swap of the curve. -/
theorem swaps_of_quote (hconsumes : crates.ConsumesAtMost) {q : Quote crates}
    (hq : self.quote quoteParams = .ok q) :
    ∃ c, self.Swaps quoteParams c ∧ q.inAmount.toNat ≤ quoteParams.amount.toNat ∧
      q.outAmount.toNat = c.destinationAmountSwapped.toNat := by
  obtain ⟨c, hc, hpct, hin, hout, hfee⟩ := quote_eq_ok hq
  refine ⟨c, ⟨hc, ?_, ?_, ?_⟩, ?_, hout⟩
  · rw [hpct]
    exact nofun
  · rw [← hfee]
    exact q.feeAmount.toNat_lt
  · rw [← hout]
    exact q.outAmount.toNat_lt
  · rw [hin, ← U128.toNat_ofU64 quoteParams.amount]
    exact hconsumes hc

/-- A swap of the curve is quoted. -/
theorem quote_of_swaps (hconsumes : crates.ConsumesAtMost) {c : CurveResult}
    (hswaps : self.Swaps quoteParams c) :
    ∃ q, self.quote quoteParams = .ok q ∧
      q.outAmount.toNat = c.destinationAmountSwapped.toNat := by
  obtain ⟨hc, hpct, hfee, hout⟩ := hswaps
  obtain ⟨pct, hpct⟩ := Option.ne_none_iff_exists'.1 hpct
  have hin : c.sourceAmountSwapped.toNat < 2 ^ 64 := by
    have hle := hconsumes hc
    rw [U128.toNat_ofU64] at hle
    exact Nat.lt_of_le_of_lt hle quoteParams.amount.toNat_lt
  obtain ⟨q, hq⟩ := quote_of_some hc hpct hin hout hfee
  obtain ⟨c', hc', -, -, hout', -⟩ := quote_eq_ok hq
  rw [hc] at hc'
  cases hc'
  exact ⟨q, hq, hout'⟩

/-- **A quote with an exact input answers for its mode**, in every state of the pool. -/
theorem answersMode_of_exactIn (hconsumes : crates.ConsumesAtMost)
    (hmode : quoteParams.swapMode = .exactIn) : self.AnswersMode quoteParams := by
  intro q hq
  rw [hmode]
  obtain ⟨c, -, hin, -⟩ := swaps_of_quote hconsumes hq
  exact UInt64.le_iff_toNat_le.2 hin

/-- A quote with an exact output answers for its mode where the curve swaps the amount, if at all,
for as much. -/
theorem answersMode_exactOut_iff (hconsumes : crates.ConsumesAtMost)
    (hmode : quoteParams.swapMode = .exactOut) :
    self.AnswersMode quoteParams ↔ ∀ c, self.Swaps quoteParams c →
      c.destinationAmountSwapped.toNat = quoteParams.amount.toNat := by
  unfold AnswersMode
  rw [hmode]
  constructor
  · intro hanswers c hswaps
    obtain ⟨q, hq, hout⟩ := quote_of_swaps hconsumes hswaps
    rw [← hout, hanswers q hq]
  · intro heven q hq
    obtain ⟨c, hswaps, -, hout⟩ := swaps_of_quote hconsumes hq
    rw [← UInt64.toNat_inj, hout, heven c hswaps]

end

section
open Reference

/-- The example pool quotes an exact input of a million, and takes no more. -/
theorem answersMode_of_exactIn_pool :
    ∃ q, (pool.run [.update chain]).quote (quoteParams mintA mintB 1000000) = .ok q ∧
      q.inAmount ≤ 1000000 := by
  obtain ⟨q, hq⟩ := quote_pool
  exact ⟨q, hq, answersMode_of_exactIn consumesAtMost_referenceCrates rfl q hq⟩

/-- A request for exactly a million USDC for SOL. -/
def exactOutParams : QuoteParams := { quoteParams mintA mintB 1000000 with swapMode := .exactOut }

/-- **A quote may answer for the wrong side.** After an update, the example pool answers a request
for an exact output with another output. -/
theorem not_answersMode :
    fromKeyedAccount poolKeyedAccount = .ok pool ∧
    ¬ (pool.run [.update chain]).AnswersMode exactOutParams := by
  refine ⟨fromKeyedAccount_pool, fun hanswers => ?_⟩
  obtain ⟨q, hq⟩ := quote_pool
  -- the quote of the exact-in request for the same amount
  have hq' : (pool.run [.update chain]).quote exactOutParams = .ok q :=
    (quote_eq_exactIn _ exactOutParams).trans hq
  obtain ⟨c, hswaps, -⟩ := swaps_of_quote consumesAtMost_referenceCrates hq'
  have heven : c.destinationAmountSwapped.toNat = exactOutParams.amount.toNat :=
    (answersMode_exactOut_iff consumesAtMost_referenceCrates rfl).1 hanswers c hswaps
  have hc := hswaps.1
  have hpays : ((pool.withReserves (balanceA, balanceB)).curveResult
      exactOutParams).map (·.destinationAmountSwapped.toNat) ≠
        some exactOutParams.amount.toNat := by
    decide +kernel
  rw [run_pool] at hc
  rw [hc, Option.map_some, heven] at hpays
  exact hpays rfl

end

end SplTokenSwapAmm

end JupiterAmm
