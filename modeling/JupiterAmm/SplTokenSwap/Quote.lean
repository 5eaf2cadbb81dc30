import JupiterAmm.SplTokenSwap.Runs
import Mathlib.Data.Rat.Cast.Order
import Mathlib.Tactic.Linarith
import Mathlib.Tactic.Positivity
import Mathlib.Tactic.FieldSimp
import Mathlib.Tactic.NormNum

/-!
# The arithmetic of a quote

A quote narrows the curve's `u128` amounts to `u64` and adds two fees without a check. On a run the
reserves are balances, so they fit `u64` (`reservesFit_run`), and a curve that stays within what it
is given then makes every step succeed (`quote_arithmetic_safe`). The fee amount is the curve's and
the fee rate is computed from the fee parameters alone; they differ by less than one token for each
of the two fees (`feeAmount_near_feePct`). Decimals are read as rational numbers.
-/

namespace JupiterAmm

open Rust

/-! ## Assumptions about the crates -/

/-- `SwapCurve::swap` takes no more than it is given, its fees out of what it takes, and pays no
more than the destination reserve. -/
def Crates.SwapStaysWithin (crates : Crates) : Prop :=
  ∀ {curve : SwapCurve crates.CurveType crates.Calculator} {amount source destination : U128}
    {direction : TradeDirection} {fees : TokenSwapFees} {c : CurveResult},
    crates.swapCurveSwap curve amount source destination direction fees = some c →
      c.tradeFee.toNat + c.ownerFee.toNat ≤ c.sourceAmountSwapped.toNat ∧
      c.sourceAmountSwapped.toNat ≤ amount.toNat ∧
      c.destinationAmountSwapped.toNat ≤ destination.toNat

/-- The largest decimal: a mantissa of 96 bits at scale zero. -/
def decimalMax : ℚ := 2 ^ 96 - 1

/-- The decimals of `rust_decimal`, whose values `value` gives. A quotient is rounded to a
representable one, and a checked operation refuses only an overflow or a division by zero. -/
structure Crates.DecimalLaws (crates : Crates) (value : crates.Decimal → ℚ) : Prop where
  zero : value crates.decimalZero = 0
  fromU64 : ∀ n, ∃ x, crates.decimalFromU64 n = some x ∧ value x = n.toNat
  div_none : ∀ {x y}, crates.decimalCheckedDiv x y = none →
    value y = 0 ∨ decimalMax < |value x / value y|
  div_some : ∀ {x y z}, crates.decimalCheckedDiv x y = some z →
    |value z - value x / value y| ≤ 1
  add_none : ∀ {x y}, crates.decimalCheckedAdd x y = none → decimalMax < |value x + value y|

/-- Decimal arithmetic taken as exact. -/
structure Crates.ExactDecimals (crates : Crates) (value : crates.Decimal → ℚ) : Prop where
  zero : value crates.decimalZero = 0
  fromU64 : ∀ {n x}, crates.decimalFromU64 n = some x → value x = n.toNat
  div : ∀ {x y z}, crates.decimalCheckedDiv x y = some z → value z = value x / value y
  add : ∀ {x y z}, crates.decimalCheckedAdd x y = some z → value z = value x + value y

/-- `SwapCurve::swap` charges its two fees on the full source amount. -/
def Crates.ChargesFees (crates : Crates) : Prop :=
  ∀ {curve : SwapCurve crates.CurveType crates.Calculator} {amount source destination : U128}
    {direction : TradeDirection} {fees : TokenSwapFees} {c : CurveResult},
    crates.swapCurveSwap curve amount source destination direction fees = some c →
      calculateFee amount.toNat fees.tradeFeeNumerator.toNat fees.tradeFeeDenominator.toNat =
        some c.tradeFee.toNat ∧
      calculateFee amount.toNat fees.ownerTradeFeeNumerator.toNat
        fees.ownerTradeFeeDenominator.toNat = some c.ownerFee.toNat

section
open Reference

/-- The reference curve stays within what it is given. -/
theorem swapStaysWithin_referenceCrates : referenceCrates.SwapStaysWithin := by
  intro curve amount source destination direction fees c hc
  have hc : swapCurveSwap curve amount source destination direction fees = some c := hc
  obtain ⟨-, -, hfees, hsource, hdestination⟩ := swapCurveSwap_eq_some hc
  exact ⟨hfees, hsource, hdestination⟩

/-- The reference curve charges its two fees on the full source amount. -/
theorem chargesFees_referenceCrates : referenceCrates.ChargesFees := by
  intro curve amount source destination direction fees c hc
  have hc : swapCurveSwap curve amount source destination direction fees = some c := hc
  obtain ⟨htrade, howner, -⟩ := swapCurveSwap_eq_some hc
  exact ⟨htrade, howner⟩

theorem representable_eq_none {x : ℚ} : representable x = none ↔ decimalMax < |x| := by
  rw [representable, decimalMax]
  split
  · next h => simpa using h
  · next h => simpa using h

theorem representable_eq_some {x y : ℚ} (h : representable x = some y) : y = x := by
  unfold representable at h
  split at h
  · exact (Option.some.inj h).symm
  · cases h

/-- The reference decimals are exact where they do not overflow. -/
theorem exactDecimals_referenceCrates : referenceCrates.ExactDecimals (fun x => x) where
  zero := rfl
  fromU64 h := (Option.some.inj h).symm
  div {x y z} h := by
    have h : (if y = 0 then none else representable (x / y)) = some z := h
    split at h
    · cases h
    · exact representable_eq_some h
  add h := representable_eq_some h

theorem decimalLaws_referenceCrates : referenceCrates.DecimalLaws (fun x => x) where
  zero := rfl
  fromU64 n := ⟨_, rfl, rfl⟩
  div_none {x y} h := by
    have h : (if y = 0 then none else representable (x / y)) = none := h
    split at h
    · next hy => exact .inl hy
    · exact .inr (representable_eq_none.1 h)
  div_some h := by
    rw [exactDecimals_referenceCrates.div h, sub_self, abs_zero]
    exact zero_le_one
  add_none h := representable_eq_none.1 h

end

/-! ## The fee rate -/

section
variable {crates : Crates} {value : crates.Decimal → ℚ}

/-- A term of the fee rate is there, and no larger than its numerator and one for the rounding. -/
theorem Crates.DecimalLaws.feeTerm (laws : crates.DecimalLaws value) (n d : UInt64) :
    ∃ x, feeTerm crates n d = some x ∧ |value x| ≤ 2 ^ 64 := by
  by_cases hd : d > 0
  · obtain ⟨x, hx, hxv⟩ := laws.fromU64 n
    obtain ⟨y, hy, hyv⟩ := laws.fromU64 d
    have hdpos : (1 : ℚ) ≤ d.toNat := by
      have : 0 < d.toNat := by simpa [UInt64.lt_iff_toNat_lt] using hd
      exact_mod_cast this
    have hnlt : (n.toNat : ℚ) ≤ 2 ^ 64 - 1 := by
      have : n.toNat + 1 ≤ 2 ^ 64 := n.toNat_lt
      have : (n.toNat : ℚ) + 1 ≤ 2 ^ 64 := by exact_mod_cast this
      linarith
    have hn0 : (0 : ℚ) ≤ n.toNat := Nat.cast_nonneg _
    -- the quotient of two `u64`s is below `2 ^ 64`
    have hquot : |(n.toNat : ℚ) / d.toNat| ≤ 2 ^ 64 - 1 := by
      rw [abs_of_nonneg (by positivity)]
      calc (n.toNat : ℚ) / d.toNat ≤ n.toNat := div_le_self hn0 hdpos
        _ ≤ 2 ^ 64 - 1 := hnlt
    have hterm : JupiterAmm.feeTerm crates n d = crates.decimalCheckedDiv x y := by
      rw [JupiterAmm.feeTerm, if_pos hd, hx, hy]
      rfl
    rw [hterm]
    cases hz : crates.decimalCheckedDiv x y with
    | none =>
      exfalso
      rcases laws.div_none hz with h | h
      · rw [hyv] at h
        linarith
      · rw [hxv, hyv, decimalMax] at h
        have : (2 : ℚ) ^ 64 ≤ 2 ^ 96 := by norm_num
        linarith
    | some z =>
      refine ⟨z, rfl, ?_⟩
      have hround := laws.div_some hz
      rw [hxv, hyv] at hround
      calc |value z| = |(value z - n.toNat / d.toNat) + n.toNat / d.toNat| := by ring_nf
        _ ≤ |value z - n.toNat / d.toNat| + |(n.toNat : ℚ) / d.toNat| := abs_add_le _ _
        _ ≤ 1 + (2 ^ 64 - 1) := add_le_add hround hquot
        _ = 2 ^ 64 := by ring
  · refine ⟨_, by rw [JupiterAmm.feeTerm, if_neg hd], ?_⟩
    rw [laws.zero, abs_zero]
    positivity

/-- **The fee rate is always there**, whatever the fee parameters. -/
theorem Crates.DecimalLaws.feePct_ne_none (laws : crates.DecimalLaws value) (fees : Fees) :
    fees.feePct crates ≠ none := by
  obtain ⟨x, hx, hxb⟩ := laws.feeTerm fees.inner.tradeFeeNumerator fees.inner.tradeFeeDenominator
  obtain ⟨y, hy, hyb⟩ :=
    laws.feeTerm fees.inner.ownerTradeFeeNumerator fees.inner.ownerTradeFeeDenominator
  intro hnone
  have hadd : crates.decimalCheckedAdd x y = none := by
    rw [← hnone, Fees.feePct, hx, hy]
    rfl
  have hover := laws.add_none hadd
  have hsum : |value x + value y| ≤ 2 ^ 64 + 2 ^ 64 :=
    (abs_add_le _ _).trans (add_le_add hxb hyb)
  have : (2 : ℚ) ^ 64 + 2 ^ 64 ≤ decimalMax := by norm_num [decimalMax]
  linarith

/-- A fee as a rate: a term with a zero denominator counts as zero. -/
def feeRate (numerator denominator : UInt64) : ℚ :=
  if denominator.toNat = 0 then 0 else numerator.toNat / denominator.toNat

theorem Crates.ExactDecimals.feeTerm (exact : crates.ExactDecimals value) {n d : UInt64}
    {x : crates.Decimal} (h : feeTerm crates n d = some x) : value x = feeRate n d := by
  have hpos : d > 0 ↔ d.toNat ≠ 0 := by
    rw [gt_iff_lt, UInt64.lt_iff_toNat_lt, UInt64.toNat_zero]
    exact Nat.pos_iff_ne_zero
  unfold JupiterAmm.feeTerm at h
  split at h
  · next hd =>
    simp only [Option.bind_eq_bind, Option.bind_eq_some_iff] at h
    obtain ⟨n', hn', d', hd', hdiv⟩ := h
    rw [exact.div hdiv, exact.fromU64 hn', exact.fromU64 hd', feeRate, if_neg (hpos.1 hd)]
  · next hd =>
    cases h
    rw [exact.zero, feeRate, if_pos (not_not.1 (mt hpos.2 hd))]

/-- The fee rate is the sum of the two fees as rates. -/
theorem Crates.ExactDecimals.feePct (exact : crates.ExactDecimals value) {fees : Fees}
    {x : crates.Decimal} (h : fees.feePct crates = some x) :
    value x = feeRate fees.inner.tradeFeeNumerator fees.inner.tradeFeeDenominator +
      feeRate fees.inner.ownerTradeFeeNumerator fees.inner.ownerTradeFeeDenominator := by
  unfold Fees.feePct at h
  simp only [Option.bind_eq_bind, Option.bind_eq_some_iff] at h
  obtain ⟨trade, htrade, owner, howner, hsum⟩ := h
  rw [exact.add hsum, exact.feeTerm htrade, exact.feeTerm howner]

end

/-- **A fee is within one token of its rate.** Flooring takes less than one, and the minimum of one
is charged only where the exact fee is positive. -/
theorem fee_near_rate {amount : Nat} {n d : UInt64} {fee : Nat}
    (h : calculateFee amount n.toNat d.toNat = some fee) :
    |(fee : ℚ) - amount * feeRate n d| < 1 := by
  unfold calculateFee at h
  split at h
  · next hzero =>
    cases h
    have hprod : (amount : ℚ) * feeRate n d = 0 := by
      rcases hzero with hn | ha
      · have : feeRate n d = 0 := by
          unfold feeRate
          split <;> simp [hn]
        rw [this, mul_zero]
      · rw [ha, Nat.cast_zero, zero_mul]
    rw [hprod]
    norm_num
  · next hzero =>
    split at h
    · cases h
    · next hd =>
      obtain ⟨hn, ha⟩ := not_or.1 hzero
      have hdpos : (0 : ℚ) < d.toNat := by exact_mod_cast Nat.pos_of_ne_zero hd
      have hnpos : (0 : ℚ) < n.toNat := by exact_mod_cast Nat.pos_of_ne_zero hn
      have hapos : (0 : ℚ) < amount := by exact_mod_cast Nat.pos_of_ne_zero ha
      have hrate : (amount : ℚ) * feeRate n d = (amount * n.toNat : ℕ) / (d.toNat : ℚ) := by
        rw [feeRate, if_neg hd]
        push_cast
        ring
      have hpos : (0 : ℚ) < (amount * n.toNat : ℕ) / (d.toNat : ℚ) := by
        push_cast
        positivity
      rw [hrate]
      generalize amount * n.toNat = p at h hpos ⊢
      -- the floor of the exact fee
      have hfloor : ((p / d.toNat : ℕ) : ℚ) ≤ p / d.toNat := by
        rw [le_div_iff₀ hdpos]
        exact_mod_cast Nat.div_mul_le_self p d.toNat
      have hceil : (p : ℚ) / d.toNat < (p / d.toNat : ℕ) + 1 := by
        rw [div_lt_iff₀ hdpos]
        have : p < (p / d.toNat + 1) * d.toNat := by
          rw [Nat.mul_comm]
          exact Nat.lt_mul_div_succ p (Nat.pos_of_ne_zero hd)
        exact_mod_cast this
      cases h
      rcases Nat.eq_zero_or_pos (p / d.toNat) with hq | hq
      · rw [hq] at hceil ⊢
        rw [abs_lt]
        norm_num at hceil ⊢
        constructor <;> linarith
      · rw [max_eq_right hq, abs_lt]
        constructor <;> linarith

namespace SplTokenSwapAmm

variable {crates : Crates}

/-! ## What a quote is made of -/

/-- What `SwapCurve::swap` answers to the call `quote` makes. -/
def curveResult (self : SplTokenSwapAmm crates) (quoteParams : QuoteParams) :
    Option CurveResult :=
  crates.swapCurveSwap self.state.swapCurve (.ofU64 quoteParams.amount)
    (self.side quoteParams.inputMint).2.1 (self.side quoteParams.inputMint).2.2
    (self.side quoteParams.inputMint).1 self.state.fees

/-- A quote is a curve result narrowed to `u64`, with the sum of its fees and the fee rate. -/
theorem quote_eq_ok {self : SplTokenSwapAmm crates} {qp : QuoteParams} {q : Quote crates}
    (h : self.quote qp = .ok q) :
    ∃ c, self.curveResult qp = some c ∧ (⟨self.state.fees⟩ : Fees).feePct crates = some q.feePct ∧
      q.inAmount.toNat = c.sourceAmountSwapped.toNat ∧
      q.outAmount.toNat = c.destinationAmountSwapped.toNat ∧
      q.feeAmount.toNat = c.tradeFee.toNat + c.ownerFee.toNat := by
  rw [quote_eq_price, price, Outcome.bind_ok] at h
  obtain ⟨r, hr, h⟩ := h
  obtain ⟨c, hc, hpct, hsum, hin, hout⟩ := getSwapCurveResult_eq_ok.1 hr
  simp only [quoteOfSwapResult, Outcome.bind_ok, okOr_eq_ok] at h
  obtain ⟨inAmount, hinAmount, outAmount, houtAmount, feeAmount, hfeeAmount, hq⟩ := h
  cases hq
  refine ⟨c, hc, hpct, ?_, ?_, ?_⟩
  · rw [← hin]
    exact U128.toNat_of_toU64? hinAmount
  · rw [← hout]
    exact U128.toNat_of_toU64? houtAmount
  · rw [← U128.toNat_of_add_ok hsum]
    exact U128.toNat_of_toU64? hfeeAmount

/-- Where the curve refuses the swap, `quote` returns an `Err`. -/
theorem quote_of_none {self : SplTokenSwapAmm crates} {qp : QuoteParams}
    (h : self.curveResult qp = none) :
    self.quote qp = .error (.err (crates.anyhow "quote failed")) := by
  rw [quote_eq_price, price, getSwapCurveResult_of_none h]
  rfl

/-- Where all amounts of a swap result fit `u64`, narrowing it succeeds. -/
theorem quoteOfSwapResult_of_lt {r : SwapResult crates} {mint : Pubkey}
    (hin : r.inputAmount.toNat < 2 ^ 64) (hout : r.expectedOutputAmount.toNat < 2 ^ 64)
    (hfee : r.fees.toNat < 2 ^ 64) : ∃ q, quoteOfSwapResult mint r = .ok q := by
  unfold quoteOfSwapResult
  rw [U128.toU64?_of_lt hin, U128.toU64?_of_lt hout, U128.toU64?_of_lt hfee]
  exact ⟨_, rfl⟩

/-- Where the curve answers, the fee rate is there and all amounts fit `u64`, `quote` returns. -/
theorem quote_of_some {self : SplTokenSwapAmm crates} {qp : QuoteParams} {c : CurveResult}
    {pct : crates.Decimal} (hc : self.curveResult qp = some c)
    (hpct : (⟨self.state.fees⟩ : Fees).feePct crates = some pct)
    (hin : c.sourceAmountSwapped.toNat < 2 ^ 64) (hout : c.destinationAmountSwapped.toNat < 2 ^ 64)
    (hfee : c.tradeFee.toNat + c.ownerFee.toNat < 2 ^ 64) :
    ∃ q, self.quote qp = .ok q := by
  have hsum : (U128.add c.tradeFee c.ownerFee : crates.Result U128) =
      .ok (c.tradeFee + c.ownerFee) := U128.add_of_lt (by omega)
  have hsumlt : (c.tradeFee + c.ownerFee).toNat < 2 ^ 64 := by
    rw [U128.toNat_of_add_ok hsum]
    exact hfee
  have hr : getSwapCurveResult crates self.state.swapCurve qp.amount (self.side qp.inputMint).2.1
      (self.side qp.inputMint).2.2 (self.side qp.inputMint).1 self.state.fees =
      .ok ⟨pct, c.tradeFee + c.ownerFee, c.sourceAmountSwapped, c.destinationAmountSwapped⟩ :=
    getSwapCurveResult_eq_ok.2 ⟨c, hc, hpct, hsum, rfl, rfl⟩
  rw [quote_eq_price, price, hr]
  exact quoteOfSwapResult_of_lt hin hout hsumlt

/-! ## Quotes from balances -/

/-- The reserves are `u64` balances. -/
def ReservesFit (self : SplTokenSwapAmm crates) : Prop :=
  self.reserves.1.toNat < 2 ^ 64 ∧ self.reserves.2.toNat < 2 ^ 64

theorem reservesFit_withReserves (self : SplTokenSwapAmm crates) (r : UInt64 × UInt64) :
    (self.withReserves r).ReservesFit := by
  rw [ReservesFit, reserves_withReserves, U128.toNat_ofU64, U128.toNat_ofU64]
  exact ⟨r.1.toNat_lt, r.2.toNat_lt⟩

/-- Along a run the reserves are `u64` balances. -/
theorem reservesFit_run (hread : crates.ReadsAccountMap) {keyedAccount : KeyedAccount crates.Value}
    {amm : SplTokenSwapAmm crates} (hamm : fromKeyedAccount keyedAccount = .ok amm)
    (calls : List Call) : (amm.run calls).ReservesFit := by
  obtain ⟨-, -, -, hzero⟩ := fromKeyedAccount_eq_ok hamm
  unfold ReservesFit
  cases hlast : amm.lastSuccessfulUpdate calls with
  | none =>
    rw [reserves_run_of_none hread amm calls hlast, hzero]
    exact ⟨by decide, by decide⟩
  | some m =>
    obtain ⟨r, -, hr⟩ := reserves_run hread amm calls hlast
    rw [hr, U128.toNat_ofU64, U128.toNat_ofU64]
    exact ⟨r.1.toNat_lt, r.2.toNat_lt⟩

section
variable (hswap : crates.SwapStaysWithin) {self : SplTokenSwapAmm crates} {qp : QuoteParams}
  (hfit : self.ReservesFit) {c : CurveResult} (hc : self.curveResult qp = some c)
include hswap hfit hc

/-- Between balances every amount the curve answers fits `u64`, the sum of the fees as well. -/
theorem curveResult_lt :
    c.sourceAmountSwapped.toNat < 2 ^ 64 ∧ c.destinationAmountSwapped.toNat < 2 ^ 64 ∧
      c.tradeFee.toNat + c.ownerFee.toNat < 2 ^ 64 := by
  have hside : (self.side qp.inputMint).2.2.toNat < 2 ^ 64 := by
    unfold side
    split
    · exact hfit.2
    · exact hfit.1
  have hamount := qp.amount.toNat_lt
  obtain ⟨hfees, hsource, hdestination⟩ := hswap hc
  rw [U128.toNat_ofU64] at hsource
  exact ⟨by omega, by omega, by omega⟩

/-- Between balances `quote` returns wherever the curve answers. -/
theorem quote_of_curveResult {value : crates.Decimal → ℚ} (hdecimal : crates.DecimalLaws value) :
    ∃ q, self.quote qp = .ok q := by
  obtain ⟨hin, hout, hfee⟩ := curveResult_lt hswap hfit hc
  obtain ⟨pct, hpct⟩ := Option.ne_none_iff_exists'.1 (hdecimal.feePct_ne_none ⟨self.state.fees⟩)
  exact quote_of_some hc hpct hin hout hfee

end

section
variable (hread : crates.ReadsAccountMap) (hswap : crates.SwapStaysWithin)
  {keyedAccount : KeyedAccount crates.Value} {amm : SplTokenSwapAmm crates}
  (hamm : fromKeyedAccount keyedAccount = .ok amm) (calls : List Call)
include hread hswap hamm

/-- **Quoting is arithmetic-safe and never promises more than the pool holds.** On every run, where
the curve answers, the sum of the fees does not overflow and all three conversions succeed; the fee
rate is always there; `quote` never panics, and returns an `Err` exactly where the curve refuses;
and the amounts of a quote are ordered, the last at most the balance stored for the other side,
which is zero before the first successful update. -/
theorem quote_arithmetic_safe {value : crates.Decimal → ℚ} (hdecimal : crates.DecimalLaws value)
    (qp : QuoteParams) :
    (∀ c, (amm.run calls).curveResult qp = some c →
      c.tradeFee.toNat + c.ownerFee.toNat < 2 ^ 128 ∧
      (∃ n, c.sourceAmountSwapped.toU64? = some n) ∧
      (∃ n, c.destinationAmountSwapped.toU64? = some n) ∧
      ∃ n, (c.tradeFee + c.ownerFee).toU64? = some n) ∧
    (⟨(amm.run calls).state.fees⟩ : Fees).feePct crates ≠ none ∧
    (((amm.run calls).quote qp).IsErr ↔ (amm.run calls).curveResult qp = none) ∧
    (∀ message, (amm.run calls).quote qp ≠ .error (.panic message)) ∧
    ∀ q, (amm.run calls).quote qp = .ok q →
      q.feeAmount ≤ q.inAmount ∧ q.inAmount ≤ qp.amount ∧
      q.outAmount.toNat ≤ (if qp.inputMint = (amm.run calls).reserveMints.1
        then (amm.run calls).reserves.2 else (amm.run calls).reserves.1).toNat ∧
      (amm.lastSuccessfulUpdate calls = none → q.outAmount = 0) := by
  have hfit := reservesFit_run hread hamm calls
  refine ⟨?_, hdecimal.feePct_ne_none _, ⟨?_, fun hc => ⟨_, quote_of_none hc⟩⟩, ?_, ?_⟩
  · intro c hc
    obtain ⟨hin, hout, hfee⟩ := curveResult_lt hswap hfit hc
    have hsum : (c.tradeFee + c.ownerFee).toNat < 2 ^ 64 := by
      rw [BitVec.toNat_add]
      omega
    exact ⟨by omega, ⟨_, U128.toU64?_of_lt hin⟩, ⟨_, U128.toU64?_of_lt hout⟩,
      ⟨_, U128.toU64?_of_lt hsum⟩⟩
  · rintro ⟨e, he⟩
    by_contra hc
    obtain ⟨c, hc⟩ := Option.ne_none_iff_exists'.1 hc
    obtain ⟨q, hq⟩ := quote_of_curveResult hswap hfit hc hdecimal
    rw [hq] at he
    cases he
  · intro message hpanic
    cases hc : (amm.run calls).curveResult qp with
    | none =>
      rw [quote_of_none hc] at hpanic
      cases hpanic
    | some c =>
      obtain ⟨q, hq⟩ := quote_of_curveResult hswap hfit hc hdecimal
      rw [hq] at hpanic
      cases hpanic
  · intro q hq
    obtain ⟨c, hc, -, hin, hout, hfee⟩ := quote_eq_ok hq
    obtain ⟨hfees, hsource, hdestination⟩ := hswap hc
    rw [U128.toNat_ofU64] at hsource
    have hreserve : q.outAmount.toNat ≤ (if qp.inputMint = (amm.run calls).reserveMints.1
        then (amm.run calls).reserves.2 else (amm.run calls).reserves.1).toNat := by
      unfold side at hdestination
      split at hdestination
      · next h => rw [if_pos h, hout]; exact hdestination
      · next h => rw [if_neg h, hout]; exact hdestination
    refine ⟨?_, ?_, hreserve, ?_⟩
    · rw [UInt64.le_iff_toNat_le]
      omega
    · rw [UInt64.le_iff_toNat_le]
      omega
    · intro hnever
      obtain ⟨-, -, -, hzero⟩ := fromKeyedAccount_eq_ok hamm
      rw [reserves_run_of_none hread amm calls hnever, hzero] at hreserve
      have : q.outAmount.toNat ≤ 0 := by simpa using hreserve
      exact UInt64.toNat_inj.1 (by simpa using this)

end

section
open Reference

/-- The example pool quotes wherever its curve answers. -/
theorem quote_pool_of_curveResult {r : UInt64 × UInt64} {qp : QuoteParams}
    (h : (pool.withReserves r).curveResult qp ≠ none) :
    ∃ q, (pool.withReserves r).quote qp = .ok q := by
  obtain ⟨c, hc⟩ := Option.ne_none_iff_exists'.1 h
  exact quote_of_curveResult swapStaysWithin_referenceCrates (reservesFit_withReserves pool r) hc
    decimalLaws_referenceCrates

/-- The example pool after an update. -/
theorem run_pool : pool.run [.update chain] = pool.withReserves (balanceA, balanceB) := by
  rw [run_cons, run_nil, Call.run, RustM.after, update_pool]

/-- The example pool quotes after an update. -/
theorem quote_pool :
    ∃ q, (pool.run [.update chain]).quote (quoteParams mintA mintB 1000000) = .ok q := by
  rw [run_pool]
  exact quote_pool_of_curveResult (by decide +kernel)

/-- A quote of the example pool stays within the request and the balance of the other side. -/
theorem quote_arithmetic_safe_pool :
    ∃ q, (pool.run [.update chain]).quote (quoteParams mintA mintB 1000000) = .ok q ∧
      q.feeAmount ≤ q.inAmount ∧ q.inAmount ≤ 1000000 ∧
      q.outAmount.toNat ≤ (pool.run [.update chain]).reserves.2.toNat := by
  obtain ⟨q, hq⟩ := quote_pool
  obtain ⟨-, -, -, -, hbounds⟩ := quote_arithmetic_safe readsAccountMap
    swapStaysWithin_referenceCrates fromKeyedAccount_pool [.update chain]
    decimalLaws_referenceCrates (quoteParams mintA mintB 1000000)
  obtain ⟨hfee, hin, hout, -⟩ := hbounds q hq
  have hmint : (quoteParams mintA mintB 1000000).inputMint =
      (pool.run [.update chain]).reserveMints.1 := by
    rw [reserveMints_run readsAccountMap]
    rfl
  rw [if_pos hmint] at hout
  exact ⟨q, hq, hfee, hin, hout⟩

end

/-- **The reported fee rate and the reported fee amount agree.** Whatever the fee parameters, the
curve, the reserves and the amount, the rate of a quote is the sum of the two fees as rates, and
its fee amount is less than two tokens away from the amount at that rate. -/
theorem feeAmount_near_feePct {value : crates.Decimal → ℚ} (hdecimal : crates.ExactDecimals value)
    (hfees : crates.ChargesFees) {self : SplTokenSwapAmm crates} {qp : QuoteParams}
    {q : Quote crates} (hq : self.quote qp = .ok q) :
    value q.feePct =
      feeRate self.state.fees.tradeFeeNumerator self.state.fees.tradeFeeDenominator +
        feeRate self.state.fees.ownerTradeFeeNumerator self.state.fees.ownerTradeFeeDenominator ∧
    |(q.feeAmount.toNat : ℚ) - qp.amount.toNat * value q.feePct| < 2 := by
  obtain ⟨c, hc, hpct, -, -, hfee⟩ := quote_eq_ok hq
  have hrate := hdecimal.feePct hpct
  obtain ⟨htrade, howner⟩ := hfees hc
  rw [U128.toNat_ofU64] at htrade howner
  refine ⟨hrate, ?_⟩
  rw [hrate, hfee]
  have htrade := abs_lt.1 (fee_near_rate htrade)
  have howner := abs_lt.1 (fee_near_rate howner)
  push_cast
  rw [mul_add, abs_lt]
  constructor
  · linarith [htrade.1, howner.1]
  · linarith [htrade.2, howner.2]

open Reference in
/-- A quote of the example pool, whose two fees are 25 and 5 basis points. -/
theorem feeAmount_near_feePct_pool :
    ∃ q, (pool.run [.update chain]).quote (quoteParams mintA mintB 1000000) = .ok q ∧
      |(q.feeAmount.toNat : ℚ) - 1000000 * q.feePct| < 2 := by
  obtain ⟨q, hq⟩ := quote_pool
  obtain ⟨-, hnear⟩ := feeAmount_near_feePct exactDecimals_referenceCrates
    chargesFees_referenceCrates hq
  exact ⟨q, hq, hnear⟩

end SplTokenSwapAmm

end JupiterAmm
