import JupiterAmm.SplTokenSwap.Update
import JupiterAmm.Refresh

/-!
# Runs of an AMM

An AMM is made by `from_keyed_account` and then lives through any sequence of updates, which may
fail, and clones. Such a run refines a value refreshed from fallible reads
(`run_eq_refresh`): only the reserves move, and they are what the most recent successful update
read (`reserves_run`). So the reserve `quote` takes for the source is the balance of the account
that `get_swap_and_account_metas` names as the source, although the two functions decide the
direction from different fields (`quote_prices_swap`).
-/

namespace JupiterAmm

open Rust

namespace SplTokenSwapAmm

variable {crates : Crates}

/-! ## Runs -/

/-- A call in the life of an AMM. -/
inductive Call where
  /-- `update` with this map. The AMM stays in use whether it succeeds or fails. -/
  | update (accountMap : AccountMap)
  /-- `clone_amm`. The run goes on with the clone. -/
  | cloneAmm

/-- The AMM after a call. -/
def Call.run (self : SplTokenSwapAmm crates) : Call → SplTokenSwapAmm crates
  | .update accountMap => (SplTokenSwapAmm.update accountMap).after self
  | .cloneAmm => self.clone

/-- The AMM after a sequence of calls. -/
def run (self : SplTokenSwapAmm crates) (calls : List Call) : SplTokenSwapAmm crates :=
  calls.foldl Call.run self

/-- The account map of the most recent update of a run that succeeded. -/
def lastSuccessfulUpdate (self : SplTokenSwapAmm crates) : List Call → Option AccountMap
  | [] => none
  | .cloneAmm :: calls => lastSuccessfulUpdate self.clone calls
  | .update accountMap :: calls =>
    (lastSuccessfulUpdate ((SplTokenSwapAmm.update accountMap).after self) calls).or
      (match SplTokenSwapAmm.update accountMap self with
        | .ok _ _ => some accountMap
        | .error _ _ => none)

@[simp] theorem run_nil (self : SplTokenSwapAmm crates) : self.run [] = self := rfl

@[simp] theorem run_cons (self : SplTokenSwapAmm crates) (call : Call) (calls : List Call) :
    self.run (call :: calls) = (call.run self).run calls := rfl

/-! ## The abstract run -/

/-- The account maps a run passes to `update`. -/
def updates : List Call → List AccountMap
  | [] => []
  | .cloneAmm :: calls => updates calls
  | .update accountMap :: calls => accountMap :: updates calls

/-- What an update reads of a map: the reserves it will store. -/
def readReserves (self : SplTokenSwapAmm crates) (accountMap : AccountMap) :
    Option (U128 × U128) :=
  (self.reservesIn accountMap).map fun r => (.ofU64 r.1, .ofU64 r.2)

/-- The AMM after an update: its reserves are refreshed from the map. -/
theorem after_update (hread : crates.ReadsAccountMap) (m : AccountMap)
    (self : SplTokenSwapAmm crates) :
    (update m).after self =
      { self with reserves := Refresh.step self.readReserves self.reserves m } := by
  rcases update_eq hread m self with ⟨r, hr, hu⟩ | ⟨hr, e, hu⟩
  · simp only [RustM.after, hu, Refresh.step, readReserves, hr, Option.map_some, Option.getD_some]
    rfl
  · simp only [RustM.after, hu, Refresh.step, readReserves, hr, Option.map_none, Option.getD_none]

/-- **A run refines the refresh of a cached value.** The reserves are the cache, the account maps
are the sources, and nothing else of the AMM moves. -/
theorem run_eq_refresh (hread : crates.ReadsAccountMap) (calls : List Call)
    (self : SplTokenSwapAmm crates) :
    self.run calls =
      { self with
        reserves := Refresh.run self.readReserves self.reserves (updates calls) } := by
  induction calls generalizing self with
  | nil => rfl
  | cons call calls ih =>
    cases call with
    | cloneAmm =>
      rw [run_cons, Call.run, clone_eq, ih]
      rfl
    | update m =>
      rw [run_cons, Call.run, ih, after_update hread]
      rfl

/-- The most recent successful update of a run is the most recent good source of its refresh. -/
theorem lastSuccessfulUpdate_eq_latest (hread : crates.ReadsAccountMap) (calls : List Call)
    (self : SplTokenSwapAmm crates) :
    self.lastSuccessfulUpdate calls = Refresh.latest self.readReserves (updates calls) := by
  induction calls generalizing self with
  | nil => rfl
  | cons call calls ih =>
    cases call with
    | cloneAmm =>
      rw [lastSuccessfulUpdate, clone_eq, ih]
      rfl
    | update m =>
      have htail := ih ((update m).after self)
      rw [after_update hread] at htail
      rw [lastSuccessfulUpdate, after_update hread, htail, updates, Refresh.latest]
      rcases update_eq hread m self with ⟨r, hr, hu⟩ | ⟨hr, e, hu⟩
      · rw [hu, readReserves, hr]
        rfl
      · rw [hu, readReserves, hr]
        rfl

section
variable (hread : crates.ReadsAccountMap) (self : SplTokenSwapAmm crates) (calls : List Call)
include hread

theorem state_run : (self.run calls).state = self.state := by
  rw [run_eq_refresh hread]

theorem reserveMints_run : (self.run calls).reserveMints = self.reserveMints := by
  rw [run_eq_refresh hread]

/-- After a run in which an update succeeded, the reserves are the two balances the map of the most
recent such update has. -/
theorem reserves_run {m : AccountMap} (h : self.lastSuccessfulUpdate calls = some m) :
    ∃ r, self.reservesIn m = some r ∧
      (self.run calls).reserves = (.ofU64 r.1, .ofU64 r.2) := by
  rw [lastSuccessfulUpdate_eq_latest hread] at h
  have hsome := Refresh.isSome_of_latest _ h
  obtain ⟨v, hv⟩ := Option.isSome_iff_exists.1 hsome
  obtain ⟨r, hr, rfl⟩ := Option.map_eq_some_iff.1 hv
  refine ⟨r, hr, ?_⟩
  rw [run_eq_refresh hread]
  exact Refresh.run_of_latest _ h hv _

/-- After a run in which no update succeeded, the reserves are what they were. -/
theorem reserves_run_of_none (h : self.lastSuccessfulUpdate calls = none) :
    (self.run calls).reserves = self.reserves := by
  rw [lastSuccessfulUpdate_eq_latest hread] at h
  rw [run_eq_refresh hread]
  exact Refresh.run_of_latest_none _ h _

end

/-! ## A fresh AMM -/

/-- What `from_keyed_account` makes of an account: the reserve mints mirror the state it unpacked,
and the reserves are zero. -/
theorem fromKeyedAccount_eq_ok {keyedAccount : KeyedAccount crates.Value}
    {amm : SplTokenSwapAmm crates} (h : fromKeyedAccount keyedAccount = .ok amm) :
    amm.key = keyedAccount.key ∧ amm.programId = keyedAccount.account.owner ∧
      amm.reserveMints = (amm.state.tokenAMint, amm.state.tokenBMint) ∧
      amm.reserves = (0, 0) := by
  unfold fromKeyedAccount at h
  simp only [Outcome.bind_ok] at h
  obtain ⟨data, -, state, -, label, -, hamm⟩ := h
  cases hamm
  exact ⟨rfl, rfl, rfl, rfl⟩

/-! ## Quotes along a run -/

/-- The price of a swap of the pool between two reserves: the quote, or the error, that
`get_swap_curve_result` gives on the pool's curve and fees. -/
def price (self : SplTokenSwapAmm crates) (quoteParams : QuoteParams)
    (direction : TradeDirection) (source destination : U128) : crates.Result (Quote crates) :=
  getSwapCurveResult crates self.state.swapCurve quoteParams.amount source destination direction
    self.state.fees >>= quoteOfSwapResult quoteParams.inputMint

/-- The direction and the reserves `quote` picks for an input mint: the source reserve, then the
destination reserve. -/
def side (self : SplTokenSwapAmm crates) (inputMint : Pubkey) : TradeDirection × U128 × U128 :=
  if inputMint = self.reserveMints.1 then (.aToB, self.reserves.1, self.reserves.2)
  else (.bToA, self.reserves.2, self.reserves.1)

/-- `quote` prices the swap between the reserves of the side it picks. -/
theorem quote_eq_price (self : SplTokenSwapAmm crates) (qp : QuoteParams) :
    self.quote qp = self.price qp (self.side qp.inputMint).1 (self.side qp.inputMint).2.1
      (self.side qp.inputMint).2.2 := rfl

/-- The accounts of the swap instruction at its slots 6 and 7. -/
theorem getSwapAndAccountMetas_slots (self : SplTokenSwapAmm crates) (sp : SwapParams) :
    ∃ swap, self.getSwapAndAccountMetas sp = .ok swap ∧
      swap.accountMetas[6]? = some (.new
        (if sp.sourceMint = self.state.tokenAMint then self.state.tokenA else self.state.tokenB)
        false) ∧
      swap.accountMetas[7]? = some (.new
        (if sp.sourceMint = self.state.tokenAMint then self.state.tokenB else self.state.tokenA)
        false) := by
  unfold getSwapAndAccountMetas
  by_cases h : sp.sourceMint = self.state.tokenAMint
  · simp only [if_pos h]
    exact ⟨_, rfl, rfl, rfl⟩
  · simp only [if_neg h]
    exact ⟨_, rfl, rfl, rfl⟩

/-- **The quote prices exactly the swap that the instruction executes.** On every run from
`from_keyed_account` in which an update succeeded, the accounts at the slots `swap_source` and
`swap_destination` have a balance in the map of the most recent successful update, and `quote` is
the price of the pool between these two balances, in the direction that takes from the former. -/
theorem quote_prices_swap (hread : crates.ReadsAccountMap)
    {keyedAccount : KeyedAccount crates.Value} {amm : SplTokenSwapAmm crates}
    (hamm : fromKeyedAccount keyedAccount = .ok amm) (htokens : amm.state.tokenA ≠ amm.state.tokenB)
    {calls : List Call} {m : AccountMap} (hm : amm.lastSuccessfulUpdate calls = some m)
    {quoteParams : QuoteParams} {swapParams : SwapParams}
    (hmint : swapParams.sourceMint = quoteParams.inputMint) :
    ∃ (swap : SwapAndAccountMetas crates) (S D : AccountMeta) (source destination : UInt64),
      (amm.run calls).getSwapAndAccountMetas swapParams = .ok swap ∧
      swap.accountMetas[6]? = some S ∧ swap.accountMetas[7]? = some D ∧
      tokenBalance crates m S.pubkey = some source ∧
      tokenBalance crates m D.pubkey = some destination ∧
      (amm.run calls).quote quoteParams =
        (getSwapCurveResult crates amm.state.swapCurve quoteParams.amount (.ofU64 source)
          (.ofU64 destination) (if S.pubkey = amm.state.tokenA then .aToB else .bToA)
          amm.state.fees >>= quoteOfSwapResult quoteParams.inputMint) := by
  obtain ⟨-, -, hmints, -⟩ := fromKeyedAccount_eq_ok hamm
  obtain ⟨⟨a, b⟩, hr, hreserves⟩ := reserves_run hread amm calls hm
  have hstate := state_run hread amm calls
  have hmints' : (amm.run calls).reserveMints.1 = amm.state.tokenAMint := by
    rw [reserveMints_run hread, hmints]
  -- the balances the map has at `token_a` and `token_b`
  obtain ⟨hA, hB⟩ : tokenBalance crates m amm.state.tokenA = some a ∧
      tokenBalance crates m amm.state.tokenB = some b := by
    unfold reservesIn at hr
    split at hr
    · next a' b' hA hB => cases hr; exact ⟨hA, hB⟩
    · cases hr
  obtain ⟨swap, hswap, hS, hD⟩ := getSwapAndAccountMetas_slots (amm.run calls) swapParams
  rw [hstate, hmint] at hS hD
  rw [quote_eq_price, side, hmints', hreserves]
  by_cases hin : quoteParams.inputMint = amm.state.tokenAMint
  · rw [if_pos hin] at hS hD ⊢
    refine ⟨swap, _, _, a, b, hswap, hS, hD, hA, hB, ?_⟩
    rw [AccountMeta.pubkey_new, if_pos rfl, price, hstate]
  · rw [if_neg hin] at hS hD ⊢
    refine ⟨swap, _, _, b, a, hswap, hS, hD, hB, hA, ?_⟩
    rw [AccountMeta.pubkey_new, if_neg (Ne.symm htokens), price, hstate]

section
open Reference

/-- The example pool sells its second mint, after an update that failed and one that succeeded. -/
theorem quote_prices_swap_pool :
    ∃ (swap : SwapAndAccountMetas referenceCrates) (S D : AccountMeta)
      (source destination : UInt64),
      (pool.run [.update .empty, .update chain, .cloneAmm]).getSwapAndAccountMetas
        (swapParams mintB mintA 1000000) = .ok swap ∧
      swap.accountMetas[6]? = some S ∧ swap.accountMetas[7]? = some D ∧
      tokenBalance referenceCrates chain S.pubkey = some source ∧
      tokenBalance referenceCrates chain D.pubkey = some destination ∧
      (pool.run [.update .empty, .update chain, .cloneAmm]).quote
          (quoteParams mintB mintA 1000000) =
        (getSwapCurveResult referenceCrates pool.state.swapCurve 1000000 (.ofU64 source)
          (.ofU64 destination) (if S.pubkey = pool.state.tokenA then .aToB else .bToA)
          pool.state.fees >>= quoteOfSwapResult mintB) := by
  have hlast : pool.lastSuccessfulUpdate [.update .empty, .update chain, .cloneAmm] =
      some chain := by
    rw [lastSuccessfulUpdate_eq_latest readsAccountMap, updates, updates, updates, updates,
      Refresh.latest, Refresh.latest, readReserves, reservesIn_pool]
    rfl
  exact quote_prices_swap readsAccountMap fromKeyedAccount_pool (by decide +kernel) hlast rfl

end

end SplTokenSwapAmm

end JupiterAmm
