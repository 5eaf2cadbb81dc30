import JupiterAmm.Math

/-!
# The SPL token swap AMM

`SplTokenSwapAmm` and its implementation of the trait `Amm`: reading a pool's account, updating the
two reserves from an account map, quoting, and naming the accounts of the swap instruction. The two
arrays of the source are pairs here, their entries `0` and `1` the components.
-/

namespace JupiterAmm

open Rust

/-! ## The swap programs -/

namespace SplTokenSwapPrograms

def orcaV1 : Pubkey := pubkey "DjVE6JNiYqPL2QXyCUUh8rNjHrbz9hXHNYt99MQ59qw1"
def orcaV2 : Pubkey := pubkey "9W959DqEETiGZocYWCQPaJ6sBmUzgfxXfqGeTEdp3aQP"
def stepn : Pubkey := pubkey "Dooar9JkhdZ7J3LHN3A7YCuoGRUggXhQaG4kijfLGU2j"
def saros : Pubkey := pubkey "SSwapUtytfBdBn1b9NUGG6foMVPtcWgpRU32HToDUZr"
def penguin : Pubkey := pubkey "PSwapMdSai8tjrEXcxFeQth87xC4rRsa4VA5mhGhXkP"

end SplTokenSwapPrograms

/-- `SPL_TOKEN_SWAP_PROGRAMS`: the programs whose pools the AMM reads, with their labels. -/
def splTokenSwapPrograms : HashMap Pubkey String :=
  .ofList [
    (SplTokenSwapPrograms.orcaV1, "Orca v1"),
    (SplTokenSwapPrograms.orcaV2, "Orca v2"),
    (SplTokenSwapPrograms.stepn, "StepN"),
    (SplTokenSwapPrograms.saros, "Saros"),
    (SplTokenSwapPrograms.penguin, "Penguin")]

/-! ## The accounts of the swap instruction -/

/-- `account_meta_from_token_swap::TokenSwap`. -/
structure TokenSwap where
  tokenSwapProgram : Pubkey
  tokenProgram : Pubkey
  swap : Pubkey
  authority : Pubkey
  userTransferAuthority : Pubkey
  source : Pubkey
  swapSource : Pubkey
  swapDestination : Pubkey
  destination : Pubkey
  poolMint : Pubkey
  poolFee : Pubkey

/-- `From<TokenSwap> for Vec<AccountMeta>`. -/
def TokenSwap.toAccountMetas (accounts : TokenSwap) : List AccountMeta :=
  [ .newReadonly accounts.tokenSwapProgram false,
    .newReadonly accounts.tokenProgram false,
    .newReadonly accounts.swap false,
    .newReadonly accounts.authority false,
    .newReadonly accounts.userTransferAuthority false,
    .new accounts.source false,
    .new accounts.swapSource false,
    .new accounts.swapDestination false,
    .new accounts.destination false,
    .new accounts.poolMint false,
    .new accounts.poolFee false ]

/-! ## The AMM -/

/-- `SplTokenSwapAmm`. -/
structure SplTokenSwapAmm (crates : Crates) where
  key : Pubkey
  label : String
  state : SwapV1 crates.CurveType crates.Calculator
  reserveMints : Pubkey × Pubkey
  reserves : U128 × U128
  programId : Pubkey

namespace SplTokenSwapAmm

variable {crates : Crates}

/-- `SplTokenSwapAmm::get_authority`. -/
def getAuthority (self : SplTokenSwapAmm crates) : Pubkey :=
  crates.findProgramAddress [self.key.toBytes] self.programId

/-- `Clone for SplTokenSwapAmm`, which copies the state field by field. -/
def clone (self : SplTokenSwapAmm crates) : SplTokenSwapAmm crates where
  key := self.key
  label := self.label
  state := {
    isInitialized := self.state.isInitialized
    bumpSeed := self.state.bumpSeed
    tokenProgramId := self.state.tokenProgramId
    tokenA := self.state.tokenA
    tokenB := self.state.tokenB
    poolMint := self.state.poolMint
    tokenAMint := self.state.tokenAMint
    tokenBMint := self.state.tokenBMint
    poolFeeAccount := self.state.poolFeeAccount
    fees := self.state.fees
    swapCurve := {
      curveType := self.state.swapCurve.curveType
      calculator := self.state.swapCurve.calculator } }
  reserveMints := self.reserveMints
  programId := self.programId
  reserves := self.reserves

/-- `SplTokenSwapAmm::from_keyed_account`. -/
def fromKeyedAccount (keyedAccount : KeyedAccount crates.Value) :
    crates.Result (SplTokenSwapAmm crates) := do
  -- skip the first byte, which holds the version
  let data ← sliceFrom 1 keyedAccount.account.data
  let state ← ofExcept (crates.swapV1Unpack data)
  let label ← unwrap (splTokenSwapPrograms keyedAccount.account.owner)
  pure {
    key := keyedAccount.key
    label
    state
    reserveMints := (state.tokenAMint, state.tokenBMint)
    programId := keyedAccount.account.owner
    reserves := (0, 0) }

/-- `SplTokenSwapAmm::get_reserve_mints`. -/
def getReserveMints (self : SplTokenSwapAmm crates) : List Pubkey :=
  [self.reserveMints.1, self.reserveMints.2]

/-- `SplTokenSwapAmm::get_accounts_to_update`. -/
def getAccountsToUpdate (self : SplTokenSwapAmm crates) : List Pubkey :=
  [self.state.tokenA, self.state.tokenB]

/-- `SplTokenSwapAmm::update`. -/
def update (accountMap : AccountMap) : RustM crates.Error (SplTokenSwapAmm crates) Unit := do
  let self ← get
  let tokenAAccount ← ofExcept (crates.tryGetAccountData accountMap self.state.tokenA)
  let tokenATokenAccount ← ofExcept (crates.tokenAccountUnpack tokenAAccount)
  let tokenBAccount ← ofExcept (crates.tryGetAccountData accountMap self.state.tokenB)
  let tokenBTokenAccount ← ofExcept (crates.tokenAccountUnpack tokenBAccount)
  set { self with
    reserves := (.ofU64 tokenATokenAccount.amount, .ofU64 tokenBTokenAccount.amount) }

/-- The last statement of `quote`: the curve's amounts, narrowed to `u64`. -/
def quoteOfSwapResult (inputMint : Pubkey) (swapResult : SwapResult crates) :
    crates.Result (Quote crates) := do
  let error := crates.anyhow "out of range integral type conversion attempted"
  let inAmount ← okOr error swapResult.inputAmount.toU64?
  let outAmount ← okOr error swapResult.expectedOutputAmount.toU64?
  let feeAmount ← okOr error swapResult.fees.toU64?
  pure { feePct := swapResult.feePct, inAmount, outAmount, feeAmount, feeMint := inputMint }

/-- `SplTokenSwapAmm::quote`. -/
def quote (self : SplTokenSwapAmm crates) (quoteParams : QuoteParams) :
    crates.Result (Quote crates) := do
  let (tradeDirection, swapSourceAmount, swapDestinationAmount) :=
    if quoteParams.inputMint = self.reserveMints.1 then
      (TradeDirection.aToB, self.reserves.1, self.reserves.2)
    else
      (TradeDirection.bToA, self.reserves.2, self.reserves.1)
  let swapResult ← getSwapCurveResult crates self.state.swapCurve quoteParams.amount
    swapSourceAmount swapDestinationAmount tradeDirection self.state.fees
  quoteOfSwapResult quoteParams.inputMint swapResult

/-- `SplTokenSwapAmm::get_swap_and_account_metas`. -/
def getSwapAndAccountMetas (self : SplTokenSwapAmm crates) (swapParams : SwapParams) :
    crates.Result (SwapAndAccountMetas crates) :=
  let (swapSource, swapDestination) :=
    if swapParams.sourceMint = self.state.tokenAMint then
      (self.state.tokenA, self.state.tokenB)
    else
      (self.state.tokenB, self.state.tokenA)
  .ok {
    swap := crates.swapTokenSwap
    accountMetas := TokenSwap.toAccountMetas {
      tokenSwapProgram := self.programId
      tokenProgram := splTokenId
      swap := self.key
      authority := self.getAuthority
      userTransferAuthority := swapParams.tokenTransferAuthority
      source := swapParams.sourceTokenAccount
      destination := swapParams.destinationTokenAccount
      poolMint := self.state.poolMint
      poolFee := self.state.poolFeeAccount
      swapDestination
      swapSource } }

/-- The pool's part of a swap instruction asks for no signer. -/
theorem getSwapAndAccountMetas_signers {self : SplTokenSwapAmm crates} {swapParams : SwapParams}
    {swap : SwapAndAccountMetas crates}
    (h : self.getSwapAndAccountMetas swapParams = .ok swap) :
    swap.accountMetas.filter (·.isSigner) = [] := by
  obtain rfl := Except.ok.inj h
  rfl

/-- `Amm for SplTokenSwapAmm`. The trait's default answers `unidirectional`. -/
instance : Amm crates (SplTokenSwapAmm crates) where
  getReserveMints := getReserveMints
  getAccountsToUpdate := getAccountsToUpdate
  update := update
  quote := quote
  getSwapAndAccountMetas := getSwapAndAccountMetas
  unidirectional _ := false

/-- The hand-written clone copies everything. -/
@[simp] theorem clone_eq (self : SplTokenSwapAmm crates) : self.clone = self := rfl

end SplTokenSwapAmm

/-- `loader::amm_factory`. -/
def ammFactory {crates : Crates} (keyedAccount : KeyedAccount crates.Value) :
    crates.Result (SplTokenSwapAmm crates) :=
  let owner := keyedAccount.account.owner
  if splTokenSwapPrograms.containsKey owner then
    SplTokenSwapAmm.fromKeyedAccount keyedAccount
  else
    .error (.err (crates.anyhow ("Unsupported pool " ++ crates.pubkeyToString keyedAccount.key ++
      ", from owner " ++ crates.pubkeyToString keyedAccount.account.owner)))

end JupiterAmm
