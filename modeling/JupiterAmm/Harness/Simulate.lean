import JupiterAmm.Harness.Basic
import JupiterAmm.BuildSwap.Accounts
import JupiterAmm.SplTokenSwap.Quote

/-!
# Comparing a quote with a simulated swap

`assert_quote_matches_simulated_swap` halves an amount until the AMM quotes it, sends a swap of that
amount to a simulated bank, and compares the quote with what the balances moved. An error is
expected of the attempt that was sent, but the error compared is the last one the retry loop saw:
where an attempt was refused and the next one quoted, an error of the former passes for one of the
latter. `sound_iff` says that this is the only way the comparison passes when it should not.

The bank is its outcome: how it answers the one transaction of a run, and the balances it leaves. A
transaction is signed by the payer and the user, so a swap that asks for another signer is not sent.
-/

namespace JupiterAmm

open Rust Borsh

/-! ## The simulated bank -/

/-- `ProgramTestContext`: the payer of its transactions, the token accounts of the bank, and the
transactions it was sent. -/
structure ProgramTestContext where
  payer : Pubkey
  tokenAccounts : HashMap Pubkey TokenAccount
  transactions : List (List Instruction)

/-- How the bank answers the next transaction, and the token accounts it leaves. -/
structure Simulation (BanksClientError : Type) where
  result : Except BanksClientError Unit
  tokenAccounts : HashMap Pubkey TokenAccount

/-- `ProgramTestAuthority`. -/
structure ProgramTestAuthority where
  id : UInt8
  pubkey : Pubkey
  mintToAtaWithProgramId : HashMap Pubkey (Pubkey × Pubkey)

/-- `ProgramTestUser`, with the public key of its key pair. -/
structure ProgramTestUser where
  pubkey : Pubkey
  mintToAtaWithProgramId : HashMap Pubkey (Pubkey × Pubkey)

/-- `AmmTestHarnessProgramTest`, less its context, which is the state of its methods. -/
structure AmmTestHarnessProgramTest where
  programTestAuthority : ProgramTestAuthority
  programTestUser : ProgramTestUser

/-- `AmmTestSwapParams`. -/
structure AmmTestSwapParams (crates : Crates) (α : Type) where
  amm : α
  sourceMint : Pubkey
  destinationMint : Pubkey
  swapMode : SwapMode
  tolerance : UInt64
  useSharedAccounts : Bool
  expectedError : Option crates.Error

/-- `spl_token_2022::ID`. -/
def splToken2022Id : Pubkey := pubkey "TokenzQdBNbLqP5VEhdkAS6EPFLC1PHnBqCXEpPxuEb"

section
variable {crates : Crates}

/-- `AmmTestHarnessProgramTest::get_token_account`. -/
def getTokenAccount (address : Pubkey) : RustM crates.Error ProgramTestContext TokenAccount := do
  let context ← get
  (unwrap (context.tokenAccounts address) : crates.Result TokenAccount)

/-- `AmmTestHarnessProgramTest::process_transaction`, with the blockhash left to the bank. A
transaction that the payer and the given keys do not sign is a panic, not an error of the bank. -/
def processTransaction {BanksClientError : Type} (simulation : Simulation BanksClientError)
    (instructions : List Instruction) (signers : List Pubkey) :
    RustM crates.Error ProgramTestContext (Except BanksClientError Unit) := do
  let context ← get
  let allSigners := context.payer :: signers
  (crates.newSignedWithPayer instructions context.payer allSigners : crates.Result Unit)
  set { context with
    tokenAccounts := simulation.tokenAccounts
    transactions := context.transactions ++ [instructions] }
  pure simulation.result

/-! ## The retry loop -/

/-- The variables the retry loop carries. -/
structure Attempts (crates : Crates) where
  amount : UInt64
  quoteCount : Nat
  quoteResult : Option (Quote crates)
  quoteErr : Option crates.Error

/-- The body of the retry loop. -/
def Attempts.step (quote : UInt64 → crates.Result (Quote crates)) (s : Attempts crates) :
    crates.Result (Attempts crates) :=
  let amount := s.amount / 2
  match quote amount with
  | .ok q => .ok { s with amount, quoteResult := some q, quoteCount := s.quoteCount + 1 }
  | .error (.err e) => .ok { s with amount, quoteErr := some e, quoteCount := s.quoteCount + 1 }
  | .error (.panic message) => .error (.panic message)

/-- The retry loop `while quote_result.is_none() && quote_count < 10`, with fuel for its iterations.
It counts up to ten, so ten units are enough. -/
def Attempts.loop (quote : UInt64 → crates.Result (Quote crates)) :
    Nat → Attempts crates → crates.Result (Attempts crates)
  | 0, s => .ok s
  | fuel + 1, s =>
    if s.quoteResult.isNone ∧ s.quoteCount < 10 then do
      let s ← s.step quote
      loop quote fuel s
    else
      .ok s

end

section
variable {crates : Crates} {α : Type} [Amm crates α]

/-! ## Preparing the swap -/

/-- `amm.quote` at an amount. -/
def AmmTestSwapParams.quote (p : AmmTestSwapParams crates α) (amount : UInt64) :
    crates.Result (Quote crates) :=
  Amm.quote p.amm {
    amount
    inputMint := p.sourceMint
    outputMint := p.destinationMint
    swapMode := p.swapMode }

/-- The amount the retry loop starts from. -/
def AmmTestSwapParams.initialAmount (tables : TokenTables) (p : AmmTestSwapParams crates α) :
    Option UInt64 :=
  match p.swapMode with
  | .exactIn => tables.tokenMintToInAmount p.sourceMint
  | .exactOut => tables.tokenMintToOutAmount p.destinationMint

/-- The associated token accounts of the user and of the program authority. -/
structure TokenAccounts where
  userSource : Pubkey
  userDestination : Pubkey
  programSource : Pubkey
  programDestination : Pubkey
  deriving DecidableEq

namespace AmmTestHarnessProgramTest

/-- The token accounts of a swap. -/
def tokenAccounts (self : AmmTestHarnessProgramTest) (p : AmmTestSwapParams crates α) :
    Option TokenAccounts := do
  let userSource ← self.programTestUser.mintToAtaWithProgramId p.sourceMint
  let userDestination ← self.programTestUser.mintToAtaWithProgramId p.destinationMint
  let programSource ← self.programTestAuthority.mintToAtaWithProgramId p.sourceMint
  let programDestination ← self.programTestAuthority.mintToAtaWithProgramId p.destinationMint
  some ⟨userSource.1, userDestination.1, programSource.1, programDestination.1⟩

variable (tables : TokenTables) (self : AmmTestHarnessProgramTest)
  (p : AmmTestSwapParams crates α) (accounts : TokenAccounts)

/-- The mint is one of `TOKEN2022_MINT_AND_IN_AMOUNT`. -/
def isToken2022 (mint : Pubkey) : Bool :=
  tables.token2022MintAndInAmount.any fun entry => entry.1 = mint

/-- `source_token_account`. -/
def sourceTokenAccount : Pubkey :=
  if !p.useSharedAccounts || isToken2022 tables p.sourceMint then accounts.userSource
  else accounts.programSource

/-- `destination_token_account`. -/
def destinationTokenAccount : Pubkey :=
  if !p.useSharedAccounts || isToken2022 tables p.destinationMint then accounts.userDestination
  else accounts.programDestination

/-- `token_authority`. -/
def tokenAuthority : Pubkey :=
  if !p.useSharedAccounts || isToken2022 tables p.sourceMint then self.programTestUser.pubkey
  else self.programTestAuthority.pubkey

/-- The arguments of `build_swap_accounts`. -/
def accountsParams : BuildSwapAccountsParams where
  useSharedAccounts := p.useSharedAccounts
  swapMode := p.swapMode
  user := self.programTestUser.pubkey
  programAuthority := self.programTestAuthority.pubkey
  userSourceTokenAccount := accounts.userSource
  sourceTokenAccount := sourceTokenAccount tables p accounts
  userDestinationTokenAccount := accounts.userDestination
  destinationTokenAccount := destinationTokenAccount tables p accounts
  destinationTokenProgram := splTokenId
  inputMint := p.sourceMint
  outputMint := p.destinationMint
  tokenLedger := none
  platformFeeAccount := none
  optionalDestinationTokenAccount := none
  token2022Program := some splToken2022Id

/-- `swap_params`. -/
def swapParams (amount : UInt64) : SwapParams where
  swapMode := p.swapMode
  sourceMint := p.sourceMint
  destinationMint := p.destinationMint
  sourceTokenAccount := sourceTokenAccount tables p accounts
  destinationTokenAccount := destinationTokenAccount tables p accounts
  tokenTransferAuthority := tokenAuthority tables self p
  quoteMintToReferrer := none
  inAmount := amount
  outAmount := amount
  jupiterProgramId := jupiterId
  missingDynamicAccountsAsDefault := false

/-- The arguments of `build_swap_instruction_data`. -/
def dataParams (swap : crates.Swap) (amount : UInt64) : BuildSwapInstructionDataParams crates where
  useSharedAccounts := p.useSharedAccounts
  useTokenLedger := false
  programAuthorityId := self.programTestAuthority.id
  routePlan := [{ inputIndex := 0, outputIndex := 1, percent := 100, swap }]
  amount
  quotedAmount := match p.swapMode with
    | .exactIn => 0
    | .exactOut => UInt64.ofNat (2 ^ 64 - 1)
  swapMode := p.swapMode
  platformFeeBps := 0
  slippageBps := 0

/-! ## The verdict -/

/-- The benchmark: quote the amount again, a number of times. -/
def benchmark (amount : UInt64) : Nat → crates.Result Unit
  | 0 => .ok ()
  | n + 1 => do
    let _ ← Outcome.unwrap (p.quote amount)
    benchmark amount n

/-- The comparison of the expected error with the one of the quote. -/
def assertErrorsEq (expectedError quoteErr : crates.Error) : crates.Result Unit :=
  match expectedError.anchor with
  | some error => do
    let quoteError ← unwrap quoteErr.anchor
    assert (crates.anchorErrorEq error quoteError = true)
  | none => assert (expectedError.message = quoteErr.message)

/-- The end of `assert_quote_matches_simulated_swap`, from the comparison of the errors on. -/
def verdict {BanksClientError : Type} (s : Attempts crates)
    (processTransactionResult : Except BanksClientError Unit)
    (sourceTokenAccountDiff destinationTokenAccountDiff : UInt64) : crates.Result Unit :=
  match p.expectedError with
  | some expectedError => do
    let quoteErr ← unwrap s.quoteErr
    assertErrorsEq expectedError quoteErr
    let _ ← unwrapErr processTransactionResult
    pure ()
  | none => do
    unwrapOk processTransactionResult
    let quote ← unwrap s.quoteResult
    match p.swapMode with
    | .exactIn => do
      assert ((quote.outAmount.toNat - destinationTokenAccountDiff.toNat : Int).natAbs ≤
        p.tolerance.toNat)
      benchmark p s.amount 100
    | .exactOut => do
      assert ((quote.inAmount.toNat - sourceTokenAccountDiff.toNat : Int).natAbs ≤
        p.tolerance.toNat)
      assert (s.amount = destinationTokenAccountDiff)
      benchmark p s.amount 100

/-- `AmmTestHarnessProgramTest::assert_quote_matches_simulated_swap`. -/
def assertQuoteMatchesSimulatedSwap {BanksClientError : Type}
    (simulation : Simulation BanksClientError) : RustM crates.Error ProgramTestContext Unit := do
  let tokenAccounts ← (unwrap (self.tokenAccounts p) : crates.Result TokenAccounts)
  let amount ← (unwrap (p.initialAmount tables) : crates.Result UInt64)
  let accounts ← Outcome.unwrap (buildSwapAccounts crates
    (accountsParams tables self p tokenAccounts))
  let s ← Attempts.loop p.quote 10
    { amount, quoteCount := 0, quoteResult := none, quoteErr := none }
  let swapAndAccountMetas ← Outcome.unwrap
    (Amm.getSwapAndAccountMetas p.amm (swapParams tables self p tokenAccounts s.amount))
  let data ← Outcome.unwrap
    (buildSwapInstructionData (dataParams self p swapAndAccountMetas.swap s.amount))
  let swapIx : Instruction := {
    programId := jupiterId
    accounts := accounts ++ swapAndAccountMetas.accountMetas
    data }
  let sourceTokenAccountBefore ← getTokenAccount tokenAccounts.userSource
  let destinationTokenAccountBefore ← getTokenAccount tokenAccounts.userDestination
  let processTransactionResult ←
    processTransaction simulation [crates.setComputeUnitLimit 1400000, swapIx]
      [self.programTestUser.pubkey]
  let sourceTokenAccountAfter ← getTokenAccount tokenAccounts.userSource
  let destinationTokenAccountAfter ← getTokenAccount tokenAccounts.userDestination
  let sourceTokenAccountDiff ← (unwrap (checkedSub sourceTokenAccountBefore.amount
    sourceTokenAccountAfter.amount) : crates.Result UInt64)
  let destinationTokenAccountDiff ← (unwrap (checkedSub destinationTokenAccountAfter.amount
    destinationTokenAccountBefore.amount) : crates.Result UInt64)
  verdict p s processTransactionResult sourceTokenAccountDiff destinationTokenAccountDiff

end AmmTestHarnessProgramTest

end

/-! ## What the retry loop leaves -/

/-- The amount of the `k`-th attempt. -/
def halved (initial : UInt64) (k : Nat) : UInt64 := UInt64.ofNat (initial.toNat / 2 ^ k)

@[simp] theorem halved_zero (initial : UInt64) : halved initial 0 = initial := by
  rw [halved, Nat.pow_zero, Nat.div_one, UInt64.ofNat_toNat]

theorem toNat_halved (initial : UInt64) (k : Nat) :
    (halved initial k).toNat = initial.toNat / 2 ^ k := by
  have hlt : initial.toNat / 2 ^ k < 2 ^ 64 :=
    Nat.lt_of_le_of_lt (Nat.div_le_self _ _) initial.toNat_lt
  exact UInt64.toNat_ofNat_of_lt hlt

theorem halved_succ (initial : UInt64) (k : Nat) :
    halved initial k / 2 = halved initial (k + 1) := by
  apply UInt64.toNat_inj.1
  rw [UInt64.toNat_div, toNat_halved, toNat_halved, Nat.pow_succ, ← Nat.div_div_eq_div_mul]
  rfl

namespace Attempts

variable {crates : Crates} (quote : UInt64 → crates.Result (Quote crates)) (initial : UInt64)

/-- The error of the `k`-th attempt, if it was refused. -/
def errorAt : Nat → Option crates.Error
  | 0 => none
  | k + 1 => match quote (halved initial (k + 1)) with
    | .error (.err e) => some e
    | _ => none

/-- The variables after `k` attempts that were all refused. -/
def refused (k : Nat) : Attempts crates := ⟨halved initial k, k, none, errorAt quote initial k⟩

/-- The variables after an attempt that was quoted: the error is the one of the attempt before. -/
def quoted (k : Nat) (q : Quote crates) : Attempts crates :=
  ⟨halved initial (k + 1), k + 1, some q, errorAt quote initial k⟩

theorem refused_zero : refused quote initial 0 = ⟨initial, 0, none, none⟩ := by
  rw [refused, halved_zero, errorAt]

variable {quote initial}

theorem errorAt_eq_some {k : Nat} {e : crates.Error} :
    errorAt quote initial k = some e ↔ 1 ≤ k ∧ quote (halved initial k) = .error (.err e) := by
  cases k with
  | zero => exact ⟨nofun, fun h => absurd h.1 (by decide)⟩
  | succ k =>
    rw [errorAt, and_iff_right (Nat.le_add_left 1 k)]
    rcases quote (halved initial (k + 1)) with (e' | message) | q <;> simp

theorem step_of_ok {k : Nat} {q : Quote crates} (h : quote (halved initial (k + 1)) = .ok q) :
    (refused quote initial k).step quote = .ok (quoted quote initial k q) := by
  simp only [step, refused, quoted, halved_succ, h]

theorem step_of_err {k : Nat} {e : crates.Error}
    (h : quote (halved initial (k + 1)) = .error (.err e)) :
    (refused quote initial k).step quote = .ok (refused quote initial (k + 1)) := by
  have herror : errorAt quote initial (k + 1) = some e :=
    errorAt_eq_some.2 ⟨Nat.le_add_left 1 k, h⟩
  simp only [step, refused, halved_succ, h, herror]

theorem step_of_panic {k : Nat} {message : String}
    (h : quote (halved initial (k + 1)) = .error (.panic message)) :
    (refused quote initial k).step quote = .error (.panic message) := by
  simp only [step, refused, halved_succ, h]

/-- The loop leaves a quoted attempt alone. -/
theorem loop_quoted (fuel k : Nat) (q : Quote crates) :
    loop quote fuel (quoted quote initial k q) = .ok (quoted quote initial k q) := by
  cases fuel with
  | zero => rfl
  | succ fuel =>
    rw [loop, if_neg]
    rintro ⟨hnone, -⟩
    cases hnone

/-- **What the loop leaves**, from any number of refused attempts on: the first attempt that is
quoted with the error of the one before it, or ten refused attempts. -/
theorem loop_refused {fuel k : Nat} (hfuel : k + fuel = 10) (s : Attempts crates) :
    loop quote fuel (refused quote initial k) = .ok s ↔
      (∃ n q, k ≤ n ∧ n < 10 ∧ (∀ j, k < j → j ≤ n → (quote (halved initial j)).IsErr) ∧
        quote (halved initial (n + 1)) = .ok q ∧ s = quoted quote initial n q) ∨
      ((∀ j, k < j → j ≤ 10 → (quote (halved initial j)).IsErr) ∧
        s = refused quote initial 10) := by
  induction fuel generalizing k with
  | zero =>
    obtain rfl : k = 10 := by omega
    rw [loop, Except.ok.injEq]
    constructor
    · rintro rfl
      exact .inr ⟨fun j hj hj' => absurd hj (by omega), rfl⟩
    · rintro (⟨n, q, hn, hn', -⟩ | ⟨-, rfl⟩)
      · omega
      · rfl
  | succ fuel ih =>
    have hcond : (refused quote initial k).quoteResult.isNone ∧
        (refused quote initial k).quoteCount < 10 := ⟨rfl, by show k < 10; omega⟩
    rw [loop, if_pos hcond]
    rcases hquote : quote (halved initial (k + 1)) with (e | message) | q
    · rw [step_of_err hquote, Outcome.ok_bind, ih (by omega)]
      have hrefused : (quote (halved initial (k + 1))).IsErr := ⟨e, hquote⟩
      -- the attempt just made joins the refused ones
      have hjoin : ∀ n, (∀ j, k < j → j ≤ n → (quote (halved initial j)).IsErr) ↔
          ∀ j, k + 1 < j → j ≤ n → (quote (halved initial j)).IsErr := by
        intro n
        constructor
        · intro h j hj hj'
          exact h j (by omega) hj'
        · intro h j hj hj'
          rcases Nat.eq_or_lt_of_le hj with rfl | hj
          · exact hrefused
          · exact h j hj hj'
      constructor
      · rintro (⟨n, q, hn, hn', h, hq, rfl⟩ | ⟨h, rfl⟩)
        · exact .inl ⟨n, q, by omega, hn', (hjoin n).2 h, hq, rfl⟩
        · exact .inr ⟨(hjoin 10).2 h, rfl⟩
      · rintro (⟨n, q, hn, hn', h, hq, rfl⟩ | ⟨h, rfl⟩)
        · rcases Nat.eq_or_lt_of_le hn with rfl | hn
          · rw [hquote] at hq
            cases hq
          · exact .inl ⟨n, q, hn, hn', (hjoin n).1 h, hq, rfl⟩
        · exact .inr ⟨(hjoin 10).1 h, rfl⟩
    · -- a panic stops the loop, and is neither a quote nor a refusal
      have hnot : ¬ (quote (halved initial (k + 1))).IsErr := by
        rintro ⟨e, he⟩
        rw [hquote] at he
        cases he
      rw [step_of_panic hquote]
      constructor
      · intro h
        cases h
      · rintro (⟨n, q, hn, hn', h, hq, -⟩ | ⟨h, -⟩)
        · rcases Nat.eq_or_lt_of_le hn with rfl | hn
          · rw [hquote] at hq
            cases hq
          · exact absurd (h (k + 1) (by omega) (by omega)) hnot
        · exact absurd (h (k + 1) (by omega) (by omega)) hnot
    · have hnot : ¬ (quote (halved initial (k + 1))).IsErr := by
        rintro ⟨e, he⟩
        rw [hquote] at he
        cases he
      rw [step_of_ok hquote, Outcome.ok_bind, loop_quoted, Except.ok.injEq]
      constructor
      · rintro rfl
        exact .inl ⟨k, q, Nat.le_refl _, by omega, fun j hj hj' => absurd hj (by omega), hquote,
          rfl⟩
      · rintro (⟨n, q', hn, hn', h, hq, rfl⟩ | ⟨h, -⟩)
        · rcases Nat.eq_or_lt_of_le hn with rfl | hn
          · rw [hquote] at hq
            cases hq
            rfl
          · exact absurd (h (k + 1) (by omega) (by omega)) hnot
        · exact absurd (h (k + 1) (by omega) (by omega)) hnot

end Attempts

/-! ## The amount an instruction carries -/

/-- Instruction data carries an amount: as the argument `in_amount` or `out_amount` of its
instruction in the interface description. -/
def CarriesAmount (data : Bytes) (amount : UInt64) : Prop :=
  ∃ ix ∈ Idl.routeInstructions, ∃ rest args, data = ix.discriminator ++ rest ∧
    ix.args.codec.decode rest = some (args, []) ∧
    (ix.args.get? args "in_amount" = some ⟨.u64, amount⟩ ∨
      ix.args.get? args "out_amount" = some ⟨.u64, amount⟩)

section
variable {crates : Crates}

/-- Which amounts the instructions without a token ledger have. -/
theorem amount_names (shared : Bool) :
    "in_amount" ∈ (routeInstruction shared false .exactIn).args.names ∧
    "out_amount" ∉ (routeInstruction shared false .exactIn).args.names ∧
    "in_amount" ∉ (routeInstruction shared false .exactOut).args.names ∧
    "out_amount" ∈ (routeInstruction shared false .exactOut).args.names := by
  cases shared <;> decide

/-- The data of a request without a token ledger carries the amount of the request, and no other. -/
theorem carriesAmount_iff {toIdl : crates.Swap → Idl.swap.denote}
    (hdisc : crates.DiscriminatorsMatchIdl) (hswap : crates.SwapMatchesIdl toIdl)
    {p : BuildSwapInstructionDataParams crates} (hledger : p.useTokenLedger = false)
    {data : Bytes} (hdata : buildSwapInstructionData p = .ok data) (amount : UInt64) :
    CarriesAmount data amount ↔ amount = p.amount := by
  obtain ⟨rest, args, rfl, hdecode, hargs⟩ := decode_buildSwapInstructionData hdisc hswap hdata
  have hcarried : (p.instruction.args.get? args "in_amount" = some ⟨.u64, amount⟩ ∨
      p.instruction.args.get? args "out_amount" = some ⟨.u64, amount⟩) ↔ amount = p.amount := by
    have hinj : ∀ x y : UInt64, (some ⟨.u64, x⟩ : Option AnyValue) = some ⟨.u64, y⟩ ↔ y = x :=
      fun x y => ⟨fun h => (AnyValue.inj h).symm, fun h => by rw [h]⟩
    have hin : p.instruction.args.get? args "in_amount" = _ := hargs.get?_eq
    have hout : p.instruction.args.get? args "out_amount" = _ := hargs.get?_eq
    obtain ⟨h₁, h₂, h₃, h₄⟩ := amount_names p.useSharedAccounts
    rw [hin, hout, BuildSwapInstructionDataParams.instruction, hledger]
    cases hmode : p.swapMode with
    | exactIn =>
      rw [if_pos h₁, if_neg h₂, argSpec, if_pos hmode]
      exact (or_iff_left fun h => by cases h).trans (hinj _ _)
    | exactOut =>
      rw [if_neg h₃, if_pos h₄, argSpec, if_pos hmode]
      exact (or_iff_right fun h => by cases h).trans (hinj _ _)
  rw [← hcarried]
  constructor
  · rintro ⟨ix, hix, rest', args', hbytes, hdecode', hamount⟩
    obtain ⟨rfl, rfl⟩ := eq_of_discriminator_append (instruction_mem p) hix hbytes
    rw [hdecode] at hdecode'
    cases hdecode'
    exact hamount
  · intro hamount
    exact ⟨p.instruction, instruction_mem p, rest, args, rfl, hdecode, hamount⟩

end

/-! ## What a comparison that passes has seen -/

section
variable {crates : Crates} {α : Type} [Amm crates α]

/-- The error of a quote is the expected one: by the equality of anchor errors, or by the text. -/
def ErrorMatches (expected e : crates.Error) : Prop :=
  match expected.anchor with
  | some error => ∃ quoteError, e.anchor = some quoteError ∧
      crates.anchorErrorEq error quoteError = true
  | none => expected.message = e.message

/-- A quote agrees with what the balances moved. -/
def QuoteAgrees (p : AmmTestSwapParams crates α) (amount : UInt64) (quote : Quote crates)
    (sourceDiff destinationDiff : UInt64) : Prop :=
  match p.swapMode with
  | .exactIn =>
    (quote.outAmount.toNat - destinationDiff.toNat : Int).natAbs ≤ p.tolerance.toNat
  | .exactOut =>
    (quote.inAmount.toNat - sourceDiff.toNat : Int).natAbs ≤ p.tolerance.toNat ∧
      amount = destinationDiff

/-- What a simulation takes from the user's source account and adds to the destination account. -/
def Moves {BanksClientError : Type} (context : ProgramTestContext)
    (simulation : Simulation BanksClientError) (accounts : TokenAccounts)
    (sourceDiff destinationDiff : UInt64) : Prop :=
  ∃ sourceBefore destinationBefore sourceAfter destinationAfter,
    context.tokenAccounts accounts.userSource = some sourceBefore ∧
    context.tokenAccounts accounts.userDestination = some destinationBefore ∧
    simulation.tokenAccounts accounts.userSource = some sourceAfter ∧
    simulation.tokenAccounts accounts.userDestination = some destinationAfter ∧
    (sourceAfter.amount ≤ sourceBefore.amount ∧
      sourceDiff = sourceBefore.amount - sourceAfter.amount) ∧
    destinationBefore.amount ≤ destinationAfter.amount ∧
    destinationDiff = destinationAfter.amount - destinationBefore.amount

namespace AmmTestHarnessProgramTest

theorem assertErrorsEq_eq_ok {expected e : crates.Error} :
    assertErrorsEq expected e = .ok () ↔ ErrorMatches expected e := by
  unfold assertErrorsEq ErrorMatches
  cases expected.anchor with
  | none => exact assert_eq_ok
  | some error => simp only [Outcome.bind_ok, unwrap_eq_ok, assert_eq_ok]

/-- The verdict where an error is expected: the error the loop carries is the expected one, and the
transaction failed. -/
theorem verdict_of_some {BanksClientError : Type} {p : AmmTestSwapParams crates α}
    {expected : crates.Error} (hp : p.expectedError = some expected) {s : Attempts crates}
    {result : Except BanksClientError Unit} {sourceDiff destinationDiff : UInt64} :
    verdict p s result sourceDiff destinationDiff = .ok () ↔
      (∃ e, s.quoteErr = some e ∧ ErrorMatches expected e) ∧ ∃ error, result = .error error := by
  rw [verdict, hp]
  simp only [Outcome.bind_ok, unwrap_eq_ok, unwrapErr_eq_ok]
  constructor
  · rintro ⟨e, he, ⟨⟩, hmatch, error, herror, -⟩
    exact ⟨⟨e, he, assertErrorsEq_eq_ok.1 hmatch⟩, error, herror⟩
  · rintro ⟨⟨e, he, hmatch⟩, error, herror⟩
    exact ⟨e, he, (), assertErrorsEq_eq_ok.2 hmatch, error, herror, rfl⟩

/-- The verdict where no error is expected: the transaction succeeded, and the quote the loop
carries agrees with what it moved. -/
theorem verdict_of_none {BanksClientError : Type} {p : AmmTestSwapParams crates α}
    (hp : p.expectedError = none) {s : Attempts crates} {result : Except BanksClientError Unit}
    {sourceDiff destinationDiff : UInt64}
    (h : verdict p s result sourceDiff destinationDiff = .ok ()) :
    result = .ok () ∧ ∃ q, s.quoteResult = some q ∧
      QuoteAgrees p s.amount q sourceDiff destinationDiff := by
  rw [verdict, hp] at h
  simp only [Outcome.bind_ok, unwrapOk_eq_ok, unwrap_eq_ok] at h
  obtain ⟨⟨⟩, hresult, q, hq, h⟩ := h
  refine ⟨hresult, q, hq, ?_⟩
  unfold QuoteAgrees
  split at h
  · obtain ⟨⟨⟩, hout, -⟩ := Outcome.bind_ok.1 h
    exact assert_eq_ok.1 hout
  · obtain ⟨⟨⟩, hin, h⟩ := Outcome.bind_ok.1 h
    obtain ⟨⟨⟩, hamount, -⟩ := Outcome.bind_ok.1 h
    exact ⟨assert_eq_ok.1 hin, assert_eq_ok.1 hamount⟩

/-- The benchmark passes at an amount that is quoted. -/
theorem benchmark_of_ok {p : AmmTestSwapParams crates α} {amount : UInt64} {q : Quote crates}
    (hq : p.quote amount = .ok q) : ∀ n, benchmark p amount n = .ok ()
  | 0 => rfl
  | n + 1 => by
    rw [benchmark, Outcome.unwrap_eq_ok.2 hq, Outcome.ok_bind]
    exact benchmark_of_ok hq n

/-- The verdict where no error is expected and the quote is the one of the amount. -/
theorem verdict_of_quoted {BanksClientError : Type} {p : AmmTestSwapParams crates α}
    (hp : p.expectedError = none) {s : Attempts crates} {q : Quote crates}
    (hs : s.quoteResult = some q) (hq : p.quote s.amount = .ok q)
    {result : Except BanksClientError Unit} {sourceDiff destinationDiff : UInt64} :
    verdict p s result sourceDiff destinationDiff = .ok () ↔
      result = .ok () ∧ QuoteAgrees p s.amount q sourceDiff destinationDiff := by
  constructor
  · intro h
    obtain ⟨hresult, q', hq', hagrees⟩ := verdict_of_none hp h
    obtain rfl := Option.some.inj (hs.symm.trans hq')
    exact ⟨hresult, hagrees⟩
  · rintro ⟨rfl, hagrees⟩
    have hbenchmark := benchmark_of_ok hq 100
    rw [verdict, hp]
    refine Outcome.bind_ok.2 ⟨(), rfl, Outcome.bind_ok.2 ⟨q, unwrap_eq_ok.2 hs, ?_⟩⟩
    unfold QuoteAgrees at hagrees
    cases hmode : p.swapMode with
    | exactIn =>
      rw [hmode] at hagrees
      exact Outcome.bind_ok.2 ⟨(), assert_eq_ok.2 hagrees, hbenchmark⟩
    | exactOut =>
      rw [hmode] at hagrees
      exact Outcome.bind_ok.2 ⟨(), assert_eq_ok.2 hagrees.1,
        Outcome.bind_ok.2 ⟨(), assert_eq_ok.2 hagrees.2, hbenchmark⟩⟩

/-! ## The swap instruction -/

/-- The swap instruction of an attempt can be built, and is the given one. -/
def Builds (tables : TokenTables) (self : AmmTestHarnessProgramTest)
    (p : AmmTestSwapParams crates α) (accounts : TokenAccounts) (amount : UInt64)
    (swapIx : Instruction) : Prop :=
  ∃ metas swap data,
    buildSwapAccounts crates (accountsParams tables self p accounts) = .ok metas ∧
    Amm.getSwapAndAccountMetas p.amm (swapParams tables self p accounts amount) = .ok swap ∧
    buildSwapInstructionData (dataParams self p swap.swap amount) = .ok data ∧
    swapIx = { programId := jupiterId, accounts := metas ++ swap.accountMetas, data }

/-- The payer and the user sign for a swap instruction: they are the signers it asks for. -/
def Signs (crates : Crates) (self : AmmTestHarnessProgramTest) (context : ProgramTestContext)
    (swapIx : Instruction) : Prop :=
  crates.newSignedWithPayer [crates.setComputeUnitLimit 1400000, swapIx] context.payer
    [context.payer, self.programTestUser.pubkey] = .ok ()

variable {BanksClientError : Type} {tables : TokenTables} {self : AmmTestHarnessProgramTest}
  {p : AmmTestSwapParams crates α} {simulation : Simulation BanksClientError}
  {context context' : ProgramTestContext}

omit [Amm crates α] in
/-- The swap accounts of a comparison are always there. -/
theorem buildSwapAccounts_accountsParams (accounts : TokenAccounts) :
    ∃ metas, buildSwapAccounts crates (accountsParams tables self p accounts) = .ok metas := by
  unfold buildSwapAccounts accountsParams
  cases p.useSharedAccounts <;> cases p.swapMode <;> exact ⟨_, rfl⟩

omit [Amm crates α] in
/-- The data of a comparison is there where its swap can be written. -/
theorem buildSwapInstructionData_dataParams {swap : crates.Swap}
    (h : (crates.swapSerialize swap).isSome) (amount : UInt64) :
    ∃ data, buildSwapInstructionData (dataParams self p swap amount) = .ok data := by
  have hplan : (serializeVec RoutePlanStep.serialize
      (dataParams self p swap amount).routePlan).isSome :=
    (isSome_serialize_plan _).2 ⟨Nat.one_lt_two_pow (by decide), List.forall_mem_singleton.2 h⟩
  rcases buildSwapInstructionData_cases (dataParams self p swap amount) with
    ⟨⟨rest, hdata⟩, -⟩ | ⟨-, hnone⟩
  · exact ⟨_, hdata⟩
  · exact absurd hplan hnone

/-- The swap instruction of an attempt can be built where the AMM gives a swap that can be written.
-/
theorem exists_builds_iff {accounts : TokenAccounts} {amount : UInt64} :
    (∃ swapIx, Builds tables self p accounts amount swapIx) ↔
      ∃ swap, Amm.getSwapAndAccountMetas p.amm (swapParams tables self p accounts amount) =
        .ok swap ∧ (crates.swapSerialize swap.swap).isSome := by
  constructor
  · rintro ⟨swapIx, metas, swap, data, -, hswap, hdata, -⟩
    refine ⟨swap, hswap, ?_⟩
    rcases buildSwapInstructionData_cases (dataParams self p swap.swap amount) with
      ⟨-, hplan⟩ | ⟨⟨message, hpanic⟩, -⟩
    · exact ((isSome_serialize_plan _).1 hplan).2 _ (List.mem_singleton.2 rfl)
    · rw [hdata] at hpanic
      cases hpanic
  · rintro ⟨swap, hswap, hserialize⟩
    obtain ⟨metas, hmetas⟩ : ∃ metas, buildSwapAccounts crates
        (accountsParams tables self p accounts) = .ok metas :=
      buildSwapAccounts_accountsParams accounts
    obtain ⟨data, hdata⟩ : ∃ data, buildSwapInstructionData
        (dataParams self p swap.swap amount) = .ok data :=
      buildSwapInstructionData_dataParams hserialize _
    exact ⟨_, metas, swap, data, hmetas, hswap, hdata, rfl⟩

/-- The swap instruction of an attempt carries its amount, and no other. -/
theorem Builds.carriesAmount_iff {toIdl : crates.Swap → Idl.swap.denote}
    (hdisc : crates.DiscriminatorsMatchIdl) (hswap : crates.SwapMatchesIdl toIdl)
    {accounts : TokenAccounts} {amount a : UInt64} {swapIx : Instruction}
    (h : Builds tables self p accounts amount swapIx) :
    CarriesAmount swapIx.data a ↔ a = amount := by
  obtain ⟨metas, swap, data, -, -, hdata, rfl⟩ := h
  exact JupiterAmm.carriesAmount_iff hdisc hswap rfl hdata a

omit [Amm crates α] in
/-- The swap instruction of a pool asks for the user's signature alone. -/
theorem Builds.signers (hmetasIdl : crates.AccountsMatchIdl)
    (hevent : crates.EventAuthorityMatchesIdl)
    {p : AmmTestSwapParams crates (SplTokenSwapAmm crates)} {accounts : TokenAccounts}
    {amount : UInt64} {swapIx : Instruction} (h : Builds tables self p accounts amount swapIx) :
    swapIx.accounts.filter (·.isSigner) = [⟨self.programTestUser.pubkey, true, false⟩] := by
  obtain ⟨metas, swap, data, hmetas, hswap, -, rfl⟩ := h
  -- a comparison has no token ledger
  obtain ⟨metas', hmetas', hfill⟩ := buildSwapAccounts_eq hmetasIdl hevent
    (p := accountsParams tables self p accounts) (.inr rfl)
  obtain rfl := Except.ok.inj (hmetas.symm.trans hmetas')
  rw [List.filter_append, signers_fillSlots hfill,
    SplTokenSwapAmm.getSwapAndAccountMetas_signers hswap, List.append_nil]
  rfl

/-! ## The runs that return -/

theorem getTokenAccount_bind_ok {address : Pubkey}
    {f : TokenAccount → RustM crates.Error ProgramTestContext Unit} :
    (getTokenAccount address >>= f) context = .ok () context' ↔
      ∃ account, context.tokenAccounts address = some account ∧
        f account context = .ok () context' := by
  have hbind : (getTokenAccount address >>= f) context =
      ((liftM (unwrap (context.tokenAccounts address) : crates.Result TokenAccount) :
        RustM crates.Error ProgramTestContext TokenAccount) >>= f) context := rfl
  rw [hbind, RustM.liftM_bind_ok]
  simp only [unwrap_eq_ok]

theorem processTransaction_bind_ok {instructions : List Instruction} {signers : List Pubkey}
    {f : Except BanksClientError Unit → RustM crates.Error ProgramTestContext Unit} :
    (processTransaction simulation instructions signers >>= f) context = .ok () context' ↔
      crates.newSignedWithPayer instructions context.payer (context.payer :: signers) = .ok () ∧
        f simulation.result { context with
          tokenAccounts := simulation.tokenAccounts
          transactions := context.transactions ++ [instructions] } = .ok () context' := by
  unfold processTransaction
  rw [bind_assoc, RustM.get_bind, bind_assoc, RustM.liftM_bind_ok]
  constructor
  · rintro ⟨⟨⟩, hsigned, hrest⟩
    exact ⟨hsigned, hrest⟩
  · rintro ⟨hsigned, hrest⟩
    exact ⟨(), hsigned, hrest⟩

/-- What a run that returns has done: it found the token accounts and the amount, attempted quotes,
signed and sent one transaction, and reached its verdict from what that moved. -/
theorem assertQuoteMatchesSimulatedSwap_eq_ok :
    self.assertQuoteMatchesSimulatedSwap tables p simulation context = .ok () context' ↔
      ∃ accounts initial s swapIx sourceDiff destinationDiff,
        self.tokenAccounts p = some accounts ∧ p.initialAmount tables = some initial ∧
        Attempts.loop p.quote 10 (Attempts.refused p.quote initial 0) = .ok s ∧
        Builds tables self p accounts s.amount swapIx ∧ Signs crates self context swapIx ∧
        Moves context simulation accounts sourceDiff destinationDiff ∧
        verdict p s simulation.result sourceDiff destinationDiff = .ok () ∧
        context' = { context with
          tokenAccounts := simulation.tokenAccounts
          transactions :=
            context.transactions ++ [[crates.setComputeUnitLimit 1400000, swapIx]] } := by
  unfold assertQuoteMatchesSimulatedSwap
  simp only [RustM.liftM_bind_ok, RustM.liftM_eq_ok, getTokenAccount_bind_ok,
    processTransaction_bind_ok, unwrap_eq_ok, Outcome.unwrap_eq_ok, checkedSub_eq_some,
    Attempts.refused_zero]
  constructor
  · rintro ⟨accounts, haccounts, initial, hinitial, metas, hmetas, s, hs, swap, hswap, data, hdata,
      sourceBefore, hsourceBefore, destinationBefore, hdestinationBefore, hsigned, sourceAfter,
      hsourceAfter, destinationAfter, hdestinationAfter, sourceDiff, hsourceDiff, destinationDiff,
      hdestinationDiff, hverdict, rfl⟩
    exact ⟨accounts, initial, s, _, sourceDiff, destinationDiff, haccounts, hinitial, hs,
      ⟨metas, swap, data, hmetas, hswap, hdata, rfl⟩, hsigned, ⟨sourceBefore, destinationBefore,
      sourceAfter, destinationAfter, hsourceBefore, hdestinationBefore, hsourceAfter,
      hdestinationAfter, hsourceDiff, hdestinationDiff⟩, hverdict, rfl⟩
  · rintro ⟨accounts, initial, s, _, sourceDiff, destinationDiff, haccounts, hinitial, hs,
      ⟨metas, swap, data, hmetas, hswap, hdata, rfl⟩, hsigned, ⟨sourceBefore, destinationBefore,
      sourceAfter, destinationAfter, hsourceBefore, hdestinationBefore, hsourceAfter,
      hdestinationAfter, hsourceDiff, hdestinationDiff⟩, hverdict, rfl⟩
    exact ⟨accounts, haccounts, initial, hinitial, metas, hmetas, s, hs, swap, hswap, data, hdata,
      sourceBefore, hsourceBefore, destinationBefore, hdestinationBefore, hsigned, sourceAfter,
      hsourceAfter, destinationAfter, hdestinationAfter, sourceDiff, hsourceDiff, destinationDiff,
      hdestinationDiff, hverdict, rfl⟩

/-! ## Soundness -/

variable (tables self p simulation context)

/-- What a comparison that passes should have seen at the amount it sent. Where no error is
expected: the transaction succeeded, every larger amount was refused, and the quote of the amount
agrees with what was moved. Where one is expected: the transaction failed, and the quote of the
amount is that error. -/
def Seen (amount : UInt64) : Prop :=
  match p.expectedError with
  | none => simulation.result = .ok () ∧
    ∃ accounts initial k q sourceDiff destinationDiff, self.tokenAccounts p = some accounts ∧
      p.initialAmount tables = some initial ∧ amount = halved initial (k + 1) ∧
      (∀ j, 1 ≤ j → j ≤ k → (p.quote (halved initial j)).IsErr) ∧ p.quote amount = .ok q ∧
      Moves context simulation accounts sourceDiff destinationDiff ∧
      QuoteAgrees p amount q sourceDiff destinationDiff
  | some expected => (∃ error, simulation.result = .error error) ∧
    ∃ e, p.quote amount = .error (.err e) ∧ ErrorMatches expected e

/-- **Soundness**: where the comparison passes, it has sent one instruction, and has seen what it
should at the amount the instruction carries. -/
def Sound : Prop :=
  ∀ context', self.assertQuoteMatchesSimulatedSwap tables p simulation context = .ok () context' →
    ∃ swapIx amount, context'.transactions =
        context.transactions ++ [[crates.setComputeUnitLimit 1400000, swapIx]] ∧
      (∀ a, CarriesAmount swapIx.data a ↔ a = amount) ∧
      Seen tables self p simulation context amount

/-- All a run needs is there: the token accounts, the instruction of a swap of the amount, the keys
that sign for it, and balances that move the right way. -/
def Ready (amount : UInt64) : Prop :=
  ∃ accounts swapIx sourceDiff destinationDiff, self.tokenAccounts p = some accounts ∧
    Builds tables self p accounts amount swapIx ∧ Signs crates self context swapIx ∧
    Moves context simulation accounts sourceDiff destinationDiff

/-- An expected error is stale: an attempt was refused with it, the next one was quoted, and the
transaction failed. -/
def StaleError : Prop :=
  ∃ expected initial k e q, p.expectedError = some expected ∧
    p.initialAmount tables = some initial ∧ 1 ≤ k ∧ k < 10 ∧
    (∀ j, 1 ≤ j → j < k → (p.quote (halved initial j)).IsErr) ∧
    p.quote (halved initial k) = .error (.err e) ∧ ErrorMatches expected e ∧
    p.quote (halved initial (k + 1)) = .ok q ∧ (∃ error, simulation.result = .error error) ∧
    Ready tables self p simulation context (halved initial (k + 1))

variable {tables self p simulation context}

/-- A stale error passes, and the instruction sent is the one of the amount that was quoted. -/
theorem passes_of_staleError (h : StaleError tables self p simulation context) :
    ∃ context' swapIx accounts initial k q,
      self.assertQuoteMatchesSimulatedSwap tables p simulation context = .ok () context' ∧
      context'.transactions =
        context.transactions ++ [[crates.setComputeUnitLimit 1400000, swapIx]] ∧
      Builds tables self p accounts (halved initial (k + 1)) swapIx ∧
      p.quote (halved initial (k + 1)) = .ok q := by
  obtain ⟨expected, initial, k, e, q, hexpected, hinitial, hk, hk', hrefused, he, hmatch, hq,
    hfailed, accounts, swapIx, sourceDiff, destinationDiff, haccounts, hbuilds, hsigns, hmoves⟩ := h
  have hloop : Attempts.loop p.quote 10 (Attempts.refused p.quote initial 0) =
      .ok (Attempts.quoted p.quote initial k q) := by
    refine (Attempts.loop_refused rfl _).2 (.inl ⟨k, q, Nat.zero_le k, hk', ?_, hq, rfl⟩)
    intro j hj hj'
    rcases Nat.eq_or_lt_of_le hj' with rfl | hj'
    · exact ⟨e, he⟩
    · exact hrefused j hj hj'
  -- the error the loop carries is the one of the attempt before
  have herror : (Attempts.quoted p.quote initial k q).quoteErr = some e := by
    exact Attempts.errorAt_eq_some.2 ⟨hk, he⟩
  have hverdict : verdict p (Attempts.quoted p.quote initial k q) simulation.result sourceDiff
      destinationDiff = .ok () :=
    (verdict_of_some hexpected).2 ⟨⟨e, herror, hmatch⟩, hfailed⟩
  exact ⟨_, swapIx, accounts, initial, k, q,
    assertQuoteMatchesSimulatedSwap_eq_ok.2 ⟨accounts, initial, _, swapIx, sourceDiff,
      destinationDiff, haccounts, hinitial, hloop, hbuilds, hsigns, hmoves, hverdict, rfl⟩,
    rfl, hbuilds, hq⟩

/-- With a stale error the comparison is not sound. -/
theorem not_sound_of_staleError {toIdl : crates.Swap → Idl.swap.denote}
    (hdisc : crates.DiscriminatorsMatchIdl) (hswap : crates.SwapMatchesIdl toIdl)
    (h : StaleError tables self p simulation context) :
    ¬ Sound tables self p simulation context := by
  intro hsound
  obtain ⟨expected, -, -, -, -, hexpected, -⟩ := id h
  obtain ⟨context', swapIx, accounts, initial, k, q, hrun, hsent, hbuilds, hq⟩ :=
    passes_of_staleError h
  obtain ⟨swapIx', amount, hsent', hcarries, hseen⟩ := hsound context' hrun
  obtain rfl : swapIx = swapIx' := by
    rw [hsent] at hsent'
    simpa using List.append_cancel_left hsent'
  -- the instruction carries the amount that was quoted
  obtain rfl : halved initial (k + 1) = amount := by
    rw [← hcarries]
    exact (hbuilds.carriesAmount_iff hdisc hswap).2 rfl
  rw [Seen, hexpected] at hseen
  obtain ⟨-, e, he, -⟩ := hseen
  rw [hq] at he
  cases he

/-- **The comparison is sound unless an expected error is stale.** -/
theorem sound_iff {toIdl : crates.Swap → Idl.swap.denote} (hdisc : crates.DiscriminatorsMatchIdl)
    (hswap : crates.SwapMatchesIdl toIdl) :
    Sound tables self p simulation context ↔ ¬ StaleError tables self p simulation context := by
  constructor
  · intro hsound hstale
    exact not_sound_of_staleError hdisc hswap hstale hsound
  · intro hstale context' hrun
    obtain ⟨accounts, initial, s, swapIx, sourceDiff, destinationDiff, haccounts, hinitial, hs,
      hbuilds, hsigns, hmoves, hverdict, rfl⟩ := assertQuoteMatchesSimulatedSwap_eq_ok.1 hrun
    refine ⟨swapIx, s.amount, rfl, fun _ => hbuilds.carriesAmount_iff hdisc hswap, ?_⟩
    unfold Seen
    cases hexpected : p.expectedError with
    | none =>
      obtain ⟨hresult, q, hq, hagrees⟩ := verdict_of_none hexpected hverdict
      rcases (Attempts.loop_refused rfl s).1 hs with ⟨k, q', -, -, hrefused, hq', rfl⟩ | ⟨-, rfl⟩
      · cases hq
        exact ⟨hresult, accounts, initial, k, q, sourceDiff, destinationDiff, haccounts, hinitial,
          rfl, fun j hj hj' => hrefused j hj hj', hq', hmoves, hagrees⟩
      · cases hq
    | some expected =>
      obtain ⟨⟨e, he, hmatch⟩, hfailed⟩ := (verdict_of_some hexpected).1 hverdict
      refine ⟨hfailed, e, ?_, hmatch⟩
      rcases (Attempts.loop_refused rfl s).1 hs with ⟨k, q, -, hk, hrefused, hq, rfl⟩ | ⟨-, rfl⟩
      · -- an attempt was quoted, so the error is the one of the attempt before: it is stale
        obtain ⟨hk', he⟩ := Attempts.errorAt_eq_some.1 he
        refine absurd ⟨expected, initial, k, e, q, hexpected, hinitial, hk', hk, ?_, he, hmatch, hq,
          hfailed, accounts, swapIx, sourceDiff, destinationDiff, haccounts, hbuilds, hsigns,
          hmoves⟩ hstale
        intro j hj hj'
        exact hrefused j hj (Nat.le_of_lt hj')
      · have he : Attempts.errorAt p.quote initial 10 = some e := he
        exact (Attempts.errorAt_eq_some.1 he).2

end AmmTestHarnessProgramTest

end

section
open Reference AmmTestHarnessProgramTest

/-- A user and a program authority with token accounts for the two mints of the example pool. -/
def programTest : AmmTestHarnessProgramTest where
  programTestAuthority := {
    id := 0
    pubkey := 1
    mintToAtaWithProgramId := .ofList [(mintA, (2, splTokenId)), (mintB, (3, splTokenId))] }
  programTestUser := {
    pubkey := 4
    mintToAtaWithProgramId := .ofList [(mintA, (5, splTokenId)), (mintB, (6, splTokenId))] }

/-- The comparison for the example pool when it is nearly out of its first token. -/
def comparison (expectedError : Option Error) :
    AmmTestSwapParams referenceCrates (SplTokenSwapAmm referenceCrates) where
  amm := pool.withReserves (100, 100000000)
  sourceMint := mintA
  destinationMint := mintB
  swapMode := .exactIn
  tolerance := 0
  useSharedAccounts := true
  expectedError

/-- A bank with funds for the user. -/
def bank : ProgramTestContext where
  payer := 7
  tokenAccounts := .ofList [(5, ⟨275000000000⟩), (6, ⟨12210000000⟩)]
  transactions := []

/-- A simulation in which the transaction fails. -/
def failedSimulation : Simulation String where
  result := .error "custom program error: 0x1"
  tokenAccounts := bank.tokenAccounts

/-- A simulation that pays the given amount for a quarter of the initial amount. -/
def paidSimulation (outAmount : UInt64) : Simulation String where
  result := .ok ()
  tokenAccounts := .ofList
    [(5, ⟨275000000000 - 6250000000⟩), (6, ⟨12210000000 + outAmount⟩)]

theorem quote_comparison (expectedError : Option Error) (amount : UInt64) :
    (comparison expectedError).quote amount =
      (pool.withReserves (100, 100000000)).quote (quoteParams mintA mintB amount) := by
  unfold AmmTestSwapParams.quote comparison quoteParams
  rfl

theorem initialAmount_comparison (expectedError : Option Error) :
    (comparison expectedError).initialAmount tokenTables = some 25000000000 := by
  show (comparison none).initialAmount tokenTables = some 25000000000
  decide +kernel

theorem tokenAccounts_comparison (expectedError : Option Error) :
    programTest.tokenAccounts (comparison expectedError) = some ⟨5, 6, 2, 3⟩ := by
  show programTest.tokenAccounts (comparison none) = some ⟨5, 6, 2, 3⟩
  decide +kernel

/-- Half of the initial amount is refused. -/
theorem quote_comparison_half (expectedError : Option Error) :
    (comparison expectedError).quote (halved 25000000000 1) =
      .error (.err (referenceCrates.anyhow "quote failed")) := by
  rw [quote_comparison]
  apply SplTokenSwapAmm.quote_of_none
  decide +kernel

/-- A quarter of it is quoted, within what the pool has. -/
theorem quote_comparison_quarter (expectedError : Option Error) :
    ∃ q, (comparison expectedError).quote (halved 25000000000 2) = .ok q ∧
      q.outAmount.toNat ≤ 100000000 := by
  have hcurve : (pool.withReserves (100, 100000000)).curveResult
      (quoteParams mintA mintB (halved 25000000000 2)) ≠ none := by
    decide +kernel
  obtain ⟨q, hq⟩ := SplTokenSwapAmm.quote_pool_of_curveResult hcurve
  refine ⟨q, (quote_comparison _ _).trans hq, ?_⟩
  obtain ⟨c, hc, -, -, hout, -⟩ := SplTokenSwapAmm.quote_eq_ok hq
  obtain ⟨-, -, hdestination⟩ := swapStaysWithin_referenceCrates hc
  rw [hout]
  exact hdestination.trans (by decide +kernel)

/-- The swap instruction of the example comparison can be built and signed. -/
theorem builds_comparison (expectedError : Option Error) (amount : UInt64) :
    ∃ swapIx, Builds tokenTables programTest (comparison expectedError) ⟨5, 6, 2, 3⟩ amount swapIx ∧
      Signs referenceCrates programTest bank swapIx := by
  have hserialize : (referenceCrates.swapSerialize referenceCrates.swapTokenSwap).isSome := by
    decide
  obtain ⟨swapIx, hbuilds⟩ : ∃ swapIx, Builds tokenTables programTest (comparison expectedError)
      ⟨5, 6, 2, 3⟩ amount swapIx := exists_builds_iff.2 ⟨_, rfl, hserialize⟩
  exact ⟨swapIx, hbuilds, signsForUser_referenceCrates _ _ _
    (hbuilds.signers accountsMatchIdl_referenceCrates eventAuthorityMatchesIdl_referenceCrates)⟩

/-- What the failed simulation moves. -/
theorem moves_failedSimulation : Moves bank failedSimulation ⟨5, 6, 2, 3⟩ 0 0 :=
  ⟨⟨275000000000⟩, ⟨12210000000⟩, ⟨275000000000⟩, ⟨12210000000⟩, by decide +kernel,
    by decide +kernel, by decide +kernel, by decide +kernel, ⟨by decide, by decide⟩, by decide,
    by decide⟩

/-- What a simulation that pays moves. -/
theorem moves_paidSimulation {outAmount : UInt64} (hout : outAmount.toNat ≤ 100000000) :
    Moves bank (paidSimulation outAmount) ⟨5, 6, 2, 3⟩ 6250000000 outAmount := by
  have hsum : (12210000000 + outAmount).toNat = 12210000000 + outAmount.toNat := by
    rw [UInt64.toNat_add]
    exact Nat.mod_eq_of_lt (by show 12210000000 + outAmount.toNat < 2 ^ 64; omega)
  have hle : (12210000000 : UInt64) ≤ 12210000000 + outAmount := by
    rw [UInt64.le_iff_toNat_le, hsum]
    exact Nat.le_add_right _ _
  have hkeys : ([(5, ⟨275000000000 - 6250000000⟩), (6, ⟨12210000000 + outAmount⟩)].map
      (Prod.fst : Pubkey × TokenAccount → Pubkey)).Nodup := by
    show ([5, 6] : List Pubkey).Nodup
    decide
  refine ⟨⟨275000000000⟩, ⟨12210000000⟩, ⟨275000000000 - 6250000000⟩, ⟨12210000000 + outAmount⟩,
    by decide +kernel, by decide +kernel, ?_, ?_, ⟨by decide, by decide⟩, hle, ?_⟩
  · exact HashMap.ofList_of_nodup hkeys (.head _)
  · exact HashMap.ofList_of_nodup hkeys (.tail _ (.head _))
  · apply UInt64.toNat_inj.1
    rw [UInt64.toNat_sub_of_le _ _ hle, hsum]
    exact (Nat.add_sub_cancel_left ..).symm

/-- The retry loop of the example comparison stops at a quarter of the initial amount. -/
theorem loop_comparison (expectedError : Option Error) {q : Quote referenceCrates}
    (hq : (comparison expectedError).quote (halved 25000000000 2) = .ok q) :
    Attempts.loop (comparison expectedError).quote 10
      (Attempts.refused (comparison expectedError).quote 25000000000 0) =
      .ok (Attempts.quoted (comparison expectedError).quote 25000000000 1 q) := by
  refine (Attempts.loop_refused rfl _).2 (.inl ⟨1, q, by decide, by decide, ?_, hq, rfl⟩)
  intro j hj hj'
  obtain rfl : j = 1 := by omega
  exact ⟨_, quote_comparison_half expectedError⟩

/-- The comparison that expects no error returns where the swap is paid as quoted. -/
theorem runs_comparison {q : Quote referenceCrates}
    (hq : (comparison none).quote (halved 25000000000 2) = .ok q)
    (hout : q.outAmount.toNat ≤ 100000000) : ∃ context',
    programTest.assertQuoteMatchesSimulatedSwap tokenTables (comparison none)
      (paidSimulation q.outAmount) bank = .ok () context' := by
  obtain ⟨swapIx, hbuilds, hsigns⟩ := builds_comparison none (halved 25000000000 2)
  have hagrees : QuoteAgrees (comparison none) (halved 25000000000 2) q 6250000000 q.outAmount := by
    show (q.outAmount.toNat - q.outAmount.toNat : Int).natAbs ≤ 0
    rw [Int.sub_self]
    rfl
  have hamount : (Attempts.quoted (comparison none).quote 25000000000 1 q).amount =
      halved 25000000000 2 := rfl
  have hverdict : verdict (comparison none)
      (Attempts.quoted (comparison none).quote 25000000000 1 q)
      (paidSimulation q.outAmount).result 6250000000 q.outAmount = .ok () := by
    rw [verdict_of_quoted rfl rfl (hamount ▸ hq), hamount]
    exact ⟨rfl, hagrees⟩
  exact ⟨_, assertQuoteMatchesSimulatedSwap_eq_ok.2 ⟨⟨5, 6, 2, 3⟩, 25000000000, _, swapIx,
    6250000000, q.outAmount, tokenAccounts_comparison none, initialAmount_comparison none,
    loop_comparison none hq, hbuilds, hsigns, moves_paidSimulation hout, hverdict, rfl⟩⟩

/-- The comparison that expects no error returns and is sound. -/
theorem sound_iff_comparison : ∃ outAmount context',
    programTest.assertQuoteMatchesSimulatedSwap tokenTables (comparison none)
      (paidSimulation outAmount) bank = .ok () context' ∧
    programTest.Sound tokenTables (comparison none) (paidSimulation outAmount) bank := by
  obtain ⟨q, hq, hout⟩ := quote_comparison_quarter none
  obtain ⟨context', hrun⟩ := runs_comparison hq hout
  refine ⟨q.outAmount, context', hrun, ?_⟩
  apply (AmmTestHarnessProgramTest.sound_iff discriminatorsMatchIdl_referenceCrates
    swapMatchesIdl_referenceCrates).2
  rintro ⟨expected, initial, k, e, q, hexpected, -⟩
  cases hexpected

/-- Half of the initial amount is refused, a quarter of it is quoted, and the transaction fails. -/
theorem staleError_comparison :
    programTest.StaleError tokenTables (comparison (some (referenceCrates.anyhow "quote failed")))
      failedSimulation bank := by
  obtain ⟨q, hq, -⟩ := quote_comparison_quarter (some (referenceCrates.anyhow "quote failed"))
  obtain ⟨swapIx, hbuilds, hsigns⟩ :=
    builds_comparison (some (referenceCrates.anyhow "quote failed")) (halved 25000000000 2)
  refine ⟨_, 25000000000, 1, _, q, rfl, initialAmount_comparison _, Nat.le_refl 1, by decide, ?_,
    quote_comparison_half _, rfl, hq, ⟨_, rfl⟩, ⟨5, 6, 2, 3⟩, swapIx, 0, 0,
    tokenAccounts_comparison _, hbuilds, hsigns, moves_failedSimulation⟩
  intro j hj hj'
  omega

/-- **The comparison is not sound.** It passes, although the amount it sent is quoted. -/
theorem not_sound :
    ¬ programTest.Sound tokenTables (comparison (some (referenceCrates.anyhow "quote failed")))
      failedSimulation bank :=
  AmmTestHarnessProgramTest.not_sound_of_staleError discriminatorsMatchIdl_referenceCrates
    swapMatchesIdl_referenceCrates staleError_comparison

end

end JupiterAmm
