import JupiterAmm.Harness.Comparison
import JupiterAmm.Harness.Bank

/-!
# The instruction a test sends

What a comparison sends on the bank it has loaded is a swap that can be executed as far as the test
is concerned (`LoadedBank.sendable`): the user is its only signer, its accounts and its data are
those of one instruction of the interface description, the pool's accounts it names are as on the
chain, and the token accounts it trades between belong to the wallet it names as their authority,
which can pay.
-/

namespace JupiterAmm

open Rust Borsh

section
variable {crates : Crates}

/-- The wallet that trades with the pool: the program authority where accounts are shared, else the
user. -/
def AmmTestSwapParams.wallet {α : Type} (p : AmmTestSwapParams crates α) (keypair : Pubkey) :
    Pubkey :=
  if p.useSharedAccounts then findJupiterProgramAuthority crates 0 else keypair

/-- The keys of the pool's part of a swap instruction, with the wallet that trades. The vault of the
source comes first. -/
def SplTokenSwapAmm.swapKeys (self : SplTokenSwapAmm crates)
    (sourceMint wallet source destination : Pubkey) : List Pubkey :=
  [self.programId, splTokenId, self.key, self.getAuthority, wallet, source,
    if sourceMint = self.state.tokenAMint then self.state.tokenA else self.state.tokenB,
    if sourceMint = self.state.tokenAMint then self.state.tokenB else self.state.tokenA,
    destination, self.state.poolMint, self.state.poolFeeAccount]

/-- A token account of a bank holds a balance of a mint for its owner. -/
def Bank.Holds (testCrates : ProgramTestCrates crates) (self : Bank) (k owner mint : Pubkey)
    (balance : UInt64) : Prop :=
  ∃ account, self.accounts k = some account ∧
    newTokenAccount testCrates owner mint balance = some account

open AmmTestHarnessProgramTest in
/-- An instruction for a swap of a pool that is live on a chain can be executed on a bank, as far as
the test is concerned. -/
structure Sendable (testCrates : ProgramTestCrates crates) (tables : TokenTables)
    (chain : AccountMap) (keypair : Pubkey) (bank : Bank) (test : AmmTestHarnessProgramTest)
    (p : AmmTestSwapParams crates (SplTokenSwapAmm crates)) (amount : UInt64) (ix : Instruction) :
    Prop where
  signers : ix.accounts.filter (·.isSigner) = [⟨keypair, true, false⟩]
  carries : ∀ a, CarriesAmount ix.data a ↔ a = amount
  described : ∃ description ∈ Idl.routeInstructions, ∃ accounts metas swap,
    description.discriminator <+: ix.data ∧ test.tokenAccounts p = some accounts ∧
    fillSlots description (accountsParams tables test p accounts).accountFor = some metas ∧
    ix.accounts = metas ++ swap ∧
    swap.map (·.pubkey) = p.amm.swapKeys p.sourceMint (p.wallet keypair)
      (testCrates.ata (p.wallet keypair) p.sourceMint)
      (testCrates.ata (p.wallet keypair) p.destinationMint)
  onChain : ∀ k ∈ p.amm.ownAccounts, ∀ account,
    AmmTestHarness.livingAccounts chain k = some account → account.owner ≠ sysvarId → k ≠ clockId →
    bank.accounts k = some account
  funded : ∀ wallet ∈ [keypair, findJupiterProgramAuthority crates 0],
    ∀ mint ∈ [p.sourceMint, p.destinationMint], ∃ balance,
      bank.Holds testCrates (testCrates.ata wallet mint) wallet mint balance ∧
      (p.swapMode = .exactIn → mint = p.sourceMint → 22 * amount.toNat ≤ balance.toNat)

variable {testCrates : ProgramTestCrates crates} {tables : TokenTables} {keypair : Pubkey}
  {bank : Bank} {test : AmmTestHarnessProgramTest} {mints : List Pubkey}

/-- The accounts of a swap of a pool. -/
theorem SplTokenSwapAmm.getSwapAndAccountMetas_swapKeys (self : SplTokenSwapAmm crates)
    {sp : SwapParams} {swap : SwapAndAccountMetas crates}
    (h : self.getSwapAndAccountMetas sp = .ok swap) :
    swap.accountMetas.map (·.pubkey) = self.swapKeys sp.sourceMint sp.tokenTransferAuthority
      sp.sourceTokenAccount sp.destinationTokenAccount := by
  unfold getSwapAndAccountMetas at h
  unfold swapKeys
  by_cases hmint : sp.sourceMint = self.state.tokenAMint
  · simp only [if_pos hmint] at h ⊢
    obtain rfl := Except.ok.inj h
    rfl
  · simp only [if_neg hmint] at h ⊢
    obtain rfl := Except.ok.inj h
    rfl

/-- The token accounts of a swap between mints whose wallets are set up. -/
theorem SetUp.tokenAccounts_eq {α : Type} (h : SetUp testCrates tables keypair mints bank test)
    {p : AmmTestSwapParams crates α} (hsource : p.sourceMint ∈ mints)
    (hdestination : p.destinationMint ∈ mints) :
    test.tokenAccounts p = some ⟨testCrates.ata keypair p.sourceMint,
      testCrates.ata keypair p.destinationMint,
      testCrates.ata (findJupiterProgramAuthority crates 0) p.sourceMint,
      testCrates.ata (findJupiterProgramAuthority crates 0) p.destinationMint⟩ := by
  rw [AmmTestHarnessProgramTest.tokenAccounts, h.userAtas _ hsource, h.userAtas _ hdestination,
    h.authorityAtas _ hsource, h.authorityAtas _ hdestination]
  rfl

/-- Without Token-2022 mints, a swap trades from the accounts of its wallet. -/
theorem SetUp.swapParams_eq {α : Type} (h : SetUp testCrates tables keypair mints bank test)
    (htables : tables.token2022MintAndInAmount = []) {p : AmmTestSwapParams crates α}
    (hsource : p.sourceMint ∈ mints) (hdestination : p.destinationMint ∈ mints)
    {accounts : TokenAccounts} (haccounts : test.tokenAccounts p = some accounts)
    (amount : UInt64) :
    let sp := AmmTestHarnessProgramTest.swapParams tables test p accounts amount
    sp.tokenTransferAuthority = p.wallet keypair ∧
      sp.sourceTokenAccount = testCrates.ata (p.wallet keypair) p.sourceMint ∧
      sp.destinationTokenAccount = testCrates.ata (p.wallet keypair) p.destinationMint := by
  obtain rfl := Option.some.inj ((h.tokenAccounts_eq hsource hdestination).symm.trans haccounts)
  have hspl : ∀ mint, AmmTestHarnessProgramTest.isToken2022 tables mint = false := by
    intro mint
    rw [AmmTestHarnessProgramTest.isToken2022, htables]
    rfl
  simp only [AmmTestHarnessProgramTest.swapParams, AmmTestHarnessProgramTest.tokenAuthority,
    AmmTestHarnessProgramTest.sourceTokenAccount,
    AmmTestHarnessProgramTest.destinationTokenAccount, hspl, Bool.or_false, h.user, h.authority.2,
    AmmTestSwapParams.wallet]
  cases p.useSharedAccounts <;> exact ⟨rfl, rfl, rfl⟩

/-- A comparison sends at most half of the amount it starts from. -/
theorem AmmTestHarnessProgramTest.Prepared.amount_le {α : Type} [Amm crates α]
    {p : AmmTestSwapParams crates α} {s : Attempts crates} {accounts : TokenAccounts}
    {swapIx : Instruction} (h : Prepared tables test p s accounts swapIx) {initial : UInt64}
    (hinitial : p.initialAmount tables = some initial) : 2 * s.amount.toNat ≤ initial.toNat := by
  obtain ⟨initial', hinitial', hs⟩ := h.attempts
  obtain rfl := Option.some.inj (hinitial.symm.trans hinitial')
  have hhalved : ∀ k, 2 * (halved initial (k + 1)).toNat ≤ initial.toNat := by
    intro k
    rw [toNat_halved, Nat.pow_succ, ← Nat.div_div_eq_div_mul]
    have hle := Nat.div_le_self initial.toNat (2 ^ k)
    omega
  rcases (Attempts.loop_refused rfl s).1 hs with ⟨k, q, -, -, -, -, rfl⟩ | ⟨-, rfl⟩
  · exact hhalved k
  · exact hhalved 9

/-- Where no mint comes twice in the table, a funded wallet holds eleven times the amount a swap
starts from. -/
theorem SetUp.holds (h : SetUp testCrates tables keypair mints bank test)
    (htables : tables.token2022MintAndInAmount = [])
    (hnodup : (tables.tokenMintAndInAmount.map Prod.fst).Nodup) {wallet mint : Pubkey}
    (hwallet : wallet ∈ [keypair, findJupiterProgramAuthority crates 0]) (hmint : mint ∈ mints) :
    ∃ inAmount, tables.tokenMintToInAmount mint = some inAmount ∧
      110 * inAmount.toNat < 2 ^ 64 ∧
      bank.Holds testCrates (testCrates.ata wallet mint) wallet mint
        (UInt64.ofNat (11 * inAmount.toNat)) := by
  obtain ⟨account, hfunded, haccount⟩ := h.funded wallet hwallet mint hmint
  obtain ⟨⟨mint', inAmount⟩, hfind, hfits, hnew⟩ := fundedAccount_eq_some.1 hfunded
  obtain rfl : mint' = mint := by simpa using List.find?_some hfind
  refine ⟨inAmount, ?_, hfits, account, haccount, hnew⟩
  rw [TokenTables.tokenMintToInAmount, htables, HashMap.insertAll_nil]
  exact HashMap.ofList_of_nodup hnodup (List.mem_of_find?_eq_some hfind)

open AmmTestHarnessProgramTest in
/-- **What a test sends can be executed.** On the bank that a test has loaded for a pool that is
live on a chain, the instruction of a comparison between the pool's mints is signed by the user
alone and carries the amount that was attempted; its accounts and its data are those of one
instruction of the interface description; the accounts of the pool that it names are as on the
chain; and the wallet it names as the authority of the trade owns the token accounts it trades
between, with at least twenty-two times an exact-in amount. -/
theorem LoadedBank.sendable {toIdl : crates.Swap → Idl.swap.denote}
    (hdisc : crates.DiscriminatorsMatchIdl) (hswap : crates.SwapMatchesIdl toIdl)
    (haccountsIdl : crates.AccountsMatchIdl) (hevent : crates.EventAuthorityMatchesIdl)
    (htables : tables.token2022MintAndInAmount = [])
    (hnodup : (tables.tokenMintAndInAmount.map Prod.fst).Nodup) {chain : AccountMap}
    {p : AmmTestSwapParams crates (SplTokenSwapAmm crates)}
    (hbank : LoadedBank testCrates tables chain p.amm keypair bank test)
    (hsource : p.sourceMint ∈ p.amm.getReserveMints)
    (hdestination : p.destinationMint ∈ p.amm.getReserveMints) {s : Attempts crates}
    {accounts : TokenAccounts} {swapIx : Instruction}
    (hprepared : Prepared tables test p s accounts swapIx) :
    Sendable testCrates tables chain keypair bank test p s.amount swapIx := by
  obtain ⟨metas, swap, data, hmetas, hmetasSwap, hdata, hswapIx⟩ := id hprepared.instruction
  have htokens := hprepared.tokenAccounts
  obtain ⟨hauthority, hfrom, hto⟩ :=
    hbank.setUp.swapParams_eq htables hsource hdestination htokens s.amount
  have hkeys := p.amm.getSwapAndAccountMetas_swapKeys hmetasSwap
  rw [hauthority, hfrom, hto] at hkeys
  -- a comparison has no token ledger, so that both builders take its request
  obtain ⟨metas', hmetas', hfill⟩ := buildSwapAccounts_eq haccountsIdl hevent
    (p := accountsParams tables test p accounts) (.inr rfl)
  obtain rfl : metas = metas' := Except.ok.inj (hmetas.symm.trans hmetas')
  obtain ⟨rest, args, hbytes, -, -⟩ := decode_buildSwapInstructionData hdisc hswap hdata
  constructor
  · rw [hprepared.instruction.signers haccountsIdl hevent, hbank.setUp.user]
  · exact fun _ => hprepared.instruction.carriesAmount_iff hdisc hswap
  · rw [hswapIx]
    exact ⟨_, instruction_mem (dataParams test p swap.swap s.amount), accounts, metas,
      swap.accountMetas, ⟨rest, hbytes.symm⟩, htokens, hfill, rfl, hkeys⟩
  · intro k hk
    apply hbank.accounts
    simp [SplTokenSwapAmm.snapshotAccounts, hk]
  · intro wallet hwallet mint hmint
    have hmem : mint ∈ p.amm.getReserveMints := by
      rcases List.mem_pair.1 hmint with rfl | rfl
      · exact hsource
      · exact hdestination
    obtain ⟨inAmount, hamount, hfits, hholds⟩ :=
      hbank.setUp.holds htables hnodup hwallet hmem
    refine ⟨_, hholds, ?_⟩
    rintro hmode rfl
    have hinitial : p.initialAmount tables = some inAmount := by
      rw [AmmTestSwapParams.initialAmount, hmode]
      exact hamount
    have hhalf := hprepared.amount_le hinitial
    have hsmall : 11 * inAmount.toNat < 2 ^ 64 := by omega
    have hbalance : (UInt64.ofNat (11 * inAmount.toNat)).toNat = 11 * inAmount.toNat :=
      UInt64.toNat_ofNat_of_lt hsmall
    omega

end

/-! ## The example pool -/

section
variable {crates : Crates} {findProgramAddress : List Bytes → Pubkey → Pubkey}

theorem Crates.DiscriminatorsMatchIdl.withProgramAddress (h : crates.DiscriminatorsMatchIdl) :
    (crates.withProgramAddress findProgramAddress).DiscriminatorsMatchIdl := h

theorem Crates.SwapMatchesIdl.withProgramAddress {toIdl : crates.Swap → Idl.swap.denote}
    (h : crates.SwapMatchesIdl toIdl) :
    (crates.withProgramAddress findProgramAddress).SwapMatchesIdl toIdl :=
  ⟨h.injective, h.serialize⟩

theorem Crates.AccountsMatchIdl.withProgramAddress (h : crates.AccountsMatchIdl) :
    (crates.withProgramAddress findProgramAddress).AccountsMatchIdl := h

theorem Crates.SwapStaysWithin.withProgramAddress (h : crates.SwapStaysWithin) :
    (crates.withProgramAddress findProgramAddress).SwapStaysWithin := h

theorem Crates.DecimalLaws.withProgramAddress {value : crates.Decimal → ℚ}
    (h : crates.DecimalLaws value) :
    (crates.withProgramAddress findProgramAddress).DecimalLaws value :=
  ⟨h.zero, h.fromU64, h.div_none, h.div_some, h.add_none⟩

end

section
open Reference AmmTestHarness AmmTestHarnessProgramTest

/-- A comparison for the example pool, with shared accounts. -/
def testSwap (sourceMint destinationMint : Pubkey) :
    AmmTestSwapParams bankCrates (SplTokenSwapAmm bankCrates) where
  amm := testPool.withReserves (balanceA, balanceB)
  sourceMint
  destinationMint
  swapMode := .exactIn
  tolerance := 0
  useSharedAccounts := true
  expectedError := none

theorem quote_testSwap (sourceMint destinationMint : Pubkey) (amount : UInt64) :
    (testSwap sourceMint destinationMint).quote amount =
      (testPool.withReserves (balanceA, balanceB)).quote
        (quoteParams sourceMint destinationMint amount) := by
  unfold AmmTestSwapParams.quote testSwap quoteParams
  rfl

/-- The pairs of mints of the example pool, with what a swap of them starts from. -/
def testMints : List (Pubkey × Pubkey × UInt64) :=
  [(mintA, mintB, 25000000000), (mintB, mintA, 1110000000)]

/-- The first attempt of a swap of the example pool is quoted. -/
theorem exists_quote_testSwap : ∀ swap ∈ testMints,
    (testSwap swap.1 swap.2.1).initialAmount tokenTables = some swap.2.2 ∧
    ∃ q, (testSwap swap.1 swap.2.1).quote (halved swap.2.2 1) = .ok q ∧
      q.outAmount.toNat ≤ 5000000000 := by
  have hamounts : ∀ swap ∈ testMints,
      (testSwap swap.1 swap.2.1).initialAmount tokenTables = some swap.2.2 := by
    rw [testMints, List.forall_mem_cons, List.forall_mem_singleton]
    exact ⟨tokenMintToInAmount_mintA, tokenMintToInAmount_mintB⟩
  have hcurves : ∀ swap ∈ testMints, ((testPool.withReserves (balanceA, balanceB)).curveResult
      (quoteParams swap.1 swap.2.1 (halved swap.2.2 1))).isSome := by
    rw [testMints, List.forall_mem_cons, List.forall_mem_singleton]
    decide +kernel
  intro swap hswap
  obtain ⟨c, hc⟩ := Option.isSome_iff_exists.1 (hcurves swap hswap)
  have hwithin : bankCrates.SwapStaysWithin := swapStaysWithin_referenceCrates.withProgramAddress
  obtain ⟨q, hq⟩ := SplTokenSwapAmm.quote_of_curveResult hwithin
    (SplTokenSwapAmm.reservesFit_withReserves testPool (balanceA, balanceB)) hc
    decimalLaws_referenceCrates.withProgramAddress
  refine ⟨hamounts swap hswap, q, (quote_testSwap _ _ _).trans hq, ?_⟩
  -- a quote pays no more than the other vault holds
  obtain ⟨c', hc', -, -, hout, -⟩ := SplTokenSwapAmm.quote_eq_ok hq
  obtain ⟨-, -, hdestination⟩ := hwithin hc'
  have hreserves : (U128.ofU64 balanceA).toNat ≤ 5000000000 ∧
      (U128.ofU64 balanceB).toNat ≤ 5000000000 := by decide
  rw [hout]
  apply hdestination.trans
  unfold SplTokenSwapAmm.side
  split
  · exact hreserves.2
  · exact hreserves.1

theorem accountsMatchIdl_bankCrates : bankCrates.AccountsMatchIdl :=
  accountsMatchIdl_referenceCrates.withProgramAddress

theorem eventAuthorityMatchesIdl_bankCrates : bankCrates.EventAuthorityMatchesIdl := by
  have hseeds : [asciiBytes "__event_authority"] ≠ [asciiBytes "authority", [0]] := by decide
  have hfind : findEventAuthority bankCrates =
      findAuthorityAddress [asciiBytes "__event_authority"] jupiterId := rfl
  rw [Crates.EventAuthorityMatchesIdl, hfind, findAuthorityAddress, if_neg hseeds,
    findProgramAddress, if_pos rfl]

/-- What a test sends for the example pool can be executed. -/
theorem sendable_testSwap : ∃ (bank : Bank) (test : AmmTestHarnessProgramTest)
    (s : Attempts bankCrates) (swapIx : Instruction),
    Sendable referenceTestCrates tokenTables clockChain user bank test (testSwap mintA mintB)
      s.amount swapIx := by
  have hserialize : (bankCrates.swapSerialize bankCrates.swapTokenSwap).isSome := by decide
  have hdisc : bankCrates.DiscriminatorsMatchIdl :=
    discriminatorsMatchIdl_referenceCrates.withProgramAddress
  have hswap : bankCrates.SwapMatchesIdl (fun swap => swap) :=
    swapMatchesIdl_referenceCrates.withProgramAddress
  have htables : tokenTables.token2022MintAndInAmount = [] := rfl
  obtain ⟨t, hreplaces⟩ := exists_replacesDir_testHarness
  obtain ⟨bank, test, -, hbank⟩ := exists_loadedBank (loadAccountsSnapshot_testHarness hreplaces)
  obtain ⟨hinitial, q, hq, -⟩ := exists_quote_testSwap _ (List.mem_cons_self ..)
  dsimp only at hinitial hq
  have hloop : Attempts.loop (testSwap mintA mintB).quote 10
      (Attempts.refused (testSwap mintA mintB).quote 25000000000 0) =
      .ok (Attempts.quoted (testSwap mintA mintB).quote 25000000000 0 q) :=
    (Attempts.loop_refused rfl _).2
      (.inl ⟨0, q, Nat.le_refl 0, by decide, fun j hj hj' => absurd hj (by omega), hq, rfl⟩)
  have hsource : mintA ∈ [mintA, mintB] := by simp
  have hdestination : mintB ∈ [mintA, mintB] := by simp
  have htokens := hbank.setUp.tokenAccounts_eq (p := testSwap mintA mintB) hsource hdestination
  obtain ⟨swapIx, hbuilds⟩ : ∃ swapIx, Builds tokenTables test (testSwap mintA mintB) _
      (Attempts.quoted (testSwap mintA mintB).quote 25000000000 0 q).amount swapIx :=
    exists_builds_iff.2 ⟨_, rfl, hserialize⟩
  have hprepared := Prepared.mk htokens ⟨_, hinitial, hloop⟩ hbuilds
  have hbank' : LoadedBank referenceTestCrates tokenTables clockChain (testSwap mintA mintB).amm
      user bank test := hbank
  exact ⟨bank, test, _, swapIx, LoadedBank.sendable hdisc hswap accountsMatchIdl_bankCrates
    eventAuthorityMatchesIdl_bankCrates htables nodup_tokenTables hbank' hsource hdestination
    hprepared⟩

end

end JupiterAmm
