import JupiterAmm.Harness.Command
import JupiterAmm.Harness.Simulate

/-!
# Loading a program test

`load_program_test` starts a bank from a snapshot: it adds the programs of a swap, whose files must
be there, and the accounts, updates the AMM from them, sets the clock, and gives the program
authority and a new user a token account for each mint, funded with eleven times the amount of the
mint's table. The bank is what it holds, an account map, and its payer. What the test framework and
the token crates compute is the record `ProgramTestCrates`.
-/

namespace JupiterAmm

open Rust Borsh

/-! ## The crates of a program test -/

/-- `spl_token::state::AccountState`. -/
inductive AccountState where
  | uninitialized
  | initialized
  | frozen
  deriving DecidableEq

/-- `spl_token::state::Account`, whole. -/
structure TokenAccountState where
  mint : Pubkey
  owner : Pubkey
  amount : UInt64
  delegate : Option Pubkey
  state : AccountState
  isNative : Option UInt64
  delegatedAmount : UInt64
  closeAuthority : Option Pubkey
  deriving DecidableEq

/-- `solana_program_test::ProgramTest`, as far as it is filled. The programs are run from the files
of their names. -/
structure ProgramTest where
  preferBpf : Bool
  deactivatedFeatures : List Pubkey
  programs : List (String × Pubkey)
  accounts : AccountMap

/-- The bank of a `ProgramTestContext`, with the payer of its transactions. -/
structure Bank where
  payer : Pubkey
  accounts : AccountMap

/-- What a program test uses of the crates beside `CommandCrates`. -/
structure ProgramTestCrates (crates : Crates) extends CommandCrates crates where
  /-- `BanksClientError`. -/
  BanksClientError : Type
  /-- The `find_file` of `ProgramTest::add_program`. -/
  findFile : String → Option FilePath
  /-- `ProgramTest::start_with_context`. -/
  startWithContext : ProgramTest → Bank
  /-- The account `ProgramTestContext::set_sysvar` writes for a clock. -/
  clockAccount : Clock → Account
  /-- `BanksClient::process_transaction`, paid and signed by the payer: the accounts it leaves. -/
  processTransaction : Bank → List Instruction → Except BanksClientError AccountMap
  /-- `system_instruction::transfer`. -/
  transfer : Pubkey → Pubkey → UInt64 → Instruction
  /-- `create_associated_token_account`. -/
  createAssociatedTokenAccount : Pubkey → Pubkey → Pubkey → Pubkey → Instruction
  /-- `get_associated_token_address_with_program_id`. -/
  getAssociatedTokenAddress : Pubkey → Pubkey → Pubkey → Pubkey
  /-- `spl_token::state::Account::pack`, into a buffer of its length. -/
  tokenAccountPack : TokenAccountState → Bytes
  /-- The amount of `StateWithExtensions::<spl_token_2022::state::Account>::unpack`. -/
  token2022Unpack : Bytes → Option TokenAccount
  /-- The data of a `StateWithExtensionsMut` whose base got an amount and was packed again. -/
  token2022SetAmount : Bytes → UInt64 → Option Bytes

/-- What a program test asks an AMM beside the methods of `Amm`. -/
class AmmProgram (α : Type) where
  label : α → String
  programId : α → Pubkey
  programDependencies : α → List (Pubkey × String)

/-- An SPL token swap AMM has no program dependencies, as the trait has it by default. -/
instance (crates : Crates) : AmmProgram (SplTokenSwapAmm crates) where
  label self := self.label
  programId self := self.programId
  programDependencies _ := []

/-- `spl_token::native_mint::ID`. -/
def nativeMintId : Pubkey := pubkey "So11111111111111111111111111111111111111112"

/-! ## Token accounts -/

section
variable {crates : Crates} (testCrates : ProgramTestCrates crates)

/-- `ProgramTestContext::set_account`. -/
def Bank.setAccount (self : Bank) (address : Pubkey) (account : Account) : Bank :=
  { self with accounts := self.accounts.insert address account }

/-- The token account `create_ata_account` packs. -/
def initializedTokenAccount (user mint : Pubkey) (amount : UInt64) (isNative : Option UInt64) :
    TokenAccountState where
  mint
  owner := user
  amount
  delegate := none
  state := .initialized
  isNative
  delegatedAmount := 0
  closeAuthority := none

/-- The `rent` of `create_ata_account`. -/
def tokenAccountRent : UInt64 := 2039280

/-- `create_ata_account`. -/
def createAtaAccount (user mint : Pubkey) (amount : UInt64) (tokenProgramId : Pubkey) :
    crates.Result (Pubkey × Account) := do
  let ata := testCrates.getAssociatedTokenAddress user mint tokenProgramId
  let (isNative, lamports) ←
    if mint = nativeMintId then do
      let rent := tokenAccountRent
      let lamports ← addU64 amount rent
      pure (some rent, lamports)
    else
      pure (none, 10000000)
  let tokenAccount := initializedTokenAccount user mint amount isNative
  pure (ata, {
    lamports
    data := testCrates.tokenAccountPack tokenAccount
    owner := tokenProgramId
    executable := false
    rentEpoch := 0 })

/-- The amount and the token program of a mint, by the tables. -/
def tokenMint (crates : Crates) (tables : TokenTables) (reserveMint : Pubkey) :
    crates.Result (UInt64 × Pubkey) :=
  match tables.tokenMintAndInAmount.find? fun entry => entry.1 = reserveMint with
  | some (_, inAmount) => .ok (inAmount, splTokenId)
  | none =>
    match tables.token2022MintAndInAmount.find? fun entry => entry.1 = reserveMint with
    | some (_, inAmount) => .ok (inAmount, splToken2022Id)
    | none => .error (.panic ("Token mint to be defined: " ++ crates.pubkeyToString reserveMint))

/-- The amount a token account is funded with. -/
def fundedAmount (crates : Crates) (inAmount : UInt64) : crates.Result UInt64 := do
  let product ← mulU64 inAmount 110
  pure (product / 10)

/-- The variables the loop over the mints carries. A key of the second map is set once more where a
mint comes twice. -/
structure TokenSetup where
  setupIxs : List Instruction
  ataToSetAmount : List (Pubkey × UInt64)
  mintToAtaWithProgramId : HashMap Pubkey (Pubkey × Pubkey)

/-- The body of the loop over the mints. Only the accounts of Token-2022 mints are made by a
transaction. The program noted for an account is the one of SPL tokens in both cases. -/
def setupMint (tables : TokenTables) (wallet : Pubkey) (s : TokenSetup) (reserveMint : Pubkey) :
    RustM crates.Error Bank TokenSetup := do
  let bank ← get
  let (inAmount, tokenProgramId) ← tokenMint crates tables reserveMint
  if tokenProgramId = splToken2022Id then
    let ata := testCrates.getAssociatedTokenAddress wallet reserveMint splToken2022Id
    let amount ← fundedAmount crates inAmount
    pure {
      setupIxs := s.setupIxs ++ [testCrates.createAssociatedTokenAccount bank.payer wallet
        reserveMint splToken2022Id]
      ataToSetAmount := s.ataToSetAmount.filter (·.1 ≠ ata) ++ [(ata, amount)]
      mintToAtaWithProgramId := s.mintToAtaWithProgramId.insert reserveMint (ata, splTokenId) }
  else
    let amount ← fundedAmount crates inAmount
    let (ata, tokenAccount) ← createAtaAccount testCrates wallet reserveMint amount splTokenId
    modify fun bank => bank.setAccount ata tokenAccount
    pure { s with
      mintToAtaWithProgramId := s.mintToAtaWithProgramId.insert reserveMint (ata, splTokenId) }

/-- The loop over the mints. -/
def setupMints (tables : TokenTables) (wallet : Pubkey) :
    TokenSetup → List Pubkey → RustM crates.Error Bank TokenSetup
  | s, [] => pure s
  | s, reserveMint :: reserveMints => do
    let s ← setupMint testCrates tables wallet s reserveMint
    setupMints tables wallet s reserveMints

/-- The loop over the accounts to fund. -/
def setAmounts : List (Pubkey × UInt64) → RustM crates.Error Bank Unit
  | [] => pure ()
  | (ata, setAmount) :: rest => do
    let bank ← get
    let account ← (unwrap (bank.accounts ata) : crates.Result Account)
    let data ← (unwrap (testCrates.token2022SetAmount account.data setAmount) :
      crates.Result Bytes)
    modify fun bank => bank.setAccount ata { account with data }
    setAmounts rest

/-- `setup_token_accounts`. -/
def setupTokenAccounts (tables : TokenTables) (wallet : Pubkey) (reserveMints : List Pubkey)
    (withBootstrapAmounts : Bool) :
    RustM crates.Error Bank (HashMap Pubkey (Pubkey × Pubkey)) := do
  let bank ← get
  let s ← setupMints testCrates tables wallet {
    setupIxs := [testCrates.transfer bank.payer wallet 1000000000]
    ataToSetAmount := []
    mintToAtaWithProgramId := HashMap.empty } reserveMints
  let bank ← get
  let accounts ← (unwrapOk (testCrates.processTransaction bank s.setupIxs) :
    crates.Result AccountMap)
  set { bank with accounts }
  if withBootstrapAmounts then
    setAmounts testCrates s.ataToSetAmount
  pure s.mintToAtaWithProgramId

/-- `jupiter::find_jupiter_program_authority`. -/
def findJupiterProgramAuthority (crates : Crates) (id : UInt8) : Pubkey :=
  crates.findProgramAddress [asciiBytes "authority", [id]] jupiterId

/-- `AmmTestHarness::setup_authority`. -/
def setupAuthority (tables : TokenTables) (reserveMints : List Pubkey) :
    RustM crates.Error Bank ProgramTestAuthority := do
  let authorityId := 0
  let programAuthority := findJupiterProgramAuthority crates authorityId
  let mintToAtaWithProgramId ←
    setupTokenAccounts testCrates tables programAuthority reserveMints false
  pure { id := authorityId, pubkey := programAuthority, mintToAtaWithProgramId }

/-- `AmmTestHarness::setup_user`, for a new key pair. -/
def setupUser (tables : TokenTables) (keypair : Pubkey) (reserveMints : List Pubkey) :
    RustM crates.Error Bank ProgramTestUser := do
  let mintToAtaWithProgramId ← setupTokenAccounts testCrates tables keypair reserveMints true
  pure { pubkey := keypair, mintToAtaWithProgramId }

/-! ## Loading -/

/-- `to_lowercase` and `replace(' ', "_")` of a label, which is ASCII text. -/
def modifiedLabel (label : String) : String :=
  String.ofList (label.toList.map fun c => if c = ' ' then '_' else c.toLower)

/-- The feature gate that some programs do not work under. -/
def deactivatedFeature : Pubkey := pubkey "7Vced912WrRnfjaiKRiNBcbuFw7RrnLv3E3z95Y4GTNc"

/-- `ProgramTest::add_program` without a builtin function. -/
def ProgramTest.addProgram (self : ProgramTest) (programName : String) (programId : Pubkey) :
    crates.Result ProgramTest :=
  if self.preferBpf then
    match testCrates.findFile (programName ++ ".so") with
    | some _ => .ok { self with programs := self.programs ++ [(programName, programId)] }
    | none => .error (.panic ("Program file data not available for " ++ programName ++ " (" ++
        crates.pubkeyToString programId ++ ")"))
  else
    .error (.panic ("Program processor not available for " ++ programName ++ " (" ++
      crates.pubkeyToString programId ++ ")"))

/-- The calls of `add_program`. -/
def ProgramTest.addPrograms (self : ProgramTest) :
    List (String × Pubkey) → crates.Result ProgramTest
  | [] => .ok self
  | (programName, programId) :: programs => do
    let pt ← self.addProgram testCrates programName programId
    pt.addPrograms programs

/-- The calls of `ProgramTest::add_account`, for the accounts that are no programs. -/
def ProgramTest.addAccounts (self : ProgramTest) (accountsSnapshot : AccountMap) : ProgramTest :=
  { self with
    accounts := fun k => (AmmTestHarness.livingAccounts accountsSnapshot k).or (self.accounts k) }

/-- The `ProgramTest` a test starts from. -/
def newProgramTest : ProgramTest where
  preferBpf := true
  deactivatedFeatures := [deactivatedFeature]
  programs := []
  accounts := HashMap.empty

/-- The programs a swap of an AMM runs, with their names. -/
def programsOf {α : Type} [AmmProgram α] (amm : α) : List (String × Pubkey) :=
  ("jupiter", jupiterId) :: (modifiedLabel (AmmProgram.label amm), AmmProgram.programId amm) ::
    (AmmProgram.programDependencies amm).map fun (programId, programName) =>
      (programName, programId)

/-- The accounts a test runs on: those of the snapshot, as `before_test_setup` has changed them. -/
def testAccounts {α : Type} (beforeTestSetup : Option (α → AccountMap → AccountMap)) (amm : α)
    (accountsSnapshot : AccountMap) : AccountMap :=
  match beforeTestSetup with
  | some beforeTestSetup => beforeTestSetup amm accountsSnapshot
  | none => accountsSnapshot

/-- The clock among the accounts. -/
def testClock (accountsSnapshot : AccountMap) : crates.Result (Option testCrates.Clock) :=
  match accountsSnapshot clockId with
  | some account => do
    let clock ← unwrap (testCrates.clockDeserialize account.data)
    pure (some clock)
  | none => pure none

/-- The bank of a test, with the clock set. -/
def startBank (pt : ProgramTest) (clock : Option testCrates.Clock) : Bank :=
  let context := testCrates.startWithContext pt
  match clock with
  | some clock => context.setAccount clockId (testCrates.clockAccount clock)
  | none => context

/-- `AmmTestHarness::load_program_test`, for the key pair of the user. The state is the AMM. -/
def AmmTestHarness.loadProgramTest {α : Type} [Amm crates α] [AmmProgram α]
    (self : AmmTestHarness crates) (tables : TokenTables)
    (beforeTestSetup : Option (α → AccountMap → AccountMap)) (keypair : Pubkey)
    (t : FileTree String) : RustM crates.Error α (Bank × AmmTestHarnessProgramTest) := do
  let amm ← get
  let pt ← newProgramTest.addPrograms testCrates (programsOf amm)
  let accountsSnapshot ← self.loadAccountsSnapshot t
  let accountsSnapshot := testAccounts beforeTestSetup amm accountsSnapshot
  let clock ← testClock testCrates accountsSnapshot
  let pt := pt.addAccounts accountsSnapshot
  (updateAmmPrecise accountsSnapshot).unwrap.times 3
  let amm ← get
  let bank := startBank testCrates pt clock
  let (programTestAuthority, bank) ←
    (setupAuthority testCrates tables (Amm.getReserveMints amm)).on bank
  let (programTestUser, bank) ←
    (setupUser testCrates tables keypair (Amm.getReserveMints amm)).on bank
  pure (bank, { programTestAuthority, programTestUser })

end

/-! ## What the set-up leaves -/

section
variable {crates : Crates} (testCrates : ProgramTestCrates crates) (tables : TokenTables)

/-- The associated token account of an SPL token. -/
def ProgramTestCrates.ata (wallet mint : Pubkey) : Pubkey :=
  testCrates.getAssociatedTokenAddress wallet mint splTokenId

/-- A new token account with an amount, and for a native one with lamports that back it, where they
fit. -/
def newTokenAccount (wallet mint : Pubkey) (amount : UInt64) : Option Account :=
  let account (lamports : UInt64) (isNative : Option UInt64) : Account := {
    lamports
    data := testCrates.tokenAccountPack (initializedTokenAccount wallet mint amount isNative)
    owner := splTokenId
    executable := false
    rentEpoch := 0 }
  if mint = nativeMintId then
    if amount.toNat + tokenAccountRent.toNat < 2 ^ 64 then
      some (account (amount + tokenAccountRent) (some tokenAccountRent))
    else
      none
  else
    some (account 10000000 none)

/-- The account a wallet is given for a mint: a new token account with eleven times the amount of
the table, where the mint is in the table and the numbers fit. -/
def fundedAccount (wallet mint : Pubkey) : Option Account :=
  (tables.tokenMintAndInAmount.find? fun entry => entry.1 = mint).bind fun (_, inAmount) =>
    if 110 * inAmount.toNat < 2 ^ 64 then
      newTokenAccount testCrates wallet mint (UInt64.ofNat (11 * inAmount.toNat))
    else
      none

/-- A mint of the table whose amounts fit: 110 times the amount, and for the native mint the eleven
times that an account is given together with the rent. -/
def TokenTables.CanFund (mint : Pubkey) : Prop :=
  ∃ entry, tables.tokenMintAndInAmount.find? (fun entry => entry.1 = mint) = some entry ∧
    110 * entry.2.toNat < 2 ^ 64 ∧
    (mint = nativeMintId → 11 * entry.2.toNat + tokenAccountRent.toNat < 2 ^ 64)

/-- The token accounts of a wallet. -/
def fundedAccounts (wallet : Pubkey) (mints : List Pubkey) : List (Pubkey × Account) :=
  mints.filterMap fun mint =>
    (fundedAccount testCrates tables wallet mint).map fun account =>
      (testCrates.ata wallet mint, account)

/-- The files of the programs a swap runs are there. -/
def HasProgramFiles {α : Type} [AmmProgram α] (amm : α) : Prop :=
  ∀ program ∈ programsOf amm, (testCrates.findFile (program.1 ++ ".so")).isSome

variable {testCrates tables} {wallet mint : Pubkey} {mints : List Pubkey}

/-- `in_amount * 110 / 10` is eleven times the amount, where the product fits. -/
theorem fundedAmount_eq_ok {inAmount amount : UInt64} :
    fundedAmount crates inAmount = .ok amount ↔
      110 * inAmount.toNat < 2 ^ 64 ∧ amount = UInt64.ofNat (11 * inAmount.toNat) := by
  have hbound : (110 : UInt64).toNat = 110 := rfl
  have hten : (10 : UInt64).toNat = 10 := rfl
  simp only [fundedAmount, Outcome.bind_ok, mulU64_eq_ok, hbound, Nat.mul_comm inAmount.toNat]
  have hvalue : 110 * inAmount.toNat < 2 ^ 64 →
      inAmount * 110 / 10 = UInt64.ofNat (11 * inAmount.toNat) := by
    intro hfits
    have hsmall : 11 * inAmount.toNat < 2 ^ 64 := by omega
    have hnat : (UInt64.ofNat (11 * inAmount.toNat)).toNat = 11 * inAmount.toNat :=
      UInt64.toNat_ofNat_of_lt hsmall
    apply UInt64.toNat_inj.1
    rw [hnat, UInt64.toNat_div, UInt64.toNat_mul, hbound, hten, Nat.mod_eq_of_lt (by omega)]
    omega
  constructor
  · rintro ⟨_, ⟨hfits, rfl⟩, hpure⟩
    cases hpure
    exact ⟨hfits, hvalue hfits⟩
  · rintro ⟨hfits, rfl⟩
    exact ⟨_, ⟨hfits, rfl⟩, congrArg Except.ok (hvalue hfits)⟩

theorem createAtaAccount_eq_ok {amount : UInt64} {r : Pubkey × Account} :
    createAtaAccount testCrates wallet mint amount splTokenId = .ok r ↔
      ∃ account, newTokenAccount testCrates wallet mint amount = some account ∧
        r = (testCrates.ata wallet mint, account) := by
  unfold createAtaAccount newTokenAccount
  by_cases hnative : mint = nativeMintId
  · simp only [if_pos hnative, Outcome.bind_ok, addU64_eq_ok]
    constructor
    · rintro ⟨_, ⟨hfits, rfl⟩, _, hpair, hr⟩
      cases hpair
      cases hr
      exact ⟨_, if_pos hfits, rfl⟩
    · rintro ⟨account, haccount, rfl⟩
      split at haccount
      · next hfits =>
        obtain rfl := Option.some.inj haccount
        exact ⟨_, ⟨hfits, rfl⟩, _, rfl, rfl⟩
      · cases haccount
  · simp only [if_neg hnative]
    constructor
    · intro h
      cases h
      exact ⟨_, rfl, rfl⟩
    · rintro ⟨account, haccount, rfl⟩
      cases haccount
      rfl

/-- Without Token-2022 mints, the accounts the set-up makes are the funded ones. -/
theorem setupMint_eq_ok (htables : tables.token2022MintAndInAmount = []) {s s' : TokenSetup}
    {bank bank' : Bank} :
    setupMint testCrates tables wallet s mint bank = .ok s' bank' ↔
      ∃ account, fundedAccount testCrates tables wallet mint = some account ∧
        bank' = bank.setAccount (testCrates.ata wallet mint) account ∧
        s' = { s with mintToAtaWithProgramId :=
          s.mintToAtaWithProgramId.insert mint (testCrates.ata wallet mint, splTokenId) } := by
  have hprograms : splTokenId ≠ splToken2022Id := by decide +kernel
  unfold setupMint
  rw [RustM.get_bind, RustM.liftM_bind_ok]
  unfold tokenMint fundedAccount
  cases hfind : tables.tokenMintAndInAmount.find? fun entry => entry.1 = mint with
  | none => simp [htables]
  | some entry =>
    obtain ⟨mint', inAmount⟩ := entry
    simp only [Except.ok.injEq, exists_eq_left', if_neg hprograms, RustM.liftM_bind_ok,
      fundedAmount_eq_ok, createAtaAccount_eq_ok, RustM.modify_bind, RustM.pure_eq_ok,
      Option.bind_some]
    constructor
    · rintro ⟨_, ⟨hfits, rfl⟩, _, ⟨account, haccount, rfl⟩, rfl, rfl⟩
      exact ⟨account, (if_pos hfits).trans haccount, rfl, rfl⟩
    · rintro ⟨account, haccount, rfl, rfl⟩
      split at haccount
      · next hfits => exact ⟨_, ⟨hfits, rfl⟩, _, ⟨account, haccount, rfl⟩, rfl, rfl⟩
      · cases haccount

/-- What a wallet is funded with. -/
theorem fundedAccount_eq_some {account : Account} :
    fundedAccount testCrates tables wallet mint = some account ↔
      ∃ entry, tables.tokenMintAndInAmount.find? (fun entry => entry.1 = mint) = some entry ∧
        110 * entry.2.toNat < 2 ^ 64 ∧
        newTokenAccount testCrates wallet mint (UInt64.ofNat (11 * entry.2.toNat)) =
          some account := by
  unfold fundedAccount
  rw [Option.bind_eq_some_iff]
  refine exists_congr fun ⟨mint', inAmount⟩ => and_congr_right fun _ => ?_
  dsimp only
  constructor
  · intro h
    split at h
    · next hfits => exact ⟨hfits, h⟩
    · cases h
  · rintro ⟨hfits, haccount⟩
    exact (if_pos hfits).trans haccount

/-- A new token account holds the amount. -/
theorem data_newTokenAccount {amount : UInt64} {account : Account}
    (h : newTokenAccount testCrates wallet mint amount = some account) :
    ∃ isNative, account.data =
      testCrates.tokenAccountPack (initializedTokenAccount wallet mint amount isNative) := by
  unfold newTokenAccount at h
  split at h
  · split at h
    · obtain rfl := Option.some.inj h
      exact ⟨_, rfl⟩
    · cases h
  · obtain rfl := Option.some.inj h
    exact ⟨_, rfl⟩

/-- A wallet is funded with a mint of the table where the numbers fit. -/
theorem isSome_fundedAccount_iff :
    (fundedAccount testCrates tables wallet mint).isSome ↔ tables.CanFund mint := by
  unfold fundedAccount TokenTables.CanFund
  cases tables.tokenMintAndInAmount.find? fun entry => entry.1 = mint with
  | none => simp
  | some entry =>
    obtain ⟨mint', inAmount⟩ := entry
    by_cases hfits : 110 * inAmount.toNat < 2 ^ 64
    · have hsmall : 11 * inAmount.toNat < 2 ^ 64 := by omega
      have hnat : (UInt64.ofNat (11 * inAmount.toNat)).toNat = 11 * inAmount.toNat :=
        UInt64.toNat_ofNat_of_lt hsmall
      simp only [Option.bind_some, if_pos hfits, newTokenAccount, hnat, Option.some.injEq,
        exists_eq_left']
      by_cases hnative : mint = nativeMintId
      · rw [if_pos hnative, and_iff_right hfits]
        split
        · next hrent => exact iff_of_true rfl fun _ => hrent
        · next hrent => exact iff_of_false nofun fun h => hrent (h hnative)
      · rw [if_neg hnative]
        exact iff_of_true rfl ⟨hfits, fun h => absurd h hnative⟩
    · simp only [Option.bind_some, if_neg hfits, Option.some.injEq, exists_eq_left']
      exact iff_of_false nofun fun h => hfits h.1

theorem fundedAccounts_cons {account : Account}
    (h : fundedAccount testCrates tables wallet mint = some account) :
    fundedAccounts testCrates tables wallet (mint :: mints) =
      (testCrates.ata wallet mint, account) :: fundedAccounts testCrates tables wallet mints :=
  List.filterMap_cons_some (by rw [h]; rfl)

/-- What the loop over the mints leaves. -/
theorem setupMints_eq_ok (htables : tables.token2022MintAndInAmount = []) {s s' : TokenSetup}
    {bank bank' : Bank} :
    setupMints testCrates tables wallet s mints bank = .ok s' bank' ↔
      (∀ mint ∈ mints, (fundedAccount testCrates tables wallet mint).isSome) ∧
        bank' = { bank with
          accounts := bank.accounts.insertAll (fundedAccounts testCrates tables wallet mints) } ∧
        s' = { s with mintToAtaWithProgramId :=
          s.mintToAtaWithProgramId.insertAll (mints.map fun mint =>
            (mint, (testCrates.ata wallet mint, splTokenId))) } := by
  induction mints generalizing s s' bank bank' with
  | nil =>
    rw [setupMints, RustM.pure_eq_ok]
    constructor
    · rintro ⟨rfl, rfl⟩
      exact ⟨nofun, rfl, rfl⟩
    · rintro ⟨-, rfl, rfl⟩
      exact ⟨rfl, rfl⟩
  | cons mint mints ih =>
    rw [setupMints, RustM.bind_ok, List.forall_mem_cons]
    constructor
    · rintro ⟨s₁, bank₁, hmint, hmints⟩
      obtain ⟨account, haccount, rfl, rfl⟩ := (setupMint_eq_ok htables).1 hmint
      obtain ⟨hfunded, rfl, rfl⟩ := ih.1 hmints
      rw [fundedAccounts_cons haccount, haccount]
      exact ⟨⟨rfl, hfunded⟩, rfl, rfl⟩
    · rintro ⟨⟨hmint, hmints⟩, rfl, rfl⟩
      obtain ⟨account, haccount⟩ := Option.isSome_iff_exists.1 hmint
      rw [fundedAccounts_cons haccount]
      refine ⟨_, _, (setupMint_eq_ok htables).2 ⟨account, haccount, rfl, rfl⟩, ?_⟩
      rw [ih]
      exact ⟨hmints, rfl, rfl⟩

/-- **The set-up of a wallet** succeeds where every mint can be funded and the bank takes the
transfer. The bank then has what it had, the token accounts, and what the transfer did. -/
theorem setupTokenAccounts_eq_ok (htables : tables.token2022MintAndInAmount = [])
    {bootstrap : Bool} {bank bank' : Bank} {m : HashMap Pubkey (Pubkey × Pubkey)} :
    setupTokenAccounts testCrates tables wallet mints bootstrap bank = .ok m bank' ↔
      (∀ mint ∈ mints, (fundedAccount testCrates tables wallet mint).isSome) ∧
        (∃ accounts, testCrates.processTransaction
            { bank with
              accounts := bank.accounts.insertAll (fundedAccounts testCrates tables wallet mints) }
            [testCrates.transfer bank.payer wallet 1000000000] = .ok accounts ∧
          bank' = { bank with accounts }) ∧
        m = HashMap.ofList
          (mints.map fun mint => (mint, (testCrates.ata wallet mint, splTokenId))) := by
  have hrun : setupTokenAccounts testCrates tables wallet mints bootstrap bank =
      (setupMints testCrates tables wallet {
          setupIxs := [testCrates.transfer bank.payer wallet 1000000000]
          ataToSetAmount := []
          mintToAtaWithProgramId := HashMap.empty } mints >>= fun s => do
        let bank ← get
        let accounts ← (unwrapOk (testCrates.processTransaction bank s.setupIxs) :
          crates.Result AccountMap)
        set { bank with accounts }
        if bootstrap then
          setAmounts testCrates s.ataToSetAmount
        pure s.mintToAtaWithProgramId) bank := rfl
  rw [hrun, RustM.bind_ok]
  constructor
  · rintro ⟨s, bank₁, hmints, hrest⟩
    obtain ⟨hfunded, rfl, rfl⟩ := (setupMints_eq_ok htables).1 hmints
    rw [RustM.get_bind, RustM.liftM_bind_ok] at hrest
    obtain ⟨accounts, haccounts, hrest⟩ := hrest
    -- no account is left to fund
    have hdone : HashMap.ofList (mints.map fun mint =>
        (mint, (testCrates.ata wallet mint, splTokenId))) = m ∧ { bank with accounts } = bank' := by
      cases bootstrap <;> exact RustM.pure_eq_ok.1 hrest
    obtain ⟨rfl, rfl⟩ := hdone
    exact ⟨hfunded, ⟨accounts, unwrapOk_eq_ok.1 haccounts, rfl⟩, rfl⟩
  · rintro ⟨hfunded, ⟨accounts, haccounts, rfl⟩, rfl⟩
    refine ⟨_, _, (setupMints_eq_ok htables).2 ⟨hfunded, rfl, rfl⟩, ?_⟩
    rw [RustM.get_bind, RustM.liftM_bind_ok]
    refine ⟨accounts, unwrapOk_eq_ok.2 haccounts, ?_⟩
    cases bootstrap <;> rfl

theorem accounts_startBank (pt : ProgramTest) (clock : testCrates.Clock) :
    (startBank testCrates pt (some clock)).accounts =
      (testCrates.startWithContext pt).accounts.insert clockId (testCrates.clockAccount clock) :=
  rfl

/-- Programs are added where all their files are there. -/
theorem ProgramTest.addPrograms_eq_ok {programs : List (String × Pubkey)} {pt pt' : ProgramTest}
    (hbpf : pt.preferBpf = true) :
    pt.addPrograms testCrates programs = .ok pt' ↔
      (∀ program ∈ programs, (testCrates.findFile (program.1 ++ ".so")).isSome) ∧
        pt' = { pt with programs := pt.programs ++ programs } := by
  induction programs generalizing pt with
  | nil =>
    rw [addPrograms, List.append_nil, and_iff_right nofun]
    exact ⟨fun h => (Except.ok.inj h).symm, fun h => congrArg Except.ok h.symm⟩
  | cons program programs ih =>
    obtain ⟨programName, programId⟩ := program
    rw [addPrograms, addProgram, if_pos hbpf, List.forall_mem_cons]
    cases hfile : testCrates.findFile (programName ++ ".so") with
    | none =>
      refine iff_of_false ?_ fun h => Bool.false_ne_true h.1.1
      intro h
      cases h
    | some file =>
      have hih := @ih { pt with programs := pt.programs ++ [(programName, programId)] } hbpf
      rw [List.append_assoc, List.singleton_append] at hih
      rw [Outcome.ok_bind, and_iff_right (show (some file).isSome from rfl)]
      exact hih

/-- The `ProgramTest` of an AMM, filled: the programs a swap runs, and the accounts that are no
programs. -/
def programTestOf {α : Type} [AmmProgram α] (amm : α) (accountsSnapshot : AccountMap) :
    ProgramTest where
  preferBpf := true
  deactivatedFeatures := [deactivatedFeature]
  programs := programsOf amm
  accounts := AmmTestHarness.livingAccounts accountsSnapshot

theorem addAccounts_newProgramTest (programs : List (String × Pubkey))
    (accountsSnapshot : AccountMap) :
    ({ newProgramTest with programs } : ProgramTest).addAccounts accountsSnapshot =
      { newProgramTest with
        programs, accounts := AmmTestHarness.livingAccounts accountsSnapshot } := by
  have haccounts : (fun k => (AmmTestHarness.livingAccounts accountsSnapshot k).or
      (HashMap.empty k)) = AmmTestHarness.livingAccounts accountsSnapshot :=
    funext fun _ => Option.or_none
  exact congrArg (fun accounts : AccountMap => ({ newProgramTest with programs, accounts } :
    ProgramTest)) haccounts

/-- What loading a program test has done. -/
theorem AmmTestHarness.loadProgramTest_eq_ok {α : Type} [Amm crates α] [AmmProgram α]
    {self : AmmTestHarness crates} {beforeTestSetup : Option (α → AccountMap → AccountMap)}
    {keypair : Pubkey} {t : FileTree String} {amm amm' : α} {bank : Bank}
    {test : AmmTestHarnessProgramTest} :
    self.loadProgramTest testCrates tables beforeTestSetup keypair t amm = .ok (bank, test) amm' ↔
      HasProgramFiles testCrates amm ∧
      ∃ accountsSnapshot clock bank₁, self.loadAccountsSnapshot t = .ok accountsSnapshot ∧
        testClock testCrates (testAccounts beforeTestSetup amm accountsSnapshot) = .ok clock ∧
        (updateAmmPrecise (testAccounts beforeTestSetup amm accountsSnapshot)).unwrap.times 3 amm =
          .ok () amm' ∧
        setupAuthority testCrates tables (Amm.getReserveMints amm') (startBank testCrates
          (programTestOf amm (testAccounts beforeTestSetup amm accountsSnapshot)) clock) =
          .ok test.programTestAuthority bank₁ ∧
        setupUser testCrates tables keypair (Amm.getReserveMints amm') bank₁ =
          .ok test.programTestUser bank := by
  have hadd : ∀ pt, newProgramTest.addPrograms testCrates (programsOf amm) = .ok pt ↔
      HasProgramFiles testCrates amm ∧ pt = { newProgramTest with programs := programsOf amm } :=
    fun pt => ProgramTest.addPrograms_eq_ok rfl
  have hfilled : ∀ accountsSnapshot : AccountMap,
      ({ newProgramTest with programs := programsOf amm } : ProgramTest).addAccounts
        accountsSnapshot = programTestOf amm accountsSnapshot :=
    addAccounts_newProgramTest _
  unfold loadProgramTest
  rw [RustM.get_bind, RustM.liftM_bind_ok]
  constructor
  · rintro ⟨pt, hpt, hrest⟩
    obtain ⟨hfiles, rfl⟩ := (hadd pt).1 hpt
    obtain ⟨accountsSnapshot, hload, hrest⟩ := RustM.liftM_bind_ok.1 hrest
    obtain ⟨clock, hclock, hrest⟩ := RustM.liftM_bind_ok.1 hrest
    obtain ⟨⟨⟩, amm₁, hupdate, hrest⟩ := RustM.bind_ok.1 hrest
    rw [RustM.get_bind, hfilled] at hrest
    obtain ⟨⟨authority, bank₁⟩, hauthority, hrest⟩ := RustM.liftM_bind_ok.1 hrest
    obtain ⟨⟨user, bank₂⟩, huser, hrest⟩ := RustM.liftM_bind_ok.1 hrest
    obtain ⟨hpair, rfl⟩ := RustM.pure_eq_ok.1 hrest
    cases hpair
    exact ⟨hfiles, accountsSnapshot, clock, bank₁, hload, hclock, hupdate,
      RustM.on_eq_ok.1 hauthority, RustM.on_eq_ok.1 huser⟩
  · rintro ⟨hfiles, accountsSnapshot, clock, bank₁, hload, hclock, hupdate, hauthority, huser⟩
    refine ⟨_, (hadd _).2 ⟨hfiles, rfl⟩, RustM.liftM_bind_ok.2 ⟨accountsSnapshot, hload,
      RustM.liftM_bind_ok.2 ⟨clock, hclock, ?_⟩⟩⟩
    rw [RustM.bind_of_ok hupdate, RustM.get_bind, hfilled]
    exact RustM.liftM_bind_ok.2 ⟨_, RustM.on_eq_ok.2 hauthority,
      RustM.liftM_bind_ok.2 ⟨_, RustM.on_eq_ok.2 huser, rfl⟩⟩

/-- What setting up the program authority has done. -/
theorem setupAuthority_eq_ok {bank bank' : Bank} {authority : ProgramTestAuthority} :
    setupAuthority testCrates tables mints bank = .ok authority bank' ↔
      authority.id = 0 ∧ authority.pubkey = findJupiterProgramAuthority crates 0 ∧
        setupTokenAccounts testCrates tables (findJupiterProgramAuthority crates 0) mints false
          bank = .ok authority.mintToAtaWithProgramId bank' := by
  unfold setupAuthority
  rw [RustM.bind_ok]
  constructor
  · rintro ⟨m, bank₁, hsetup, hrest⟩
    obtain ⟨rfl, rfl⟩ := RustM.pure_eq_ok.1 hrest
    exact ⟨rfl, rfl, hsetup⟩
  · rintro ⟨hid, hpubkey, hsetup⟩
    obtain ⟨id, pubkey, m⟩ := authority
    obtain rfl : id = 0 := hid
    obtain rfl : pubkey = findJupiterProgramAuthority crates 0 := hpubkey
    exact ⟨m, bank', hsetup, rfl⟩

/-- What setting up the user has done. -/
theorem setupUser_eq_ok {keypair : Pubkey} {bank bank' : Bank} {user : ProgramTestUser} :
    setupUser testCrates tables keypair mints bank = .ok user bank' ↔
      user.pubkey = keypair ∧ setupTokenAccounts testCrates tables keypair mints true bank =
        .ok user.mintToAtaWithProgramId bank' := by
  unfold setupUser
  rw [RustM.bind_ok]
  constructor
  · rintro ⟨m, bank₁, hsetup, hrest⟩
    obtain ⟨rfl, rfl⟩ := RustM.pure_eq_ok.1 hrest
    exact ⟨rfl, hsetup⟩
  · rintro ⟨hpubkey, hsetup⟩
    obtain ⟨pubkey, m⟩ := user
    obtain rfl : pubkey = keypair := hpubkey
    exact ⟨m, bank', hsetup, rfl⟩

end

end JupiterAmm
