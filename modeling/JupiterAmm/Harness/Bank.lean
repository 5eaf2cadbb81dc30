import JupiterAmm.Harness.ProgramTest

/-!
# The bank a test runs on

A test of a pool that loads a snapshot of a chain runs on a bank that agrees with the chain on the
pool's accounts and on the clock (`loadProgramTest_live`). That rests on how the test framework
behaves, and on the keys of the test being new. The bank loads exactly where the programs' files are
found, the snapshot has the clock and updates the pool, and the wallets of the test can be funded
with the pool's mints (`loadProgramTest_succeeds_iff`).
-/

namespace JupiterAmm

open Rust Borsh

/-! ## What the framework promises -/

/-- The owner of the sysvar accounts. -/
def sysvarId : Pubkey := pubkey "Sysvar1111111111111111111111111111111111111"

section
variable {crates : Crates} (testCrates : ProgramTestCrates crates)

/-- A bank starts with the accounts of a program test, up to the sysvars. -/
def ProgramTestCrates.StartsWithAccounts (pt : ProgramTest) : Prop :=
  ∀ k account, pt.accounts k = some account → account.owner ≠ sysvarId →
    (testCrates.startWithContext pt).accounts k = some account

/-- The account of a clock that was set holds the clock. -/
def ProgramTestCrates.SetsClock : Prop :=
  ∀ clock, testCrates.clockDeserialize (testCrates.clockAccount clock).data = some clock

/-- A transaction changes only its payer and what its instructions may write. -/
def ProgramTestCrates.KeepsReadonly : Prop :=
  ∀ (bank : Bank) ixs accounts, testCrates.processTransaction bank ixs = .ok accounts →
    ∀ k, k ≠ bank.payer →
      (∀ ix ∈ ixs, ∀ accountMeta ∈ ix.accounts, accountMeta.pubkey = k →
        accountMeta.isWritable = false) →
      accounts k = bank.accounts k

/-- A transfer names the two accounts it is between. -/
def ProgramTestCrates.TransfersBetween : Prop :=
  ∀ source destination lamports,
    ∀ accountMeta ∈ (testCrates.transfer source destination lamports).accounts,
      accountMeta.pubkey = source ∨ accountMeta.pubkey = destination

/-- A bank takes the transfers with which wallets are set up, one after the other, each with the
wallet's token accounts there. -/
def TakesTransfers (tables : TokenTables) (mints : List Pubkey) : Bank → List Pubkey → Prop
  | _, [] => True
  | bank, wallet :: wallets => ∃ accounts,
    testCrates.processTransaction
        { bank with
          accounts := bank.accounts.insertAll (fundedAccounts testCrates tables wallet mints) }
        [testCrates.transfer bank.payer wallet 1000000000] = .ok accounts ∧
      TakesTransfers tables mints { bank with accounts } wallets

/-- A token account that was packed unpacks to its amount. -/
def ProgramTestCrates.UnpacksTokenAccounts : Prop :=
  ∀ account : TokenAccountState, account.state ≠ .uninitialized →
    testCrates.token2022Unpack (testCrates.tokenAccountPack account) = some ⟨account.amount⟩

/-- The keys a test makes are new: the payer, the user, the program authority and their token
accounts have no account among those of the snapshot, and are different from each other. -/
structure FreshKeys (payer keypair : Pubkey) (snapshot : AccountMap) (mints : List Pubkey) :
    Prop where
  notPayer : payer ∉ [keypair, findJupiterProgramAuthority crates 0]
  user : keypair ≠ findJupiterProgramAuthority crates 0
  wallets : ∀ k ∈ [payer, keypair, findJupiterProgramAuthority crates 0], snapshot k = none
  atas : ∀ wallet ∈ [keypair, findJupiterProgramAuthority crates 0], ∀ mint ∈ mints,
    testCrates.ata wallet mint ∉ [payer, keypair, findJupiterProgramAuthority crates 0] ∧
      snapshot (testCrates.ata wallet mint) = none
  injective : ∀ wallet ∈ [keypair, findJupiterProgramAuthority crates 0],
    ∀ wallet' ∈ [keypair, findJupiterProgramAuthority crates 0], ∀ mint ∈ mints, ∀ mint' ∈ mints,
      testCrates.ata wallet mint = testCrates.ata wallet' mint' → wallet = wallet' ∧ mint = mint'

/-- The wallets of a test are set up: the user and the program authority have their token accounts,
noted in the test, with eleven times the amount of each mint. -/
structure SetUp (tables : TokenTables) (keypair : Pubkey) (mints : List Pubkey) (bank : Bank)
    (test : AmmTestHarnessProgramTest) : Prop where
  user : test.programTestUser.pubkey = keypair
  authority : test.programTestAuthority.id = 0 ∧
    test.programTestAuthority.pubkey = findJupiterProgramAuthority crates 0
  userAtas : ∀ mint ∈ mints, test.programTestUser.mintToAtaWithProgramId mint =
    some (testCrates.ata keypair mint, splTokenId)
  authorityAtas : ∀ mint ∈ mints, test.programTestAuthority.mintToAtaWithProgramId mint =
    some (testCrates.ata (findJupiterProgramAuthority crates 0) mint, splTokenId)
  funded : ∀ wallet ∈ [keypair, findJupiterProgramAuthority crates 0], ∀ mint ∈ mints, ∃ account,
    fundedAccount testCrates tables wallet mint = some account ∧
    bank.accounts (testCrates.ata wallet mint) = some account

/-- The bank of a test of a pool: it agrees with a chain on the pool's accounts and on the clock,
and the wallets of the test are set up. -/
structure LoadedBank (tables : TokenTables) (chain : AccountMap) (live : SplTokenSwapAmm crates)
    (keypair : Pubkey) (bank : Bank) (test : AmmTestHarnessProgramTest) : Prop where
  accounts : ∀ k ∈ live.snapshotAccounts, ∀ account,
    AmmTestHarness.livingAccounts chain k = some account → account.owner ≠ sysvarId → k ≠ clockId →
    bank.accounts k = some account
  clock : ∀ account clock, AmmTestHarness.livingAccounts chain clockId = some account →
    testCrates.clockDeserialize account.data = some clock →
    ∃ account', bank.accounts clockId = some account' ∧
      testCrates.clockDeserialize account'.data = some clock
  setUp : SetUp testCrates tables keypair live.getReserveMints bank test

variable {testCrates} {tables : TokenTables} {wallet : Pubkey} {mints : List Pubkey}
  {bootstrap : Bool} {bank₀ bank bank' : Bank} {m : HashMap Pubkey (Pubkey × Pubkey)}

theorem mem_fundedAccounts {k : Pubkey} {account : Account} :
    (k, account) ∈ fundedAccounts testCrates tables wallet mints ↔
      ∃ mint ∈ mints, fundedAccount testCrates tables wallet mint = some account ∧
        testCrates.ata wallet mint = k := by
  simp only [fundedAccounts, List.mem_filterMap, Option.map_eq_some_iff, Prod.mk.injEq]
  constructor
  · rintro ⟨mint, hmint, account', haccount, hata, rfl⟩
    exact ⟨mint, hmint, haccount, hata⟩
  · rintro ⟨mint, hmint, haccount, hata⟩
    exact ⟨mint, hmint, account, haccount, hata, rfl⟩

section
variable (hkeeps : testCrates.KeepsReadonly) (htransfer : testCrates.TransfersBetween)
  (htables : tables.token2022MintAndInAmount = [])
  (h : setupTokenAccounts testCrates tables wallet mints bootstrap bank = .ok m bank')
include hkeeps htransfer htables h

/-- What a set-up leaves alone, but for the payer and the wallet: all but the token accounts it
makes. -/
theorem setupTokenAccounts_accounts :
    bank'.payer = bank.payer ∧ ∀ k, k ≠ bank.payer → k ≠ wallet →
      bank'.accounts k =
        bank.accounts.insertAll (fundedAccounts testCrates tables wallet mints) k := by
  obtain ⟨-, ⟨accounts, haccounts, rfl⟩, -⟩ := (setupTokenAccounts_eq_ok htables).1 h
  refine ⟨rfl, fun k hpayer hwallet => hkeeps _ _ _ haccounts k hpayer ?_⟩
  intro ix hix accountMeta hmeta hk
  obtain rfl := List.mem_singleton.1 hix
  rcases htransfer _ _ _ accountMeta hmeta with heq | heq
  · exact absurd (hk.symm.trans heq) hpayer
  · exact absurd (hk.symm.trans heq) hwallet

/-- An account that is no token account of the wallet is left alone. -/
theorem setupTokenAccounts_frame {k : Pubkey} (hpayer : k ≠ bank.payer) (hwallet : k ≠ wallet)
    (hatas : ∀ mint ∈ mints, testCrates.ata wallet mint ≠ k) :
    bank'.accounts k = bank.accounts k := by
  rw [(setupTokenAccounts_accounts hkeeps htransfer htables h).2 k hpayer hwallet]
  apply HashMap.insertAll_of_notMem
  intro hmem
  obtain ⟨⟨k', account⟩, hpair, rfl⟩ := List.mem_map.1 hmem
  obtain ⟨mint, hmint, -, hata⟩ := mem_fundedAccounts.1 hpair
  exact hatas mint hmint hata

/-- The token accounts of the wallet are funded. -/
theorem setupTokenAccounts_funded {mint : Pubkey} (hmint : mint ∈ mints)
    (hpayer : testCrates.ata wallet mint ≠ bank.payer)
    (hwallet : testCrates.ata wallet mint ≠ wallet)
    (hinjective : ∀ mint' ∈ mints, testCrates.ata wallet mint' = testCrates.ata wallet mint →
      mint' = mint) :
    ∃ account, fundedAccount testCrates tables wallet mint = some account ∧
      bank'.accounts (testCrates.ata wallet mint) = some account := by
  obtain ⟨hfunded, -, -⟩ := (setupTokenAccounts_eq_ok htables).1 h
  obtain ⟨account, haccount⟩ := Option.isSome_iff_exists.1 (hfunded mint hmint)
  refine ⟨account, haccount, ?_⟩
  rw [(setupTokenAccounts_accounts hkeeps htransfer htables h).2 _ hpayer hwallet,
    HashMap.insertAll_eq_or, HashMap.ofList_of_mem (v := account), Option.some_or]
  · exact mem_fundedAccounts.2 ⟨mint, hmint, haccount, rfl⟩
  · intro account' hmem
    obtain ⟨mint', hmint', haccount', hata⟩ := mem_fundedAccounts.1 hmem
    rw [hinjective mint' hmint' hata, haccount] at haccount'
    exact (Option.some.inj haccount').symm

omit hkeeps htransfer in
/-- The map a set-up returns. -/
theorem setupTokenAccounts_map {mint : Pubkey} (hmint : mint ∈ mints) :
    m mint = some (testCrates.ata wallet mint, splTokenId) := by
  obtain ⟨-, -, rfl⟩ := (setupTokenAccounts_eq_ok htables).1 h
  apply HashMap.ofList_of_mem
  · exact List.mem_map.2 ⟨mint, hmint, rfl⟩
  · intro v hv
    obtain ⟨mint', -, heq⟩ := List.mem_map.1 hv
    obtain ⟨rfl, rfl⟩ := Prod.mk.inj heq
    rfl

end

/-- **The two set-ups of a test**, for new keys: they leave alone what is not the payer's, a
wallet's or one of their token accounts, and fund the token accounts of both wallets. -/
theorem setUps_eq_ok (hkeeps : testCrates.KeepsReadonly) (htransfer : testCrates.TransfersBetween)
    (htables : tables.token2022MintAndInAmount = []) {keypair : Pubkey} {snapshot : AccountMap}
    (hfresh : FreshKeys testCrates bank₀.payer keypair snapshot mints)
    {test : AmmTestHarnessProgramTest}
    (hauthority : setupAuthority testCrates tables mints bank₀ = .ok test.programTestAuthority bank)
    (huser : setupUser testCrates tables keypair mints bank = .ok test.programTestUser bank') :
    (∀ k, k ∉ [bank₀.payer, keypair, findJupiterProgramAuthority crates 0] →
      (∀ wallet ∈ [keypair, findJupiterProgramAuthority crates 0], ∀ mint ∈ mints,
        testCrates.ata wallet mint ≠ k) → bank'.accounts k = bank₀.accounts k) ∧
    SetUp testCrates tables keypair mints bank' test := by
  obtain ⟨hid, hpubkey, hauthority⟩ := setupAuthority_eq_ok.1 hauthority
  obtain ⟨huserKey, huser⟩ := setupUser_eq_ok.1 huser
  -- the payer is the same all along
  have hpayer := (setupTokenAccounts_accounts hkeeps htransfer htables hauthority).1
  have huserMem : keypair ∈ [keypair, findJupiterProgramAuthority crates 0] := by simp
  have hauthorityMem :
      findJupiterProgramAuthority crates 0 ∈ [keypair, findJupiterProgramAuthority crates 0] := by
    simp
  -- the token accounts are neither the payer nor a wallet
  have hata : ∀ wallet ∈ [keypair, findJupiterProgramAuthority crates 0], ∀ mint ∈ mints,
      testCrates.ata wallet mint ≠ bank₀.payer ∧ testCrates.ata wallet mint ≠ keypair ∧
        testCrates.ata wallet mint ≠ findJupiterProgramAuthority crates 0 := by
    intro wallet hwallet mint hmint
    simpa using (hfresh.atas wallet hwallet mint hmint).1
  refine ⟨?_, huserKey, ⟨hid, hpubkey⟩, ?_, ?_, ?_⟩
  · intro k hk hatas
    simp only [List.mem_cons, List.not_mem_nil, or_false, not_or] at hk
    obtain ⟨hnePayer, hneUser, hneAuthority⟩ := hk
    exact (setupTokenAccounts_frame hkeeps htransfer htables huser (hpayer.symm ▸ hnePayer) hneUser
      (hatas keypair huserMem)).trans (setupTokenAccounts_frame hkeeps htransfer htables hauthority
      hnePayer hneAuthority (hatas _ hauthorityMem))
  · intro mint hmint
    exact setupTokenAccounts_map htables huser hmint
  · intro mint hmint
    exact setupTokenAccounts_map htables hauthority hmint
  · intro wallet hwallet mint hmint
    obtain ⟨hataPayer, hataUser, hataAuthority⟩ := hata wallet hwallet mint hmint
    rcases List.mem_pair.1 hwallet with rfl | rfl
    · exact setupTokenAccounts_funded hkeeps htransfer htables huser hmint (hpayer.symm ▸ hataPayer)
        hataUser fun mint' hmint' heq =>
          (hfresh.injective _ hwallet _ hwallet mint' hmint' mint hmint heq).2
    · obtain ⟨account, haccount, hbank⟩ := setupTokenAccounts_funded hkeeps htransfer htables
        hauthority hmint hataPayer hataAuthority fun mint' hmint' heq =>
          (hfresh.injective _ hwallet _ hwallet mint' hmint' mint hmint heq).2
      refine ⟨account, haccount, ?_⟩
      -- the user's set-up leaves the token accounts of the authority alone
      rw [setupTokenAccounts_frame hkeeps htransfer htables huser (hpayer.symm ▸ hataPayer)
        hataUser, hbank]
      intro mint' hmint' heq
      exact hfresh.user (hfresh.injective _ huserMem _ hwallet mint' hmint' mint hmint heq).1

/-- Updating a pool three times from a snapshot is updating it once. -/
theorem SplTokenSwapAmm.times_updateAmmPrecise_eq_ok (hread : crates.ReadsAccountMap)
    {accounts : AccountMap} {n : Nat} {self self' : SplTokenSwapAmm crates} :
    (updateAmmPrecise accounts).unwrap.times (n + 1) self = .ok () self' ↔
      update accounts self = .ok () self' := by
  have hprecise : ∀ s s' : SplTokenSwapAmm crates,
      (updateAmmPrecise accounts).unwrap s = .ok () s' ↔ update accounts s = .ok () s' := by
    intro s s'
    rw [RustM.unwrap_eq_ok, updateAmmPrecise_eq, ← update_restrict hread]
    rfl
  rw [RustM.times_succ_eq_ok, hprecise]
  intro s s' h
  rw [hprecise] at h ⊢
  exact update_idem hread h

/-- A pool made on a chain is updated from a snapshot of the chain as from the chain. -/
theorem SplTokenSwapAmm.update_snapshot (hread : crates.ReadsAccountMap) {chain : AccountMap}
    {made live : SplTokenSwapAmm crates} (hlive : update chain made = .ok () live)
    (hvaults : ∀ k ∈ live.getAccountsToUpdate, (AmmTestHarness.livingAccounts chain k).isSome) :
    update ((AmmTestHarness.livingAccounts chain).restrict live.snapshotAccounts) made =
      .ok () live := by
  obtain ⟨r, -, hr⟩ := (update_eq_ok hread).1 hlive
  have hsame : made.getAccountsToUpdate = live.getAccountsToUpdate := by
    rw [hr]
    rfl
  rw [← hlive]
  apply update_congr hread
  intro k hk
  rw [hsame] at hk
  obtain ⟨vault, hvault⟩ := Option.isSome_iff_exists.1 (hvaults k hk)
  have hmem : k ∈ live.snapshotAccounts := by simp [snapshotAccounts, hk]
  rw [HashMap.restrict, if_pos hmem, hvault, (AmmTestHarness.livingAccounts_eq_some.1 hvault).1]

theorem payer_startBank (pt : ProgramTest) (clock : Option testCrates.Clock) :
    (startBank testCrates pt clock).payer = (testCrates.startWithContext pt).payer := by
  cases clock <;> rfl

/-- A bank that started from a snapshot of a chain, with the wallets set up for new keys, agrees
with the chain. -/
theorem loadedBank_of_setUps (hsetsClock : testCrates.SetsClock)
    (hkeeps : testCrates.KeepsReadonly) (htransfer : testCrates.TransfersBetween)
    (htables : tables.token2022MintAndInAmount = []) {chain snapshot : AccountMap}
    {made live : SplTokenSwapAmm crates}
    (hstart : testCrates.StartsWithAccounts (programTestOf made snapshot))
    (hsnapshot : snapshot = (AmmTestHarness.livingAccounts chain).restrict live.snapshotAccounts)
    {clock : Option testCrates.Clock} (hclock : testClock testCrates snapshot = .ok clock)
    {keypair : Pubkey} {test : AmmTestHarnessProgramTest}
    (hfresh : FreshKeys testCrates (testCrates.startWithContext (programTestOf made snapshot)).payer
      keypair snapshot live.getReserveMints)
    (hauthority : setupAuthority testCrates tables live.getReserveMints
      (startBank testCrates (programTestOf made snapshot) clock) =
        .ok test.programTestAuthority bank)
    (huser : setupUser testCrates tables keypair live.getReserveMints bank =
      .ok test.programTestUser bank') :
    LoadedBank testCrates tables chain live keypair bank' test := by
  rw [← payer_startBank _ clock] at hfresh
  obtain ⟨hframe, hsetUp⟩ := setUps_eq_ok hkeeps htransfer htables hfresh hauthority huser
  have hcollected : ∀ k ∈ live.snapshotAccounts,
      snapshot k = AmmTestHarness.livingAccounts chain k := by
    intro k hk
    rw [hsnapshot]
    exact if_pos hk
  -- neither set-up touches an account of the snapshot
  have hframe : ∀ k ∈ live.snapshotAccounts, ∀ account,
      AmmTestHarness.livingAccounts chain k = some account → bank'.accounts k =
        (startBank testCrates (programTestOf made snapshot) clock).accounts k := by
    intro k hk account haccount
    have hsome : snapshot k ≠ none := by
      rw [hcollected k hk, haccount]
      exact nofun
    apply hframe k fun hmem => hsome (hfresh.wallets k hmem)
    rintro wallet hwallet mint hmint rfl
    exact hsome (hfresh.atas wallet hwallet mint hmint).2
  refine ⟨?_, ?_, hsetUp⟩
  · intro k hk account haccount howner hclockId
    have hadded : (programTestOf made snapshot).accounts k = some account := by
      rw [programTestOf, AmmTestHarness.livingAccounts_eq_some, hcollected k hk, haccount]
      exact ⟨rfl, (AmmTestHarness.livingAccounts_eq_some.1 haccount).2⟩
    rw [hframe k hk account haccount]
    cases clock with
    | none => exact hstart k account hadded howner
    | some clock =>
      rw [accounts_startBank, HashMap.insert_of_ne _ _ hclockId]
      exact hstart k account hadded howner
  · intro account clock' haccount hclock'
    have hmem : clockId ∈ live.snapshotAccounts := List.mem_cons_self ..
    have hset : clock = some clock' := by
      have hread : testClock testCrates snapshot = .ok (some clock') := by
        rw [testClock, hcollected clockId hmem, haccount]
        simp only [hclock']
        rfl
      exact (Except.ok.inj (hread.symm.trans hclock)).symm
    rw [hframe clockId hmem account haccount, hset, accounts_startBank, HashMap.insert_self]
    exact ⟨_, rfl, hsetsClock clock'⟩

/-- What a test of a pool loads from a snapshot of a chain that updates the pool to the live one. -/
theorem AmmTestHarness.loadProgramTest_of_update (hread : crates.ReadsAccountMap)
    (hsetsClock : testCrates.SetsClock) (hkeeps : testCrates.KeepsReadonly)
    (htransfer : testCrates.TransfersBetween) (htables : tables.token2022MintAndInAmount = [])
    {harness : AmmTestHarness crates} {chain snapshot : AccountMap}
    {made live amm : SplTokenSwapAmm crates} {t : FileTree String}
    (hload : harness.loadAccountsSnapshot t = .ok snapshot)
    (hsnapshot : snapshot = (livingAccounts chain).restrict live.snapshotAccounts)
    (hupdate : SplTokenSwapAmm.update snapshot made = .ok () live)
    (hstart : testCrates.StartsWithAccounts (programTestOf made snapshot)) {keypair : Pubkey}
    (hfresh : FreshKeys testCrates (testCrates.startWithContext (programTestOf made snapshot)).payer
      keypair snapshot live.getReserveMints) {test : AmmTestHarnessProgramTest}
    (h : harness.loadProgramTest testCrates tables none keypair t made = .ok (bank, test) amm) :
    amm = live ∧ LoadedBank testCrates tables chain live keypair bank test := by
  obtain ⟨-, snapshot', clock, bank₁, hload', hclock, htimes, hauthority, huser⟩ :=
    loadProgramTest_eq_ok.1 h
  obtain rfl : snapshot = snapshot' := Except.ok.inj (hload.symm.trans hload')
  have hamm : SplTokenSwapAmm.update snapshot made = .ok () amm :=
    (SplTokenSwapAmm.times_updateAmmPrecise_eq_ok hread).1 htimes
  rw [hupdate] at hamm
  cases hamm
  exact ⟨rfl, loadedBank_of_setUps hsetsClock hkeeps htransfer htables hstart hsnapshot hclock
    hfresh hauthority huser⟩

/-- **The bank a test loads agrees with the chain of its snapshot**: the AMM is the live one, every
account of the pool and the clock are as on the chain, and the user and the program authority hold
eleven times the amount of each mint. -/
theorem AmmTestHarness.loadProgramTest_live (hread : crates.ReadsAccountMap)
    (hsetsClock : testCrates.SetsClock) (hkeeps : testCrates.KeepsReadonly)
    (htransfer : testCrates.TransfersBetween) (htables : tables.token2022MintAndInAmount = [])
    {harness : AmmTestHarness crates} {chain snapshot : AccountMap}
    {made live amm : SplTokenSwapAmm crates} {t : FileTree String}
    (hload : harness.loadAccountsSnapshot t = .ok snapshot)
    (hsnapshot : snapshot = (livingAccounts chain).restrict live.snapshotAccounts)
    (hlive : SplTokenSwapAmm.update chain made = .ok () live)
    (hvaults : ∀ k ∈ live.getAccountsToUpdate, (livingAccounts chain k).isSome)
    (hstart : testCrates.StartsWithAccounts (programTestOf made snapshot)) {keypair : Pubkey}
    (hfresh : FreshKeys testCrates (testCrates.startWithContext (programTestOf made snapshot)).payer
      keypair snapshot live.getReserveMints) {test : AmmTestHarnessProgramTest}
    (h : harness.loadProgramTest testCrates tables none keypair t made = .ok (bank, test) amm) :
    amm = live ∧ LoadedBank testCrates tables chain live keypair bank test := by
  have hupdate : SplTokenSwapAmm.update snapshot made = .ok () live := by
    rw [hsnapshot]
    exact SplTokenSwapAmm.update_snapshot hread hlive hvaults
  exact loadProgramTest_of_update hread hsetsClock hkeeps htransfer htables hload hsnapshot hupdate
    hstart hfresh h

/-- **The two set-ups of a test succeed** exactly where the mints can be funded and the bank takes
the transfers. -/
theorem exists_setUps_iff (htables : tables.token2022MintAndInAmount = []) {keypair : Pubkey} :
    (∃ authority bank₁ user bank₂,
      setupAuthority testCrates tables mints bank = .ok authority bank₁ ∧
      setupUser testCrates tables keypair mints bank₁ = .ok user bank₂) ↔
    (∀ mint ∈ mints, tables.CanFund mint) ∧
      TakesTransfers testCrates tables mints bank
        [findJupiterProgramAuthority crates 0, keypair] := by
  constructor
  · rintro ⟨authority, bank₁, user, bank₂, hauthority, huser⟩
    obtain ⟨-, -, hsetup⟩ := setupAuthority_eq_ok.1 hauthority
    obtain ⟨-, hsetup'⟩ := setupUser_eq_ok.1 huser
    obtain ⟨hfunded, ⟨accounts, hprocess, rfl⟩, -⟩ := (setupTokenAccounts_eq_ok htables).1 hsetup
    obtain ⟨-, ⟨accounts', hprocess', rfl⟩, -⟩ := (setupTokenAccounts_eq_ok htables).1 hsetup'
    exact ⟨fun mint hmint => isSome_fundedAccount_iff.1 (hfunded mint hmint), accounts, hprocess,
      accounts', hprocess', trivial⟩
  · rintro ⟨hmints, accounts, hprocess, accounts', hprocess', -⟩
    have hfunded : ∀ wallet, ∀ mint ∈ mints,
        (fundedAccount testCrates tables wallet mint).isSome := fun wallet mint hmint =>
      isSome_fundedAccount_iff.2 (hmints mint hmint)
    obtain ⟨authorityAtas, hsetup⟩ : ∃ m, setupTokenAccounts testCrates tables
        (findJupiterProgramAuthority crates 0) mints false bank = .ok m { bank with accounts } :=
      ⟨_, (setupTokenAccounts_eq_ok htables).2 ⟨hfunded _, ⟨accounts, hprocess, rfl⟩, rfl⟩⟩
    obtain ⟨userAtas, hsetup'⟩ : ∃ m, setupTokenAccounts testCrates tables keypair mints true
        { bank with accounts } = .ok m { bank with accounts := accounts' } :=
      ⟨_, (setupTokenAccounts_eq_ok htables).2 ⟨hfunded _, ⟨accounts', hprocess', rfl⟩, rfl⟩⟩
    exact ⟨⟨0, findJupiterProgramAuthority crates 0, authorityAtas⟩, _, ⟨keypair, userAtas⟩, _,
      setupAuthority_eq_ok.2 ⟨rfl, rfl, hsetup⟩, setupUser_eq_ok.2 ⟨rfl, hsetup'⟩⟩

/-- A test of a pool loads from what it finds. -/
theorem AmmTestHarness.loadProgramTest_succeeds_of (hread : crates.ReadsAccountMap)
    (htables : tables.token2022MintAndInAmount = []) {harness : AmmTestHarness crates}
    {beforeTestSetup : Option (SplTokenSwapAmm crates → AccountMap → AccountMap)}
    {snapshot : AccountMap} {made live : SplTokenSwapAmm crates} {t : FileTree String}
    (hfiles : HasProgramFiles testCrates made)
    (hload : harness.loadAccountsSnapshot t = .ok snapshot) {clock : Option testCrates.Clock}
    (hclock : testClock testCrates (testAccounts beforeTestSetup made snapshot) = .ok clock)
    (hupdate : SplTokenSwapAmm.update (testAccounts beforeTestSetup made snapshot) made =
      .ok () live)
    (hmints : ∀ mint ∈ live.getReserveMints, tables.CanFund mint) {keypair : Pubkey}
    (htransfers : TakesTransfers testCrates tables live.getReserveMints
      (startBank testCrates (programTestOf made (testAccounts beforeTestSetup made snapshot)) clock)
      [findJupiterProgramAuthority crates 0, keypair]) :
    ∃ bank test, harness.loadProgramTest testCrates tables beforeTestSetup keypair t made =
      .ok (bank, test) live := by
  obtain ⟨authority, bank₁, user, bank₂, hauthority, huser⟩ :=
    (exists_setUps_iff htables).2 ⟨hmints, htransfers⟩
  exact ⟨bank₂, ⟨authority, user⟩, loadProgramTest_eq_ok.2 ⟨hfiles, snapshot, clock, bank₁, hload,
    hclock, (SplTokenSwapAmm.times_updateAmmPrecise_eq_ok hread).2 hupdate, hauthority, huser⟩⟩

/-- **When a test of a pool loads.** The files of its programs are there, its snapshot loads, has a
readable clock if it has one, and updates the pool, both mints can be funded, and the bank takes the
two transfers. -/
theorem AmmTestHarness.loadProgramTest_succeeds_iff (hread : crates.ReadsAccountMap)
    (htables : tables.token2022MintAndInAmount = []) {harness : AmmTestHarness crates}
    {beforeTestSetup : Option (SplTokenSwapAmm crates → AccountMap → AccountMap)}
    {made : SplTokenSwapAmm crates} {t : FileTree String} {keypair : Pubkey} :
    (harness.loadProgramTest testCrates tables beforeTestSetup keypair t).Succeeds made ↔
      HasProgramFiles testCrates made ∧ ∃ snapshot clock live,
        harness.loadAccountsSnapshot t = .ok snapshot ∧
        testClock testCrates (testAccounts beforeTestSetup made snapshot) = .ok clock ∧
        SplTokenSwapAmm.update (testAccounts beforeTestSetup made snapshot) made = .ok () live ∧
        (∀ mint ∈ live.getReserveMints, tables.CanFund mint) ∧
        TakesTransfers testCrates tables live.getReserveMints
          (startBank testCrates
            (programTestOf made (testAccounts beforeTestSetup made snapshot)) clock)
          [findJupiterProgramAuthority crates 0, keypair] := by
  constructor
  · rintro ⟨⟨bank, test⟩, live, hrun⟩
    obtain ⟨hfiles, snapshot, clock, bank₁, hload, hclock, htimes, hauthority, huser⟩ :=
      loadProgramTest_eq_ok.1 hrun
    have hupdate := (SplTokenSwapAmm.times_updateAmmPrecise_eq_ok hread).1 htimes
    obtain ⟨hmints, htransfers⟩ :=
      (exists_setUps_iff htables).1 ⟨_, bank₁, _, bank, hauthority, huser⟩
    exact ⟨hfiles, snapshot, clock, live, hload, hclock, hupdate, hmints, htransfers⟩
  · rintro ⟨hfiles, snapshot, clock, live, hload, hclock, hupdate, hmints, htransfers⟩
    obtain ⟨bank, test, hrun⟩ :=
      loadProgramTest_succeeds_of hread htables hfiles hload hclock hupdate hmints htransfers
    exact ⟨(bank, test), live, hrun⟩

end

/-! ## The example pool -/

/-- The crates with another `Pubkey::find_program_address`. -/
abbrev Crates.withProgramAddress (crates : Crates)
    (findProgramAddress : List Bytes → Pubkey → Pubkey) : Crates :=
  { crates with findProgramAddress }

section
variable {crates : Crates} {findProgramAddress : List Bytes → Pubkey → Pubkey}

theorem Crates.ReadsAccountMap.withProgramAddress (h : crates.ReadsAccountMap) :
    (crates.withProgramAddress findProgramAddress).ReadsAccountMap := h

theorem Crates.SignsForUser.withProgramAddress (h : crates.SignsForUser) :
    (crates.withProgramAddress findProgramAddress).SignsForUser := h

theorem Crates.PrintsKeys.withProgramAddress (h : crates.PrintsKeys) :
    (crates.withProgramAddress findProgramAddress).PrintsKeys := ⟨h.toString, h.fromStr⟩

theorem Crates.EncodesAccounts.withProgramAddress (h : crates.EncodesAccounts) :
    (crates.withProgramAddress findProgramAddress).EncodesAccounts := ⟨h.fromStr, h.decode⟩

theorem Crates.EncodesValues.withProgramAddress (h : crates.EncodesValues) :
    (crates.withProgramAddress findProgramAddress).EncodesValues := h

theorem Crates.OrdersHashSets.withProgramAddress (h : crates.OrdersHashSets) :
    (crates.withProgramAddress findProgramAddress).OrdersHashSets := h

theorem Crates.MatchesGlobs.withProgramAddress (h : crates.MatchesGlobs) :
    (crates.withProgramAddress findProgramAddress).MatchesGlobs := fun t harness =>
  h t ⟨⟨harness.client.getMultipleAccounts⟩, harness.key, harness.option⟩

end

namespace Reference

/-- `Pubkey::find_program_address` at the program authority as well. -/
def findAuthorityAddress (seeds : List Bytes) (programId : Pubkey) : Pubkey :=
  if seeds = [asciiBytes "authority", [0]] then
    0xe2f877e83daec6888f43abb5ae7b311bb78c34960897fce5a7b82c16e20ff197#256
  else
    findProgramAddress seeds programId

/-- The system program. -/
def systemId : Pubkey := pubkey "11111111111111111111111111111111"

/-- The payer and the user of an example test. -/
def payer : Pubkey := 0xcb8ad0b19e75c1cf7e8e05e86edf93fc65a85ff5e6f071987df4a5aafa952199#256
def user : Pubkey := 0x321cfa5add185e8893a5fd88013ec4d7e122ded46354cadff50d956395e75b60#256

/-- `get_associated_token_address_with_program_id` for the wallets and the mints of an example
test. -/
def getAssociatedTokenAddress (wallet mint _tokenProgramId : Pubkey) : Pubkey :=
  if wallet = user then
    if mint = mintA then
      0xf8e7a6c9986fb022d40dfa5b045977804a875b952943d86a36647ca8031862d3#256
    else
      0xd1f5f135f466f2420cc91f73fe3b9253c68d9930e26cb7539723c8445d632fd3#256
  else
    if mint = mintA then
      0x0a052441a1584e578c7005f6a7be1e0574197757700f241900f25f4afd8a19ce#256
    else
      0xb985ae3cba081e3d6bb4f74b357dfe32a028c0bd42de67e72a6059fe01d9394d#256

/-- The account of a payer that a bank starts with. -/
def payerAccount : Account where
  lamports := 1000000000000000
  data := []
  owner := systemId
  executable := false
  rentEpoch := 0

/-- `system_instruction::transfer`. -/
def transfer (source destination : Pubkey) (lamports : UInt64) : Instruction where
  programId := systemId
  accounts := [.new source true, .new destination false]
  data := leBytes 4 2 ++ leBytes 8 lamports.toNat

/-- A transfer of the system program. -/
def executeTransfer (accounts : AccountMap) (source destination : Pubkey) (lamports : UInt64) :
    Except String AccountMap :=
  match accounts source with
  | none => .error "Attempt to debit an account but found no record of a prior credit"
  | some account =>
    if account.lamports < lamports then
      .error "Transfer: insufficient lamports"
    else
      let accounts :=
        accounts.insert source { account with lamports := account.lamports - lamports }
      let receiver := (accounts destination).getD ⟨0, [], systemId, false, 0⟩
      .ok (accounts.insert destination { receiver with lamports := receiver.lamports + lamports })

/-- The instructions a bank of the examples executes: transfers of the system program. -/
def executeInstruction (accounts : AccountMap) (ix : Instruction) : Except String AccountMap :=
  match ix.accounts with
  | [source, destination] =>
    if ix.programId = systemId ∧ ix.data.take 4 = leBytes 4 2 ∧
        source.isWritable ∧ destination.isWritable then
      executeTransfer accounts source.pubkey destination.pubkey (u64At ix.data 4)
    else
      .error "invalid instruction data"
  | _ => .error "invalid instruction data"

/-- The data of an optional value of a token account. -/
def packOption (width : Nat) : Option Bytes → Bytes
  | none => List.replicate (4 + width) 0
  | some data => leBytes 4 1 ++ data

/-- `spl_token::state::Account::pack`. -/
def tokenAccountPack (account : TokenAccountState) : Bytes :=
  account.mint.toBytes ++ account.owner.toBytes ++ leBytes 8 account.amount.toNat ++
    packOption 32 (account.delegate.map Pubkey.toBytes) ++
    (match account.state with
      | .uninitialized => [0]
      | .initialized => [1]
      | .frozen => [2]) ++
    packOption 8 (account.isNative.map fun rent => leBytes 8 rent.toNat) ++
    leBytes 8 account.delegatedAmount.toNat ++
    packOption 32 (account.closeAuthority.map Pubkey.toBytes)

/-- `StateWithExtensions::<Account>::unpack` at accounts without extensions. -/
def token2022Unpack (data : Bytes) : Option TokenAccount := (tokenAccountUnpack data).toOption

/-- The sysvar account of a clock. -/
def sysvarAccount (clock : Clock) : Account where
  lamports := 1
  data := leBytes 8 clock.slot.toNat ++ leBytes 8 clock.epochStartTimestamp.toUInt64.toNat ++
    leBytes 8 clock.epoch.toNat ++ leBytes 8 clock.leaderScheduleEpoch.toNat ++
    leBytes 8 clock.unixTimestamp.toUInt64.toNat
  owner := sysvarId
  executable := false
  rentEpoch := 0

/-- The files of programs among the fixtures. -/
def programFile (name : String) : Option FilePath :=
  if name ∈ ["jupiter.so", "orca_v2.so"] then some ["tests", "fixtures", name] else none

end Reference

open Reference in
/-- The reference crates of a program test. -/
abbrev bankCrates : Crates := referenceCrates.withProgramAddress findAuthorityAddress

open Reference in
/-- The reference crates a program test uses beside them. -/
abbrev referenceTestCrates : ProgramTestCrates bankCrates where
  Clock := Clock
  clockDefault := ⟨0, 0, 0, 0, 0⟩
  clockDeserialize := clockDeserialize
  keyedAccountTryFrom keyedUiAccount := keyedAccountTryFrom {
    pubkey := keyedUiAccount.pubkey
    uiAccount := keyedUiAccount.uiAccount
    params := keyedUiAccount.params }
  BanksClientError := String
  findFile := programFile
  startWithContext pt := {
    payer
    accounts := fun k => (pt.accounts k).or (if k = payer then some payerAccount else none) }
  clockAccount := sysvarAccount
  processTransaction bank ixs := ixs.foldlM executeInstruction bank.accounts
  transfer
  createAssociatedTokenAccount funder wallet mint tokenProgramId := {
    programId := pubkey "ATokenGPvbdGVxr1b2hvZbsiqW5xWH25efTNsLJA8knL"
    accounts := [.new funder true,
      .new (getAssociatedTokenAddress wallet mint tokenProgramId) false,
      .newReadonly wallet false, .newReadonly mint false, .newReadonly systemId false,
      .newReadonly tokenProgramId false]
    data := [0] }
  getAssociatedTokenAddress
  tokenAccountPack
  token2022Unpack
  token2022SetAmount data amount :=
    (token2022Unpack data).map fun _ => data.take 64 ++ leBytes 8 amount.toNat ++ data.drop 72

section
open Reference AmmTestHarness

/-! These laws of the crates do not depend on how program addresses are found. -/

theorem readsAccountMap_bankCrates : bankCrates.ReadsAccountMap :=
  readsAccountMap.withProgramAddress

theorem signsForUser_bankCrates : bankCrates.SignsForUser :=
  signsForUser_referenceCrates.withProgramAddress

theorem printsKeys_bankCrates : bankCrates.PrintsKeys :=
  printsKeys_referenceCrates.withProgramAddress

theorem encodesAccounts_bankCrates : bankCrates.EncodesAccounts :=
  encodesAccounts_referenceCrates.withProgramAddress

theorem encodesValues_bankCrates : bankCrates.EncodesValues :=
  encodesValues_referenceCrates.withProgramAddress

theorem ordersHashSets_bankCrates : bankCrates.OrdersHashSets :=
  ordersHashSets_referenceCrates.withProgramAddress

theorem matchesGlobs_bankCrates : bankCrates.MatchesGlobs :=
  matchesGlobs_referenceCrates.withProgramAddress

theorem startsWithAccounts_referenceTestCrates (pt : ProgramTest) :
    referenceTestCrates.StartsWithAccounts pt := by
  intro k account hk _
  show (pt.accounts k).or _ = _
  rw [hk, Option.some_or]

theorem transfersBetween_referenceTestCrates : referenceTestCrates.TransfersBetween := by
  intro source destination lamports accountMeta hmeta
  rcases List.mem_pair.1 hmeta with rfl | rfl
  · exact .inl rfl
  · exact .inr rfl

theorem executeTransfer_frame {accounts accounts' : AccountMap} {source destination k : Pubkey}
    {lamports : UInt64} (h : executeTransfer accounts source destination lamports = .ok accounts')
    (hsource : k ≠ source) (hdestination : k ≠ destination) : accounts' k = accounts k := by
  unfold executeTransfer at h
  split at h
  · cases h
  · split at h
    · cases h
    · obtain rfl := Except.ok.inj h
      rw [HashMap.insert_of_ne _ _ hdestination, HashMap.insert_of_ne _ _ hsource]

/-- An instruction leaves alone what it may not write. -/
theorem executeInstruction_frame {accounts accounts' : AccountMap} {ix : Instruction} {k : Pubkey}
    (h : executeInstruction accounts ix = .ok accounts')
    (hk : ∀ accountMeta ∈ ix.accounts, accountMeta.pubkey = k → accountMeta.isWritable = false) :
    accounts' k = accounts k := by
  unfold executeInstruction at h
  split at h
  · next source destination haccounts =>
    split at h
    · next hcond =>
      obtain ⟨-, -, hsource, hdestination⟩ := hcond
      rw [haccounts] at hk
      apply executeTransfer_frame h
      · rintro rfl
        exact absurd hsource (by simp [hk source (by simp) rfl])
      · rintro rfl
        exact absurd hdestination (by simp [hk destination (by simp) rfl])
    · cases h
  · cases h

theorem keepsReadonly_referenceTestCrates : referenceTestCrates.KeepsReadonly := by
  intro bank ixs accounts h k _ hk
  have hrun : ixs.foldlM executeInstruction bank.accounts = .ok accounts := h
  clear h
  generalize bank.accounts = before at hrun
  induction ixs generalizing before with
  | nil =>
    cases hrun
    rfl
  | cons ix ixs ih =>
    rw [List.forall_mem_cons] at hk
    rw [List.foldlM_cons] at hrun
    cases hstep : executeInstruction before ix with
    | error e =>
      rw [hstep] at hrun
      cases hrun
    | ok after =>
      rw [hstep] at hrun
      rw [ih hk.2 after hrun, executeInstruction_frame hstep hk.1]

theorem length_packOption {width : Nat} {data : Option Bytes}
    (h : ∀ bytes, data = some bytes → bytes.length = width) :
    (packOption width data).length = 4 + width := by
  cases data with
  | none => simp [packOption]
  | some bytes => simp [packOption, h bytes rfl]

/-- A number is read where it was written. -/
theorem u64At_append {before after : Bytes} {n : UInt64} {i : Nat} (h : before.length = i) :
    u64At (before ++ (leBytes 8 n.toNat ++ after)) i = n := by
  rw [u64At, List.drop_left' h, readLE_leBytes 8 _ _ n.toNat_lt]
  exact UInt64.ofNat_toNat

/-- Numbers that are written one after the other are read where they stand. -/
theorem u64At_flatMap {words : List UInt64} {i : Nat} {n : UInt64} (h : words[i]? = some n) :
    u64At (words.flatMap fun n => leBytes 8 n.toNat) (8 * i) = n := by
  induction words generalizing i with
  | nil => cases h
  | cons word words ih =>
    rw [List.flatMap_cons]
    cases i with
    | zero =>
      obtain rfl := Option.some.inj h
      exact @u64At_append [] _ _ _ rfl
    | succ i =>
      rw [u64At, Nat.mul_succ, Nat.add_comm, ← List.drop_drop,
        List.drop_left' (length_leBytes 8 _)]
      exact ih h

theorem setsClock_referenceTestCrates : referenceTestCrates.SetsClock := by
  intro clock
  have hdata : (sysvarAccount clock).data = [clock.slot, clock.epochStartTimestamp.toUInt64,
      clock.epoch, clock.leaderScheduleEpoch, clock.unixTimestamp.toUInt64].flatMap
        fun n => leBytes 8 n.toNat := by
    simp [sysvarAccount]
  have hat : ∀ i n, [clock.slot, clock.epochStartTimestamp.toUInt64, clock.epoch,
      clock.leaderScheduleEpoch, clock.unixTimestamp.toUInt64][i]? = some n →
        u64At (sysvarAccount clock).data (8 * i) = n := by
    intro i n h
    rw [hdata]
    exact u64At_flatMap h
  have hlength : ¬ (sysvarAccount clock).data.length < 40 := by simp [sysvarAccount]
  show clockDeserialize (sysvarAccount clock).data = some clock
  rw [clockDeserialize, if_neg hlength, hat 0 _ rfl, hat 1 _ rfl, hat 2 _ rfl, hat 3 _ rfl,
    hat 4 _ rfl, Int64.toInt64_toUInt64, Int64.toInt64_toUInt64]

/-- A token account unpacks by the positions of its amount and its state. -/
theorem tokenAccountUnpack_append {before between after : Bytes} {amount : UInt64} {state : UInt8}
    (hbefore : before.length = 64) (hbetween : between.length = 36) (hafter : after.length = 56)
    (hstate : state = 1 ∨ state = 2) :
    tokenAccountUnpack (before ++ (leBytes 8 amount.toNat ++ (between ++ state :: after))) =
      .ok ⟨amount⟩ := by
  have hamount : u64At (before ++ (leBytes 8 amount.toNat ++ (between ++ state :: after))) 64 =
      amount := u64At_append hbefore
  have hbyte : (before ++ (leBytes 8 amount.toNat ++ (between ++ state :: after))).getD 108 0 =
      state := by
    simp [List.getElem?_append_right, hbefore, hbetween]
  rw [tokenAccountUnpack, if_neg, if_neg, hamount]
  · rw [hbyte]
    rcases hstate with rfl | rfl <;> decide
  · rw [hbyte]
    rcases hstate with rfl | rfl <;> simp [hbefore, hbetween, hafter]

theorem tokenAccountUnpack_pack {account : TokenAccountState} (h : account.state ≠ .uninitialized) :
    tokenAccountUnpack (tokenAccountPack account) = .ok ⟨account.amount⟩ := by
  obtain ⟨mint, owner, amount, delegate, state, isNative, delegatedAmount, closeAuthority⟩ :=
    account
  have hkey : ∀ k : Pubkey, k.toBytes.length = 32 := by simp [Pubkey.toBytes]
  have hoptionKey : ∀ k : Option Pubkey, (packOption 32 (k.map Pubkey.toBytes)).length = 36 := by
    intro k
    apply length_packOption
    intro bytes hbytes
    obtain ⟨k', -, rfl⟩ := Option.map_eq_some_iff.1 hbytes
    exact hkey k'
  have hoptionRent :
      (packOption 8 (isNative.map fun rent => leBytes 8 rent.toNat)).length = 12 := by
    apply length_packOption
    intro bytes hbytes
    obtain ⟨rent, -, rfl⟩ := Option.map_eq_some_iff.1 hbytes
    exact length_leBytes _ _
  cases state with
  | uninitialized => exact absurd rfl h
  | initialized =>
    simp only [tokenAccountPack, List.append_assoc, List.singleton_append]
    rw [← List.append_assoc]
    exact tokenAccountUnpack_append (by simp [hkey]) (hoptionKey _)
      (by simp [hoptionKey, hoptionRent]) (.inl rfl)
  | frozen =>
    simp only [tokenAccountPack, List.append_assoc, List.singleton_append]
    rw [← List.append_assoc]
    exact tokenAccountUnpack_append (by simp [hkey]) (hoptionKey _)
      (by simp [hoptionKey, hoptionRent]) (.inr rfl)

theorem token2022Unpack_pack {account : TokenAccountState} (h : account.state ≠ .uninitialized) :
    token2022Unpack (tokenAccountPack account) = some ⟨account.amount⟩ := by
  rw [token2022Unpack, tokenAccountUnpack_pack h, Except.toOption]

theorem unpacksTokenAccounts_referenceTestCrates : referenceTestCrates.UnpacksTokenAccounts := by
  intro account hstate
  dsimp only
  exact token2022Unpack_pack hstate

/-- The example pool, in the crates of a program test. -/
def testPool : SplTokenSwapAmm bankCrates where
  key := pool.key
  label := pool.label
  state := poolState
  reserveMints := pool.reserveMints
  reserves := pool.reserves
  programId := pool.programId

/-- A network without nodes. -/
def offline (_url : String) : RpcNode bankCrates where
  getMultipleAccounts _ := .error (bankCrates.anyhow "builder error")
  getAccount _ := .error (bankCrates.anyhow "builder error")
  getAccountWithCommitment _ := .error (bankCrates.anyhow "builder error")

/-- The harness of its tests. -/
def testHarness : AmmTestHarness bankCrates :=
  .newWithRpcUrl offline "" poolKeyedAccount.key none

/-- A balance is what the account that is there unpacks to. -/
theorem tokenBalance_eq (crates : Crates) (m : AccountMap) (k : Pubkey) :
    SplTokenSwapAmm.tokenBalance crates m k = (m k).bind fun account =>
      (crates.tokenAccountUnpack account.data).toOption.map TokenAccount.amount := by
  unfold SplTokenSwapAmm.tokenBalance
  cases m k with
  | none => rfl
  | some account =>
    dsimp only [Option.bind_some]
    cases crates.tokenAccountUnpack account.data <;> rfl

/-- The pool is live on the example chain. -/
theorem update_testPool : SplTokenSwapAmm.update clockChain testPool =
    .ok () (testPool.withReserves (balanceA, balanceB)) := by
  have hbalance : ∀ k ∈ pool.getAccountsToUpdate, SplTokenSwapAmm.tokenBalance bankCrates
      clockChain k = SplTokenSwapAmm.tokenBalance referenceCrates chain k := by
    intro k hk
    rw [tokenBalance_eq, tokenBalance_eq, clockChain_vaults k hk]
  have hA : testPool.state.tokenA = pool.state.tokenA := rfl
  have hB : testPool.state.tokenB = pool.state.tokenB := rfl
  have hreserves : testPool.reservesIn clockChain = some (balanceA, balanceB) := by
    rw [SplTokenSwapAmm.reservesIn, hA, hB, hbalance _ (List.mem_cons_self ..),
      hbalance _ (List.mem_cons_of_mem _ (List.mem_cons_self ..))]
    have hpool := SplTokenSwapAmm.reservesIn_pool
    rw [SplTokenSwapAmm.reservesIn] at hpool
    exact hpool
  exact (SplTokenSwapAmm.update_eq_ok readsAccountMap_bankCrates).2 ⟨_, hreserves, rfl⟩

/-- The accounts of the example pool in a snapshot. -/
def testSnapshot : AccountMap :=
  (livingAccounts clockChain).restrict (testPool.withReserves (balanceA, balanceB)).snapshotAccounts

/-- A transfer instruction names its amount. -/
theorem data_transfer (source destination : Pubkey) (lamports : UInt64) :
    (transfer source destination lamports).data.take 4 = leBytes 4 2 ∧
      u64At (transfer source destination lamports).data 4 = lamports := by
  have hlength : (leBytes 4 2).length = 4 := rfl
  have hdata : (transfer source destination lamports).data =
      leBytes 4 2 ++ (leBytes 8 lamports.toNat ++ []) := by
    rw [List.append_nil]
    rfl
  rw [hdata]
  exact ⟨List.take_left' hlength, u64At_append hlength⟩

theorem executeInstruction_eq {accounts : AccountMap} {ix : Instruction}
    {source destination : AccountMeta} (hprogram : ix.programId = systemId)
    (haccounts : ix.accounts = [source, destination]) (hdata : ix.data.take 4 = leBytes 4 2)
    (hsource : source.isWritable) (hdestination : destination.isWritable) :
    executeInstruction accounts ix =
      executeTransfer accounts source.pubkey destination.pubkey (u64At ix.data 4) := by
  unfold executeInstruction
  rw [haccounts]
  exact if_pos ⟨hprogram, hdata, hsource, hdestination⟩

/-- A transfer the payer can pay is executed. -/
theorem executeInstruction_transfer {accounts : AccountMap} {source destination : Pubkey}
    {account : Account} {lamports : UInt64} (haccount : accounts source = some account)
    (hlamports : lamports ≤ account.lamports) (hne : source ≠ destination) :
    ∃ accounts', executeInstruction accounts (transfer source destination lamports) =
        .ok accounts' ∧
      accounts' source = some { account with lamports := account.lamports - lamports } := by
  obtain ⟨htake, hamount⟩ := data_transfer source destination lamports
  have hprogram : (transfer source destination lamports).programId = systemId := by
    dsimp only [transfer]
  have hrun : executeInstruction accounts (transfer source destination lamports) =
      executeTransfer accounts source destination
        (u64At (transfer source destination lamports).data 4) :=
    executeInstruction_eq hprogram rfl htake rfl rfl
  rw [hrun, hamount, executeTransfer, haccount]
  refine ⟨_, if_neg (UInt64.not_lt.2 hlamports), ?_⟩
  rw [HashMap.insert_of_ne _ _ hne, HashMap.insert_self]

/-- A transaction of one instruction is that instruction. -/
theorem processTransaction_singleton (bank : Bank) (ix : Instruction) :
    referenceTestCrates.processTransaction bank [ix] = executeInstruction bank.accounts ix := by
  show [ix].foldlM executeInstruction bank.accounts = _
  rw [List.foldlM_cons]
  cases executeInstruction bank.accounts ix <;> rfl

/-- A payer with a SOL for each wallet can pay the transfers. -/
theorem takesTransfers_referenceTestCrates {tables : TokenTables} {mints wallets : List Pubkey}
    {bank : Bank} {account : Account} (haccount : bank.accounts bank.payer = some account)
    (hlamports : wallets.length * 1000000000 ≤ account.lamports.toNat)
    (hwallets : ∀ wallet ∈ wallets, wallet ≠ bank.payer ∧
      ∀ mint ∈ mints, referenceTestCrates.ata wallet mint ≠ bank.payer) :
    TakesTransfers referenceTestCrates tables mints bank wallets := by
  induction wallets generalizing bank account with
  | nil => trivial
  | cons wallet wallets ih =>
    rw [List.forall_mem_cons] at hwallets
    obtain ⟨⟨hne, hatas⟩, hwallets⟩ := hwallets
    rw [List.length_cons, Nat.add_one_mul] at hlamports
    have hkept : bank.accounts.insertAll
        (fundedAccounts referenceTestCrates tables wallet mints) bank.payer = some account := by
      rw [HashMap.insertAll_of_notMem, haccount]
      intro hmem
      obtain ⟨⟨k, account'⟩, hpair, hk⟩ := List.mem_map.1 hmem
      obtain ⟨mint, hmint, -, hata⟩ := mem_fundedAccounts.1 hpair
      exact hatas mint hmint (hata.trans hk)
    have hsol : (1000000000 : UInt64).toNat = 1000000000 := by simp
    have hpays : (1000000000 : UInt64) ≤ account.lamports := by
      rw [UInt64.le_iff_toNat_le, hsol]
      exact (Nat.le_add_left _ _).trans hlamports
    obtain ⟨accounts, hexecute, hpaid⟩ := executeInstruction_transfer hkept hpays hne.symm
    have hleft : wallets.length * 1000000000 ≤ (account.lamports - 1000000000).toNat := by
      rw [UInt64.toNat_sub_of_le _ _ hpays, hsol]
      exact Nat.le_sub_of_add_le hlamports
    have hrest : TakesTransfers referenceTestCrates tables mints { bank with accounts } wallets :=
      ih hpaid hleft hwallets
    refine ⟨accounts, ?_, hrest⟩
    rw [processTransaction_singleton]
    exact hexecute

/-- The program authority of the examples. -/
def authority : Pubkey := findJupiterProgramAuthority bankCrates 0

theorem authority_eq :
    authority = 0xe2f877e83daec6888f43abb5ae7b311bb78c34960897fce5a7b82c16e20ff197#256 := by
  decide +kernel

theorem mintB_ne_mintA : mintB ≠ mintA := by
  have hmem : mintB ∈ (tokenTables.tokenMintAndInAmount.map Prod.fst).tail :=
    .tail _ (.tail _ (.head _))
  intro heq
  rw [heq] at hmem
  exact (List.nodup_cons.1 nodup_tokenTables).1 hmem

theorem authority_ne_user : authority ≠ user := by
  rw [authority_eq]
  decide +kernel

theorem ata_referenceTestCrates (wallet mint : Pubkey) : referenceTestCrates.ata wallet mint =
    getAssociatedTokenAddress wallet mint splTokenId := rfl

theorem ata_user_mintA : referenceTestCrates.ata user mintA =
    0xf8e7a6c9986fb022d40dfa5b045977804a875b952943d86a36647ca8031862d3#256 := by
  rw [ata_referenceTestCrates, getAssociatedTokenAddress, if_pos rfl, if_pos rfl]

theorem ata_user_mintB : referenceTestCrates.ata user mintB =
    0xd1f5f135f466f2420cc91f73fe3b9253c68d9930e26cb7539723c8445d632fd3#256 := by
  rw [ata_referenceTestCrates, getAssociatedTokenAddress, if_pos rfl, if_neg mintB_ne_mintA]

theorem ata_authority_mintA : referenceTestCrates.ata authority mintA =
    0x0a052441a1584e578c7005f6a7be1e0574197757700f241900f25f4afd8a19ce#256 := by
  rw [ata_referenceTestCrates, getAssociatedTokenAddress, if_neg authority_ne_user, if_pos rfl]

theorem ata_authority_mintB : referenceTestCrates.ata authority mintB =
    0xb985ae3cba081e3d6bb4f74b357dfe32a028c0bd42de67e72a6059fe01d9394d#256 := by
  rw [ata_referenceTestCrates, getAssociatedTokenAddress, if_neg authority_ne_user,
    if_neg mintB_ne_mintA]

/-- A key that is none of these has no account in the snapshot. -/
theorem testSnapshot_eq_none {k : Pubkey}
    (hk : k ∉ [clockId, poolKeyedAccount.key, vaultA, vaultB]) : testSnapshot k = none := by
  have hliving : livingAccounts clockChain k = none := by
    rw [livingAccounts, clockChain_eq_none hk]
    rfl
  rw [testSnapshot, HashMap.restrict, hliving, ite_self]

/-- The token accounts of the examples. -/
def testAtas : List Pubkey :=
  ([user, authority].product [mintA, mintB]).map fun p => referenceTestCrates.ata p.1 p.2

theorem testAtas_eq : testAtas =
    [0xf8e7a6c9986fb022d40dfa5b045977804a875b952943d86a36647ca8031862d3#256,
      0xd1f5f135f466f2420cc91f73fe3b9253c68d9930e26cb7539723c8445d632fd3#256,
      0x0a052441a1584e578c7005f6a7be1e0574197757700f241900f25f4afd8a19ce#256,
      0xb985ae3cba081e3d6bb4f74b357dfe32a028c0bd42de67e72a6059fe01d9394d#256] := by
  rw [← ata_user_mintA, ← ata_user_mintB, ← ata_authority_mintA, ← ata_authority_mintB]
  rfl

/-- All keys of an example test are different. -/
theorem nodup_keys : ([payer, user, authority] ++ testAtas ++
    [clockId, poolKeyedAccount.key, vaultA, vaultB]).Nodup := by
  rw [testAtas_eq, keys_clockChain, authority_eq]
  decide +kernel

/-- The keys of the example test are new. -/
theorem freshKeys_testPool :
    FreshKeys referenceTestCrates payer user testSnapshot [mintA, mintB] := by
  obtain ⟨hkeys, -, hchain⟩ := List.nodup_append.1 nodup_keys
  obtain ⟨-, hatas, hwallets⟩ := List.nodup_append.1 hkeys
  have hpair : ∀ wallet ∈ [user, authority], ∀ mint ∈ [mintA, mintB],
      (wallet, mint) ∈ [user, authority].product [mintA, mintB] := fun wallet hwallet mint hmint =>
    List.pair_mem_product.2 ⟨hwallet, hmint⟩
  have hata : ∀ wallet ∈ [user, authority], ∀ mint ∈ [mintA, mintB],
      referenceTestCrates.ata wallet mint ∈ testAtas := fun wallet hwallet mint hmint =>
    List.mem_map_of_mem (hpair wallet hwallet mint hmint)
  constructor
  · exact (List.nodup_cons.1 (List.nodup_append.1 hkeys).1).1
  · exact authority_ne_user.symm
  · intro k hk
    exact testSnapshot_eq_none fun hmem => hchain k (List.mem_append_left _ hk) k hmem rfl
  · intro wallet hwallet mint hmint
    have hmem := hata wallet hwallet mint hmint
    exact ⟨fun hwallet => hwallets _ hwallet _ hmem rfl,
      testSnapshot_eq_none fun hk => hchain _ (List.mem_append_right _ hmem) _ hk rfl⟩
  · intro wallet hwallet wallet' hwallet' mint hmint mint' hmint' heq
    exact Prod.mk.inj (List.inj_on_of_nodup_map hatas (hpair wallet hwallet mint hmint)
      (hpair wallet' hwallet' mint' hmint') heq)

/-- Both mints of the example pool are in the table. -/
theorem canFund_tokenTables : ∀ mint ∈ [mintA, mintB], tokenTables.CanFund mint := by
  have hfindA := HashMap.find?_of_mem nodup_tokenTables mem_tokenTables_mintA
  have hfindB := HashMap.find?_of_mem nodup_tokenTables mem_tokenTables_mintB
  intro mint hmint
  rcases List.mem_pair.1 hmint with rfl | rfl
  · exact ⟨_, hfindA, by decide, fun _ => by decide⟩
  · exact ⟨_, hfindB, by decide, fun _ => by decide⟩

/-- The snapshot of the example pool can be made. -/
theorem exists_replacesDir_testHarness : ∃ t, fixtures.ReplacesDir t testHarness.snapshotPath
    (poolFiles clockChain (testPool.withReserves (balanceA, balanceB))) := by
  have hpath := NoSeparator.snapshotPath_eq printsKeys_bankCrates
    (show testHarness.NoSeparator from nofun)
  have hnone : fixtures.node ["tests", "fixtures", "accounts", testHarness.directoryName] = none :=
    node_fixtures le_rfl
  rw [hpath]
  exact FileTree.exists_replacesDir hnone node_accounts_fixtures _

theorem sparesPlaceholder_testPool :
    (testPool.withReserves (balanceA, balanceB)).SparesPlaceholder clockChain :=
  SplTokenSwapAmm.sparesPlaceholder_of_none clockChain_newUnique

/-- The loader finds it. -/
theorem loadAccountsSnapshot_testHarness {t₀ t : FileTree String}
    (hreplaces : t₀.ReplacesDir t testHarness.snapshotPath
      (poolFiles clockChain (testPool.withReserves (balanceA, balanceB)))) :
    testHarness.loadAccountsSnapshot t = .ok testSnapshot := by
  have hplain : testHarness.PlainOption := nofun
  rw [hplain.loadAccountsSnapshot_eq printsKeys_bankCrates encodesAccounts_bankCrates
    matchesGlobs_bankCrates hreplaces,
    SplTokenSwapAmm.restrict_collectedAccounts_iff.2 sparesPlaceholder_testPool]
  rfl

theorem testSnapshot_clock : testSnapshot clockId = some clockAccount := by
  have hmem : clockId ∈ (testPool.withReserves (balanceA, balanceB)).snapshotAccounts :=
    List.mem_cons_self ..
  rw [testSnapshot, HashMap.restrict, if_pos hmem, livingAccounts_eq_some]
  exact ⟨clockChain_clock, rfl⟩

/-- The vaults of the example pool are on the chain. -/
theorem isSome_vaults :
    ∀ k ∈ testPool.getAccountsToUpdate, (livingAccounts clockChain k).isSome := by
  intro k hk
  have hmem : k = vaultA ∨ k = vaultB := List.mem_pair.1 hk
  have hthere : (chain k).isSome := by
    apply HashMap.isSome_ofList
    rcases hmem with rfl | rfl
    · exact .tail _ (.head _)
    · exact .tail _ (.tail _ (.head _))
  obtain ⟨account, haccount⟩ := Option.isSome_iff_exists.1 hthere
  have hprogram : account.executable = false := by
    have hentry := HashMap.mem_of_ofList haccount
    simp only [List.mem_cons, Prod.mk.injEq, List.not_mem_nil, or_false] at hentry
    rcases hentry with ⟨-, rfl⟩ | ⟨-, rfl⟩ | ⟨-, rfl⟩ <;> rfl
  rw [livingAccounts_eq_some.2 ⟨(clockChain_vaults k hk).trans haccount, hprogram⟩]
  rfl

/-- The example pool is live from its snapshot. -/
theorem update_testSnapshot : SplTokenSwapAmm.update testSnapshot testPool =
    .ok () (testPool.withReserves (balanceA, balanceB)) :=
  SplTokenSwapAmm.update_snapshot readsAccountMap_bankCrates update_testPool isSome_vaults

/-- The snapshot of the example pool has a readable clock. -/
theorem exists_testClock : ∃ clock, testClock referenceTestCrates testSnapshot = .ok clock := by
  obtain ⟨clock, hclock⟩ := Option.isSome_iff_exists.1 isSome_clock
  refine ⟨some clock, ?_⟩
  rw [testClock, testSnapshot_clock]
  simp only [hclock]
  rfl

/-- The programs of the example pool are among the fixtures. -/
theorem hasProgramFiles_testPool : HasProgramFiles referenceTestCrates testPool := by
  show ∀ program ∈ programsOf testPool, (programFile (program.1 ++ ".so")).isSome
  decide +kernel

theorem startWithContext_referenceTestCrates (pt : ProgramTest) :
    (referenceTestCrates.startWithContext pt).payer = payer ∧
      ∀ k, (referenceTestCrates.startWithContext pt).accounts k =
        (pt.accounts k).or (if k = payer then some payerAccount else none) := ⟨rfl, fun _ => rfl⟩

/-- The payer of an example test has what it starts with. -/
theorem payerAccount_startBank (clock : Option Clock) :
    (startBank referenceTestCrates (programTestOf testPool testSnapshot) clock).accounts payer =
      some payerAccount := by
  have hnone : testSnapshot payer = none := freshKeys_testPool.wallets _ (List.mem_cons_self ..)
  have hstart : (referenceTestCrates.startWithContext
      (programTestOf testPool testSnapshot)).accounts payer = some payerAccount := by
    have hadded : (programTestOf testPool testSnapshot).accounts = livingAccounts testSnapshot :=
      rfl
    rw [(startWithContext_referenceTestCrates _).2, hadded, livingAccounts, hnone,
      Option.filter_none, Option.none_or, if_pos rfl]
  cases clock with
  | none => exact hstart
  | some clock =>
    rw [accounts_startBank, HashMap.insert_of_ne, hstart]
    -- the payer has no account in the snapshot, and the clock has one
    intro heq
    rw [heq, testSnapshot_clock] at hnone
    cases hnone

/-- The bank of an example test takes the transfers. -/
theorem takesTransfers_testPool (clock : Option Clock) :
    TakesTransfers referenceTestCrates tokenTables [mintA, mintB]
      (startBank referenceTestCrates (programTestOf testPool testSnapshot) clock)
      [authority, user] := by
  have hpayer : (startBank referenceTestCrates (programTestOf testPool testSnapshot) clock).payer =
      payer := by
    rw [payer_startBank, (startWithContext_referenceTestCrates _).1]
  have hnotPayer : payer ∉ [user, authority] := freshKeys_testPool.notPayer
  apply takesTransfers_referenceTestCrates
  · rw [hpayer, payerAccount_startBank]
  · decide
  · rw [hpayer]
    intro wallet hwallet
    have hwallet : wallet ∈ [user, authority] :=
      (List.Perm.swap user authority []).mem_iff.1 hwallet
    constructor
    · rintro rfl
      exact hnotPayer hwallet
    · intro mint hmint heq
      apply (freshKeys_testPool.atas wallet hwallet mint hmint).1
      rw [heq]
      exact List.mem_cons_self ..

/-- A test of the example pool loads. -/
theorem exists_loadProgramTest {t : FileTree String}
    (hload : testHarness.loadAccountsSnapshot t = .ok testSnapshot) :
    ∃ bank test, testHarness.loadProgramTest referenceTestCrates tokenTables none user t testPool =
      .ok (bank, test) (testPool.withReserves (balanceA, balanceB)) := by
  obtain ⟨clock, hclock⟩ := exists_testClock
  have haccounts : testAccounts none testPool testSnapshot = testSnapshot := rfl
  rw [← haccounts] at hclock
  exact loadProgramTest_succeeds_of readsAccountMap_bankCrates rfl hasProgramFiles_testPool hload
    hclock update_testSnapshot canFund_tokenTables (takesTransfers_testPool clock)

/-- The bank it loads agrees with the example chain. -/
theorem exists_loadedBank {t : FileTree String}
    (hload : testHarness.loadAccountsSnapshot t = .ok testSnapshot) :
    ∃ bank test, testHarness.loadProgramTest referenceTestCrates tokenTables none user t testPool =
        .ok (bank, test) (testPool.withReserves (balanceA, balanceB)) ∧
      LoadedBank referenceTestCrates tokenTables clockChain
        (testPool.withReserves (balanceA, balanceB)) user bank test := by
  obtain ⟨bank, test, hrun⟩ := exists_loadProgramTest hload
  exact ⟨bank, test, hrun, (loadProgramTest_of_update readsAccountMap_bankCrates
    setsClock_referenceTestCrates keepsReadonly_referenceTestCrates
    transfersBetween_referenceTestCrates rfl hload rfl update_testSnapshot
    (startsWithAccounts_referenceTestCrates _) freshKeys_testPool hrun).2⟩

/-- A test of the example pool loads its bank. -/
theorem loadProgramTest_live_pool : ∃ t bank test,
    testHarness.loadProgramTest referenceTestCrates tokenTables none user t testPool =
      .ok (bank, test) (testPool.withReserves (balanceA, balanceB)) ∧
    LoadedBank referenceTestCrates tokenTables clockChain
      (testPool.withReserves (balanceA, balanceB)) user bank test := by
  obtain ⟨t, hreplaces⟩ := exists_replacesDir_testHarness
  have hload := loadAccountsSnapshot_testHarness hreplaces
  obtain ⟨bank, test, hrun⟩ := exists_loadProgramTest hload
  exact ⟨t, bank, test, hrun, (loadProgramTest_live readsAccountMap_bankCrates
    setsClock_referenceTestCrates keepsReadonly_referenceTestCrates
    transfersBetween_referenceTestCrates rfl hload rfl update_testPool isSome_vaults
    (startsWithAccounts_referenceTestCrates _) freshKeys_testPool hrun).2⟩

/-- A test of the example pool loads: its programs are among the fixtures, both mints are in the
table, and the payer has enough for the transfers. -/
theorem loadProgramTest_succeeds_iff_pool : ∃ t,
    (testHarness.loadProgramTest referenceTestCrates tokenTables none user t).Succeeds
      testPool := by
  obtain ⟨t, hreplaces⟩ := exists_replacesDir_testHarness
  obtain ⟨clock, hclock⟩ := exists_testClock
  exact ⟨t, (loadProgramTest_succeeds_iff readsAccountMap_bankCrates rfl).2
    ⟨hasProgramFiles_testPool, testSnapshot, clock, _, loadAccountsSnapshot_testHarness hreplaces,
      hclock, update_testSnapshot, canFund_tokenTables, takesTransfers_testPool clock⟩⟩

end

end JupiterAmm
