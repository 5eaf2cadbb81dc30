import JupiterAmm.Harness.Rebuild
import JupiterAmm.Harness.Replay

/-!
# The snapshot command

`take_snapshot` is the command line's way to a snapshot: it reads the account of an AMM id from the
node, builds the AMM, updates it three times and snapshots it. On a node that serves one chain it is
a transaction on the tree of files (`takeSnapshot_iff`): it succeeds exactly where the pool is live
on the chain and the directory can be made, its directory then holds the accounts of the live pool,
less the placeholder of the run, and where it does not succeed it has changed nothing.
-/

namespace JupiterAmm

open Rust Borsh

/-! ## The clock and the accounts of the node -/

/-- `KeyedUiAccount`. -/
structure KeyedUiAccount (crates : Crates) where
  pubkey : String
  uiAccount : crates.UiAccount
  params : Option crates.Value

/-- What the command uses of the crates beside `Crates`. -/
structure CommandCrates (crates : Crates) where
  /-- `solana_sdk::clock::Clock`. -/
  Clock : Type
  /-- `Clock::default`. -/
  clockDefault : Clock
  /-- `bincode::deserialize` at `Clock`. -/
  clockDeserialize : Bytes → Option Clock
  /-- `TryFrom<KeyedUiAccount> for KeyedAccount`. -/
  keyedAccountTryFrom : KeyedUiAccount crates → crates.Result (KeyedAccount crates.Value)

/-- An encoded account under the text of its key is converted back. -/
def CommandCrates.ConvertsAccounts {crates : Crates} (commandCrates : CommandCrates crates) :
    Prop :=
  ∀ pubkey k account params, crates.pubkeyFromStr pubkey = some k →
    commandCrates.keyedAccountTryFrom
      { pubkey, uiAccount := crates.encodeUiAccount k account, params } =
      .ok { key := k, account, params }

/-- `solana_client::rpc_client::RpcClient`, with the methods that ask for one account. -/
structure RpcNode (crates : Crates) extends RpcClient crates where
  getAccount : Pubkey → Except crates.Error Account
  getAccountWithCommitment : Pubkey → Except crates.Error (Option Account)

/-- The node answers all its methods from one chain state. -/
structure RpcNode.Serves {crates : Crates} (node : RpcNode crates) (chain : AccountMap) : Prop where
  getMultipleAccounts : node.toRpcClient.Serves chain
  getAccount : ∀ {k account}, node.getAccount k = .ok account ↔ chain k = some account
  getAccountWithCommitment : ∀ k, node.getAccountWithCommitment k = .ok (chain k)

/-- `AmmContext`. -/
structure AmmContext (Clock : Type) where
  clockRef : Clock

section
variable {crates : Crates} (commandCrates : CommandCrates crates)

/-- `get_clock`. -/
def getClock (rpcClient : RpcNode crates) : crates.Result commandCrates.Clock := do
  let value ← ofExcept (rpcClient.getAccountWithCommitment clockId)
  let clockData ← okOr (crates.anyhow "Failed to get clock account") value
  okOr (crates.anyhow "Failed to deserialize sysvar::clock::ID")
    (commandCrates.clockDeserialize clockData.data)

/-- `get_amm_context`. The reference of `get_clock_ref` is to the clock itself. -/
def getAmmContext (rpcClient : RpcNode crates) :
    crates.Result (AmmContext commandCrates.Clock) := do
  let clockRef ← getClock commandCrates rpcClient
  pure { clockRef }

/-- `AmmTestHarness::get_clock`: the clock of the snapshot. Some snapshots have none. -/
def AmmTestHarness.getClock (self : AmmTestHarness crates) (t : FileTree String) :
    crates.Result commandCrates.Clock := do
  let accountMap ← self.loadAccountsSnapshot t
  match accountMap clockId with
  | some account => Outcome.unwrap (okOr (crates.anyhow "Failed to deserialize sysvar::clock::ID")
      (commandCrates.clockDeserialize account.data))
  | none => pure commandCrates.clockDefault

/-- `AmmTestHarness::get_keyed_account`, on the node behind the client of the harness. -/
def AmmTestHarness.getKeyedAccount (client : RpcNode crates) (key : Pubkey) :
    crates.Result (KeyedAccount crates.Value) := do
  let account ← ofExcept (client.getAccount key)
  pure { key, account, params := none }

/-- `AmmTestHarness::get_account_from_snapshot`. -/
def AmmTestHarness.getAccountFromSnapshot (self : AmmTestHarness crates) (t : FileTree String)
    (address : Pubkey) : crates.Result Account := do
  let directoryName := self.directoryName
  let filePath := "tests/fixtures/accounts/" ++ directoryName ++ "/" ++ accountFile crates address
  let file ← unwrap (t.readFile (FilePath.ofString filePath))
  let keyedAccount ← unwrap (crates.rpcKeyedAccountFromStr file)
  unwrap (crates.uiAccountDecode keyedAccount.2)

/-! ## The command -/

/-- `AmmTestHarness::new_with_rpc_url`, on the network its URLs are resolved in. -/
def AmmTestHarness.newWithRpcUrl (network : String → RpcNode crates) (rpcUrl : String)
    (key : Pubkey) (option : Option String) : AmmTestHarness crates where
  client := (network rpcUrl).toRpcClient
  key
  option

/-- `take_snapshot` up to the snapshot: the harness, the account of the AMM id, and the AMM built
from it and updated three times. -/
def prepareSnapshot (network : String → RpcNode crates) (rpcUrl ammId : String)
    (option : Option String) :
    crates.Result (AmmTestHarness crates × KeyedAccount crates.Value × SplTokenSwapAmm crates) := do
  let ammKey ← unwrap (crates.pubkeyFromStr ammId)
  let client := network rpcUrl
  let _ammContext ← getAmmContext commandCrates client
  let account ← expect "Should find AMM in markets cache or on-chain" (client.getAccount ammKey)
  let uiAccount := crates.encodeUiAccount ammKey account
  let keyedAccount ←
    commandCrates.keyedAccountTryFrom { pubkey := ammId, uiAccount, params := none }
  let testHarness := AmmTestHarness.newWithRpcUrl network rpcUrl ammKey option
  let amm ← ammFactory keyedAccount
  let (_, amm) ← (testHarness.updateAmm.times 3).on amm
  pure (testHarness, keyedAccount, amm)

/-- `take_snapshot`. -/
def takeSnapshot (network : String → RpcNode crates) (tables : TokenTables)
    (rpcUrl ammId : String) (option : Option String) (force : Bool) :
    RustM crates.Error (FileTree String) Unit := do
  let (testHarness, keyedAccount, amm) ←
    prepareSnapshot commandCrates network rpcUrl ammId option
  testHarness.snapshotAmmAccounts tables amm keyedAccount.params force

/-- `Cli`, with its `ConfigOverride` and its `Command::SnapshotAmm`. -/
structure Cli where
  rpcUrl : String
  ammId : String
  option : Option String
  force : Bool

/-- `main`, behind the parsing of its arguments. -/
def Cli.main (network : String → RpcNode crates) (tables : TokenTables) (self : Cli) :
    RustM crates.Error (FileTree String) Unit :=
  (takeSnapshot commandCrates network tables self.rpcUrl self.ammId self.option self.force).unwrap

end

/-! ## The accounts of a snapshot -/

namespace SplTokenSwapAmm

variable {crates : Crates} {harness : AmmTestHarness crates} {chain : AccountMap}

/-- Both mints of a pool have an amount to swap. -/
def HasAmounts (tables : TokenTables) (self : SplTokenSwapAmm crates) : Prop :=
  ∀ mint ∈ self.getReserveMints, (tables.tokenMintToInAmount mint).isSome

/-- On a chain, any number of updates but none is one update. -/
theorem times_updateAmm_eq_ok (hread : crates.ReadsAccountMap)
    (hserves : harness.client.Serves chain) {n : Nat} {self self' : SplTokenSwapAmm crates} :
    harness.updateAmm.times (n + 1) self = .ok () self' ↔ update chain self = .ok () self' := by
  rw [RustM.times_succ_eq_ok, updateAmm_eq_ok hread hserves]
  intro s s' h
  have hupdate := (updateAmm_eq_ok hread hserves).1 h
  exact (updateAmm_eq_ok hread hserves).2 (update_idem hread hupdate)

/-- A snapshot of a pool finds its addresses where both mints have an amount. -/
theorem exists_addressesForSnapshot_iff {tables : TokenTables} {self : SplTokenSwapAmm crates} :
    (∃ addresses, AmmTestHarness.addressesForSnapshot tables self = .ok addresses) ↔
      self.HasAmounts tables := by
  have hpairs : getTokenMintsPermutations self = .ok [(self.reserveMints.1, self.reserveMints.2),
      (self.reserveMints.2, self.reserveMints.1)] := rfl
  have hmints : self.HasAmounts tables ↔ (tables.tokenMintToInAmount self.reserveMints.1).isSome ∧
      (tables.tokenMintToInAmount self.reserveMints.2).isSome := by
    rw [HasAmounts, getReserveMints, List.forall_mem_cons, List.forall_mem_singleton]
  rw [hmints]
  constructor
  · rintro ⟨addresses, h⟩
    rw [AmmTestHarness.addressesForSnapshot, hpairs, Outcome.ok_bind] at h
    simp only [Outcome.bind_ok, AmmTestHarness.swapAddresses, AmmTestHarness.inAmount_eq_ok] at h
    obtain ⟨-, ⟨first, hfirst, -, -, -, ⟨second, hsecond, -⟩, -⟩, -⟩ := h
    exact ⟨Option.isSome_iff_exists.2 ⟨first, hfirst⟩, Option.isSome_iff_exists.2 ⟨second, hsecond⟩⟩
  · rintro ⟨hfirst, hsecond⟩
    obtain ⟨swapped, hswapped⟩ : ∃ addresses, AmmTestHarness.swapAddresses tables self
        crates.newUnique [(self.reserveMints.1, self.reserveMints.2),
          (self.reserveMints.2, self.reserveMints.1)] = .ok addresses := by
      apply AmmTestHarness.exists_swapAddresses
      intro pair hpair
      refine ⟨?_, fun swapParams => ⟨_, rfl⟩⟩
      rcases List.mem_pair.1 hpair with rfl | rfl
      · exact hfirst
      · exact hsecond
    rw [AmmTestHarness.addressesForSnapshot, hpairs, Outcome.ok_bind, hswapped]
    exact ⟨_, rfl⟩

end SplTokenSwapAmm

namespace AmmTestHarness

variable {crates : Crates} {chain : AccountMap}

/-- The files of a snapshot of a chain depend on the addresses only as far as these are accounts of
the chain that are no programs. -/
theorem ofList_snapshotFiles_congr (hprint : crates.PrintsKeys) {params : Option crates.Value}
    {addresses addresses' : List Pubkey}
    (h : ∀ k account, livingAccounts chain k = some account → (k ∈ addresses ↔ k ∈ addresses')) :
    HashMap.ofList (snapshotFiles chain params addresses) =
      HashMap.ofList (snapshotFiles chain params addresses') := by
  have hrestrict : (livingAccounts chain).restrict addresses =
      (livingAccounts chain).restrict addresses' := by
    funext k
    rw [HashMap.restrict, HashMap.restrict]
    cases haccount : livingAccounts chain k with
    | none => rw [ite_self, ite_self]
    | some account => simp only [h k account haccount]
  -- a file is the parameters or an account
  have hother : ∀ {name : String} {addresses : List Pubkey}, name ≠ "params.json" →
      (∀ k, name ≠ accountFile crates k) →
      HashMap.ofList (snapshotFiles chain params addresses) name = none := by
    intro name addresses hparams haccount
    rw [Option.eq_none_iff_forall_ne_some]
    intro text htext
    have hmem := HashMap.mem_of_ofList htext
    rw [snapshotFiles, List.mem_append, mem_paramsFiles, mem_accountFiles] at hmem
    rcases hmem with ⟨v, -, hfile⟩ | ⟨k, -, account, -, hfile⟩
    · exact hparams (Prod.mk.inj hfile).1
    · exact haccount k (Prod.mk.inj hfile).1
  funext name
  by_cases hparams : name = "params.json"
  · rw [hparams, snapshotFiles_params hprint, snapshotFiles_params hprint]
  · by_cases haccount : ∃ k, name = accountFile crates k
    · obtain ⟨k, rfl⟩ := haccount
      rw [snapshotFiles_accountFile hprint, snapshotFiles_accountFile hprint, hrestrict]
    · have haccount := not_exists.1 haccount
      rw [hother hparams haccount, hother hparams haccount]

/-- The files of the snapshot of a pool that the command takes. -/
def poolFiles (chain : AccountMap) (live : SplTokenSwapAmm crates) : HashMap String String :=
  .ofList (@snapshotFiles crates chain none live.collectedAccounts)

/-- A snapshot of a pool without parameters has the files of the pool. -/
theorem ofList_snapshotFiles_pool (hprint : crates.PrintsKeys) (horder : crates.OrdersHashSets)
    {tables : TokenTables} {live : SplTokenSwapAmm crates} {addresses : List Pubkey}
    (haddresses : addressesForSnapshot tables live = .ok addresses) :
    HashMap.ofList (@snapshotFiles crates chain none (crates.hashSetOrder addresses)) =
      poolFiles chain live := by
  apply ofList_snapshotFiles_congr hprint
  intro k account haccount
  rw [(horder addresses).2, SplTokenSwapAmm.mem_addressesForSnapshot_iff haddresses]

/-- **A snapshot of a pool on a chain**: it ends in a tree exactly where both mints have an amount
and the directory can be made, and the tree is the old one with the directory replaced by the files
of the pool. Where it fails, the tree is as it was. -/
theorem snapshotAmmAccounts_pool (self : AmmTestHarness crates) (hprint : crates.PrintsKeys)
    (horder : crates.OrdersHashSets) (hserves : self.client.Serves chain) (tables : TokenTables)
    (live : SplTokenSwapAmm crates) (force : Bool) (t : FileTree String) :
    (∀ t', self.snapshotAmmAccounts tables live none force t = .ok () t' ↔
      live.HasAmounts tables ∧ self.CanMake force t ∧
        t.ReplacesDir t' self.snapshotPath (poolFiles chain live)) ∧
    ∀ e t', self.snapshotAmmAccounts tables live none force t = .error e t' → t' = t := by
  rw [← SplTokenSwapAmm.exists_addressesForSnapshot_iff]
  rcases self.snapshotAmmAccounts_cases tables live none force t hprint with
    ⟨e, haddresses, hrun⟩ | ⟨addresses, haddresses, ⟨hcan, hrun⟩ | ⟨hcan, ⟨e, message, t', hanswer,
      -, -⟩ | ⟨accounts, t', hanswer, hrun, hreplaces⟩⟩⟩
  · rw [hrun, haddresses]
    refine ⟨fun t' => iff_of_false nofun ?_, ?_⟩
    · rintro ⟨⟨addresses, hok⟩, -⟩
      cases hok
    · rintro e' t' h
      cases h
      rfl
  · rw [hrun]
    refine ⟨fun t' => iff_of_false nofun fun h => hcan h.2.1, ?_⟩
    rintro e' t' h
    cases h
    rfl
  · rw [hserves] at hanswer
    cases hanswer
  · rw [hserves] at hanswer
    cases hanswer
    have hfiles : t.ReplacesDir t' self.snapshotPath (poolFiles chain live) := by
      rw [← ofList_snapshotFiles_pool hprint horder haddresses]
      exact hreplaces
    rw [hrun]
    refine ⟨fun t'' => ⟨?_, ?_⟩, nofun⟩
    · intro h
      cases h
      exact ⟨⟨addresses, haddresses⟩, hcan, hfiles⟩
    · rintro ⟨-, -, hreplaces'⟩
      rw [hfiles.unique hreplaces']

end AmmTestHarness

/-! ## When the command succeeds -/

section
variable {crates : Crates} (commandCrates : CommandCrates crates)

omit commandCrates in
/-- The pools of the listed programs are supported. -/
theorem ammFactory_of_supported {keyedAccount : KeyedAccount crates.Value}
    (h : splTokenSwapPrograms.containsKey keyedAccount.account.owner) :
    ammFactory keyedAccount = SplTokenSwapAmm.fromKeyedAccount keyedAccount := by
  rw [ammFactory]
  exact if_pos h

/-- `live` is the pool of a key on a chain: there is a clock, and `live` is the pool that is built
from the account of the key and updated from the chain. -/
structure Live (chain : AccountMap) (key : Pubkey) (live : SplTokenSwapAmm crates) : Prop where
  clock : ∃ account clock, chain clockId = some account ∧
    commandCrates.clockDeserialize account.data = some clock
  pool : ∃ account made, chain key = some account ∧
    ammFactory { key, account, params := none } = .ok made ∧
    SplTokenSwapAmm.update chain made = .ok () live

variable {commandCrates}

/-- A key has one live pool. -/
theorem Live.unique {chain : AccountMap} {key : Pubkey} {live live' : SplTokenSwapAmm crates}
    (h : Live commandCrates chain key live) (h' : Live commandCrates chain key live') :
    live = live' := by
  obtain ⟨account, made, haccount, hmade, hupdated⟩ := h.pool
  obtain ⟨account', made', haccount', hmade', hupdated'⟩ := h'.pool
  obtain rfl : account = account' := Option.some.inj (haccount.symm.trans haccount')
  obtain rfl : made = made' := Except.ok.inj (hmade.symm.trans hmade')
  have hlive := hupdated.symm.trans hupdated'
  cases hlive
  rfl

/-- The clock is read where the chain has one. -/
theorem getAmmContext_eq_ok {rpcClient : RpcNode crates} {chain : AccountMap}
    (hserves : rpcClient.Serves chain) {context : AmmContext commandCrates.Clock} :
    getAmmContext commandCrates rpcClient = .ok context ↔
      ∃ account, chain clockId = some account ∧
        commandCrates.clockDeserialize account.data = some context.clockRef := by
  simp only [getAmmContext, getClock, Outcome.bind_ok, ofExcept_eq_ok, okOr_eq_ok,
    hserves.getAccountWithCommitment, Except.ok.injEq]
  constructor
  · rintro ⟨clock, ⟨_, rfl, account, haccount, hclock⟩, hcontext⟩
    cases hcontext
    exact ⟨account, haccount, hclock⟩
  · rintro ⟨account, haccount, hclock⟩
    exact ⟨context.clockRef, ⟨_, rfl, account, haccount, hclock⟩, rfl⟩

/-- What is ready for a snapshot, on a node that serves a chain. -/
theorem prepareSnapshot_eq_ok (hread : crates.ReadsAccountMap)
    (hconverts : commandCrates.ConvertsAccounts) {network : String → RpcNode crates}
    {rpcUrl : String} {chain : AccountMap} (hserves : (network rpcUrl).Serves chain)
    (ammId : String) (option : Option String)
    (r : AmmTestHarness crates × KeyedAccount crates.Value × SplTokenSwapAmm crates) :
    prepareSnapshot commandCrates network rpcUrl ammId option = .ok r ↔
      ∃ key, crates.pubkeyFromStr ammId = some key ∧ Live commandCrates chain key r.2.2 ∧
        r.1 = AmmTestHarness.newWithRpcUrl network rpcUrl key option ∧
        r.2.1.key = key ∧ chain key = some r.2.1.account ∧ r.2.1.params = none := by
  simp only [prepareSnapshot, Outcome.bind_ok, unwrap_eq_ok, expect_eq_ok,
    getAmmContext_eq_ok hserves, hserves.getAccount]
  have hclient : ∀ key, (AmmTestHarness.newWithRpcUrl network rpcUrl key option).client.Serves
      chain := fun _ => hserves.getMultipleAccounts
  constructor
  · rintro ⟨key, hkey, context, ⟨clockAccount, hclockAccount, hclock⟩, account, haccount,
      keyedAccount, hkeyed, made, hmade, ⟨⟨⟩, live⟩, hlive, hr⟩
    cases hr
    rw [hconverts ammId key account none hkey] at hkeyed
    cases hkeyed
    have hlive := (SplTokenSwapAmm.times_updateAmm_eq_ok hread (hclient key)).1
      (RustM.on_eq_ok.1 hlive)
    exact ⟨key, hkey, ⟨⟨clockAccount, _, hclockAccount, hclock⟩, account, made, haccount, hmade,
      hlive⟩, rfl, rfl, haccount, rfl⟩
  · rintro ⟨key, hkey, ⟨⟨clockAccount, clock, hclockAccount, hclock⟩, account, made, haccount,
      hmade, hlive⟩, hharness, hkeyed, hkeyedAccount, hparams⟩
    obtain ⟨harness, ⟨key', account', params'⟩, live⟩ := r
    obtain rfl : account = account' := Option.some.inj (haccount.symm.trans hkeyedAccount)
    obtain rfl : key = key' := hkeyed.symm
    obtain rfl : params' = none := hparams
    cases hharness
    exact ⟨key, hkey, ⟨clock⟩, ⟨clockAccount, hclockAccount, hclock⟩, account, haccount, _,
      hconverts ammId key account none hkey, made, hmade, ((), live),
      RustM.on_eq_ok.2 ((SplTokenSwapAmm.times_updateAmm_eq_ok hread (hclient key)).2 hlive), rfl⟩

/-- **The command is a transaction on the tree of files.** On a node that serves a chain, and for an
option without a path separator, it ends in a tree exactly where the pool of the id is live on the
chain, its mints have amounts and the directory can be made, and that tree is the old one with the
directory replaced by the accounts of the live pool, the placeholder aside. However it fails, the
tree is as it was. -/
theorem takeSnapshot_iff (hread : crates.ReadsAccountMap) (hprint : crates.PrintsKeys)
    (horder : crates.OrdersHashSets) (hconverts : commandCrates.ConvertsAccounts)
    {network : String → RpcNode crates} {rpcUrl : String} {chain : AccountMap}
    (hserves : (network rpcUrl).Serves chain) (tables : TokenTables) (ammId : String)
    (option : Option String) (hslash : ∀ text, option = some text → '/' ∉ text.toList)
    (force : Bool) (t : FileTree String) :
    (∀ t', takeSnapshot commandCrates network tables rpcUrl ammId option force t = .ok () t' ↔
      ∃ key live, crates.pubkeyFromStr ammId = some key ∧ Live commandCrates chain key live ∧
        live.HasAmounts tables ∧
        (AmmTestHarness.newWithRpcUrl network rpcUrl key option).CanMake force t ∧
        t.ReplacesDir t' (AmmTestHarness.newWithRpcUrl network rpcUrl key option).directoryPath
          (AmmTestHarness.poolFiles chain live)) ∧
    ∀ e t', takeSnapshot commandCrates network tables rpcUrl ammId option force t = .error e t' →
      t' = t := by
  have hrun : takeSnapshot commandCrates network tables rpcUrl ammId option force t =
      (RustM.lift (prepareSnapshot commandCrates network rpcUrl ammId option) >>= fun r =>
        r.1.snapshotAmmAccounts tables r.2.2 r.2.1.params force) t := rfl
  have hready := prepareSnapshot_eq_ok hread hconverts hserves ammId option
  have hpath : ∀ key, (AmmTestHarness.newWithRpcUrl network rpcUrl key option).snapshotPath =
      (AmmTestHarness.newWithRpcUrl network rpcUrl key option).directoryPath := fun key =>
    AmmTestHarness.NoSeparator.snapshotPath_eq hprint hslash
  rw [hrun]
  cases hprepare : prepareSnapshot commandCrates network rpcUrl ammId option with
  | error e =>
    refine ⟨fun t' => iff_of_false nofun ?_, ?_⟩
    · rintro ⟨key, live, hkey, hlive, -⟩
      obtain ⟨account, -, haccount, -⟩ := hlive.pool
      have hok := (hready (_, { key, account, params := none }, live)).2
        ⟨key, hkey, hlive, rfl, rfl, haccount, rfl⟩
      rw [hprepare] at hok
      cases hok
    · intro e' t' h
      cases h
      rfl
  | ok r =>
    obtain ⟨key, hkey, hlive, hharness, -, -, hparams⟩ := (hready r).1 hprepare
    obtain ⟨harness, ⟨_, _, params⟩, live⟩ := r
    obtain rfl : params = none := hparams
    cases hharness
    rw [RustM.bind_of_ok RustM.lift_ok]
    obtain ⟨hok, herror⟩ := (AmmTestHarness.newWithRpcUrl network rpcUrl key
      option).snapshotAmmAccounts_pool hprint horder hserves.getMultipleAccounts tables live force t
    rw [hpath] at hok
    refine ⟨fun t' => (hok t').trans ⟨?_, ?_⟩, herror⟩
    · rintro ⟨hamounts, hcan, hreplaces⟩
      exact ⟨key, live, hkey, hlive, hamounts, hcan, hreplaces⟩
    · rintro ⟨key', live', hkey', hlive', hamounts, hcan, hreplaces⟩
      obtain rfl : key = key' := Option.some.inj (hkey.symm.trans hkey')
      obtain rfl := hlive.unique hlive'
      exact ⟨hamounts, hcan, hreplaces⟩

end

/-! ## The example pool -/

namespace Reference

/-- `solana_sdk::clock::Clock`. -/
structure Clock where
  slot : UInt64
  epochStartTimestamp : Int64
  epoch : UInt64
  leaderScheduleEpoch : UInt64
  unixTimestamp : Int64
  deriving DecidableEq

/-- `bincode::deserialize` at `Clock`. -/
def clockDeserialize (data : Bytes) : Option Clock :=
  if data.length < 40 then
    none
  else
    some {
      slot := u64At data 0
      epochStartTimestamp := (u64At data 8).toInt64
      epoch := u64At data 16
      leaderScheduleEpoch := u64At data 24
      unixTimestamp := (u64At data 32).toInt64 }

/-- `TryFrom<KeyedUiAccount> for KeyedAccount`. -/
def keyedAccountTryFrom (keyedUiAccount : KeyedUiAccount referenceCrates) :
    referenceCrates.Result (KeyedAccount Value) := do
  let account ← match uiAccountDecode keyedUiAccount.uiAccount with
    | some account => .ok account
    | none => .error (.panic ("Failed to decode ui_account for " ++ keyedUiAccount.pubkey))
  let key ← ofExcept (match pubkeyFromStr keyedUiAccount.pubkey with
    | some key => .ok key
    | none => .error (referenceCrates.anyhow "String is the wrong size"))
  pure { key, account, params := keyedUiAccount.params }

end Reference

open Reference in
/-- The reference crates of the command. -/
abbrev referenceCommandCrates : CommandCrates referenceCrates where
  Clock := Clock
  clockDefault := ⟨0, 0, 0, 0, 0⟩
  clockDeserialize := clockDeserialize
  keyedAccountTryFrom := keyedAccountTryFrom

section
open Reference AmmTestHarness

theorem convertsAccounts_referenceCommandCrates : referenceCommandCrates.ConvertsAccounts := by
  have hfrom : referenceCrates.pubkeyFromStr = pubkeyFromStr := by dsimp only [referenceCrates]
  intro pubkey k account params hk
  rw [hfrom] at hk
  simp only [keyedAccountTryFrom, uiAccountDecode_encode, hk, ofExcept_ok, Outcome.ok_bind]
  rfl

/-- The account of the clock of the example chain. -/
def clockAccount : Account where
  lamports := 1169280
  data := List.replicate 40 0
  owner := pubkey "Sysvar1111111111111111111111111111111111111"
  executable := false
  rentEpoch := 0

/-- The example chain, with a clock. -/
def clockChain : AccountMap := chain.insert clockId clockAccount

/-- A node that serves a chain. -/
def RpcNode.ofChain (crates : Crates) (chain : AccountMap) : RpcNode crates where
  getMultipleAccounts addresses := .ok (addresses.map chain)
  getAccount k := match chain k with
    | some account => .ok account
    | none => .error (crates.anyhow "AccountNotFound")
  getAccountWithCommitment k := .ok (chain k)

theorem RpcNode.serves_ofChain (crates : Crates) (chain : AccountMap) :
    (RpcNode.ofChain crates chain).Serves chain where
  getMultipleAccounts _ := rfl
  getAccount := by
    intro k account
    simp only [RpcNode.ofChain]
    cases chain k <;> simp
  getAccountWithCommitment _ := rfl

/-- Every node serves the example chain. -/
def poolNetwork (_url : String) : RpcNode referenceCrates := .ofChain referenceCrates clockChain

theorem serves_poolNetwork (url : String) : (poolNetwork url).Serves clockChain :=
  RpcNode.serves_ofChain _ _

/-- The keys of the example chain. -/
theorem keys_clockChain : [clockId, poolKeyedAccount.key, vaultA, vaultB] =
    [0x06a7d51718c774c928566398691d5eb68b5eb8a39b4b6d5c73555b2100000000#256,
      0xc523f583f96ed4fdbd8ade165f8dfe5533c10fa021a22a3f31e54adc02031661#256,
      0x8b335f799935aa3f8ccd9384f456fe6222a26f7d31b04143246b927066cbab9d#256,
      0x5a3f4fc6e059cbef43a31884da9144fb99ea03b253c5bf15e8b703cd0d6cb4a4#256] := by
  decide +kernel

theorem keys_ne_clockChain :
    poolKeyedAccount.key ≠ clockId ∧ vaultA ≠ clockId ∧ vaultB ≠ clockId := by
  have hkeys := keys_clockChain
  simp only [List.cons.injEq] at hkeys
  obtain ⟨hclock, hpool, hvaultA, hvaultB, -⟩ := hkeys
  rw [hclock, hpool, hvaultA, hvaultB]
  decide

/-- A key that is none of these has no account on the example chain. -/
theorem clockChain_eq_none {k : Pubkey}
    (hk : k ∉ [clockId, poolKeyedAccount.key, vaultA, vaultB]) : clockChain k = none := by
  rw [List.mem_cons, not_or] at hk
  rw [clockChain, HashMap.insert_of_ne _ _ hk.1, chain, HashMap.ofList,
    HashMap.insertAll_of_notMem _ _ hk.2]
  rfl

theorem clockChain_clock : clockChain clockId = some clockAccount := HashMap.insert_self _ _ _

theorem clockChain_pool : clockChain poolKeyedAccount.key = some poolAccount := by
  exact (HashMap.insert_of_ne chain clockAccount keys_ne_clockChain.1).trans chain_pool

/-- The clock is no vault of the example pool. -/
theorem clockChain_vaults : ∀ k ∈ pool.getAccountsToUpdate, clockChain k = chain k := by
  obtain ⟨-, hneA, hneB⟩ := keys_ne_clockChain
  intro k hk
  have hk : k = vaultA ∨ k = vaultB := List.mem_pair.1 hk
  rcases hk with rfl | rfl
  · exact HashMap.insert_of_ne _ _ hneA
  · exact HashMap.insert_of_ne _ _ hneB

theorem isSome_clock : (clockDeserialize clockAccount.data).isSome := by decide +kernel

/-- The owner of the example pool is a program the AMM reads. -/
theorem containsKey_pool : splTokenSwapPrograms.containsKey poolKeyedAccount.account.owner := by
  have howner : poolKeyedAccount.account.owner = SplTokenSwapPrograms.orcaV2 := rfl
  rw [howner]
  apply HashMap.isSome_ofList
  exact .tail _ (.head _)

/-- The example pool is live on the example chain. -/
theorem live_pool : Live referenceCommandCrates clockChain poolKeyedAccount.key
    (pool.withReserves (balanceA, balanceB)) := by
  have hupdate := (SplTokenSwapAmm.update_congr readsAccountMap clockChain_vaults).trans
    SplTokenSwapAmm.update_pool
  have hmade : (ammFactory poolKeyedAccount : referenceCrates.Result _) = .ok pool := by
    rw [ammFactory_of_supported]
    · exact fromKeyedAccount_pool
    · exact containsKey_pool
  obtain ⟨clock, hclock⟩ := Option.isSome_iff_exists.1 isSome_clock
  exact ⟨⟨clockAccount, clock, clockChain_clock, hclock⟩, poolAccount, pool, clockChain_pool, hmade,
    hupdate⟩

theorem hasAmounts_pool :
    (pool.withReserves (balanceA, balanceB)).HasAmounts tokenTables := by
  intro mint hmint
  have hmint : mint = mintA ∨ mint = mintB := List.mem_pair.1 hmint
  rcases hmint with rfl | rfl
  · exact Option.isSome_of_eq_some tokenMintToInAmount_mintA
  · exact Option.isSome_of_eq_some tokenMintToInAmount_mintB

/-- The placeholder is no account of the example chain. -/
theorem clockChain_newUnique : clockChain referenceCrates.newUnique = none := by
  apply clockChain_eq_none
  rw [keys_clockChain]
  decide

theorem sparesPlaceholder_pool :
    (pool.withReserves (balanceA, balanceB)).SparesPlaceholder clockChain :=
  SplTokenSwapAmm.sparesPlaceholder_of_none clockChain_newUnique

/-- The harness of the command for the example pool. -/
def commandHarness : AmmTestHarness referenceCrates :=
  .newWithRpcUrl poolNetwork "http://localhost:8899" poolKeyedAccount.key none

/-- The command takes a snapshot of the example pool. -/
theorem takeSnapshot_iff_pool : ∃ t',
    takeSnapshot referenceCommandCrates poolNetwork tokenTables "http://localhost:8899"
      (referenceCrates.pubkeyToString poolKeyedAccount.key) none false fixtures = .ok () t' := by
  have hcan : commandHarness.CanMake false fixtures :=
    canMake_fixtures printsKeys_referenceCrates nofun
  have habsent : fixtures.node commandHarness.directoryPath = none := node_fixtures le_rfl
  have hfiles : ∃ t', fixtures.ReplacesDir t' commandHarness.directoryPath
      (poolFiles clockChain (pool.withReserves (balanceA, balanceB))) :=
    FileTree.exists_replacesDir habsent node_accounts_fixtures _
  obtain ⟨t', hreplaces⟩ := hfiles
  have htransaction := (takeSnapshot_iff readsAccountMap printsKeys_referenceCrates
    ordersHashSets_referenceCrates convertsAccounts_referenceCommandCrates
    (serves_poolNetwork "http://localhost:8899") tokenTables
    (referenceCrates.pubkeyToString poolKeyedAccount.key) none nofun false fixtures).1 t'
  exact ⟨t', htransaction.2 ⟨_, _, printsKeys_referenceCrates.fromStr _, live_pool,
    hasAmounts_pool, hcan, hreplaces⟩⟩

end

end JupiterAmm
