import JupiterAmm.Harness.Replace

/-!
# Rebuilding an AMM from its snapshot

On a chain, the files of a snapshot are the accounts of the collected addresses that exist and are
no programs, each under its printed key, and the parameters (`snapshotFiles_accountFile`,
`snapshotFiles_params`). `get_keyed_account_from_snapshot` wants a file under the AMM's own key, and
the writer makes one only where the AMM reports that key itself (`rebuilds_iff`).
-/

namespace JupiterAmm

open Rust

namespace AmmTestHarness

variable {crates : Crates}

/-! ## The files of a snapshot of a chain -/

/-- The accounts of a chain that are no programs. -/
def livingAccounts (chain : AccountMap) : AccountMap :=
  fun k => (chain k).filter fun account => !account.executable

theorem livingAccounts_eq_some {chain : AccountMap} {k : Pubkey} {account : Account} :
    livingAccounts chain k = some account ↔
      chain k = some account ∧ account.executable = false := by
  rw [livingAccounts, Option.filter_eq_some_iff, Bool.not_eq_true']

/-- The files of a snapshot of a chain. -/
def snapshotFiles (chain : AccountMap) (params : Option crates.Value) (addresses : List Pubkey) :
    List (String × String) :=
  paramsFiles params ++ accountFiles crates (addresses.map chain) addresses

theorem mem_paramsFiles {params : Option crates.Value} {file : String × String} :
    file ∈ paramsFiles params ↔
      ∃ v, params = some v ∧ file = ("params.json", crates.valueToString v) := by
  cases params <;> simp [paramsFiles]

theorem mem_accountFiles {chain : AccountMap} {addresses : List Pubkey} {file : String × String} :
    file ∈ accountFiles crates (addresses.map chain) addresses ↔
      ∃ k ∈ addresses, ∃ account, livingAccounts chain k = some account ∧
        file = (accountFile crates k, accountText crates k account) := by
  have hzip : (addresses.map chain).zip addresses = addresses.map fun k => (chain k, k) := by
    induction addresses with
    | nil => rfl
    | cons k ks ih => rw [List.map_cons, List.zip_cons_cons, ih, List.map_cons]
  have hfile : ∀ k, fileOfAccount crates (chain k, k) = some file ↔
      ∃ account, livingAccounts chain k = some account ∧
        file = (accountFile crates k, accountText crates k account) := by
    intro k
    simp only [livingAccounts_eq_some]
    cases chain k with
    | none => simp [fileOfAccount]
    | some account =>
      rw [fileOfAccount]
      constructor
      · intro h
        split at h
        · cases h
        · next hexecutable =>
          exact ⟨account, ⟨rfl, Bool.not_eq_true _ ▸ hexecutable⟩, (Option.some.inj h).symm⟩
      · rintro ⟨account', ⟨haccount, hexecutable⟩, rfl⟩
        cases haccount
        rw [hexecutable]
        rfl
  rw [accountFiles, hzip, List.filterMap_map, List.mem_filterMap]
  exact exists_congr fun k => and_congr_right fun _ => hfile k

/-- The file of an account tells the account's key. -/
theorem accountFile_injective (hprint : crates.PrintsKeys) :
    Function.Injective (accountFile crates) := by
  intro k k' h
  apply pubkeyToString_injective hprint
  apply String.toList_inj.1
  have hlist := congrArg String.toList h
  rw [accountFile, accountFile, String.toList_append, String.toList_append] at hlist
  exact List.append_cancel_right hlist

/-- The file of an account is not the one of the parameters. -/
theorem accountFile_ne_params (hprint : crates.PrintsKeys) (k : Pubkey) :
    accountFile crates k ≠ "params.json" := by
  intro h
  have hlength := le_length_pubkeyToString hprint k
  have hfile := congrArg String.length h
  rw [accountFile, String.length_append] at hfile
  have : "params.json".length = 11 := by decide
  omega

section
variable (hprint : crates.PrintsKeys) (chain : AccountMap) (params : Option crates.Value)
  (addresses : List Pubkey)
include hprint

/-- A collected account has a file where it exists and is no program. -/
theorem snapshotFiles_accountFile (k : Pubkey) :
    HashMap.ofList (snapshotFiles chain params addresses) (accountFile crates k) =
      ((livingAccounts chain).restrict addresses k).map (accountText crates k) := by
  have hmem : ∀ text, (accountFile crates k, text) ∈ snapshotFiles chain params addresses ↔
      k ∈ addresses ∧ ∃ account, livingAccounts chain k = some account ∧
        text = accountText crates k account := by
    intro text
    rw [snapshotFiles, List.mem_append, mem_paramsFiles, mem_accountFiles]
    constructor
    · rintro (⟨v, -, hfile⟩ | ⟨k', hk', account, haccount, hfile⟩)
      · exact absurd (Prod.mk.inj hfile).1 (accountFile_ne_params hprint k)
      · obtain ⟨hname, htext⟩ := Prod.mk.inj hfile
        obtain rfl := accountFile_injective hprint hname
        exact ⟨hk', account, haccount, htext⟩
    · rintro ⟨hk, account, haccount, rfl⟩
      exact .inr ⟨k, hk, account, haccount, rfl⟩
  rw [HashMap.restrict]
  by_cases hk : k ∈ addresses
  · rw [if_pos hk]
    cases haccount : livingAccounts chain k with
    | none =>
      rw [Option.map_none, Option.eq_none_iff_forall_ne_some]
      intro text htext
      obtain ⟨-, account, haccount', -⟩ := (hmem text).1 (HashMap.mem_of_ofList htext)
      rw [haccount] at haccount'
      cases haccount'
    | some account =>
      apply HashMap.ofList_of_mem
      · exact (hmem _).2 ⟨hk, account, haccount, rfl⟩
      · intro text htext
        obtain ⟨-, account', haccount', rfl⟩ := (hmem text).1 htext
        rw [haccount] at haccount'
        cases haccount'
        rfl
  · rw [if_neg hk, Option.map_none, Option.eq_none_iff_forall_ne_some]
    intro text htext
    exact absurd ((hmem text).1 (HashMap.mem_of_ofList htext)).1 hk

/-- The parameters have a file where there are any. -/
theorem snapshotFiles_params :
    HashMap.ofList (snapshotFiles chain params addresses) "params.json" =
      params.map crates.valueToString := by
  have hmem : ∀ text, ("params.json", text) ∈ snapshotFiles chain params addresses ↔
      ∃ v, params = some v ∧ text = crates.valueToString v := by
    intro text
    rw [snapshotFiles, List.mem_append, mem_paramsFiles, mem_accountFiles]
    constructor
    · rintro (⟨v, hv, hfile⟩ | ⟨k, -, account, -, hfile⟩)
      · exact ⟨v, hv, (Prod.mk.inj hfile).2⟩
      · exact absurd (Prod.mk.inj hfile).1.symm (accountFile_ne_params hprint k)
    · rintro ⟨v, hv, rfl⟩
      exact .inl ⟨v, hv, rfl⟩
  cases params with
  | none =>
    rw [Option.map_none, Option.eq_none_iff_forall_ne_some]
    intro text htext
    obtain ⟨v, hv, -⟩ := (hmem text).1 (HashMap.mem_of_ofList htext)
    cases hv
  | some v =>
    apply HashMap.ofList_of_mem
    · exact (hmem _).2 ⟨v, rfl, rfl⟩
    · intro text htext
      obtain ⟨v', hv', rfl⟩ := (hmem text).1 htext
      cases hv'
      rfl

end

/-! ## The tree a snapshot leaves -/

section
variable (self : AmmTestHarness crates) {α : Type} [Amm crates α] {tables : TokenTables} {amm : α}
  {chain : AccountMap} {params : Option crates.Value} {force : Bool} {t t' : FileTree String}

/-- A snapshot that succeeds holds the files of its addresses. -/
theorem replacesDir_of_snapshot (hprint : crates.PrintsKeys) (hserves : self.client.Serves chain)
    (h : self.snapshotAmmAccounts tables amm params force t = .ok () t') :
    ∃ addresses, addressesForSnapshot tables amm = .ok addresses ∧
      t.ReplacesDir t' self.snapshotPath
        (.ofList (snapshotFiles chain params (crates.hashSetOrder addresses))) := by
  rcases self.snapshotAmmAccounts_cases tables amm params force t hprint with
    ⟨e, -, hrun⟩ | ⟨addresses, haddresses, ⟨-, hrun⟩ | ⟨-, ⟨e, message, t', -, hrun, -⟩ |
      ⟨accounts, t', hanswer, hrun, hreplaces⟩⟩⟩
  · rw [hrun] at h
    cases h
  · rw [hrun] at h
    cases h
  · rw [hrun] at h
    cases h
  · rw [hrun] at h
    cases h
    rw [hserves] at hanswer
    cases hanswer
    exact ⟨addresses, haddresses, hreplaces⟩

/-- What `Option<Value>` reads back: a `null` is `None`. -/
def readBack (params : Option crates.Value) : Option crates.Value :=
  params.filter fun v => !crates.valueIsNull v

/-- **Reading the AMM's account back.** It is there where its key was collected and the chain has it
as no program, with the parameters less a `null`; elsewhere the reader panics. -/
theorem getKeyedAccountFromSnapshot_eq (hprint : crates.PrintsKeys)
    (hencode : crates.EncodesAccounts) (hvalues : crates.EncodesValues) {addresses : List Pubkey}
    (h : t.ReplacesDir t' self.snapshotPath (.ofList (snapshotFiles chain params addresses))) :
    self.getKeyedAccountFromSnapshot t' =
      match (livingAccounts chain).restrict addresses self.key with
      | some account => .ok { key := self.key, account, params := readBack params }
      | none => .error (.panic ("Snapshot file " ++ ("tests/fixtures/accounts/" ++
          self.directoryName ++ "/" ++ accountFile crates self.key) ++ " exists")) := by
  have hpath : ∀ name, FilePath.ofString name = [name] →
      FilePath.ofString ("tests/fixtures/accounts/" ++ self.directoryName ++ "/" ++ name) =
        self.snapshotPath ++ [name] := by
    intro name hname
    rw [FilePath.ofString_append, hname, snapshotPath]
  have hkeyFile := hpath _ (ofString_accountFile hprint self.key)
  have hparamsFile := hpath "params.json" (by decide)
  rw [getKeyedAccountFromSnapshot]
  simp only [hkeyFile, hparamsFile, h.readFile, h.exists?, snapshotFiles_accountFile hprint,
    snapshotFiles_params hprint]
  cases (livingAccounts chain).restrict addresses self.key with
  | none => rfl
  | some account =>
    have hfrom := hencode.fromStr self.key account
    have hdecode := hencode.decode self.key account
    simp only [Option.map_some, accountText, hfrom, unwrap_some, Outcome.ok_bind, hdecode]
    cases params with
    | none => rfl
    | some v =>
      simp only [Option.map_some, Option.isSome_some, if_true, unwrap_some, Outcome.ok_bind,
        optionValueFromStr, hvalues v, readBack, Option.filter_some]
      cases crates.valueIsNull v <;> rfl

/-- Parameters read back as they were unless they are a `null`. -/
theorem readBack_eq_self : readBack params = params ↔
    ∀ v, params = some v → crates.valueIsNull v = false := by
  cases params with
  | none => simp [readBack]
  | some v => simp [readBack, Option.filter_eq_some_iff]

/-- **An AMM is rebuilt from its snapshot exactly when it reports its own key**, and its parameters
are no `null`. -/
theorem rebuilds_iff (hprint : crates.PrintsKeys) (hencode : crates.EncodesAccounts)
    (hvalues : crates.EncodesValues) (horder : crates.OrdersHashSets)
    (hserves : self.client.Serves chain) {account : Account}
    (hkey : chain self.key = some account) (hexecutable : account.executable = false)
    (hsnapshot : self.snapshotAmmAccounts tables amm params force t = .ok () t') :
    self.getKeyedAccountFromSnapshot t' = .ok { key := self.key, account, params } ↔
      (self.key = clockId ∨ (Reports tables amm self.key ∧ self.key ≠ crates.newUnique)) ∧
        ∀ v, params = some v → crates.valueIsNull v = false := by
  obtain ⟨addresses, haddresses, hreplaces⟩ := self.replacesDir_of_snapshot hprint hserves hsnapshot
  have hmem : self.key ∈ crates.hashSetOrder addresses ↔
      self.key = clockId ∨ (Reports tables amm self.key ∧ self.key ≠ crates.newUnique) := by
    rw [(horder addresses).2, mem_addressesForSnapshot haddresses]
  rw [self.getKeyedAccountFromSnapshot_eq hprint hencode hvalues hreplaces, HashMap.restrict,
    livingAccounts_eq_some.2 ⟨hkey, hexecutable⟩, ← hmem, ← readBack_eq_self]
  by_cases hcollected : self.key ∈ crates.hashSetOrder addresses
  · simp [hcollected]
  · simp [hcollected]

end

section
open Reference

/-- A snapshot of an AMM over the two mints of the example pool can be taken where the directory of
fixtures is there. -/
theorem succeeds_fixtures {harness : AmmTestHarness referenceCrates} {chain : AccountMap}
    (hserves : harness.client.Serves chain) (hslash : harness.NoSeparator) {α : Type}
    [Amm referenceCrates α] (amm : α)
    (hpairs : getTokenMintsPermutations amm = .ok [(mintA, mintB), (mintB, mintA)])
    (hswap : ∀ swapParams, ∃ swap, Amm.getSwapAndAccountMetas amm swapParams = .ok swap)
    (params : Option Value) :
    (harness.snapshotAmmAccounts tokenTables amm params false).Succeeds fixtures := by
  rw [succeeds_iff _ _ _ _ _ _ printsKeys_referenceCrates]
  obtain ⟨addresses, haddresses⟩ := exists_addressesForSnapshot amm hpairs hswap
  exact ⟨canMake_fixtures printsKeys_referenceCrates hslash, addresses, _, haddresses, hserves _⟩

theorem serves_poolHarness : SplTokenSwapAmm.poolHarness.client.Serves chain := fun _ => rfl

theorem noSeparator_poolHarness : SplTokenSwapAmm.poolHarness.NoSeparator := by
  intro option hoption
  cases hoption

/-- The example pool reports its own key. -/
theorem reports_pool : Reports tokenTables pool SplTokenSwapAmm.poolHarness.key := by
  refine .inl ⟨[(mintA, mintB), (mintB, mintA)], rfl, (mintA, mintB), List.mem_cons_self ..,
    25000000000, _, tokenMintToInAmount_mintA, rfl, .newReadonly pool.key false, ?_, rfl⟩
  simp [TokenSwap.toAccountMetas]

/-- The example pool is rebuilt from its snapshot, with its parameters. -/
theorem rebuilds_iff_pool :
    ∃ t', SplTokenSwapAmm.poolHarness.snapshotAmmAccounts tokenTables pool (some (.bool true)) false
        fixtures = .ok () t' ∧
      SplTokenSwapAmm.poolHarness.getKeyedAccountFromSnapshot t' =
        .ok { poolKeyedAccount with params := some (.bool true) } := by
  obtain ⟨⟨⟩, t', hsnapshot⟩ := succeeds_fixtures serves_poolHarness noSeparator_poolHarness pool
    rfl (fun _ => ⟨_, rfl⟩) (some (.bool true))
  have hkey : chain SplTokenSwapAmm.poolHarness.key = some poolAccount := chain_pool
  have hplaceholder : SplTokenSwapAmm.poolHarness.key ≠ referenceCrates.newUnique := by
    decide +kernel
  refine ⟨t', hsnapshot, (rebuilds_iff _ printsKeys_referenceCrates encodesAccounts_referenceCrates
    encodesValues_referenceCrates ordersHashSets_referenceCrates (fun _ => rfl) hkey rfl
    hsnapshot).2 ⟨.inr ⟨reports_pool, hplaceholder⟩, ?_⟩⟩
  intro v hv
  cases hv
  rfl

/-- An AMM over the mints and vaults of the example pool, whose swap names only the vaults. -/
inductive VaultAmm where
  | mk

instance : Amm referenceCrates VaultAmm where
  getReserveMints _ := [mintA, mintB]
  getAccountsToUpdate _ := [vaultA, vaultB]
  update _ := pure ()
  quote _ _ := .error (.err (referenceCrates.anyhow "no quote"))
  getSwapAndAccountMetas _ _ :=
    .ok ⟨referenceCrates.swapTokenSwap, [.new vaultA false, .new vaultB false]⟩
  unidirectional _ := false

/-- **An AMM may be lost with its snapshot.** Its account is on the chain, the snapshot is taken,
and the account is not in it. -/
theorem not_rebuilds :
    SplTokenSwapAmm.poolHarness.client.Serves chain ∧
    chain SplTokenSwapAmm.poolHarness.key = some poolKeyedAccount.account ∧
    ∃ t', SplTokenSwapAmm.poolHarness.snapshotAmmAccounts tokenTables VaultAmm.mk none false
        fixtures = .ok () t' ∧
      SplTokenSwapAmm.poolHarness.getKeyedAccountFromSnapshot t' ≠ .ok poolKeyedAccount := by
  obtain ⟨⟨⟩, t', hsnapshot⟩ := succeeds_fixtures serves_poolHarness noSeparator_poolHarness
    VaultAmm.mk rfl (fun _ => ⟨_, rfl⟩) none
  refine ⟨fun _ => rfl, chain_pool, t', hsnapshot, ?_⟩
  obtain ⟨addresses, haddresses, hreplaces⟩ :=
    replacesDir_of_snapshot _ printsKeys_referenceCrates (fun _ => rfl) hsnapshot
  have hne : SplTokenSwapAmm.poolHarness.key ∉ [clockId, vaultA, vaultB, mintA, mintB] := by
    decide +kernel
  have hmem : SplTokenSwapAmm.poolHarness.key ∉ referenceCrates.hashSetOrder addresses := by
    rw [(ordersHashSets_referenceCrates addresses).2, mem_addressesForSnapshot haddresses]
    intro hreported
    apply hne
    rcases hreported with hclock | ⟨⟨pairs, -, pair, -, amount, swap, -, hswap, accountMeta, hmeta,
      hkey⟩ | hupdate | hmint, -⟩
    · exact List.mem_cons.2 (.inl hclock)
    · cases hswap
      rw [← hkey]
      have hvault := List.mem_map_of_mem (f := AccountMeta.pubkey) hmeta
      exact List.mem_cons_of_mem _ (List.mem_append_left [mintA, mintB] hvault)
    · exact List.mem_cons_of_mem _ (List.mem_append_left [mintA, mintB] hupdate)
    · exact List.mem_cons_of_mem _ (List.mem_append_right [vaultA, vaultB] hmint)
  rw [getKeyedAccountFromSnapshot_eq _ printsKeys_referenceCrates encodesAccounts_referenceCrates
    encodesValues_referenceCrates hreplaces, HashMap.restrict, if_neg hmem]
  intro hok
  cases hok

end

end AmmTestHarness

end JupiterAmm
