import JupiterAmm.Harness.Load

/-!
# Whether a snapshot replaces the old one

`snapshot_amm_accounts` makes the directory anew before it asks the RPC node for the accounts, so it
ends in one of four ways (`snapshotAmmAccounts_cases`): the accounts of a swap are not there, or the
directory cannot be made, and nothing has changed; the node does not answer, and the directory has
at most the parameters in it; or it holds the new snapshot. A snapshot that succeeds has replaced
the old one, but one that fails may have thrown the old one away, and with `force` it fails where
there is no old one (`replacesOrKeeps_iff`).
-/

namespace JupiterAmm

open Rust

namespace AmmTestHarness

variable {crates : Crates}

/-! ## The files of a snapshot -/

/-- The file of the parameters, if there are any. -/
def paramsFiles (params : Option crates.Value) : List (String × String) :=
  match params with
  | some params => [("params.json", crates.valueToString params)]
  | none => []

/-- The file of an account that exists and is no program. -/
def fileOfAccount (crates : Crates) : Option Account × Pubkey → Option (String × String)
  | (some account, address) =>
    if account.executable then none
    else some (accountFile crates address, accountText crates address account)
  | (none, _) => none

/-- The files of the accounts of an answer. -/
def accountFiles (crates : Crates) (accounts : List (Option Account)) (addresses : List Pubkey) :
    List (String × String) :=
  (accounts.zip addresses).filterMap (fileOfAccount crates)

/-- The file of an account has the account's key for a name. -/
theorem name_of_fileOfAccount {account : Option Account} {address : Pubkey}
    {file : String × String} (h : fileOfAccount crates (account, address) = some file) :
    file.1 = accountFile crates address := by
  cases account with
  | none => cases h
  | some account =>
    rw [fileOfAccount, Option.ite_none_left_eq_some] at h
    obtain ⟨-, hfile⟩ := h
    cases hfile
    rfl

/-- A short name is none of an account's file. -/
theorem ofList_accountFiles_of_length (hprint : crates.PrintsKeys)
    {accounts : List (Option Account)} {addresses : List Pubkey} {name : String}
    (hname : name.length < 32) :
    HashMap.ofList (accountFiles crates accounts addresses) name = none := by
  apply HashMap.insertAll_of_notMem
  rw [accountFiles, List.mem_map]
  rintro ⟨file, hfile, rfl⟩
  obtain ⟨⟨account, k⟩, -, hfile⟩ := List.mem_filterMap.1 hfile
  have hlength := le_length_pubkeyToString hprint k
  rw [name_of_fileOfAccount hfile, accountFile, String.length_append] at hname
  omega

variable (self : AmmTestHarness crates)

/-- Writing a file into the directory of the snapshot. -/
theorem writeFile_of_some {name content : String} (hname : FilePath.ofString name = [name])
    {t t' : FileTree String} (h : t.writeFile (self.snapshotPath ++ [name]) content = some t') :
    self.writeFile name content t = .ok () t' := by
  rw [writeFile, RustM.unwrap, tryFile, hname, h]

/-- Writing the parameters is writing their file. -/
theorem writeParams_eq {params : Option crates.Value} {t t' : FileTree String}
    (h : t.writeFiles self.snapshotPath (paramsFiles params) = some t') :
    self.writeParams params t = .ok () t' := by
  cases params with
  | none =>
    cases h
    rfl
  | some params =>
    rw [paramsFiles, FileTree.writeFiles, Option.bind_eq_some_iff] at h
    obtain ⟨t₁, ht₁, h⟩ := h
    cases h
    exact self.writeFile_of_some (by decide) ht₁

/-- Writing the accounts is writing their files. -/
theorem writeAccounts_eq (hprint : crates.PrintsKeys) {accounts : List (Option Account)}
    {addresses : List Pubkey} {t t' : FileTree String}
    (h : t.writeFiles self.snapshotPath (accountFiles crates accounts addresses) = some t') :
    self.writeAccounts (accounts.zip addresses) t = .ok () t' := by
  rw [accountFiles] at h
  generalize accounts.zip addresses = l at h ⊢
  induction l generalizing t with
  | nil =>
    cases h
    rfl
  | cons p l ih =>
    obtain ⟨account, address⟩ := p
    cases account with
    | none =>
      rw [List.filterMap_cons_none rfl] at h
      exact ih h
    | some account =>
      rw [writeAccounts]
      by_cases hexecutable : account.executable
      · have hfile : fileOfAccount crates (some account, address) = none := if_pos hexecutable
        rw [List.filterMap_cons_none hfile] at h
        rw [if_pos hexecutable]
        exact ih h
      · have hfile : fileOfAccount crates (some account, address) =
            some (accountFile crates address, accountText crates address account) :=
          if_neg hexecutable
        rw [List.filterMap_cons_some hfile, FileTree.writeFiles, Option.bind_eq_some_iff] at h
        obtain ⟨t₁, ht₁, h⟩ := h
        rw [if_neg hexecutable, RustM.bind_of_ok
          (self.writeFile_of_some (ofString_accountFile hprint address) ht₁)]
        exact ih h

/-! ## The four ways to end -/

/-- The directory can be made anew: with `force` it is there, without it is not but has a place. -/
def CanMake (force : Bool) (t : FileTree String) : Prop :=
  if force then t.node self.snapshotPath = some .dir
  else t.node self.snapshotPath = none ∧ t.node self.snapshotPath.dropLast = some .dir

theorem canMake_true {t : FileTree String} :
    self.CanMake true t ↔ t.node self.snapshotPath = some .dir := Iff.rfl

theorem canMake_false {t : FileTree String} :
    self.CanMake false t ↔
      t.node self.snapshotPath = none ∧ t.node self.snapshotPath.dropLast = some .dir := Iff.rfl

/-- Making the directory: it is empty then, or nothing has changed. -/
theorem makeDirectory_cases (force : Bool) (t : FileTree String) :
    (self.CanMake force t ∧ ∃ t₁, t.ReplacesDir t₁ self.snapshotPath HashMap.empty ∧
      self.makeDirectory force t = .ok () t₁) ∨
    (¬ self.CanMake force t ∧ self.makeDirectory force t = .error (.err crates.ioError) t) := by
  cases force with
  | true =>
    rw [canMake_true]
    cases hremove : t.removeDirAll self.snapshotPath with
    | some t₀ =>
      obtain ⟨hdir, -, -⟩ := FileTree.removeDirAll_eq_some.1 hremove
      obtain ⟨t₁, hcreate, hreplaces⟩ := FileTree.replacesDir_of_removeDirAll hremove
      exact .inl ⟨hdir, t₁, hreplaces,
        (RustM.bind_of_ok (tryFile_of_some hremove)).trans (tryFile_of_some hcreate)⟩
    | none =>
      have hdir : t.node self.snapshotPath ≠ some .dir := fun hdir => by
        have hsome := FileTree.isSome_removeDirAll.2 ⟨hdir, self.snapshotPath_ne_nil⟩
        rw [hremove] at hsome
        cases hsome
      exact .inr ⟨hdir, RustM.bind_of_error (tryFile_of_none hremove)⟩
  | false =>
    have hmake : self.makeDirectory false = tryFile fun t => t.createDir self.snapshotPath := rfl
    rw [canMake_false, ← FileTree.isSome_createDir, hmake]
    cases hcreate : t.createDir self.snapshotPath with
    | some t₁ =>
      exact .inl ⟨rfl, t₁, FileTree.replacesDir_of_createDir hcreate, tryFile_of_some hcreate⟩
    | none => exact .inr ⟨Bool.false_ne_true, tryFile_of_none hcreate⟩

section
variable {α : Type} [Amm crates α] (tables : TokenTables) (amm : α)
  (params : Option crates.Value) (force : Bool) (t : FileTree String)

/-- **The four ways `snapshot_amm_accounts` ends.** -/
theorem snapshotAmmAccounts_cases (hprint : crates.PrintsKeys) :
    (∃ e, addressesForSnapshot tables amm = .error e ∧
      self.snapshotAmmAccounts tables amm params force t = .error e t) ∨
    ∃ addresses, addressesForSnapshot tables amm = .ok addresses ∧
      ((¬ self.CanMake force t ∧
        self.snapshotAmmAccounts tables amm params force t = .error (.err crates.ioError) t) ∨
      (self.CanMake force t ∧
        ((∃ e message t', self.client.getMultipleAccounts (crates.hashSetOrder addresses) =
            .error e ∧
          self.snapshotAmmAccounts tables amm params force t = .error (.panic message) t' ∧
          t.ReplacesDir t' self.snapshotPath (.ofList (paramsFiles params))) ∨
        ∃ accounts t', self.client.getMultipleAccounts (crates.hashSetOrder addresses) =
            .ok accounts ∧
          self.snapshotAmmAccounts tables amm params force t = .ok () t' ∧
          t.ReplacesDir t' self.snapshotPath (.ofList (paramsFiles params ++
            accountFiles crates accounts (crates.hashSetOrder addresses)))))) := by
  have hrun : self.snapshotAmmAccounts tables amm params force t =
      (RustM.lift (addressesForSnapshot tables amm) >>= fun addresses =>
        self.makeDirectory force >>= fun _ => self.writeParams params >>= fun _ =>
        RustM.lift (Outcome.unwrap (ofExcept
          (self.client.getMultipleAccounts (crates.hashSetOrder addresses)))) >>= fun accounts =>
        self.writeAccounts (accounts.zip (crates.hashSetOrder addresses))) t := rfl
  rw [hrun]
  cases haddresses : (addressesForSnapshot tables amm : crates.Result (List Pubkey)) with
  | error e => exact .inl ⟨e, rfl, rfl⟩
  | ok addresses =>
    refine .inr ⟨addresses, rfl, ?_⟩
    rw [RustM.bind_of_ok RustM.lift_ok]
    rcases self.makeDirectory_cases force t with ⟨hcan, t₁, hempty, hmake⟩ | ⟨hcan, hmake⟩
    · refine .inr ⟨hcan, ?_⟩
      obtain ⟨t₂, hwrite, hparams⟩ := hempty.writeFiles (paramsFiles params)
      rw [RustM.bind_of_ok hmake, RustM.bind_of_ok (self.writeParams_eq hwrite)]
      cases hanswer : self.client.getMultipleAccounts (crates.hashSetOrder addresses) with
      | error e => exact .inl ⟨e, _, t₂, rfl, rfl, hparams⟩
      | ok accounts =>
        obtain ⟨t₃, hwrite, haccounts⟩ :=
          hparams.writeFiles (accountFiles crates accounts (crates.hashSetOrder addresses))
        refine .inr ⟨accounts, t₃, rfl, self.writeAccounts_eq hprint hwrite, ?_⟩
        rw [HashMap.ofList, HashMap.insertAll_append]
        exact haccounts
    · exact .inl ⟨hcan, RustM.bind_of_error hmake⟩

/-- However a snapshot ends, it changes nothing outside its directory. -/
theorem node_after_snapshotAmmAccounts (hprint : crates.PrintsKeys) {q : FilePath}
    (hq : ¬ self.snapshotPath <+: q) :
    ((self.snapshotAmmAccounts tables amm params force).after t).node q = t.node q := by
  rw [RustM.after]
  rcases self.snapshotAmmAccounts_cases tables amm params force t hprint with
    ⟨e, -, hrun⟩ | ⟨addresses, -, ⟨-, hrun⟩ | ⟨-, ⟨e, message, t', -, hrun, hreplaces⟩ |
      ⟨accounts, t', -, hrun, hreplaces⟩⟩⟩
  · rw [hrun]
  · rw [hrun]
  · rw [hrun]
    exact hreplaces.outside q hq
  · rw [hrun]
    exact hreplaces.outside q hq

/-- When a snapshot succeeds. -/
theorem succeeds_iff (hprint : crates.PrintsKeys) :
    (self.snapshotAmmAccounts tables amm params force).Succeeds t ↔
      self.CanMake force t ∧ ∃ addresses accounts,
        addressesForSnapshot tables amm = .ok addresses ∧
        self.client.getMultipleAccounts (crates.hashSetOrder addresses) = .ok accounts := by
  rcases self.snapshotAmmAccounts_cases tables amm params force t hprint with
    ⟨e, haddresses, hrun⟩ | ⟨addresses, haddresses, ⟨hcan, hrun⟩ | ⟨hcan, ⟨e, message, t', hanswer,
      hrun, -⟩ | ⟨accounts, t', hanswer, hrun, -⟩⟩⟩
  · simp [RustM.Succeeds, hrun, haddresses]
  · simp [RustM.Succeeds, hrun, hcan]
  · simp [RustM.Succeeds, hrun, haddresses, hanswer]
  · simp [RustM.Succeeds, hrun, hcan, haddresses, hanswer]

variable {self tables amm params force t} in
/-- Where the node does not answer, the directory is made anew and left with the parameters. -/
theorem snapshotAmmAccounts_of_error (hprint : crates.PrintsKeys) {addresses : List Pubkey}
    {e : crates.Error} (haddresses : addressesForSnapshot tables amm = .ok addresses)
    (hanswer : self.client.getMultipleAccounts (crates.hashSetOrder addresses) = .error e)
    (hcan : self.CanMake force t) : ∃ message t',
      self.snapshotAmmAccounts tables amm params force t = .error (.panic message) t' ∧
        t.ReplacesDir t' self.snapshotPath (.ofList (paramsFiles params)) := by
  rcases self.snapshotAmmAccounts_cases tables amm params force t hprint with
    ⟨e', haddresses', -⟩ | ⟨addresses', haddresses', ⟨hcan', -⟩ | ⟨-, ⟨e', message, t', -, hrun,
      hreplaces⟩ | ⟨accounts, t', hanswer', -, -⟩⟩⟩
  · rw [haddresses] at haddresses'
    cases haddresses'
  · exact absurd hcan hcan'
  · exact ⟨message, t', hrun, hreplaces⟩
  · rw [haddresses] at haddresses'
    cases haddresses'
    rw [hanswer] at hanswer'
    cases hanswer'

/-! ## Entirely or not at all -/

/-- A call replaces the old snapshot entirely or not at all. Where it fails, with an `Err` or a
panic, the directory is as it was; where it succeeds, the directory holds exactly the files of the
new snapshot; and with `force` it does not fail because there is no old one. -/
structure ReplacesOrKeeps : Prop where
  fails : ∀ e t', self.snapshotAmmAccounts tables amm params force t = .error e t' →
    ∀ q, self.directoryPath <+: q → t'.node q = t.node q
  succeeds : ∀ t', self.snapshotAmmAccounts tables amm params force t = .ok () t' →
    ∃ addresses accounts, addressesForSnapshot tables amm = .ok addresses ∧
      self.client.getMultipleAccounts (crates.hashSetOrder addresses) = .ok accounts ∧
      t.ReplacesDir t' self.directoryPath (.ofList (paramsFiles params ++
        accountFiles crates accounts (crates.hashSetOrder addresses)))
  absent : force = true → t.node self.directoryPath = none →
    (self.snapshotAmmAccounts tables amm params false).Succeeds t →
    (self.snapshotAmmAccounts tables amm params force).Succeeds t

variable {self tables amm params force t} in
/-- A call that fails and leaves the directory alone keeps the old snapshot. -/
theorem replacesOrKeeps_of_error {e : Fault crates.Error} {t' : FileTree String}
    (hrun : self.snapshotAmmAccounts tables amm params force t = .error e t')
    (hkeeps : ∀ q, self.directoryPath <+: q → t'.node q = t.node q)
    (habsent : force = true → t.node self.directoryPath = none →
      ¬ (self.snapshotAmmAccounts tables amm params false).Succeeds t) :
    self.ReplacesOrKeeps tables amm params force t := by
  constructor
  · intro e' t'' hfail
    rw [hrun] at hfail
    cases hfail
    exact hkeeps
  · intro t'' hok
    rw [hrun] at hok
    cases hok
  · intro hforce hnone hsucceeds
    exact absurd hsucceeds (habsent hforce hnone)

/-- Where the node does not answer, the old files are gone. -/
theorem loses_file (hslash : self.NoSeparator) (hprint : crates.PrintsKeys)
    {addresses : List Pubkey} {e : crates.Error}
    (haddresses : addressesForSnapshot tables amm = .ok addresses)
    (hanswer : self.client.getMultipleAccounts (crates.hashSetOrder addresses) = .error e)
    (hcan : self.CanMake force t) {name content : String}
    (hold : t.node (self.directoryPath ++ [name]) = some (.file content))
    (hname : name ∉ (paramsFiles params).map Prod.fst) :
    ¬ self.ReplacesOrKeeps tables amm params force t := by
  rintro ⟨hfails, -, -⟩
  obtain ⟨message, t', hrun, hreplaces⟩ :=
    snapshotAmmAccounts_of_error hprint haddresses hanswer hcan
  rw [hslash.snapshotPath_eq hprint] at hreplaces
  have hnew := hreplaces.files name
  rw [HashMap.ofList, HashMap.insertAll_of_notMem _ _ hname,
    hfails _ _ hrun _ (List.prefix_append _ _), hold] at hnew
  cases hnew

/-- When a call loses nothing. Where the node answers, it is not one with `force` for a directory
that is still to be made; where the node does not answer, the directory cannot be made, or already
holds just the parameters. -/
def LosesNothing : Prop :=
  ∀ addresses, addressesForSnapshot tables amm = .ok addresses →
    match self.client.getMultipleAccounts (crates.hashSetOrder addresses) with
    | .ok _ => ¬ (force = true ∧ self.CanMake false t)
    | .error _ => self.CanMake force t →
        t.ReplacesDir t self.directoryPath (.ofList (paramsFiles params))

/-- **A snapshot replaces the old one entirely or not at all exactly when the call loses nothing.**
An option with a path separator may lead out of the directory of fixtures. -/
theorem replacesOrKeeps_iff (hprint : crates.PrintsKeys) (hslash : self.NoSeparator) :
    self.ReplacesOrKeeps tables amm params force t ↔
      self.LosesNothing tables amm params force t := by
  have hpath := hslash.snapshotPath_eq hprint
  constructor
  · rintro ⟨hfails, -, habsent⟩ addresses haddresses
    cases hanswer : self.client.getMultipleAccounts (crates.hashSetOrder addresses) with
    | ok accounts =>
      rintro ⟨rfl, hcan⟩
      have hsucceeds := habsent rfl (hpath ▸ hcan.1)
        ((self.succeeds_iff tables amm params false t hprint).2
          ⟨hcan, addresses, accounts, haddresses, hanswer⟩)
      obtain ⟨hdir, -⟩ := (self.succeeds_iff tables amm params true t hprint).1 hsucceeds
      rw [canMake_true, hcan.1] at hdir
      cases hdir
    | error e =>
      intro hcan
      obtain ⟨message, t', hrun, hreplaces⟩ :=
        snapshotAmmAccounts_of_error hprint haddresses hanswer hcan
      rw [hpath] at hreplaces
      exact hreplaces.same_iff.1 (hfails _ _ hrun)
  · intro h
    rcases self.snapshotAmmAccounts_cases tables amm params force t hprint with
      ⟨e, haddresses, hrun⟩ | ⟨addresses, haddresses, ⟨hcan, hrun⟩ | ⟨hcan, ⟨e, message, t',
        hanswer, hrun, hreplaces⟩ | ⟨accounts, t', hanswer, hrun, hreplaces⟩⟩⟩
    · -- the accounts of a swap are not there, with or without `force`
      refine replacesOrKeeps_of_error hrun (fun _ _ => rfl) fun _ _ hsucceeds => ?_
      obtain ⟨-, addresses, accounts, haddresses', -⟩ :=
        (self.succeeds_iff tables amm params false t hprint).1 hsucceeds
      rw [haddresses] at haddresses'
      cases haddresses'
    · -- the directory cannot be made
      refine replacesOrKeeps_of_error hrun (fun _ _ => rfl) fun hforce _ hsucceeds => ?_
      obtain ⟨hmake, addresses', accounts, haddresses', hanswer⟩ :=
        (self.succeeds_iff tables amm params false t hprint).1 hsucceeds
      have hsafe := h addresses' haddresses'
      rw [hanswer] at hsafe
      exact hsafe ⟨hforce, hmake⟩
    · -- the node does not answer
      have hsafe := h addresses haddresses
      rw [hanswer] at hsafe
      rw [hpath] at hreplaces
      refine replacesOrKeeps_of_error hrun (hreplaces.same_iff.2 (hsafe hcan))
        fun hforce habsent _ => ?_
      subst hforce
      rw [canMake_true, hpath, habsent] at hcan
      cases hcan
    · -- the snapshot is taken
      refine ⟨?_, ?_, ?_⟩
      · intro e' t'' hfail
        rw [hrun] at hfail
        cases hfail
      · intro t'' hok
        rw [hrun] at hok
        cases hok
        exact ⟨addresses, accounts, haddresses, hanswer, hpath ▸ hreplaces⟩
      · intro _ _ _
        exact ⟨(), t', hrun⟩

end

section
open Reference

/-- A tree with the directory of fixtures, and nothing in it. -/
def fixtures : FileTree String :=
  (((FileTree.empty.createDir ["tests"]).bind fun t => t.createDir ["tests", "fixtures"]).bind
    fun t => t.createDir ["tests", "fixtures", "accounts"]).get (by decide +kernel)

/-- Nothing lies in the directory of fixtures. -/
theorem node_fixtures {p : FilePath} (h : 4 ≤ p.length) : fixtures.node p = none := by
  have hshort : ∀ q ∈ fixtures.paths, q.length ≤ 3 := by decide +kernel
  by_contra hnone
  have hmem := (fixtures.mem_paths p).2 (Option.isSome_iff_ne_none.2 hnone)
  exact absurd (hshort p hmem) (by omega)

theorem node_accounts_fixtures : fixtures.node ["tests", "fixtures", "accounts"] = some .dir := by
  decide +kernel

/-- A first snapshot can be made in the directory of fixtures. -/
theorem canMake_fixtures {crates : Crates} {self : AmmTestHarness crates}
    (hprint : crates.PrintsKeys) (hslash : self.NoSeparator) : self.CanMake false fixtures := by
  rw [canMake_false, hslash.snapshotPath_eq hprint]
  exact ⟨node_fixtures le_rfl, node_accounts_fixtures⟩

/-- The mints of the table are different. -/
theorem nodup_tokenTables : (tokenTables.tokenMintAndInAmount.map Prod.fst).Nodup := by
  decide +kernel

/-- Each row of the table is the amount of its mint. -/
theorem tokenMintToInAmount_of_mem {mint : Pubkey} {amount : UInt64}
    (h : (mint, amount) ∈ tokenTables.tokenMintAndInAmount) :
    tokenTables.tokenMintToInAmount mint = some amount := by
  have htables : tokenTables.token2022MintAndInAmount = [] := rfl
  rw [TokenTables.tokenMintToInAmount, htables, HashMap.insertAll_nil]
  exact HashMap.ofList_of_nodup nodup_tokenTables h

theorem mem_tokenTables_mintA : (mintA, 25000000000) ∈ tokenTables.tokenMintAndInAmount := .head _

theorem mem_tokenTables_mintB : (mintB, 1110000000) ∈ tokenTables.tokenMintAndInAmount :=
  .tail _ (.tail _ (.tail _ (.head _)))

theorem tokenMintToInAmount_mintA : tokenTables.tokenMintToInAmount mintA = some 25000000000 :=
  tokenMintToInAmount_of_mem mem_tokenTables_mintA

theorem tokenMintToInAmount_mintB : tokenTables.tokenMintToInAmount mintB = some 1110000000 :=
  tokenMintToInAmount_of_mem mem_tokenTables_mintB

/-- A harness whose node does not answer. -/
def offlineHarness : AmmTestHarness referenceCrates where
  client := ⟨fun _ => .error ⟨"connection refused", none⟩⟩
  key := poolKeyedAccount.key
  option := none

/-- A tree with an old snapshot of the example pool. -/
def oldSnapshot : FileTree String :=
  ((fixtures.createDir offlineHarness.directoryPath).bind fun t =>
    t.writeFile (offlineHarness.directoryPath ++ ["old.json"]) "old").get (by decide +kernel)

theorem node_oldSnapshot : oldSnapshot.node offlineHarness.directoryPath = some .dir := by
  decide +kernel

theorem node_oldFile :
    oldSnapshot.node (offlineHarness.directoryPath ++ ["old.json"]) = some (.file "old") := by
  decide +kernel

theorem noSeparator_offlineHarness : offlineHarness.NoSeparator := by
  intro option hoption
  cases hoption

/-- The accounts of a swap are there for an AMM over the two mints of the example pool. -/
theorem exists_addressesForSnapshot {α : Type} [Amm referenceCrates α] (amm : α)
    (hpairs : getTokenMintsPermutations amm = .ok [(mintA, mintB), (mintB, mintA)])
    (hswap : ∀ swapParams, ∃ swap, Amm.getSwapAndAccountMetas amm swapParams = .ok swap) :
    ∃ addresses, addressesForSnapshot tokenTables amm = .ok addresses := by
  have hA := Option.isSome_of_eq_some tokenMintToInAmount_mintA
  have hB := Option.isSome_of_eq_some tokenMintToInAmount_mintB
  obtain ⟨addresses, haddresses⟩ : ∃ addresses, swapAddresses tokenTables amm
      referenceCrates.newUnique [(mintA, mintB), (mintB, mintA)] = .ok addresses := by
    apply exists_swapAddresses
    simp only [List.forall_mem_cons]
    exact ⟨⟨hA, hswap⟩, ⟨hB, hswap⟩, nofun⟩
  rw [addressesForSnapshot, hpairs, Outcome.ok_bind, haddresses, Outcome.ok_bind]
  exact ⟨_, rfl⟩

/-- With `force`, and a node that answers, a snapshot of the example pool replaces the old one. -/
theorem replacesOrKeeps_iff_pool :
    SplTokenSwapAmm.poolHarness.ReplacesOrKeeps tokenTables pool none true oldSnapshot ∧
    ∃ t', SplTokenSwapAmm.poolHarness.snapshotAmmAccounts tokenTables pool none true oldSnapshot =
        .ok () t' ∧
      t'.node (SplTokenSwapAmm.poolHarness.directoryPath ++ ["old.json"]) = none := by
  have hslash : SplTokenSwapAmm.poolHarness.NoSeparator := noSeparator_offlineHarness
  have hpath : SplTokenSwapAmm.poolHarness.snapshotPath = offlineHarness.directoryPath :=
    hslash.snapshotPath_eq printsKeys_referenceCrates
  have hcan : SplTokenSwapAmm.poolHarness.CanMake true oldSnapshot := by
    rw [canMake_true, hpath, node_oldSnapshot]
  have hreplaces :
      SplTokenSwapAmm.poolHarness.ReplacesOrKeeps tokenTables pool none true oldSnapshot := by
    apply (replacesOrKeeps_iff _ _ _ _ _ _ printsKeys_referenceCrates hslash).2
    rintro addresses haddresses ⟨-, habsent, -⟩
    rw [hpath, node_oldSnapshot] at habsent
    cases habsent
  obtain ⟨addresses, haddresses⟩ :
      ∃ addresses, addressesForSnapshot tokenTables pool = .ok addresses :=
    exists_addressesForSnapshot pool rfl fun _ => ⟨_, rfl⟩
  obtain ⟨⟨⟩, t', hsnapshot⟩ := (succeeds_iff SplTokenSwapAmm.poolHarness tokenTables pool none true
    oldSnapshot printsKeys_referenceCrates).2 ⟨hcan, addresses, _, haddresses, rfl⟩
  refine ⟨hreplaces, t', hsnapshot, ?_⟩
  obtain ⟨-, hsucceeds, -⟩ := hreplaces
  obtain ⟨addresses, accounts, -, -, hfiles⟩ := hsucceeds t' hsnapshot
  have hparams : @paramsFiles referenceCrates none = [] := rfl
  rw [hfiles.files, hparams, List.nil_append,
    ofList_accountFiles_of_length printsKeys_referenceCrates (by decide), Option.map_none]

/-- **A snapshot may lose the old one.** With `force`, where the node does not answer, the old
files are gone. -/
theorem not_replacesOrKeeps : offlineHarness.NoSeparator ∧
    ¬ offlineHarness.ReplacesOrKeeps tokenTables pool none true oldSnapshot := by
  refine ⟨noSeparator_offlineHarness, ?_⟩
  obtain ⟨addresses, haddresses⟩ :
      ∃ addresses, addressesForSnapshot tokenTables pool = .ok addresses :=
    exists_addressesForSnapshot pool rfl fun _ => ⟨_, rfl⟩
  have hdir : offlineHarness.CanMake true oldSnapshot := by
    rw [canMake_true, noSeparator_offlineHarness.snapshotPath_eq printsKeys_referenceCrates]
    exact node_oldSnapshot
  exact loses_file _ _ _ _ _ _ noSeparator_offlineHarness printsKeys_referenceCrates haddresses rfl
    hdir node_oldFile nofun

end

end AmmTestHarness

end JupiterAmm
