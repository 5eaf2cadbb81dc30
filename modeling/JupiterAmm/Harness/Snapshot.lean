import JupiterAmm.Harness.Update
import JupiterAmm.Glob

/-!
# Snapshots

A snapshot is a directory with one file for each account a swap needs, written by
`snapshot_amm_accounts` from what the AMM reports and what the RPC node answers, and read back by
`get_keyed_account_from_snapshot` and `load_accounts_snapshot`. The writer runs on the tree of files
and may stop anywhere; its addresses come out of a hash set, so in an order of the set's own. The
readers name their files by the text of a path, the loader by a glob pattern.
-/

namespace JupiterAmm

open Rust

/-- `sysvar::clock::ID`. -/
def clockId : Pubkey := pubkey "SysvarC1ock11111111111111111111111111111111"

/-! ## Assumptions about the crates -/

/-- Public keys are printed in Base58, and read back. -/
structure Crates.PrintsKeys (crates : Crates) : Prop where
  toString : ∀ k, crates.pubkeyToString k = Base58.encode 32 k.toNat
  fromStr : ∀ k, crates.pubkeyFromStr (crates.pubkeyToString k) = some k

/-- An encoded account is read back. -/
structure Crates.EncodesAccounts (crates : Crates) : Prop where
  fromStr : ∀ k account,
    crates.rpcKeyedAccountFromStr (crates.rpcKeyedAccountToString
      (crates.pubkeyToString k, crates.encodeUiAccount k account)) =
    some (crates.pubkeyToString k, crates.encodeUiAccount k account)
  decode : ∀ k account, crates.uiAccountDecode (crates.encodeUiAccount k account) = some account

/-- An encoded JSON value is read back. -/
def Crates.EncodesValues (crates : Crates) : Prop :=
  ∀ v, crates.valueFromStr (crates.valueToString v) = some v

/-- A hash set is iterated over its members, each once. -/
def Crates.OrdersHashSets (crates : Crates) : Prop :=
  ∀ keys, (crates.hashSetOrder keys).Nodup ∧ ∀ k, k ∈ crates.hashSetOrder keys ↔ k ∈ keys

section
open Reference

theorem printsKeys_referenceCrates : referenceCrates.PrintsKeys := by
  have hto : referenceCrates.pubkeyToString = pubkeyToString := rfl
  have hfrom : referenceCrates.pubkeyFromStr = pubkeyFromStr := by dsimp only [referenceCrates]
  constructor
  · intro k
    rw [hto, pubkeyToString]
  · intro k
    rw [hto, hfrom, pubkeyFromStr_toString]

/-- A printed key has no quote. -/
theorem quote_notMem_pubkeyToString (k : Pubkey) : '"' ∉ (pubkeyToString k).toList := fun h =>
  absurd (Base58.encode_alphabet 32 k.toNat _ h) (by decide)

theorem encodesAccounts_referenceCrates : referenceCrates.EncodesAccounts := by
  have hprint : referenceCrates.pubkeyToString = pubkeyToString := rfl
  have hto : referenceCrates.rpcKeyedAccountToString = rpcKeyedAccountToString := rfl
  have hfrom : referenceCrates.rpcKeyedAccountFromStr = rpcKeyedAccountFromStr := rfl
  have hencode : referenceCrates.encodeUiAccount = encodeUiAccount := rfl
  have hdecode : referenceCrates.uiAccountDecode = uiAccountDecode := rfl
  constructor
  · intro k account
    have howner := quote_notMem_pubkeyToString account.owner
    have hdata : '"' ∉ Base64.encode account.data := fun h =>
      absurd (Base64.encode_alphabet account.data _ h) (by decide)
    rw [hprint, hto, hfrom, hencode]
    exact rpcKeyedAccountFromStr_toString (quote_notMem_pubkeyToString k) howner hdata
  · intro k account
    rw [hencode, hdecode, uiAccountDecode_encode]

theorem encodesValues_referenceCrates : referenceCrates.EncodesValues := Value.fromStr_toString

theorem ordersHashSets_referenceCrates : referenceCrates.OrdersHashSets := fun keys =>
  ⟨List.nodup_dedup keys, fun _ => List.mem_dedup⟩

end

/-! ## Names -/

namespace AmmTestHarness

variable {crates : Crates} (self : AmmTestHarness crates)

/-- `AmmTestHarness::directory_name`. -/
def directoryName : String :=
  let option := match self.option with
    | some option => "-" ++ option
    | none => ""
  crates.pubkeyToString self.key ++ option

/-- `snapshot_path`. -/
def snapshotPath : FilePath := FilePath.ofString ("tests/fixtures/accounts/" ++ self.directoryName)

/-- The name of the file of an account. -/
def accountFile (crates : Crates) (address : Pubkey) : String :=
  crates.pubkeyToString address ++ ".json"

/-- The directory of a snapshot lies in the directory of fixtures. -/
theorem ofString_fixtures (s : String) : FilePath.ofString ("tests/fixtures/accounts/" ++ s) =
    ["tests", "fixtures", "accounts"] ++ FilePath.ofString s := by
  have hslash : "tests/fixtures/accounts/" = "tests/fixtures/accounts" ++ "/" := by decide
  have hfixtures :
      FilePath.ofString "tests/fixtures/accounts" = ["tests", "fixtures", "accounts"] := by
    decide
  rw [hslash, FilePath.ofString_append, hfixtures]

theorem snapshotPath_ne_nil : self.snapshotPath ≠ [] := by
  rw [snapshotPath, ofString_fixtures]
  exact nofun

/-- A printed key has only characters of the Base58 alphabet. -/
theorem alphabet_of_mem_pubkeyToString (hprint : crates.PrintsKeys) {k : Pubkey} {c : Char}
    (hc : c ∈ (crates.pubkeyToString k).toList) : c ∈ Base58.alphabet := by
  rw [hprint.toString] at hc
  exact Base58.encode_alphabet 32 k.toNat c hc

/-- A printed key has 32 characters at least. -/
theorem le_length_pubkeyToString (hprint : crates.PrintsKeys) (k : Pubkey) :
    32 ≤ (crates.pubkeyToString k).length := by
  rw [hprint.toString]
  exact Base58.le_length_encode 32 k.toNat

/-- Different keys are printed differently. -/
theorem pubkeyToString_injective (hprint : crates.PrintsKeys) :
    Function.Injective crates.pubkeyToString := by
  intro k k' h
  have hread := congrArg crates.pubkeyFromStr h
  rw [hprint.fromStr, hprint.fromStr] at hread
  exact Option.some.inj hread

/-- The name of an account's file is one component of a path. -/
theorem ofString_accountFile (hprint : crates.PrintsKeys) (k : Pubkey) :
    FilePath.ofString (accountFile crates k) = [accountFile crates k] := by
  have hlength := le_length_pubkeyToString hprint k
  have hshort : ∀ s : String, s.length ≤ 1 → accountFile crates k ≠ s := by
    rintro s hs rfl
    rw [accountFile, String.length_append] at hs
    omega
  apply FilePath.ofString_name _ (hshort "" (by decide)) (hshort "." (by decide))
  rw [accountFile, String.toList_append, List.mem_append, not_or]
  refine ⟨fun hslash => ?_, by decide⟩
  exact absurd (alphabet_of_mem_pubkeyToString hprint hslash) (by decide)

/-! ## Writing a snapshot -/

section
variable {α : Type} [Amm crates α]

/-- The swap a snapshot asks the accounts of. -/
def snapshotSwapParams (placeholder sourceMint destinationMint : Pubkey) (amount : UInt64) :
    SwapParams where
  swapMode := .exactIn
  inAmount := amount
  outAmount := amount
  sourceMint
  destinationMint
  sourceTokenAccount := placeholder
  destinationTokenAccount := placeholder
  tokenTransferAuthority := placeholder
  quoteMintToReferrer := none
  jupiterProgramId := placeholder
  missingDynamicAccountsAsDefault := false

/-- The amount of a mint, or a panic that names the mint. -/
def inAmount (crates : Crates) (tables : TokenTables) (mint : Pubkey) : crates.Result UInt64 :=
  match tables.tokenMintToInAmount mint with
  | some amount => .ok amount
  | none => .error (.panic ("No in amount for mint: " ++ crates.pubkeyToString mint))

/-- The loop over the pairs of mints: the accounts of a swap of each. The amount is the one of the
source mint, for the output as well. -/
def swapAddresses (tables : TokenTables) (amm : α) (placeholder : Pubkey) :
    List (Pubkey × Pubkey) → crates.Result (List Pubkey)
  | [] => .ok []
  | (sourceMint, destinationMint) :: pairs => do
    let amount ← inAmount crates tables sourceMint
    let swapLegAndAccountMetas ← Amm.getSwapAndAccountMetas amm
      (snapshotSwapParams placeholder sourceMint destinationMint amount)
    let addresses ← swapAddresses tables amm placeholder pairs
    pure (swapLegAndAccountMetas.accountMetas.map (·.pubkey) ++ addresses)

/-- `addresses_for_snapshot`: what the AMM reports without the placeholder, and the clock. -/
def addressesForSnapshot (tables : TokenTables) (amm : α) : crates.Result (List Pubkey) := do
  let placeholder := crates.newUnique
  let pairs ← getTokenMintsPermutations amm
  let addresses ← swapAddresses tables amm placeholder pairs
  let reported := addresses ++ Amm.getAccountsToUpdate amm ++ Amm.getReserveMints amm
  pure (clockId :: reported.filter (· ≠ placeholder))

theorem inAmount_eq_ok {tables : TokenTables} {mint : Pubkey} {amount : UInt64} :
    inAmount crates tables mint = .ok amount ↔ tables.tokenMintToInAmount mint = some amount := by
  unfold inAmount
  cases tables.tokenMintToInAmount mint <;> simp

/-- The accounts of a swap between two mints, as a snapshot asks for them. -/
def SwapNames (tables : TokenTables) (amm : α) (pair : Pubkey × Pubkey) (k : Pubkey) : Prop :=
  ∃ amount swap, tables.tokenMintToInAmount pair.1 = some amount ∧
    Amm.getSwapAndAccountMetas amm (snapshotSwapParams crates.newUnique pair.1 pair.2 amount) =
      .ok swap ∧ ∃ accountMeta ∈ swap.accountMetas, accountMeta.pubkey = k

theorem mem_swapAddresses {tables : TokenTables} {amm : α} {pairs : List (Pubkey × Pubkey)}
    {addresses : List Pubkey}
    (h : swapAddresses tables amm crates.newUnique pairs = .ok addresses) (k : Pubkey) :
    k ∈ addresses ↔ ∃ pair ∈ pairs, SwapNames tables amm pair k := by
  induction pairs generalizing addresses with
  | nil =>
    cases h
    simp
  | cons pair pairs ih =>
    rw [swapAddresses] at h
    simp only [Outcome.bind_ok, inAmount_eq_ok] at h
    obtain ⟨amount, hamount, swap, hswap, rest, hrest, hpure⟩ := h
    cases hpure
    have hpair : SwapNames tables amm pair k ↔
        ∃ accountMeta ∈ swap.accountMetas, accountMeta.pubkey = k := by
      constructor
      · rintro ⟨amount', swap', hamount', hswap', hk⟩
        rw [hamount] at hamount'
        cases hamount'
        rw [hswap] at hswap'
        cases hswap'
        exact hk
      · intro hk
        exact ⟨amount, swap, hamount, hswap, hk⟩
    rw [List.mem_append, List.mem_map, ih hrest, ← hpair, List.exists_mem_cons_iff]

/-- The loop goes through where each mint has an amount and each pair has a swap. -/
theorem exists_swapAddresses {tables : TokenTables} {amm : α} {placeholder : Pubkey}
    {pairs : List (Pubkey × Pubkey)}
    (h : ∀ pair ∈ pairs, (tables.tokenMintToInAmount pair.1).isSome ∧
      ∀ swapParams, ∃ swap, Amm.getSwapAndAccountMetas amm swapParams = .ok swap) :
    ∃ addresses, swapAddresses tables amm placeholder pairs = .ok addresses := by
  induction pairs with
  | nil => exact ⟨[], rfl⟩
  | cons pair pairs ih =>
    obtain ⟨hamount, hswap⟩ := h pair (List.mem_cons_self ..)
    obtain ⟨rest, hrest⟩ := ih fun pair' h' => h pair' (List.mem_cons_of_mem _ h')
    obtain ⟨amount, hamount⟩ := Option.isSome_iff_exists.1 hamount
    obtain ⟨swap, hswap⟩ := hswap (snapshotSwapParams placeholder pair.1 pair.2 amount)
    refine ⟨swap.accountMetas.map (·.pubkey) ++ rest, ?_⟩
    rw [swapAddresses]
    simp only [Outcome.bind_ok, inAmount_eq_ok]
    exact ⟨amount, hamount, swap, hswap, rest, hrest, rfl⟩

/-- What the AMM reports for a snapshot: the accounts of a swap between two of its mints, the
accounts it is updated from, and its mints. -/
def Reports (tables : TokenTables) (amm : α) (k : Pubkey) : Prop :=
  (∃ pairs, getTokenMintsPermutations amm = .ok pairs ∧
    ∃ pair ∈ pairs, SwapNames tables amm pair k) ∨
  k ∈ Amm.getAccountsToUpdate amm ∨ k ∈ Amm.getReserveMints amm

/-- **The addresses of a snapshot** are those the AMM reports, less the placeholder, and the
clock. -/
theorem mem_addressesForSnapshot {tables : TokenTables} {amm : α} {addresses : List Pubkey}
    (h : addressesForSnapshot tables amm = .ok addresses) (k : Pubkey) :
    k ∈ addresses ↔ k = clockId ∨ (Reports tables amm k ∧ k ≠ crates.newUnique) := by
  rw [addressesForSnapshot] at h
  simp only [Outcome.bind_ok] at h
  obtain ⟨pairs, hpairs, swapped, hswapped, hpure⟩ := h
  cases hpure
  have hswaps : k ∈ swapped ↔ ∃ pairs, getTokenMintsPermutations amm = .ok pairs ∧
      ∃ pair ∈ pairs, SwapNames tables amm pair k := by
    rw [mem_swapAddresses hswapped, hpairs]
    constructor
    · intro hk
      exact ⟨pairs, rfl, hk⟩
    · rintro ⟨pairs', hpairs', hk⟩
      cases hpairs'
      exact hk
  rw [List.mem_cons, List.mem_filter, List.mem_append, List.mem_append, hswaps, Reports, or_assoc,
    decide_eq_true_iff]

end

/-- A file operation with a `?`. -/
def tryFile (operation : FileTree String → Option (FileTree String)) :
    RustM crates.Error (FileTree String) Unit := fun t =>
  match operation t with
  | some t' => .ok () t'
  | none => .error (.err crates.ioError) t

theorem tryFile_of_some {operation : FileTree String → Option (FileTree String)}
    {t t' : FileTree String} (h : operation t = some t') :
    (tryFile operation : RustM crates.Error (FileTree String) Unit) t = .ok () t' := by
  rw [tryFile, h]

theorem tryFile_of_none {operation : FileTree String → Option (FileTree String)}
    {t : FileTree String} (h : operation t = none) :
    (tryFile operation : RustM crates.Error (FileTree String) Unit) t =
      .error (.err crates.ioError) t := by
  rw [tryFile, h]

/-- `File::create(snapshot_path.join(name)).unwrap()` and `write_all(…).unwrap()`. -/
def writeFile (name content : String) : RustM crates.Error (FileTree String) Unit :=
  RustM.unwrap (tryFile fun t =>
    t.writeFile (self.snapshotPath ++ FilePath.ofString name) content)

/-- The directory of the snapshot, made anew. -/
def makeDirectory (force : Bool) : RustM crates.Error (FileTree String) Unit := do
  if force then
    tryFile fun t => t.removeDirAll self.snapshotPath
  tryFile fun t => t.createDir self.snapshotPath

/-- The file of the parameters, if there are any. -/
def writeParams (params : Option crates.Value) : RustM crates.Error (FileTree String) Unit :=
  match params with
  | some params => self.writeFile "params.json" (crates.valueToString params)
  | none => pure ()

/-- The text of an account's file. -/
def accountText (crates : Crates) (address : Pubkey) (account : Account) : String :=
  crates.rpcKeyedAccountToString
    (crates.pubkeyToString address, crates.encodeUiAccount address account)

/-- The `for_each` of `snapshot_amm_accounts`: a file for each account that exists and is no
program. -/
def writeAccounts : List (Option Account × Pubkey) → RustM crates.Error (FileTree String) Unit
  | [] => pure ()
  | (some account, address) :: rest => do
    if account.executable then
      -- programs break the program test
      pure ()
    else
      self.writeFile (accountFile crates address) (accountText crates address account)
    writeAccounts rest
  | (none, _) :: rest => writeAccounts rest

/-- `AmmTestHarness::snapshot_amm_accounts`. -/
def snapshotAmmAccounts {α : Type} [Amm crates α] (tables : TokenTables) (amm : α)
    (params : Option crates.Value) (force : Bool) : RustM crates.Error (FileTree String) Unit := do
  let addressesForSnapshot ← addressesForSnapshot tables amm
  self.makeDirectory force
  self.writeParams params
  let addresses := crates.hashSetOrder addressesForSnapshot
  let accounts ← Outcome.unwrap (ofExcept (self.client.getMultipleAccounts addresses))
  self.writeAccounts (accounts.zip addresses)

/-! ## Reading a snapshot -/

/-- `serde_json::from_reader` at `Option<Value>`: `null` is `None`. -/
def optionValueFromStr (crates : Crates) (s : String) : Option (Option crates.Value) :=
  (crates.valueFromStr s).map fun v => if crates.valueIsNull v then none else some v

/-- `AmmTestHarness::get_keyed_account_from_snapshot`. -/
def getKeyedAccountFromSnapshot (t : FileTree String) :
    crates.Result (KeyedAccount crates.Value) := do
  let directoryName := self.directoryName
  let filePath := "tests/fixtures/accounts/" ++ directoryName ++ "/" ++
    accountFile crates self.key
  let file ← match t.readFile (FilePath.ofString filePath) with
    | some file => .ok file
    | none => .error (.panic ("Snapshot file " ++ filePath ++ " exists"))
  let keyedAccount ← unwrap (crates.rpcKeyedAccountFromStr file)
  let account ← unwrap (crates.uiAccountDecode keyedAccount.2)
  let paramsFilePath := "tests/fixtures/accounts/" ++ directoryName ++ "/" ++ "params.json"
  let params ←
    if t.exists? (FilePath.ofString paramsFilePath) then do
      let file ← unwrap (t.readFile (FilePath.ofString paramsFilePath))
      unwrap (optionValueFromStr crates file)
    else
      .ok none
  pure { key := self.key, account, params }

/-- The loop of `load_accounts_snapshot` over the entries of the pattern. -/
def loadEntries (crates : Crates) (t : FileTree String) :
    List FilePath → AccountMap → crates.Result AccountMap
  | [], accountMap => .ok accountMap
  | entry :: entries, accountMap =>
    if entry.getLast? = some "params.json" then
      loadEntries crates t entries accountMap
    else do
      let file ← unwrap (t.readFile entry)
      let keyedAccount ← unwrap (crates.rpcKeyedAccountFromStr file)
      let account ← unwrap (crates.uiAccountDecode keyedAccount.2)
      let address ← unwrap (crates.pubkeyFromStr keyedAccount.1)
      loadEntries crates t entries (accountMap.insert address account)

/-- `AmmTestHarness::load_accounts_snapshot`. -/
def loadAccountsSnapshot (t : FileTree String) : crates.Result AccountMap := do
  let entries ← unwrap
    (crates.glob t ("tests/fixtures/accounts/" ++ self.directoryName ++ "/" ++ "*.json"))
  loadEntries crates t entries HashMap.empty

/-- `AmmTestHarness::update_amm_from_snapshot`. -/
def updateAmmFromSnapshot {α : Type} [Amm crates α] (t : FileTree String) :
    RustM crates.Error α Unit := do
  let accountsSnapshot ← self.loadAccountsSnapshot t
  (updateAmmPrecise accountsSnapshot).unwrap

end AmmTestHarness

end JupiterAmm
