import JupiterAmm.Harness.Load
import JupiterAmm.Harness.Rebuild
import JupiterAmm.SplTokenSwap.Runs

/-!
# Replaying a pool from its snapshot

The loader lists the files of a snapshot with a glob pattern and reads the accounts back, so what it
returns is the part of the chain at the collected addresses, without the programs
(`PlainOption.loadAccountsSnapshot_eq`). For a pool these addresses are the accounts of its swaps,
whoever the user is, its token accounts, its mints and the clock, less the placeholder that stood
for the user (`mem_addressesForSnapshot_iff`). Where the placeholder is spared, the pool rebuilt
from the snapshot is updated from the same balances as the live one, so it is the live one; where it
is an account of the pool, that account is lost (`replays_iff`).
-/

namespace JupiterAmm

open Rust

variable {crates : Crates}

namespace AmmTestHarness

/-! ## Loading a plain snapshot -/

section
variable (self : AmmTestHarness crates)

/-- The option, if there is one, has no slash and no character with a meaning in patterns. -/
def PlainOption : Prop :=
  ∀ option, self.option = some option → '/' ∉ option.toList ∧ Glob.Literal option

variable {self}

theorem PlainOption.noSeparator (hplain : self.PlainOption) : self.NoSeparator :=
  fun option hoption => (hplain option hoption).1

/-- The name of a plain snapshot has no character with a meaning in patterns. -/
theorem PlainOption.literal (hplain : self.PlainOption) (hprint : crates.PrintsKeys) :
    Glob.Literal self.directoryName := by
  have hkey := literal_pubkeyToString hprint self.key
  cases hoption : self.option with
  | none => rwa [directoryName_of_none hoption]
  | some option =>
    rw [directoryName_of_some hoption]
    exact Glob.literal_append (Glob.literal_append hkey (by decide)) (hplain option hoption).2

/-- The pattern of the loader lists the entries of a plain snapshot that end as its files do. -/
theorem PlainOption.exists_glob (hplain : self.PlainOption) (hprint : crates.PrintsKeys)
    (hglob : crates.MatchesGlobs) (t : FileTree String) :
    ∃ entries, crates.glob t self.snapshotPattern = some entries ∧
      ∀ entry, entry ∈ entries ↔ ∃ name, entry = self.snapshotPath ++ [name] ∧
        ".json".toList <:+ name.toList ∧ (t.node (self.snapshotPath ++ [name])).isSome := by
  have hslash := hplain.noSeparator
  have hname := hplain.literal hprint
  obtain ⟨entries, hentries⟩ :=
    hslash.exists_entries hprint hglob ((Glob.matchesName_literal hname).2 rfl) t
  refine ⟨entries, hentries, fun entry => ?_⟩
  rw [hslash.mem_entries hprint hglob hentries, hslash.snapshotPath_eq hprint]
  simp only [Glob.matchesName_literal hname]
  constructor
  · rintro ⟨_, name, rfl, rfl, hjson, hsome⟩
    exact ⟨name, rfl, hjson, hsome⟩
  · rintro ⟨name, rfl, hjson, hsome⟩
    exact ⟨_, name, rfl, rfl, hjson, hsome⟩

/-- **Loading a snapshot** gives the part of the chain at its addresses, without the programs. -/
theorem PlainOption.loadAccountsSnapshot_eq (hplain : self.PlainOption) (hprint : crates.PrintsKeys)
    (hencode : crates.EncodesAccounts) (hglob : crates.MatchesGlobs) {chain : AccountMap}
    {params : Option crates.Value} {addresses : List Pubkey} {t t' : FileTree String}
    (h : t.ReplacesDir t' self.snapshotPath (.ofList (snapshotFiles chain params addresses))) :
    self.loadAccountsSnapshot t' = .ok ((livingAccounts chain).restrict addresses) := by
  obtain ⟨entries, hentries, hlisted⟩ := hplain.exists_glob hprint hglob t'
  have hlast : ∀ name, (self.snapshotPath ++ [name]).getLast? = some name := by simp
  -- a file that is not the parameters holds a collected account
  have hfile : ∀ name text, t'.readFile (self.snapshotPath ++ [name]) = some text →
      name ≠ "params.json" → ∃ k ∈ addresses, ∃ account, livingAccounts chain k = some account ∧
        text = accountText crates k account := by
    intro name text hread hname
    rw [h.readFile] at hread
    rcases List.mem_append.1 (HashMap.mem_of_ofList hread) with hparams | haccounts
    · obtain ⟨v, -, hfile⟩ := mem_paramsFiles.1 hparams
      exact absurd (Prod.mk.inj hfile).1 hname
    · obtain ⟨k, hk, account, haccount, hfile⟩ := mem_accountFiles.1 haccounts
      exact ⟨k, hk, account, haccount, (Prod.mk.inj hfile).2⟩
  have hreadable : ∀ entry ∈ entries, entry.getLast? = some "params.json" ∨
      ∃ k account, t'.readFile entry = some (accountText crates k account) := by
    intro entry hentry
    obtain ⟨name, rfl, -, hsome⟩ := (hlisted entry).1 hentry
    rw [hlast, Option.some.injEq]
    by_cases hname : name = "params.json"
    · exact .inl hname
    · rw [h.files, Option.isSome_map, ← h.readFile] at hsome
      obtain ⟨text, htext⟩ := Option.isSome_iff_exists.1 hsome
      obtain ⟨k, -, account, -, rfl⟩ := hfile name text htext hname
      exact .inr ⟨k, account, htext⟩
  obtain ⟨l, hload, hmem⟩ := loadEntries_eq hprint hencode hreadable HashMap.empty
  have hcollected : ∀ k account, (k, account) ∈ l ↔
      k ∈ addresses ∧ livingAccounts chain k = some account := by
    intro k account
    rw [hmem]
    constructor
    · rintro ⟨entry, hentry, hname, hread⟩
      obtain ⟨name, rfl, -, -⟩ := (hlisted entry).1 hentry
      rw [hlast, Ne, Option.some.injEq] at hname
      obtain ⟨k', hk', account', haccount', htext⟩ := hfile name _ hread hname
      obtain ⟨rfl, rfl⟩ := accountText_inj hprint hencode htext
      exact ⟨hk', haccount'⟩
    · rintro ⟨hk, haccount⟩
      have hread : t'.readFile (self.snapshotPath ++ [accountFile crates k]) =
          some (accountText crates k account) := by
        rw [h.readFile, snapshotFiles_accountFile hprint, HashMap.restrict, if_pos hk, haccount]
        rfl
      refine ⟨_, (hlisted _).2 ⟨accountFile crates k, rfl, ?_, ?_⟩, ?_, hread⟩
      · rw [accountFile, String.toList_append]
        exact List.suffix_append _ _
      · rw [h.files, Option.isSome_map, ← h.readFile, hread]
        rfl
      · rw [hlast, Ne, Option.some.injEq]
        exact accountFile_ne_params hprint k
  rw [loadAccountsSnapshot_of_glob hentries, hload, Except.ok.injEq]
  apply HashMap.ofList_eq_restrict
  · intro p hp
    exact ((hcollected p.1 p.2).1 hp).2
  · intro p hp
    exact ((hcollected p.1 p.2).1 hp).1
  · intro k hk hsome
    obtain ⟨account, haccount⟩ := Option.isSome_iff_exists.1 hsome
    exact List.mem_map_of_mem (f := Prod.fst) ((hcollected k account).2 ⟨hk, haccount⟩)

end

end AmmTestHarness

/-! ## The accounts of a pool -/

namespace SplTokenSwapAmm

open AmmTestHarness

/-- The slots of the user among the accounts of a swap: the transfer authority, the source and the
destination. -/
def userSlots : List Nat := [4, 5, 8]

/-- The swap of the given parameters names the account, in a slot that is not the user's. -/
def SwapNamesOwn (self : SplTokenSwapAmm crates) (swapParams : SwapParams) (k : Pubkey) : Prop :=
  ∃ swap, self.getSwapAndAccountMetas swapParams = .ok swap ∧
    ∃ i, i ∉ userSlots ∧ (swap.accountMetas.map (·.pubkey))[i]? = some k

/-- A swap between the two mints of the pool, in either order, names the account in a slot that is
not the user's. -/
def NamesOwn (self : SplTokenSwapAmm crates) (swapParams : SwapParams) (k : Pubkey) : Prop :=
  self.SwapNamesOwn { swapParams with
    sourceMint := self.reserveMints.1, destinationMint := self.reserveMints.2 } k ∨
  self.SwapNamesOwn { swapParams with
    sourceMint := self.reserveMints.2, destinationMint := self.reserveMints.1 } k

/-- The accounts of a swap that are not the user's. -/
def ownAccounts (self : SplTokenSwapAmm crates) : List Pubkey :=
  [self.programId, splTokenId, self.key, self.getAuthority, self.state.tokenA, self.state.tokenB,
    self.state.poolMint, self.state.poolFeeAccount]

section
variable {self : SplTokenSwapAmm crates} {k : Pubkey}

/-- The keys a swap names: the pool's two token accounts in one order or the other, and the user's
accounts in their slots. -/
theorem getSwapAndAccountMetas_keys (self : SplTokenSwapAmm crates) (swapParams : SwapParams) :
    ∃ swap swapSource swapDestination, self.getSwapAndAccountMetas swapParams = .ok swap ∧
      (∀ k, k = swapSource ∨ k = swapDestination ↔ k = self.state.tokenA ∨ k = self.state.tokenB) ∧
      swap.accountMetas.map (·.pubkey) = [self.programId, splTokenId, self.key, self.getAuthority,
        swapParams.tokenTransferAuthority, swapParams.sourceTokenAccount, swapSource,
        swapDestination, swapParams.destinationTokenAccount, self.state.poolMint,
        self.state.poolFeeAccount] := by
  rw [getSwapAndAccountMetas]
  by_cases hsource : swapParams.sourceMint = self.state.tokenAMint
  · rw [if_pos hsource]
    exact ⟨_, self.state.tokenA, self.state.tokenB, rfl, fun k => Iff.rfl, rfl⟩
  · rw [if_neg hsource]
    exact ⟨_, self.state.tokenB, self.state.tokenA, rfl, fun k => or_comm, rfl⟩

/-- Whoever the user is, the accounts of a swap that are not the user's are the same. -/
theorem swapNamesOwn_iff (swapParams : SwapParams) :
    self.SwapNamesOwn swapParams k ↔ k ∈ self.ownAccounts := by
  obtain ⟨swap, swapSource, swapDestination, hswap, htokens, hkeys⟩ :=
    self.getSwapAndAccountMetas_keys swapParams
  have hown : k ∈ self.ownAccounts ↔ k ∈ [self.programId, splTokenId, self.key, self.getAuthority,
      swapSource, swapDestination, self.state.poolMint, self.state.poolFeeAccount] := by
    simp only [ownAccounts, List.mem_cons]
    rw [← or_assoc (a := k = self.state.tokenA), ← htokens, or_assoc]
  rw [hown]
  constructor
  · rintro ⟨swap', hswap', i, hi, hslot⟩
    rw [hswap] at hswap'
    cases hswap'
    rw [hkeys] at hslot
    have hlength : i < 11 := (List.getElem?_eq_some_iff.1 hslot).1
    interval_cases i
    all_goals simp_all [userSlots]
  · intro hmem
    refine ⟨swap, hswap, ?_⟩
    rw [hkeys]
    simp only [List.mem_cons, List.not_mem_nil, or_false] at hmem
    rcases hmem with rfl | rfl | rfl | rfl | rfl | rfl | rfl | rfl
    · exact ⟨0, by decide, rfl⟩
    · exact ⟨1, by decide, rfl⟩
    · exact ⟨2, by decide, rfl⟩
    · exact ⟨3, by decide, rfl⟩
    · exact ⟨6, by decide, rfl⟩
    · exact ⟨7, by decide, rfl⟩
    · exact ⟨9, by decide, rfl⟩
    · exact ⟨10, by decide, rfl⟩

theorem namesOwn_iff (swapParams : SwapParams) :
    self.NamesOwn swapParams k ↔ k ∈ self.ownAccounts := by
  rw [NamesOwn, swapNamesOwn_iff, swapNamesOwn_iff, or_self]

/-- A snapshot asks for the accounts of a swap that are not the user's, and the placeholder. -/
theorem swapNames_iff {tables : TokenTables} {pair : Pubkey × Pubkey}
    (hamount : (tables.tokenMintToInAmount pair.1).isSome) (hk : k ≠ crates.newUnique) :
    SwapNames tables self pair k ↔ k ∈ self.ownAccounts := by
  obtain ⟨amount, hamount⟩ := Option.isSome_iff_exists.1 hamount
  obtain ⟨swap, swapSource, swapDestination, hswap, htokens, hkeys⟩ :=
    self.getSwapAndAccountMetas_keys (snapshotSwapParams crates.newUnique pair.1 pair.2 amount)
  have hnames : SwapNames tables self pair k ↔ k ∈ swap.accountMetas.map (·.pubkey) := by
    rw [List.mem_map]
    constructor
    · rintro ⟨amount', swap', hamount', hswap', hmeta⟩
      rw [hamount] at hamount'
      cases hamount'
      obtain rfl : swap = swap' := Except.ok.inj (hswap.symm.trans hswap')
      exact hmeta
    · intro hmeta
      exact ⟨amount, swap, hamount, hswap, hmeta⟩
  rw [hnames, hkeys]
  simp only [snapshotSwapParams, ownAccounts, List.mem_cons, List.not_mem_nil, hk, false_or,
    or_false]
  rw [← or_assoc (a := k = self.state.tokenA), ← htokens, or_assoc]

/-- What a pool reports for a snapshot. -/
theorem reports_iff {tables : TokenTables} {addresses : List Pubkey}
    (h : addressesForSnapshot tables self = .ok addresses) (hk : k ≠ crates.newUnique) :
    Reports tables self k ↔
      k ∈ self.ownAccounts ∨ k ∈ self.getAccountsToUpdate ∨ k ∈ self.getReserveMints := by
  have hpairs : getTokenMintsPermutations self = .ok [(self.reserveMints.1, self.reserveMints.2),
      (self.reserveMints.2, self.reserveMints.1)] := rfl
  rw [addressesForSnapshot, hpairs, Outcome.ok_bind] at h
  simp only [Outcome.bind_ok, swapAddresses, inAmount_eq_ok] at h
  obtain ⟨-, ⟨first, hfirst, -, -, -, ⟨second, hsecond, -⟩, -⟩, -⟩ := h
  have hswaps : (∃ pairs, getTokenMintsPermutations self = .ok pairs ∧
      ∃ pair ∈ pairs, SwapNames tables self pair k) ↔ k ∈ self.ownAccounts := by
    constructor
    · rintro ⟨pairs, hpairs', pair, hpair, hnames⟩
      rw [hpairs] at hpairs'
      cases hpairs'
      refine (swapNames_iff ?_ hk).1 hnames
      rcases List.mem_pair.1 hpair with rfl | rfl
      · exact Option.isSome_iff_exists.2 ⟨first, hfirst⟩
      · exact Option.isSome_iff_exists.2 ⟨second, hsecond⟩
    · intro hown
      exact ⟨_, hpairs, _, List.mem_cons_self .., (swapNames_iff
        (Option.isSome_iff_exists.2 ⟨first, hfirst⟩) hk).2 hown⟩
  rw [Reports, hswaps]
  rfl

/-- The accounts of a pool: those of its swaps, those it is updated from, its mints, and the
clock. -/
def snapshotAccounts (self : SplTokenSwapAmm crates) : List Pubkey :=
  clockId :: (self.ownAccounts ++ self.getAccountsToUpdate ++ self.getReserveMints)

/-- The accounts a snapshot of a pool asks for: the placeholder is removed from what the pool
reports. -/
def collectedAccounts (self : SplTokenSwapAmm crates) : List Pubkey :=
  clockId :: (self.ownAccounts ++ self.getAccountsToUpdate ++ self.getReserveMints).filter
    (· ≠ crates.newUnique)

/-- The placeholder hides no account of the pool: what a chain has at its address is a program, or
no account of the pool, or the clock. -/
def SparesPlaceholder (self : SplTokenSwapAmm crates) (chain : AccountMap) : Prop :=
  (livingAccounts chain crates.newUnique).isSome → crates.newUnique ∈ self.snapshotAccounts →
    crates.newUnique = clockId

theorem mem_snapshotAccounts : k ∈ self.snapshotAccounts ↔ k = clockId ∨
    k ∈ self.ownAccounts ∨ k ∈ self.getAccountsToUpdate ∨ k ∈ self.getReserveMints := by
  rw [snapshotAccounts, List.mem_cons, List.mem_append, List.mem_append, or_assoc]

theorem mem_collectedAccounts : k ∈ self.collectedAccounts ↔
    k ∈ self.snapshotAccounts ∧ (k = crates.newUnique → crates.newUnique = clockId) := by
  rw [collectedAccounts, snapshotAccounts, List.mem_cons, List.mem_cons, List.mem_filter,
    decide_eq_true_iff]
  by_cases hk : k = crates.newUnique
  · subst hk
    simp
    tauto
  · simp [hk]

/-- **The addresses of a snapshot of a pool.** -/
theorem mem_addressesForSnapshot_iff {tables : TokenTables} {addresses : List Pubkey}
    (h : addressesForSnapshot tables self = .ok addresses) :
    k ∈ addresses ↔ k ∈ self.collectedAccounts := by
  rw [mem_addressesForSnapshot h, collectedAccounts, List.mem_cons, List.mem_filter,
    decide_eq_true_iff]
  refine or_congr_right (and_congr_left fun hk => ?_)
  rw [reports_iff h hk, List.mem_append, List.mem_append, or_assoc]

/-- A placeholder where the chain has nothing is spared. -/
theorem sparesPlaceholder_of_none {chain : AccountMap} (h : chain crates.newUnique = none) :
    self.SparesPlaceholder chain := by
  intro hliving
  rw [livingAccounts, h] at hliving
  cases hliving

/-- **A spared placeholder costs no account**, and one that is not spared does. -/
theorem restrict_collectedAccounts_iff {chain : AccountMap} :
    (livingAccounts chain).restrict self.collectedAccounts =
        (livingAccounts chain).restrict self.snapshotAccounts ↔
      self.SparesPlaceholder chain := by
  constructor
  · intro h hliving hmem
    have hplaceholder := congrFun h crates.newUnique
    rw [HashMap.restrict, HashMap.restrict, if_pos hmem] at hplaceholder
    by_contra hclock
    have hlost : crates.newUnique ∉ self.collectedAccounts := by
      rw [mem_collectedAccounts]
      rintro ⟨-, hspared⟩
      exact hclock (hspared rfl)
    rw [if_neg hlost] at hplaceholder
    rw [← hplaceholder] at hliving
    cases hliving
  · intro hspares
    funext k
    rw [HashMap.restrict, HashMap.restrict]
    cases haccount : livingAccounts chain k with
    | none => rw [ite_self, ite_self]
    | some account =>
      have hmem : k ∈ self.collectedAccounts ↔ k ∈ self.snapshotAccounts := by
        rw [mem_collectedAccounts, and_iff_left_iff_imp]
        rintro hk rfl
        exact hspares (Option.isSome_of_eq_some haccount) hk
      simp only [hmem]

end

/-! ## The replay -/

section
variable {harness : AmmTestHarness crates} {chain : AccountMap}

/-- On a chain, the harness updates a pool from the chain. -/
theorem updateAmm_eq_ok (hread : crates.ReadsAccountMap) (hserves : harness.client.Serves chain)
    {self self' : SplTokenSwapAmm crates} :
    harness.updateAmm self = .ok () self' ↔ update chain self = .ok () self' := by
  rw [updateAmm_eq hserves, RustM.unwrap_eq_ok, ← update_restrict hread]
  rfl

/-- On a chain, updates behind the first change nothing. -/
theorem update_of_times (hread : crates.ReadsAccountMap) (hserves : harness.client.Serves chain)
    {n : Nat} {self self' : SplTokenSwapAmm crates}
    (h : harness.updateAmm.times (n + 1) self = .ok () self') :
    update chain self = .ok () self' := by
  rw [RustM.times, RustM.bind_ok] at h
  obtain ⟨⟨⟩, self₁, hfirst, hrest⟩ := h
  have hupdate := (updateAmm_eq_ok hread hserves).1 hfirst
  have hfixed := (updateAmm_eq_ok hread hserves).2 (update_idem hread hupdate)
  rw [RustM.times_of_fixed hfixed] at hrest
  cases hrest
  exact hupdate

/-- Updating from a snapshot that has the accounts asked for as the chain does. -/
theorem updateAmmFromSnapshot_eq (hread : crates.ReadsAccountMap) {self : SplTokenSwapAmm crates}
    {t : FileTree String} {m : AccountMap} (hload : harness.loadAccountsSnapshot t = .ok m)
    (hm : ∀ k ∈ self.getAccountsToUpdate, m k = chain k) :
    harness.updateAmmFromSnapshot t self = (update chain).unwrap self := by
  have hrun : harness.updateAmmFromSnapshot t self =
      (RustM.lift (harness.loadAccountsSnapshot t) >>= fun m => (updateAmmPrecise m).unwrap) self :=
    rfl
  rw [hrun, hload, RustM.bind_of_ok RustM.lift_ok]
  apply RustM.unwrap_congr
  rw [updateAmmPrecise_eq, ← update_congr hread hm]
  exact update_restrict hread m self

/-- A snapshot replays a pool: loading it gives exactly those accounts of the chain that are no
programs and that a swap between the pool's mints names, whoever the user is, or the pool is updated
from, or are its mints, or the clock; and the pool rebuilt from the snapshot and updated from it is
the live one, so it gives the same quotes and the same accounts of a swap. -/
structure Replays (live : SplTokenSwapAmm crates) (harness : AmmTestHarness crates)
    (chain : AccountMap) (t : FileTree String) : Prop where
  accounts : ∃ m, harness.loadAccountsSnapshot t = .ok m ∧ ∀ swapParams k account,
    m k = some account ↔ chain k = some account ∧ account.executable = false ∧
      (live.NamesOwn swapParams k ∨ k ∈ live.getAccountsToUpdate ∨ k ∈ live.getReserveMints ∨
        k = clockId)
  rebuilt : ∃ keyedAccount rebuilt, harness.getKeyedAccountFromSnapshot t = .ok keyedAccount ∧
    fromKeyedAccount keyedAccount = .ok rebuilt ∧
    harness.updateAmmFromSnapshot t rebuilt = .ok () live

/-- The accounts that a replay asks for are the living accounts of the pool. -/
theorem eq_restrict_snapshotAccounts_iff {live : SplTokenSwapAmm crates} {m : AccountMap} :
    m = (livingAccounts chain).restrict live.snapshotAccounts ↔ ∀ swapParams k account,
      m k = some account ↔ chain k = some account ∧ account.executable = false ∧
        (live.NamesOwn swapParams k ∨ k ∈ live.getAccountsToUpdate ∨ k ∈ live.getReserveMints ∨
          k = clockId) := by
  have hrestrict : ∀ swapParams k account,
      (livingAccounts chain).restrict live.snapshotAccounts k = some account ↔
        chain k = some account ∧ account.executable = false ∧
          (live.NamesOwn swapParams k ∨ k ∈ live.getAccountsToUpdate ∨ k ∈ live.getReserveMints ∨
            k = clockId) := by
    intro swapParams k account
    rw [HashMap.restrict, Option.ite_none_right_eq_some, livingAccounts_eq_some,
      mem_snapshotAccounts, namesOwn_iff, and_comm, and_assoc, or_comm (a := k = clockId), or_assoc,
      or_assoc]
  constructor
  · rintro rfl
    exact hrestrict
  · intro h
    funext k
    apply Option.ext
    intro account
    -- any swap will do: the accounts are the same for all
    let swapParams := snapshotSwapParams k k k 0
    exact (h swapParams k account).trans (hrestrict swapParams k account).symm

/-- What a snapshot of a pool on a chain holds, and what the loader makes of it. -/
theorem loadAccountsSnapshot_pool (hprint : crates.PrintsKeys) (hencode : crates.EncodesAccounts)
    (horder : crates.OrdersHashSets) (hglob : crates.MatchesGlobs)
    (hserves : harness.client.Serves chain) (hplain : harness.PlainOption)
    {live : SplTokenSwapAmm crates} {tables : TokenTables} {params : Option crates.Value}
    {force : Bool} {t t' : FileTree String}
    (hsnapshot : harness.snapshotAmmAccounts tables live params force t = .ok () t') :
    ∃ addresses, t.ReplacesDir t' harness.snapshotPath
        (.ofList (snapshotFiles chain params addresses)) ∧
      (livingAccounts chain).restrict addresses =
        (livingAccounts chain).restrict live.collectedAccounts ∧
      harness.loadAccountsSnapshot t' =
        .ok ((livingAccounts chain).restrict live.collectedAccounts) := by
  obtain ⟨addresses, haddresses, hreplaces⟩ :=
    harness.replacesDir_of_snapshot hprint hserves hsnapshot
  have hcollected : (livingAccounts chain).restrict (crates.hashSetOrder addresses) =
      (livingAccounts chain).restrict live.collectedAccounts := by
    funext k
    simp only [HashMap.restrict, (horder addresses).2, mem_addressesForSnapshot_iff haddresses]
  refine ⟨_, hreplaces, hcollected, ?_⟩
  rw [← hcollected]
  exact hplain.loadAccountsSnapshot_eq hprint hencode hglob hreplaces

/-- A snapshot that replays a pool has lost none of its accounts. -/
theorem Replays.sparesPlaceholder (hprint : crates.PrintsKeys) (hencode : crates.EncodesAccounts)
    (horder : crates.OrdersHashSets) (hglob : crates.MatchesGlobs)
    (hserves : harness.client.Serves chain) (hplain : harness.PlainOption)
    {live : SplTokenSwapAmm crates} {tables : TokenTables} {params : Option crates.Value}
    {force : Bool} {t t' : FileTree String}
    (hsnapshot : harness.snapshotAmmAccounts tables live params force t = .ok () t')
    (h : live.Replays harness chain t') : live.SparesPlaceholder chain := by
  obtain ⟨-, -, -, hload⟩ :=
    loadAccountsSnapshot_pool hprint hencode horder hglob hserves hplain hsnapshot
  obtain ⟨m, hloaded, haccounts⟩ := h.accounts
  rw [hload] at hloaded
  cases hloaded
  exact restrict_collectedAccounts_iff.1 (eq_restrict_snapshotAccounts_iff.2 haccounts)

/-- **A snapshot replays the live pool exactly where the placeholder is spared.** The live pool is
made from its account and updated from a chain any number of times, and a snapshot of it is
taken. -/
theorem replays_iff (hread : crates.ReadsAccountMap) (hprint : crates.PrintsKeys)
    (hencode : crates.EncodesAccounts) (hvalues : crates.EncodesValues)
    (horder : crates.OrdersHashSets) (hglob : crates.MatchesGlobs)
    (hserves : harness.client.Serves chain) (hplain : harness.PlainOption) {account : Account}
    (hkey : chain harness.key = some account) (hexecutable : account.executable = false)
    {liveParams : Option crates.Value} {made live : SplTokenSwapAmm crates}
    (hmade : fromKeyedAccount { key := harness.key, account, params := liveParams } = .ok made)
    {n : Nat} (hlive : harness.updateAmm.times (n + 1) made = .ok () live)
    (hvaults : ∀ k ∈ live.getAccountsToUpdate,
      ∃ account, chain k = some account ∧ account.executable = false)
    {tables : TokenTables} {params : Option crates.Value} {force : Bool} {t t' : FileTree String}
    (hsnapshot : harness.snapshotAmmAccounts tables live params force t = .ok () t') :
    live.Replays harness chain t' ↔ live.SparesPlaceholder chain := by
  refine ⟨fun h => h.sparesPlaceholder hprint hencode horder hglob hserves hplain hsnapshot, ?_⟩
  intro hspares
  obtain ⟨addresses, hreplaces, hcollected, hload⟩ :=
    loadAccountsSnapshot_pool hprint hencode horder hglob hserves hplain hsnapshot
  rw [restrict_collectedAccounts_iff.2 hspares] at hcollected hload
  have hloaded : ∀ k account, livingAccounts chain k = some account →
      k ∈ live.snapshotAccounts →
      (livingAccounts chain).restrict live.snapshotAccounts k = some account := by
    intro k account haccount hk
    rw [HashMap.restrict, if_pos hk, haccount]
  refine ⟨⟨_, hload, eq_restrict_snapshotAccounts_iff.1 rfl⟩, ?_⟩
  have hupdate := update_of_times hread hserves hlive
  obtain ⟨r, -, rfl⟩ := (update_eq_ok hread).1 hupdate
  have hown : harness.key ∈ (made.withReserves r).snapshotAccounts := by
    have hmadeKey : made.key = harness.key := (fromKeyedAccount_eq_ok hmade).1
    simp [snapshotAccounts, ownAccounts, hmadeKey]
  have hread' := harness.getKeyedAccountFromSnapshot_eq hprint hencode hvalues hreplaces
  rw [hcollected,
    hloaded _ account (livingAccounts_eq_some.2 ⟨hkey, hexecutable⟩) hown] at hread'
  refine ⟨_, made, hread', hmade, ?_⟩
  rw [updateAmmFromSnapshot_eq hread hload, RustM.unwrap_eq_ok]
  · exact hupdate
  · intro k hk
    obtain ⟨vault, hvault, hexecutable⟩ := hvaults k hk
    rw [hvault]
    exact hloaded k vault (livingAccounts_eq_some.2 ⟨hvault, hexecutable⟩)
      (mem_snapshotAccounts.2 (.inr (.inr (.inl hk))))

end

section
open Reference

/-- The vaults of the example pool are on the example chain. -/
theorem vaults_chain : ∀ k ∈ [vaultA, vaultB],
    ∃ account, chain k = some account ∧ account.executable = false := by
  intro k hk
  rcases List.mem_pair.1 hk with rfl | rfl
  · exact ⟨tokenAccount mintA (pubkey "JU8kmKzDHF9sXWsnoznaFDFezLsE5uomX2JkRMbmsQP") balanceA,
      by decide +kernel, rfl⟩
  · exact ⟨tokenAccount mintB (pubkey "JU8kmKzDHF9sXWsnoznaFDFezLsE5uomX2JkRMbmsQP") balanceB,
      by decide +kernel, rfl⟩

/-- Three updates of a pool are one. -/
theorem times_updateAmm_of_update {harness : AmmTestHarness referenceCrates} {chain : AccountMap}
    (hserves : harness.client.Serves chain) {self self' : SplTokenSwapAmm referenceCrates}
    (h : update chain self = .ok () self') : harness.updateAmm.times 3 self = .ok () self' := by
  have hfirst := (updateAmm_eq_ok readsAccountMap hserves).2 h
  have hfixed := (updateAmm_eq_ok readsAccountMap hserves).2 (update_idem readsAccountMap h)
  rw [RustM.times, RustM.bind_of_ok hfirst, RustM.times_of_fixed hfixed]

/-- The example pool is replayed from a snapshot taken after three updates. -/
theorem replays_iff_pool : ∃ live t', poolHarness.updateAmm.times 3 pool = .ok () live ∧
    poolHarness.snapshotAmmAccounts tokenTables live none false fixtures = .ok () t' ∧
    live.Replays poolHarness chain t' := by
  have hlive := times_updateAmm_of_update serves_poolHarness update_pool
  obtain ⟨⟨⟩, t', hsnapshot⟩ := succeeds_fixtures serves_poolHarness noSeparator_poolHarness
    (pool.withReserves (balanceA, balanceB)) rfl (fun _ => ⟨_, rfl⟩) none
  have hplain : poolHarness.PlainOption := by
    intro option hoption
    cases hoption
  have hunique : chain referenceCrates.newUnique = none := by decide +kernel
  refine ⟨_, t', hlive, hsnapshot, ?_⟩
  exact (replays_iff readsAccountMap printsKeys_referenceCrates encodesAccounts_referenceCrates
    encodesValues_referenceCrates ordersHashSets_referenceCrates matchesGlobs_referenceCrates
    serves_poolHarness hplain chain_pool rfl fromKeyedAccount_pool hlive vaults_chain hsnapshot).2
    (sparesPlaceholder_of_none hunique)

/-- The example chain with a second pool, whose account lies at the placeholder. -/
def placeholderChain : AccountMap := chain.insert referenceCrates.newUnique poolAccount

/-- That pool. -/
def placeholderPool : SplTokenSwapAmm referenceCrates :=
  { pool with key := referenceCrates.newUnique }

/-- A harness for it. -/
def placeholderHarness : AmmTestHarness referenceCrates where
  client := ⟨fun addresses => .ok (addresses.map placeholderChain)⟩
  key := referenceCrates.newUnique
  option := none

/-- **A pool at the placeholder is lost with its snapshot.** -/
theorem not_replays : ∃ made live t',
    placeholderHarness.client.Serves placeholderChain ∧ placeholderHarness.PlainOption ∧
    placeholderChain placeholderHarness.key = some poolAccount ∧ poolAccount.executable = false ∧
    fromKeyedAccount { poolKeyedAccount with key := placeholderHarness.key } = .ok made ∧
    placeholderHarness.updateAmm.times 3 made = .ok () live ∧
    (∀ k ∈ live.getAccountsToUpdate,
      ∃ account, placeholderChain k = some account ∧ account.executable = false) ∧
    placeholderHarness.snapshotAmmAccounts tokenTables live none false fixtures = .ok () t' ∧
    ¬ live.Replays placeholderHarness placeholderChain t' := by
  have hserves : placeholderHarness.client.Serves placeholderChain := fun _ => rfl
  have hplain : placeholderHarness.PlainOption := by
    intro option hoption
    cases hoption
  have hkey : placeholderChain placeholderHarness.key = some poolAccount :=
    HashMap.insert_self _ _ _
  -- the vaults of the pool are those of the first one
  have hvaults : ∀ k ∈ placeholderPool.getAccountsToUpdate, placeholderChain k = chain k := by
    have hneA : vaultA ≠ referenceCrates.newUnique := by decide +kernel
    have hneB : vaultB ≠ referenceCrates.newUnique := by decide +kernel
    intro k hk
    rcases List.mem_pair.1 hk with rfl | rfl
    · exact HashMap.insert_of_ne _ _ hneA
    · exact HashMap.insert_of_ne _ _ hneB
  have hreserves : placeholderPool.reservesIn chain = some (balanceA, balanceB) := by
    rw [placeholderPool, reservesIn_withKey, reservesIn_pool]
  have hupdate : update placeholderChain placeholderPool =
      .ok () (placeholderPool.withReserves (balanceA, balanceB)) :=
    (update_congr readsAccountMap hvaults).trans
      ((update_eq_ok readsAccountMap).2 ⟨_, hreserves, rfl⟩)
  obtain ⟨⟨⟩, t', hsnapshot⟩ := succeeds_fixtures hserves hplain.noSeparator
    (placeholderPool.withReserves (balanceA, balanceB)) rfl (fun _ => ⟨_, rfl⟩) none
  refine ⟨placeholderPool, _, t', hserves, hplain, hkey, rfl, fromKeyedAccount_poolAccount _,
    times_updateAmm_of_update hserves hupdate, ?_, hsnapshot, fun hreplays => ?_⟩
  · intro k hk
    have hchain := hvaults k hk
    rw [hchain]
    exact vaults_chain k hk
  · have hspares := hreplays.sparesPlaceholder printsKeys_referenceCrates
      encodesAccounts_referenceCrates ordersHashSets_referenceCrates matchesGlobs_referenceCrates
      hserves hplain hsnapshot
    have hclock : referenceCrates.newUnique ≠ clockId := by decide +kernel
    refine hclock (hspares ?_ ?_)
    · exact Option.isSome_of_eq_some (livingAccounts_eq_some.2 ⟨hkey, rfl⟩)
    · simp [snapshotAccounts, ownAccounts, placeholderPool]

end

end SplTokenSwapAmm

end JupiterAmm
