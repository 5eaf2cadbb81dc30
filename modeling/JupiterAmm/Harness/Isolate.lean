import JupiterAmm.Harness.Load
import JupiterAmm.Harness.Rebuild

/-!
# Whether snapshots are isolated

A snapshot is written to one directory, whatever its option is, but loaded from every directory
that the option, as a pattern, matches. So a harness sees the snapshots of another one exactly when
both have the same key and the option of the first matches the option of the second (`sees_iff`),
and it loads only its own files exactly when its option matches nothing but itself: when it has no
pattern characters, or is a pattern that matches nothing (`exactOption_iff`).
-/

namespace JupiterAmm

open Rust

namespace AmmTestHarness

variable {crates : Crates}

/-! ## What isolation means -/

section
variable (self other : AmmTestHarness crates)

/-- The option, if there is one, has no character with a meaning in patterns, or is a pattern that
matches nothing. -/
def ExactOption : Prop :=
  ∀ pattern, self.option = some pattern →
    Glob.Literal pattern ∨ ∀ name, ¬ Glob.matchesName pattern name

/-- The other harness has the same key and an option that the option of this one matches. -/
def Sees : Prop := self.key = other.key ∧ optionMatches self.option other.option

/-- No snapshot the other harness takes, of whatever AMM and however it ends, changes what this one
loads. -/
def Undisturbed : Prop :=
  ∀ (α : Type) [Amm crates α] (tables : TokenTables) (amm : α) (params : Option crates.Value)
    (force : Bool) (t : FileTree String),
    self.loadAccountsSnapshot ((other.snapshotAmmAccounts tables amm params force).after t) =
      self.loadAccountsSnapshot t

/-- The account files the loader opens lie in the directory of the harness's own snapshot. -/
def LoadsOwn : Prop :=
  ∀ (t : FileTree String) (entries : List FilePath),
    crates.glob t self.snapshotPattern = some entries →
      ∀ entry ∈ entries, entry.getLast? ≠ some "params.json" → self.snapshotPath <+: entry

/-- The snapshots of the other harness are kept apart from those of this one. -/
structure Isolated : Prop where
  undisturbed : self.Undisturbed other
  loadsOwn : self.LoadsOwn

end

/-! ## What a harness sees -/

section
variable {self other : AmmTestHarness crates}

/-- A harness sees another exactly when the name of its directory matches the other's. -/
theorem sees_iff (hprint : crates.PrintsKeys) :
    self.Sees other ↔ Glob.matchesName self.directoryName other.directoryName := by
  rw [self.matchesName_directoryName hprint]
  constructor
  · rintro ⟨hkey, hmatch⟩
    exact ⟨other.option, hmatch, (directoryName_inj hprint).2 ⟨hkey.symm, rfl⟩⟩
  · rintro ⟨option, hmatch, hname⟩
    obtain ⟨hkey, rfl⟩ := (directoryName_inj hprint).1 hname
    exact ⟨hkey.symm, hmatch⟩

/-- An exact option matches no option but itself. -/
theorem exactOption_iff :
    self.ExactOption ↔ ∀ option, optionMatches self.option option → option = self.option := by
  unfold ExactOption
  cases self.option with
  | none =>
    refine iff_of_true nofun ?_
    intro option hmatch
    cases option with
    | none => rfl
    | some option => cases hmatch
  | some pattern =>
    simp only [Option.some.injEq, forall_eq']
    rw [← Glob.matchesName_self_iff]
    constructor
    · intro hself option hmatch
      cases option with
      | none => cases hmatch
      | some option => rw [hself option hmatch]
    · intro hself name hname
      exact Option.some.inj (hself (some name) hname)

/-- A harness with an exact option sees no other harness. -/
theorem ExactOption.not_sees (hexact : self.ExactOption)
    (hne : (self.key, self.option) ≠ (other.key, other.option)) : ¬ self.Sees other := by
  rintro ⟨hkey, hmatch⟩
  exact hne (Prod.ext hkey (exactOption_iff.1 hexact _ hmatch).symm)

/-- The fixtures with one directory, which holds the given files. -/
theorem exists_fixtures (directory : String) (files : List (String × String)) :
    ∃ t, fixtures.ReplacesDir t ["tests", "fixtures", "accounts", directory] (.ofList files) := by
  refine FileTree.exists_replacesDir (node_fixtures (by simp)) ?_ files
  exact node_accounts_fixtures

/-- **A harness loads only its own files exactly when its option is exact.** -/
theorem loadsOwn_iff (hprint : crates.PrintsKeys) (hglob : crates.MatchesGlobs)
    (hslash : self.NoSeparator) : self.LoadsOwn ↔ self.ExactOption := by
  have hpath := hslash.snapshotPath_eq hprint
  rw [exactOption_iff]
  constructor
  · intro hown option hmatch
    -- a tree with one file, in the directory the option matches
    have hdirectory : Glob.matchesName self.directoryName
        { self with option := option }.directoryName :=
      (self.matchesName_directoryName hprint).2 ⟨option, hmatch, rfl⟩
    obtain ⟨t, ht⟩ := exists_fixtures { self with option := option }.directoryName
      [("account.json", "")]
    obtain ⟨entries, hentries⟩ := hslash.exists_entries hprint hglob hdirectory t
    have hfile : t.node ["tests", "fixtures", "accounts",
        { self with option := option }.directoryName, "account.json"] = some (.file "") :=
      ht.files "account.json"
    have hlisted := (hslash.mem_entries hprint hglob hentries).2
      ⟨_, "account.json", rfl, hdirectory, by decide, Option.isSome_iff_exists.2 ⟨_, hfile⟩⟩
    have hprefix := hown t entries hentries _ hlisted (by simp)
    rw [hpath] at hprefix
    simp only [List.cons_prefix_cons, true_and] at hprefix
    exact ((directoryName_inj hprint).1 hprefix.1).2.symm
  · intro hexact t entries hentries entry hentry _
    obtain ⟨directory, name, rfl, hdirectory, -, -⟩ :=
      (hslash.mem_entries hprint hglob hentries).1 hentry
    obtain ⟨option, hmatch, rfl⟩ := (self.matchesName_directoryName hprint).1 hdirectory
    obtain rfl := hexact option hmatch
    rw [hpath]
    exact ⟨[name], rfl⟩

/-! ## What a harness does not see -/

/-- **A harness is undisturbed by the harnesses it does not see.** -/
theorem undisturbed_of_not_sees (hprint : crates.PrintsKeys) (hglob : crates.MatchesGlobs)
    (hslash : self.NoSeparator) (hslash' : other.NoSeparator) (hsees : ¬ self.Sees other) :
    self.Undisturbed other := by
  intro α _ tables amm params force t
  rw [sees_iff hprint] at hsees
  have hpath := hslash'.snapshotPath_eq hprint
  have houtside := fun q => node_after_snapshotAmmAccounts other tables amm params force t hprint
    (q := q)
  apply loadAccountsSnapshot_congr
  · rw [hglob _ _ hslash, hglob _ _ hslash]
    apply Glob.glob_congr houtside
    rw [hslash.ofString_snapshotPattern hprint, hpath]
    simp [hsees]
  · intro entries hentries entry hentry
    obtain ⟨directory, name, rfl, hdirectory, -, -⟩ :=
      (hslash.mem_entries hprint hglob hentries).1 hentry
    apply houtside
    rw [hpath]
    simp only [List.cons_prefix_cons, true_and]
    rintro ⟨rfl, -⟩
    exact hsees hdirectory

/-! ## What a harness sees is loaded -/

/-- The files of an answer are those of accounts that were asked for. -/
theorem of_mem_accountFiles {accounts : List (Option Account)} {addresses : List Pubkey}
    {file : String × String} (h : file ∈ accountFiles crates accounts addresses) :
    ∃ k ∈ addresses, ∃ account, file = (accountFile crates k, accountText crates k account) := by
  obtain ⟨⟨answer, k⟩, hmem, hfile⟩ := List.mem_filterMap.1 h
  have hk := (List.of_mem_zip hmem).2
  cases answer with
  | none => cases hfile
  | some account =>
    rw [fileOfAccount] at hfile
    split at hfile
    · cases hfile
    · exact ⟨k, hk, account, (Option.some.inj hfile).symm⟩

/-- Where there is only the snapshot of a harness that is seen, its accounts are loaded. -/
theorem Sees.loads (hprint : crates.PrintsKeys) (hencode : crates.EncodesAccounts)
    (hglob : crates.MatchesGlobs) (hslash : self.NoSeparator) (hslash' : other.NoSeparator)
    (hsees : self.Sees other) {t : FileTree String} {files : List (String × String)}
    (h : fixtures.ReplacesDir t other.snapshotPath (.ofList files))
    (hfiles : ∀ file ∈ files, ∃ k account,
      file = (accountFile crates k, accountText crates k account)) :
    ∃ m, self.loadAccountsSnapshot t = .ok m ∧
      ∀ k, (m k).isSome ↔ accountFile crates k ∈ files.map Prod.fst := by
  have hpath := hslash'.snapshotPath_eq hprint
  have hmatch := (sees_iff hprint).1 hsees
  obtain ⟨entries, hentries⟩ := hslash.exists_entries hprint hglob hmatch t
  -- every entry is a file of the other snapshot
  have hentry : ∀ entry ∈ entries, ∃ k account,
      entry = other.snapshotPath ++ [accountFile crates k] ∧
      (accountFile crates k, accountText crates k account) ∈ files ∧
      t.readFile entry = some (accountText crates k account) := by
    intro entry hmem
    obtain ⟨directory, name, rfl, -, -, hsome⟩ := (hslash.mem_entries hprint hglob hentries).1 hmem
    have hdirectory : directory = other.directoryName := by
      by_contra hne
      rw [h.outside, node_fixtures (by simp)] at hsome
      · cases hsome
      · rw [hpath]
        simp only [List.cons_prefix_cons, true_and]
        exact fun hprefix => hne hprefix.1.symm
    subst hdirectory
    have happend : ["tests", "fixtures", "accounts", other.directoryName, name] =
        other.snapshotPath ++ [name] := by
      rw [hpath]
      rfl
    rw [happend] at hsome ⊢
    rw [h.files, Option.isSome_map] at hsome
    obtain ⟨text, htext⟩ := Option.isSome_iff_exists.1 hsome
    have hmemFile := HashMap.mem_of_ofList htext
    obtain ⟨k, account, hfile⟩ := hfiles _ hmemFile
    obtain ⟨rfl, rfl⟩ := Prod.mk.inj hfile
    exact ⟨k, account, rfl, hmemFile, by rw [h.readFile, htext]⟩
  have hlast : ∀ name, (other.snapshotPath ++ [name]).getLast? = some name := by simp
  obtain ⟨l, hload, hloaded⟩ := loadEntries_eq hprint hencode (t := t) (fun entry hmem => by
    obtain ⟨k, account, -, -, hread⟩ := hentry entry hmem
    exact .inr ⟨k, account, hread⟩) HashMap.empty
  refine ⟨_, (loadAccountsSnapshot_of_glob hentries).trans hload, fun k => ?_⟩
  constructor
  · intro hsome
    obtain ⟨account, haccount⟩ := Option.isSome_iff_exists.1 hsome
    obtain ⟨entry, hmem, -, hread⟩ := (hloaded k account).1 (HashMap.mem_of_ofList haccount)
    obtain ⟨k', account', -, hfile, hread'⟩ := hentry entry hmem
    rw [hread] at hread'
    obtain ⟨rfl, rfl⟩ := accountText_inj hprint hencode (Option.some.inj hread')
    exact List.mem_map_of_mem hfile
  · intro hname
    obtain ⟨text, htext⟩ := Option.isSome_iff_exists.1 (HashMap.isSome_ofList hname)
    obtain ⟨k', account, hfile⟩ := hfiles _ (HashMap.mem_of_ofList htext)
    obtain ⟨hk, rfl⟩ := Prod.mk.inj hfile
    obtain rfl := accountFile_injective hprint hk
    have hread : t.readFile (other.snapshotPath ++ [accountFile crates k]) =
        some (accountText crates k account) := (h.readFile _).trans htext
    have hmem : other.snapshotPath ++ [accountFile crates k] ∈ entries := by
      rw [hslash.mem_entries hprint hglob hentries]
      refine ⟨other.directoryName, accountFile crates k, by rw [hpath]; rfl, hmatch, ?_, ?_⟩
      · rw [accountFile, String.toList_append]
        exact List.suffix_append _ _
      · rw [h.files, htext]
        rfl
    have hname : (other.snapshotPath ++ [accountFile crates k]).getLast? ≠ some "params.json" := by
      rw [hlast, Ne, Option.some.injEq]
      exact accountFile_ne_params hprint k
    exact HashMap.isSome_ofList
      (List.mem_map_of_mem ((hloaded k account).2 ⟨_, hmem, hname, hread⟩))

/-- An AMM that reports nothing. -/
inductive SilentAmm (crates : Crates) where
  | mk

instance : Amm crates (SilentAmm crates) where
  getReserveMints _ := []
  getAccountsToUpdate _ := []
  update _ := pure ()
  quote _ _ := .error (.err (crates.anyhow "no quote"))
  getSwapAndAccountMetas _ _ := .error (.err (crates.anyhow "no swap"))
  unidirectional _ := false

/-- A snapshot of an AMM that reports nothing leaves at most the clock in the directory, whether the
node answers or not. -/
theorem exists_silentSnapshot (hprint : crates.PrintsKeys) (horder : crates.OrdersHashSets)
    {t : FileTree String} (hdir : t.node self.snapshotPath = some .dir) :
    ∃ files, (∀ file ∈ files, ∃ account,
        file = (accountFile crates clockId, accountText crates clockId account)) ∧
      t.ReplacesDir ((self.snapshotAmmAccounts tokenTables (SilentAmm.mk : SilentAmm crates) none
        true).after t) self.snapshotPath (.ofList files) := by
  have haddresses : addressesForSnapshot tokenTables (SilentAmm.mk : SilentAmm crates) =
      .ok [clockId] := rfl
  rw [RustM.after]
  rcases self.snapshotAmmAccounts_cases tokenTables (SilentAmm.mk : SilentAmm crates) none true t
    hprint with ⟨e, herror, -⟩ | ⟨addresses, hok, ⟨hcan, -⟩ | ⟨-, ⟨e, message, t', -, hrun,
      hreplaces⟩ | ⟨accounts, t', -, hrun, hreplaces⟩⟩⟩
  · rw [haddresses] at herror
    cases herror
  · exact absurd (self.canMake_true.2 hdir) hcan
  · rw [hrun]
    refine ⟨[], ?_, hreplaces⟩
    intro file hfile
    cases hfile
  · rw [haddresses] at hok
    cases hok
    rw [hrun]
    refine ⟨_, ?_, hreplaces⟩
    intro file hfile
    obtain ⟨k, hk, account, rfl⟩ := of_mem_accountFiles hfile
    obtain rfl := List.mem_singleton.1 (((horder [clockId]).2 k).1 hk)
    exact ⟨account, rfl⟩

/-- **A harness is disturbed by the harnesses it sees.** A forced snapshot takes the old accounts
away, and the harness loaded them. -/
theorem not_undisturbed_of_sees (hprint : crates.PrintsKeys) (hencode : crates.EncodesAccounts)
    (horder : crates.OrdersHashSets) (hglob : crates.MatchesGlobs) (hslash : self.NoSeparator)
    (hslash' : other.NoSeparator) (hsees : self.Sees other) : ¬ self.Undisturbed other := by
  intro hundisturbed
  have hpath : ["tests", "fixtures", "accounts", other.directoryName] = other.snapshotPath :=
    (hslash'.snapshotPath_eq hprint).symm
  have hkey : splTokenId ≠ clockId := by decide +kernel
  obtain ⟨t, ht⟩ := exists_fixtures other.directoryName
    [(accountFile crates splTokenId, accountText crates splTokenId ⟨0, [], splTokenId, false, 0⟩)]
  rw [hpath] at ht
  obtain ⟨files, hfiles, ht'⟩ := exists_silentSnapshot hprint horder ht.top
  obtain ⟨m, hload, hm⟩ := hsees.loads hprint hencode hglob hslash hslash' ht fun file hfile =>
    ⟨_, _, List.mem_singleton.1 hfile⟩
  obtain ⟨m', hload', hm'⟩ := hsees.loads hprint hencode hglob hslash hslash' (ht.trans ht')
    fun file hfile => ⟨_, hfiles file hfile⟩
  rw [hundisturbed, hload] at hload'
  cases hload'
  obtain ⟨file, hfile, hname⟩ := List.mem_map.1
    ((hm' splTokenId).1 ((hm splTokenId).2 (List.mem_singleton_self _)))
  obtain ⟨account, rfl⟩ := hfiles file hfile
  exact hkey (accountFile_injective hprint hname).symm

/-- **Snapshots are isolated exactly where options are exact.** For two harnesses with different
pairs of key and option, the one is kept apart from the other exactly when its option is exact; and
it is undisturbed by the snapshots of the other exactly when the keys are different or its option
does not match the other's. -/
theorem isolated_iff (hprint : crates.PrintsKeys) (hencode : crates.EncodesAccounts)
    (horder : crates.OrdersHashSets) (hglob : crates.MatchesGlobs) (hslash : self.NoSeparator)
    (hslash' : other.NoSeparator) (hne : (self.key, self.option) ≠ (other.key, other.option)) :
    (self.Isolated other ↔ self.ExactOption) ∧ (self.Undisturbed other ↔ ¬ self.Sees other) := by
  refine ⟨⟨?_, ?_⟩, ⟨?_, ?_⟩⟩
  · rintro ⟨-, hown⟩
    exact (loadsOwn_iff hprint hglob hslash).1 hown
  · intro hexact
    exact ⟨undisturbed_of_not_sees hprint hglob hslash hslash' (hexact.not_sees hne),
      (loadsOwn_iff hprint hglob hslash).2 hexact⟩
  · intro hundisturbed hsees
    exact not_undisturbed_of_sees hprint hencode horder hglob hslash hslash' hsees hundisturbed
  · exact undisturbed_of_not_sees hprint hglob hslash hslash'

end

section
open Reference

/-- A harness for the example pool with an option of the repository's tests. -/
def exactOutHarness : AmmTestHarness referenceCrates :=
  { SplTokenSwapAmm.poolHarness with option := some "exact-out" }

/-- A harness for the example pool whose option is a pattern. -/
def wildcardHarness : AmmTestHarness referenceCrates :=
  { SplTokenSwapAmm.poolHarness with option := some "exact?out" }

/-- The option of the tests is exact. -/
theorem isolated_iff_exactOut : exactOutHarness.Isolated SplTokenSwapAmm.poolHarness := by
  have hslash : exactOutHarness.NoSeparator := by
    intro option hoption
    cases hoption
    decide
  have hslash' : SplTokenSwapAmm.poolHarness.NoSeparator := by
    intro option hoption
    cases hoption
  refine (isolated_iff printsKeys_referenceCrates encodesAccounts_referenceCrates
    ordersHashSets_referenceCrates matchesGlobs_referenceCrates hslash hslash' ?_).1.2 ?_
  · intro heq
    cases (Prod.mk.inj heq).2
  · intro pattern hpattern
    cases hpattern
    exact .inl (by decide)

/-- **Snapshots are not isolated.** The two harnesses have different options without separators, and
the second disturbs the first, which loads its files. -/
theorem not_isolated :
    wildcardHarness.NoSeparator ∧ exactOutHarness.NoSeparator ∧
    (wildcardHarness.key, wildcardHarness.option) ≠ (exactOutHarness.key, exactOutHarness.option) ∧
    ¬ wildcardHarness.Undisturbed exactOutHarness ∧ ¬ wildcardHarness.LoadsOwn := by
  have hslash : wildcardHarness.NoSeparator := by
    intro option hoption
    cases hoption
    decide
  have hslash' : exactOutHarness.NoSeparator := by
    intro option hoption
    cases hoption
    decide
  have hmatch : Glob.matchesName "exact?out" "exact-out" := by decide
  have hne : "exact-out" ≠ "exact?out" := by decide
  refine ⟨hslash, hslash', ?_, ?_, ?_⟩
  · intro heq
    exact hne (Option.some.inj (Prod.mk.inj heq).2).symm
  · exact not_undisturbed_of_sees printsKeys_referenceCrates encodesAccounts_referenceCrates
      ordersHashSets_referenceCrates matchesGlobs_referenceCrates hslash hslash' ⟨rfl, hmatch⟩
  · rw [loadsOwn_iff printsKeys_referenceCrates matchesGlobs_referenceCrates hslash,
      exactOption_iff]
    intro hexact
    exact hne (Option.some.inj (hexact (some "exact-out") hmatch))

end

end AmmTestHarness

end JupiterAmm
