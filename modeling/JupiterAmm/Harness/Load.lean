import JupiterAmm.Harness.Snapshot

/-!
# Loading a snapshot

The directory of a snapshot is named after the key and the option, and different pairs have
different directories (`directoryName_inj`). The writer takes this name literally, but the loader
puts it into a glob pattern as it is, so the loader reads the directories of its own key whose
option its own option matches as a pattern (`matchesName_directoryName`, `mem_entries`). What it
reads there goes into the map, in some order (`loadEntries_eq`).
-/

namespace JupiterAmm

open Rust

/-! ## Names and patterns -/

namespace AmmTestHarness

variable {crates : Crates} (self : AmmTestHarness crates)

/-- The option, if there is one, has no path separator. -/
def NoSeparator : Prop := ∀ option, self.option = some option → '/' ∉ option.toList

/-- The directory of a snapshot whose option has no path separator. -/
abbrev directoryPath : FilePath := ["tests", "fixtures", "accounts", self.directoryName]

/-- The pattern of the loader. -/
def snapshotPattern : String := "tests/fixtures/accounts/" ++ self.directoryName ++ "/" ++ "*.json"

end AmmTestHarness

/-- `glob` lists the paths that match a harness's pattern. -/
def Crates.MatchesGlobs (crates : Crates) : Prop :=
  ∀ (t : FileTree String) (harness : AmmTestHarness crates), harness.NoSeparator →
    crates.glob t harness.snapshotPattern = Glob.glob t harness.snapshotPattern

open Reference in
theorem matchesGlobs_referenceCrates : referenceCrates.MatchesGlobs := by
  have hglob : referenceCrates.glob = Glob.glob := rfl
  intro t harness _
  rw [hglob]

namespace AmmTestHarness

variable {crates : Crates}

/-! ## Directories of snapshots -/

/-- Lists split at the first occurrence of an element in one way. -/
theorem append_cons_inj {β : Type} {a : β} {x x' z z' : List β} (hx : a ∉ x) (hx' : a ∉ x')
    (h : x ++ a :: z = x' ++ a :: z') : x = x' ∧ z = z' := by
  rcases List.append_eq_append_iff.1 h with ⟨_ | ⟨b, y⟩, hy, hz⟩ | ⟨_ | ⟨b, y⟩, hy, hz⟩
  · exact ⟨by simpa using hy.symm, by simpa using hz⟩
  · cases hz
    exact absurd (hy ▸ List.mem_append_right _ (List.mem_cons_self ..)) hx'
  · exact ⟨by simpa using hy, by simpa using hz.symm⟩
  · cases hz
    exact absurd (hy ▸ List.mem_append_right _ (List.mem_cons_self ..)) hx

section
variable (self : AmmTestHarness crates)

/-- An option as a pattern matches another option: both are absent, or the one text matches the
other. -/
def optionMatches : Option String → Option String → Bool
  | none, none => true
  | some pattern, some option => Glob.matchesName pattern option
  | _, _ => false

/-- The key is printed without a dash. -/
theorem dash_notMem_pubkeyToString (hprint : crates.PrintsKeys) (k : Pubkey) :
    '-' ∉ (crates.pubkeyToString k).toList := fun hdash =>
  absurd (alphabet_of_mem_pubkeyToString hprint hdash) (by decide)

/-- A printed key has no character with a meaning in patterns. -/
theorem literal_pubkeyToString (hprint : crates.PrintsKeys) (k : Pubkey) :
    Glob.Literal (crates.pubkeyToString k) := by
  intro c hc
  have hmem := alphabet_of_mem_pubkeyToString hprint hc
  refine ⟨?_, ?_, ?_⟩
  all_goals
    rintro rfl
    revert hmem
    decide

theorem directoryName_of_none {self : AmmTestHarness crates} (h : self.option = none) :
    self.directoryName = crates.pubkeyToString self.key := by
  rw [directoryName, h]
  exact String.append_empty

theorem directoryName_of_some {self : AmmTestHarness crates} {option : String}
    (h : self.option = some option) :
    self.directoryName = crates.pubkeyToString self.key ++ "-" ++ option := by
  rw [directoryName, h, String.append_assoc]

/-- The name of a directory has the length of a printed key at least. -/
theorem directoryName_ne {self : AmmTestHarness crates} (hprint : crates.PrintsKeys) {s : String}
    (hs : s.length < 32) : self.directoryName ≠ s := by
  rintro rfl
  have hkey := le_length_pubkeyToString hprint self.key
  rw [directoryName, String.length_append] at hs
  omega

variable {self} in
theorem NoSeparator.slash_notMem (hprint : crates.PrintsKeys) (h : self.NoSeparator) :
    '/' ∉ self.directoryName.toList := by
  have hkey : '/' ∉ (crates.pubkeyToString self.key).toList := fun hslash =>
    absurd (alphabet_of_mem_pubkeyToString hprint hslash) (by decide)
  cases hoption : self.option with
  | none => rwa [directoryName_of_none hoption]
  | some option =>
    rw [directoryName_of_some hoption, String.toList_append, String.toList_append,
      List.mem_append, List.mem_append, not_or, not_or]
    exact ⟨⟨hkey, by decide⟩, h option hoption⟩

variable {self} in
/-- The directory is one directory of the fixtures. -/
theorem NoSeparator.ofString_directoryName (hprint : crates.PrintsKeys) (h : self.NoSeparator) :
    FilePath.ofString self.directoryName = [self.directoryName] :=
  FilePath.ofString_name (h.slash_notMem hprint) (directoryName_ne hprint (by decide))
    (directoryName_ne hprint (by decide))

variable {self} in
theorem NoSeparator.snapshotPath_eq (hprint : crates.PrintsKeys) (h : self.NoSeparator) :
    self.snapshotPath = self.directoryPath := by
  rw [snapshotPath, ofString_fixtures, h.ofString_directoryName hprint]
  rfl

variable {self} in
theorem NoSeparator.ofString_snapshotPattern (hprint : crates.PrintsKeys) (h : self.NoSeparator) :
    FilePath.ofString self.snapshotPattern =
      ["tests", "fixtures", "accounts", self.directoryName, "*.json"] := by
  have hstar : FilePath.ofString "*.json" = ["*.json"] :=
    FilePath.ofString_name (by decide) (by decide) (by decide)
  calc FilePath.ofString self.snapshotPattern
      = self.snapshotPath ++ FilePath.ofString "*.json" := FilePath.ofString_append ..
    _ = self.directoryPath ++ ["*.json"] :=
        congrArg₂ (· ++ ·) (h.snapshotPath_eq hprint) hstar

/-- **Different pairs of key and option have different directories**: the first dash ends the
key. -/
theorem directoryName_inj (hprint : crates.PrintsKeys) {self other : AmmTestHarness crates} :
    self.directoryName = other.directoryName ↔
      self.key = other.key ∧ self.option = other.option := by
  constructor
  · intro h
    have hdash := dash_notMem_pubkeyToString hprint
    have hhead : ∀ k k' option,
        crates.pubkeyToString k ≠ crates.pubkeyToString k' ++ "-" ++ option := by
      intro k k' option heq
      apply hdash k
      rw [heq, String.toList_append, String.toList_append]
      exact List.mem_append_left _ (List.mem_append_right _ (List.mem_singleton_self '-'))
    cases hself : self.option with
    | none =>
      rw [directoryName_of_none hself] at h
      cases hother : other.option with
      | none =>
        rw [directoryName_of_none hother] at h
        exact ⟨pubkeyToString_injective hprint h, rfl⟩
      | some option' =>
        rw [directoryName_of_some hother] at h
        exact absurd h (hhead _ _ _)
    | some option =>
      rw [directoryName_of_some hself] at h
      cases hother : other.option with
      | none =>
        rw [directoryName_of_none hother] at h
        exact absurd h.symm (hhead _ _ _)
      | some option' =>
        rw [directoryName_of_some hother, ← String.toList_inj] at h
        simp only [String.toList_append, List.append_assoc] at h
        obtain ⟨hkey, htail⟩ := append_cons_inj (hdash self.key) (hdash other.key) h
        rw [pubkeyToString_injective hprint (String.toList_inj.1 hkey),
          String.toList_inj.1 htail]
        exact ⟨rfl, rfl⟩
  · rintro ⟨hkey, hoption⟩
    rw [directoryName, directoryName, hkey, hoption]

/-- **What the name of a directory matches as a pattern**: the directories of the same key whose
option the option matches. -/
theorem matchesName_directoryName (hprint : crates.PrintsKeys) {name : String} :
    Glob.matchesName self.directoryName name ↔ ∃ option, optionMatches self.option option ∧
      name = { self with option := option }.directoryName := by
  have hkey := literal_pubkeyToString hprint self.key
  have hnone : { self with option := none }.directoryName = crates.pubkeyToString self.key :=
    directoryName_of_none rfl
  have hsome : ∀ option, { self with option := some option }.directoryName =
      crates.pubkeyToString self.key ++ "-" ++ option := fun _ => directoryName_of_some rfl
  cases hoption : self.option with
  | none =>
    rw [directoryName_of_none hoption, Glob.matchesName_literal hkey]
    constructor
    · rintro rfl
      exact ⟨none, rfl, hnone.symm⟩
    · rintro ⟨option, hmatch, rfl⟩
      cases option with
      | none => exact hnone
      | some option => cases hmatch
  | some pattern =>
    have hprefix : Glob.Literal (crates.pubkeyToString self.key ++ "-") :=
      Glob.literal_append hkey (by decide)
    rw [directoryName_of_some hoption, Glob.matchesName_append hprefix]
    constructor
    · rintro ⟨option, rfl, hmatch⟩
      exact ⟨some option, hmatch, (hsome option).symm⟩
    · rintro ⟨option, hmatch, rfl⟩
      cases option with
      | none => cases hmatch
      | some option => exact ⟨option, hsome option, hmatch⟩

variable {self}

/-! ## The entries of the pattern -/

/-- The loader reads the entries of its pattern. -/
theorem loadAccountsSnapshot_of_glob {t : FileTree String} {entries : List FilePath}
    (h : crates.glob t self.snapshotPattern = some entries) :
    self.loadAccountsSnapshot t = loadEntries crates t entries HashMap.empty := by
  show (unwrap (crates.glob t self.snapshotPattern) >>= fun entries =>
    loadEntries crates t entries HashMap.empty) = _
  rw [h]
  rfl

/-- A pattern whose directory matches something can be listed. -/
theorem NoSeparator.exists_entries (h : self.NoSeparator) (hprint : crates.PrintsKeys)
    (hglob : crates.MatchesGlobs) {directory : String}
    (hdirectory : Glob.matchesName self.directoryName directory) (t : FileTree String) :
    ∃ entries, crates.glob t self.snapshotPattern = some entries := by
  have hfixtures : ∀ c ∈ ["tests", "fixtures", "accounts"], Glob.matchesName c c := by decide
  have hjson : Glob.matchesName "*.json" "*.json" := by decide
  rw [hglob _ _ h]
  apply Glob.exists_glob
  rw [h.ofString_snapshotPattern hprint]
  simp only [List.forall_mem_cons] at hfixtures ⊢
  exact ⟨⟨_, hfixtures.1⟩, ⟨_, hfixtures.2.1⟩, ⟨_, hfixtures.2.2.1⟩, ⟨_, hdirectory⟩, ⟨_, hjson⟩,
    nofun⟩

/-- The loader lists the files that end as account files do, in every directory whose name its own
directory's name matches. -/
theorem NoSeparator.mem_entries (h : self.NoSeparator) (hprint : crates.PrintsKeys)
    (hglob : crates.MatchesGlobs) {t : FileTree String} {entries : List FilePath}
    (hentries : crates.glob t self.snapshotPattern = some entries) {entry : FilePath} :
    entry ∈ entries ↔ ∃ directory name,
      entry = ["tests", "fixtures", "accounts", directory, name] ∧
      Glob.matchesName self.directoryName directory ∧ ".json".toList <:+ name.toList ∧
      (t.node entry).isSome := by
  have htests : ∀ name, Glob.matchesName "tests" name ↔ name = "tests" := fun _ =>
    Glob.matchesName_literal (by decide)
  have hfixtures : ∀ name, Glob.matchesName "fixtures" name ↔ name = "fixtures" := fun _ =>
    Glob.matchesName_literal (by decide)
  have haccounts : ∀ name, Glob.matchesName "accounts" name ↔ name = "accounts" := fun _ =>
    Glob.matchesName_literal (by decide)
  have hsuffix : Glob.Literal ".json" := by decide
  have hjson : ∀ name, Glob.matchesName "*.json" name ↔ ".json".toList <:+ name.toList := fun _ =>
    Glob.matchesName_star hsuffix
  rw [hglob _ _ h] at hentries
  rw [Glob.mem_glob hentries, h.ofString_snapshotPattern hprint]
  simp only [List.forall₂_cons_left_iff, List.forall₂_nil_left_iff, htests, hfixtures, haccounts,
    hjson]
  constructor
  · rintro ⟨⟨_, _, rfl, ⟨_, _, rfl, ⟨_, _, rfl, ⟨directory, _, hdirectory, ⟨name, _, hname, rfl,
      rfl⟩, rfl⟩, rfl⟩, rfl⟩, rfl⟩, hsome⟩
    exact ⟨directory, name, rfl, hdirectory, hname, hsome⟩
  · rintro ⟨directory, name, rfl, hdirectory, hname, hsome⟩
    exact ⟨⟨_, _, rfl, ⟨_, _, rfl, ⟨_, _, rfl, ⟨directory, _, hdirectory,
      ⟨name, _, hname, rfl, rfl⟩, rfl⟩, rfl⟩, rfl⟩, rfl⟩, hsome⟩

end

/-! ## Loading the accounts -/

/-- The loop reads only its entries. -/
theorem loadEntries_congr {t t' : FileTree String} {entries : List FilePath}
    (h : ∀ entry ∈ entries, t'.node entry = t.node entry) (m : AccountMap) :
    loadEntries crates t' entries m = loadEntries crates t entries m := by
  induction entries generalizing m with
  | nil => rfl
  | cons entry entries ih =>
    have hread : t'.readFile entry = t.readFile entry := by
      rw [FileTree.readFile, FileTree.readFile, h entry (List.mem_cons_self ..)]
    have ih := ih fun entry' h' => h entry' (List.mem_cons_of_mem _ h')
    rw [loadEntries, loadEntries, hread]
    simp only [ih]

/-- The loader reads only the entries of its pattern. -/
theorem loadAccountsSnapshot_congr {self : AmmTestHarness crates} {t t' : FileTree String}
    (hlist : crates.glob t' self.snapshotPattern = crates.glob t self.snapshotPattern)
    (h : ∀ entries, crates.glob t self.snapshotPattern = some entries →
      ∀ entry ∈ entries, t'.node entry = t.node entry) :
    self.loadAccountsSnapshot t' = self.loadAccountsSnapshot t := by
  show (unwrap (crates.glob t' self.snapshotPattern) >>= fun entries =>
      loadEntries crates t' entries HashMap.empty) =
    (unwrap (crates.glob t self.snapshotPattern) >>= fun entries =>
      loadEntries crates t entries HashMap.empty)
  rw [hlist]
  cases hentries : crates.glob t self.snapshotPattern with
  | none => rfl
  | some entries => exact loadEntries_congr (h entries hentries) HashMap.empty

/-- The text of an account's file tells the key and the account. -/
theorem accountText_inj (hprint : crates.PrintsKeys) (hencode : crates.EncodesAccounts)
    {k k' : Pubkey} {account account' : Account}
    (h : accountText crates k account = accountText crates k' account') :
    k = k' ∧ account = account' := by
  have hread := congrArg crates.rpcKeyedAccountFromStr h
  rw [accountText, accountText, hencode.fromStr, hencode.fromStr] at hread
  obtain ⟨hkey, haccount⟩ := Prod.mk.inj (Option.some.inj hread)
  have haccount := congrArg crates.uiAccountDecode haccount
  rw [hencode.decode, hencode.decode] at haccount
  exact ⟨pubkeyToString_injective hprint hkey, Option.some.inj haccount⟩

/-- One entry of the loop that is not the parameters: its account goes into the map. -/
theorem loadEntries_cons (hprint : crates.PrintsKeys) (hencode : crates.EncodesAccounts)
    {t : FileTree String} {entry : FilePath} {k : Pubkey} {account : Account}
    (hname : entry.getLast? ≠ some "params.json")
    (hread : t.readFile entry = some (accountText crates k account)) (entries : List FilePath)
    (m : AccountMap) :
    loadEntries crates t (entry :: entries) m =
      loadEntries crates t entries (m.insert k account) := by
  rw [loadEntries, if_neg hname, hread, unwrap_some, Outcome.ok_bind, accountText, hencode.fromStr,
    unwrap_some, Outcome.ok_bind, hencode.decode, unwrap_some, Outcome.ok_bind, hprint.fromStr,
    unwrap_some, Outcome.ok_bind]

/-- The loop puts into the map, in some order, the accounts of the files that are not the
parameters. -/
theorem loadEntries_eq (hprint : crates.PrintsKeys) (hencode : crates.EncodesAccounts)
    {t : FileTree String} {entries : List FilePath}
    (h : ∀ entry ∈ entries, entry.getLast? = some "params.json" ∨
      ∃ k account, t.readFile entry = some (accountText crates k account)) (m : AccountMap) :
    ∃ l, loadEntries crates t entries m = .ok (m.insertAll l) ∧
      ∀ k account, (k, account) ∈ l ↔ ∃ entry ∈ entries, entry.getLast? ≠ some "params.json" ∧
        t.readFile entry = some (accountText crates k account) := by
  induction entries generalizing m with
  | nil => exact ⟨[], rfl, by simp⟩
  | cons entry entries ih =>
    have ih := ih fun entry' h' => h entry' (List.mem_cons_of_mem _ h')
    by_cases hname : entry.getLast? = some "params.json"
    · obtain ⟨l, hload, hmem⟩ := ih m
      refine ⟨l, ?_, fun k account => ?_⟩
      · rw [loadEntries, if_pos hname, hload]
      · rw [hmem, List.exists_mem_cons_iff]
        simp [hname]
    · obtain ⟨k, account, hread⟩ := (h entry (List.mem_cons_self ..)).resolve_left hname
      obtain ⟨l, hload, hmem⟩ := ih (m.insert k account)
      refine ⟨(k, account) :: l, ?_, fun k' account' => ?_⟩
      · rw [loadEntries_cons hprint hencode hname hread, hload, HashMap.insertAll_cons]
      · rw [List.mem_cons, hmem, List.exists_mem_cons_iff, and_iff_right hname, hread,
          Option.some.injEq]
        refine or_congr_left ⟨?_, ?_⟩
        · intro heq
          cases heq
          rfl
        · intro htext
          obtain ⟨rfl, rfl⟩ := accountText_inj hprint hencode htext
          rfl

end AmmTestHarness

end JupiterAmm
