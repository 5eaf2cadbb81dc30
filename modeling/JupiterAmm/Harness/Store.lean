import JupiterAmm.Harness.Command
import JupiterAmm.Cells

/-!
# The store of snapshots

The directory of fixtures is a store: the snapshot command writes it, the tests read it. Any
sequence of commands, each on the chain its node then serves, does to the directories of snapshots
what it does to independent cells (`shell_eq`). So a directory holds the live pool of the last
command for it that succeeded, and where that command's placeholder was no account of the pool,
every reader answers from that pool's chain (`reads_lastSnapshot`); and sequences that are the same
for each directory, however they are interleaved, leave the same tree (`shell_congr`).
-/

namespace JupiterAmm

open Rust

/-! ## Commands on directories -/

/-- What names a snapshot: a key, and an option that is no path of its own. -/
structure SnapshotId where
  key : Pubkey
  option : Option String
  noSeparator : ∀ text, option = some text → '/' ∉ text.toList
  deriving DecidableEq

/-- A harness of a snapshot, as the tests have it: it asks no node. -/
def SnapshotId.harness (crates : Crates) (self : SnapshotId) : AmmTestHarness crates where
  client := ⟨fun _ => .ok []⟩
  key := self.key
  option := self.option

/-- The directory of a snapshot. -/
def SnapshotId.directory (crates : Crates) (self : SnapshotId) : FilePath :=
  (self.harness crates).snapshotPath

/-- A run of the command, on a network whose node serves a chain. -/
structure Invocation (crates : Crates) extends Cli where
  network : String → RpcNode crates
  chain : AccountMap
  serves : (network rpcUrl).Serves chain
  noSeparator : ∀ text, option = some text → '/' ∉ text.toList

/-- The directory of fixtures. -/
def fixturesPath : FilePath := ["tests", "fixtures", "accounts"]

section
variable {crates : Crates} (commandCrates : CommandCrates crates) (tables : TokenTables)

/-- The snapshot an invocation is for, if its id is the text of a key. -/
def Invocation.id (self : Invocation crates) : Option SnapshotId :=
  (crates.pubkeyFromStr self.ammId).map fun key => ⟨key, self.option, self.noSeparator⟩

/-- An invocation runs `main`. -/
def Invocation.run (self : Invocation crates) : RustM crates.Error (FileTree String) Unit :=
  self.toCli.main commandCrates self.network tables

/-- The tree a sequence of invocations leaves. -/
def shell (t : FileTree String) (cs : List (Invocation crates)) : FileTree String :=
  cs.foldl (fun t c => (c.run commandCrates tables).after t) t

/-- The last invocation of a sequence that succeeds for a snapshot: it does when its turn comes, and
none for the snapshot does after it. -/
def LastFor (t : FileTree String) (cs : List (Invocation crates)) (id : SnapshotId)
    (c : Invocation crates) : Prop :=
  ∃ before after, cs = before ++ c :: after ∧ c.id = some id ∧
    (c.run commandCrates tables).Succeeds (shell commandCrates tables t before) ∧
    ∀ mid d rest, after = mid ++ d :: rest → d.id = some id →
      ¬ (d.run commandCrates tables).Succeeds (shell commandCrates tables t (before ++ c :: mid))

/-- An invocation for a live pool is accepted over what lies at its directory: a directory with
`force`, nothing without. -/
def Invocation.Accepts (self : Invocation crates)
    (old : HashMap FilePath (FileTree.Node String)) (live : SplTokenSwapAmm crates) : Prop :=
  ∃ key, crates.pubkeyFromStr self.ammId = some key ∧ Live commandCrates self.chain key live ∧
    live.HasAmounts tables ∧ old [] = if self.force then some .dir else none

open Classical in
/-- What an invocation writes over a directory. -/
noncomputable def Invocation.write (self : Invocation crates)
    (old : HashMap FilePath (FileTree.Node String)) :
    Option (HashMap FilePath (FileTree.Node String)) :=
  if h : ∃ live, self.Accepts commandCrates tables old live then
    some (FileTree.dirOf (AmmTestHarness.poolFiles self.chain h.choose))
  else
    none

/-- The directories of the snapshots in a tree. -/
def directories (crates : Crates) (t : FileTree String) :
    Option SnapshotId → HashMap FilePath (FileTree.Node String)
  | some id => t.subtree (id.directory crates)
  | none => HashMap.empty

end

/-! ## One invocation -/

section
variable {crates : Crates} {commandCrates : CommandCrates crates} {tables : TokenTables}

theorem SnapshotId.directory_eq (hprint : crates.PrintsKeys) (self : SnapshotId) :
    self.directory crates =
      ["tests", "fixtures", "accounts", (self.harness crates).directoryName] :=
  AmmTestHarness.NoSeparator.snapshotPath_eq hprint
    (show (self.harness crates).NoSeparator from self.noSeparator)

/-- Different snapshots have different directories. -/
theorem SnapshotId.directory_injective (hprint : crates.PrintsKeys) :
    Function.Injective (SnapshotId.directory crates) := by
  intro id id' h
  rw [directory_eq hprint, directory_eq hprint] at h
  simp only [List.cons.injEq, and_true, true_and] at h
  obtain ⟨hkey, hoption⟩ := (AmmTestHarness.directoryName_inj hprint).1 h
  obtain ⟨key, option, hid⟩ := id
  obtain rfl : key = _ := hkey
  obtain rfl : option = _ := hoption
  rfl

/-- The last invocation is one of the sequence. -/
theorem LastFor.mem {t : FileTree String} {cs : List (Invocation crates)} {id : SnapshotId}
    {c : Invocation crates} (h : LastFor commandCrates tables t cs id c) : c ∈ cs := by
  obtain ⟨before, after, rfl, -⟩ := h
  exact List.mem_append_right _ (List.mem_cons_self ..)

/-- An invocation accepts one pool. -/
theorem Invocation.Accepts.unique {c : Invocation crates}
    {old : HashMap FilePath (FileTree.Node String)} {live live' : SplTokenSwapAmm crates}
    (h : c.Accepts commandCrates tables old live) (h' : c.Accepts commandCrates tables old live') :
    live = live' := by
  obtain ⟨key, hkey, hlive, -⟩ := h
  obtain ⟨key', hkey', hlive', -⟩ := h'
  obtain rfl : key = key' := Option.some.inj (hkey.symm.trans hkey')
  exact hlive.unique hlive'

theorem Invocation.write_eq_some {c : Invocation crates}
    {old new : HashMap FilePath (FileTree.Node String)} :
    c.write commandCrates tables old = some new ↔
      ∃ live, c.Accepts commandCrates tables old live ∧
        new = FileTree.dirOf (AmmTestHarness.poolFiles c.chain live) := by
  unfold write
  split
  · next h =>
    rw [Option.some.injEq]
    constructor
    · rintro rfl
      exact ⟨_, h.choose_spec, rfl⟩
    · rintro ⟨live, hlive, rfl⟩
      rw [hlive.unique h.choose_spec]
  · next h =>
    refine iff_of_false nofun ?_
    rintro ⟨live, hlive, -⟩
    exact h ⟨live, hlive⟩

/-- Where a directory can be made, it can be replaced by any files. -/
theorem AmmTestHarness.CanMake.exists_replacesDir {self : AmmTestHarness crates} {force : Bool}
    {t : FileTree String} (h : self.CanMake force t) (files : List (String × String)) :
    ∃ t', t.ReplacesDir t' self.snapshotPath (.ofList files) := by
  rcases self.makeDirectory_cases force t with ⟨-, t₁, hempty, -⟩ | ⟨hcan, -⟩
  · obtain ⟨t₂, -, hfiles⟩ := hempty.writeFiles files
    exact ⟨t₂, hfiles⟩
  · exact absurd h hcan

/-- Below the directory of fixtures, whether a directory can be made is seen at the directory. -/
theorem SnapshotId.canMake_iff (hprint : crates.PrintsKeys) (self : SnapshotId)
    {t : FileTree String} (hfixtures : t.node fixturesPath = some .dir) {force : Bool}
    {harness : AmmTestHarness crates} (hpath : harness.snapshotPath = self.directory crates) :
    harness.CanMake force t ↔
      t.subtree (self.directory crates) [] = if force then some .dir else none := by
  have hparent : harness.snapshotPath.dropLast = fixturesPath := by
    rw [hpath, directory_eq hprint]
    rfl
  rw [FileTree.subtree, List.append_nil, ← hpath]
  cases force with
  | true => exact harness.canMake_true
  | false => rw [harness.canMake_false, hparent, and_iff_left hfixtures, if_neg Bool.false_ne_true]

section
variable (tables) (hread : crates.ReadsAccountMap) (hprint : crates.PrintsKeys)
  (horder : crates.OrdersHashSets) (hconverts : commandCrates.ConvertsAccounts)
include hread hprint horder hconverts

/-- **One invocation**: it is accepted and replaces its directory by the accounts of the live pool,
or it fails and changes nothing. -/
theorem Invocation.run_cases (c : Invocation crates) {t : FileTree String}
    (hfixtures : t.node fixturesPath = some .dir) :
    (∃ id live t', c.id = some id ∧
      c.Accepts commandCrates tables (t.subtree (id.directory crates)) live ∧
      c.run commandCrates tables t = .ok () t' ∧
      t.ReplacesDir t' (id.directory crates) (AmmTestHarness.poolFiles c.chain live)) ∨
    (c.write commandCrates tables (directories crates t c.id) = none ∧
      ¬ (c.run commandCrates tables).Succeeds t ∧ (c.run commandCrates tables).after t = t) := by
  obtain ⟨hok, herror⟩ := takeSnapshot_iff hread hprint horder hconverts c.serves tables c.ammId
    c.option c.noSeparator c.force t
  have hpath : ∀ key, (AmmTestHarness.newWithRpcUrl c.network c.rpcUrl key c.option).snapshotPath =
      SnapshotId.directory crates ⟨key, c.option, c.noSeparator⟩ := fun key => rfl
  have hdirectory : ∀ key,
      (AmmTestHarness.newWithRpcUrl c.network c.rpcUrl key c.option).directoryPath =
        SnapshotId.directory crates ⟨key, c.option, c.noSeparator⟩ := fun key =>
    (SnapshotId.directory_eq hprint ⟨key, c.option, c.noSeparator⟩).symm
  have hid : ∀ key, crates.pubkeyFromStr c.ammId = some key →
      c.id = some ⟨key, c.option, c.noSeparator⟩ := by
    intro key hkey
    rw [id, hkey]
    rfl
  have hrun : c.run commandCrates tables = (takeSnapshot commandCrates c.network tables c.rpcUrl
    c.ammId c.option c.force).unwrap := rfl
  cases hresult :
      takeSnapshot commandCrates c.network tables c.rpcUrl c.ammId c.option c.force t with
  | ok _ t' =>
    obtain ⟨key, live, hkey, hlive, hamounts, hcan, hreplaces⟩ := (hok t').1 hresult
    rw [SnapshotId.canMake_iff hprint _ hfixtures (hpath key)] at hcan
    rw [hdirectory] at hreplaces
    exact .inl ⟨_, live, t', hid key hkey, ⟨key, hkey, hlive, hamounts, hcan⟩,
      RustM.unwrap_of_ok hresult, hreplaces⟩
  | error e t' =>
    obtain rfl := herror e t' hresult
    refine .inr ⟨?_, ?_, ?_⟩
    · rw [Option.eq_none_iff_forall_ne_some]
      intro new hnew
      obtain ⟨live, ⟨key, hkey, hlive, hamounts, hcan⟩, -⟩ := write_eq_some.1 hnew
      rw [hid key hkey] at hcan
      have hcan := (SnapshotId.canMake_iff hprint _ hfixtures (hpath key)).2 hcan
      obtain ⟨t', hreplaces⟩ := hcan.exists_replacesDir
        (@AmmTestHarness.snapshotFiles crates c.chain none live.collectedAccounts)
      rw [hpath, ← hdirectory] at hreplaces
      have hsuccess := (hok t').2 ⟨key, live, hkey, hlive, hamounts, hcan, hreplaces⟩
      rw [hresult] at hsuccess
      cases hsuccess
    · rintro ⟨⟨⟩, t'', hsuccess⟩
      rw [hrun, RustM.unwrap_eq_ok, hresult] at hsuccess
      cases hsuccess
    · rw [hrun, RustM.after_unwrap, RustM.after, hresult]

/-- **One invocation is one command of the cells**: it leaves the directory of fixtures there,
changes the directories of the snapshots as the cells do, succeeds where its cell accepts it, and
leaves everything else alone. -/
theorem Invocation.run_step (c : Invocation crates) {t : FileTree String}
    (hfixtures : t.node fixturesPath = some .dir) :
    directories crates ((c.run commandCrates tables).after t) =
        Cells.step id (write commandCrates tables) (directories crates t) c ∧
      ((c.run commandCrates tables).Succeeds t ↔
        (c.write commandCrates tables (directories crates t c.id)).isSome) ∧
      ∀ q, (∀ id : SnapshotId, ¬ id.directory crates <+: q) →
        ((c.run commandCrates tables).after t).node q = t.node q := by
  rcases c.run_cases tables hread hprint horder hconverts hfixtures with
    ⟨id, live, t', hid, haccepts, hrun, hreplaces⟩ | ⟨hwrite, hfails, hafter⟩
  · have hwrite : c.write commandCrates tables (directories crates t (some id)) =
        some (FileTree.dirOf (AmmTestHarness.poolFiles c.chain live)) :=
      write_eq_some.2 ⟨live, haccepts, rfl⟩
    have hafter : (c.run commandCrates tables).after t = t' := by
      rw [RustM.after, hrun]
    refine ⟨?_, ?_, ?_⟩
    · funext cell
      rw [hafter]
      by_cases hcell : c.id = cell
      · subst hcell
        rw [Cells.step_of_some _ _ rfl (hid ▸ hwrite), hid]
        exact hreplaces.subtree_eq
      · rw [Cells.step_of_ne _ _ hcell]
        cases cell with
        | none => rfl
        | some id' =>
          apply hreplaces.subtree_of_ne
          · rw [id.directory_eq hprint, id'.directory_eq hprint]
            rfl
          · intro heq
            exact hcell (hid.trans (congrArg some (SnapshotId.directory_injective hprint heq)))
    · rw [hid, hwrite]
      exact iff_of_true ⟨(), t', hrun⟩ rfl
    · intro q hq
      rw [hafter]
      exact hreplaces.outside q (hq id)
  · rw [hafter, hwrite]
    refine ⟨?_, iff_of_false hfails Bool.false_ne_true, fun _ _ => rfl⟩
    funext cell
    by_cases hcell : c.id = cell
    · subst hcell
      rw [Cells.step_of_none _ _ rfl hwrite]
    · rw [Cells.step_of_ne _ _ hcell]

/-- An invocation that is accepted succeeds, and its directory holds the live pool. -/
theorem Invocation.Accepts.succeeds {c : Invocation crates} {t : FileTree String}
    (hfixtures : t.node fixturesPath = some .dir) {id : SnapshotId} (hid : c.id = some id)
    {live : SplTokenSwapAmm crates}
    (h : c.Accepts commandCrates tables (t.subtree (id.directory crates)) live) :
    (c.run commandCrates tables).Succeeds t ∧
      ((c.run commandCrates tables).after t).subtree (id.directory crates) =
        FileTree.dirOf (AmmTestHarness.poolFiles c.chain live) := by
  rcases c.run_cases tables hread hprint horder hconverts hfixtures with
    ⟨id', live', t', hid', haccepts, hrun, hreplaces⟩ | ⟨hwrite, -, -⟩
  · obtain rfl : id' = id := Option.some.inj (hid'.symm.trans hid)
    rw [RustM.after, hrun, h.unique haccepts]
    exact ⟨⟨(), t', hrun⟩, hreplaces.subtree_eq⟩
  · rw [hid] at hwrite
    cases hwrite.symm.trans (write_eq_some.2 ⟨live, h, rfl⟩)

/-- The directory of fixtures is there after an invocation. -/
theorem Invocation.fixtures_after (c : Invocation crates) {t : FileTree String}
    (hfixtures : t.node fixturesPath = some .dir) :
    ((c.run commandCrates tables).after t).node fixturesPath = some .dir := by
  obtain ⟨-, -, houtside⟩ := c.run_step tables hread hprint horder hconverts hfixtures
  rw [houtside fixturesPath, hfixtures]
  intro id hbelow
  have hlength := hbelow.length_le
  rw [id.directory_eq hprint] at hlength
  exact absurd hlength (by simp [fixturesPath])

/-- **Every run of the command is a run of the cells.** -/
theorem shell_eq (cs : List (Invocation crates)) {t : FileTree String}
    (hfixtures : t.node fixturesPath = some .dir) :
    (shell commandCrates tables t cs).node fixturesPath = some .dir ∧
      directories crates (shell commandCrates tables t cs) =
        Cells.run Invocation.id (Invocation.write commandCrates tables) (directories crates t) cs :=
  Cells.view_foldl _ _ (fun t => t.node fixturesPath = some .dir)
    (fun _ c ht => c.fixtures_after tables hread hprint horder hconverts ht)
    (fun _ c ht => (c.run_step tables hread hprint horder hconverts ht).1) cs hfixtures

/-- What is no part of a snapshot is left alone. -/
theorem shell_outside (cs : List (Invocation crates)) {t : FileTree String}
    (hfixtures : t.node fixturesPath = some .dir) {q : FilePath}
    (hq : ∀ id : SnapshotId, ¬ id.directory crates <+: q) :
    (shell commandCrates tables t cs).node q = t.node q := by
  induction cs generalizing t with
  | nil => rfl
  | cons c cs ih =>
    obtain ⟨-, -, houtside⟩ := c.run_step tables hread hprint horder hconverts hfixtures
    have hfixtures' := c.fixtures_after tables hread hprint horder hconverts hfixtures
    exact (ih hfixtures').trans (houtside q hq)

/-- **The last command for a snapshot wins.** After any sequence of commands, its directory is as it
was if no command for it succeeded when its turn came. Otherwise there is a last one that did, and
the directory holds the pool that was live then. -/
theorem shell_cases (cs : List (Invocation crates)) {t : FileTree String}
    (hfixtures : t.node fixturesPath = some .dir) (id : SnapshotId) :
    ((∀ before c after, cs = before ++ c :: after → c.id = some id →
        ¬ (c.run commandCrates tables).Succeeds (shell commandCrates tables t before)) ∧
      (shell commandCrates tables t cs).subtree (id.directory crates) =
        t.subtree (id.directory crates)) ∨
    ∃ c live, LastFor commandCrates tables t cs id c ∧ Live commandCrates c.chain id.key live ∧
      (shell commandCrates tables t cs).subtree (id.directory crates) =
        FileTree.dirOf (AmmTestHarness.poolFiles c.chain live) := by
  have hcells := fun cs =>
    shell_eq tables hread hprint horder hconverts cs hfixtures
  -- whether a command succeeds is seen at its cell
  have hsucceeds : ∀ (cs : List (Invocation crates)) (c : Invocation crates), c.id = some id →
      ((c.run commandCrates tables).Succeeds (shell commandCrates tables t cs) ↔
        (c.write commandCrates tables (Cells.run Invocation.id
          (Invocation.write commandCrates tables) (directories crates t) cs
            (some id))).isSome) := by
    intro cs c hc
    obtain ⟨hthere, hrun⟩ := hcells cs
    obtain ⟨-, hiff, -⟩ := c.run_step tables hread hprint horder hconverts hthere
    rw [hiff, hrun, hc]
  have hdirectory : ∀ cs, (shell commandCrates tables t cs).subtree (id.directory crates) =
      Cells.run Invocation.id (Invocation.write commandCrates tables) (directories crates t) cs
        (some id) := fun cs => congrFun (hcells cs).2 (some id)
  rcases Cells.run_cases Invocation.id (Invocation.write commandCrates tables)
    (directories crates t) cs (some id) with
    ⟨hrefused, hrun⟩ | ⟨before, c, after, rfl, hc, hwritten, hlater⟩
  · left
    refine ⟨?_, (hdirectory cs).trans hrun⟩
    intro before c after hsplit hc
    rw [hsucceeds before c hc, hrefused before c after hsplit hc]
    exact Bool.false_ne_true
  · right
    obtain ⟨live, haccepts, hfiles⟩ := Invocation.write_eq_some.1 hwritten
    obtain ⟨key, hkey, hlive, -⟩ := haccepts
    have hid : c.id = some ⟨key, c.option, c.noSeparator⟩ := by
      rw [Invocation.id, hkey]
      rfl
    obtain rfl := Option.some.inj (hid.symm.trans hc)
    refine ⟨c, live, ⟨before, after, rfl, hc, ?_, ?_⟩, hlive, (hdirectory _).trans hfiles⟩
    · rw [hsucceeds before c hc, hwritten]
      rfl
    · intro mid d rest hsplit hd
      have hrefused := hlater mid d rest hsplit hd
      rw [← Cells.run_append, List.append_assoc, List.singleton_append] at hrefused
      rw [hsucceeds _ d hd, hrefused]
      exact Bool.false_ne_true

/-- **Interleavings agree.** Sequences of commands that are the same, in the same order, for each
snapshot leave the same tree, however the commands for different snapshots are interleaved. -/
theorem shell_congr {cs ds : List (Invocation crates)}
    (h : ∀ id, (cs.filter fun c => c.id = some id) = ds.filter fun c => c.id = some id)
    {t : FileTree String} (hfixtures : t.node fixturesPath = some .dir) :
    shell commandCrates tables t cs = shell commandCrates tables t ds := by
  obtain ⟨-, hcs⟩ := shell_eq tables hread hprint horder hconverts cs hfixtures
  obtain ⟨-, hds⟩ := shell_eq tables hread hprint horder hconverts ds hfixtures
  ext1
  funext q
  by_cases hq : ∃ id : SnapshotId, id.directory crates <+: q
  · obtain ⟨id, q, rfl⟩ := hq
    have hcell : directories crates (shell commandCrates tables t cs) (some id) =
        directories crates (shell commandCrates tables t ds) (some id) := by
      rw [hcs, hds]
      exact Cells.run_congr _ _ (h id) _
    exact congrFun hcell q
  · have hq := not_exists.1 hq
    rw [shell_outside tables hread hprint horder hconverts cs hfixtures hq,
      shell_outside tables hread hprint horder hconverts ds hfixtures hq]

end

end

/-! ## What the readers find -/

section
variable {crates : Crates} (commandCrates : CommandCrates crates)

/-- The readers of a snapshot answer from a chain: the loader with the accounts of the pool, the
others as the node of the chain does, and the pool that is rebuilt and updated is the live one. An
account that is a program is in no snapshot. -/
structure AmmTestHarness.ReadsLive (harness : AmmTestHarness crates) (chain : AccountMap)
    (live : SplTokenSwapAmm crates) (t : FileTree String) : Prop where
  accounts : harness.loadAccountsSnapshot t =
    .ok ((livingAccounts chain).restrict live.snapshotAccounts)
  account : ∀ k ∈ live.snapshotAccounts, ∀ account, livingAccounts chain k = some account →
    harness.getAccountFromSnapshot t k = .ok account
  keyedAccount : ∀ node : RpcNode crates, node.Serves chain →
    (livingAccounts chain harness.key).isSome →
    harness.getKeyedAccountFromSnapshot t = getKeyedAccount node harness.key
  clock : ∀ node : RpcNode crates, node.Serves chain → (livingAccounts chain clockId).isSome →
    harness.getClock commandCrates t = JupiterAmm.getClock commandCrates node
  pool : (livingAccounts chain harness.key).isSome →
    (∀ k ∈ live.getAccountsToUpdate, (livingAccounts chain k).isSome) →
    ∃ keyedAccount made, harness.getKeyedAccountFromSnapshot t = .ok keyedAccount ∧
      ammFactory keyedAccount = .ok made ∧ harness.updateAmmFromSnapshot t made = .ok () live

variable {commandCrates} {chain : AccountMap} {key : Pubkey} {live : SplTokenSwapAmm crates}

/-- The account of a live pool is one of its snapshot. -/
theorem Live.key_mem (hread : crates.ReadsAccountMap) (h : Live commandCrates chain key live) :
    key ∈ live.snapshotAccounts := by
  obtain ⟨account, made, -, hmade, hupdate⟩ := h.pool
  obtain ⟨r, -, rfl⟩ := (SplTokenSwapAmm.update_eq_ok hread).1 hupdate
  rw [ammFactory] at hmade
  split at hmade
  · have hkey := (SplTokenSwapAmm.fromKeyedAccount_eq_ok hmade).1
    simp [SplTokenSwapAmm.snapshotAccounts, SplTokenSwapAmm.ownAccounts, hkey]
  · cases hmade

/-- **The readers find the live pool** in a directory that the command wrote, where the placeholder
was spared. -/
theorem Live.readsLive (hread : crates.ReadsAccountMap) (hprint : crates.PrintsKeys)
    (hencode : crates.EncodesAccounts) (hvalues : crates.EncodesValues)
    (hglob : crates.MatchesGlobs) (h : Live commandCrates chain key live)
    (hspares : live.SparesPlaceholder chain) {harness : AmmTestHarness crates}
    (hkey : harness.key = key) (hplain : harness.PlainOption) {t : FileTree String}
    (hfiles : t.subtree harness.snapshotPath =
      FileTree.dirOf (AmmTestHarness.poolFiles chain live)) :
    harness.ReadsLive commandCrates chain live t := by
  subst hkey
  have hreplaces := FileTree.replacesDir_of_subtree hfiles
  have hload := hplain.loadAccountsSnapshot_eq hprint hencode hglob hreplaces
  have hrestrict := SplTokenSwapAmm.restrict_collectedAccounts_iff.2 hspares
  have hcollected : ∀ k ∈ live.snapshotAccounts,
      (AmmTestHarness.livingAccounts chain).restrict live.collectedAccounts k =
        AmmTestHarness.livingAccounts chain k := by
    intro k hk
    rw [hrestrict]
    exact if_pos hk
  have hkeyed : ∀ account, AmmTestHarness.livingAccounts chain harness.key = some account →
      harness.getKeyedAccountFromSnapshot t =
        .ok { key := harness.key, account, params := none } := by
    intro account haccount
    rw [harness.getKeyedAccountFromSnapshot_eq hprint hencode hvalues hreplaces,
      hcollected _ (h.key_mem hread), haccount]
    rfl
  constructor
  · rw [hload, hrestrict]
  · intro k hk account haccount
    have hpath : FilePath.ofString ("tests/fixtures/accounts/" ++ harness.directoryName ++ "/" ++
        AmmTestHarness.accountFile crates k) =
        harness.snapshotPath ++ [AmmTestHarness.accountFile crates k] := by
      rw [FilePath.ofString_append, AmmTestHarness.ofString_accountFile hprint,
        AmmTestHarness.snapshotPath]
    rw [AmmTestHarness.getAccountFromSnapshot]
    simp only [hpath, hreplaces.readFile, AmmTestHarness.poolFiles,
      AmmTestHarness.snapshotFiles_accountFile hprint, hcollected k hk, haccount, Option.map_some,
      unwrap_some, Outcome.ok_bind, AmmTestHarness.accountText, hencode.fromStr, hencode.decode]
  · intro node hserves hsome
    obtain ⟨account, haccount⟩ := Option.isSome_iff_exists.1 hsome
    have hnode := hserves.getAccount.2 (AmmTestHarness.livingAccounts_eq_some.1 haccount).1
    rw [hkeyed account haccount, AmmTestHarness.getKeyedAccount, hnode]
    rfl
  · intro node hserves hsome
    obtain ⟨account, haccount⟩ := Option.isSome_iff_exists.1 hsome
    obtain ⟨clockAccount, clock, hclockAccount, hclock⟩ := h.clock
    obtain ⟨hchain, -⟩ := AmmTestHarness.livingAccounts_eq_some.1 haccount
    obtain rfl : account = clockAccount := Option.some.inj (hchain.symm.trans hclockAccount)
    have hmem : clockId ∈ live.snapshotAccounts := List.mem_cons_self ..
    have hnode : JupiterAmm.getClock commandCrates node = .ok clock := by
      simp only [JupiterAmm.getClock, hserves.getAccountWithCommitment, hchain, ofExcept_ok,
        Outcome.ok_bind, okOr, hclock]
    rw [hnode, AmmTestHarness.getClock, hload, Outcome.ok_bind, hcollected _ hmem, haccount]
    simp only [hclock]
    rfl
  · intro hsome hvaults
    obtain ⟨account, haccount⟩ := Option.isSome_iff_exists.1 hsome
    obtain ⟨account', made, haccount', hmade, hupdate⟩ := h.pool
    obtain ⟨hchain, -⟩ := AmmTestHarness.livingAccounts_eq_some.1 haccount
    obtain rfl : account = account' := Option.some.inj (hchain.symm.trans haccount')
    refine ⟨_, made, hkeyed account haccount, hmade, ?_⟩
    obtain ⟨r, -, hlive⟩ := (SplTokenSwapAmm.update_eq_ok hread).1 hupdate
    have haccounts : live.getAccountsToUpdate = made.getAccountsToUpdate := by
      rw [hlive]
      rfl
    rw [haccounts] at hvaults
    rw [SplTokenSwapAmm.updateAmmFromSnapshot_eq hread hload, RustM.unwrap_eq_ok]
    · exact hupdate
    · intro k hk
      have hmem : k ∈ live.snapshotAccounts := by
        rw [SplTokenSwapAmm.snapshotAccounts, haccounts]
        simp [hk]
      obtain ⟨vault, hvault⟩ := Option.isSome_iff_exists.1 (hvaults k hk)
      rw [hcollected k hmem, hvault, (AmmTestHarness.livingAccounts_eq_some.1 hvault).1]

/-- **A directory holds the live pool of the last command for it.** After any sequence of commands,
a snapshot's directory is as it was if no command for it succeeded when its turn came. Otherwise
there is a last one that did, and where its placeholder was spared, every reader of the snapshot
answers from the chain that command saw, whatever commands for other snapshots came between or
later. -/
theorem reads_lastSnapshot (hread : crates.ReadsAccountMap) (hprint : crates.PrintsKeys)
    (hencode : crates.EncodesAccounts) (hvalues : crates.EncodesValues)
    (horder : crates.OrdersHashSets) (hglob : crates.MatchesGlobs)
    (hconverts : commandCrates.ConvertsAccounts) (tables : TokenTables)
    (cs : List (Invocation crates)) {t : FileTree String}
    (hfixtures : t.node fixturesPath = some .dir) (id : SnapshotId)
    (hplain : (id.harness crates).PlainOption) :
    ((∀ before c after, cs = before ++ c :: after → c.id = some id →
        ¬ (c.run commandCrates tables).Succeeds (shell commandCrates tables t before)) ∧
      (shell commandCrates tables t cs).subtree (id.directory crates) =
        t.subtree (id.directory crates)) ∨
    ∃ c live, LastFor commandCrates tables t cs id c ∧ Live commandCrates c.chain id.key live ∧
      (live.SparesPlaceholder c.chain → ∀ harness : AmmTestHarness crates,
        harness.key = id.key → harness.option = id.option →
          harness.ReadsLive commandCrates c.chain live (shell commandCrates tables t cs)) := by
  refine (shell_cases tables hread hprint horder hconverts cs hfixtures id).imp_right ?_
  rintro ⟨c, live, hlast, hlive, hfiles⟩
  refine ⟨c, live, hlast, hlive, fun hspares harness hkey hoption => ?_⟩
  have hpath : harness.snapshotPath = id.directory crates := by
    rw [AmmTestHarness.snapshotPath, AmmTestHarness.directoryName, hkey, hoption]
    rfl
  have hplain : harness.PlainOption := fun text htext => hplain text (hoption.symm.trans htext)
  apply hlive.readsLive hread hprint hencode hvalues hglob hspares hkey hplain
  rw [hpath, hfiles]

end

section
open Reference

/-- A snapshot of the example pool. -/
def poolSnapshot (option : Option String)
    (noSeparator : ∀ text, option = some text → '/' ∉ text.toList) : SnapshotId :=
  ⟨poolKeyedAccount.key, option, noSeparator⟩

/-- The command that takes it. -/
def poolInvocation (crates : Crates) (option : Option String)
    (noSeparator : ∀ text, option = some text → '/' ∉ text.toList) : Invocation crates where
  rpcUrl := "http://localhost:8899"
  ammId := crates.pubkeyToString poolKeyedAccount.key
  option
  force := false
  network _ := .ofChain crates clockChain
  chain := clockChain
  serves := RpcNode.serves_ofChain _ _
  noSeparator

/-- The command on a chain without the pool. -/
def emptyInvocation (crates : Crates) : Invocation crates where
  toCli := (poolInvocation crates none nofun).toCli
  network _ := .ofChain crates HashMap.empty
  chain := HashMap.empty
  serves := RpcNode.serves_ofChain _ _
  noSeparator := nofun

/-- A command for the example pool, one for another snapshot of it, and one that fails. -/
def poolInvocations (crates : Crates) : List (Invocation crates) :=
  [poolInvocation crates none nofun, poolInvocation crates (some "v2") (by decide),
    emptyInvocation crates]

theorem id_poolInvocation {crates : Crates} (hprint : crates.PrintsKeys) (option : Option String)
    (noSeparator : ∀ text, option = some text → '/' ∉ text.toList) :
    (poolInvocation crates option noSeparator).id = some (poolSnapshot option noSeparator) := by
  have hkey : crates.pubkeyFromStr (poolInvocation crates option noSeparator).ammId =
      some poolKeyedAccount.key := hprint.fromStr _
  rw [Invocation.id, hkey]
  rfl

/-- The pool is live only for the commands on the example chain. -/
theorem chain_poolInvocations {crates : Crates} {commandCrates : CommandCrates crates}
    {c : Invocation crates} (hc : c ∈ poolInvocations crates) {live : SplTokenSwapAmm crates}
    (hlive : Live commandCrates c.chain poolKeyedAccount.key live) : c.chain = clockChain := by
  simp only [poolInvocations, List.mem_cons, List.not_mem_nil, or_false] at hc
  rcases hc with rfl | rfl | rfl
  · rfl
  · rfl
  · obtain ⟨account, made, haccount, -⟩ := hlive.pool
    cases haccount

theorem node_fixturesPath : AmmTestHarness.fixtures.node fixturesPath = some .dir :=
  AmmTestHarness.node_accounts_fixtures

/-- There is no snapshot among the example fixtures. -/
theorem node_directory_fixtures {crates : Crates} (hprint : crates.PrintsKeys) (id : SnapshotId)
    (q : FilePath) : AmmTestHarness.fixtures.node (id.directory crates ++ q) = none := by
  apply AmmTestHarness.node_fixtures
  rw [id.directory_eq hprint, List.length_append]
  exact Nat.le_add_right 4 _

/-- A first command for the example pool is accepted. -/
theorem accepts_poolInvocation {crates : Crates} {commandCrates : CommandCrates crates}
    (hprint : crates.PrintsKeys) {live : SplTokenSwapAmm crates}
    (hlive : Live commandCrates clockChain poolKeyedAccount.key live)
    (hamounts : live.HasAmounts tokenTables) :
    (poolInvocation crates none nofun).Accepts commandCrates tokenTables
      (AmmTestHarness.fixtures.subtree ((poolSnapshot none nofun).directory crates)) live :=
  ⟨_, hprint.fromStr _, hlive, hamounts,
    node_directory_fixtures hprint (poolSnapshot none nofun) []⟩

/-- A first command for the example pool succeeds. -/
theorem succeeds_poolInvocation :
    ((poolInvocation referenceCrates none nofun).run referenceCommandCrates tokenTables).Succeeds
      AmmTestHarness.fixtures :=
  ((accepts_poolInvocation printsKeys_referenceCrates live_pool hasAmounts_pool).succeeds
    tokenTables readsAccountMap printsKeys_referenceCrates ordersHashSets_referenceCrates
    convertsAccounts_referenceCommandCrates node_fixturesPath
    (id_poolInvocation printsKeys_referenceCrates none nofun)).1

/-- A snapshot of the example pool is read back after a command for another snapshot and one that
failed. -/
theorem reads_lastSnapshot_pool :
    ((poolSnapshot none nofun).harness referenceCrates).ReadsLive referenceCommandCrates clockChain
      (pool.withReserves (balanceA, balanceB))
      (shell referenceCommandCrates tokenTables AmmTestHarness.fixtures
        (poolInvocations referenceCrates)) := by
  have hplain : ((poolSnapshot none nofun).harness referenceCrates).PlainOption := nofun
  rcases reads_lastSnapshot readsAccountMap printsKeys_referenceCrates
    encodesAccounts_referenceCrates encodesValues_referenceCrates ordersHashSets_referenceCrates
    matchesGlobs_referenceCrates convertsAccounts_referenceCommandCrates tokenTables
    (poolInvocations referenceCrates) node_fixturesPath (poolSnapshot none nofun) hplain with
    ⟨hfails, -⟩ | ⟨c, live, hlast, hlive, hreads⟩
  · exact absurd succeeds_poolInvocation
      (hfails [] _ _ rfl (id_poolInvocation printsKeys_referenceCrates none nofun))
  · have hchain := chain_poolInvocations hlast.mem hlive
    rw [hchain] at hlive hreads
    obtain rfl := hlive.unique live_pool
    exact hreads sparesPlaceholder_pool _ rfl rfl

/-- Commands for two snapshots of the example pool may be run in either order. -/
theorem shell_congr_pool :
    shell referenceCommandCrates tokenTables AmmTestHarness.fixtures
        [poolInvocation referenceCrates none nofun,
          poolInvocation referenceCrates (some "v2") (by decide)] =
      shell referenceCommandCrates tokenTables AmmTestHarness.fixtures
        [poolInvocation referenceCrates (some "v2") (by decide),
          poolInvocation referenceCrates none nofun] := by
  apply shell_congr tokenTables readsAccountMap printsKeys_referenceCrates
    ordersHashSets_referenceCrates convertsAccounts_referenceCommandCrates _ node_fixturesPath
  intro id
  have hne : poolSnapshot none nofun ≠ poolSnapshot (some "v2") (by decide) := fun h => by
    cases congrArg SnapshotId.option h
  by_cases hid : id = poolSnapshot none nofun
  · subst hid
    simp [id_poolInvocation printsKeys_referenceCrates, hne.symm]
  · by_cases hid' : id = poolSnapshot (some "v2") (by decide)
    · subst hid'
      simp [id_poolInvocation printsKeys_referenceCrates, hne]
    · simp [id_poolInvocation printsKeys_referenceCrates, Ne.symm hid, Ne.symm hid']

end

end JupiterAmm
