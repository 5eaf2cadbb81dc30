import JupiterAmm.Rust.Collections
import Mathlib.Data.Finset.Sort
import Mathlib.Data.String.Basic

/-!
# A tree of files

A file system below its working directory, as the function from paths to what is there. Every entry
lies in a directory, and this is a field of the structure, so a tree with a dangling file cannot be
built. Each operation has a lemma that says when it succeeds and what the tree holds then
(`createDir_eq_some`, `writeFile_eq_some`, `removeDirAll_eq_some`). `ReplacesDir` relates a tree to
the one in which a directory was thrown away and filled anew, and a directory just created and then
filled file by file is such a tree (`ReplacesDir.writeFiles`). A path is read by its names alone:
`..` is not followed and there are no links.
-/

open Rust

/-- A path: the names that lead to an entry. -/
abbrev FilePath := List String

/-- The components of a path text: what stands between its slashes, less empty names and `.`. A
component is a plain name: `..` is not resolved, so the texts are ones without it. -/
def FilePath.ofString (s : String) : FilePath :=
  ((s.toList.splitOn '/').map String.ofList).filter fun name => name ≠ "" ∧ name ≠ "."

/-- A slash separates components. -/
theorem FilePath.ofString_append (s u : String) :
    FilePath.ofString (s ++ "/" ++ u) = FilePath.ofString s ++ FilePath.ofString u := by
  have hlist : (s ++ "/" ++ u).toList = s.toList ++ '/' :: u.toList := by
    rw [String.toList_append, String.toList_append, List.append_assoc]
    rfl
  simp only [FilePath.ofString, hlist, List.splitOn_append_cons_self, List.map_append,
    List.filter_append]

/-- A name without a slash is one component. -/
theorem FilePath.ofString_name {s : String} (hslash : '/' ∉ s.toList) (hne : s ≠ "")
    (hdot : s ≠ ".") : FilePath.ofString s = [s] := by
  rw [FilePath.ofString, List.splitOn_eq_singleton hslash, List.map_singleton, String.ofList_toList,
    List.filter_singleton, decide_eq_true ⟨hne, hdot⟩, cond_true]

namespace FileTree

/-- What a path leads to. -/
inductive Node (β : Type) where
  | dir
  | file (content : β)
  deriving DecidableEq

end FileTree

/-- A tree of files with contents in `β`. -/
structure FileTree (β : Type) where
  node : HashMap FilePath (FileTree.Node β)
  paths : Finset FilePath
  mem_paths : ∀ p, p ∈ paths ↔ (node p).isSome
  root : node [] = some .dir
  parent : ∀ p name, (node (p ++ [name])).isSome → node p = some .dir

namespace FileTree

variable {β : Type}

@[ext] theorem ext {t t' : FileTree β} (h : t.node = t'.node) : t = t' := by
  rcases t with ⟨node, paths, hpaths, hroot, hparent⟩
  rcases t' with ⟨node', paths', hpaths', hroot', hparent'⟩
  obtain rfl : node = node' := h
  obtain rfl : paths = paths' := by
    ext p
    rw [hpaths, hpaths']
  rfl

/-- The tree with nothing in it. -/
def empty : FileTree β where
  node p := if p = [] then some .dir else none
  paths := {[]}
  mem_paths p := by
    by_cases h : p = [] <;> simp [h]
  root := rfl
  parent p name h := by simp at h

/-- There is a directory at the path. -/
def isDir (t : FileTree β) (p : FilePath) : Bool :=
  match t.node p with
  | some .dir => true
  | _ => false

@[simp] theorem isDir_iff {t : FileTree β} {p : FilePath} : t.isDir p ↔ t.node p = some .dir := by
  unfold isDir
  split
  · next h => simp [h]
  · next h => simpa using h

/-! ## Changing one entry -/

/-- Put a leaf at a path whose parent is a directory, over anything but a directory. -/
def insert (t : FileTree β) (p : FilePath) (n : Node β) (hp : t.node p ≠ some .dir)
    (hdir : t.node p.dropLast = some .dir) : FileTree β where
  node := t.node.insert p n
  paths := Insert.insert p t.paths
  mem_paths q := by
    rw [Finset.mem_insert, t.mem_paths, HashMap.insert]
    by_cases h : q = p <;> simp [h]
  root := by
    have hne : ([] : FilePath) ≠ p := by
      rintro rfl
      exact hp t.root
    rw [HashMap.insert_of_ne _ _ hne, t.root]
  parent q name h := by
    have hq : t.node q = some .dir := by
      by_cases heq : q ++ [name] = p
      · rw [← heq, List.dropLast_concat] at hdir
        exact hdir
      · rw [HashMap.insert_of_ne _ _ heq] at h
        exact t.parent q name h
    have hne : q ≠ p := by
      rintro rfl
      exact hp hq
    rw [HashMap.insert_of_ne _ _ hne, hq]

/-- Take an entry away, with all that lies below it. -/
def remove (t : FileTree β) (p : FilePath) (hp : p ≠ []) : FileTree β where
  node q := if p <+: q then none else t.node q
  paths := t.paths.filter fun q => ¬ p <+: q
  mem_paths q := by
    rw [Finset.mem_filter, t.mem_paths]
    by_cases h : p <+: q <;> simp [h]
  root := by
    rw [if_neg (by rw [List.prefix_nil]; exact hp), t.root]
  parent q name h := by
    split at h
    · cases h
    · next hq =>
      rw [if_neg fun hbelow => hq (hbelow.trans (List.prefix_append q [name]))]
      exact t.parent q name h

/-! ## The operations -/

/-- `Path::exists`. -/
def exists? (t : FileTree β) (p : FilePath) : Bool := (t.node p).isSome

/-- `File::open` and reading the file to its end. -/
def readFile (t : FileTree β) (p : FilePath) : Option β :=
  match t.node p with
  | some (.file b) => some b
  | _ => none

/-- `create_dir`: the path must be free and its parent a directory. -/
def createDir (t : FileTree β) (p : FilePath) : Option (FileTree β) :=
  if h : (t.node p).isNone ∧ t.isDir p.dropLast then
    some (t.insert p .dir (by rw [Option.isNone_iff_eq_none.1 h.1]; exact nofun) (isDir_iff.1 h.2))
  else
    none

/-- `File::create` and writing the whole file: a file there before is overwritten. -/
def writeFile (t : FileTree β) (p : FilePath) (b : β) : Option (FileTree β) :=
  if h : ¬ t.isDir p ∧ t.isDir p.dropLast then
    some (t.insert p (.file b) (mt isDir_iff.2 h.1) (isDir_iff.1 h.2))
  else
    none

/-- `remove_dir_all`: the path must be a directory. -/
def removeDirAll (t : FileTree β) (p : FilePath) : Option (FileTree β) :=
  if h : t.isDir p ∧ p ≠ [] then some (t.remove p h.2) else none

/-- `read_dir`: the names in a directory, in order. -/
def names (t : FileTree β) (p : FilePath) : List String :=
  ((t.paths.filter fun q => q ≠ [] ∧ q.dropLast = p).image fun q => q.getLastD "").sort

/-! ## What the operations do -/

theorem createDir_eq_some {t t' : FileTree β} {p : FilePath} :
    t.createDir p = some t' ↔
      t.node p = none ∧ t.node p.dropLast = some .dir ∧ t'.node = t.node.insert p .dir := by
  unfold createDir
  rw [← isDir_iff, ← Option.isNone_iff_eq_none, ← and_assoc]
  split
  · next h =>
    rw [Option.some.injEq]
    exact ⟨fun h' => ⟨h, by rw [← h']; rfl⟩, fun h' => ext h'.2.symm⟩
  · next h =>
    constructor
    · intro h'
      cases h'
    · intro h'
      exact absurd h'.1 h

theorem writeFile_eq_some {t t' : FileTree β} {p : FilePath} {b : β} :
    t.writeFile p b = some t' ↔
      t.node p ≠ some .dir ∧ t.node p.dropLast = some .dir ∧
        t'.node = t.node.insert p (.file b) := by
  unfold writeFile
  rw [Ne, ← isDir_iff, ← isDir_iff, ← and_assoc]
  split
  · next h =>
    rw [Option.some.injEq]
    exact ⟨fun h' => ⟨h, by rw [← h']; rfl⟩, fun h' => ext h'.2.symm⟩
  · next h =>
    constructor
    · intro h'
      cases h'
    · intro h'
      exact absurd h'.1 h

theorem removeDirAll_eq_some {t t' : FileTree β} {p : FilePath} :
    t.removeDirAll p = some t' ↔
      t.node p = some .dir ∧ p ≠ [] ∧ t'.node = fun q => if p <+: q then none else t.node q := by
  unfold removeDirAll
  rw [← isDir_iff, ← and_assoc]
  split
  · next h =>
    rw [Option.some.injEq]
    exact ⟨fun h' => ⟨h, by rw [← h']; rfl⟩, fun h' => ext h'.2.symm⟩
  · next h =>
    constructor
    · intro h'
      cases h'
    · intro h'
      exact absurd h'.1 h

theorem isSome_createDir {t : FileTree β} {p : FilePath} :
    (t.createDir p).isSome ↔ t.node p = none ∧ t.node p.dropLast = some .dir := by
  unfold createDir
  rw [← isDir_iff, ← Option.isNone_iff_eq_none]
  split
  · next h => exact ⟨fun _ => h, fun _ => rfl⟩
  · next h =>
    constructor
    · intro h'
      cases h'
    · intro h'
      exact absurd h' h

theorem isSome_removeDirAll {t : FileTree β} {p : FilePath} :
    (t.removeDirAll p).isSome ↔ t.node p = some .dir ∧ p ≠ [] := by
  unfold removeDirAll
  rw [← isDir_iff]
  split
  · next h => exact ⟨fun _ => h, fun _ => rfl⟩
  · next h =>
    constructor
    · intro h'
      cases h'
    · intro h'
      exact absurd h' h

/-- The names in a directory are those of its entries. -/
theorem mem_names {t : FileTree β} {p : FilePath} {name : String} :
    name ∈ t.names p ↔ (t.node (p ++ [name])).isSome := by
  unfold names
  rw [Finset.mem_sort, Finset.mem_image]
  constructor
  · rintro ⟨q, hq, hname⟩
    rw [Finset.mem_filter, t.mem_paths] at hq
    obtain ⟨hsome, hne, hdrop⟩ := hq
    rw [List.getLastD_eq_getLast?, List.getLast?_eq_some_getLast hne, Option.getD_some] at hname
    rw [← hdrop, ← hname, List.dropLast_append_getLast hne]
    exact hsome
  · intro h
    refine ⟨p ++ [name], ?_, by simp⟩
    rw [Finset.mem_filter, t.mem_paths]
    exact ⟨h, by simp, by simp⟩

/-- Nothing lies below a path that is not a directory. -/
theorem node_append_of_ne_dir (t : FileTree β) {p : FilePath} (hp : t.node p ≠ some .dir) :
    ∀ {q : FilePath}, q ≠ [] → t.node (p ++ q) = none := by
  intro q
  induction q using List.reverseRecOn with
  | nil => exact fun h => absurd rfl h
  | append_singleton q name ih =>
    intro _
    rw [← List.append_assoc]
    by_contra hne
    have hparent := t.parent (p ++ q) name (Option.isSome_iff_ne_none.2 hne)
    rcases eq_or_ne q [] with rfl | hq
    · rw [List.append_nil] at hparent
      exact hp hparent
    · rw [ih hq] at hparent
      cases hparent

/-- What lies on the way to an entry is there. -/
theorem isSome_of_append (t : FileTree β) {p q : FilePath} (h : (t.node (p ++ q)).isSome) :
    (t.node p).isSome := by
  rcases eq_or_ne q [] with rfl | hq
  · rwa [List.append_nil] at h
  · by_contra hnone
    have hdir : t.node p ≠ some .dir := by
      intro hdir
      rw [hdir] at hnone
      exact hnone rfl
    rw [t.node_append_of_ne_dir hdir hq] at h
    cases h

/-- A directory whose entries are there in two trees alike lists the same names, as far as a test
lets through. -/
theorem filter_names_congr {t t' : FileTree β} {p : FilePath} {test : String → Bool}
    (h : ∀ name, test name → ((t'.node (p ++ [name])).isSome ↔ (t.node (p ++ [name])).isSome)) :
    (t'.names p).filter test = (t.names p).filter test := by
  apply List.Pairwise.eq_of_mem_iff (r := (· < ·))
  · exact (Finset.sortedLT_sort _).pairwise.filter _
  · exact (Finset.sortedLT_sort _).pairwise.filter _
  · intro name
    rw [List.mem_filter, List.mem_filter, mem_names, mem_names]
    exact and_congr_left (h name)

/-! ## Filling a directory -/

/-- Write files into a directory, one after the other. -/
def writeFiles (t : FileTree β) (dir : FilePath) : List (String × β) → Option (FileTree β)
  | [] => some t
  | (name, b) :: files => (t.writeFile (dir ++ [name]) b).bind fun t' => t'.writeFiles dir files

/-- The tree `t'` is the tree `t` with a directory thrown away, if it was there, and made anew with
exactly the given files in it. -/
structure ReplacesDir (t t' : FileTree β) (dir : FilePath) (files : HashMap String β) : Prop where
  outside : ∀ q, ¬ dir <+: q → t'.node q = t.node q
  top : t'.node dir = some .dir
  files : ∀ name, t'.node (dir ++ [name]) = (files name).map .file
  below : ∀ q, 2 ≤ q.length → t'.node (dir ++ q) = none

/-- The replaced tree is determined by the files. -/
theorem ReplacesDir.unique {t t₁ t₂ : FileTree β} {dir : FilePath} {files : HashMap String β}
    (h₁ : t.ReplacesDir t₁ dir files) (h₂ : t.ReplacesDir t₂ dir files) : t₁ = t₂ := by
  ext1
  funext q
  by_cases hq : dir <+: q
  · obtain ⟨r, rfl⟩ := hq
    match r with
    | [] => rw [List.append_nil, h₁.top, h₂.top]
    | [name] => rw [h₁.files, h₂.files]
    | a :: b :: r => rw [h₁.below _ (by simp), h₂.below _ (by simp)]
  · rw [h₁.outside q hq, h₂.outside q hq]

section
variable {t t' : FileTree β} {dir : FilePath} {files : HashMap String β}

/-- Reading a file of a replaced directory. -/
theorem ReplacesDir.readFile (h : t.ReplacesDir t' dir files) (name : String) :
    t'.readFile (dir ++ [name]) = files name := by
  rw [FileTree.readFile, h.files]
  cases files name <;> rfl

/-- Whether a replaced directory has a file. -/
theorem ReplacesDir.exists? (h : t.ReplacesDir t' dir files) (name : String) :
    t'.exists? (dir ++ [name]) = (files name).isSome := by
  rw [FileTree.exists?, h.files, Option.isSome_map]

end

/-- A directory replaced twice is replaced by its second content. -/
theorem ReplacesDir.trans {t t₁ t₂ : FileTree β} {dir : FilePath} {files files' : HashMap String β}
    (h₁ : t.ReplacesDir t₁ dir files) (h₂ : t₁.ReplacesDir t₂ dir files') :
    t.ReplacesDir t₂ dir files' where
  outside q hq := (h₂.outside q hq).trans (h₁.outside q hq)
  top := h₂.top
  files := h₂.files
  below := h₂.below

/-- A directory that was replaced is as it was exactly where it already held the new files. -/
theorem ReplacesDir.same_iff {t t' : FileTree β} {dir : FilePath} {files : HashMap String β}
    (h : t.ReplacesDir t' dir files) :
    (∀ q, dir <+: q → t'.node q = t.node q) ↔ t.ReplacesDir t dir files := by
  constructor
  · intro hsame
    constructor
    · intro q hq
      rfl
    · rw [← hsame dir (List.prefix_refl _), h.top]
    · intro name
      rw [← hsame _ (List.prefix_append _ _), h.files]
    · intro q hq
      rw [← hsame _ (List.prefix_append _ _), h.below q hq]
  · intro hself q hq
    rw [h.unique hself]

/-- Files written into a directory of a replaced tree are added to it. -/
theorem ReplacesDir.writeFiles {t t₁ : FileTree β} {dir : FilePath} {old : HashMap String β}
    (h : t.ReplacesDir t₁ dir old) (files : List (String × β)) :
    ∃ t₂, t₁.writeFiles dir files = some t₂ ∧ t.ReplacesDir t₂ dir (old.insertAll files) := by
  induction files generalizing t₁ old with
  | nil => exact ⟨t₁, rfl, h⟩
  | cons f files ih =>
    obtain ⟨name, b⟩ := f
    have hleaf : t₁.node (dir ++ [name]) ≠ some .dir := by
      rw [h.files]
      cases old name <;> exact nofun
    obtain ⟨t', ht'⟩ : ∃ t', t₁.writeFile (dir ++ [name]) b = some t' := by
      refine ⟨t₁.insert (dir ++ [name]) (.file b) hleaf ?_, writeFile_eq_some.2 ⟨hleaf, ?_, rfl⟩⟩
      · rw [List.dropLast_concat, h.top]
      · rw [List.dropLast_concat, h.top]
    obtain ⟨-, -, hnode⟩ := writeFile_eq_some.1 ht'
    have hreplaces : t.ReplacesDir t' dir (old.insert name b) := by
      constructor
      · intro q hq
        have hne : q ≠ dir ++ [name] := by
          rintro rfl
          exact hq (List.prefix_append _ _)
        rw [hnode, HashMap.insert_of_ne _ _ hne, h.outside q hq]
      · rw [hnode, HashMap.insert_of_ne _ _ (by simp), h.top]
      · intro name'
        rw [hnode]
        by_cases hname : name' = name
        · subst hname
          rw [HashMap.insert_self, HashMap.insert_self, Option.map_some]
        · rw [HashMap.insert_of_ne _ _ (by simpa using hname), HashMap.insert_of_ne _ _ hname,
            h.files]
      · intro q hq
        have hne : dir ++ q ≠ dir ++ [name] := by
          intro heq
          rw [List.append_cancel_left heq] at hq
          simp at hq
        rw [hnode, HashMap.insert_of_ne _ _ hne, h.below q hq]
    obtain ⟨t₂, ht₂, hfinal⟩ := ih hreplaces
    refine ⟨t₂, ?_, hfinal⟩
    rw [FileTree.writeFiles, ht']
    exact ht₂

/-- A directory just created is empty. -/
theorem replacesDir_of_createDir {t t' : FileTree β} {dir : FilePath}
    (h : t.createDir dir = some t') : t.ReplacesDir t' dir HashMap.empty := by
  obtain ⟨hnone, -, hnode⟩ := createDir_eq_some.1 h
  have hne : t.node dir ≠ some .dir := by
    rw [hnone]
    exact nofun
  constructor
  · intro q hq
    have hqne : q ≠ dir := by
      rintro rfl
      exact hq (List.prefix_refl _)
    rw [hnode, HashMap.insert_of_ne _ _ hqne]
  · rw [hnode, HashMap.insert_self]
  · intro name
    rw [hnode, HashMap.insert_of_ne _ _ (by simp), t.node_append_of_ne_dir hne (by simp)]
    rfl
  · intro q hq
    have hq : q ≠ [] := by
      rintro rfl
      simp at hq
    rw [hnode, HashMap.insert_of_ne _ _ (by simpa using hq), t.node_append_of_ne_dir hne hq]

/-- Where a directory can be made, it can be made with any files. -/
theorem exists_replacesDir {t : FileTree β} {dir : FilePath} (hnone : t.node dir = none)
    (hparent : t.node dir.dropLast = some .dir) (files : List (String × β)) :
    ∃ t', t.ReplacesDir t' dir (.ofList files) := by
  obtain ⟨t₁, hcreate⟩ := Option.isSome_iff_exists.1 (isSome_createDir.2 ⟨hnone, hparent⟩)
  obtain ⟨t₂, -, hfiles⟩ := (replacesDir_of_createDir hcreate).writeFiles files
  exact ⟨t₂, hfiles⟩

/-- A directory that was removed can be created again, and is empty then. -/
theorem replacesDir_of_removeDirAll {t t₀ : FileTree β} {dir : FilePath}
    (h : t.removeDirAll dir = some t₀) :
    ∃ t₁, t₀.createDir dir = some t₁ ∧ t.ReplacesDir t₁ dir HashMap.empty := by
  obtain ⟨hdir, hne, hnode⟩ := removeDirAll_eq_some.1 h
  have hnone : t₀.node dir = none := by
    rw [hnode]
    exact if_pos (List.prefix_refl _)
  have hparent : t₀.node dir.dropLast = some .dir := by
    have hnot : ¬ dir <+: dir.dropLast := by
      intro hbelow
      have := hbelow.length_le
      have := List.length_pos_iff.2 hne
      rw [List.length_dropLast] at *
      omega
    rw [hnode]
    show (if dir <+: dir.dropLast then none else t.node dir.dropLast) = _
    rw [if_neg hnot]
    apply t.parent _ (dir.getLast hne)
    rw [List.dropLast_append_getLast hne, hdir]
    rfl
  have hne' : t₀.node dir ≠ some .dir := by
    rw [hnone]
    exact nofun
  obtain ⟨t₁, ht₁⟩ : ∃ t₁, t₀.createDir dir = some t₁ :=
    ⟨t₀.insert dir .dir hne' hparent, createDir_eq_some.2 ⟨hnone, hparent, rfl⟩⟩
  have hreplaces := replacesDir_of_createDir ht₁
  refine ⟨t₁, ht₁, ?_, hreplaces.top, hreplaces.files, hreplaces.below⟩
  intro q hq
  rw [hreplaces.outside q hq, hnode]
  exact if_neg hq

/-! ## Directories by themselves -/

/-- What lies at a path and below it, under the paths from there. -/
def subtree (t : FileTree β) (dir : FilePath) : HashMap FilePath (Node β) :=
  fun q => t.node (dir ++ q)

/-- A directory with exactly the given files in it. -/
def dirOf (files : HashMap String β) : HashMap FilePath (Node β)
  | [] => some .dir
  | [name] => (files name).map .file
  | _ :: _ :: _ => none

/-- A replaced directory has its new files. -/
theorem ReplacesDir.subtree_eq {t t' : FileTree β} {dir : FilePath} {files : HashMap String β}
    (h : t.ReplacesDir t' dir files) : t'.subtree dir = dirOf files := by
  funext q
  match q with
  | [] => exact (congrArg t'.node (List.append_nil dir)).trans h.top
  | [name] => exact h.files name
  | a :: b :: q => exact h.below (a :: b :: q) (by simp)

/-- A directory with exactly the given files was replaced by them. -/
theorem replacesDir_of_subtree {t : FileTree β} {dir : FilePath} {files : HashMap String β}
    (h : t.subtree dir = dirOf files) : t.ReplacesDir t dir files where
  outside q hq := rfl
  top := (congrArg t.node (List.append_nil dir)).symm.trans (congrFun h [])
  files name := congrFun h [name]
  below q hq := by
    match q with
    | a :: b :: q => exact congrFun h (a :: b :: q)

/-- Another directory of the same depth is left alone. -/
theorem ReplacesDir.subtree_of_ne {t t' : FileTree β} {dir dir' : FilePath}
    {files : HashMap String β} (h : t.ReplacesDir t' dir files)
    (hlength : dir.length = dir'.length) (hne : dir ≠ dir') :
    t'.subtree dir' = t.subtree dir' := by
  funext q
  apply h.outside
  intro hbelow
  have hinside := List.prefix_of_prefix_length_le hbelow (List.prefix_append dir' q) hlength.le
  exact hne (hinside.eq_of_length hlength)

end FileTree
