import JupiterAmm.FileTree

/-!
# Glob patterns

The patterns of the `glob` crate: `?` stands for one character, `*` for any number of them, `[…]`
for one of a class and `[!…]` for one outside it. A pattern is split at its slashes, and each
component is matched against the names of a directory, in their order, so a pattern lists the paths
that are there and whose names its components match, one by one (`mem_glob`). A component without
any of these characters matches only itself, and no other component does (`matchesName_self_iff`).
What happens in a directory whose path the pattern does not match is not seen (`glob_congr`). A
component `**`, which descends, is not covered.
-/

namespace Glob

/-! ## Patterns -/

/-- One member of a character class. -/
inductive CharSpecifier where
  | single (c : Char)
  | range (first last : Char)
  deriving DecidableEq

/-- A token of a pattern. -/
inductive Token where
  | char (c : Char)
  | anyChar
  | anySequence
  | anyWithin (class_ : List CharSpecifier)
  | anyExcept (class_ : List CharSpecifier)
  deriving DecidableEq

/-- The members of a character class. -/
def parseCharSpecifiers : List Char → List CharSpecifier
  | first :: '-' :: last :: rest => .range first last :: parseCharSpecifiers rest
  | c :: rest => .single c :: parseCharSpecifiers rest
  | [] => []

/-- The members of a class that starts with `c`, and what follows its closing bracket. -/
def parseClass (c : Char) (cs : List Char) : Option (List CharSpecifier × List Char) :=
  match cs.dropWhile (· ≠ ']') with
  | [] => none
  | _ :: rest => some (parseCharSpecifiers (c :: cs.takeWhile (· ≠ ']')), rest)

/-- The tokens of a component, read with fuel for its characters. -/
def parseTokens : Nat → List Char → Option (List Token)
  | _, [] => some []
  | 0, _ :: _ => none
  | n + 1, '?' :: cs => (parseTokens n cs).map (.anyChar :: ·)
  | _ + 1, '*' :: '*' :: _ => none
  | n + 1, '*' :: cs => (parseTokens n cs).map (.anySequence :: ·)
  | n + 1, '[' :: '!' :: c :: cs => do
    let (class_, rest) ← parseClass c cs
    let tokens ← parseTokens n rest
    pure (.anyExcept class_ :: tokens)
  | _ + 1, ['[', '!'] => none
  | n + 1, '[' :: c :: cs => do
    let (class_, rest) ← parseClass c cs
    let tokens ← parseTokens n rest
    pure (.anyWithin class_ :: tokens)
  | _ + 1, ['['] => none
  | n + 1, c :: cs => (parseTokens n cs).map (.char c :: ·)

/-- The tokens of a component, or nothing where it is not a pattern. -/
def parseComponent (component : String) : Option (List Token) :=
  parseTokens component.toList.length component.toList

/-! ## Matching -/

/-- The character is in the class. -/
def CharSpecifier.mem (c : Char) : CharSpecifier → Bool
  | .single d => c == d
  | .range first last => first ≤ c && c ≤ last

/-- The characters match the tokens. -/
def matchTokens : List Token → List Char → Bool
  | [], cs => cs.isEmpty
  | .anySequence :: ts, cs => cs.tails.any (matchTokens ts)
  | .char d :: ts, c :: cs => c == d && matchTokens ts cs
  | .anyChar :: ts, _ :: cs => matchTokens ts cs
  | .anyWithin class_ :: ts, c :: cs => class_.any (CharSpecifier.mem c) && matchTokens ts cs
  | .anyExcept class_ :: ts, c :: cs => !class_.any (CharSpecifier.mem c) && matchTokens ts cs
  | _ :: _, [] => false

/-- The paths below `base` whose names match the components, in the order of the names. -/
def walk {β : Type} (t : FileTree β) : FilePath → List (List Token) → List FilePath
  | base, [] => [base]
  | base, component :: components =>
    ((t.names base).filter fun name => matchTokens component name.toList).flatMap fun name =>
      walk t (base ++ [name]) components

/-- `glob`: the paths of the tree that match a pattern, or nothing where it is not one. -/
def glob {β : Type} (t : FileTree β) (pattern : String) : Option (List FilePath) :=
  ((FilePath.ofString pattern).mapM parseComponent).map (walk t [])

/-- A component matches a name: it is a pattern, and its tokens match the characters. -/
def matchesName (component name : String) : Bool :=
  (parseComponent component).any fun tokens => matchTokens tokens name.toList

theorem matchesName_of_parse {component name : String} {tokens : List Token}
    (h : parseComponent component = some tokens) :
    matchesName component name ↔ matchTokens tokens name.toList := by
  rw [matchesName, h, Option.any_some]

/-! ## What a pattern lists -/

section
variable {β : Type}

/-- The components of a pattern are parsed one by one. -/
theorem mapM_parseComponent {components : List String} {parsed : List (List Token)} :
    components.mapM parseComponent = some parsed ↔
      List.Forall₂ (fun component tokens => parseComponent component = some tokens)
        components parsed := by
  induction components generalizing parsed with
  | nil => simp [eq_comm]
  | cons component components ih =>
    rw [List.mapM_cons, List.forall₂_cons_left_iff]
    simp only [Option.bind_eq_bind, Option.bind_eq_some_iff, Option.pure_def, Option.some.injEq, ih]
    constructor
    · rintro ⟨tokens, hparse, rest, hrest, rfl⟩
      exact ⟨tokens, rest, hparse, hrest, rfl⟩
    · rintro ⟨tokens, rest, hparse, hrest, rfl⟩
      exact ⟨tokens, hparse, rest, hrest, rfl⟩

/-- Matching names against parsed components is matching them against the components. -/
theorem forall₂_matchTokens {components names : List String} {parsed : List (List Token)}
    (h : List.Forall₂ (fun component tokens => parseComponent component = some tokens)
      components parsed) :
    List.Forall₂ (fun tokens name => matchTokens tokens name.toList) parsed names ↔
      List.Forall₂ (fun component name => matchesName component name) components names := by
  induction h generalizing names with
  | nil => rw [List.forall₂_nil_left_iff, List.forall₂_nil_left_iff]
  | cons hparse _ ih =>
    rw [List.forall₂_cons_left_iff, List.forall₂_cons_left_iff]
    simp only [matchesName_of_parse hparse, ih]

/-- A walk lists the paths that are there and whose names the components match. -/
theorem mem_walk {t : FileTree β} {components : List (List Token)} {base p : FilePath} :
    p ∈ walk t base components ↔ ∃ names, p = base ++ names ∧
      List.Forall₂ (fun tokens name => matchTokens tokens name.toList) components names ∧
      (names = [] ∨ (t.node p).isSome) := by
  induction components generalizing base with
  | nil =>
    rw [walk, List.mem_singleton]
    constructor
    · rintro rfl
      exact ⟨[], (List.append_nil _).symm, .nil, .inl rfl⟩
    · rintro ⟨names, rfl, hmatch, -⟩
      cases hmatch
      exact List.append_nil _
  | cons component components ih =>
    rw [walk, List.mem_flatMap]
    constructor
    · rintro ⟨name, hmem, hp⟩
      obtain ⟨hname, hfirst⟩ := List.mem_filter.1 hmem
      obtain ⟨names, rfl, hrest, hsome⟩ := ih.1 hp
      refine ⟨name :: names, (List.append_cons ..).symm, .cons hfirst hrest, .inr ?_⟩
      rcases hsome with rfl | hsome
      · rw [List.append_nil]
        exact FileTree.mem_names.1 hname
      · exact hsome
    · rintro ⟨names, rfl, hmatch, hsome⟩
      obtain ⟨name, rest, hfirst, hrest, rfl⟩ := List.forall₂_cons_left_iff.1 hmatch
      have hassoc : base ++ name :: rest = base ++ [name] ++ rest := List.append_cons ..
      have hsome : (t.node (base ++ name :: rest)).isSome :=
        hsome.resolve_left (List.cons_ne_nil _ _)
      have hname : (t.node (base ++ [name])).isSome := by
        rw [hassoc] at hsome
        exact t.isSome_of_append hsome
      exact ⟨name, List.mem_filter.2 ⟨FileTree.mem_names.2 hname, hfirst⟩,
        ih.2 ⟨rest, hassoc, hrest, .inr hsome⟩⟩

/-- **A pattern lists the paths that are there and whose names its components match**, one by
one. -/
theorem mem_glob {t : FileTree β} {pattern : String} {ps : List FilePath}
    (h : glob t pattern = some ps) {p : FilePath} :
    p ∈ ps ↔ List.Forall₂ (fun component name => matchesName component name)
      (FilePath.ofString pattern) p ∧ (t.node p).isSome := by
  obtain ⟨parsed, hparsed, rfl⟩ := Option.map_eq_some_iff.1 h
  rw [mem_walk, ← forall₂_matchTokens (mapM_parseComponent.1 hparsed)]
  constructor
  · rintro ⟨names, rfl, hmatch, hsome⟩
    refine ⟨hmatch, ?_⟩
    rcases hsome with rfl | hsome
    · exact congrArg Option.isSome t.root
    · exact hsome
  · rintro ⟨hmatch, hsome⟩
    exact ⟨p, rfl, hmatch, .inr hsome⟩

/-- A pattern whose components each match something lists something, if only nothing. -/
theorem exists_glob (t : FileTree β) {pattern : String}
    (h : ∀ component ∈ FilePath.ofString pattern, ∃ name, matchesName component name) :
    ∃ ps, glob t pattern = some ps := by
  have hparsed : ∃ parsed, (FilePath.ofString pattern).mapM parseComponent = some parsed := by
    simp only [mapM_parseComponent]
    generalize FilePath.ofString pattern = components at h ⊢
    induction components with
    | nil => exact ⟨[], .nil⟩
    | cons component components ih =>
      obtain ⟨name, hname⟩ := h component (List.mem_cons_self ..)
      obtain ⟨tokens, htokens, -⟩ := (Option.any_eq_true ..).1 hname
      obtain ⟨parsed, hparsed⟩ := ih fun c hc => h c (List.mem_cons_of_mem _ hc)
      exact ⟨tokens :: parsed, .cons htokens hparsed⟩
  obtain ⟨parsed, hparsed⟩ := hparsed
  exact ⟨walk t [] parsed, by rw [glob, hparsed, Option.map_some]⟩

/-! ## What a pattern does not see -/

variable {t t' : FileTree β}

/-- A walk sees only what lies below its base. -/
theorem walk_congr_below {components : List (List Token)} {base : FilePath}
    (h : ∀ q, base <+: q → t'.node q = t.node q) :
    walk t' base components = walk t base components := by
  induction components generalizing base with
  | nil => rfl
  | cons component components ih =>
    have hbelow : ∀ name, base <+: base ++ [name] := fun name => List.prefix_append _ _
    have hnames : ((t'.names base).filter fun name => matchTokens component name.toList) =
        (t.names base).filter fun name => matchTokens component name.toList :=
      FileTree.filter_names_congr fun name _ => by rw [h _ (hbelow name)]
    rw [walk, walk, hnames]
    exact List.flatMap_congr fun name _ => ih fun q hq => h q ((hbelow name).trans hq)

/-- A walk does not see a directory whose path the components do not match. -/
theorem walk_congr {components : List (List Token)} {base rest : FilePath}
    (h : ∀ q, ¬ base ++ rest <+: q → t'.node q = t.node q)
    (hmiss : ¬ List.Forall₂ (fun tokens name => matchTokens tokens name.toList)
      (components.take rest.length) rest) :
    walk t' base components = walk t base components := by
  induction components generalizing base rest with
  | nil => rfl
  | cons component components ih =>
    cases rest with
    | nil => exact absurd .nil hmiss
    | cons r rest =>
      rw [List.length_cons, List.take_succ_cons, List.forall₂_cons, not_and] at hmiss
      have hcons : base ++ r :: rest = base ++ [r] ++ rest := List.append_cons ..
      -- below another name than `r` nothing differs
      have hother : ∀ name, name ≠ r → ∀ q, base ++ [name] <+: q → t'.node q = t.node q := by
        rintro name hne q ⟨q', rfl⟩
        apply h
        rw [hcons, List.append_assoc, List.append_assoc, List.prefix_append_right_inj,
          List.singleton_append, List.singleton_append, List.cons_prefix_cons]
        exact fun hbelow => hne hbelow.1.symm
      rw [walk, walk, FileTree.filter_names_congr]
      · apply List.flatMap_congr
        intro name hname
        obtain ⟨-, hmatch⟩ := List.mem_filter.1 hname
        by_cases hr : name = r
        · subst hr
          exact ih (by rwa [← hcons]) (hmiss hmatch)
        · exact walk_congr_below (hother name hr)
      · intro name hmatch
        by_cases hr : name = r
        · subst hr
          -- the name is on the way to the directory, and not the directory itself
          have hrest : 0 < rest.length := by
            rw [List.length_pos_iff]
            rintro rfl
            exact hmiss hmatch .nil
          rw [h]
          intro hbelow
          have hlength := hbelow.length_le
          simp only [List.length_append, List.length_cons, List.length_nil] at hlength
          omega
        · rw [hother name hr _ (List.prefix_refl _)]

/-- **A pattern does not see a directory whose path it does not match**: trees that agree outside
the directory list the same. -/
theorem glob_congr {pattern : String} {dir : FilePath}
    (h : ∀ q, ¬ dir <+: q → t'.node q = t.node q)
    (hmiss : ¬ List.Forall₂ (fun component name => matchesName component name)
      ((FilePath.ofString pattern).take dir.length) dir) :
    glob t' pattern = glob t pattern := by
  unfold glob
  cases hparsed : (FilePath.ofString pattern).mapM parseComponent with
  | none => rfl
  | some parsed =>
    have hmiss : ¬ List.Forall₂ (fun tokens name => matchTokens tokens name.toList)
        (parsed.take dir.length) dir := by
      rwa [forall₂_matchTokens (List.forall₂_take _ (mapM_parseComponent.1 hparsed))]
    exact congrArg some (walk_congr (by simpa using h) hmiss)

end

/-! ## Literal components -/

/-- The text has no character with a meaning in patterns. -/
def Literal (s : String) : Prop := ∀ c ∈ s.toList, c ≠ '?' ∧ c ≠ '*' ∧ c ≠ '['

instance (s : String) : Decidable (Literal s) :=
  List.decidableBAll (fun c => c ≠ '?' ∧ c ≠ '*' ∧ c ≠ '[') s.toList

theorem literal_append {s u : String} (hs : Literal s) (hu : Literal u) : Literal (s ++ u) := by
  intro c hc
  rw [String.toList_append, List.mem_append] at hc
  exact hc.elim (hs c) (hu c)

/-- Literal characters in front are tokens of their own. -/
theorem parseTokens_append {l : List Char} (h : ∀ c ∈ l, c ≠ '?' ∧ c ≠ '*' ∧ c ≠ '[')
    (n : Nat) (cs : List Char) :
    parseTokens (n + l.length) (l ++ cs) = (parseTokens n cs).map (l.map .char ++ ·) := by
  induction l with
  | nil =>
    show parseTokens n cs = (parseTokens n cs).map id
    rw [Option.map_id_fun, id]
  | cons c l ih =>
    obtain ⟨h₁, h₂, h₃⟩ := h c (List.mem_cons_self ..)
    have ih := ih fun d hd => h d (List.mem_cons_of_mem _ hd)
    rw [List.length_cons, List.cons_append, ← Nat.add_assoc, parseTokens]
    · rw [ih, Option.map_map]
      rfl
    all_goals simp_all

/-- Literal characters in front match only themselves. -/
theorem matchTokens_append {l : List Char} {tokens : List Token} {cs : List Char} :
    matchTokens (l.map .char ++ tokens) cs ↔ ∃ cs', cs = l ++ cs' ∧ matchTokens tokens cs' := by
  induction l generalizing cs with
  | nil => simp
  | cons c l ih =>
    cases cs with
    | nil => simp [matchTokens]
    | cons d cs => simp [matchTokens, ih, and_assoc]

/-- **Literal text in front of a component** is matched by itself. -/
theorem matchesName_append {l : String} (h : Literal l) {component name : String} :
    matchesName (l ++ component) name ↔ ∃ rest, name = l ++ rest ∧ matchesName component rest := by
  have hparse : parseComponent (l ++ component) =
      (parseComponent component).map (l.toList.map .char ++ ·) := by
    rw [parseComponent, String.toList_append, List.length_append, Nat.add_comm,
      parseTokens_append h, parseComponent]
  unfold matchesName
  rw [hparse]
  cases parseComponent component with
  | none => simp
  | some tokens =>
    rw [Option.map_some, Option.any_some, matchTokens_append]
    simp only [Option.any_some]
    constructor
    · rintro ⟨cs, hname, hmatch⟩
      refine ⟨String.ofList cs, ?_, by rwa [String.toList_ofList]⟩
      rw [← String.toList_inj, hname, String.toList_append, String.toList_ofList]
    · rintro ⟨rest, rfl, hmatch⟩
      exact ⟨rest.toList, String.toList_append .., hmatch⟩

/-- A literal component matches only itself. -/
theorem matchesName_literal {s : String} (h : Literal s) {name : String} :
    matchesName s name ↔ name = s := by
  have hempty : ∀ rest, matchesName "" rest ↔ rest = "" := by
    intro rest
    have hparse : parseComponent "" = some [] := rfl
    rw [matchesName_of_parse hparse, matchTokens, List.isEmpty_iff, String.toList_eq_nil_iff]
  have happend : matchesName (s ++ "") name ↔ ∃ rest, name = s ++ rest ∧ matchesName "" rest :=
    matchesName_append h
  simpa only [String.append_empty, hempty, exists_eq_right] using happend

/-- A star in front of literal text matches the names that end in it. -/
theorem matchesName_star {suffix : String} (h : Literal suffix) {name : String} :
    matchesName (String.ofList ('*' :: suffix.toList)) name ↔ suffix.toList <:+ name.toList := by
  have hliteral := parseTokens_append h 0 []
  have hparse : parseComponent (String.ofList ('*' :: suffix.toList)) =
      some (.anySequence :: (suffix.toList.map .char ++ [])) := by
    rw [parseComponent, String.toList_ofList, List.length_cons]
    unfold Literal at h
    generalize suffix.toList = cs at *
    rw [Nat.zero_add, List.append_nil] at hliteral
    rw [parseTokens, hliteral]
    · rfl
    · rintro cs' rfl
      exact (h '*' (List.mem_cons_self ..)).2.1 rfl
  rw [matchesName_of_parse hparse, matchTokens, List.any_eq_true]
  simp only [List.mem_tails, matchTokens_append]
  constructor
  · rintro ⟨tail, hsuffix, cs, rfl, hmatch⟩
    rw [matchTokens, List.isEmpty_iff] at hmatch
    rwa [hmatch, List.append_nil] at hsuffix
  · intro hsuffix
    exact ⟨suffix.toList, hsuffix, [], (List.append_nil _).symm, rfl⟩

/-! ## Patterns that match only themselves -/

/-- The token is a class of characters. -/
def Token.isClass : Token → Bool
  | .anyWithin _ | .anyExcept _ => true
  | _ => false

theorem length_of_parseClass {c : Char} {cs rest : List Char} {class_ : List CharSpecifier}
    (h : parseClass c cs = some (class_, rest)) : rest.length + 1 ≤ cs.length := by
  have hlength := (List.dropWhile_suffix (p := (· ≠ ']')) (l := cs)).length_le
  unfold parseClass at h
  split at h
  · cases h
  · next heq =>
    cases h
    rw [heq] at hlength
    exact hlength

/-- The first token of a pattern, and what its remaining tokens are parsed from: a character that
stands for itself, a wildcard, or a class. -/
theorem parseTokens_step {n : Nat} {cs : List Char} {tokens : List Token}
    (h : parseTokens n cs = some tokens) :
    (cs = [] ∧ tokens = []) ∨ ∃ m token rest tokens', tokens = token :: tokens' ∧
      parseTokens m rest = some tokens' ∧
      ((∃ c, token = .char c ∧ cs = c :: rest ∧ c ≠ '?' ∧ c ≠ '*' ∧ c ≠ '[') ∨
        ((token = .anyChar ∨ token = .anySequence) ∧ cs.length = rest.length + 1) ∨
        (token.isClass ∧ rest.length + 2 ≤ cs.length)) := by
  revert h
  fun_cases parseTokens n cs with
  | case1 =>
    intro h
    cases h
    exact .inl ⟨rfl, rfl⟩
  | case2 | case4 | case7 | case9 =>
    intro h
    cases h
  | case3 n cs =>
    intro h
    obtain ⟨tokens', htokens, rfl⟩ := Option.map_eq_some_iff.1 h
    exact .inr ⟨n, .anyChar, cs, tokens', rfl, htokens, .inr (.inl ⟨.inl rfl, rfl⟩)⟩
  | case5 n cs _ =>
    intro h
    obtain ⟨tokens', htokens, rfl⟩ := Option.map_eq_some_iff.1 h
    exact .inr ⟨n, .anySequence, cs, tokens', rfl, htokens, .inr (.inl ⟨.inr rfl, rfl⟩)⟩
  | case6 n c cs =>
    intro h
    simp only [Option.bind_eq_bind, Option.bind_eq_some_iff, Option.pure_def,
      Option.some.injEq] at h
    obtain ⟨⟨class_, rest⟩, hclass, tokens', htokens, rfl⟩ := h
    have hlength := length_of_parseClass hclass
    refine .inr ⟨n, .anyExcept class_, rest, tokens', rfl, htokens, .inr (.inr ⟨rfl, ?_⟩)⟩
    simp only [List.length_cons]
    omega
  | case8 n c cs _ _ =>
    intro h
    simp only [Option.bind_eq_bind, Option.bind_eq_some_iff, Option.pure_def,
      Option.some.injEq] at h
    obtain ⟨⟨class_, rest⟩, hclass, tokens', htokens, rfl⟩ := h
    have hlength := length_of_parseClass hclass
    refine .inr ⟨n, .anyWithin class_, rest, tokens', rfl, htokens, .inr (.inr ⟨rfl, ?_⟩)⟩
    simp only [List.length_cons]
    omega
  | case10 n c cs hany _ hstar _ _ hclass hclose =>
    intro h
    obtain ⟨tokens', htokens, rfl⟩ := Option.map_eq_some_iff.1 h
    refine .inr ⟨n, .char c, cs, tokens', rfl, htokens, .inl ⟨c, rfl, rfl, hany, hstar, ?_⟩⟩
    rintro rfl
    cases cs with
    | nil => exact hclose rfl rfl
    | cons d cs => exact hclass d cs rfl rfl

/-- A pattern has at least a character for each token, and one more for a class. -/
theorem length_le_of_parseTokens {tokens : List Token} {n : Nat} {cs : List Char}
    (h : parseTokens n cs = some tokens) :
    tokens.length + tokens.countP Token.isClass ≤ cs.length := by
  induction tokens generalizing n cs with
  | nil => exact Nat.zero_le _
  | cons token tokens ih =>
    obtain ⟨-, htokens⟩ | ⟨m, _, rest, _, htokens, hrest, hstep⟩ := parseTokens_step h
    · cases htokens
    · cases htokens
      have ih := ih hrest
      rcases hstep with ⟨c, rfl, rfl, -⟩ | ⟨rfl | rfl, hlength⟩ | ⟨hclass, hlength⟩
      · rw [List.countP_cons_of_neg Bool.false_ne_true, List.length_cons, List.length_cons]
        omega
      · rw [List.countP_cons_of_neg Bool.false_ne_true, List.length_cons]
        omega
      · rw [List.countP_cons_of_neg Bool.false_ne_true, List.length_cons]
        omega
      · rw [List.countP_cons_of_pos hclass, List.length_cons]
        omega

/-- A pattern of characters that stand for themselves is literal. -/
theorem literal_of_parseTokens {tokens : List Token} {n : Nat} {cs : List Char}
    (h : parseTokens n cs = some tokens) (hchars : ∀ token ∈ tokens, ∃ c, token = .char c) :
    ∀ c ∈ cs, c ≠ '?' ∧ c ≠ '*' ∧ c ≠ '[' := by
  induction tokens generalizing n cs with
  | nil =>
    obtain ⟨rfl, -⟩ | ⟨m, _, rest, _, htokens, -⟩ := parseTokens_step h
    · exact nofun
    · cases htokens
  | cons token tokens ih =>
    obtain ⟨-, htokens⟩ | ⟨m, _, rest, _, htokens, hrest, hstep⟩ := parseTokens_step h
    · cases htokens
    · cases htokens
      have ih := ih hrest fun token' h' => hchars token' (List.mem_cons_of_mem _ h')
      obtain ⟨c, rfl⟩ := hchars token (List.mem_cons_self ..)
      rcases hstep with ⟨d, htoken, rfl, hd⟩ | ⟨htoken | htoken, -⟩ | ⟨hclass, -⟩
      · rw [List.forall_mem_cons]
        exact ⟨hd, ih⟩
      · cases htoken
      · cases htoken
      · cases hclass

/-- A token other than a star takes the first character, whatever follows. -/
theorem exists_of_matchTokens_cons {token : Token} {tokens : List Token} {cs : List Char}
    (hstar : token ≠ .anySequence) (h : matchTokens (token :: tokens) cs) :
    ∃ c rest, cs = c :: rest ∧ matchTokens tokens rest ∧
      ∀ rest', matchTokens tokens rest' → matchTokens (token :: tokens) (c :: rest') := by
  cases token with
  | anySequence => exact absurd rfl hstar
  | char | anyChar | anyWithin | anyExcept =>
    cases cs with
    | nil => cases h
    | cons c rest =>
      refine ⟨c, rest, rfl, ?_, ?_⟩
      all_goals simp_all [matchTokens]

/-- Without a star, a text has one character for each token. -/
theorem length_of_matchTokens {tokens : List Token} {cs : List Char}
    (h : matchTokens tokens cs) (hstar : Token.anySequence ∉ tokens) :
    cs.length = tokens.length := by
  induction tokens generalizing cs with
  | nil =>
    rw [matchTokens, List.isEmpty_iff] at h
    rw [h, List.length_nil, List.length_nil]
  | cons token tokens ih =>
    obtain ⟨hfirst, hstar⟩ := not_or.1 (mt List.mem_cons.2 hstar)
    obtain ⟨c, rest, rfl, hrest, -⟩ := exists_of_matchTokens_cons (Ne.symm hfirst) h
    rw [List.length_cons, List.length_cons, ih hrest hstar]

/-- With a wildcard, what matches can be varied. -/
theorem exists_matchTokens_ne {tokens : List Token} {cs : List Char} (h : matchTokens tokens cs)
    (hwild : Token.anyChar ∈ tokens ∨ Token.anySequence ∈ tokens) :
    ∃ cs', cs' ≠ cs ∧ matchTokens tokens cs' := by
  induction tokens generalizing cs with
  | nil => simp at hwild
  | cons token tokens ih =>
    by_cases hstar : token = .anySequence
    · -- the star takes one more character
      subst hstar
      rw [matchTokens, List.any_eq_true] at h
      obtain ⟨tail, htail, hmatch⟩ := h
      refine ⟨'a' :: cs, List.cons_ne_self _ _, ?_⟩
      rw [matchTokens, List.any_eq_true]
      exact ⟨tail, by rw [List.tails_cons]; exact List.mem_cons_of_mem _ htail, hmatch⟩
    · obtain ⟨c, rest, rfl, hrest, hfirst⟩ := exists_of_matchTokens_cons hstar h
      by_cases hany : token = .anyChar
      · subst hany
        obtain ⟨d, hd⟩ : ∃ d, d ≠ c := by
          by_cases hc : c = 'a'
          · exact ⟨'b', by rw [hc]; decide⟩
          · exact ⟨'a', Ne.symm hc⟩
        exact ⟨d :: rest, fun heq => hd (List.cons.inj heq).1, hrest⟩
      · have hwild : Token.anyChar ∈ tokens ∨ Token.anySequence ∈ tokens := by
          simpa [Ne.symm hany, Ne.symm hstar] using hwild
        obtain ⟨rest', hne, hmatch⟩ := ih hrest hwild
        exact ⟨c :: rest', fun heq => hne (List.cons.inj heq).2, hfirst rest' hmatch⟩

/-- **A pattern that matches nothing but itself** is literal, or matches nothing at all. -/
theorem matchesName_self_iff {component : String} :
    (∀ name, matchesName component name → name = component) ↔
      Literal component ∨ ∀ name, ¬ matchesName component name := by
  constructor
  · intro hself
    by_contra hor
    obtain ⟨hliteral, hsome⟩ := not_or.1 hor
    obtain ⟨name, hname⟩ := not_forall_not.1 hsome
    rw [hself name hname] at hname
    obtain ⟨tokens, hparse, hmatch⟩ := (Option.any_eq_true ..).1 hname
    by_cases hwild : Token.anyChar ∈ tokens ∨ Token.anySequence ∈ tokens
    · obtain ⟨cs, hne, hcs⟩ := exists_matchTokens_ne hmatch hwild
      apply hne
      have hvaried : matchesName component (String.ofList cs) := by
        rwa [matchesName_of_parse hparse, String.toList_ofList]
      rw [← hself _ hvaried, String.toList_ofList]
    · -- without a wildcard the pattern is as long as its tokens, so there is no class
      obtain ⟨hany, hstar⟩ := not_or.1 hwild
      have hlength := length_of_matchTokens hmatch hstar
      have hclass := length_le_of_parseTokens hparse
      have hnone : tokens.countP Token.isClass = 0 := by omega
      apply hliteral
      apply literal_of_parseTokens hparse
      intro token htoken
      have hchar := List.countP_eq_zero.1 hnone token htoken
      cases token with
      | char c => exact ⟨c, rfl⟩
      | anyChar => exact absurd htoken hany
      | anySequence => exact absurd htoken hstar
      | anyWithin | anyExcept => exact absurd rfl hchar
  · rintro (hliteral | hnone) name hname
    · exact (matchesName_literal hliteral).1 hname
    · exact absurd hname (hnone name)

end Glob
