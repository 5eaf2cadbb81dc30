import JupiterAmm.BuildSwap.Data

/-!
# The two builders of a request

`build_swap_accounts` and `build_swap_instruction_data` choose the instruction of a request
separately. Where the former returns, its list is the one the interface description declares for
the instruction of the request, each slot filled by the request's account for the slot's name
(`buildSwapAccounts_eq`). But it refuses an exact-out request with a token ledger, which the latter
takes for one without; everywhere else the two agree (`buildersAgree_iff`).
-/

namespace JupiterAmm

open Rust Borsh

/-! ## Assumptions about the generated code -/

/-- The account slots of an instruction, filled by name. -/
def fillSlots (ix : Idl.Instruction) (account : String → Option Pubkey) :
    Option (List AccountMeta) :=
  ix.accounts.mapM fun item =>
    (account item.name).map fun k => ⟨k, item.signer, item.writable⟩

/-- The generated account structs emit the slots of the interface description, in its order and
with its flags. -/
def Crates.AccountsMatchIdl (crates : Crates) : Prop :=
  ∀ ix ∈ Idl.routeInstructions, ∀ fields metas,
    fillSlots ix (fun name => fields.lookup name) = some metas →
      crates.toAccountMetas ix.name fields = metas

/-- The event authority is derived to the address the interface description fixes. -/
def Crates.EventAuthorityMatchesIdl (crates : Crates) : Prop :=
  findEventAuthority crates = pubkey "D8cy77BBepLMngZx6ZukaTff5hCt1HrWyKk3Hnd9oitf"

section
open Reference

/-- Accounts looked up one by one are what filling the slots gives. -/
theorem fillSlots_eq_some {ix : Idl.Instruction} {account : String → Option Pubkey}
    {metas : List AccountMeta} (h : fillSlots ix account = some metas) :
    metas = ix.accounts.map fun item =>
      ⟨(account item.name).getD 0, item.signer, item.writable⟩ := by
  unfold fillSlots at h
  generalize ix.accounts = items at h
  induction items generalizing metas with
  | nil =>
    cases h
    rfl
  | cons item items ih =>
    rw [List.mapM_cons] at h
    cases hitem : account item.name with
    | none =>
      rw [hitem] at h
      cases h
    | some k =>
      simp only [hitem, Option.map_some, Option.pure_def, Option.bind_eq_bind, Option.bind_some,
        Option.bind_eq_some_iff, Option.some.injEq] at h
      obtain ⟨rest, hrest, rfl⟩ := h
      rw [List.map_cons, hitem, ih hrest]
      rfl

theorem accountsMatchIdl_referenceCrates : referenceCrates.AccountsMatchIdl := by
  intro ix hix fields metas hmetas
  have hname : Idl.instruction? ix.name = some ix := by
    simp only [Idl.routeInstructions, List.mem_cons, List.not_mem_nil, or_false] at hix
    rcases hix with rfl | rfl | rfl | rfl | rfl | rfl <;> rfl
  show toAccountMetas ix.name fields = metas
  rw [toAccountMetas, hname, fillSlots_eq_some hmetas]

theorem eventAuthorityMatchesIdl_referenceCrates : referenceCrates.EventAuthorityMatchesIdl := by
  show findProgramAddress [asciiBytes "__event_authority"] jupiterId = _
  rw [findProgramAddress, if_pos rfl]

end

/-! ## What the description says of a request -/

namespace BuildSwapAccountsParams

/-- The instruction of a request for accounts. -/
def instruction (p : BuildSwapAccountsParams) : Idl.Instruction :=
  routeInstruction p.useSharedAccounts p.tokenLedger.isSome p.swapMode

/-- The account a request has for the slot of a name. -/
def accountFor (p : BuildSwapAccountsParams) : String → Option Pubkey
  | "token_program" => some <|
    -- only the plain exact-in routes take the token program of the destination
    if p.useSharedAccounts = false ∧ p.swapMode = .exactIn then p.destinationTokenProgram
    else splTokenId
  | "program_authority" => some p.programAuthority
  | "user_transfer_authority" => some p.user
  | "source_token_account" => some p.userSourceTokenAccount
  | "user_source_token_account" => some p.userSourceTokenAccount
  | "user_destination_token_account" => some p.userDestinationTokenAccount
  | "program_source_token_account" => some p.sourceTokenAccount
  | "program_destination_token_account" => some p.destinationTokenAccount
  | "destination_token_account" => some <|
    p.optionalDestinationTokenAccount.getD p.userDestinationTokenAccount
  | "source_mint" => some p.inputMint
  | "destination_mint" => some p.outputMint
  | "platform_fee_account" => some (p.platformFeeAccount.getD jupiterId)
  | "token_2022_program" => some (p.token2022Program.getD jupiterId)
  | "token_ledger" => p.tokenLedger
  | "event_authority" => some (pubkey "D8cy77BBepLMngZx6ZukaTff5hCt1HrWyKk3Hnd9oitf")
  | "program" => some jupiterId
  | _ => none

end BuildSwapAccountsParams

/-- The requests `build_swap_accounts` takes: no exact-out with a token ledger. -/
def BuildSwapAccountsParams.Supported (p : BuildSwapAccountsParams) : Prop :=
  p.swapMode = .exactIn ∨ p.tokenLedger = none

section
variable {crates : Crates}

/-- Slots whose accounts are looked up alike are filled alike. -/
theorem fillSlots_congr {ix : Idl.Instruction} {account account' : String → Option Pubkey}
    (h : ∀ item ∈ ix.accounts, account item.name = account' item.name) :
    fillSlots ix account = fillSlots ix account' := by
  unfold fillSlots
  generalize ix.accounts = items at h
  induction items with
  | nil => rfl
  | cons item items ih =>
    have hitem := h item (List.mem_cons_self ..)
    have ih := ih fun item' h' => h item' (List.mem_cons_of_mem _ h')
    rw [List.mapM_cons, List.mapM_cons, hitem, ih]

/-- A struct literal that gives each slot the request's account emits the request's slots. -/
theorem fillSlots_accountFor (haccounts : crates.AccountsMatchIdl) {ix : Idl.Instruction}
    (hix : ix ∈ Idl.routeInstructions) {fields : List (String × Pubkey)}
    {account : String → Option Pubkey}
    (h : ∀ item ∈ ix.accounts, fields.lookup item.name = account item.name)
    (hfill : (fillSlots ix account).isSome) :
    fillSlots ix account = some (crates.toAccountMetas ix.name fields) := by
  obtain ⟨metas, hmetas⟩ := Option.isSome_iff_exists.1 hfill
  rw [hmetas, haccounts ix hix fields metas ((fillSlots_congr h).trans hmetas)]

/-- **The accounts of a supported request are the slots of its instruction**, each filled by the
request's account for the name of the slot. -/
theorem buildSwapAccounts_eq (haccounts : crates.AccountsMatchIdl)
    (hevent : crates.EventAuthorityMatchesIdl) {p : BuildSwapAccountsParams} (hp : p.Supported) :
    ∃ metas, buildSwapAccounts crates p = .ok metas ∧
      fillSlots p.instruction p.accountFor = some metas := by
  rcases p with ⟨shared, mode, user, authority, userSource, source, userDestination, destination,
    program, input, output, ledger, fee, optionalDestination, token2022⟩
  obtain ⟨hexactOut, hroute, hledger, hsharedExactOut, hshared, hsharedLedger⟩ :=
    Idl.mem_routeInstructions
  have hevent := congrArg some hevent
  -- one case for each instruction: compare the struct literal with the slots, name by name
  cases mode with
  | exactIn =>
    cases shared <;> cases ledger
    · refine ⟨_, rfl, fillSlots_accountFor haccounts hroute ?_ rfl⟩
      simp only [Idl.route, List.forall_mem_cons]
      exact ⟨rfl, rfl, rfl, rfl, rfl, rfl, rfl, hevent, rfl, nofun⟩
    · refine ⟨_, rfl, fillSlots_accountFor haccounts hledger ?_ rfl⟩
      simp only [Idl.routeWithTokenLedger, List.forall_mem_cons]
      exact ⟨rfl, rfl, rfl, rfl, rfl, rfl, rfl, rfl, hevent, rfl, nofun⟩
    · refine ⟨_, rfl, fillSlots_accountFor haccounts hshared ?_ rfl⟩
      simp only [Idl.sharedAccountsRoute, List.forall_mem_cons]
      exact ⟨rfl, rfl, rfl, rfl, rfl, rfl, rfl, rfl, rfl, rfl, rfl, hevent, rfl, nofun⟩
    · refine ⟨_, rfl, fillSlots_accountFor haccounts hsharedLedger ?_ rfl⟩
      simp only [Idl.sharedAccountsRouteWithTokenLedger, List.forall_mem_cons]
      exact ⟨rfl, rfl, rfl, rfl, rfl, rfl, rfl, rfl, rfl, rfl, rfl, rfl, hevent, rfl, nofun⟩
  | exactOut =>
    obtain rfl : ledger = none := hp.resolve_left nofun
    cases shared
    · refine ⟨_, rfl, fillSlots_accountFor haccounts hexactOut ?_ rfl⟩
      simp only [Idl.exactOutRoute, List.forall_mem_cons]
      refine ⟨rfl, rfl, rfl, rfl, rfl, rfl, rfl, rfl, ?_, hevent, rfl, nofun⟩
      cases token2022 <;> rfl
    · refine ⟨_, rfl, fillSlots_accountFor haccounts hsharedExactOut ?_ rfl⟩
      simp only [Idl.sharedAccountsExactOutRoute, List.forall_mem_cons]
      exact ⟨rfl, rfl, rfl, rfl, rfl, rfl, rfl, rfl, rfl, rfl, rfl, hevent, rfl, nofun⟩

/-- An exact-out request with a token ledger is refused. -/
theorem buildSwapAccounts_of_not_supported {p : BuildSwapAccountsParams} (hp : ¬ p.Supported) :
    (buildSwapAccounts crates p).IsErr := by
  rcases p with ⟨shared, mode, user, authority, userSource, source, userDestination, destination,
    program, input, output, ledger, fee, optionalDestination, token2022⟩
  obtain ⟨hmode, hledger⟩ := not_or.1 hp
  cases mode with
  | exactIn => exact absurd rfl hmode
  | exactOut =>
    cases ledger with
    | none => exact absurd rfl hledger
    | some ledger => cases shared <;> exact ⟨_, rfl⟩

/-- The only signer among the slots of a request is its user. -/
theorem signers_fillSlots {p : BuildSwapAccountsParams} {metas : List AccountMeta}
    (h : fillSlots p.instruction p.accountFor = some metas) :
    metas.filter (·.isSigner) = [⟨p.user, true, false⟩] := by
  rcases p with ⟨shared, mode, user, authority, userSource, source, userDestination, destination,
    program, input, output, ledger, fee, optionalDestination, token2022⟩
  cases mode <;> cases shared <;> cases ledger <;> cases h <;> rfl

/-! ## Agreement -/

/-- The builders agree on a request: both return an `Err`, or both return, and the accounts are the
slots of the instruction that the discriminator of the data names, each filled by the request's
account for the name of the slot, with the user as the only signer. -/
def BuildersAgree (crates : Crates) (a : BuildSwapAccountsParams)
    (d : BuildSwapInstructionDataParams crates) : Prop :=
  ((buildSwapAccounts crates a).IsErr ∧ (buildSwapInstructionData d).IsErr) ∨
  ∃ metas bytes ix, buildSwapAccounts crates a = .ok metas ∧
    buildSwapInstructionData d = .ok bytes ∧ ix ∈ Idl.routeInstructions ∧
    ix.discriminator <+: bytes ∧ fillSlots ix a.accountFor = some metas ∧
    metas.filter (·.isSigner) = [⟨a.user, true, false⟩]

/-- **The builders agree on a request exactly when it is not an exact-out request with a token
ledger** and its route plan can be written. -/
theorem buildersAgree_iff (hdisc : crates.DiscriminatorsMatchIdl)
    (haccounts : crates.AccountsMatchIdl) (hevent : crates.EventAuthorityMatchesIdl)
    {a : BuildSwapAccountsParams} {d : BuildSwapInstructionDataParams crates}
    (hshared : d.useSharedAccounts = a.useSharedAccounts) (hmode : d.swapMode = a.swapMode)
    (hledger : d.useTokenLedger = a.tokenLedger.isSome) :
    BuildersAgree crates a d ↔
      (a.swapMode = .exactIn ∨ a.tokenLedger = none) ∧
      d.routePlan.length < 2 ^ 32 ∧
      ∀ step ∈ d.routePlan, (crates.swapSerialize step.swap).isSome := by
  rw [← isSome_serialize_plan]
  have hix : d.instruction = a.instruction := by
    rw [BuildSwapInstructionDataParams.instruction, BuildSwapAccountsParams.instruction, hshared,
      hmode, hledger]
  rcases buildSwapInstructionData_cases d with ⟨⟨rest, hdata⟩, hsome⟩ | ⟨⟨message, hdata⟩, hnone⟩
  · rw [and_iff_left hsome]
    constructor
    · rintro (⟨-, e, he⟩ | ⟨metas, bytes, ix, hmetas, -⟩)
      · rw [hdata] at he
        cases he
      · by_contra hp
        obtain ⟨e, he⟩ : (buildSwapAccounts crates a).IsErr :=
          buildSwapAccounts_of_not_supported hp
        rw [hmetas] at he
        cases he
    · intro hp
      obtain ⟨metas, hmetas, hfill⟩ := buildSwapAccounts_eq haccounts hevent hp
      have hmem : a.instruction ∈ Idl.routeInstructions := hix ▸ instruction_mem d
      rw [hix, hdisc _ hmem] at hdata
      exact .inr ⟨metas, _, a.instruction, hmetas, hdata, hmem, ⟨rest, rfl⟩, hfill,
        signers_fillSlots hfill⟩
  · constructor
    · rintro (⟨-, e, he⟩ | ⟨metas, bytes, ix, -, hbytes, -⟩)
      · rw [hdata] at he
        cases he
      · rw [hdata] at hbytes
        cases hbytes
    · intro h
      exact absurd h.2 hnone

end

/-- An accounts request for the pair of the example pool. -/
def accountsRequest (swapMode : SwapMode) (tokenLedger : Option Pubkey) :
    BuildSwapAccountsParams where
  useSharedAccounts := false
  swapMode
  user := 1
  programAuthority := 2
  userSourceTokenAccount := 3
  sourceTokenAccount := 4
  userDestinationTokenAccount := 5
  destinationTokenAccount := 6
  destinationTokenProgram := splTokenId
  inputMint := Reference.mintA
  outputMint := Reference.mintB
  tokenLedger
  platformFeeAccount := none
  optionalDestinationTokenAccount := none
  token2022Program := none

/-- The data request that goes with an accounts request. -/
def dataRequestFor (a : BuildSwapAccountsParams) :
    BuildSwapInstructionDataParams referenceCrates :=
  { dataRequest with
    useSharedAccounts := a.useSharedAccounts
    useTokenLedger := a.tokenLedger.isSome
    swapMode := a.swapMode }

/-- The builders agree on an exact-in request with a token ledger. -/
theorem buildersAgree_iff_accountsRequest :
    BuildersAgree referenceCrates (accountsRequest .exactIn (some 7))
      (dataRequestFor (accountsRequest .exactIn (some 7))) := by
  apply (buildersAgree_iff discriminatorsMatchIdl_referenceCrates accountsMatchIdl_referenceCrates
    eventAuthorityMatchesIdl_referenceCrates rfl rfl rfl).2
  exact ⟨.inl rfl, by decide, by decide⟩

/-- **The builders do not agree on every request.** An exact-out request with a token ledger gets no
accounts, but the data of an exact-out route without one. -/
theorem not_buildersAgree :
    ¬ BuildersAgree referenceCrates (accountsRequest .exactOut (some 7))
      (dataRequestFor (accountsRequest .exactOut (some 7))) ∧
    (buildSwapAccounts referenceCrates (accountsRequest .exactOut (some 7))).IsErr ∧
    ∃ rest, buildSwapInstructionData (dataRequestFor (accountsRequest .exactOut (some 7))) =
      .ok (Idl.exactOutRoute.discriminator ++ rest) := by
  refine ⟨?_, ⟨_, rfl⟩, _, rfl⟩
  rintro (⟨-, e, he⟩ | ⟨metas, bytes, ix, hmetas, -⟩)
  · cases he
  · cases hmetas

end JupiterAmm
