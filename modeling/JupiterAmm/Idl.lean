import JupiterAmm.Borsh.Schema
import Mathlib.Data.List.Nodup

/-!
# The interface description of the aggregator

The part of `idls/jupiter_aggregator.json` that describes the six route instructions, as data: for
each instruction its discriminator, its account slots and its arguments, and the types the arguments
are made of. Everything here is a transcription of the file; what the repository builds is compared
with it elsewhere.
-/

namespace JupiterAmm.Idl

open Borsh

/-! ## Types -/

/-- The enum `AccountsType`. -/
def accountsType : Ty :=
  .enum <| .ofList [
    ("TransferHookA", []), ("TransferHookB", []), ("TransferHookReward", []),
    ("TransferHookInput", []), ("TransferHookIntermediate", []), ("TransferHookOutput", []),
    ("SupplementalTickArrays", []), ("SupplementalTickArraysOne", []),
    ("SupplementalTickArraysTwo", [])]

/-- The struct `RemainingAccountsSlice`. -/
def remainingAccountsSlice : Ty :=
  .struct <| .ofList [("accounts_type", accountsType), ("length", .u8)]

/-- The struct `RemainingAccountsInfo`. -/
def remainingAccountsInfo : Ty :=
  .struct <| .ofList [("slices", .vec remainingAccountsSlice)]

/-- The enum `Side`. -/
def side : Ty := .enum <| .ofList [("Bid", []), ("Ask", [])]

/-- The enum `Swap`. -/
def swap : Ty :=
  .enum <| .ofList [
    ("Saber", []), ("SaberAddDecimalsDeposit", []), ("SaberAddDecimalsWithdraw", []),
    ("TokenSwap", []), ("Sencha", []), ("Step", []), ("Cropper", []), ("Raydium", []),
    ("Crema", [("a_to_b", .bool)]), ("Lifinity", []), ("Mercurial", []), ("Cykura", []),
    ("Serum", [("side", side)]), ("MarinadeDeposit", []), ("MarinadeUnstake", []),
    ("Aldrin", [("side", side)]), ("AldrinV2", [("side", side)]),
    ("Whirlpool", [("a_to_b", .bool)]), ("Invariant", [("x_to_y", .bool)]), ("Meteora", []),
    ("GooseFX", []), ("DeltaFi", [("stable", .bool)]), ("Balansol", []),
    ("MarcoPolo", [("x_to_y", .bool)]), ("Dradex", [("side", side)]), ("LifinityV2", []),
    ("RaydiumClmm", []), ("Openbook", [("side", side)]), ("Phoenix", [("side", side)]),
    ("Symmetry", [("from_token_id", .u64), ("to_token_id", .u64)]), ("TokenSwapV2", []),
    ("HeliumTreasuryManagementRedeemV0", []), ("StakeDexStakeWrappedSol", []),
    ("StakeDexSwapViaStake", [("bridge_stake_seed", .u32)]), ("GooseFXV2", []), ("Perps", []),
    ("PerpsAddLiquidity", []), ("PerpsRemoveLiquidity", []), ("MeteoraDlmm", []),
    ("OpenBookV2", [("side", side)]), ("RaydiumClmmV2", []),
    ("StakeDexPrefundWithdrawStakeAndDepositStake", [("bridge_stake_seed", .u32)]),
    ("Clone",
      [("pool_index", .u8), ("quantity_is_input", .bool), ("quantity_is_collateral", .bool)]),
    ("SanctumS",
      [("src_lst_value_calc_accs", .u8), ("dst_lst_value_calc_accs", .u8),
        ("src_lst_index", .u32), ("dst_lst_index", .u32)]),
    ("SanctumSAddLiquidity", [("lst_value_calc_accs", .u8), ("lst_index", .u32)]),
    ("SanctumSRemoveLiquidity", [("lst_value_calc_accs", .u8), ("lst_index", .u32)]),
    ("RaydiumCP", []),
    ("WhirlpoolSwapV2",
      [("a_to_b", .bool), ("remaining_accounts_info", .option remainingAccountsInfo)]),
    ("OneIntro", []), ("PumpdotfunWrappedBuy", []), ("PumpdotfunWrappedSell", []),
    ("PerpsV2", []), ("PerpsV2AddLiquidity", []), ("PerpsV2RemoveLiquidity", []),
    ("MoonshotWrappedBuy", []), ("MoonshotWrappedSell", []), ("StabbleStableSwap", []),
    ("StabbleWeightedSwap", []), ("Obric", [("x_to_y", .bool)]), ("FoxBuyFromEstimatedCost", []),
    ("FoxClaimPartial", [("is_y", .bool)]), ("SolFi", [("is_quote_to_base", .bool)]),
    ("SolayerDelegateNoInit", []), ("SolayerUndelegateNoInit", []),
    ("TokenMill", [("side", side)]), ("DaosFunBuy", []), ("DaosFunSell", []), ("ZeroFi", []),
    ("StakeDexWithdrawWrappedSol", []), ("VirtualsBuy", []), ("VirtualsSell", []),
    ("Perena", [("in_index", .u8), ("out_index", .u8)]), ("PumpdotfunAmmBuy", []),
    ("PumpdotfunAmmSell", []), ("Gamma", []),
    ("MeteoraDlmmSwapV2", [("remaining_accounts_info", remainingAccountsInfo)]), ("Woofi", []),
    ("MeteoraDammV2", []), ("MeteoraDynamicBondingCurveSwap", []), ("StabbleStableSwapV2", []),
    ("StabbleWeightedSwapV2", []), ("RaydiumLaunchlabBuy", [("share_fee_rate", .u64)]),
    ("RaydiumLaunchlabSell", [("share_fee_rate", .u64)]), ("BoopdotfunWrappedBuy", []),
    ("BoopdotfunWrappedSell", []), ("Plasma", [("side", side)])]

/-- The fields of the struct `RoutePlanStep`. -/
def routePlanStepFields : Fields :=
  .ofList [("swap", swap), ("percent", .u8), ("input_index", .u8), ("output_index", .u8)]

/-- The struct `RoutePlanStep`. -/
def routePlanStep : Ty := .struct routePlanStepFields

/-! ## Instructions -/

/-- An account slot of an instruction. -/
structure AccountItem where
  name : String
  writable : Bool := false
  signer : Bool := false
  optional : Bool := false
  address : Option String := none
  deriving DecidableEq

/-- An instruction. -/
structure Instruction where
  name : String
  discriminator : Bytes
  accounts : List AccountItem
  args : Fields

/-- The instruction `exact_out_route`. -/
def exactOutRoute : Instruction where
  name := "exact_out_route"
  discriminator := [208, 51, 239, 151, 123, 43, 237, 92]
  accounts := [
    { name := "token_program" },
    { name := "user_transfer_authority", signer := true },
    { name := "user_source_token_account", writable := true },
    { name := "user_destination_token_account", writable := true },
    { name := "destination_token_account", writable := true, optional := true },
    { name := "source_mint" },
    { name := "destination_mint" },
    { name := "platform_fee_account", writable := true, optional := true },
    { name := "token_2022_program", optional := true },
    { name := "event_authority",
      address := some "D8cy77BBepLMngZx6ZukaTff5hCt1HrWyKk3Hnd9oitf" },
    { name := "program" }]
  args := .ofList [
    ("route_plan", .vec routePlanStep),
    ("out_amount", .u64),
    ("quoted_in_amount", .u64),
    ("slippage_bps", .u16),
    ("platform_fee_bps", .u8)]

/-- The instruction `route`. -/
def route : Instruction where
  name := "route"
  discriminator := [229, 23, 203, 151, 122, 227, 173, 42]
  accounts := [
    { name := "token_program" },
    { name := "user_transfer_authority", signer := true },
    { name := "user_source_token_account", writable := true },
    { name := "user_destination_token_account", writable := true },
    { name := "destination_token_account", writable := true, optional := true },
    { name := "destination_mint" },
    { name := "platform_fee_account", writable := true, optional := true },
    { name := "event_authority",
      address := some "D8cy77BBepLMngZx6ZukaTff5hCt1HrWyKk3Hnd9oitf" },
    { name := "program" }]
  args := .ofList [
    ("route_plan", .vec routePlanStep),
    ("in_amount", .u64),
    ("quoted_out_amount", .u64),
    ("slippage_bps", .u16),
    ("platform_fee_bps", .u8)]

/-- The instruction `route_with_token_ledger`. -/
def routeWithTokenLedger : Instruction where
  name := "route_with_token_ledger"
  discriminator := [150, 86, 71, 116, 167, 93, 14, 104]
  accounts := [
    { name := "token_program" },
    { name := "user_transfer_authority", signer := true },
    { name := "user_source_token_account", writable := true },
    { name := "user_destination_token_account", writable := true },
    { name := "destination_token_account", writable := true, optional := true },
    { name := "destination_mint" },
    { name := "platform_fee_account", writable := true, optional := true },
    { name := "token_ledger" },
    { name := "event_authority",
      address := some "D8cy77BBepLMngZx6ZukaTff5hCt1HrWyKk3Hnd9oitf" },
    { name := "program" }]
  args := .ofList [
    ("route_plan", .vec routePlanStep),
    ("quoted_out_amount", .u64),
    ("slippage_bps", .u16),
    ("platform_fee_bps", .u8)]

/-- The instruction `shared_accounts_exact_out_route`. -/
def sharedAccountsExactOutRoute : Instruction where
  name := "shared_accounts_exact_out_route"
  discriminator := [176, 209, 105, 168, 154, 125, 69, 62]
  accounts := [
    { name := "token_program" },
    { name := "program_authority" },
    { name := "user_transfer_authority", signer := true },
    { name := "source_token_account", writable := true },
    { name := "program_source_token_account", writable := true },
    { name := "program_destination_token_account", writable := true },
    { name := "destination_token_account", writable := true },
    { name := "source_mint" },
    { name := "destination_mint" },
    { name := "platform_fee_account", writable := true, optional := true },
    { name := "token_2022_program", optional := true },
    { name := "event_authority",
      address := some "D8cy77BBepLMngZx6ZukaTff5hCt1HrWyKk3Hnd9oitf" },
    { name := "program" }]
  args := .ofList [
    ("id", .u8),
    ("route_plan", .vec routePlanStep),
    ("out_amount", .u64),
    ("quoted_in_amount", .u64),
    ("slippage_bps", .u16),
    ("platform_fee_bps", .u8)]

/-- The instruction `shared_accounts_route`. -/
def sharedAccountsRoute : Instruction where
  name := "shared_accounts_route"
  discriminator := [193, 32, 155, 51, 65, 214, 156, 129]
  accounts := [
    { name := "token_program" },
    { name := "program_authority" },
    { name := "user_transfer_authority", signer := true },
    { name := "source_token_account", writable := true },
    { name := "program_source_token_account", writable := true },
    { name := "program_destination_token_account", writable := true },
    { name := "destination_token_account", writable := true },
    { name := "source_mint" },
    { name := "destination_mint" },
    { name := "platform_fee_account", writable := true, optional := true },
    { name := "token_2022_program", optional := true },
    { name := "event_authority",
      address := some "D8cy77BBepLMngZx6ZukaTff5hCt1HrWyKk3Hnd9oitf" },
    { name := "program" }]
  args := .ofList [
    ("id", .u8),
    ("route_plan", .vec routePlanStep),
    ("in_amount", .u64),
    ("quoted_out_amount", .u64),
    ("slippage_bps", .u16),
    ("platform_fee_bps", .u8)]

/-- The instruction `shared_accounts_route_with_token_ledger`. -/
def sharedAccountsRouteWithTokenLedger : Instruction where
  name := "shared_accounts_route_with_token_ledger"
  discriminator := [230, 121, 143, 80, 119, 159, 106, 170]
  accounts := [
    { name := "token_program" },
    { name := "program_authority" },
    { name := "user_transfer_authority", signer := true },
    { name := "source_token_account", writable := true },
    { name := "program_source_token_account", writable := true },
    { name := "program_destination_token_account", writable := true },
    { name := "destination_token_account", writable := true },
    { name := "source_mint" },
    { name := "destination_mint" },
    { name := "platform_fee_account", writable := true, optional := true },
    { name := "token_2022_program", optional := true },
    { name := "token_ledger" },
    { name := "event_authority",
      address := some "D8cy77BBepLMngZx6ZukaTff5hCt1HrWyKk3Hnd9oitf" },
    { name := "program" }]
  args := .ofList [
    ("id", .u8),
    ("route_plan", .vec routePlanStep),
    ("quoted_out_amount", .u64),
    ("slippage_bps", .u16),
    ("platform_fee_bps", .u8)]

/-- The six route instructions. -/
def routeInstructions : List Instruction :=
  [exactOutRoute, route, routeWithTokenLedger, sharedAccountsExactOutRoute, sharedAccountsRoute,
    sharedAccountsRouteWithTokenLedger]

theorem mem_routeInstructions :
    exactOutRoute ∈ routeInstructions ∧ route ∈ routeInstructions ∧
    routeWithTokenLedger ∈ routeInstructions ∧ sharedAccountsExactOutRoute ∈ routeInstructions ∧
    sharedAccountsRoute ∈ routeInstructions ∧
    sharedAccountsRouteWithTokenLedger ∈ routeInstructions := by
  simp [routeInstructions]

/-- An instruction of this name. -/
def instruction? (name : String) : Option Instruction :=
  routeInstructions.find? fun ix => ix.name = name

/-- The discriminators have eight bytes. -/
theorem length_discriminator {ix : Instruction} (h : ix ∈ routeInstructions) :
    ix.discriminator.length = 8 := by
  simp only [routeInstructions, List.mem_cons, List.not_mem_nil, or_false] at h
  rcases h with rfl | rfl | rfl | rfl | rfl | rfl <;> rfl

/-- **A discriminator belongs to one instruction.** -/
theorem discriminator_inj {ix ix' : Instruction} (h : ix ∈ routeInstructions)
    (h' : ix' ∈ routeInstructions) (hd : ix.discriminator = ix'.discriminator) : ix = ix' := by
  have hnodup : (routeInstructions.map Instruction.discriminator).Nodup := by decide
  exact List.inj_on_of_nodup_map hnodup h h' hd

end JupiterAmm.Idl
