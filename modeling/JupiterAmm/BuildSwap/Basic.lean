import JupiterAmm.Interface

/-!
# Building the swap instruction

The two builders of the repository: `build_swap_accounts` lists the accounts of a route instruction,
`build_swap_instruction_data` writes its data. Each picks one of six instructions, by a match of its
own. The account structs are generated from the interface description, so what they emit is a
parameter; the argument structs of `jupiter_override` are written by hand, and so is their
serialisation here: the derived one, field by field in the order of the declaration.
-/

namespace JupiterAmm

open Rust Borsh

/-! ## The program -/

/-- `jupiter::ID`. -/
def jupiterId : Pubkey := pubkey "JUP6LkbZbjS1jKKwapdHNy74zcZ3tLUZoi5QNyVTaV4"

/-- The bytes of an ASCII literal. -/
def asciiBytes (s : String) : Bytes := s.toList.map fun c => UInt8.ofNat c.toNat

/-- `jupiter::find_event_authority`. -/
def findEventAuthority (crates : Crates) : Pubkey :=
  crates.findProgramAddress [asciiBytes "__event_authority"] jupiterId

/-! ## Accounts -/

/-- `BuildSwapAccountsParams`. -/
structure BuildSwapAccountsParams where
  useSharedAccounts : Bool
  swapMode : SwapMode
  user : Pubkey
  programAuthority : Pubkey
  userSourceTokenAccount : Pubkey
  sourceTokenAccount : Pubkey
  userDestinationTokenAccount : Pubkey
  destinationTokenAccount : Pubkey
  destinationTokenProgram : Pubkey
  inputMint : Pubkey
  outputMint : Pubkey
  tokenLedger : Option Pubkey
  platformFeeAccount : Option Pubkey
  optionalDestinationTokenAccount : Option Pubkey
  token2022Program : Option Pubkey

/-- `build_swap_accounts`. -/
def buildSwapAccounts (crates : Crates) (p : BuildSwapAccountsParams) :
    crates.Result (List AccountMeta) :=
  let program := jupiterId
  let eventAuthority := findEventAuthority crates
  let platformFeeAccount := p.platformFeeAccount.getD jupiterId
  let token2022Program := p.token2022Program.getD jupiterId
  match p.useSharedAccounts, p.swapMode, p.tokenLedger with
  | true, .exactIn, some tokenLedger =>
    .ok (crates.toAccountMetas "shared_accounts_route_with_token_ledger" [
      ("token_program", splTokenId),
      ("program_authority", p.programAuthority),
      ("user_transfer_authority", p.user),
      ("source_token_account", p.userSourceTokenAccount),
      ("program_source_token_account", p.sourceTokenAccount),
      ("program_destination_token_account", p.destinationTokenAccount),
      ("destination_token_account",
        p.optionalDestinationTokenAccount.getD p.userDestinationTokenAccount),
      ("source_mint", p.inputMint),
      ("destination_mint", p.outputMint),
      ("platform_fee_account", platformFeeAccount),
      ("token_2022_program", token2022Program),
      ("token_ledger", tokenLedger),
      ("event_authority", eventAuthority),
      ("program", program)])
  | true, .exactIn, none =>
    .ok (crates.toAccountMetas "shared_accounts_route" [
      ("token_program", splTokenId),
      ("program_authority", p.programAuthority),
      ("user_transfer_authority", p.user),
      ("source_token_account", p.userSourceTokenAccount),
      ("program_source_token_account", p.sourceTokenAccount),
      ("program_destination_token_account", p.destinationTokenAccount),
      ("destination_token_account",
        p.optionalDestinationTokenAccount.getD p.userDestinationTokenAccount),
      ("source_mint", p.inputMint),
      ("destination_mint", p.outputMint),
      ("platform_fee_account", platformFeeAccount),
      ("token_2022_program", token2022Program),
      ("event_authority", eventAuthority),
      ("program", program)])
  | true, .exactOut, none =>
    .ok (crates.toAccountMetas "shared_accounts_exact_out_route" [
      ("token_program", splTokenId),
      ("program_authority", p.programAuthority),
      ("user_transfer_authority", p.user),
      ("source_token_account", p.userSourceTokenAccount),
      ("program_source_token_account", p.sourceTokenAccount),
      ("program_destination_token_account", p.destinationTokenAccount),
      ("destination_token_account",
        p.optionalDestinationTokenAccount.getD p.userDestinationTokenAccount),
      ("source_mint", p.inputMint),
      ("destination_mint", p.outputMint),
      ("platform_fee_account", platformFeeAccount),
      ("token_2022_program", token2022Program),
      ("event_authority", eventAuthority),
      ("program", program)])
  | false, .exactIn, some tokenLedger =>
    .ok (crates.toAccountMetas "route_with_token_ledger" [
      ("token_program", p.destinationTokenProgram),
      ("user_transfer_authority", p.user),
      ("user_source_token_account", p.userSourceTokenAccount),
      ("user_destination_token_account", p.userDestinationTokenAccount),
      ("destination_mint", p.outputMint),
      ("platform_fee_account", platformFeeAccount),
      ("destination_token_account",
        p.optionalDestinationTokenAccount.getD p.userDestinationTokenAccount),
      ("token_ledger", tokenLedger),
      ("event_authority", eventAuthority),
      ("program", program)])
  | false, .exactIn, none =>
    .ok (crates.toAccountMetas "route" [
      ("token_program", p.destinationTokenProgram),
      ("user_transfer_authority", p.user),
      ("user_source_token_account", p.userSourceTokenAccount),
      ("user_destination_token_account", p.userDestinationTokenAccount),
      ("destination_mint", p.outputMint),
      ("platform_fee_account", platformFeeAccount),
      ("destination_token_account",
        p.optionalDestinationTokenAccount.getD p.userDestinationTokenAccount),
      ("event_authority", eventAuthority),
      ("program", program)])
  | false, .exactOut, none =>
    .ok (crates.toAccountMetas "exact_out_route" [
      ("token_program", splTokenId),
      ("user_transfer_authority", p.user),
      ("user_source_token_account", p.userSourceTokenAccount),
      ("user_destination_token_account", p.userDestinationTokenAccount),
      ("source_mint", p.inputMint),
      ("destination_mint", p.outputMint),
      ("platform_fee_account", platformFeeAccount),
      ("destination_token_account",
        p.optionalDestinationTokenAccount.getD p.userDestinationTokenAccount),
      ("token_2022_program", match p.token2022Program with
        | some token2022Program => token2022Program
        | none => jupiterId),
      ("event_authority", eventAuthority),
      ("program", program)])
  | _, .exactOut, _ =>
    .error (.err (crates.anyhow
      "SwapMode::ExactOut is only supported with shared accounts and without token ledger"))

/-! ## Serialisation -/

/-- The fields of a derived `AnchorSerialize`, one after the other. The first that cannot be
written ends it. -/
def writeAll : List (Option Bytes) → Option Bytes
  | [] => some []
  | field :: fields => field.bind fun x => (writeAll fields).map fun y => x ++ y

/-- `AnchorSerialize` of a `Vec`. -/
def serializeVec {α : Type} (serialize : α → Option Bytes) (l : List α) : Option Bytes :=
  if l.length < 2 ^ 32 then (writeAll (l.map serialize)).map (leBytes 4 l.length ++ ·) else none

/-- `jupiter_override::RoutePlanStep`. -/
structure RoutePlanStep (crates : Crates) where
  swap : crates.Swap
  percent : UInt8
  inputIndex : UInt8
  outputIndex : UInt8

section
variable {crates : Crates}

/-- `AnchorSerialize` of `RoutePlanStep`. -/
def RoutePlanStep.serialize (self : RoutePlanStep crates) : Option Bytes :=
  writeAll [
    crates.swapSerialize self.swap,
    Codec.u8.encode self.percent,
    Codec.u8.encode self.inputIndex,
    Codec.u8.encode self.outputIndex]

/-- `InstructionData::data`: the discriminator and the serialised arguments. -/
def instructionData (discriminator : Bytes) (serialized : Option Bytes) : crates.Result Bytes :=
  match serialized with
  | some bytes => .ok (discriminator ++ bytes)
  | none => .error (.panic "called `Result::unwrap()` on an `Err` value")

end

/-- `jupiter_override::Route`. -/
structure Route (crates : Crates) where
  routePlan : List (RoutePlanStep crates)
  inAmount : UInt64
  quotedOutAmount : UInt64
  slippageBps : UInt16
  platformFeeBps : UInt8

/-- `jupiter_override::ExactOutRoute`. -/
structure ExactOutRoute (crates : Crates) where
  routePlan : List (RoutePlanStep crates)
  outAmount : UInt64
  quotedInAmount : UInt64
  slippageBps : UInt16
  platformFeeBps : UInt8

/-- `jupiter_override::RouteWithTokenLedger`. -/
structure RouteWithTokenLedger (crates : Crates) where
  routePlan : List (RoutePlanStep crates)
  quotedOutAmount : UInt64
  slippageBps : UInt16
  platformFeeBps : UInt8

/-- `jupiter_override::SharedAccountsRoute`. -/
structure SharedAccountsRoute (crates : Crates) where
  id : UInt8
  routePlan : List (RoutePlanStep crates)
  inAmount : UInt64
  quotedOutAmount : UInt64
  slippageBps : UInt16
  platformFeeBps : UInt8

/-- `jupiter_override::SharedAccountsExactOutRoute`. -/
structure SharedAccountsExactOutRoute (crates : Crates) where
  id : UInt8
  routePlan : List (RoutePlanStep crates)
  outAmount : UInt64
  quotedInAmount : UInt64
  slippageBps : UInt16
  platformFeeBps : UInt8

/-- `jupiter_override::SharedAccountsRouteWithTokenLedger`. -/
structure SharedAccountsRouteWithTokenLedger (crates : Crates) where
  id : UInt8
  routePlan : List (RoutePlanStep crates)
  quotedOutAmount : UInt64
  slippageBps : UInt16
  platformFeeBps : UInt8

section
variable {crates : Crates}

/-- `InstructionData` of `Route`. -/
def Route.data (self : Route crates) : crates.Result Bytes :=
  instructionData (crates.discriminator "route") <| writeAll [
    serializeVec RoutePlanStep.serialize self.routePlan,
    Codec.u64.encode self.inAmount,
    Codec.u64.encode self.quotedOutAmount,
    Codec.u16.encode self.slippageBps,
    Codec.u8.encode self.platformFeeBps]

/-- `InstructionData` of `ExactOutRoute`. -/
def ExactOutRoute.data (self : ExactOutRoute crates) : crates.Result Bytes :=
  instructionData (crates.discriminator "exact_out_route") <| writeAll [
    serializeVec RoutePlanStep.serialize self.routePlan,
    Codec.u64.encode self.outAmount,
    Codec.u64.encode self.quotedInAmount,
    Codec.u16.encode self.slippageBps,
    Codec.u8.encode self.platformFeeBps]

/-- `InstructionData` of `RouteWithTokenLedger`. -/
def RouteWithTokenLedger.data (self : RouteWithTokenLedger crates) : crates.Result Bytes :=
  instructionData (crates.discriminator "route_with_token_ledger") <| writeAll [
    serializeVec RoutePlanStep.serialize self.routePlan,
    Codec.u64.encode self.quotedOutAmount,
    Codec.u16.encode self.slippageBps,
    Codec.u8.encode self.platformFeeBps]

/-- `InstructionData` of `SharedAccountsRoute`. -/
def SharedAccountsRoute.data (self : SharedAccountsRoute crates) : crates.Result Bytes :=
  instructionData (crates.discriminator "shared_accounts_route") <| writeAll [
    Codec.u8.encode self.id,
    serializeVec RoutePlanStep.serialize self.routePlan,
    Codec.u64.encode self.inAmount,
    Codec.u64.encode self.quotedOutAmount,
    Codec.u16.encode self.slippageBps,
    Codec.u8.encode self.platformFeeBps]

/-- `InstructionData` of `SharedAccountsExactOutRoute`. -/
def SharedAccountsExactOutRoute.data (self : SharedAccountsExactOutRoute crates) :
    crates.Result Bytes :=
  instructionData (crates.discriminator "shared_accounts_exact_out_route") <| writeAll [
    Codec.u8.encode self.id,
    serializeVec RoutePlanStep.serialize self.routePlan,
    Codec.u64.encode self.outAmount,
    Codec.u64.encode self.quotedInAmount,
    Codec.u16.encode self.slippageBps,
    Codec.u8.encode self.platformFeeBps]

/-- `InstructionData` of `SharedAccountsRouteWithTokenLedger`. -/
def SharedAccountsRouteWithTokenLedger.data (self : SharedAccountsRouteWithTokenLedger crates) :
    crates.Result Bytes :=
  instructionData (crates.discriminator "shared_accounts_route_with_token_ledger") <| writeAll [
    Codec.u8.encode self.id,
    serializeVec RoutePlanStep.serialize self.routePlan,
    Codec.u64.encode self.quotedOutAmount,
    Codec.u16.encode self.slippageBps,
    Codec.u8.encode self.platformFeeBps]

end

/-! ## Instruction data -/

/-- `BuildSwapInstructionDataParams`. -/
structure BuildSwapInstructionDataParams (crates : Crates) where
  useSharedAccounts : Bool
  useTokenLedger : Bool
  programAuthorityId : UInt8
  routePlan : List (RoutePlanStep crates)
  amount : UInt64
  quotedAmount : UInt64
  swapMode : SwapMode
  slippageBps : UInt16
  platformFeeBps : UInt8

/-- `build_swap_instruction_data`. -/
def buildSwapInstructionData {crates : Crates} (p : BuildSwapInstructionDataParams crates) :
    crates.Result Bytes :=
  match p.swapMode with
  | .exactIn => match p.useSharedAccounts, p.useTokenLedger with
    | true, true => SharedAccountsRouteWithTokenLedger.data {
        id := p.programAuthorityId
        routePlan := p.routePlan
        quotedOutAmount := p.quotedAmount
        slippageBps := p.slippageBps
        platformFeeBps := p.platformFeeBps }
    | true, false => SharedAccountsRoute.data {
        id := p.programAuthorityId
        routePlan := p.routePlan
        inAmount := p.amount
        quotedOutAmount := p.quotedAmount
        slippageBps := p.slippageBps
        platformFeeBps := p.platformFeeBps }
    | false, true => RouteWithTokenLedger.data {
        routePlan := p.routePlan
        quotedOutAmount := p.quotedAmount
        slippageBps := p.slippageBps
        platformFeeBps := p.platformFeeBps }
    | false, false => Route.data {
        routePlan := p.routePlan
        inAmount := p.amount
        quotedOutAmount := p.quotedAmount
        slippageBps := p.slippageBps
        platformFeeBps := p.platformFeeBps }
  | .exactOut => match p.useSharedAccounts with
    | true => SharedAccountsExactOutRoute.data {
        id := p.programAuthorityId
        routePlan := p.routePlan
        outAmount := p.amount
        quotedInAmount := p.quotedAmount
        slippageBps := p.slippageBps
        platformFeeBps := p.platformFeeBps }
    | false => ExactOutRoute.data {
        routePlan := p.routePlan
        outAmount := p.amount
        quotedInAmount := p.quotedAmount
        slippageBps := p.slippageBps
        platformFeeBps := p.platformFeeBps }

end JupiterAmm
