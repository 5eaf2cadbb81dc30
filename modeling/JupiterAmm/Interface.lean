import JupiterAmm.FileTree
import JupiterAmm.Borsh.Codec
import JupiterAmm.Base58

/-!
# The interface to other crates

The types the repository takes from `jupiter_amm_interface`, `solana_sdk`, `spl_token` and
`spl_token_swap`, with the fields it reads, and the trait `Amm` as a class. What these crates
compute is not part of the repository: it is the record `Crates`, a parameter of the model. A
theorem that relies on a crate's behaviour says so in a hypothesis about the field; the ones
several results share are named at the end of the module.
-/

namespace JupiterAmm

open Rust Borsh

/-! ## Keys and accounts -/

/-- `solana_sdk::pubkey::Pubkey`: 32 bytes, as the big-endian number they spell. -/
abbrev Pubkey := BitVec 256

/-- The `pubkey!` macro: the key a Base58 literal denotes. -/
def pubkey (s : String) : Pubkey := BitVec.ofNat 256 (Base58.decode s)

/-- `Pubkey::to_bytes`. -/
def Pubkey.toBytes (k : Pubkey) : Bytes := (leBytes 32 k.toNat).reverse

/-- `solana_sdk::account::Account`. -/
structure Account where
  lamports : UInt64
  data : Bytes
  owner : Pubkey
  executable : Bool
  rentEpoch : UInt64
  deriving DecidableEq

/-- `AccountMap`: the accounts an AMM is updated from. -/
abbrev AccountMap := HashMap Pubkey Account

/-- `KeyedAccount`: an AMM's own account, with the JSON parameters of its market. -/
structure KeyedAccount (Value : Type) where
  key : Pubkey
  account : Account
  params : Option Value
  deriving DecidableEq

/-- `AccountMeta`: one account slot of an instruction. -/
structure AccountMeta where
  pubkey : Pubkey
  isSigner : Bool
  isWritable : Bool
  deriving DecidableEq

/-- `AccountMeta::new`. -/
def AccountMeta.new (pubkey : Pubkey) (isSigner : Bool) : AccountMeta :=
  ⟨pubkey, isSigner, true⟩

/-- `AccountMeta::new_readonly`. -/
def AccountMeta.newReadonly (pubkey : Pubkey) (isSigner : Bool) : AccountMeta :=
  ⟨pubkey, isSigner, false⟩

@[simp] theorem AccountMeta.pubkey_new (k : Pubkey) (s : Bool) :
    (AccountMeta.new k s).pubkey = k := rfl

/-- `Instruction`. -/
structure Instruction where
  programId : Pubkey
  accounts : List AccountMeta
  data : Bytes
  deriving DecidableEq

/-- `spl_token::ID`. -/
def splTokenId : Pubkey := pubkey "TokenkegQfeZyiNwAJbNbGKPFXCWuBvf9Ss623VQ5DA"

/-! ## Errors -/

/-- `anyhow::Error`, as far as the repository looks into one: the text it prints, and the anchor
error it can be downcast to. -/
structure AnyhowError (AnchorError : Type) where
  message : String
  anchor : Option AnchorError
  deriving DecidableEq

/-! ## The token swap program -/

/-- `spl_token_swap::curve::calculator::TradeDirection`. -/
inductive TradeDirection where
  | aToB
  | bToA
  deriving DecidableEq, Repr

/-- `spl_token_swap::curve::fees::Fees`, the four fields the repository reads. -/
structure TokenSwapFees where
  tradeFeeNumerator : UInt64
  tradeFeeDenominator : UInt64
  ownerTradeFeeNumerator : UInt64
  ownerTradeFeeDenominator : UInt64
  deriving DecidableEq, Repr

/-- `spl_token_swap::curve::base::SwapCurve`. -/
structure SwapCurve (CurveType Calculator : Type) where
  curveType : CurveType
  calculator : Calculator
  deriving DecidableEq

/-- `spl_token_swap::state::SwapV1`: the state of a pool. -/
structure SwapV1 (CurveType Calculator : Type) where
  isInitialized : Bool
  bumpSeed : UInt8
  tokenProgramId : Pubkey
  tokenA : Pubkey
  tokenB : Pubkey
  poolMint : Pubkey
  tokenAMint : Pubkey
  tokenBMint : Pubkey
  poolFeeAccount : Pubkey
  fees : TokenSwapFees
  swapCurve : SwapCurve CurveType Calculator
  deriving DecidableEq

/-- `spl_token_swap::curve::base::SwapResult`, the four amounts the repository reads. -/
structure CurveResult where
  sourceAmountSwapped : U128
  destinationAmountSwapped : U128
  tradeFee : U128
  ownerFee : U128
  deriving DecidableEq

/-- `spl_token::state::Account`, the field the repository reads. -/
structure TokenAccount where
  amount : UInt64
  deriving DecidableEq

/-! ## The crates -/

/-- What the repository uses of the crates it depends on. -/
structure Crates where
  /-- `anchor_lang::error::Error`. -/
  AnchorError : Type
  /-- `PartialEq` of `anchor_lang::error::Error`. -/
  anchorErrorEq : AnchorError → AnchorError → Bool
  /-- `rust_decimal::Decimal`. -/
  Decimal : Type
  /-- `Decimal::ZERO`. -/
  decimalZero : Decimal
  /-- `Decimal::from_u64`. -/
  decimalFromU64 : UInt64 → Option Decimal
  /-- `Decimal::checked_div`. -/
  decimalCheckedDiv : Decimal → Decimal → Option Decimal
  /-- `Decimal::checked_add`. -/
  decimalCheckedAdd : Decimal → Decimal → Option Decimal
  /-- `jupiter_amm_interface::Swap`. -/
  Swap : Type
  /-- `Swap::TokenSwap`. -/
  swapTokenSwap : Swap
  /-- `AnchorSerialize` of `Swap`. -/
  swapSerialize : Swap → Option Bytes
  /-- `jupiter_amm_interface::try_get_account_data`. -/
  tryGetAccountData : AccountMap → Pubkey → Except (AnyhowError AnchorError) Bytes
  /-- `spl_token_swap::curve::base::CurveType`. -/
  CurveType : Type
  /-- The `CurveCalculator` behind a pool's curve. -/
  Calculator : Type
  /-- `SwapV1::unpack`. -/
  swapV1Unpack : Bytes → Except (AnyhowError AnchorError) (SwapV1 CurveType Calculator)
  /-- `spl_token::state::Account::unpack`. -/
  tokenAccountUnpack : Bytes → Except (AnyhowError AnchorError) TokenAccount
  /-- `SwapCurve::swap`. -/
  swapCurveSwap : SwapCurve CurveType Calculator → U128 → U128 → U128 → TradeDirection →
    TokenSwapFees → Option CurveResult
  /-- `Pubkey::find_program_address`, without the bump seed. -/
  findProgramAddress : List Bytes → Pubkey → Pubkey
  /-- The discriminator `anchor_gen` gives the instruction of a name. -/
  discriminator : String → Bytes
  /-- `to_account_metas(None)` of the account struct `anchor_gen` generates for the instruction of
  a name, at the given fields. -/
  toAccountMetas : String → List (String × Pubkey) → List AccountMeta
  /-- `serde_json::Value`. -/
  Value : Type
  /-- The value is `Value::Null`. -/
  valueIsNull : Value → Bool
  /-- `Value::to_string`. -/
  valueToString : Value → String
  /-- `serde_json::from_reader` at `Value`. -/
  valueFromStr : String → Option Value
  /-- `solana_account_decoder::UiAccount`. -/
  UiAccount : Type
  /-- `encode_ui_account` at Base64. -/
  encodeUiAccount : Pubkey → Account → UiAccount
  /-- `UiAccount::decode`. -/
  uiAccountDecode : UiAccount → Option Account
  /-- The JSON text of an `RpcKeyedAccount`, a printed key with a `UiAccount`. -/
  rpcKeyedAccountToString : String × UiAccount → String
  /-- `serde_json::from_reader` at `RpcKeyedAccount`. -/
  rpcKeyedAccountFromStr : String → Option (String × UiAccount)
  /-- `Display` of `Pubkey`. -/
  pubkeyToString : Pubkey → String
  /-- `Pubkey::from_str`. -/
  pubkeyFromStr : String → Option Pubkey
  /-- What the run's call of `Pubkey::new_unique` returns. -/
  newUnique : Pubkey
  /-- The order in which a `HashSet` of the listed keys is iterated. -/
  hashSetOrder : List Pubkey → List Pubkey
  /-- `glob::glob`, without the entries it cannot read. `none` stands for a `PatternError`. -/
  glob : FileTree String → String → Option (List FilePath)
  /-- An `io::Error` as an `anyhow::Error`. Its text is the operating system's. -/
  ioError : AnyhowError AnchorError
  /-- `ComputeBudgetInstruction::set_compute_unit_limit`. -/
  setComputeUnitLimit : UInt32 → Instruction
  /-- `Transaction::new_signed_with_payer`, for the instructions, the payer and the keys that sign.
  It panics where these are not the signers the instructions and the payer ask for. -/
  newSignedWithPayer : List Instruction → Pubkey → List Pubkey →
    Outcome (AnyhowError AnchorError) Unit

/-- `anyhow::Error` over the anchor errors of the crates. -/
abbrev Crates.Error (crates : Crates) := AnyhowError crates.AnchorError

/-- `anyhow::Result`, with the panics of the function that returns it. -/
abbrev Crates.Result (crates : Crates) (α : Type) := Outcome crates.Error α

/-- `anyhow!` and `context`: an error that prints a text and wraps no anchor error. -/
def Crates.anyhow (crates : Crates) (message : String) : crates.Error := ⟨message, none⟩

/-! ## The AMM trait -/

/-- `jupiter_amm_interface::SwapMode`. -/
inductive SwapMode where
  | exactIn
  | exactOut
  deriving DecidableEq, Repr

/-- `QuoteParams`. -/
structure QuoteParams where
  amount : UInt64
  inputMint : Pubkey
  outputMint : Pubkey
  swapMode : SwapMode
  deriving DecidableEq

/-- `Quote`, the fields the repository fills. -/
structure Quote (crates : Crates) where
  inAmount : UInt64
  outAmount : UInt64
  feeAmount : UInt64
  feeMint : Pubkey
  feePct : crates.Decimal

/-- `SwapParams`. -/
structure SwapParams where
  swapMode : SwapMode
  inAmount : UInt64
  outAmount : UInt64
  sourceMint : Pubkey
  destinationMint : Pubkey
  sourceTokenAccount : Pubkey
  destinationTokenAccount : Pubkey
  tokenTransferAuthority : Pubkey
  quoteMintToReferrer : Option (HashMap Pubkey Pubkey)
  jupiterProgramId : Pubkey
  missingDynamicAccountsAsDefault : Bool

/-- `SwapAndAccountMetas`. -/
structure SwapAndAccountMetas (crates : Crates) where
  swap : crates.Swap
  accountMetas : List AccountMeta

/-- The trait `jupiter_amm_interface::Amm`, the methods the repository calls through a `dyn Amm`. -/
class Amm (crates : outParam Crates) (α : Type) where
  getReserveMints : α → List Pubkey
  getAccountsToUpdate : α → List Pubkey
  update : AccountMap → RustM crates.Error α Unit
  quote : α → QuoteParams → crates.Result (Quote crates)
  getSwapAndAccountMetas : α → SwapParams → crates.Result (SwapAndAccountMetas crates)
  unidirectional : α → Bool

/-! ## Assumptions about the crates -/

/-- `try_get_account_data` returns the data of the entry at the address, and an `Err` that names
the address where there is none. -/
def Crates.ReadsAccountMap (crates : Crates) : Prop :=
  ∃ missing : Pubkey → crates.Error, ∀ (m : AccountMap) (k : Pubkey),
    crates.tryGetAccountData m k = match m k with
      | some account => .ok account.data
      | none => .error (missing k)

/-- A key signs, beside the payer, for a swap instruction that names it as its only signer. -/
def Crates.SignsForUser (crates : Crates) : Prop :=
  ∀ (swapIx : Instruction) (payer user : Pubkey),
    swapIx.accounts.filter (·.isSigner) = [⟨user, true, false⟩] →
    crates.newSignedWithPayer [crates.setComputeUnitLimit 1400000, swapIx] payer [payer, user] =
      .ok ()

/-- `calculate_fee` of the token swap program: the floor of the fee, but at least one. -/
def calculateFee (amount numerator denominator : Nat) : Option Nat :=
  if numerator = 0 ∨ amount = 0 then some 0
  else if denominator = 0 then none
  else some (max 1 (amount * numerator / denominator))

end JupiterAmm
