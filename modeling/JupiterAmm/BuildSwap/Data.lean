import JupiterAmm.Reference

/-!
# Instruction data and the interface description

The argument structs of `jupiter_override` are kept by hand beside the ones generated from the
interface description. Each writes exactly the argument list the description gives for the
instruction whose discriminator it uses, field by field and by name
(`buildSwapInstructionData_eq`). The codec of that argument list is canonical, so what
`build_swap_instruction_data` returns decodes, with no byte left over, to the request it was built
from, and re-encoding what was decoded gives the same bytes (`instructionData_roundtrip`).
-/

namespace JupiterAmm

open Rust Borsh

/-! ## Assumptions about the generated code -/

/-- The generated instructions carry the discriminators of the interface description. -/
def Crates.DiscriminatorsMatchIdl (crates : Crates) : Prop :=
  ∀ ix ∈ Idl.routeInstructions, crates.discriminator ix.name = ix.discriminator

/-- The enum `Swap` of the AMM interface is written like the one of the interface description. -/
structure Crates.SwapMatchesIdl (crates : Crates) (toIdl : crates.Swap → Idl.swap.denote) :
    Prop where
  injective : Function.Injective toIdl
  serialize : ∀ s, crates.swapSerialize s = Idl.swap.codec.encode (toIdl s)

theorem discriminatorsMatchIdl_referenceCrates : referenceCrates.DiscriminatorsMatchIdl := by
  intro ix hix
  simp only [Idl.routeInstructions, List.mem_cons, List.not_mem_nil, or_false] at hix
  rcases hix with rfl | rfl | rfl | rfl | rfl | rfl <;> rfl

theorem swapMatchesIdl_referenceCrates :
    referenceCrates.SwapMatchesIdl (fun swap => swap) where
  injective := fun _ _ h => h
  serialize _ := rfl

/-! ## What the description says of a request -/

/-- The instruction the interface description has for a request. -/
def routeInstruction (useSharedAccounts useTokenLedger : Bool) : SwapMode → Idl.Instruction
  | .exactIn => match useSharedAccounts, useTokenLedger with
    | true, true => Idl.sharedAccountsRouteWithTokenLedger
    | true, false => Idl.sharedAccountsRoute
    | false, true => Idl.routeWithTokenLedger
    | false, false => Idl.route
  | .exactOut =>
    if useSharedAccounts then Idl.sharedAccountsExactOutRoute else Idl.exactOutRoute

/-- The instruction of a request for data. -/
def BuildSwapInstructionDataParams.instruction {crates : Crates}
    (p : BuildSwapInstructionDataParams crates) : Idl.Instruction :=
  routeInstruction p.useSharedAccounts p.useTokenLedger p.swapMode

section
variable {crates : Crates} (toIdl : crates.Swap → Idl.swap.denote)

/-- A step of a route plan, as a value of the interface description. -/
def stepValue (step : RoutePlanStep crates) : Idl.routePlanStep.denote :=
  (toIdl step.swap, step.percent, step.inputIndex, step.outputIndex, ())

/-- The fields of a step of a route plan, by name. -/
def stepSpec (step : RoutePlanStep crates) : String → Option AnyValue
  | "swap" => some ⟨Idl.swap, toIdl step.swap⟩
  | "percent" => some ⟨.u8, step.percent⟩
  | "input_index" => some ⟨.u8, step.inputIndex⟩
  | "output_index" => some ⟨.u8, step.outputIndex⟩
  | _ => none

/-- The arguments of a request, by name. -/
def argSpec (p : BuildSwapInstructionDataParams crates) : String → Option AnyValue
  | "id" => some ⟨.u8, p.programAuthorityId⟩
  | "route_plan" => some ⟨.vec Idl.routePlanStep, p.routePlan.map (stepValue toIdl)⟩
  | "in_amount" => if p.swapMode = .exactIn then some ⟨.u64, p.amount⟩ else none
  | "quoted_out_amount" => if p.swapMode = .exactIn then some ⟨.u64, p.quotedAmount⟩ else none
  | "out_amount" => if p.swapMode = .exactOut then some ⟨.u64, p.amount⟩ else none
  | "quoted_in_amount" => if p.swapMode = .exactOut then some ⟨.u64, p.quotedAmount⟩ else none
  | "slippage_bps" => some ⟨.u16, p.slippageBps⟩
  | "platform_fee_bps" => some ⟨.u8, p.platformFeeBps⟩
  | _ => none

/-- The value of a step holds its fields under their names. -/
theorem stepValue_holds (step : RoutePlanStep crates) :
    Idl.routePlanStepFields.Holds (stepSpec toIdl step) (stepValue toIdl step) :=
  ⟨rfl, rfl, rfl, rfl, trivial⟩

variable {toIdl}

theorem stepValue_injective (hswap : Function.Injective toIdl) :
    Function.Injective (stepValue toIdl) := by
  rintro ⟨swap, percent, inputIndex, outputIndex⟩ ⟨swap', percent', inputIndex', outputIndex'⟩ h
  obtain ⟨hs, h⟩ := Prod.mk.inj h
  obtain ⟨hp, h⟩ := Prod.mk.inj h
  obtain ⟨hi, h⟩ := Prod.mk.inj h
  obtain ⟨ho, -⟩ := Prod.mk.inj h
  obtain rfl : swap = swap' := hswap hs
  obtain rfl : percent = percent' := hp
  obtain rfl : inputIndex = inputIndex' := hi
  obtain rfl : outputIndex = outputIndex' := ho
  rfl

/-! ## The serialised structs -/

/-- The serialised elements of a list, as the codec of the elements writes them. -/
theorem writeAll_map {α β : Type} (c : Codec β) (f : α → β) (l : List α) :
    writeAll (l.map fun a => c.encode (f a)) = c.encodeAll (l.map f) := by
  induction l with
  | nil => rfl
  | cons a l ih => rw [List.map_cons, writeAll, ih, List.map_cons, Codec.encodeAll]

theorem serialize_step (hswap : crates.SwapMatchesIdl toIdl) (step : RoutePlanStep crates) :
    step.serialize = Idl.routePlanStep.codec.encode (stepValue toIdl step) := by
  rw [RoutePlanStep.serialize, hswap.serialize]
  rfl

/-- A route plan is written as the vector of its steps. -/
theorem serialize_plan (hswap : crates.SwapMatchesIdl toIdl) (plan : List (RoutePlanStep crates)) :
    serializeVec RoutePlanStep.serialize plan =
      (Ty.vec Idl.routePlanStep).codec.encode (plan.map (stepValue toIdl)) := by
  have hsteps : plan.map RoutePlanStep.serialize =
      plan.map fun step => Idl.routePlanStep.codec.encode (stepValue toIdl step) :=
    List.map_congr_left fun step _ => serialize_step hswap step
  have hcodec : (Ty.vec Idl.routePlanStep).codec = Codec.vec Idl.routePlanStep.codec := rfl
  rw [serializeVec, hsteps, writeAll_map, hcodec]
  by_cases hlen : plan.length < 2 ^ 32
  · rw [if_pos hlen, Codec.encode_vec_of_lt _ (by rw [List.length_map]; exact hlen),
      List.length_map]
  · rw [if_neg hlen, Codec.encode_vec_of_not_lt _ (by rw [List.length_map]; exact hlen)]

/-- A step can be written as soon as its swap can. -/
theorem isSome_serialize_step (step : RoutePlanStep crates) :
    step.serialize.isSome ↔ (crates.swapSerialize step.swap).isSome := by
  rw [RoutePlanStep.serialize, writeAll]
  cases crates.swapSerialize step.swap <;> rfl

/-- Fields can be written as soon as each of them can. -/
theorem isSome_writeAll (fields : List (Option Bytes)) :
    (writeAll fields).isSome ↔ ∀ field ∈ fields, field.isSome := by
  induction fields with
  | nil => simp [writeAll]
  | cons field fields ih =>
    rw [List.forall_mem_cons, ← ih, writeAll]
    cases field <;> cases writeAll fields <;> simp

/-- A plan can be written as soon as it is below `2 ^ 32` steps and each of its swaps can be. -/
theorem isSome_serialize_plan (plan : List (RoutePlanStep crates)) :
    (serializeVec RoutePlanStep.serialize plan).isSome ↔
      plan.length < 2 ^ 32 ∧ ∀ step ∈ plan, (crates.swapSerialize step.swap).isSome := by
  have hsteps : (∀ field ∈ plan.map RoutePlanStep.serialize, field.isSome) ↔
      ∀ step ∈ plan, (crates.swapSerialize step.swap).isSome := by
    rw [List.forall_mem_map]
    exact forall₂_congr fun step _ => isSome_serialize_step step
  rw [← hsteps, ← isSome_writeAll, serializeVec]
  split
  · next hlen => rw [Option.isSome_map, and_iff_right hlen]
  · next hlen => exact ⟨nofun, fun h => absurd h.1 hlen⟩

/-! ## The data of a request -/

/-- **The data of a request is the argument list of its instruction**, written by the codec of that
list behind the discriminator of the instruction. -/
theorem buildSwapInstructionData_eq (hdisc : crates.DiscriminatorsMatchIdl)
    (hswap : crates.SwapMatchesIdl toIdl) (p : BuildSwapInstructionDataParams crates) :
    ∃ args, p.instruction.args.Holds (argSpec toIdl p) args ∧
      buildSwapInstructionData p =
        instructionData p.instruction.discriminator (p.instruction.args.codec.encode args) := by
  rcases p with ⟨shared, ledger, id, plan, amount, quoted, mode, slippage, fee⟩
  have hplan := serialize_plan hswap plan
  obtain ⟨hexactOut, hroute, hledger, hsharedExactOut, hshared, hsharedLedger⟩ :=
    Idl.mem_routeInstructions
  -- one case for each instruction: name the arguments, then compare the bytes
  cases mode with
  | exactIn =>
    cases shared <;> cases ledger
    · refine ⟨(plan.map (stepValue toIdl), amount, quoted, slippage, fee, ()),
        ⟨rfl, rfl, rfl, rfl, rfl, trivial⟩, ?_⟩
      show instructionData (crates.discriminator Idl.route.name) _ = _
      rw [hdisc _ hroute, hplan]
      rfl
    · refine ⟨(plan.map (stepValue toIdl), quoted, slippage, fee, ()),
        ⟨rfl, rfl, rfl, rfl, trivial⟩, ?_⟩
      show instructionData (crates.discriminator Idl.routeWithTokenLedger.name) _ = _
      rw [hdisc _ hledger, hplan]
      rfl
    · refine ⟨(id, plan.map (stepValue toIdl), amount, quoted, slippage, fee, ()),
        ⟨rfl, rfl, rfl, rfl, rfl, rfl, trivial⟩, ?_⟩
      show instructionData (crates.discriminator Idl.sharedAccountsRoute.name) _ = _
      rw [hdisc _ hshared, hplan]
      rfl
    · refine ⟨(id, plan.map (stepValue toIdl), quoted, slippage, fee, ()),
        ⟨rfl, rfl, rfl, rfl, rfl, trivial⟩, ?_⟩
      show instructionData (crates.discriminator Idl.sharedAccountsRouteWithTokenLedger.name) _ = _
      rw [hdisc _ hsharedLedger, hplan]
      rfl
  | exactOut =>
    cases shared
    · refine ⟨(plan.map (stepValue toIdl), amount, quoted, slippage, fee, ()),
        ⟨rfl, rfl, rfl, rfl, rfl, trivial⟩, ?_⟩
      show instructionData (crates.discriminator Idl.exactOutRoute.name) _ = _
      rw [hdisc _ hexactOut, hplan]
      rfl
    · refine ⟨(id, plan.map (stepValue toIdl), amount, quoted, slippage, fee, ()),
        ⟨rfl, rfl, rfl, rfl, rfl, rfl, trivial⟩, ?_⟩
      show instructionData (crates.discriminator Idl.sharedAccountsExactOutRoute.name) _ = _
      rw [hdisc _ hsharedExactOut, hplan]
      rfl

/-- The instruction of a request is one of the six. -/
theorem instruction_mem (p : BuildSwapInstructionDataParams crates) :
    p.instruction ∈ Idl.routeInstructions := by
  rcases p with ⟨shared, ledger, id, plan, amount, quoted, mode, slippage, fee⟩
  obtain ⟨hexactOut, hroute, hledger, hsharedExactOut, hshared, hsharedLedger⟩ :=
    Idl.mem_routeInstructions
  cases mode <;> cases shared <;> cases ledger <;> assumption

theorem instructionData_eq_ok {discriminator bytes : Bytes} {serialized : Option Bytes} :
    (instructionData discriminator serialized : crates.Result Bytes) = .ok bytes ↔
      ∃ x, serialized = some x ∧ bytes = discriminator ++ x := by
  cases serialized <;> simp [instructionData, eq_comm]

/-- The data of a request is there as soon as its route plan can be written, and is never an
`Err`. It starts with the discriminator of the request's instruction. -/
theorem buildSwapInstructionData_cases (p : BuildSwapInstructionDataParams crates) :
    ((∃ rest, buildSwapInstructionData p =
        .ok (crates.discriminator p.instruction.name ++ rest)) ∧
      (serializeVec RoutePlanStep.serialize p.routePlan).isSome) ∨
    ((∃ message, buildSwapInstructionData p = .error (.panic message)) ∧
      ¬ (serializeVec RoutePlanStep.serialize p.routePlan).isSome) := by
  rcases p with ⟨shared, ledger, id, plan, amount, quoted, mode, slippage, fee⟩
  unfold buildSwapInstructionData Route.data ExactOutRoute.data RouteWithTokenLedger.data
    SharedAccountsRoute.data SharedAccountsExactOutRoute.data
    SharedAccountsRouteWithTokenLedger.data
  cases hplan : serializeVec RoutePlanStep.serialize plan with
  | none =>
    refine .inr ⟨?_, Bool.false_ne_true⟩
    cases mode <;> cases shared <;> cases ledger <;> exact ⟨_, rfl⟩
  | some x =>
    refine .inl ⟨?_, rfl⟩
    cases mode <;> cases shared <;> cases ledger <;> exact ⟨_, rfl⟩

/-! ## Decoding -/

/-- The discriminator at the start of some data tells its instruction. -/
theorem eq_of_discriminator_append {ix ix' : Idl.Instruction} (hix : ix ∈ Idl.routeInstructions)
    (hix' : ix' ∈ Idl.routeInstructions) {rest rest' : Bytes}
    (h : ix.discriminator ++ rest = ix'.discriminator ++ rest') : ix = ix' ∧ rest = rest' := by
  have hlen : ix.discriminator.length = ix'.discriminator.length := by
    rw [Idl.length_discriminator hix, Idl.length_discriminator hix']
  obtain ⟨hd, hrest⟩ := List.append_inj h hlen
  exact ⟨Idl.discriminator_inj hix hix' hd, hrest⟩

section
variable (hdisc : crates.DiscriminatorsMatchIdl) (hswap : crates.SwapMatchesIdl toIdl)
include hdisc hswap

/-- The data of a request decodes to the request, with no byte left over. -/
theorem decode_buildSwapInstructionData {p : BuildSwapInstructionDataParams crates} {bytes : Bytes}
    (h : buildSwapInstructionData p = .ok bytes) :
    ∃ rest args, bytes = p.instruction.discriminator ++ rest ∧
      p.instruction.args.codec.decode rest = some (args, []) ∧
      p.instruction.args.Holds (argSpec toIdl p) args := by
  obtain ⟨args, hargs, heq⟩ := buildSwapInstructionData_eq hdisc hswap p
  rw [heq, instructionData_eq_ok] at h
  obtain ⟨rest, hrest, rfl⟩ := h
  have hdecode := p.instruction.args.codec.decode_encode hrest []
  rw [List.append_nil] at hdecode
  exact ⟨rest, args, rfl, hdecode, hargs⟩

/-- Bytes that decode to a request are the data of that request. -/
theorem buildSwapInstructionData_of_decode {p : BuildSwapInstructionDataParams crates}
    {rest : Bytes} {args : p.instruction.args.denote}
    (hdecode : p.instruction.args.codec.decode rest = some (args, []))
    (hargs : p.instruction.args.Holds (argSpec toIdl p) args) :
    buildSwapInstructionData p = .ok (p.instruction.discriminator ++ rest) := by
  obtain ⟨args', hargs', heq⟩ := buildSwapInstructionData_eq hdisc hswap p
  obtain rfl := hargs'.unique hargs
  obtain ⟨pre, hpre, hrest⟩ := p.instruction.args.codec.encode_decode hdecode
  rw [List.append_nil] at hrest
  rw [heq, hpre, hrest]
  rfl

/-- Every argument list whose route plan uses the swaps of the AMM interface is the one of some
request, and so is written back as it was read. -/
theorem exists_params_of_decode {ix : Idl.Instruction} (hix : ix ∈ Idl.routeInstructions)
    {rest : Bytes} {args : ix.args.denote} (hdecode : ix.args.codec.decode rest = some (args, []))
    {plan : List (RoutePlanStep crates)}
    (hplan : ix.args.get? args "route_plan" =
      some ⟨.vec Idl.routePlanStep, plan.map (stepValue toIdl)⟩) :
    ∃ p : BuildSwapInstructionDataParams crates, p.instruction = ix ∧ p.routePlan = plan ∧
      buildSwapInstructionData p = .ok (ix.discriminator ++ rest) := by
  have hrebuild : ∀ (p : BuildSwapInstructionDataParams crates) (args : p.instruction.args.denote),
      p.instruction.args.codec.decode rest = some (args, []) →
      p.instruction.args.Holds (argSpec toIdl p) args →
      buildSwapInstructionData p = .ok (p.instruction.discriminator ++ rest) :=
    fun p args h hargs => buildSwapInstructionData_of_decode hdisc hswap h hargs
  simp only [Idl.routeInstructions, List.mem_cons, List.not_mem_nil, or_false] at hix
  rcases hix with rfl | rfl | rfl | rfl | rfl | rfl
  · obtain ⟨steps, amount, quoted, slippage, fee, ⟨⟩⟩ := args
    obtain rfl : steps = plan.map (stepValue toIdl) := AnyValue.inj hplan
    exact ⟨⟨false, false, 0, plan, amount, quoted, .exactOut, slippage, fee⟩, rfl, rfl,
      hrebuild _ _ hdecode ⟨rfl, rfl, rfl, rfl, rfl, trivial⟩⟩
  · obtain ⟨steps, amount, quoted, slippage, fee, ⟨⟩⟩ := args
    obtain rfl : steps = plan.map (stepValue toIdl) := AnyValue.inj hplan
    exact ⟨⟨false, false, 0, plan, amount, quoted, .exactIn, slippage, fee⟩, rfl, rfl,
      hrebuild _ _ hdecode ⟨rfl, rfl, rfl, rfl, rfl, trivial⟩⟩
  · obtain ⟨steps, quoted, slippage, fee, ⟨⟩⟩ := args
    obtain rfl : steps = plan.map (stepValue toIdl) := AnyValue.inj hplan
    exact ⟨⟨false, true, 0, plan, 0, quoted, .exactIn, slippage, fee⟩, rfl, rfl,
      hrebuild _ _ hdecode ⟨rfl, rfl, rfl, rfl, trivial⟩⟩
  · obtain ⟨id, steps, amount, quoted, slippage, fee, ⟨⟩⟩ := args
    obtain rfl : steps = plan.map (stepValue toIdl) := AnyValue.inj hplan
    exact ⟨⟨true, false, id, plan, amount, quoted, .exactOut, slippage, fee⟩, rfl, rfl,
      hrebuild _ _ hdecode ⟨rfl, rfl, rfl, rfl, rfl, rfl, trivial⟩⟩
  · obtain ⟨id, steps, amount, quoted, slippage, fee, ⟨⟩⟩ := args
    obtain rfl : steps = plan.map (stepValue toIdl) := AnyValue.inj hplan
    exact ⟨⟨true, false, id, plan, amount, quoted, .exactIn, slippage, fee⟩, rfl, rfl,
      hrebuild _ _ hdecode ⟨rfl, rfl, rfl, rfl, rfl, rfl, trivial⟩⟩
  · obtain ⟨id, steps, quoted, slippage, fee, ⟨⟩⟩ := args
    obtain rfl : steps = plan.map (stepValue toIdl) := AnyValue.inj hplan
    exact ⟨⟨true, true, id, plan, 0, quoted, .exactIn, slippage, fee⟩, rfl, rfl,
      hrebuild _ _ hdecode ⟨rfl, rfl, rfl, rfl, rfl, trivial⟩⟩

end

/-! ## The round trip -/

/-- Two requests agree on everything their instruction carries. -/
structure BuildSwapInstructionDataParams.Agrees (p p' : BuildSwapInstructionDataParams crates) :
    Prop where
  instruction : p.instruction = p'.instruction
  swapMode : p.swapMode = p'.swapMode
  useSharedAccounts : p.useSharedAccounts = p'.useSharedAccounts
  routePlan : p.routePlan = p'.routePlan
  quotedAmount : p.quotedAmount = p'.quotedAmount
  slippageBps : p.slippageBps = p'.slippageBps
  platformFeeBps : p.platformFeeBps = p'.platformFeeBps
  amount : "in_amount" ∈ p.instruction.args.names ∨ "out_amount" ∈ p.instruction.args.names →
    p.amount = p'.amount
  programAuthorityId : "id" ∈ p.instruction.args.names →
    p.programAuthorityId = p'.programAuthorityId

/-- The instruction tells the mode and whether accounts are shared. -/
theorem routeInstruction_inj {shared ledger shared' ledger' : Bool} {mode mode' : SwapMode}
    (h : routeInstruction shared ledger mode = routeInstruction shared' ledger' mode') :
    mode = mode' ∧ shared = shared' := by
  have hname := congrArg Idl.Instruction.name h
  cases mode <;> cases mode' <;> cases shared <;> cases shared' <;> cases ledger <;>
    cases ledger' <;> first | exact ⟨rfl, rfl⟩ | exact absurd hname (by decide)

/-- Which arguments the instructions have. -/
theorem names_routeInstruction (shared ledger : Bool) (mode : SwapMode) :
    "route_plan" ∈ (routeInstruction shared ledger mode).args.names ∧
    "slippage_bps" ∈ (routeInstruction shared ledger mode).args.names ∧
    "platform_fee_bps" ∈ (routeInstruction shared ledger mode).args.names ∧
    (mode = .exactIn → "quoted_out_amount" ∈ (routeInstruction shared ledger mode).args.names ∧
      "out_amount" ∉ (routeInstruction shared ledger mode).args.names) ∧
    (mode = .exactOut → "quoted_in_amount" ∈ (routeInstruction shared ledger mode).args.names ∧
      "in_amount" ∉ (routeInstruction shared ledger mode).args.names) := by
  cases mode <;> cases shared <;> cases ledger <;> decide

/-- Requests with the same arguments under the same names agree. -/
theorem agrees_of_argSpec (hinjective : Function.Injective toIdl)
    {p p' : BuildSwapInstructionDataParams crates} (hix : p.instruction = p'.instruction)
    (hspec : ∀ name ∈ p.instruction.args.names, argSpec toIdl p name = argSpec toIdl p' name) :
    p.Agrees p' := by
  obtain ⟨hmode, hshared⟩ := routeInstruction_inj hix
  obtain ⟨hplan, hslippage, hfee, hin, hout⟩ :=
    names_routeInstruction p.useSharedAccounts p.useTokenLedger p.swapMode
  have hplan := AnyValue.inj (hspec _ hplan)
  have hslippage := AnyValue.inj (hspec _ hslippage)
  have hfee := AnyValue.inj (hspec _ hfee)
  refine ⟨hix, hmode, hshared, ?_, ?_, hslippage, hfee, ?_, fun hid => AnyValue.inj (hspec _ hid)⟩
  · exact List.map_injective_iff.2 (stepValue_injective hinjective) hplan
  · cases hm : p.swapMode with
    | exactIn =>
      have hquoted := hspec _ (hin hm).1
      simp only [argSpec, ← hmode, hm] at hquoted
      exact AnyValue.inj hquoted
    | exactOut =>
      have hquoted := hspec _ (hout hm).1
      simp only [argSpec, ← hmode, hm] at hquoted
      exact AnyValue.inj hquoted
  · intro hamount
    cases hm : p.swapMode with
    | exactIn =>
      have hamount := hspec _ (hamount.resolve_right (hin hm).2)
      simp only [argSpec, ← hmode, hm] at hamount
      exact AnyValue.inj hamount
    | exactOut =>
      have hamount := hspec _ (hamount.resolve_left (hout hm).2)
      simp only [argSpec, ← hmode, hm] at hamount
      exact AnyValue.inj hamount

/-- The data of a request determines everything it carries. -/
theorem agrees_of_data_eq (hdisc : crates.DiscriminatorsMatchIdl)
    (hswap : crates.SwapMatchesIdl toIdl) {p p' : BuildSwapInstructionDataParams crates}
    {bytes : Bytes} (h : buildSwapInstructionData p = .ok bytes)
    (h' : buildSwapInstructionData p' = .ok bytes) : p.Agrees p' := by
  obtain ⟨rest, args, hbytes, hdecode, hargs⟩ := decode_buildSwapInstructionData hdisc hswap h
  obtain ⟨rest', args', hbytes', hdecode', hargs'⟩ :=
    decode_buildSwapInstructionData hdisc hswap h'
  obtain ⟨hix, rfl⟩ :=
    eq_of_discriminator_append (instruction_mem p) (instruction_mem p') (hbytes ▸ hbytes')
  apply agrees_of_argSpec hswap.injective hix
  generalize p'.instruction = ix at *
  subst hix
  rw [hdecode] at hdecode'
  cases hdecode'
  exact hargs.agree hargs'

/-- **Decoding undoes encoding over the whole instruction-data format.** Whatever the request: its
data is there as soon as each of its swaps can be written, and is never an `Err`. The data starts
with the discriminator of exactly one route instruction; the rest decodes by the argument list of
that instruction, with no byte left over, to arguments that hold the request's values under their
names, a step of the plan holding its own fields under theirs. Bytes that decode to a request are
its data, each argument list over the interface's swaps belongs to some request, and requests with
the same data agree on all that is carried. -/
theorem instructionData_roundtrip (hdisc : crates.DiscriminatorsMatchIdl)
    (hswap : crates.SwapMatchesIdl toIdl) (p : BuildSwapInstructionDataParams crates)
    (hlen : p.routePlan.length < 2 ^ 32) :
    ((∃ bytes, buildSwapInstructionData p = .ok bytes) ↔
      ∀ step ∈ p.routePlan, (crates.swapSerialize step.swap).isSome) ∧
    ¬ (buildSwapInstructionData p).IsErr ∧
    (∀ bytes, buildSwapInstructionData p = .ok bytes →
      (∃! ix, ix ∈ Idl.routeInstructions ∧ ix.discriminator <+: bytes) ∧
      (∃ rest args, bytes = p.instruction.discriminator ++ rest ∧
        p.instruction.args.codec.decode rest = some (args, []) ∧
        p.instruction.args.Holds (argSpec toIdl p) args) ∧
      ∀ p', buildSwapInstructionData p' = .ok bytes → p.Agrees p') ∧
    (∀ step : RoutePlanStep crates,
      Idl.routePlanStepFields.Holds (stepSpec toIdl step) (stepValue toIdl step)) ∧
    (∀ rest args, p.instruction.args.codec.decode rest = some (args, []) →
      p.instruction.args.Holds (argSpec toIdl p) args →
      buildSwapInstructionData p = .ok (p.instruction.discriminator ++ rest)) ∧
    (∀ ix ∈ Idl.routeInstructions, ∀ rest args, ix.args.codec.decode rest = some (args, []) →
      ∀ plan : List (RoutePlanStep crates), ix.args.get? args "route_plan" =
        some ⟨.vec Idl.routePlanStep, plan.map (stepValue toIdl)⟩ →
      ∃ p', p'.instruction = ix ∧ p'.routePlan = plan ∧
        buildSwapInstructionData p' = .ok (ix.discriminator ++ rest)) := by
  refine ⟨?_, ?_, ?_, stepValue_holds toIdl, ?_, ?_⟩
  · have hplan := isSome_serialize_plan p.routePlan
    rw [and_iff_right hlen] at hplan
    rw [← hplan]
    rcases buildSwapInstructionData_cases p with ⟨hok, hsome⟩ | ⟨⟨message, hpanic⟩, hnone⟩
    · exact ⟨fun _ => hsome, fun _ => ⟨_, hok.choose_spec⟩⟩
    · rw [hpanic]
      exact ⟨fun h => by simp at h, fun h => absurd h hnone⟩
  · rintro ⟨e, he⟩
    rcases buildSwapInstructionData_cases p with ⟨⟨bytes, hok⟩, -⟩ | ⟨⟨message, hpanic⟩, -⟩
    · rw [hok] at he
      cases he
    · rw [hpanic] at he
      cases he
  · intro bytes hbytes
    obtain ⟨rest, args, rfl, hdecode, hargs⟩ :=
      decode_buildSwapInstructionData hdisc hswap hbytes
    refine ⟨⟨p.instruction, ⟨instruction_mem p, rest, rfl⟩, ?_⟩, ⟨rest, args, rfl, hdecode, hargs⟩,
      fun p' hp' => agrees_of_data_eq hdisc hswap hbytes hp'⟩
    rintro ix ⟨hix, rest', hrest'⟩
    exact (eq_of_discriminator_append hix (instruction_mem p) hrest').1
  · intro rest args hdecode hargs
    exact buildSwapInstructionData_of_decode hdisc hswap hdecode hargs
  · intro ix hix rest args hdecode plan hplan
    exact exists_params_of_decode hdisc hswap hix hdecode hplan

end

/-- A request of two steps: through the token swap program, and on through Crema from `a` to `b`. -/
def dataRequest : BuildSwapInstructionDataParams referenceCrates where
  useSharedAccounts := true
  useTokenLedger := false
  programAuthorityId := 3
  routePlan := [
    ⟨referenceCrates.swapTokenSwap, 100, 0, 1⟩,
    ⟨.inr (.inr (.inr (.inr (.inr (.inr (.inr (.inr (.inl (true, ()))))))))), 100, 1, 2⟩]
  amount := 12500000000
  quotedAmount := 1687500000
  swapMode := .exactIn
  slippageBps := 50
  platformFeeBps := 20

/-- The data of the request, there and back. -/
theorem instructionData_roundtrip_dataRequest :
    ∃ rest args, buildSwapInstructionData dataRequest =
        .ok (Idl.sharedAccountsRoute.discriminator ++ rest) ∧
      Idl.sharedAccountsRoute.args.codec.decode rest = some (args, []) ∧
      Idl.sharedAccountsRoute.args.Holds (argSpec (fun swap => swap) dataRequest) args := by
  obtain ⟨hok, -, hdata, -⟩ := instructionData_roundtrip discriminatorsMatchIdl_referenceCrates
    swapMatchesIdl_referenceCrates dataRequest (by decide)
  obtain ⟨bytes, hbytes⟩ := hok.2 (by decide)
  obtain ⟨-, ⟨rest, args, rfl, hdecode, hargs⟩, -⟩ := hdata bytes hbytes
  exact ⟨rest, args, hbytes, hdecode, hargs⟩

end JupiterAmm
