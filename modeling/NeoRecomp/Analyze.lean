import NeoRecomp.Machine
import NeoRecomp.Instr

/-!
# Static register tracking

`m68k_analyze.c`: while the discovery scan follows straight-line code it keeps the address registers
that hold a known constant and the data registers that hold a bounded table index.
-/

namespace NeoRecomp

/-! ## Address registers with a known value -/

/-- `NgM68kStaticAregState`. -/
structure NgM68kStaticAregState where
  target : Fin 8 → BitVec 32
  valid : Fin 8 → Bool

/-- `ng_m68k_static_areg_reset`. -/
def ngM68kStaticAregReset : NgM68kStaticAregState where
  target := fun _ => 0
  valid := fun _ => false

/-- `has_static_code_target`. -/
def hasStaticCodeTarget (instr : NgM68kInstr) : Bool :=
  match instr.src.mode with
  | .absW | .absL | .pcDisp | .pcIndex => true
  | _ => false

/-- `static_areg_load_target`: the register and the value loaded into it. -/
def staticAregLoadTarget (instr : NgM68kInstr) : Option (BitVec 8 × BitVec 32) :=
  if instr.mnemonic = .lea ∧ instr.dst.mode = .areg ∧ hasStaticCodeTarget instr then
    some (instr.dst.reg, instr.target)
  else if instr.mnemonic = .movea ∧ instr.size = 4 ∧ instr.dst.mode = .areg ∧
      instr.src.mode = .imm then
    some (instr.dst.reg, instr.src.immediate)
  else none

/-- `instr_writes_areg`. -/
def instrWritesAreg (instr : NgM68kInstr) : Option (BitVec 8) :=
  match instr.mnemonic with
  | .lea | .movea | .adda | .suba | .addq | .subq =>
      if instr.dst.mode = .areg then some instr.dst.reg else none
  | _ => none

/-- `state->target[reg] = target; state->valid[reg] = 1u;` -/
def NgM68kStaticAregState.load (s : NgM68kStaticAregState) (r : Fin 8) (target : BitVec 32) :
    NgM68kStaticAregState where
  target := Function.update s.target r target
  valid := Function.update s.valid r true

/-- `state->valid[reg] = 0u;` -/
def NgM68kStaticAregState.drop (s : NgM68kStaticAregState) (r : Fin 8) : NgM68kStaticAregState :=
  { s with valid := Function.update s.valid r false }

/-- The tail of `ng_m68k_static_areg_update`, after the load test. -/
def staticAregInvalidate (s : NgM68kStaticAregState) (instr : NgM68kInstr) :
    NgM68kStaticAregState :=
  match instrWritesAreg instr with
  | some reg => if reg < 8 then s.drop (regIndex reg) else s
  | none => s

/-- `ng_m68k_static_areg_update`. -/
def ngM68kStaticAregUpdate (s : NgM68kStaticAregState) (instr : NgM68kInstr) :
    NgM68kStaticAregState :=
  if instr.mnemonic = .jsr ∨ instr.mnemonic = .bsr then ((s.drop 0).drop 1).drop 7
  else
    match staticAregLoadTarget instr with
    | some (reg, target) =>
        if reg < 8 then s.load (regIndex reg) target else staticAregInvalidate s instr
    | none => staticAregInvalidate s instr

/-! ## Data registers with a bounded value -/

/-- `NG_M68K_INDEX_BOUND_MAX_ENTRIES`. -/
def ngM68kIndexBoundMaxEntries : BitVec 32 := 64

/-- `NgM68kIndexRegBoundState`. -/
structure NgM68kIndexRegBoundState where
  maxEntries : Fin 8 → BitVec 32
  guardedMaxEntries : Fin 8 → BitVec 32
  pendingCmpEntries : Fin 8 → BitVec 32
  scaleBytes : Fin 8 → BitVec 8
  valid : Fin 8 → Bool
  guardedValid : Fin 8 → Bool
  pendingCmpValid : Fin 8 → Bool

/-- `ng_m68k_index_reg_bound_reset`. -/
def ngM68kIndexRegBoundReset : NgM68kIndexRegBoundState where
  maxEntries := fun _ => 0
  guardedMaxEntries := fun _ => 0
  pendingCmpEntries := fun _ => 0
  scaleBytes := fun _ => 0
  valid := fun _ => false
  guardedValid := fun _ => false
  pendingCmpValid := fun _ => false

/-- `index_reg_bound_clear`. -/
def indexRegBoundClear (s : NgM68kIndexRegBoundState) (r : Fin 8) : NgM68kIndexRegBoundState where
  valid := Function.update s.valid r false
  maxEntries := Function.update s.maxEntries r 0
  scaleBytes := Function.update s.scaleBytes r 0
  guardedValid := Function.update s.guardedValid r false
  guardedMaxEntries := Function.update s.guardedMaxEntries r 0
  pendingCmpValid := Function.update s.pendingCmpValid r false
  pendingCmpEntries := Function.update s.pendingCmpEntries r 0

/-- `instr_is_dreg_self_add`. -/
def instrIsDregSelfAdd (instr : NgM68kInstr) (reg : BitVec 8) : Bool :=
  instr.mnemonic = .add && (instr.size = 2 || instr.size = 4) && instr.src.mode = .dreg &&
    instr.dst.mode = .dreg && instr.src.reg = reg && instr.dst.reg = reg

/-- `index_reg_bound_scale`: the new state and the returned flag. -/
def indexRegBoundScale (s : NgM68kIndexRegBoundState) (r : Fin 8) (factor : BitVec 32) :
    NgM68kIndexRegBoundState × Bool :=
  if factor = 0 ∨ s.valid r = false then (s, false)
  else
    let scale := (s.scaleBytes r).setWidth 32
    if scale = 0 ∨ scale > 0xFFFFFFFF / factor then (indexRegBoundClear s r, false)
    else
      let scale := scale * factor
      if scale > 16 then (indexRegBoundClear s r, false)
      else ({ s with scaleBytes := Function.update s.scaleBytes r (scale.setWidth 8) }, true)

/-- `if (!index_reg_bound_scale(state, reg, factor)) index_reg_bound_clear(state, reg);` -/
def indexRegBoundScaleOrClear (s : NgM68kIndexRegBoundState) (r : Fin 8) (factor : BitVec 32) :
    NgM68kIndexRegBoundState :=
  match indexRegBoundScale s r factor with
  | (s, true) => s
  | (s, false) => indexRegBoundClear s r

/-- `instr_writes_dreg`. -/
def instrWritesDreg (instr : NgM68kInstr) : Option (BitVec 8) :=
  if instr.dst.mode = .dreg ∧ instr.dst.reg < 8 then
    match instr.mnemonic with
    | .move | .moveq | .add | .addq | .addx | .sub | .subq | .subx | .or | .and | .eor | .mulu
    | .muls | .divu | .divs | .clr | .neg | .negx | .nbcd | .not | .ext | .swap | .asl | .asr
    | .lsl | .lsr | .roxl | .roxr | .rol | .ror | .addi | .subi | .ori | .andi | .eori =>
        some instr.dst.reg
    | _ => none
  else none

/-- `instr_cmpi_immediate_to_dreg`. -/
def instrCmpiImmediateToDreg (instr : NgM68kInstr) : Option (BitVec 8 × BitVec 32) :=
  if instr.mnemonic ≠ .cmpi ∨ instr.dst.mode ≠ .dreg ∨ 8 ≤ instr.dst.reg ∨ instr.immediate = 0 ∨
      instr.immediate > ngM68kIndexBoundMaxEntries then none
  else some (instr.dst.reg, instr.immediate)

/-- `index_reg_bound_note_cmp`. -/
def indexRegBoundNoteCmp (s : NgM68kIndexRegBoundState) (reg : BitVec 8) (bound : BitVec 32) :
    NgM68kIndexRegBoundState :=
  if 8 ≤ reg ∨ bound = 0 ∨ bound > ngM68kIndexBoundMaxEntries then s
  else
    { s with
      pendingCmpValid := Function.update s.pendingCmpValid (regIndex reg) true
      pendingCmpEntries := Function.update s.pendingCmpEntries (regIndex reg) bound }

/-- `cmp_branch_guard_max_entries`. -/
def cmpBranchGuardMaxEntries (condition : BitVec 8) (cmpBound : BitVec 32) :
    Option (BitVec 32) :=
  if cmpBound = 0 then none
  else if condition = 5 then some cmpBound
  else if condition = 3 ∧ cmpBound < ngM68kIndexBoundMaxEntries then some (cmpBound + 1)
  else none

/-- The guard `index_reg_bound_promote_cmp_guard` finds for one register at a Bcc. -/
def promotedGuard (s : NgM68kIndexRegBoundState) (instr : NgM68kInstr) (r : Fin 8) :
    Option (BitVec 32) :=
  if instr.mnemonic = .bcc ∧ s.pendingCmpValid r then
    cmpBranchGuardMaxEntries instr.condition (s.pendingCmpEntries r)
  else none

/-- `index_reg_bound_promote_cmp_guard`. -/
def indexRegBoundPromoteCmpGuard (s : NgM68kIndexRegBoundState) (instr : NgM68kInstr) :
    NgM68kIndexRegBoundState :=
  { s with
    guardedValid := fun r => (promotedGuard s instr r).isSome || s.guardedValid r
    guardedMaxEntries := fun r => (promotedGuard s instr r).getD (s.guardedMaxEntries r)
    pendingCmpValid := fun _ => false
    pendingCmpEntries := fun _ => 0 }

/-- `instr_moves_immediate_to_dreg`. -/
def instrMovesImmediateToDreg (instr : NgM68kInstr) : Option (BitVec 8 × BitVec 32) :=
  if instr.dst.mode ≠ .dreg ∨ 8 ≤ instr.dst.reg then none
  else if instr.mnemonic = .moveq then some (instr.dst.reg, instr.immediate)
  else if instr.mnemonic = .move ∧ instr.src.mode = .imm then
    some (instr.dst.reg, instr.src.immediate)
  else none

/-- `index_reg_bound_apply_guarded_clamp`; `none` where the source returns 0. -/
def indexRegBoundApplyGuardedClamp (s : NgM68kIndexRegBoundState) (instr : NgM68kInstr) :
    Option NgM68kIndexRegBoundState :=
  match instrMovesImmediateToDreg instr with
  | none => none
  | some (reg, value) =>
      let r := regIndex reg
      if s.guardedValid r = false ∨ s.guardedMaxEntries r = 0 ∨ value ≥ s.guardedMaxEntries r then
        none
      else
        some
          { maxEntries := Function.update s.maxEntries r (s.guardedMaxEntries r)
            scaleBytes := Function.update s.scaleBytes r 1
            valid := Function.update s.valid r true
            guardedValid := Function.update s.guardedValid r false
            guardedMaxEntries := Function.update s.guardedMaxEntries r 0
            pendingCmpValid := Function.update s.pendingCmpValid r false
            pendingCmpEntries := Function.update s.pendingCmpEntries r 0 }

/-- The bound an ANDI sets: its mask plus one, or a smaller guard. -/
def andiMaxEntries (s : NgM68kIndexRegBoundState) (instr : NgM68kInstr) : BitVec 32 :=
  let r := regIndex instr.dst.reg
  if s.guardedValid r = true ∧ s.guardedMaxEntries r ≠ 0 ∧
      s.guardedMaxEntries r < instr.immediate + 1 then
    s.guardedMaxEntries r
  else instr.immediate + 1

/-- The ANDI branch of `ng_m68k_index_reg_bound_update`. -/
def indexRegBoundMask (s : NgM68kIndexRegBoundState) (instr : NgM68kInstr) :
    NgM68kIndexRegBoundState :=
  let r := regIndex instr.dst.reg
  { s with
    maxEntries := Function.update s.maxEntries r (andiMaxEntries s instr)
    scaleBytes := Function.update s.scaleBytes r 1
    valid := Function.update s.valid r true }

/-- The tests of `ng_m68k_index_reg_bound_update` for a mask, an immediate left shift and an
addition of a register to itself. -/
def isIndexMask (instr : NgM68kInstr) : Bool :=
  instr.mnemonic = .andi && instr.dst.mode = .dreg && instr.dst.reg < 8 &&
    instr.immediate < ngM68kIndexBoundMaxEntries

def isIndexShift (instr : NgM68kInstr) : Bool :=
  (instr.mnemonic = .lsl || instr.mnemonic = .asl) && instr.dst.mode = .dreg &&
    instr.dst.reg < 8 && instr.src.mode ≠ .dreg && (instr.size = 2 || instr.size = 4) &&
    instr.immediate < 8

def isIndexDouble (instr : NgM68kInstr) : Bool :=
  instr.dst.mode = .dreg && instr.dst.reg < 8 && instrIsDregSelfAdd instr instr.dst.reg

/-- The part of `ng_m68k_index_reg_bound_update` after the guarded clamp. -/
def indexRegBoundTransfer (s : NgM68kIndexRegBoundState) (instr : NgM68kInstr) :
    NgM68kIndexRegBoundState :=
  let r := regIndex instr.dst.reg
  if isIndexMask instr then indexRegBoundMask s instr
  else if isIndexShift instr then
    indexRegBoundScaleOrClear s r ((1 : BitVec 32) <<< instr.immediate.toNat)
  else if isIndexDouble instr then indexRegBoundScaleOrClear s r 2
  else
    match instrWritesDreg instr with
    | some reg => indexRegBoundClear s (regIndex reg)
    | none => s

/-- `ng_m68k_index_reg_bound_update`. -/
def ngM68kIndexRegBoundUpdate (s : NgM68kIndexRegBoundState) (instr : NgM68kInstr) :
    NgM68kIndexRegBoundState :=
  if instr.mnemonic = .jsr ∨ instr.mnemonic = .bsr then ngM68kIndexRegBoundReset
  else
    match instrCmpiImmediateToDreg instr with
    | some (reg, bound) => indexRegBoundNoteCmp s reg bound
    | none =>
        let s := indexRegBoundPromoteCmpGuard s instr
        match indexRegBoundApplyGuardedClamp s instr with
        | some s' => s'
        | none => indexRegBoundTransfer s instr

/-! ## Jump tables -/

/-- `NgM68kJumpTableEntryKind`. -/
inductive NgM68kJumpTableEntryKind
  | abs32 | address | inlineCode | directDispatch
  deriving DecidableEq, Repr

/-- `NgM68kJumpTablePattern`. -/
structure NgM68kJumpTablePattern where
  tableAddr : BitVec 32 := 0
  maxEntries : BitVec 32 := 0
  indexReg : BitVec 8 := 0
  targetReg : BitVec 8 := 0
  entrySize : BitVec 8 := 0
  includeTerminalEntry : BitVec 8 := 0
  entryKind : NgM68kJumpTableEntryKind := .abs32
  entrySignature : BitVec 32 := 0
  deriving DecidableEq, Repr

/-- The guard of `ng_m68k_jump_table_apply_index_bound`. -/
def indexBoundApplies (p : NgM68kJumpTablePattern) (s : NgM68kIndexRegBoundState) : Bool :=
  p.entryKind = .abs32 && p.indexReg < 8 && s.valid (regIndex p.indexReg) &&
    s.scaleBytes (regIndex p.indexReg) = p.entrySize && s.maxEntries (regIndex p.indexReg) ≠ 0

/-- `ng_m68k_jump_table_apply_index_bound`. -/
def ngM68kJumpTableApplyIndexBound (p : NgM68kJumpTablePattern) (s : NgM68kIndexRegBoundState) :
    NgM68kJumpTablePattern :=
  if indexBoundApplies p s then { p with maxEntries := s.maxEntries (regIndex p.indexReg) } else p

end NeoRecomp
