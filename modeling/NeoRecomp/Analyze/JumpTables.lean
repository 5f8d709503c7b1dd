import NeoRecomp.Analyze
import NeoRecomp.Decode
import NeoRecomp.Validate

/-!
# Jump-table patterns

The second half of `m68k_analyze.c`: an instruction pair or a single dispatch that jumps through a
table is recognised, and the table described by an `NgM68kJumpTablePattern`.
-/

namespace NeoRecomp

/-- `UINT32_MAX - addr < n`: stepping over `n` bytes would wrap around. -/
def wrapsOver (addr n : BitVec 32) : Bool := 0xFFFFFFFF - addr < n

theorem wrapsOver_eq_false {addr n : BitVec 32} :
    wrapsOver addr n = false ↔ addr.toNat + n.toNat < 2 ^ 32 := by
  have ha := addr.isLt
  have hn := n.isLt
  have hsub : (0xFFFFFFFF - addr).toNat = 2 ^ 32 - 1 - addr.toNat := by
    rw [BitVec.toNat_sub, show (0xFFFFFFFF : BitVec 32).toNat = 2 ^ 32 - 1 from rfl]
    omega
  unfold wrapsOver
  rw [decide_eq_false_iff_not, BitVec.lt_def, hsub]
  omega

-- The test `ng_m68k_decode(..) && ng_m68k_validate(..) && byte_length != 0`.
def decodeValidated (rom : NgProgramRom) (pc : BitVec 32) : Option NgM68kInstr :=
  match ngM68kDecode rom pc with
  | (ok, instr) =>
      if ok && ngM68kValidate instr && instr.byteLength != 0 then some instr else none

/-- The test most scans start a turn with: the word at `pc` decodes to a validated instruction. -/
def decodeCode (rom : NgProgramRom) (pc : BitVec 32) : Option NgM68kInstr :=
  match ngM68kDecode rom pc with
  | (ok, instr) =>
      if ok && instr.byteLength != 0 && ngM68kValidate instr && instr.mnemonic != .unknown &&
          instr.mnemonic != .invalid then some instr
      else none

/-! ## Tables of addresses -/

-- `ng_m68k_match_pc_index_jump_table`
def ngM68kMatchPcIndexJumpTable (load jump : NgM68kInstr) : Option NgM68kJumpTablePattern :=
  if load.mnemonic ≠ .movea ∨ load.form ≠ .pcIndexToAreg ∨ load.size ≠ 4 then none
  else if jump.mnemonic ≠ .jmp ∨ jump.form ≠ .aregIndirect ∨ load.reg ≠ jump.reg then none
  else
    some { tableAddr := load.target, indexReg := load.srcReg, targetReg := load.reg,
           entrySize := 4, entryKind := .abs32 }

/-- `(target + displacement) & 0x00FFFFFF`, the table an indexed operand reads. -/
def staticTableAddr (s : NgM68kStaticAregState) (ea : NgM68kEa) : BitVec 32 :=
  addDisplacement (s.target (regIndex ea.reg)) ea.displacement &&& 0x00FFFFFF

-- `ng_m68k_match_static_index_jump_table`
def ngM68kMatchStaticIndexJumpTable (load dispatch : NgM68kInstr) (s : NgM68kStaticAregState) :
    Option NgM68kJumpTablePattern :=
  if load.mnemonic ≠ .movea ∨ load.size ≠ 4 ∨ load.src.mode ≠ .aindex ∨ load.dst.mode ≠ .areg ∨
      load.src.reg > 7 ∨ s.valid (regIndex load.src.reg) = false then none
  else if (dispatch.mnemonic ≠ .jmp ∧ dispatch.mnemonic ≠ .jsr) ∨ dispatch.src.mode ≠ .aind ∨
      dispatch.src.reg ≠ load.dst.reg then none
  else
    some { tableAddr := staticTableAddr s load.src, indexReg := load.src.indexReg,
           targetReg := load.dst.reg, entrySize := 4, entryKind := .abs32 }

/-! ## Tables of code -/

-- `ng_m68k_match_static_index_branch_table`
def ngM68kMatchStaticIndexBranchTable (dispatch : NgM68kInstr) (s : NgM68kStaticAregState) :
    Option NgM68kJumpTablePattern :=
  if (dispatch.mnemonic ≠ .jmp ∧ dispatch.mnemonic ≠ .jsr) ∨ dispatch.src.mode ≠ .aindex ∨
      dispatch.src.reg > 7 ∨ s.valid (regIndex dispatch.src.reg) = false then none
  else
    some { tableAddr := staticTableAddr s dispatch.src, indexReg := dispatch.src.indexReg,
           targetReg := dispatch.src.reg, entryKind := .address }

/-- Where the first loop of `branch_table_terminal_entry_is_inline_body` stops. -/
structure BranchTableEnd where
  entryAddr : BitVec 32
  entrySize : BitVec 32 := 0
  entryCount : Nat := 0
  lastTarget : BitVec 32 := 0
  deriving DecidableEq, Repr

/-- The loop with its turns left; `none` is the `return 0` on wrap-around. -/
def branchTableEnd (rom : NgProgramRom) : Nat → BranchTableEnd → Option BranchTableEnd
  | 0, t => some t
  | turns + 1, t =>
      match decodeValidated rom t.entryAddr with
      | none => some t
      | some entry =>
          let len := entry.byteLength.setWidth 32
          if entry.mnemonic ≠ .bra then some t
          else if t.entrySize ≠ 0 ∧ len ≠ t.entrySize then some t
          else if wrapsOver t.entryAddr len then none
          else
            branchTableEnd rom turns
              { entryAddr := t.entryAddr + len, entrySize := len, entryCount := t.entryCount + 1,
                lastTarget := entry.target &&& 0x00FFFFFF }

-- `branch_table_terminal_entry_is_inline_body`
def branchTableTerminalEntryIsInlineBody (rom : NgProgramRom) (tableAddr : BitVec 32) : Bool :=
  match branchTableEnd rom 32 { entryAddr := tableAddr } with
  | none => false
  | some t =>
      if t.entryCount < 8 ∨ t.entrySize = 0 ∨ t.lastTarget ≤ t.entryAddr ∨
          t.lastTarget - t.entryAddr > 0x20 then false
      else
        match decodeCode rom t.entryAddr with
        | none => false
        | some terminal => terminal.mnemonic ≠ .bra

-- `ng_m68k_match_pc_index_branch_table`
def ngM68kMatchPcIndexBranchTable (rom : NgProgramRom) (dispatch : NgM68kInstr) :
    Option NgM68kJumpTablePattern :=
  if (dispatch.mnemonic ≠ .jmp ∧ dispatch.mnemonic ≠ .jsr) ∨ dispatch.src.mode ≠ .pcIndex then
    none
  else
    let tableAddr := dispatch.src.absoluteAddr &&& 0x00FFFFFF
    some { tableAddr, indexReg := dispatch.src.indexReg, entryKind := .address,
           includeTerminalEntry :=
             if branchTableTerminalEntryIsInlineBody rom tableAddr then 1 else 0 }

-- `is_self_add_word`
def isSelfAddWord (instr : NgM68kInstr) (reg : BitVec 8) : Bool :=
  instr.mnemonic = .add && instr.size = 2 && instr.src.mode = .dreg && instr.dst.mode = .dreg &&
    instr.src.reg = reg && instr.dst.reg = reg

/-- `inline_code_entry_is_repeated`: two instructions in four bytes, and the same four bytes
again.  The result is the signature. -/
def inlineCodeEntryIsRepeated (rom : NgProgramRom) (tableAddr : BitVec 32) :
    Option (BitVec 32) :=
  if !ngProgramRomAddrIsMapped rom tableAddr || !ngProgramRomAddrIsMapped rom (tableAddr + 7) then
    none
  else
    match decodeValidated rom tableAddr with
    | none => none
    | some first =>
        match first.mnemonic with
        | .bra | .bsr | .jmp | .jsr | .rts | .rte | .rtr => none
        | _ =>
            if first.byteLength ≥ 4 then none
            else
              match decodeValidated rom (tableAddr + first.byteLength.setWidth 32) with
              | none => none
              | some second =>
                  let signature := ngProgramRomRead32 rom tableAddr
                  if first.byteLength.toNat + second.byteLength.toNat ≠ 4 then none
                  else if ngProgramRomRead32 rom (tableAddr + 4) ≠ signature then none
                  else some signature

-- `ng_m68k_match_pc_index_inline_code_table`
def ngM68kMatchPcIndexInlineCodeTable (rom : NgProgramRom) (previous dispatch : NgM68kInstr) :
    Option NgM68kJumpTablePattern :=
  if dispatch.mnemonic ≠ .jmp ∨ dispatch.src.mode ≠ .pcIndex ∨
      !isSelfAddWord previous dispatch.src.indexReg then none
  else
    let tableAddr := dispatch.src.absoluteAddr &&& 0x00FFFFFF
    (inlineCodeEntryIsRepeated rom tableAddr).map fun signature =>
      { tableAddr, indexReg := dispatch.src.indexReg, entrySize := 4, entryKind := .inlineCode,
        entrySignature := signature }

-- `is_direct_dispatch_entry`
def isDirectDispatchEntry (instr : NgM68kInstr) (mnemonic : NgM68kMnemonic)
    (byteLength : BitVec 8) : Bool :=
  instr.mnemonic = mnemonic && instr.byteLength ≠ 0 && instr.byteLength = byteLength &&
    (instr.src.mode = .absW || instr.src.mode = .absL || instr.src.mode = .pcDisp)

-- `ng_m68k_match_repeated_direct_dispatch_table`
def ngM68kMatchRepeatedDirectDispatchTable (rom : NgProgramRom) (dispatch : NgM68kInstr) :
    Option NgM68kJumpTablePattern :=
  let isEntry (addr : BitVec 32) : Bool :=
    match decodeValidated rom addr with
    | some instr => isDirectDispatchEntry instr dispatch.mnemonic dispatch.byteLength
    | none => false
  let len := dispatch.byteLength.setWidth 32
  if dispatch.mnemonic ≠ .jmp ∨
      !isDirectDispatchEntry dispatch dispatch.mnemonic dispatch.byteLength ∨
      !isEntry (dispatch.addr + len) ∨ !isEntry (dispatch.addr + len + len) then none
  else
    some { tableAddr := dispatch.addr, entrySize := dispatch.byteLength,
           entryKind := .directDispatch }

end NeoRecomp
