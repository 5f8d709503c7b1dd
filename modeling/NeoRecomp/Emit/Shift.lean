import NeoRecomp.Emit.Logic

/-!
# Emitted shifts and rotates

`emit_shift_rotate_dreg` prints a loop that moves one bit per turn; `emit_shift_rotate_memory`
prints one turn of it on a word.
-/

namespace NeoRecomp

open Gen

/-- `is_left` of the shift emitters. -/
def shiftIsLeft (m : NgM68kMnemonic) : Bool := m = .asl || m = .lsl || m = .roxl || m = .rol

def shiftIsArith (m : NgM68kMnemonic) : Bool := m = .asl || m = .asr

def shiftIsLogical (m : NgM68kMnemonic) : Bool := m = .lsl || m = .lsr

def shiftIsRox (m : NgM68kMnemonic) : Bool := m = .roxl || m = .roxr

def shiftIsRot (m : NgM68kMnemonic) : Bool := m = .rol || m = .ror

def shiftIsKnown (m : NgM68kMnemonic) : Bool :=
  shiftIsArith m || shiftIsLogical m || shiftIsRox m || shiftIsRot m

/-- The variables `ng_result`, `ng_last`, `ng_v` and `ng_x` of the printed loop. -/
structure ShiftVars where
  result : BitVec 32
  last : Bool
  v : Bool
  x : Bool
  deriving DecidableEq

/-- One turn of the loop, with the masks of the operand size. -/
def shiftTurn (m : NgM68kMnemonic) (signMask valueMask : BitVec 32) (s : ShiftVars) : ShiftVars :=
  let isLeft := shiftIsLeft m
  let last := if isLeft then s.result &&& signMask != 0 else s.result &&& 1 != 0
  let left := (s.result <<< 1) &&& valueMask
  let right := s.result >>> 1
  if shiftIsLogical m then { s with result := if isLeft then left else right, last }
  else if shiftIsArith m then
    if isLeft then
      { s with
        result := left
        last
        v := s.v || left &&& signMask != s.result &&& signMask }
    else { s with result := right ||| (s.result &&& signMask), last }
  else if shiftIsRox m then
    { s with
      result :=
        if isLeft then left ||| (if s.x then 1 else 0)
        else right ||| (if s.x then signMask else 0)
      last
      x := last }
  else
    { s with
      result :=
        if isLeft then left ||| (if last then 1 else 0)
        else right ||| (if last then signMask else 0)
      last }

/-- The flag statements after the loop. -/
def shiftFlags (m : NgM68kMnemonic) (signMask valueMask : BitVec 32) (s : ShiftVars)
    (sr : BitVec 16) : BitVec 16 :=
  let carry := if shiftIsRot m then ngCcrC else ngCcrC ||| ngCcrX
  let sr := sr &&& (if shiftIsRot m then 0xFFF0 else 0xFFE0)
  let sr := orIf (s.result &&& valueMask == 0) ngCcrZ sr
  let sr := orIf (s.result &&& signMask != 0) ngCcrN sr
  let sr := orIf s.last carry sr
  let sr :=
    if shiftIsRox m then
      if s.x then sr ||| (ngCcrC ||| ngCcrX) else sr &&& ~~~(ngCcrC ||| ngCcrX)
    else sr
  orIf (shiftIsLeft m && shiftIsArith m && s.v) ngCcrV sr

/-- The flag statements for a count of zero. -/
def shiftZeroFlags (m : NgM68kMnemonic) (signMask valueMask result : BitVec 32) (sr : BitVec 16) :
    BitVec 16 :=
  let sr := sr &&& 0xFFF0
  let sr := orIf (result &&& valueMask == 0) ngCcrZ sr
  let sr := orIf (result &&& signMask != 0) ngCcrN sr
  if shiftIsRox m then orIf (srHas sr ngCcrX) ngCcrC sr else sr

section Abi
variable {β : Type} [GeneratedAbi β]

/-- `emit_shift_rotate_dreg`. -/
def emitShiftRotateDreg (instr : NgM68kInstr) : Emission β :=
  let r := regIndex instr.dst.reg
  let signMask := ngSignMask instr.size
  let valueMask := ngValueMask instr.size
  let store (result : BitVec 32) : Gen β Unit := modifyCpu fun g => g.setD r
    ((g.d r &&& ngDregKeepMask instr.size) ||| (result &&& valueMask))
  if instr.dst.mode ≠ .dreg then .rejected
  else if !shiftIsKnown instr.mnemonic then .rejected
  else .emitted do
    let g ← getCpu
    let count : BitVec 8 :=
      if instr.src.mode = .dreg then (g.d (regIndex instr.src.reg) &&& 0x3F).setWidth 8
      else instr.immediate.setWidth 8
    let result := g.d r &&& valueMask
    if count ≠ 0 then
      let s := (shiftTurn instr.mnemonic signMask valueMask)^[count.toNat]
        { result, last := false, v := false, x := srHas g.sr ngCcrX }
      modifyCpu fun g => g.setSr (shiftFlags instr.mnemonic signMask valueMask s g.sr)
      store s.result
    else
      modifyCpu fun g => g.setSr (shiftZeroFlags instr.mnemonic signMask valueMask result g.sr)
      store result

/-- `emit_shift_rotate_memory`. -/
def emitShiftRotateMemory (instr : NgM68kInstr) : Emission β :=
  let signMask : BitVec 32 := 0x00008000
  let valueMask : BitVec 32 := 0x0000FFFF
  if instr.dst.mode = .none ∨ instr.dst.mode = .dreg ∨ instr.dst.mode = .areg ∨
      instr.size ≠ 2 then .rejected
  else if !shiftIsKnown instr.mnemonic then .rejected
  else
    match emitEaAddress instr.dst 2 with
    | none => .rejected
    | some ad => .emitted do
        let e ← ad
        let addr := e (← getCpu)
        let value ← read16 addr
        let x := srHas (← getCpu).sr ngCcrX
        let s := shiftTurn instr.mnemonic signMask valueMask
          { result := value.setWidth 32, last := false, v := false, x }
        write16 addr (s.result.setWidth 16)
        modifyCpu fun g => g.setSr (shiftFlags instr.mnemonic signMask valueMask s g.sr)

end Abi

end NeoRecomp
