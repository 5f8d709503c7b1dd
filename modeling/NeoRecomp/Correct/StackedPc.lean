import NeoRecomp.Correct.MulDiv
import NeoRecomp.Emit.Tame

/-!
# The return address of an exception

A privilege violation stacks the address of the instruction itself.  Every other exception of the
emitted code, ILLEGAL and the A-line and F-line opcodes included, stacks the next one.
-/

namespace NeoRecomp

open Gen

section Abi
variable {β : Type} [GeneratedAbi β]

/-- Instructions whose text starts with the privilege test. -/
def isPrivileged (instr : NgM68kInstr) : Bool :=
  match instr.mnemonic with
  | .reset | .stop | .rte | .oriToSr | .andiToSr | .eoriToSr | .moveUsp => true
  | .moveSr => instr.dst.mode = .none ∧ instr.src.mode ≠ .none
  | _ => false

/-- The vector of an illegal opcode: 10 and 11 for A-line and F-line opcodes, else 4. -/
def illegalVector (instr : NgM68kInstr) : BitVec 8 :=
  if instr.immediate ≠ 0 then instr.immediate.setWidth 8 else 4

/-- `Raises instr m vector pc m'`: running `instr` from `m` raises the exception whose vector is at
`vector`, with `pc` on the stack.  On the way to `m'` only the source operand was read and, by CHK,
N was set. -/
inductive Raises (instr : NgM68kInstr) (m : Machine β) :
    BitVec 32 → BitVec 32 → Machine β → Prop
  | privilege : isPrivileged instr = true → srHas m.cpu.sr ngSrS = false →
      Raises instr m 0x00000020 (addr24 instr.addr) m
  | illegal : instr.mnemonic = .illegal →
      Raises instr m ((illegalVector instr).setWidth 32 * 4) (nextPc instr) m
  | trap : instr.mnemonic = .trap →
      Raises instr m ((32 + (instr.immediate &&& 0xF)) * 4) (nextPc instr) m
  | trapv : instr.mnemonic = .trapv → srHas m.cpu.sr ngCcrV = true →
      Raises instr m 0x0000001C (nextPc instr) m
  | chk {rd : Gen β CExpr} {e : CExpr} {m' : Machine β} {value : BitVec 16} :
      instr.mnemonic = .chk → instr.dst.mode = .dreg → instr.size = 2 →
      emitEaRead instr.src 2 = some rd → rd m = .next e m' →
      value = (m'.cpu.d (regIndex instr.dst.reg)).setWidth 16 →
      value.toInt < 0 ∨ ((e m'.cpu).setWidth 16).toInt < value.toInt →
      Raises instr m 0x00000018 (nextPc instr)
        { m' with
          cpu := m'.cpu.setSr
            (if value.toInt < 0 then m'.cpu.sr ||| ngCcrN else m'.cpu.sr &&& ~~~ngCcrN) }
  | divide {rd : Gen β CExpr} {e : CExpr} {m' : Machine β} :
      isDivide instr.mnemonic = true → instr.dst.mode = .dreg →
      emitEaRead instr.src 2 = some rd → rd m = .next e m' →
      (e m'.cpu).setWidth 16 = (0 : BitVec 16) →
      Raises instr m 0x00000014 (nextPc instr) m'

variable {instr : NgM68kInstr} {m : Machine β}

/-- An operand that can be read is there. -/
theorem mode_ne_none_of_emitEaRead {ea : NgM68kEa} {size : BitVec 8} {rd : Gen β CExpr}
    (h : emitEaRead ea size = some rd) : ea.mode ≠ .none := by
  intro hm
  rw [emitEaRead, hm] at h
  cases h

/-- The text of a privileged instruction starts with the test; behind it only STOP and RTE leave. -/
theorem text_of_isPrivileged (h : isPrivileged instr = true) :
    ∃ x, (emitInstr (β := β) instr).text = (do emitRequireSupervisor instr.addr; x) ∧
      (endsBody instr.mnemonic = false → (emitInstr (β := β) instr).unsupported = false →
        ExitsBy NoWay x) := by
  unfold isPrivileged at h
  unfold emitInstr
  cases hm : instr.mnemonic <;> simp only [hm, Bool.false_eq_true, decide_eq_true_eq] at h
  case reset => exact ⟨_, rfl, fun _ _ => inferInstance⟩
  case stop => exact ⟨_, rfl, fun h => by cases h⟩
  case rte => exact ⟨_, rfl, fun h => by cases h⟩
  case moveSr =>
    obtain ⟨hdst, hsrc⟩ := h
    obtain ⟨rd, hrd⟩ := emitEaRead_eq_some (β := β) 2 hsrc
    have := emitEaRead_exitsBy (W := NoWay) hrd
    refine ⟨do
      let e ← rd
      modifyCpu fun g => ngSetSr ((e g).setWidth 16) g, ?_, fun _ _ => inferInstance⟩
    dsimp only
    rw [emitMoveSrCcr, if_neg (by simp [hm]), if_neg (by simp [hdst]), if_pos hsrc, hrd]
    simp only [hm, if_true]
    rfl
  case moveUsp =>
    dsimp only
    rw [emitMoveUsp]
    split_ifs
    · exact ⟨_, rfl, fun _ _ => inferInstance⟩
    · exact ⟨_, rfl, fun _ _ => inferInstance⟩
    · exact ⟨_, rfl, fun _ h => by cases h⟩
  case oriToSr =>
    exact ⟨_, by dsimp only; rw [emitImmediateToSrCcr, hm]; rfl, fun _ _ => inferInstance⟩
  case andiToSr =>
    exact ⟨_, by dsimp only; rw [emitImmediateToSrCcr, hm]; rfl, fun _ _ => inferInstance⟩
  case eoriToSr =>
    exact ⟨_, by dsimp only; rw [emitImmediateToSrCcr, hm]; rfl, fun _ _ => inferInstance⟩

/-- CHK reads its operand and traps. -/
theorem takesException_chk {rd : Gen β CExpr} {e : CExpr} {m' : Machine β} {value : BitVec 16}
    (hm : instr.mnemonic = .chk) (hd : instr.dst.mode = .dreg) (hsize : instr.size = 2)
    (hrd : emitEaRead instr.src 2 = some rd) (hrun : rd m = .next e m')
    (hvalue : value = (m'.cpu.d (regIndex instr.dst.reg)).setWidth 16)
    (hout : value.toInt < 0 ∨ ((e m'.cpu).setWidth 16).toInt < value.toInt) :
    TakesException 0x00000018 (nextPc instr)
      { m' with
        cpu := m'.cpu.setSr
          (if value.toInt < 0 then m'.cpu.sr ||| ngCcrN else m'.cpu.sr &&& ~~~ngCcrN) }
      ((emitInstr instr).text m) := by
  have hsrc := mode_ne_none_of_emitEaRead hrd
  have hform : ¬ (instr.mnemonic ≠ .chk ∨ instr.src.mode = .none ∨ instr.dst.mode ≠ .dreg ∨
      instr.size ≠ 2) := by
    simp [hm, hd, hsize, hsrc]
  have hemit : emitInstr (β := β) instr = orUnsupported instr (emitChk instr) := by
    simp only [emitInstr, hm]
  rw [hemit, emitChk, if_neg hform, hrd]
  dsimp only [orUnsupported, fallsThrough]
  rw [bind_of_next hrun]
  simp only [bind_apply, getCpu_apply, setWidth_and_word, ← hvalue, gt_iff_lt]
  rw [if_pos hout]
  exact takesException_trap instr _ _

theorem takesException_privileged (hp : isPrivileged instr = true)
    (hs : srHas m.cpu.sr ngSrS = false) :
    TakesException 0x00000020 (addr24 instr.addr) m ((emitInstr instr).text m) := by
  obtain ⟨x, hx, -⟩ := text_of_isPrivileged (β := β) hp
  rw [hx]
  exact takesException_privilege instr.addr hs fun _ => x

theorem takesException_illegal (hm : instr.mnemonic = .illegal) :
    TakesException ((illegalVector instr).setWidth 32 * 4) (nextPc instr) m
      ((emitInstr instr).text m) := by
  have htext : (emitInstr (β := β) instr).text = emitExceptionVectorCall (illegalVector instr)
      (instr.addr + instr.byteLength.setWidth 32) := by
    simp only [emitInstr, hm]
    rfl
  rw [htext]
  exact takesException_vector (illegalVector instr) _ m

theorem takesException_trapInstr (hm : instr.mnemonic = .trap) :
    TakesException ((32 + (instr.immediate &&& 0xF)) * 4) (nextPc instr) m
      ((emitInstr instr).text m) := by
  have htext : (emitInstr (β := β) instr).text =
      trapThrough instr ((32 + (instr.immediate &&& 0xF)) * 4) := by
    simp only [emitInstr, hm]
    rfl
  rw [htext]
  exact takesException_trap instr _ m

theorem text_of_trapv (hm : instr.mnemonic = .trapv) :
    (emitInstr (β := β) instr).text = trapvText instr := by
  simp only [emitInstr, hm]
  rfl

theorem takesException_trapv (hm : instr.mnemonic = .trapv)
    (hv : srHas m.cpu.sr ngCcrV = true) :
    TakesException 0x0000001C (nextPc instr) m ((emitInstr instr).text m) := by
  rw [text_of_trapv hm, trapvText, bind_apply, getCpu_apply]
  dsimp only
  rw [if_pos hv]
  exact takesException_trap instr _ m

theorem takesException_divide {rd : Gen β CExpr} {e : CExpr} {m' : Machine β}
    (hm : isDivide instr.mnemonic = true) (hd : instr.dst.mode = .dreg)
    (hrd : emitEaRead instr.src 2 = some rd) (hrun : rd m = .next e m')
    (hzero : (e m'.cpu).setWidth 16 = (0 : BitVec 16)) :
    TakesException 0x00000014 (nextPc instr) m' ((emitInstr instr).text m) := by
  have hmd : isMulDiv instr.mnemonic = true := by
    cases hi : instr.mnemonic <;> rw [hi] at hm <;> first | rfl | cases hm
  obtain ⟨text, htext, hexact⟩ :=
    emitInstr_mulDivExact (β := β) instr hmd hrd (mode_ne_none_of_emitEaRead hrd) hd
  have hexact := hexact m _ m' hrun
  rw [MulDivExact, if_pos hm, if_pos hzero] at hexact
  rw [htext]
  exact hexact

/-- Every exception of the emitted code stacks the address of a privileged instruction itself and of
the instruction after any other. -/
theorem raises_takesException {vector pc : BitVec 32} {m' : Machine β}
    (h : Raises instr m vector pc m') :
    TakesException vector pc m' ((emitInstr instr).text m) := by
  cases h with
  | privilege hp hs => exact takesException_privileged hp hs
  | illegal hm => exact takesException_illegal hm
  | trap hm => exact takesException_trapInstr hm
  | trapv hm hv => exact takesException_trapv hm hv
  | chk hm hd hsize hrd hrun hvalue hout =>
    exact takesException_chk hm hd hsize hrd hrun hvalue hout
  | divide hm hd hrd hrun hzero => exact takesException_divide hm hd hrd hrun hzero

omit [GeneratedAbi β] in
/-- The return address can be read back from what was written. -/
theorem TakesException.pc_unique {α : Type} {vector vector' pc pc' : BitVec 32}
    {o : Outcome β α} (h : TakesException vector pc m o) (h' : TakesException vector' pc' m o) :
    pc = pc' := by
  obtain ⟨m₁, rest, ho, hlog, -⟩ := h
  obtain ⟨m₂, rest', ho', hlog', -⟩ := h'
  rw [ho] at ho'
  cases ho'
  rw [hlog, List.append_right_inj] at hlog'
  have hfirst := (List.cons.inj hlog').1
  injection hfirst

/-- An ILLEGAL opcode. -/
def illegalInstr : NgM68kInstr :=
  { addr := 0x5F0, opcode := 0x4AFC, mnemonic := .illegal, byteLength := 2, immediate := 4 }

/-- ANDI #$F8FF,SR. -/
def andiToSrInstr : NgM68kInstr :=
  { addr := 0x1000, opcode := 0x027C, mnemonic := .andiToSr, byteLength := 4, immediate := 0xF8FF }

/-- User code with both stacks in RAM. -/
def userMachine : Machine Ram where
  cpu := { d := fun _ => 0, a := fun _ => 0x2000, pc := 0x1000, sr := 0x0004, usp := 0,
           ssp := 0x10F300 }
  bus := ⟨fun _ => 0⟩
  traceSr := 0
  log := []

theorem takesException_andiToSr_illegal :
    TakesException 0x20 0x1000 userMachine ((emitInstr andiToSrInstr).text userMachine) ∧
      TakesException 0x10 0x5F2 userMachine ((emitInstr illegalInstr).text userMachine) :=
  ⟨raises_takesException (.privilege rfl (by decide)), raises_takesException (.illegal rfl)⟩

/-- ILLEGAL does not stack its own address. -/
theorem illegal_stacks_next :
    ¬ ∀ (instr : NgM68kInstr) (m : Machine Ram), instr.mnemonic = .illegal →
      ∃ vector, TakesException vector (addr24 instr.addr) m ((emitInstr instr).text m) := by
  intro h
  obtain ⟨vector, hown⟩ := h illegalInstr userMachine rfl
  have hnext := takesException_vector 4 0x5F2 userMachine
  exact absurd (hown.pc_unique hnext) (by decide)

end Abi

end NeoRecomp
