import NeoRecomp.Correct.Faults
import NeoRecomp.Spec.MulDiv

/-!
# The emitted multiplications and divisions

Products are exact.  A division writes remainder and quotient where the quotient fits a word, sets V
where it does not, and takes the exception of vector 5 for a zero divisor.
-/

namespace NeoRecomp

open Gen BitArith

/-! ## Flags and words -/

theorem ngSetNz_eq_put {w : Nat} (v : BitVec w) (sr : BitVec 16) :
    ngSetNz v sr = (resultCcr v sr).put sr := by
  rw [ngSetNz, beq_eq_decide]
  exact orIf_chain_eq_put_compare sr v.msb (decide (v = 0)) false false

theorem toInt_ofInt_of_fits {w : Nat} (hw : 0 < w) {z : Int} (h : FitsSigned w z) :
    (BitVec.ofInt w z).toInt = z := by
  have hp := two_pow_pred hw
  have hcast : ((2 ^ w : Nat) : Int) = 2 ^ w := by push_cast; rfl
  obtain ⟨hlo, hhi⟩ := h
  rw [BitVec.toInt_ofInt]
  exact Int.bmod_eq_of_le (by omega) (by omega)

/-- The flag statements of a quotient that does not fit. -/
theorem overflow_flags (sr : BitVec 16) :
    flagV (sr &&& 0xFFF0 ||| ngCcrV) = true ∧ flagC (sr &&& 0xFFF0 ||| ngCcrV) = false ∧
      flagX (sr &&& 0xFFF0 ||| ngCcrV) = flagX sr := by
  simp only [flagV, flagC, flagX, BitVec.getLsbD_or, BitVec.getLsbD_and]
  refine ⟨?_, ?_, ?_⟩ <;> simp [ngCcrV]

/-- The flag statements of a quotient that fits. -/
theorem quotient_flags (lo : BitVec 16) (sr : BitVec 16) {n : Bool} (hn : n = lo.msb) :
    orIf n ngCcrN (orIf (lo == 0#16) ngCcrZ (sr &&& 0xFFF0)) = (resultCcr lo sr).put sr := by
  rw [hn, beq_eq_decide]
  exact orIf_chain_eq_put_compare sr lo.msb (decide (lo = 0)) false false

/-! ## Multiplication -/

section Statements
variable {β : Type}

theorem setWidth_and_word (v : BitVec 32) : (v &&& 0xFFFF).setWidth 16 = v.setWidth 16 :=
  @castSize_and_ngValueMask 2 v

/-- The product of two words in the width of a register. -/
theorem product_exact (mn : NgM68kMnemonic) (a b : BitVec 16) :
    let p := if isSignedOp mn then a.signExtend 32 * b.signExtend 32
      else a.setWidth 32 * b.setWidth 32
    operandValue mn p = operandValue mn a * operandValue mn b ∧
      OperandFits mn 32 (operandValue mn a * operandValue mn b) := by
  intro p
  have ha := a.isLt
  have hb := b.isLt
  by_cases hs : isSignedOp mn = true
  · obtain ⟨halo, hahi⟩ := toInt_fits (by decide) a
    obtain ⟨hblo, hbhi⟩ := toInt_fits (by decide) b
    have habs : (a.toInt * b.toInt).natAbs ≤ 2 ^ 15 * 2 ^ 15 := by
      rw [Int.natAbs_mul]
      exact Nat.mul_le_mul (by omega) (by omega)
    have hp : p = a.signExtend 32 * b.signExtend 32 := if_pos hs
    rw [OperandFits, operandValue, operandValue, operandValue, if_pos hs, if_pos hs, if_pos hs,
      if_pos hs, hp, BitVec.toInt_mul, BitVec.toInt_signExtend_of_le (by decide),
      BitVec.toInt_signExtend_of_le (by decide)]
    exact ⟨Int.bmod_eq_of_le (by omega) (by omega), by omega, by omega⟩
  · have hlt : a.toNat * b.toNat < 2 ^ 32 :=
      (Nat.mul_lt_mul'' ha hb).trans_eq (by norm_num)
    have hp : p = a.setWidth 32 * b.setWidth 32 := if_neg hs
    have ha' : a.toNat % 2 ^ 32 = a.toNat := Nat.mod_eq_of_lt (by omega)
    have hb' : b.toNat % 2 ^ 32 = b.toNat := Nat.mod_eq_of_lt (by omega)
    rw [OperandFits, operandValue, operandValue, operandValue, if_neg hs, if_neg hs, if_neg hs,
      if_neg hs, hp, BitVec.toNat_mul, BitVec.toNat_setWidth, BitVec.toNat_setWidth, ha', hb',
      Nat.mod_eq_of_lt hlt, ← Int.natCast_mul]
    refine ⟨rfl, ?_, ?_⟩
    · exact Int.natCast_nonneg _
    · exact_mod_cast hlt

/-! ## Division -/

theorem divuStatements_apply (r : Fin 8) (divisor : BitVec 16) (m : Machine β) :
    (divuStatements r divisor : Gen β Unit) m =
      (let q := m.cpu.d r / divisor.setWidth 32
      let rem := (m.cpu.d r % divisor.setWidth 32).setWidth 16
      if q > 0xFFFF then .next () { m with cpu := m.cpu.setSr (m.cpu.sr &&& 0xFFF0 ||| ngCcrV) }
      else .next () { m with
        cpu := (m.cpu.setD r (rem ++ q.setWidth 16)).setSr
          (orIf (q &&& 0x8000 != 0) ngCcrN
            (orIf (q.setWidth 16 == 0#16) ngCcrZ (m.cpu.sr &&& 0xFFF0))) }) := by
  simp only [divuStatements, bind_apply, getCpu_apply, modifyCpu_apply]
  split_ifs <;> rfl

theorem divsStatements_apply (r : Fin 8) (divisor : BitVec 16) (m : Machine β) :
    (divsStatements r divisor : Gen β Unit) m =
      (let q := (m.cpu.d r).toInt.tdiv divisor.toInt
      let rem := (m.cpu.d r).toInt.tmod divisor.toInt
      if q < -32768 ∨ q > 32767 then
        .next () { m with cpu := m.cpu.setSr (m.cpu.sr &&& 0xFFF0 ||| ngCcrV) }
      else .next () { m with
        cpu := (m.cpu.setD r (BitVec.ofInt 16 rem ++ BitVec.ofInt 16 q)).setSr
          (orIf (decide (q < 0)) ngCcrN
            (orIf (BitVec.ofInt 16 q == 0#16) ngCcrZ (m.cpu.sr &&& 0xFFF0))) }) := by
  simp only [divsStatements, bind_apply, getCpu_apply, modifyCpu_apply]
  split_ifs <;> rfl

variable {instr : NgM68kInstr} {text : Gen β Unit} {operand : BitVec 16} {m m' : Machine β}

theorem divides_divu (hm : instr.mnemonic = .divu) (h0 : operand ≠ 0)
    (ht : text m = divuStatements (regIndex instr.dst.reg) operand m') :
    Divides instr text operand m m' := by
  have hs : isSignedOp instr.mnemonic = false := by rw [hm]; rfl
  have h0' : operand.toNat ≠ 0 := fun h => h0 (BitVec.eq_of_toNat_eq h)
  unfold Divides OperandFits operandValue
  simp only [hs, Bool.false_eq_true, if_false]
  rw [ht, divuStatements_apply]
  generalize regIndex instr.dst.reg = r
  dsimp only
  have hq : (m'.cpu.d r / operand.setWidth 32).toNat = (m'.cpu.d r).toNat / operand.toNat := by
    rw [BitVec.toNat_udiv, BitVec.toNat_setWidth, Nat.mod_eq_of_lt (by omega)]
  have hrem : ((m'.cpu.d r % operand.setWidth 32).setWidth 16).toNat =
      (m'.cpu.d r).toNat % operand.toNat := by
    have hlt := Nat.mod_lt (m'.cpu.d r).toNat (Nat.pos_of_ne_zero h0')
    rw [BitVec.toNat_setWidth, BitVec.toNat_umod, BitVec.toNat_setWidth,
      Nat.mod_eq_of_lt (b := 2 ^ 32) (by omega), Nat.mod_eq_of_lt (by omega)]
  have hle : (m'.cpu.d r).toNat / operand.toNat ≤ (m'.cpu.d r).toNat := Nat.div_le_self _ _
  have hlt := (m'.cpu.d r).isLt
  generalize hqv : m'.cpu.d r / operand.setWidth 32 = q at hq
  generalize (m'.cpu.d r % operand.setWidth 32).setWidth 16 = rem at hrem
  refine ⟨_, _, isQuotient_div _ h0', ⟨by omega, by omega⟩, ?_, ?_⟩
  · intro hfit
    have hfit' : q.toNat < 2 ^ 16 := by
      rw [hq]
      exact_mod_cast hfit.2
    have hlo : (q.setWidth 16).toNat = q.toNat := by
      rw [BitVec.toNat_setWidth, Nat.mod_eq_of_lt hfit']
    have hmsb : (q &&& 0x8000 != 0) = (q.setWidth 16).msb := by
      rw [BitVec.msb_eq_getLsbD_last, BitVec.getLsbD_setWidth]
      exact @signSet_eq_getLsbD 2 q
    refine ⟨rem, q.setWidth 16, by rw [hrem], by rw [hlo, hq], ?_⟩
    rw [if_neg (by rw [gt_iff_lt, BitVec.lt_def]; exact Nat.not_lt.mpr (Nat.le_of_lt_succ hfit')),
      quotient_flags (q.setWidth 16) m'.cpu.sr hmsb]
  · intro hfit
    obtain ⟨hv, hc, hx⟩ := overflow_flags m'.cpu.sr
    have hbig : 0xFFFF < q.toNat := by
      by_contra hle'
      exact hfit ⟨Int.natCast_nonneg _, by rw [← hq]; omega⟩
    exact ⟨_, hv, hc, hx, if_pos (show (0xFFFF : BitVec 32) < q from BitVec.lt_def.mpr hbig)⟩

theorem divides_divs (hm : instr.mnemonic = .divs) (h0 : operand ≠ 0)
    (ht : text m = divsStatements (regIndex instr.dst.reg) operand m') :
    Divides instr text operand m m' := by
  have hs : isSignedOp instr.mnemonic = true := by rw [hm]; rfl
  have h0' : operand.toInt ≠ 0 := fun h => h0 (BitVec.toInt_inj.mp h)
  unfold Divides OperandFits operandValue
  simp only [hs, if_true]
  rw [ht, divsStatements_apply]
  generalize regIndex instr.dst.reg = r
  dsimp only
  obtain ⟨hdlo, hdhi⟩ := toInt_fits (by decide) (m'.cpu.d r)
  obtain ⟨holo, hohi⟩ := toInt_fits (by decide) operand
  have hquot := isQuotient_tdiv (m'.cpu.d r).toInt h0'
  generalize (m'.cpu.d r).toInt.tdiv operand.toInt = q at hquot
  generalize (m'.cpu.d r).toInt.tmod operand.toInt = rem at hquot
  have hle := hquot.natAbs_le
  have hlt := hquot.lt
  refine ⟨q, rem, hquot, ⟨by omega, by omega⟩, ?_, ?_⟩
  · intro hfit
    have hlo := toInt_ofInt_of_fits (by decide) hfit
    have hhi := toInt_ofInt_of_fits (w := 16) (by decide) (z := rem) ⟨by omega, by omega⟩
    obtain ⟨hfl, hfh⟩ := hfit
    refine ⟨BitVec.ofInt 16 rem, BitVec.ofInt 16 q, hhi, hlo, ?_⟩
    rw [if_neg (by omega), quotient_flags (BitVec.ofInt 16 q) m'.cpu.sr
      (by rw [BitVec.msb_eq_toInt, hlo])]
  · intro hfit
    obtain ⟨hv, hc, hx⟩ := overflow_flags m'.cpu.sr
    refine ⟨_, hv, hc, hx, if_pos ?_⟩
    unfold FitsSigned at hfit
    omega

end Statements

/-! ## The instructions -/

section Instructions
variable {β : Type} [GeneratedAbi β] (instr : NgM68kInstr)

/-- MULU, MULS, DIVU and DIVS. -/
def isMulDiv : NgM68kMnemonic → Bool
  | .mulu | .muls | .divu | .divs => true
  | _ => false

def isDivide : NgM68kMnemonic → Bool
  | .divu | .divs => true
  | _ => false

/-- What a multiplication or division does from `m` on, where its operand was read on the way to
`m'`. -/
def MulDivExact (text : Gen β Unit) (operand : BitVec 16) (m m' : Machine β) : Prop :=
  if isDivide instr.mnemonic then
    if operand = 0 then TakesException 0x00000014 (nextPc instr) m' (text m)
    else Divides instr text operand m m'
  else Multiplies instr text operand m m'

theorem emitMultiply_exact {rd : Gen β CExpr} (hrd : emitEaRead instr.src 2 = some rd)
    (hs : instr.src.mode ≠ .none) (hd : instr.dst.mode = .dreg)
    (hm : instr.mnemonic = .mulu ∨ instr.mnemonic = .muls) :
    ∃ text, emitMultiply instr = .emitted text ∧ ∀ m e m', rd m = .next e m' →
      Multiplies instr text ((e m'.cpu).setWidth 16) m m' := by
  unfold emitMultiply
  rw [if_neg (by simp [hs, hd]; tauto), hrd]
  refine ⟨_, rfl, fun m e m' hrun => ?_⟩
  generalize hop : (e m'.cpu).setWidth 16 = operand
  obtain ⟨hp, hfit⟩ := product_exact instr.mnemonic
    ((m'.cpu.d (regIndex instr.dst.reg)).setWidth 16) operand
  refine ⟨_, hp, hfit, ?_⟩
  rw [bind_of_next hrun]
  simp only [bind_apply, modifyCpu_apply, setWidth_and_word, hop, ngSetNz_eq_put]
  rcases hm with h | h <;> simp [h, isSignedOp, NgM68kState.setD, NgM68kState.setSr]

theorem emitDivide_exact {rd : Gen β CExpr} (hrd : emitEaRead instr.src 2 = some rd)
    (hs : instr.src.mode ≠ .none) (hd : instr.dst.mode = .dreg)
    (hm : instr.mnemonic = .divu ∨ instr.mnemonic = .divs) :
    ∃ text, emitDivide instr = .emitted text ∧ ∀ m e m', rd m = .next e m' →
      let operand := (e m'.cpu).setWidth 16
      if operand = 0 then TakesException 0x00000014 (nextPc instr) m' (text m)
      else Divides instr text operand m m' := by
  unfold emitDivide
  rw [if_neg (by simp [hs, hd]; tauto), hrd]
  refine ⟨_, rfl, fun m e m' hrun => ?_⟩
  dsimp only
  have hrest := bind_of_next hrun fun e => (do
    let divisor := (e (← getCpu)).setWidth 16
    if divisor = 0 then trapThrough instr 0x00000014
    else if instr.mnemonic = .divu then divuStatements (regIndex instr.dst.reg) divisor
    else divsStatements (regIndex instr.dst.reg) divisor : Gen β Unit)
  rw [bind_apply getCpu, getCpu_apply] at hrest
  dsimp only at hrest
  generalize (e m'.cpu).setWidth 16 = operand at hrest ⊢
  by_cases h0 : operand = 0
  · rw [if_pos h0] at hrest ⊢
    rw [hrest]
    exact takesException_trap instr _ m'
  · rw [if_neg h0] at hrest ⊢
    rcases hm with h | h
    · rw [if_pos h] at hrest
      exact divides_divu h h0 hrest
    · rw [if_neg (by rw [h]; decide)] at hrest
      exact divides_divs h h0 hrest

theorem emitInstr_mulDivExact {rd : Gen β CExpr} (hm : isMulDiv instr.mnemonic = true)
    (hrd : emitEaRead instr.src 2 = some rd) (hs : instr.src.mode ≠ .none)
    (hd : instr.dst.mode = .dreg) :
    ∃ text : Gen β Unit, emitInstr instr = fallsThrough text ∧
      ∀ m e m', rd m = .next e m' → MulDivExact instr text ((e m'.cpu).setWidth 16) m m' := by
  unfold MulDivExact emitInstr
  cases h : instr.mnemonic <;> simp only [h, isMulDiv, Bool.false_eq_true] at hm
  case mulu =>
    obtain ⟨text, htext, hexact⟩ := emitMultiply_exact instr hrd hs hd (.inl h)
    exact ⟨text, by rw [htext]; rfl, hexact⟩
  case muls =>
    obtain ⟨text, htext, hexact⟩ := emitMultiply_exact instr hrd hs hd (.inr h)
    exact ⟨text, by rw [htext]; rfl, hexact⟩
  case divu =>
    obtain ⟨text, htext, hexact⟩ := emitDivide_exact instr hrd hs hd (.inl h)
    exact ⟨text, by rw [htext]; rfl, hexact⟩
  case divs =>
    obtain ⟨text, htext, hexact⟩ := emitDivide_exact instr hrd hs hd (.inr h)
    exact ⟨text, by rw [htext]; rfl, hexact⟩

/-- Every multiplication and division computes exactly: the operand is read, then either the exact
product or quotient and remainder are written with their flags, or a quotient that does not fit sets
V, or a zero divisor takes the exception of vector 5 before anything is divided. -/
theorem emitInstr_mulDiv (hm : isMulDiv instr.mnemonic = true) (hs : instr.src.mode ≠ .none)
    (hd : instr.dst.mode = .dreg) :
    ∃ (rd : Gen β CExpr) (text : Gen β Unit), emitEaRead instr.src 2 = some rd ∧
      emitInstr instr = fallsThrough text ∧
      ∀ m, ∃ e m', rd m = .next e m' ∧ m'.cpu.d = m.cpu.d ∧ m'.cpu.sr = m.cpu.sr ∧
        MulDivExact instr text ((e m'.cpu).setWidth 16) m m' := by
  obtain ⟨rd, hrd⟩ := emitEaRead_eq_some (β := β) 2 hs
  obtain ⟨text, htext, hexact⟩ := emitInstr_mulDivExact instr hm hrd hs hd
  refine ⟨rd, text, hrd, htext, fun m => ?_⟩
  obtain ⟨e, m', hrun, hreg, hsr, -⟩ := emitEaRead_next hrd m
  exact ⟨e, m', hrun, hreg, hsr, hexact m e m' hrun⟩

/-- DIVS.W D1,D0. -/
def divsInstr : NgM68kInstr :=
  { addr := 0x1000, opcode := 0x81C1, mnemonic := .divs, byteLength := 2, reg := 0, srcReg := 1,
    size := 2, src := { mode := .dreg, reg := 1 }, dst := { mode := .dreg } }

theorem emitInstr_mulDiv_divs :
    ∃ (rd : Gen Ram CExpr) (text : Gen Ram Unit), emitEaRead divsInstr.src 2 = some rd ∧
      emitInstr divsInstr = fallsThrough text ∧
      ∀ m, ∃ e m', rd m = .next e m' ∧ m'.cpu.d = m.cpu.d ∧ m'.cpu.sr = m.cpu.sr ∧
        MulDivExact divsInstr text ((e m'.cpu).setWidth 16) m m' :=
  emitInstr_mulDiv divsInstr (by decide) (by decide) rfl

end Instructions

end NeoRecomp
