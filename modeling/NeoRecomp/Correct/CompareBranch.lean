import NeoRecomp.Correct.LogicBits
import NeoRecomp.Correct.Outcomes

/-!
# A comparison and the instruction that acts on it

The sixteen conditions are tests of four flags.  After a comparison they are the order relations of
the two words compared, signed and unsigned, at every operand size; so a comparison followed by a
Bcc, Scc or DBcc decides that relation.
-/

namespace NeoRecomp

open Gen BitArith

/-! ## Relations -/

/-- The relation between destination and source that a condition asks for after a comparison. -/
def conditionRelation {w : Nat} (condition : BitVec 8) (dst src : BitVec w) : Bool :=
  match condition.toNat with
  | 0 => true
  | 1 => false
  | 2 => src.toNat < dst.toNat
  | 3 => dst.toNat ≤ src.toNat
  | 4 => src.toNat ≤ dst.toNat
  | 5 => dst.toNat < src.toNat
  | 6 => dst ≠ src
  | 7 => dst = src
  | 8 => FitsSigned w (dst.toInt - src.toInt)
  | 9 => ¬ FitsSigned w (dst.toInt - src.toInt)
  | 10 => 0 ≤ (dst - src).toInt
  | 11 => (dst - src).toInt < 0
  | 12 => src.toInt ≤ dst.toInt
  | 13 => dst.toInt < src.toInt
  | 14 => src.toInt < dst.toInt
  | 15 => dst.toInt ≤ src.toInt
  | _ => false

@[simp] theorem flagN_put (f : Ccr) (sr : BitVec 16) : flagN (f.put sr) = f.n := by
  rw [flagN, Ccr.getLsbD_put]; rfl

section Flags
variable {w : Nat} (dst src : BitVec w) (sr : BitVec 16)

theorem compareCcr_c : (compareCcr dst src sr).c = decide (dst.toNat < src.toNat) := by
  have hd := dst.isLt
  have hcast : ((2 ^ w : Nat) : Int) = 2 ^ w := by push_cast; rfl
  show decide (¬ FitsUnsigned w ((dst.toNat : Int) - src.toNat)) = _
  rw [decide_eq_decide, FitsUnsigned, ← hcast]
  omega

theorem compareCcr_z : (compareCcr dst src sr).z = decide (dst = src) := by
  show decide (arithResult .sub dst src = 0) = _
  rw [arithResult_sub, decide_eq_decide]
  exact sub_eq_zero

theorem compareCcr_n : (compareCcr dst src sr).n = decide ((dst - src).toInt < 0) := by
  show decide ((arithResult .sub dst src).toInt < 0) = _
  rw [arithResult_sub]

theorem compareCcr_v :
    (compareCcr dst src sr).v = decide (¬ FitsSigned w (dst.toInt - src.toInt)) := rfl

/-- N and V differ exactly when the destination is the lesser signed number: without overflow the
sign of the difference tells, and an overflow turns that sign over. -/
theorem compareCcr_n_xor_v (hw : 0 < w) :
    ((compareCcr dst src sr).n != (compareCcr dst src sr).v) = decide (dst.toInt < src.toInt) := by
  obtain ⟨hdlo, hdhi⟩ := toInt_fits hw dst
  obtain ⟨hslo, hshi⟩ := toInt_fits hw src
  have hp := two_pow_pred hw
  have hmsb := msb_ofInt hw (dst.toInt - src.toInt) (by omega) (by omega)
  rw [ofInt_sub, BitVec.ofInt_toInt, BitVec.ofInt_toInt] at hmsb
  rw [compareCcr_n, compareCcr_v, ← BitVec.msb_eq_toInt, Bool.eq_iff_iff, bne_iff_ne, ne_eq,
    Bool.eq_iff_iff, hmsb, decide_eq_true_eq, decide_eq_true_eq, FitsSigned]
  omega

/-- The flags of a comparison answer every condition by its relation. -/
theorem conditionHolds_compare (hw : 0 < w) (condition : BitVec 8) :
    conditionHolds condition ((compareCcr dst src sr).put sr) =
      conditionRelation condition dst src := by
  have hlt := compareCcr_n_xor_v dst src sr hw
  have hge : ((compareCcr dst src sr).n == (compareCcr dst src sr).v) =
      !decide (dst.toInt < src.toInt) := by
    rw [← hlt, bne, Bool.not_not]
  have hnat : dst = src ↔ dst.toNat = src.toNat := BitVec.toNat_inj.symm
  have hint : dst = src ↔ dst.toInt = src.toInt := BitVec.toInt_inj.symm
  unfold conditionHolds conditionRelation
  simp only [flagC_put, flagZ_put, flagN_put, flagV_put]
  generalize condition.toNat = code
  split
  case h_1 | h_2 | h_17 => simp only [*]
  -- HI, LS, CC, CS: the borrow
  case h_6 => simp only [compareCcr_c]
  case h_3 | h_4 | h_5 =>
    simp only [compareCcr_c, compareCcr_z, hnat, ← decide_not, ← Bool.decide_and,
      ← Bool.decide_or, decide_eq_decide]
    omega
  -- NE, EQ
  case h_7 | h_8 => simp only [compareCcr_z, ← decide_not]
  -- VC, VS
  case h_9 => simp only [compareCcr_v, ← decide_not, not_not]
  case h_10 => simp only [compareCcr_v]
  -- PL, MI
  case h_11 => simp only [compareCcr_n, ← decide_not, not_lt]
  case h_12 => simp only [compareCcr_n]
  -- GE, LT, GT, LE: the sign of the difference against the overflow
  case h_13 => simp only [hge, ← decide_not, not_lt]
  case h_14 => simp only [hlt]
  case h_15 | h_16 =>
    simp only [hge, hlt, compareCcr_z, hint, ← decide_not, ← Bool.decide_and, ← Bool.decide_or,
      decide_eq_decide]
    omega

end Flags

/-! ## Comparisons -/

/-- Two words of one width, the second to be subtracted from the first. -/
structure Comparison where
  w : Nat
  pos : 0 < w
  dst : BitVec w
  src : BitVec w

section Abi
variable {β : Type} [GeneratedAbi β] {instr : NgM68kInstr} {m : Machine β}

/-- The words a comparing instruction compares; TST compares with zero. -/
def comparison (instr : NgM68kInstr) : Gen β Comparison :=
  match instr.mnemonic with
  | .cmpa => do
      let src ← moveSource instr.src instr.size
      pure ⟨32, by decide, (← getCpu).a (regIndex instr.dst.reg), src.signExtend 32⟩
  | .cmpi => do
      let dst ← moveSource instr.dst instr.size
      pure ⟨_, ngSizeBits_pos instr.size, dst, instr.immediate.setWidth _⟩
  | .tst => do
      let value ← moveSource instr.src instr.size
      pure ⟨_, ngSizeBits_pos instr.size, value, 0⟩
  | _ => do
      let src ← moveSource instr.src instr.size
      let dst ← moveSource instr.dst instr.size
      pure ⟨_, ngSizeBits_pos instr.size, dst, src⟩

/-- The instructions that set the flags of a comparison and write nothing else. -/
def isComparison : NgM68kMnemonic → Bool
  | .cmp | .cmpa | .cmpi | .cmpm | .tst => true
  | _ => false

/-- A value described by N and Z is a value compared with zero. -/
theorem resultCcr_eq_compareCcr {w : Nat} (hw : 0 < w) (v : BitVec w) (sr : BitVec 16) :
    resultCcr v sr = compareCcr v 0 sr := by
  have hx : (compareCcr v 0 sr).x = flagX sr := rfl
  have hz := compareCcr_z v 0 sr
  have hc := compareCcr_c v 0 sr
  have hn := compareCcr_n v 0 sr
  have hv := compareCcr_v v 0 sr
  have hfits := toInt_fits hw v
  rw [BitVec.ofNat_eq_ofNat, BitVec.sub_zero, ← BitVec.msb_eq_toInt] at hn
  rw [BitVec.ofNat_eq_ofNat, BitVec.toInt_zero, sub_zero, decide_eq_false (not_not.mpr hfits)] at hv
  rw [BitVec.ofNat_eq_ofNat, BitVec.toNat_ofNat, Nat.zero_mod, decide_eq_false (by omega)] at hc
  unfold resultCcr
  rw [← hx, ← hn, ← hz, ← hv]
  cases hccr : compareCcr v 0 sr with
  | mk x n z w c =>
    rw [← BitVec.ofNat_eq_ofNat, hccr] at hc hv
    rw [show c = w from hc.trans hv.symm]

/-- A comparing instruction runs as the comparison of its words. -/
theorem emitInstr_comparison (hv : ngM68kValidate instr = true)
    (hm : isComparison instr.mnemonic = true) :
    (emitInstr (β := β) instr).text = (do
      let c ← comparison instr
      compare c.dst c.src) := by
  unfold ngM68kValidate at hv
  rw [Bool.and_eq_true] at hv
  replace hv := hv.2
  unfold emitInstr comparison
  cases h : instr.mnemonic <;> simp only [h, isComparison, Bool.false_eq_true] at hm hv ⊢
  case cmp =>
    obtain ⟨hsrc, hdst, -⟩ := validateEaToDregBinary_shape hv
    rw [emitAlu_toDreg hsrc hdst (.inr (.inr h)), arithReference, h]
    simp only [fallsThrough, bind_assoc, pure_bind]
  case cmpa =>
    obtain ⟨hsrc, hdst, hsize⟩ := validateAddressRegOp_shape hv
    rw [emitAluAddressReg_eq hsrc hdst hsize (.inr (.inr h)), arithReference, h]
    simp only [orUnsupported, fallsThrough, bind_assoc, pure_bind]
  case cmpi =>
    have hdst := validateImmediateWithBase_shape hv
    rw [emitCmpiGeneric_eq (mode_ne_none_of_dataAlterable hdst)]
    simp only [orUnsupported, fallsThrough, bind_assoc, pure_bind]
  case cmpm =>
    obtain ⟨hsrc, hdst⟩ := validateCmpm_shape hv
    rw [emitCmpm_eq h hsrc hdst]
    simp only [orUnsupported, fallsThrough, bind_assoc, pure_bind]
  case tst =>
    have hsrc := mode_ne_none_of_dataAlterable (validateTst_fields hv).1
    rw [emitTst_eq h hv, logicReference, h]
    dsimp only [fallsThrough]
    simp only [compare, ← resultCcr_eq_compareCcr (ngSizeBits_pos instr.size), bind_assoc,
      pure_bind]

theorem moveSource_next (ea : NgM68kEa) (size : BitVec 8) (m : Machine β) :
    ∃ v m', moveSource ea size m = .next v m' ∧ m'.traceSr = m.traceSr := by
  unfold moveSource accessMemory
  cases ea.mode <;>
    simp only [stepUp, stepDown, bind_apply, getCpu_apply, modifyCpu_apply, readSize_apply,
      pure_apply, reduceCtorEq, if_false, if_true] <;>
    exact ⟨_, _, rfl, rfl⟩

/-- The words of a comparison are taken without leaving the text. -/
theorem comparison_next (instr : NgM68kInstr) (m : Machine β) :
    ∃ c m', comparison instr m = .next c m' ∧ m'.traceSr = m.traceSr := by
  obtain ⟨src, m₁, hsrc, ht⟩ := moveSource_next instr.src instr.size m
  unfold comparison
  cases instr.mnemonic <;> dsimp only
  case cmpi =>
    obtain ⟨dst, m₂, hdst, ht⟩ := moveSource_next instr.dst instr.size m
    rw [bind_of_next hdst]
    exact ⟨_, m₂, rfl, ht⟩
  case cmpa | tst =>
    rw [bind_of_next hsrc]
    exact ⟨_, m₁, rfl, ht⟩
  all_goals
    obtain ⟨dst, m₂, hdst, ht'⟩ := moveSource_next instr.dst instr.size m₁
    rw [bind_of_next hsrc, bind_of_next hdst]
    exact ⟨_, m₂, rfl, ht'.trans ht⟩

/-! ## Decisions -/

/-- The counting half of DBcc: the low word of the register is lowered, and the branch is taken
until it was zero. -/
def countDown (instr : NgM68kInstr) : Gen β Unit := do
  let r := regIndex instr.reg
  let count := ((← getCpu).d r).setWidth 16 - 1
  modifyCpu fun g => g.setD r (replaceLow (g.d r) count)
  if count ≠ 0xFFFF then goto instr.target

/-- What Bcc, Scc and DBcc do once their condition is answered. -/
def actOn (instr : NgM68kInstr) (holds : Bool) : Gen β Unit :=
  match instr.mnemonic with
  | .bcc => if holds then goto instr.target else pure ()
  | .scc => moveDestination instr.dst 1 (if holds then 0xFF else 0)
  | _ => if holds then pure () else countDown instr

/-- The instructions that test a condition. -/
def isConditional : NgM68kMnemonic → Bool
  | .bcc | .scc | .dbcc => true
  | _ => false

theorem emitBcc_actOn (hm : instr.mnemonic = .bcc) (hv : validateBranch instr = true)
    (ht : srHas m.traceSr ngSrT = false) :
    (emitBcc instr).text m =
      (if conditionHolds instr.condition m.cpu.sr then goto instr.target else pure ()) m := by
  simp only [validateBranch, hm, Bool.and_eq_true, decide_eq_true_iff] at hv
  obtain ⟨-, ⟨-, hlo⟩, hhi⟩ := hv
  have h0 : instr.condition ≠ 0 := by rintro h; rw [h] at hlo; exact absurd hlo (by decide)
  have h1 : instr.condition ≠ 1 := by rintro h; rw [h] at hlo; exact absurd hlo (by decide)
  obtain ⟨expr, hexpr⟩ := ngConditionExpr_isSome h0 h1 hhi
  rw [← ngConditionExpr_eq hexpr, emitBcc, emitBranchCondition]
  simp only [h0, h1, if_false, hexpr]
  rw [bind_apply, getCpu_apply]
  dsimp only
  split_ifs with hc
  · exact branch_goto ht
  · rfl

/-- A store to a validated byte destination. -/
theorem emitEaWrite_byte {ea : NgM68kEa} (hea : eaIsDataAlterable ea = true) :
    ∃ wr, (emitEaWrite ea 1 : Option (CExpr → Gen β Unit)) = some wr ∧
      ∀ (e : CExpr) m, wr e m = moveDestination ea 1 (castSize 1 (e m.cpu)) m := by
  have hne : ea.mode ≠ .areg := by
    intro h
    simp [eaIsDataAlterable, eaIsMemoryAlterable, h] at hea
  obtain ⟨wr, hwr⟩ : ∃ wr, (emitEaWrite ea 1 : Option (CExpr → Gen β Unit)) = some wr := by
    unfold eaIsDataAlterable eaIsMemoryAlterable at hea
    unfold emitEaWrite
    cases h : ea.mode <;> simp_all
  refine ⟨wr, hwr, fun e m => ?_⟩
  obtain ⟨m', hw, hd, -⟩ := moveDestination_emitted hwr hne e m
  rw [hw, hd]

theorem emitScc_actOn (hv : validateScc instr = true) :
    (emitScc instr).text m =
      moveDestination instr.dst 1 (if conditionHolds instr.condition m.cpu.sr then 0xFF else 0)
        m := by
  unfold validateScc at hv
  split at hv
  case h_2 => cases hv
  rename_i hdst _
  simp only [Bool.and_eq_true, decide_eq_true_iff] at hv
  have hle : instr.condition ≤ 15 := hv.1.1.1.1.1.1.1.1.2
  obtain ⟨wr, hwr, hrun⟩ := emitEaWrite_byte (β := β) (eaIsDataAlterable_of_extLength hdst)
  unfold emitScc
  rw [hwr]
  by_cases h0 : instr.condition = 0
  · rw [if_pos h0, h0]
    exact hrun _ m
  by_cases h1 : instr.condition = 1
  · rw [if_neg h0, if_pos h1, h1]
    exact hrun _ m
  obtain ⟨expr, hexpr⟩ := ngConditionExpr_isSome h0 h1 hle
  rw [if_neg h0, if_neg h1, hexpr, ← ngConditionExpr_eq hexpr]
  refine (hrun _ m).trans ?_
  cases expr m.cpu.sr <;> rfl

/-- The count is lowered in 32 bits and cut to its low word. -/
theorem dbccStatements_eq (ht : srHas m.traceSr ngSrT = false) :
    dbccStatements instr m = countDown instr m := by
  have hsub (v : BitVec 32) : (v - 1).setWidth 16 = v.setWidth 16 - (1 : BitVec 16) := by
    bv_omega
  have hkeep (v : BitVec 32) (c : BitVec 16) :
      (v &&& 0xFFFF0000) ||| c.setWidth 32 = replaceLow v c :=
    @and_keep_or_promote 2 v c
  unfold dbccStatements countDown
  simp only [bind_apply, getCpu_apply, modifyCpu_apply, hsub, setWidth_and_word, hkeep]
  split_ifs with hc
  · exact branch_goto ht
  · rfl

theorem emitDbcc_actOn (hv : validateDbcc instr = true) (ht : srHas m.traceSr ngSrT = false) :
    (emitDbcc instr).text m =
      (if conditionHolds instr.condition m.cpu.sr then pure () else countDown instr) m := by
  simp only [validateDbcc, Bool.and_eq_true, decide_eq_true_iff] at hv
  have hle : instr.condition ≤ 15 := hv.1.1.1.1.1.1.1.1.2
  have hcount : dbccStatements instr m = countDown instr m := dbccStatements_eq ht
  unfold emitDbcc
  by_cases h0 : instr.condition = 0
  · rw [if_pos h0, h0]
    rfl
  by_cases h1 : instr.condition = 1
  · rw [if_neg h0, if_pos h1, h1]
    exact hcount
  obtain ⟨expr, hexpr⟩ := ngConditionExpr_isSome h0 h1 hle
  rw [if_neg h0, if_neg h1, hexpr, ← ngConditionExpr_eq hexpr]
  dsimp only [fallsThrough]
  rw [bind_apply, getCpu_apply]
  dsimp only
  by_cases hc : expr m.cpu.sr = true
  · rw [if_pos hc, if_pos hc]
  · rw [if_neg hc, if_neg hc, hcount]

/-- The text of a conditional instruction acts on the answer to its condition. -/
theorem emitInstr_conditional (hv : ngM68kValidate instr = true)
    (hm : isConditional instr.mnemonic = true) (ht : srHas m.traceSr ngSrT = false) :
    (emitInstr instr).text m = actOn instr (conditionHolds instr.condition m.cpu.sr) m := by
  unfold ngM68kValidate at hv
  rw [Bool.and_eq_true] at hv
  replace hv := hv.2
  unfold emitInstr actOn
  cases h : instr.mnemonic <;> simp only [h, isConditional, Bool.false_eq_true] at hm hv ⊢
  case bcc => exact emitBcc_actOn h hv ht
  case scc => exact emitScc_actOn hv
  case dbcc => exact emitDbcc_actOn hv ht

/-! ## Main result -/

/-- A comparison followed by a conditional instruction decides the relation the condition names: the
words compared are read once, the flags are set, and Bcc branches, Scc stores ones and DBcc stops
counting exactly when destination and source are so related. -/
theorem compare_decides {cmp instr : NgM68kInstr} (hc : ngM68kValidate cmp = true)
    (hcm : isComparison cmp.mnemonic = true) (hv : ngM68kValidate instr = true)
    (hm : isConditional instr.mnemonic = true) (m : Machine β)
    (ht : srHas m.traceSr ngSrT = false) :
    (do
      (emitInstr cmp).text
      (emitInstr instr).text) m = (do
        let c ← comparison cmp
        compare c.dst c.src
        actOn instr (conditionRelation instr.condition c.dst c.src)) m := by
  obtain ⟨c, m₁, hnext, htrace⟩ := comparison_next cmp m
  let sr := (compareCcr c.dst c.src m₁.cpu.sr).put m₁.cpu.sr
  have hcompare : compare c.dst c.src m₁ = .next () { m₁ with cpu := m₁.cpu.setSr sr } := rfl
  rw [emitInstr_comparison hc hcm, bind_assoc, bind_of_next hnext, bind_of_next hnext,
    bind_of_next hcompare, bind_of_next hcompare,
    emitInstr_conditional hv hm (by rw [← htrace] at ht; exact ht)]
  exact congrArg (fun holds => actOn instr holds _)
    (conditionHolds_compare c.dst c.src m₁.cpu.sr c.pos instr.condition)

end Abi

/-- `CMP.W D1,D0`. -/
def cmpWordInstr : NgM68kInstr :=
  { addr := 0x1000, opcode := 0xB041, mnemonic := .cmp, byteLength := 2, reg := 0, srcReg := 1,
    size := 2, form := .dregToDreg, src := { mode := .dreg, reg := 1 }, dst := { mode := .dreg } }

/-- `BLT` behind it. -/
def bltInstr : NgM68kInstr :=
  { addr := 0x1002, opcode := 0x6D10, mnemonic := .bcc, byteLength := 2, condition := 13,
    displacement := 0x10, target := 0x1014 }

/-- A machine with -1 in the low word of D0 and 1 in D1. -/
def signedOperands : Machine Ram :=
  { clearedMachine with cpu := (clearedMachine.cpu.setD 0 0x0000FFFF).setD 1 1 }

/-- As signed words the operands are in order, as unsigned words they are not: BLT branches. -/
theorem compare_decides_cmpWord :
    ∃ m, ((do
      (emitInstr cmpWordInstr).text
      (emitInstr bltInstr).text) : Gen Ram Unit) signedOperands = .exit (.goto 0x1014) m := by
  rw [compare_decides (by decide +kernel) (by decide) (by decide +kernel) (by decide)
    signedOperands (by decide)]
  exact ⟨_, rfl⟩

end NeoRecomp
