import NeoRecomp.Correct.MoveFlags
import NeoRecomp.Spec.Logic

/-!
# The emitted logic and bit instructions

AND, OR, EOR, NOT, CLR, TST, TAS and the immediate variants run as their reference on every operand
the validator admits, shortcuts included; the one exception is the ANDI shortcut, which reads its
operand back for the flags.  BTST, BCHG, BCLR and BSET do so without exception.
-/

namespace NeoRecomp

open Gen

section Abi
variable {β : Type} [GeneratedAbi β] {instr : NgM68kInstr}

/-! ## Logic -/

omit [GeneratedAbi β] in
theorem promote_logicOp {size : BitVec 8} (mn : NgM68kMnemonic)
    (src dst : BitVec (ngSizeBits size)) :
    castSize size (logicOp mn (promote dst) (promote src)) = bitwise mn dst src := by
  have hle := ngSizeBits_le size
  have hs := castSize_promote src
  have hd := castSize_promote dst
  unfold castSize at hs hd ⊢
  unfold logicOp bitwise
  split <;> simp only [BitVec.setWidth_and, BitVec.setWidth_xor, BitVec.setWidth_or, hs, hd]

omit [GeneratedAbi β] in
theorem logicStatements_eq {size : BitVec 8} (mn : NgM68kMnemonic)
    (src dst : BitVec (ngSizeBits size)) (store : BitVec (ngSizeBits size) → Gen β Unit) :
    logicStatements mn size src dst store = (do
      store (described (bitwise mn dst src)).1
      modifyCpu fun g => g.setSr (((described (bitwise mn dst src)).2 g.sr).put g.sr)) := by
  simp only [logicStatements, promote_logicOp, emitSetNzForSize, castSize_var, ngSetNz_eq_put,
    described]

theorem emitLogicalImmGeneric_eq (hm : instr.mnemonic = .andi ∨ instr.mnemonic = .ori ∨
      instr.mnemonic = .eori) (hdst : eaIsDataAlterable instr.dst = true) :
    emitLogicalImmGeneric (β := β) instr = .emitted (logicReference instr) := by
  have href : logicReference (β := β) instr =
      alterOperand instr.dst instr.size fun dst =>
        described (bitwise instr.mnemonic dst (castSize instr.size instr.immediate)) := by
    unfold logicReference
    rcases hm with h | h | h <;> rw [h]
  unfold emitLogicalImmGeneric
  rw [if_neg (mode_ne_none_of_dataAlterable hdst), href, castSize_and_ngValueMask]
  exact emitRmw_eq hdst fun dst store => logicStatements_eq _ _ dst store

theorem emitUnaryRmwGeneric_not (hm : instr.mnemonic = .not)
    (hdst : eaIsDataAlterable instr.dst = true) :
    emitUnaryRmwGeneric (β := β) instr = .emitted (logicReference instr) := by
  have hnot : ∀ value : BitVec (ngSizeBits instr.size),
      (~~~(promote value)).setWidth (ngSizeBits instr.size) = ~~~value := by
    intro value
    rw [BitVec.setWidth_not (ngSizeBits_le _)]
    exact congrArg _ (castSize_promote value)
  unfold emitUnaryRmwGeneric logicReference
  rw [if_neg (mode_ne_none_of_dataAlterable hdst), hm]
  refine emitRmw_eq hdst fun value store => ?_
  simp only [if_true, notStatements, hnot, emitSetNzForSize, castSize_var, ngSetNz_eq_put,
    described]

/-- CLR stores zero and describes it, whichever shortcut prints it. -/
theorem emitClr_eq (hm : instr.mnemonic = .clr)
    (hv : validateUnaryDataAlterable instr false = true) :
    emitClr (β := β) instr = fallsThrough (logicReference instr) := by
  have hdst := validateUnaryDataAlterable_shape hv
  obtain ⟨wr, hwr⟩ : ∃ wr, (emitEaWrite instr.dst instr.size : Option (CExpr → Gen β Unit)) =
      some wr := by
    unfold eaIsDataAlterable eaIsMemoryAlterable at hdst
    unfold emitEaWrite
    cases h : instr.dst.mode <;> simp_all
  have hne : instr.dst.mode ≠ .areg := by
    intro h
    simp [eaIsDataAlterable, eaIsMemoryAlterable, h] at hdst
  have href : logicReference (β := β) instr = (do
      moveDestination instr.dst instr.size 0
      modifyCpu fun g =>
        g.setSr ((resultCcr (0 : BitVec (ngSizeBits instr.size)) g.sr).put g.sr)) := by
    rw [logicReference, hm]
  have hgeneric : emitClrGeneric (β := β) instr = .emitted (logicReference instr) := by
    rw [emitClrGeneric_eq hwr, href]
    congr 1
    funext m
    have hzero : castSize instr.size 0 = 0 := BitVec.setWidth_zero _ _
    obtain ⟨m', hw, hd, -⟩ := moveDestination_emitted hwr hne (fun _ => 0) m
    rw [hzero] at hd
    rw [bind_of_next hw, bind_of_next hd]
    simp only [emitSetNzForSize, ngSetNz_eq_put, hzero]
  cases hs : clrShortcut (β := β) instr with
  | none => simp only [emitClr, hs, hgeneric, orUnsupported]
  | some text =>
    have h := clrShortcut_eq_generic hv hs
    rw [hgeneric, Emission.emitted.injEq] at h
    simp only [emitClr, hs, h]

/-- TST reads its operand once, whichever shortcut prints it. -/
theorem emitTst_eq (hm : instr.mnemonic = .tst) (hv : validateTst instr = true) :
    emitTst (β := β) instr = fallsThrough (logicReference instr) := by
  have hsrc := mode_ne_none_of_dataAlterable (validateTst_fields hv).1
  obtain ⟨rd, hrd⟩ := emitEaRead_eq_some (β := β) instr.size hsrc
  have hgeneric : emitTstGeneric (β := β) instr = .emitted (logicReference instr) := by
    rw [emitTstGeneric_eq hrd, logicReference, hm]
    congr 1
    dsimp only
    rw [moveSource_eq hrd]
    funext m
    simp only [bind_apply]
    cases rd m with
    | next e m' =>
      simp only [getCpu_apply, emitSetNzForSize, modifyCpu_apply, ngSetNz_eq_put, pure_apply]
    | exit x m' => rfl
  cases hs : tstShortcut (β := β) instr with
  | none => simp only [emitTst, hs, hgeneric, orUnsupported]
  | some text =>
    have h := tstShortcut_eq_generic hv hs
    rw [hgeneric, Emission.emitted.injEq] at h
    simp only [emitTst, hs, h]

theorem emitTasGeneric_eq (hm : instr.mnemonic = .tas) (hsize : instr.size = 1)
    (hdst : eaIsDataAlterable instr.dst = true) :
    emitTasGeneric (β := β) instr = .emitted (logicReference instr) := by
  have hnone := mode_ne_none_of_dataAlterable hdst
  unfold emitTasGeneric logicReference
  rw [if_neg (by simp [hnone, hsize]), hm]
  dsimp only
  by_cases hd : instr.dst.mode = .dreg
  · rw [if_pos hd, alterOperand, if_pos hd]
    congr 1
    funext m
    have hlow : ∀ x : BitVec 32, (x &&& 0xFF).setWidth 8 = x.setWidth 8 :=
      fun x => @castSize_and_ngValueMask 1 x
    have hkeep : ∀ (x : BitVec 32) (v : BitVec 8),
        (x &&& 0xFFFFFF00) ||| v.setWidth 32 = replaceLow x v :=
      fun x v => @and_keep_or_promote 1 x v
    simp only [bind_apply, getCpu_apply, modifyCpu_apply, hlow, hkeep, ngSetNz_eq_put]
    rfl
  · obtain ⟨ad, had⟩ := emitEaAddress_eq_some (β := β) 1
      (by simpa [eaIsDataAlterable, hd] using hdst)
    rw [if_neg hd, had, alterOperand_memory had]
    dsimp only
    congr 1
    funext m
    simp only [bind_apply]
    cases ad m with
    | next e m' =>
      have hnz := @ngSetNz_eq_put 8 (abiRead 1 (e m'.cpu) m'.bus).1 m'.cpu.sr
      simp only [getCpu_apply, read8_apply, write8_apply, readSize_apply, writeSize_apply,
        modifyCpu_apply]
      rw [hnz]
      rfl
    | exit x m' => rfl

/-! ### Two operands -/

theorem logicReference_binary
    (hm : instr.mnemonic = .and ∨ instr.mnemonic = .or ∨ instr.mnemonic = .eor) :
    logicReference (β := β) instr = (do
      let src ← moveSource instr.src instr.size
      alterOperand instr.dst instr.size fun dst =>
        described (bitwise instr.mnemonic dst src)) := by
  unfold logicReference
  rcases hm with h | h | h <;> rw [h]

theorem emitLogicBinaryGeneric_toDreg
    (hm : instr.mnemonic = .and ∨ instr.mnemonic = .or ∨ instr.mnemonic = .eor)
    (hsrc : instr.src.mode ≠ .none) (hdst : instr.dst.mode = .dreg) :
    emitLogicBinaryGeneric (β := β) instr = .emitted (logicReference instr) := by
  obtain ⟨rd, hrd⟩ := emitEaRead_eq_some (β := β) instr.size hsrc
  have hrmw : (emitRmw (β := β) instr.dst instr.size fun _ _ => pure ()) =
      .emitted (do
        let e ← pure fun g : NgM68kState =>
          if instr.size = 4 then g.d (regIndex instr.dst.reg)
          else g.d (regIndex instr.dst.reg) &&& ngValueMask instr.size
        let _ := castSize instr.size (e (← getCpu))
        pure ()) := by
    rw [emitRmw, if_pos hdst, emitEaRead_dreg hdst]
  unfold emitLogicBinaryGeneric
  rw [if_neg (by rcases hm with h | h | h <;> simp [hsrc, hdst, h]), hrd, hrmw,
    logicReference_binary hm, moveSource_eq hrd]
  dsimp only
  congr 1
  funext m
  simp only [bind_apply]
  cases rd m with
  | exit x m' => rfl
  | next e m' =>
    simp only [hdst, if_true, bind_apply, getCpu_apply, alterOperand, logicStatements_eq,
      storeDreg, modifyCpu_apply, writeDreg_eq, castSize_promote, castSize_dreg]
    rfl

theorem emitLogicBinaryGeneric_toMemory
    (hm : instr.mnemonic = .and ∨ instr.mnemonic = .or ∨ instr.mnemonic = .eor)
    (hsrc : instr.src.mode = .dreg) (hdst : eaIsMemoryAlterable instr.dst = true) :
    emitLogicBinaryGeneric (β := β) instr = .emitted (logicReference instr) := by
  have hmode : instr.dst.mode ≠ .none ∧ instr.dst.mode ≠ .dreg := by
    refine ⟨?_, ?_⟩ <;> intro h <;> simp [eaIsMemoryAlterable, h] at hdst
  obtain ⟨ad, had⟩ := emitEaAddress_eq_some (β := β) instr.size hdst
  have hrd := @emitEaRead_dreg β _ _ instr.size hsrc
  unfold emitLogicBinaryGeneric
  rw [if_neg (by rcases hm with h | h | h <;> simp [hsrc, hmode, h]), hrd, emitRmw,
    if_neg hmode.2, had, logicReference_binary hm, moveSource_eq hrd]
  dsimp only
  congr 1
  funext m
  -- The source is a data register, so it reads the same before and after the address is prepared.
  obtain ⟨e, m', hnext, hd, -⟩ := emitEaAddress_next had m
  simp only [if_neg hmode.2, alterOperand_memory had, logicStatements_eq]
  simp only [bind_apply, pure_apply, getCpu_apply, hnext]
  simp only [readSize_apply, writeSize_apply]
  rw [hd]

/-! ## Bits -/

omit [GeneratedAbi β] in
theorem bitNumber_eq (g : NgM68kState) : bitNumber instr g = bitIndex instr g := by
  have h31 : ∀ x : BitVec 32, (x &&& 31).toNat = x.toNat % 32 := fun x => by
    rw [BitVec.toNat_and]
    exact Nat.and_two_pow_sub_one_eq_mod x.toNat 5
  have h7 : ∀ x : BitVec 32, (x &&& 7).toNat = x.toNat % 8 := fun x => by
    rw [BitVec.toNat_and]
    exact Nat.and_two_pow_sub_one_eq_mod x.toNat 3
  unfold bitNumber bitIndex bitSize
  by_cases hd : instr.dst.mode = .dreg
  · simp only [if_pos hd, h31]
    split_ifs <;> rfl
  · simp only [if_neg hd, h7]
    split_ifs <;> rfl

omit [GeneratedAbi β] in
theorem bitIndex_lt (instr : NgM68kInstr) (g : NgM68kState) :
    bitIndex instr g < ngSizeBits (bitSize instr.dst) :=
  Nat.mod_lt _ (ngSizeBits_pos _)

omit [GeneratedAbi β] in
theorem bitIndex_congr {g g' : NgM68kState} (h : g'.d = g.d) :
    bitIndex instr g' = bitIndex instr g := by
  unfold bitIndex
  rw [h]

section Words
variable {w n : Nat}

omit [GeneratedAbi β] in
/-- The test of the printed text. -/
theorem bitZeroFlag_eq (hn : n < w) (value : BitVec w) (sr : BitVec 16) :
    bitZeroFlag value ((1 : BitVec w) <<< n) sr = (bitCcr (value.getLsbD n) sr).put sr := by
  have htest : (value &&& (1 : BitVec w) <<< n == 0) = !value.getLsbD n := by
    have hpow : (1 : BitVec w) <<< n = BitVec.twoPow w n := rfl
    rw [hpow, BitVec.and_twoPow]
    cases value.getLsbD n with
    | false => simp
    | true =>
      have hne : BitVec.twoPow w n ≠ 0 := fun h0 => by
        have hbit := congrArg (fun v => v.getLsbD n) h0
        simp [hn] at hbit
      simpa using hne
  unfold bitZeroFlag
  rw [htest]
  apply BitVec.eq_of_getLsbD_eq
  intro i hi
  rw [Ccr.getLsbD_put]
  -- Z is the only bit the text writes; the other four are copied.
  cases value.getLsbD n with
  | false =>
    simp only [bitCcr, flagX, flagN, flagV, flagC, Bool.not_false, if_true, BitVec.getLsbD_or]
    interval_cases i <;> simp [ngCcrZ]
  | true =>
    simp only [bitCcr, flagX, flagN, flagV, flagC, Bool.not_true, Bool.false_eq_true, if_false,
      BitVec.getLsbD_and, BitVec.getLsbD_not]
    interval_cases i <;> simp [ngCcrZ]

omit [GeneratedAbi β] in
theorem xor_twoPow_eq_putBit (hn : n < w) (value : BitVec w) :
    value ^^^ BitVec.twoPow w n = putBit value n (!value.getLsbD n) := by
  apply BitVec.eq_of_getLsbD_eq
  intro i hi
  rw [getLsbD_putBit hn, BitVec.getLsbD_xor, BitVec.getLsbD_twoPow]
  by_cases h : i = n
  · subst h
    simp [hn]
  · simp [h, Ne.symm h]

omit [GeneratedAbi β] in
/-- The three altering operations write the word with its bit replaced. -/
theorem bitResult_eq {mn : NgM68kMnemonic} (hm : mn = .bchg ∨ mn = .bclr ∨ mn = .bset)
    (hn : n < w) (value : BitVec w) :
    bitResult mn value ((1 : BitVec w) <<< n) =
      some (putBit value n (bitAfter mn (value.getLsbD n))) := by
  rcases hm with rfl | rfl | rfl
  · exact congrArg some (xor_twoPow_eq_putBit hn value)
  · rfl
  · rfl

end Words

omit [GeneratedAbi β] in
/-- The printed address does not look at the flags. -/
theorem emitEaAddress_setSr {ea : NgM68kEa} {size : BitVec 8} {ad : Gen β CExpr} {e : CExpr}
    {m m' : Machine β} (h : emitEaAddress ea size = some ad) (hm : ad m = .next e m')
    (g : NgM68kState) (sr : BitVec 16) : e (g.setSr sr) = e g := by
  unfold emitEaAddress at h
  split at h <;> cases h
  all_goals
    simp only [stepUp, stepDown, bind_apply, getCpu_apply, pure_apply, modifyCpu_apply] at hm
    cases hm
    rfl

theorem emitBitImmGeneric_btst (hm : instr.mnemonic = .btst) (hdst : instr.dst.mode ≠ .none) :
    emitBitImmGeneric (β := β) instr = .emitted (bitReference instr) := by
  have href : bitReference (β := β) instr = (do
      let n := bitIndex instr (← getCpu)
      let value ← moveSource instr.dst (bitSize instr.dst)
      modifyCpu fun g => g.setSr ((bitCcr (value.getLsbD n) g.sr).put g.sr)) := by
    simp only [bitReference, hm, if_true]
  unfold emitBitImmGeneric
  rw [if_neg hdst, href]
  by_cases hd : instr.dst.mode = .dreg
  · have hsize : bitSize instr.dst = 4 := if_pos hd
    rw [if_pos hd]
    dsimp only
    congr 1
    funext m
    have hlt := bitIndex_lt instr m.cpu
    rw [hsize] at hlt ⊢
    have hzero := @bitZeroFlag_eq 32 _ hlt (m.cpu.d (regIndex instr.dst.reg)) m.cpu.sr
    simp only [bind_apply, getCpu_apply, modifyCpu_apply, bitNumber_eq, hzero, hm, bitResult,
      moveSource, hd, pure_apply]
    rfl
  · have hsize : bitSize instr.dst = 1 := if_neg hd
    obtain ⟨rd, hrd⟩ := emitEaRead_eq_some (β := β) 1 hdst
    rw [if_neg hd, if_pos hm, hrd]
    dsimp only
    congr 1
    funext m
    obtain ⟨e, m', hnext, hsrc, -, -⟩ := moveSource_emitted hrd m
    have hlt := bitIndex_lt instr m.cpu
    rw [hsize] at hlt ⊢
    have hzero := @bitZeroFlag_eq 8 _ hlt ((e m'.cpu).setWidth 8) m'.cpu.sr
    -- The bit number is taken after the operand here and before it in the reference.
    have hkeep : m'.cpu.d = m.cpu.d := by
      obtain ⟨_, _, hnext', hd, -⟩ := emitEaRead_next hrd m
      rw [hnext] at hnext'
      cases hnext'
      exact hd
    simp only [bind_apply, getCpu_apply, hnext, hsrc, modifyCpu_apply, bitNumber_eq,
      bitIndex_congr hkeep, hzero]
    rfl

theorem emitBitImmGeneric_alter
    (hm : instr.mnemonic = .bchg ∨ instr.mnemonic = .bclr ∨ instr.mnemonic = .bset)
    (hdst : eaIsDataAlterable instr.dst = true) :
    emitBitImmGeneric (β := β) instr = .emitted (bitReference instr) := by
  have hbtst : instr.mnemonic ≠ .btst := by rcases hm with h | h | h <;> rw [h] <;> decide
  have href : bitReference (β := β) instr = (do
      let n := bitIndex instr (← getCpu)
      alterOperand instr.dst (bitSize instr.dst) fun value =>
        (putBit value n (bitAfter instr.mnemonic (value.getLsbD n)),
          bitCcr (value.getLsbD n))) := by
    simp only [bitReference, hbtst, if_false]
  unfold emitBitImmGeneric
  rw [if_neg (mode_ne_none_of_dataAlterable hdst), href]
  by_cases hd : instr.dst.mode = .dreg
  · have hsize : bitSize instr.dst = 4 := if_pos hd
    rw [if_pos hd]
    dsimp only
    congr 1
    funext m
    have hlt := bitIndex_lt instr m.cpu
    rw [hsize] at hlt ⊢
    have hzero := @bitZeroFlag_eq 32 _ hlt (m.cpu.d (regIndex instr.dst.reg)) m.cpu.sr
    have hres := @bitResult_eq 32 _ _ hm hlt (m.cpu.d (regIndex instr.dst.reg))
    have hlow : ∀ x : BitVec 32, x.setWidth (ngSizeBits 4) = x := BitVec.setWidth_eq
    have hall : ∀ x v : BitVec 32, replaceLow x v = v :=
      fun x v => by
        have h := setWidth_replaceLow (show 32 ≤ 32 by decide) x v
        rwa [BitVec.setWidth_eq] at h
    simp only [bind_apply, getCpu_apply, modifyCpu_apply, bitNumber_eq, hzero, hres, alterOperand,
      hd, if_true, hlow]
    exact congrArg (fun v => Outcome.next () { m with cpu := (m.cpu.setSr _).setD _ v })
      (hall (m.cpu.d (regIndex instr.dst.reg)) _).symm
  · have hsize : bitSize instr.dst = 1 := if_neg hd
    obtain ⟨ad, had⟩ := emitEaAddress_eq_some (β := β) 1
      (by simpa [eaIsDataAlterable, hd] using hdst)
    rw [if_neg hd, if_neg hbtst, had]
    dsimp only
    congr 1
    funext m
    obtain ⟨e, m', hnext, hkeep, -⟩ := emitEaAddress_next had m
    have hlt := bitIndex_lt instr m.cpu
    rw [hsize] at hlt ⊢
    have hzero := @bitZeroFlag_eq 8 _ hlt (abiRead 1 (e m'.cpu) m'.bus).1 m'.cpu.sr
    have hres := @bitResult_eq 8 _ _ hm hlt (abiRead 1 (e m'.cpu) m'.bus).1
    simp only [alterOperand_memory had, bind_apply, getCpu_apply, hnext, read8_apply,
      readSize_apply, modifyCpu_apply, bitNumber_eq, bitIndex_congr hkeep]
    rw [hzero, hres]
    simp only [bind_apply, getCpu_apply, emitEaAddress_setSr had hnext, write8_apply,
      writeSize_apply]
    rfl

/-! ## Main results -/

omit [GeneratedAbi β] in
theorem validateUnaryDataAlterable_byte (h : validateUnaryDataAlterable instr true = true) :
    instr.size = 1 := by
  unfold validateUnaryDataAlterable at h
  by_cases hs : instr.size = 1
  · exact hs
  · rw [if_pos rfl, if_neg hs] at h
    split at h <;> simp_all

omit [GeneratedAbi β] in
theorem validateBtst_mode (h : validateBtst instr = true) : instr.dst.mode ≠ .none := by
  intro hn
  simp [validateBtst, exactBitDataExtLength, hn] at h

omit [GeneratedAbi β] in
theorem validateAlteringBitOp_shape (h : validateAlteringBitOp instr = true) :
    eaIsDataAlterable instr.dst = true := by
  unfold validateAlteringBitOp at h
  split at h
  · rename_i hdst
    exact eaIsDataAlterable_of_extLength hdst
  · simp at h

/-- The ANDI whose shortcut reads its operand back. -/
def rereads (instr : NgM68kInstr) : Bool :=
  instr.mnemonic == .andi && instr.dst.mode == .adisp && instr.size == 1

theorem andiShortcut_of_not_rereads (hv : ngM68kValidate instr = true)
    (hr : rereads instr = false) : andiShortcut (β := β) instr = none := by
  unfold andiShortcut
  rw [if_neg]
  rintro ⟨hm, hform, hsize⟩
  unfold ngM68kValidate at hv
  simp only [hm, Bool.and_eq_true] at hv
  have hdisp := (dstLegacyFields_aregDisp (validateAndi_fields hm hv.2) (by decide) hform).1
  simp [rereads, hm, hdisp, hsize] at hr

/-- Every validated logic instruction but the ANDI that reads its operand back runs as its
reference: the operand is read once and replaced by the bitwise result, N and Z describe that result
(for TAS the byte found), V and C are cleared and X is kept. -/
theorem emitInstr_logic (instr : NgM68kInstr) (hv : ngM68kValidate instr = true)
    (hm : isLogic instr.mnemonic = true) (hr : rereads instr = false) :
    emitInstr (β := β) instr = fallsThrough (logicReference instr) := by
  have handi := andiShortcut_of_not_rereads (β := β) hv hr
  unfold ngM68kValidate at hv
  unfold emitInstr
  rw [Bool.and_eq_true] at hv
  replace hv := hv.2
  cases h : instr.mnemonic <;> simp only [h, isLogic, Bool.false_eq_true] at hm hv ⊢
  case or | and =>
    unfold validateAddSubOrAnd at hv
    split_ifs at hv with hd
    · rw [emitLogicBinaryGeneric_toDreg (by simp [h]) (validateEaToDregBinary_shape hv).1 hd]
      rfl
    · obtain ⟨hsrc, hdst, -⟩ := validateDregToMemoryBinary_shape hv
      rw [emitLogicBinaryGeneric_toMemory (by simp [h]) hsrc hdst]
      rfl
  case eor =>
    unfold validateDregToDataAlterableBinary at hv
    rw [Bool.and_eq_true] at hv
    obtain ⟨hsome, hsrc, -⟩ := validateDregToEa_shape hv.2
    obtain ⟨n, hn⟩ := Option.isSome_iff_exists.mp hsome
    have hdst := eaIsDataAlterable_of_extLength hn
    by_cases hd : instr.dst.mode = .dreg
    · rw [emitLogicBinaryGeneric_toDreg (by simp [h]) (by rw [hsrc]; decide) hd]
      rfl
    · rw [emitLogicBinaryGeneric_toMemory (by simp [h]) hsrc
        (by simpa [eaIsDataAlterable, hd] using hdst)]
      rfl
  case clr => exact emitClr_eq h hv
  case not =>
    rw [emitUnaryRmwGeneric_not h (validateUnaryDataAlterable_shape hv)]
    rfl
  case tst => exact emitTst_eq h hv
  case tas =>
    rw [emitTasGeneric_eq h (validateUnaryDataAlterable_byte hv)
      (validateUnaryDataAlterable_shape hv)]
    rfl
  case ori | andi | eori =>
    unfold emitLogicalImm
    rw [handi, emitLogicalImmGeneric_eq (by simp [h]) (validateImmediateToEa_shape hv)]
    rfl

/-- `EOR.W D1,D0`. -/
def eorWordInstr : NgM68kInstr :=
  { addr := 0x1000, opcode := 0xB340, mnemonic := .eor, byteLength := 2, reg := 0, srcReg := 1,
    size := 2, form := .dregToDreg, src := { mode := .dreg, reg := 1 }, dst := { mode := .dreg } }

/-- `EOR.W D1,-(A0)`. -/
def eorWordPreInstr : NgM68kInstr :=
  { addr := 0x1000, opcode := 0xB360, mnemonic := .eor, byteLength := 2, srcReg := 1, size := 2,
    src := { mode := .dreg, reg := 1 }, dst := { mode := .apre } }

theorem emitInstr_logic_eorWord :
    emitInstr (β := Ram) eorWordInstr = fallsThrough (logicReference eorWordInstr) ∧
      emitInstr (β := Ram) eorWordPreInstr = fallsThrough (logicReference eorWordPreInstr) :=
  ⟨emitInstr_logic eorWordInstr (by decide +kernel) (by decide) (by decide),
    emitInstr_logic eorWordPreInstr (by decide +kernel) (by decide) (by decide)⟩

/-- Every validated bit instruction runs as its reference: Z says whether the bit was clear, BCHG,
BCLR and BSET replace that bit and no other, and no other flag moves. -/
theorem emitInstr_bits (instr : NgM68kInstr) (hv : ngM68kValidate instr = true)
    (hm : isBitOp instr.mnemonic = true) :
    emitInstr (β := β) instr = fallsThrough (bitReference instr) := by
  unfold ngM68kValidate at hv
  unfold emitInstr
  rw [Bool.and_eq_true] at hv
  replace hv := hv.2
  cases h : instr.mnemonic <;> simp only [h, isBitOp, Bool.false_eq_true] at hm hv ⊢
  case btst =>
    rw [emitBitImmGeneric_btst h (validateBtst_mode hv)]
    rfl
  case bchg | bclr | bset =>
    rw [emitBitImmGeneric_alter (by simp [h]) (validateAlteringBitOp_shape hv)]
    rfl

end Abi

/-- `BSET #5,(A2)`. -/
def bsetByteInstr : NgM68kInstr :=
  { addr := 0x1000, opcode := 0x08D2, mnemonic := .bset, byteLength := 4, size := 1, immediate := 5,
    dst := { mode := .aind, reg := 2 } }

theorem emitInstr_bits_bsetByte :
    emitInstr (β := Ram) bsetByteInstr = fallsThrough (bitReference bsetByteInstr) :=
  emitInstr_bits bsetByteInstr (by decide +kernel) (by decide)

end NeoRecomp
