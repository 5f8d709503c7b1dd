import NeoRecomp.Correct.Arithmetic
import NeoRecomp.Correct.Closed
import NeoRecomp.Spec.Ram

/-!
# Form-specific shortcuts of MOVE, CLR, TST and ANDI

`emit_instr` prints its own code for some operand forms, read from the older summary fields of the
record.  On validated records that code is the generic one, except for ANDI to `d16(An)`, which
reads the operand back to set the flags.
-/

namespace NeoRecomp

open Gen

section Abi
variable {β : Type} [GeneratedAbi β] {instr : NgM68kInstr}

/-- The shortcut text of an instruction, if its form has one. -/
def shortcutText (instr : NgM68kInstr) : Option (Gen β Unit) :=
  match instr.mnemonic with
  | .move => moveShortcut instr
  | .clr => clrShortcut instr
  | .tst => tstShortcut instr
  | .andi => andiShortcut instr
  | _ => none

/-- The generic emission for the same record. -/
def genericEmission (instr : NgM68kInstr) : Emission β :=
  match instr.mnemonic with
  | .move => emitMoveGeneric instr
  | .clr => emitClrGeneric instr
  | .tst => emitTstGeneric instr
  | _ => emitLogicalImmGeneric instr

theorem emitInstr_shortcut {text : Gen β Unit} (h : shortcutText instr = some text) :
    (emitInstr instr).text = text := by
  unfold shortcutText at h
  unfold emitInstr
  cases hm : instr.mnemonic <;> simp only [hm, reduceCtorEq] at h ⊢
  · simp only [emitMove, h, fallsThrough]
  · simp only [emitClr, h, fallsThrough]
  · simp only [emitTst, h, fallsThrough]
  · simp only [emitLogicalImm, h, fallsThrough]

/-! ## Shared pieces -/

omit [GeneratedAbi β] in
/-- A load into a data register, as the shortcuts and as `emit_ea_write` print it. -/
theorem loadDreg_eq (reg size : BitVec 8) (e : CExpr) (v : BitVec (ngSizeBits size))
    (he : ∀ g, castSize size (e g) = v) :
    (loadDreg reg size v : Gen β Unit) = (do
      modifyCpu fun g => writeDreg reg size (e g) g
      emitSetNzForSize size e) := by
  funext m
  simp only [loadDreg, emitSetNzForSize, bind_apply, modifyCpu_apply, writeDreg_eq, he,
    and_keep_or_promote, castSize_and_ngValueMask]
  congr 2
  simp only [NgM68kState.setSr, NgM68kState.setD, Function.update_self]
  rw [castSize, setWidth_replaceLow (ngSizeBits_le size)]

/-- A store of an expression and of one that agrees with it in the operand size. -/
theorem storeAbs_congr {size : BitVec 8} (addr : BitVec 32) {e e' : CExpr}
    (he : ∀ g, castSize size (e g) = castSize size (e' g)) :
    (storeAbs size addr e : Gen β Unit) = (do
      writeThrough size (fun _ => addr &&& 0x00FFFFFF) e'
      emitSetNzForSize size e') := by
  funext m
  simp only [storeAbs, writeThrough, emitSetNzForSize, he]

/-! ## MOVE -/

theorem moveLegacyFields_eq {form : NgM68kOperandForm} {reg srcReg : BitVec 8}
    {immediate absoluteAddr : BitVec 32} {displacement : BitVec 16}
    (h : moveLegacyFields instr form reg srcReg immediate absoluteAddr displacement = true) :
    instr.form = form ∧ instr.reg = reg ∧ instr.srcReg = srcReg ∧ instr.immediate = immediate ∧
      instr.absoluteAddr = absoluteAddr ∧ instr.displacement = displacement := by
  simp only [moveLegacyFields, Bool.and_eq_true, beq_iff_eq] at h
  tauto

theorem validateMove_fields (h : validateMove instr = true) :
    validateMoveLegacyFields instr = true := by
  unfold validateMove at h
  split at h
  · simp only [Bool.and_eq_true] at h
    tauto
  · cases h

theorem emitEaRead_abs {ea : NgM68kEa} (size : BitVec 8) (h : ea.mode = .absW ∨ ea.mode = .absL) :
    (emitEaRead ea size : Option (Gen β CExpr)) =
      some (readThrough size fun _ => ea.absoluteAddr &&& 0x00FFFFFF) := by
  rcases h with h | h <;> rw [emitEaRead, h]

theorem emitEaWrite_abs {ea : NgM68kEa} (size : BitVec 8) (h : ea.mode = .absW ∨ ea.mode = .absL) :
    (emitEaWrite ea size : Option (CExpr → Gen β Unit)) =
      some fun e => writeThrough size (fun _ => ea.absoluteAddr &&& 0x00FFFFFF) e := by
  rcases h with h | h <;> rw [emitEaWrite, h]

theorem emitMoveGeneric_eq {rd : Gen β CExpr} {wr : CExpr → Gen β Unit}
    (hrd : emitEaRead instr.src instr.size = some rd)
    (hwr : emitEaWrite instr.dst instr.size = some wr) :
    emitMoveGeneric instr = .emitted (do
      let e ← rd
      wr e
      emitSetNzForSize instr.size e) := by
  have hsrc : instr.src.mode ≠ .none := by
    intro h
    rw [emitEaRead, h] at hrd
    cases hrd
  have hdst : instr.dst.mode ≠ .none := by
    intro h
    rw [emitEaWrite, h] at hwr
    cases hwr
  rw [emitMoveGeneric, if_neg (by simp [hsrc, hdst]), hrd, hwr]

theorem moveShortcut_eq_generic (hv : validateMove instr = true) {text : Gen β Unit}
    (hs : moveShortcut instr = some text) : emitMoveGeneric instr = .emitted text := by
  have hf := validateMove_fields hv
  unfold validateMoveLegacyFields at hf
  dsimp only at hf
  unfold moveShortcut at hs
  split_ifs at hf with h1 h2 h3 h4 h5 h6 h7
  all_goals
    obtain ⟨hform, hreg, hsreg, himm, habs, hdisp⟩ := moveLegacyFields_eq hf
    simp only [hform, reduceCtorEq, false_and, true_and, if_false, if_true] at hs
  · -- address register to absolute address
    split_ifs at hs with hsize
    cases hs
    rw [emitMoveGeneric_eq (by rw [emitEaRead, h1.1]) (emitEaWrite_abs _ h1.2), hsize, hreg, habs]
    rfl
  · -- immediate to absolute address
    cases hs
    rw [emitMoveGeneric_eq (by rw [emitEaRead, h2.1]) (emitEaWrite_abs _ h2.2), himm, habs,
      storeAbs_congr _ fun g => (castSize_and_ngValueMask _).symm]
    rfl
  · -- data register to absolute address
    split_ifs at hs with hsize
    cases hs
    rw [emitMoveGeneric_eq (by rw [emitEaRead, h3.1]) (emitEaWrite_abs _ h3.2), hsize, hreg, habs]
    rfl
  · -- absolute address to data register
    cases hs
    rw [emitMoveGeneric_eq (emitEaRead_abs _ h4.1) (by rw [emitEaWrite, h4.2]), hreg, habs]
    congr 1
    funext m
    simp only [readThrough, bind_apply, getCpu_apply, readSize_apply, pure_apply]
    rw [loadDreg_eq _ _ (CExpr.var _) _ fun g => castSize_var _ g]
    rfl
  · -- displaced address to data register
    split_ifs at hs with hsize
    cases hs
    rw [emitMoveGeneric_eq (by rw [emitEaRead, h5.1]) (by rw [emitEaWrite, h5.2]), hreg, hsreg,
      hdisp, hsize]
    congr 1
    funext m
    simp only [readThrough, bind_apply, getCpu_apply, readSize_apply, pure_apply, aregDispAddr]
    rw [loadDreg_eq _ _ (CExpr.var _) _ fun g => castSize_var _ g]
    rfl
  · -- immediate to data register
    cases hs
    rw [emitMoveGeneric_eq (by rw [emitEaRead, h6.1]) (by rw [emitEaWrite, h6.2]), hreg, himm,
      loadDreg_eq _ _ (fun _ => instr.src.immediate &&& ngValueMask instr.size) _
        fun g => castSize_and_ngValueMask _]
    rfl

/-! ## CLR and TST -/

theorem validateUnaryDataAlterable_fields {b : Bool}
    (h : validateUnaryDataAlterable instr b = true) : validateDstLegacyFields .dreg instr = true := by
  unfold validateUnaryDataAlterable at h
  split at h
  · simp only [Bool.and_eq_true] at h
    tauto
  · cases h

theorem dstLegacyFields_abs {dregForm : NgM68kOperandForm}
    (h : validateDstLegacyFields dregForm instr = true) (hne : dregForm ≠ .abs)
    (hform : instr.form = .abs) :
    (instr.dst.mode = .absW ∨ instr.dst.mode = .absL) ∧
      instr.absoluteAddr = instr.dst.absoluteAddr := by
  unfold validateDstLegacyFields at h
  split at h <;> simp_all

theorem dstLegacyFields_dreg (h : validateDstLegacyFields .dreg instr = true)
    (hform : instr.form = .dreg) : instr.dst.mode = .dreg ∧ instr.reg = instr.dst.reg := by
  unfold validateDstLegacyFields at h
  split at h <;> simp_all

theorem dstLegacyFields_aregDisp {dregForm : NgM68kOperandForm}
    (h : validateDstLegacyFields dregForm instr = true) (hne : dregForm ≠ .aregDisp)
    (hform : instr.form = .aregDisp) :
    instr.dst.mode = .adisp ∧ instr.reg = instr.dst.reg ∧
      instr.displacement = instr.dst.displacement := by
  unfold validateDstLegacyFields at h
  split at h <;> simp_all

theorem emitClrGeneric_eq {wr : CExpr → Gen β Unit}
    (hwr : emitEaWrite instr.dst instr.size = some wr) :
    emitClrGeneric instr = .emitted (do
      wr fun _ => 0
      emitSetNzForSize instr.size fun _ => 0) := by
  have hdst : instr.dst.mode ≠ .none := by
    intro h
    rw [emitEaWrite, h] at hwr
    cases hwr
  rw [emitClrGeneric, if_neg hdst, hwr]

theorem clrShortcut_eq_generic (hv : validateUnaryDataAlterable instr false = true)
    {text : Gen β Unit} (hs : clrShortcut instr = some text) :
    emitClrGeneric instr = .emitted text := by
  have hf := validateUnaryDataAlterable_fields hv
  unfold clrShortcut at hs
  split_ifs at hs with h1 h2
  · cases hs
    obtain ⟨hmode, habs⟩ := dstLegacyFields_abs hf (by decide) h1
    rw [emitClrGeneric_eq (emitEaWrite_abs _ hmode), habs]
    rfl
  · cases hs
    obtain ⟨hmode, hreg⟩ := dstLegacyFields_dreg hf h2
    rw [emitClrGeneric_eq (by rw [emitEaWrite, hmode]), hreg]
    congr 2
    funext _
    simp only [writeDreg_eq, ← and_keep_or_promote, castSize, promote, BitVec.ofNat_eq_ofNat,
      BitVec.setWidth_zero, BitVec.or_zero]

theorem validateTst_fields (h : validateTst instr = true) :
    eaIsDataAlterable instr.src = true ∧ validateTstLegacyFields instr = true := by
  unfold validateTst at h
  split at h
  · simp only [Bool.and_eq_true] at h
    tauto
  · cases h

theorem emitTstGeneric_eq {rd : Gen β CExpr} (hrd : emitEaRead instr.src instr.size = some rd) :
    emitTstGeneric instr = .emitted (do
      let e ← rd
      emitSetNzForSize instr.size e) := by
  have hsrc : instr.src.mode ≠ .none := by
    intro h
    rw [emitEaRead, h] at hrd
    cases hrd
  rw [emitTstGeneric, if_neg hsrc, hrd]

theorem tstShortcut_eq_generic (hv : validateTst instr = true) {text : Gen β Unit}
    (hs : tstShortcut instr = some text) : emitTstGeneric instr = .emitted text := by
  have hf := (validateTst_fields hv).2
  unfold validateTstLegacyFields at hf
  rw [Bool.and_eq_true] at hf
  replace hf := hf.2
  unfold tstShortcut at hs
  split_ifs at hs with h1 h2
  · cases hs
    have hmode : (instr.src.mode = .absW ∨ instr.src.mode = .absL) ∧
        instr.absoluteAddr = instr.src.absoluteAddr := by
      split at hf <;> simp_all
    rw [emitTstGeneric_eq (emitEaRead_abs _ hmode.1), hmode.2]
    congr 1
    funext m
    simp only [readThrough, bind_apply, getCpu_apply, readSize_apply, pure_apply, emitSetNzForSize,
      castSize_var, modifyCpu_apply]
  · cases hs
    have hmode : instr.src.mode = .adisp ∧ instr.reg = instr.src.reg ∧
        instr.displacement = instr.src.displacement := by
      split at hf <;> simp_all
    rw [emitTstGeneric_eq (by rw [emitEaRead, hmode.1]), hmode.2.1, hmode.2.2, h2.2]
    congr 1
    funext m
    simp only [readThrough, bind_apply, getCpu_apply, readSize_apply, pure_apply, emitSetNzForSize,
      castSize_var, modifyCpu_apply, read8_apply, aregDispAddr]
    rfl

/-! ## ANDI -/

theorem validateAndi_fields (hm : instr.mnemonic = .andi) (h : validateImmediateToEa instr = true) :
    validateDstLegacyFields .immToDreg instr = true := by
  unfold validateImmediateToEa at h
  simp only [hm] at h
  unfold validateImmediateWithBase at h
  split at h
  · simp only [Bool.and_eq_true, validateImmediateDestLegacyFields] at h
    tauto
  · cases h

/-- The generic ANDI to `d16(An)`: one read, one write, flags of the value written. -/
theorem emitLogicalImmGeneric_adisp (hm : instr.mnemonic = .andi) (hmode : instr.dst.mode = .adisp) :
    emitLogicalImmGeneric (β := β) instr = .emitted (do
      let addr := aregDispAddr instr.dst (← getCpu)
      let v ← readSize instr.size addr
      let result := castSize instr.size (promote v &&& promote
        (castSize instr.size (instr.immediate &&& ngValueMask instr.size)))
      writeSize instr.size addr result
      emitSetNzForSize instr.size (CExpr.var result)) := by
  have hnone : ¬ instr.dst.mode = .none := by rw [hmode]; decide
  have hdreg : ¬ instr.dst.mode = .dreg := by rw [hmode]; decide
  rw [emitLogicalImmGeneric, if_neg hnone, emitRmw, if_neg hdreg, emitEaAddress, hmode]
  simp only [logicStatements, hm, logicOp]
  congr 1
  funext m
  simp only [bind_apply, pure_apply, getCpu_apply, readSize_apply, writeSize_apply]

/-! ## Agreement -/

/-- The bus accesses of a log, by the 24 address lines of the bus. -/
def busAccesses (log : List Event) : List Event :=
  log.filterMap fun e => match e with
    | .read bytes addr => some (.read bytes (addr24 addr))
    | .write bytes addr value => some (.write bytes (addr24 addr) value)
    | _ => none

/-- From this state the shortcut and the generic code leave the same registers after the same
sequence of bus accesses. -/
def ShortcutAgrees (instr : NgM68kInstr) (m : Machine β) : Prop :=
  ∃ generic m₁ m₂, genericEmission instr = .emitted generic ∧
    (emitInstr instr).text m = .next () m₁ ∧ generic m = .next () m₂ ∧
    m₁.cpu = m₂.cpu ∧ busAccesses m₁.log = busAccesses m₂.log

theorem shortcut_next {text : Gen β Unit} (h : shortcutText instr = some text) (m : Machine β) :
    ∃ m', text m = .next () m' := by
  unfold shortcutText at h
  split at h
  · unfold moveShortcut at h
    split_ifs at h <;> cases h <;>
      exact ⟨_, by simp only [storeAbs, writeThrough, emitSetNzForSize, loadDreg, bind_apply,
        getCpu_apply, readSize_apply, writeSize_apply, modifyCpu_apply]; rfl⟩
  · unfold clrShortcut at h
    split_ifs at h <;> cases h <;>
      exact ⟨_, by simp only [storeAbs, writeThrough, emitSetNzForSize, bind_apply, getCpu_apply,
        writeSize_apply, modifyCpu_apply]; rfl⟩
  · unfold tstShortcut at h
    split_ifs at h <;> cases h <;>
      exact ⟨_, by simp only [bind_apply, getCpu_apply, readSize_apply, read8_apply,
        modifyCpu_apply]; rfl⟩
  · unfold andiShortcut at h
    split_ifs at h
    cases h
    exact ⟨_, by simp only [bind_apply, getCpu_apply, read8_apply, write8_apply,
      modifyCpu_apply]; rfl⟩
  · cases h

theorem shortcut_eq_generic (hv : ngM68kValidate instr = true) {text : Gen β Unit}
    (hs : shortcutText instr = some text) (hm : instr.mnemonic ≠ .andi) :
    genericEmission instr = .emitted text := by
  unfold ngM68kValidate at hv
  rw [Bool.and_eq_true] at hv
  replace hv := hv.2
  unfold shortcutText at hs
  unfold genericEmission
  split at hs
  · rename_i h
    simp only [h] at hv ⊢
    exact moveShortcut_eq_generic hv hs
  · rename_i h
    simp only [h] at hv ⊢
    exact clrShortcut_eq_generic hv hs
  · rename_i h
    simp only [h] at hv ⊢
    exact tstShortcut_eq_generic hv hs
  · rename_i h
    exact absurd h hm
  · cases hs

theorem andi_shortcut_disagrees (hv : ngM68kValidate instr = true) (hm : instr.mnemonic = .andi)
    {text : Gen β Unit} (hs : shortcutText instr = some text) (m : Machine β) :
    ¬ ShortcutAgrees instr m := by
  have hval : validateImmediateToEa instr = true := by
    unfold ngM68kValidate at hv
    rw [Bool.and_eq_true] at hv
    simpa only [hm] using hv.2
  have htext := emitInstr_shortcut hs
  simp only [shortcutText, hm] at hs
  unfold andiShortcut at hs
  split_ifs at hs with h
  cases hs
  have hmode := (dstLegacyFields_aregDisp (validateAndi_fields hm hval) (by decide) h.2.1).1
  rintro ⟨generic, m₁, m₂, hgen, hrun₁, hrun₂, -, hlog⟩
  simp only [genericEmission, hm, emitLogicalImmGeneric_adisp hm hmode, Emission.emitted.injEq] at hgen
  subst hgen
  rw [htext] at hrun₁
  simp only [bind_apply, getCpu_apply, read8_apply, write8_apply, modifyCpu_apply,
    Outcome.next.injEq, true_and] at hrun₁
  simp only [bind_apply, getCpu_apply, readSize_apply, writeSize_apply, emitSetNzForSize,
    modifyCpu_apply, Outcome.next.injEq, true_and] at hrun₂
  have hlen := congrArg List.length hlog
  rw [← hrun₁, ← hrun₂] at hlen
  simp [busAccesses, List.filterMap_append] at hlen

/-- A validated instruction that takes a shortcut agrees with the generic code if and only if it is
not ANDI. -/
theorem shortcut_agrees_iff_validated (hv : ngM68kValidate instr = true)
    (hs : (shortcutText (β := β) instr).isSome = true) (m : Machine β) :
    ShortcutAgrees instr m ↔ instr.mnemonic ≠ .andi := by
  obtain ⟨text, hs⟩ := Option.isSome_iff_exists.mp hs
  constructor
  · intro h hm
    exact andi_shortcut_disagrees hv hm hs m h
  · intro hm
    obtain ⟨m', hrun⟩ := shortcut_next hs m
    exact ⟨text, m', m', shortcut_eq_generic hv hs hm, by rw [emitInstr_shortcut hs, hrun], hrun,
      rfl, rfl⟩

/-- Only ANDI.B to `d16(An)` has a shortcut among the immediate instructions. -/
theorem andi_shortcut_form (hs : (shortcutText (β := β) instr).isSome = true)
    (hm : instr.mnemonic = .andi) : instr.form = .aregDisp ∧ instr.size = 1 := by
  rw [shortcutText, hm] at hs
  dsimp only at hs
  unfold andiShortcut at hs
  split_ifs at hs with h
  · exact h.2
  · cases hs

/-- A decoded instruction that takes a shortcut agrees with the generic code, from every register
state and on every bus, if and only if it is not ANDI.B to `d16(An)`. -/
theorem shortcut_agrees_iff {rom : NgProgramRom} {pc : BitVec 32}
    (hd : ngM68kDecode rom pc = (true, instr))
    (hs : (shortcutText (β := β) instr).isSome = true) (m : Machine β) :
    ShortcutAgrees instr m ↔
      ¬ (instr.mnemonic = .andi ∧ instr.form = .aregDisp ∧ instr.size = 1) := by
  have hv : ngM68kValidate instr = true := by
    refine (ngM68kDecode_accepted hd).resolve_left fun hu => ?_
    rw [shortcutText, hu] at hs
    cases hs
  rw [shortcut_agrees_iff_validated hv hs m, not_iff_not]
  exact ⟨fun hm => ⟨hm, andi_shortcut_form hs hm⟩, And.left⟩

end Abi

/-! ## Concrete instructions -/

/-- All registers zero, an empty memory. -/
def clearedMachine : Machine Ram where
  cpu := { d := fun _ => 0, a := fun _ => 0, pc := 0, sr := 0, usp := 0, ssp := 0 }
  bus := { bytes := fun _ => 0 }
  traceSr := 0
  log := []

/-- `MOVE.L $100000,D0`. -/
def moveAbsRom : NgProgramRom where
  data := #[0x20, 0x39, 0x00, 0x10, 0x00, 0x00]
  size := 6
  size_eq := rfl

def moveAbsInstr : NgM68kInstr :=
  { addr := 0, opcode := 0x2039, mnemonic := .move, byteLength := 6, size := 4,
    form := .absToDreg, absoluteAddr := 0x00100000,
    src := { mode := .absL, reg := 1, absoluteAddr := 0x00100000 }, dst := { mode := .dreg } }

theorem shortcut_agrees_moveAbs : ShortcutAgrees moveAbsInstr clearedMachine := by
  have hd : ngM68kDecode moveAbsRom 0 = (true, moveAbsInstr) := by decide +kernel
  exact (shortcut_agrees_iff hd rfl clearedMachine).mpr (by decide)

/-- `ANDI.B #$0F,2(A0)`. -/
def andiDispRom : NgProgramRom where
  data := #[0x02, 0x28, 0x00, 0x0F, 0x00, 0x02]
  size := 6
  size_eq := rfl

def andiDispInstr : NgM68kInstr :=
  { addr := 0, opcode := 0x0228, mnemonic := .andi, byteLength := 6, size := 1,
    form := .aregDisp, displacement := 2, immediate := 0x0F,
    dst := { mode := .adisp, displacement := 2 } }

/-- The shortcut reads the operand a second time. -/
theorem shortcut_disagrees_andiDisp :
    ngM68kDecode andiDispRom 0 = (true, andiDispInstr) ∧
      (shortcutText (β := Ram) andiDispInstr).isSome = true ∧
      ¬ ShortcutAgrees andiDispInstr clearedMachine := by
  refine ⟨by decide +kernel, rfl, ?_⟩
  exact andi_shortcut_disagrees (by decide +kernel) rfl rfl clearedMachine

end NeoRecomp
