import NeoRecomp.Correct.MulDiv
import NeoRecomp.Correct.Shortcuts
import NeoRecomp.Spec.Move

/-!
# The emitted MOVE

The emitter prints the source expression into the store and again into the flag statement.  A memory
operand sits in a temporary by then, and a data register still holds the value in its low part; an
address register that the destination has stepped meanwhile does not.
-/

namespace NeoRecomp

open Gen

/-! ## Flags -/

theorem SameNz.refl {w : Nat} (v : BitVec w) : SameNz v v := ⟨rfl, Iff.rfl⟩

/-- The flag statements of two values agree where N and Z do. -/
theorem put_resultCcr_eq_iff {w : Nat} (v v' : BitVec w) (sr : BitVec 16) :
    (resultCcr v sr).put sr = (resultCcr v' sr).put sr ↔ SameNz v v' := by
  constructor
  · intro h
    have hbit : ∀ i, ((resultCcr v sr).put sr).getLsbD i = ((resultCcr v' sr).put sr).getLsbD i :=
      fun i => by rw [h]
    have hn := hbit 3
    have hz := hbit 2
    rw [Ccr.getLsbD_put, Ccr.getLsbD_put] at hn hz
    exact ⟨hn, decide_eq_decide.mp hz⟩
  · rintro ⟨hn, hz⟩
    have hccr : resultCcr v sr = resultCcr v' sr := by
      unfold resultCcr
      rw [hn, decide_eq_decide.mpr hz]
    rw [hccr]

section Abi
variable {β : Type} [GeneratedAbi β]

/-! ## Operands -/

/-- The address registers after an access to the destination. -/
def movedCpu (ea : NgM68kEa) (size : BitVec 8) (v : BitVec (ngSizeBits size)) (g : NgM68kState) :
    NgM68kState :=
  if ea.mode = .dreg then g.setD (regIndex ea.reg) (replaceLow (g.d (regIndex ea.reg)) v)
  else g.setA (regIndex ea.reg) (steppedReg ea size (g.a (regIndex ea.reg)))

theorem setA_self (g : NgM68kState) (r : Fin 8) : g.setA r (g.a r) = g := by
  unfold NgM68kState.setA
  rw [Function.update_eq_self]

/-- The printed write evaluates its expression before the destination register moves. -/
theorem moveDestination_emitted {ea : NgM68kEa} {size : BitVec 8} {wr : CExpr → Gen β Unit}
    (h : emitEaWrite ea size = some wr) (hne : ea.mode ≠ .areg) (e : CExpr) (m : Machine β) :
    ∃ m', wr e m = .next () m' ∧
      moveDestination ea size (castSize size (e m.cpu)) m = .next () m' ∧
      m'.cpu = movedCpu ea size (castSize size (e m.cpu)) m.cpu := by
  unfold emitEaWrite at h
  cases hm : ea.mode <;> rw [hm] at h <;> cases h
  · -- Dn
    simp only [moveDestination, movedCpu, hm, if_true, modifyCpu_apply, writeDreg_eq]
    exact ⟨_, rfl, rfl, rfl⟩
  · exact absurd hm hne
  all_goals
    simp only [writeThrough, stepUp, stepDown, bind_apply, getCpu_apply, writeSize_apply, pure_apply,
      modifyCpu_apply, moveDestination, accessMemory, operandAddr, movedCpu, steppedReg, aregAddr, hm,
      reduceCtorEq, if_false, if_true, setA_self]
    exact ⟨_, rfl, rfl, rfl⟩

/-! ## The value of the expression after the store -/

theorem castSize_replaceLow {size : BitVec 8} (old : BitVec 32) (v : BitVec (ngSizeBits size)) :
    castSize size (replaceLow old v) = v := setWidth_replaceLow (ngSizeBits_le size) old v

/-- Evaluated again after the store, the source expression has the same N and Z exactly where the
step of the destination keeps them. -/
theorem sameNz_reread_iff {instr : NgM68kInstr} {e : CExpr} {g : NgM68kState}
    (he : SourceExpr instr.src instr.size e) :
    SameNz (castSize instr.size (e (movedCpu instr.dst instr.size (castSize instr.size (e g)) g)))
      (castSize instr.size (e g)) ↔ StepKeepsNz instr g := by
  unfold StepKeepsNz
  cases he with
  | value hm he =>
    rw [he _ g]
    exact iff_of_true (SameNz.refl _) fun ha => absurd ha hm
  | dreg hm he =>
    have hsame : castSize instr.size
        (e (movedCpu instr.dst instr.size (castSize instr.size (e g)) g)) =
          castSize instr.size (e g) := by
      rw [he, he g, movedCpu]
      split_ifs with hdst
      · by_cases hr : regIndex instr.src.reg = regIndex instr.dst.reg
        · rw [hr]
          simp only [NgM68kState.setD, Function.update_self, castSize_replaceLow]
        · simp only [NgM68kState.setD, Function.update_of_ne hr]
      · rfl
    rw [hsame]
    exact iff_of_true (SameNz.refl _) fun ha => absurd (hm.symm.trans ha) (by decide)
  | areg hm he =>
    rw [he, he, movedCpu]
    by_cases hr : regIndex instr.src.reg = regIndex instr.dst.reg
    · by_cases hdst : instr.dst.mode = .dreg
      · rw [if_pos hdst]
        unfold steppedReg
        rw [hdst]
        exact iff_of_true (SameNz.refl _) fun _ _ => SameNz.refl _
      · rw [if_neg hdst, hr]
        simp only [NgM68kState.setA, Function.update_self, hm, forall_const]
    · have hkeep : (if instr.dst.mode = .dreg then g.setD (regIndex instr.dst.reg)
            (replaceLow (g.d (regIndex instr.dst.reg))
              (castSize instr.size (g.a (regIndex instr.src.reg))))
          else g.setA (regIndex instr.dst.reg)
            (steppedReg instr.dst instr.size (g.a (regIndex instr.dst.reg)))).a
          (regIndex instr.src.reg) = g.a (regIndex instr.src.reg) := by
        split_ifs
        · rfl
        · simp only [NgM68kState.setA, Function.update_of_ne hr]
      rw [hkeep]
      exact iff_of_true (SameNz.refl _) fun _ h => absurd h hr

/-! ## The instruction -/

theorem dataAlterable_ne_areg {ea : NgM68kEa} {len : BitVec 8}
    (h : exactDataAlterableExtLength ea = some len) : ea.mode ≠ .areg := by
  intro hm
  rw [exactDataAlterableExtLength, hm, exactMemoryAlterableExtLength, hm] at h
  cases h

/-- A validated MOVE is the generic text: the destination is no address register. -/
theorem emitInstr_move {instr : NgM68kInstr} (hv : ngM68kValidate instr = true)
    (hm : instr.mnemonic = .move) :
    instr.dst.mode ≠ .areg ∧ ∃ (rd : Gen β CExpr) (wr : CExpr → Gen β Unit),
      emitEaRead instr.src instr.size = some rd ∧ emitEaWrite instr.dst instr.size = some wr ∧
      (emitInstr instr).text = (do
        let e ← rd
        wr e
        emitSetNzForSize instr.size e) := by
  have hmove : validateMove instr = true := by
    unfold ngM68kValidate at hv
    rw [Bool.and_eq_true] at hv
    simpa only [hm] using hv.2
  have hdst : instr.dst.mode ≠ .areg := by
    unfold validateMove at hmove
    split at hmove
    · next h _ _ => exact dataAlterable_ne_areg h
    · cases hmove
  refine ⟨hdst, ?_⟩
  have hgeneric : ∃ text, emitMoveGeneric (β := β) instr = .emitted text ∧
      (emitInstr instr).text = text := by
    have hsup := (emitInstr_supported (β := β) hv).1
    unfold emitInstr at hsup ⊢
    rw [hm] at hsup ⊢
    dsimp only at hsup ⊢
    unfold emitMove at hsup ⊢
    split
    · next text htext => exact ⟨text, moveShortcut_eq_generic hmove htext, rfl⟩
    · next hnone =>
      rw [hnone] at hsup
      dsimp only at hsup
      cases hg : emitMoveGeneric (β := β) instr with
      | emitted text => exact ⟨text, rfl, rfl⟩
      | failed printed =>
        rw [hg] at hsup
        cases hsup
  obtain ⟨text, hg, htext⟩ := hgeneric
  rw [htext]
  unfold emitMoveGeneric at hg
  split_ifs at hg with hnone
  · cases hg
  · split at hg
    · cases hg
    · cases hg
    · next rd wr hrd hwr =>
      cases hg
      exact ⟨rd, wr, hrd, hwr, rfl⟩

/-- The same for every validated MOVE. -/
theorem validated_move_iff {instr : NgM68kInstr} (hv : ngM68kValidate instr = true)
    (hm : instr.mnemonic = .move) (m : Machine β) :
    (emitInstr instr).text m = moveReference instr m ↔ StepKeepsNz instr m.cpu := by
  obtain ⟨hdst, rd, wr, hrd, hwr, htext⟩ := emitInstr_move (β := β) hv hm
  obtain ⟨e, m₁, hread, hsource, hexpr, hsame⟩ := moveSource_emitted hrd m
  obtain ⟨m₂, hwrite, hdest, hcpu⟩ := moveDestination_emitted hwr hdst e m₁
  -- The status register of a run whose flag statement sees the value `v`.
  let flags (v : BitVec (ngSizeBits instr.size)) : BitVec 16 :=
    (resultCcr v m₂.cpu.sr).put m₂.cpu.sr
  have hrun : (emitInstr instr).text m = .next ()
      { m₂ with cpu := m₂.cpu.setSr (flags (castSize instr.size (e m₂.cpu))) } := by
    rw [htext, bind_of_next hread, bind_of_next hwrite, emitSetNzForSize, modifyCpu_apply,
      ngSetNz_eq_put]
  have href : moveReference instr m = .next ()
      { m₂ with cpu := m₂.cpu.setSr (flags (castSize instr.size (e m₁.cpu))) } := by
    rw [moveReference, bind_of_next hsource, bind_of_next hdest, modifyCpu_apply]
  have heq : (emitInstr instr).text m = moveReference instr m ↔
      flags (castSize instr.size (e m₂.cpu)) = flags (castSize instr.size (e m₁.cpu)) := by
    rw [hrun, href]
    constructor
    · intro h
      injection h with _ h
      exact congrArg (fun m : Machine β => m.cpu.sr) h
    · intro h
      rw [h]
  rw [heq, put_resultCcr_eq_iff, hcpu, sameNz_reread_iff hexpr]
  by_cases ha : instr.src.mode = .areg
  · rw [hsame ha]
  · exact iff_of_true (fun h => absurd h ha) fun h => absurd h ha

theorem move_validated {rom : NgProgramRom} {pc : BitVec 32} {instr : NgM68kInstr}
    (hd : ngM68kDecode rom pc = (true, instr)) (hm : instr.mnemonic = .move) :
    ngM68kValidate instr = true := by
  refine (ngM68kDecode_accepted hd).resolve_left fun hu => ?_
  rw [hm] at hu
  cases hu

/-- The emitted MOVE stores the source value and sets N and Z of it, on every machine where stepping
the destination does not change N and Z of a source register, and on no other. -/
theorem move_eq_reference_iff {rom : NgProgramRom} {pc : BitVec 32} {instr : NgM68kInstr}
    (hd : ngM68kDecode rom pc = (true, instr)) (hm : instr.mnemonic = .move) (m : Machine β) :
    (emitInstr instr).text m = moveReference instr m ↔ StepKeepsNz instr m.cpu :=
  validated_move_iff (move_validated hd hm) hm m

end Abi

/-! ## A concrete instruction -/

/-- `MOVE.W A0,(A0)+`. -/
def movePostRom : NgProgramRom where
  data := #[0x30, 0xC8]
  size := 2
  size_eq := rfl

def movePostInstr : NgM68kInstr :=
  { addr := 0, opcode := 0x30C8, mnemonic := .move, byteLength := 2, size := 2,
    src := { mode := .areg }, dst := { mode := .apost } }

/-- A machine whose A0 points into the work RAM. -/
def pointerMachine (a0 : BitVec 32) : Machine Ram :=
  { clearedMachine with cpu := clearedMachine.cpu.setA 0 a0 }

theorem move_eq_reference_movePost :
    (emitInstr movePostInstr).text (pointerMachine 0x00101000) =
      moveReference movePostInstr (pointerMachine 0x00101000) := by
  have hd : ngM68kDecode movePostRom 0 = (true, movePostInstr) := by decide +kernel
  exact (move_eq_reference_iff hd rfl _).mpr (by decide +kernel)

/-- The word stored is $7FFE, which is positive; N is taken from $8000. -/
theorem move_ne_reference_movePost :
    ¬ ∀ (rom : NgProgramRom) (pc : BitVec 32) (instr : NgM68kInstr),
      ngM68kDecode rom pc = (true, instr) → instr.mnemonic = .move → ∀ m : Machine Ram,
        (emitInstr instr).text m = moveReference instr m := by
  intro h
  have hd : ngM68kDecode movePostRom 0 = (true, movePostInstr) := by decide +kernel
  have hrun := h movePostRom 0 movePostInstr hd rfl (pointerMachine 0x00107FFE)
  have hbad : ¬ StepKeepsNz movePostInstr (pointerMachine 0x00107FFE).cpu := by decide +kernel
  exact hbad ((validated_move_iff (move_validated hd rfl) rfl _).mp hrun)

end NeoRecomp
