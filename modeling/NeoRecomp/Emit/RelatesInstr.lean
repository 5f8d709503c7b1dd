import NeoRecomp.Emit.Relates

/-!
# The emitter routines respect code relations

One routine at a time, up to `emitInstr_relates`: the code of an instruction relates the machine
before it to the machine after it, unless the instruction asks for supervisor mode.
-/

namespace NeoRecomp

open Gen

set_option synthInstance.maxSize 512

variable {β : Type} [GeneratedAbi β] {R E : Machine β → Machine β → Prop}
  [hR : CodeRelation R E]

/-! ## Helper functions -/

instance (ea : NgM68kEa) (size : BitVec 8) : Relates R E (stepUp ea size : Gen β Unit) := by
  unfold stepUp; infer_instance

instance (ea : NgM68kEa) (size : BitVec 8) : Relates R E (stepDown ea size : Gen β Unit) := by
  unfold stepDown; infer_instance
instance (v : BitVec 32) : Relates R E (pushLong v : Gen β Unit) := by
  unfold pushLong; infer_instance

instance (pc : BitVec 32) : Relates R E (traceDispatchReturn pc : Gen β Unit) := by
  unfold traceDispatchReturn; infer_instance

/-! ## Operands -/

instance (size : BitVec 8) (addr : BitVec 32) : Relates R E (readSize size addr : Gen β _) := by
  unfold readSize; infer_instance

instance (size : BitVec 8) (addr : BitVec 32) (v : BitVec (ngSizeBits size)) :
    Relates R E (writeSize size addr v : Gen β Unit) := by
  unfold writeSize; infer_instance

instance (size : BitVec 8) (addr : CExpr) : Relates R E (readThrough size addr : Gen β CExpr) := by
  unfold readThrough; infer_instance

instance (size : BitVec 8) (addr e : CExpr) :
    Relates R E (writeThrough size addr e : Gen β Unit) := by
  unfold writeThrough; infer_instance

instance (size : BitVec 8) (e : CExpr) : Relates R E (emitSetNzForSize size e : Gen β Unit) := by
  unfold emitSetNzForSize; infer_instance

theorem emitEaRead_relates {ea : NgM68kEa} {size : BitVec 8} {rd : Gen β CExpr}
    (h : emitEaRead ea size = some rd) : Relates R E rd := by
  unfold emitEaRead at h
  cases hm : ea.mode <;> simp only [hm, Option.some.injEq, reduceCtorEq] at h <;> subst h <;>
    infer_instance

theorem emitEaWrite_relates {ea : NgM68kEa} {size : BitVec 8} {wr : CExpr → Gen β Unit}
    (h : emitEaWrite ea size = some wr) (e : CExpr) : Relates R E (wr e) := by
  unfold emitEaWrite at h
  cases hm : ea.mode <;> simp only [hm, Option.some.injEq, reduceCtorEq] at h <;> subst h <;>
    infer_instance

theorem emitEaAddress_relates {ea : NgM68kEa} {size : BitVec 8} {ad : Gen β CExpr}
    (h : emitEaAddress ea size = some ad) : Relates R E ad := by
  unfold emitEaAddress at h
  cases hm : ea.mode <;> simp only [hm, Option.some.injEq, reduceCtorEq] at h <;> subst h <;>
    infer_instance

/-! ## Emissions -/

/-- Everything an emission prints respects the relation. -/
class Emission.Relates (R E : Machine β → Machine β → Prop) (e : Emission β) : Prop where
  emitted : ∀ text, e = .emitted text → NeoRecomp.Relates R E text
  failed : ∀ text, e = .failed text → NeoRecomp.Relates R E text

instance emission_relates_emitted (text : Gen β Unit) [h : Relates R E text] :
    (Emission.emitted text).Relates R E where
  emitted _ he := by cases he; exact h
  failed _ he := by cases he

instance emission_relates_failed (text : Gen β Unit) [h : Relates R E text] :
    (Emission.failed text).Relates R E where
  emitted _ he := by cases he
  failed _ he := by cases he; exact h

instance emission_relates_rejected : (Emission.rejected : Emission β).Relates R E :=
  emission_relates_failed (pure ())

instance emission_relates_ite (c : Prop) [Decidable c] (e e' : Emission β) [e.Relates R E]
    [e'.Relates R E] : (if c then e else e').Relates R E := by
  split_ifs <;> infer_instance

instance emission_relates_orElse (e e' : Emission β) [h : e.Relates R E] [h' : e'.Relates R E] :
    (e.orElse e').Relates R E := by
  cases e with
  | emitted text => have := h.emitted text rfl; exact emission_relates_emitted text
  | failed text =>
    have := h.failed text rfl
    cases e' with
    | emitted text' => have := h'.emitted text' rfl; exact emission_relates_emitted _
    | failed text' => have := h'.failed text' rfl; exact emission_relates_failed _

/-- What an emission without the unsupported fallback prints leaves only in the given way. -/
instance fallsThrough_relates (text : Gen β Unit) [h : Relates R E text] :
    Relates R E (fallsThrough text).text := h

instance leaves_relates (text : Gen β Unit) [h : Relates R E text] :
    Relates R E (leaves text).text := h

instance unsupportedFallback_relates (instr : NgM68kInstr) (text : Gen β Unit) [Relates R E text] :
    Relates R E (unsupportedFallback instr text).text := by
  unfold unsupportedFallback; infer_instance

theorem orUnsupported_relates (instr : NgM68kInstr) (e : Emission β) [h : e.Relates R E] :
    Relates R E (orUnsupported instr e).text := by
  cases e with
  | emitted text => exact h.emitted text rfl
  | failed text =>
    have := h.failed text rfl
    exact unsupportedFallback_relates instr text

/-! ## Arithmetic -/

section Store
variable (size : BitVec 8) (src dst value : BitVec (ngSizeBits size))
  (store : BitVec (ngSizeBits size) → Gen β Unit) [∀ r, Relates R E (store r)]

instance : Relates R E (addStatements size src dst store) := by unfold addStatements; infer_instance

instance : Relates R E (subStatements size src dst store) := by unfold subStatements; infer_instance

instance (isAdd : Bool) : Relates R E (addOrSubStatements isAdd size src dst store) := by
  unfold addOrSubStatements; infer_instance

instance : Relates R E (cmpStatements size src dst : Gen β Unit) := by
  unfold cmpStatements; infer_instance

instance : Relates R E (negStatements size value store) := by unfold negStatements; infer_instance

instance : Relates R E (negxStatements size value store) := by unfold negxStatements; infer_instance

instance : Relates R E (notStatements size value store) := by unfold notStatements; infer_instance

instance (x : BitVec 8) : Relates R E (addxStatements size src dst x store) := by
  unfold addxStatements; infer_instance

instance (x : BitVec 8) : Relates R E (subxStatements size src dst x store) := by
  unfold subxStatements; infer_instance

instance (mn : NgM68kMnemonic) : Relates R E (logicStatements mn size src dst store) := by
  unfold logicStatements; infer_instance

end Store

instance (reg size : BitVec 8) (v : BitVec (ngSizeBits size)) :
    Relates R E (storeDreg reg size v : Gen β Unit) := by
  unfold storeDreg; infer_instance

instance (reg size : BitVec 8) (v : BitVec (ngSizeBits size)) :
    Relates R E (storeDregMasked reg size v : Gen β Unit) := by
  unfold storeDregMasked; infer_instance

theorem emitRmw_relates (ea : NgM68kEa) (size : BitVec 8)
    (body : BitVec (ngSizeBits size) → (BitVec (ngSizeBits size) → Gen β Unit) → Gen β Unit)
    (h : ∀ v store, (∀ r, Relates R E (store r)) → Relates R E (body v store)) :
    (emitRmw ea size body).Relates R E := by
  -- Both ways of storing the result are tame, so the body is.
  have hd : ∀ v, Relates R E (body v (storeDreg ea.reg size)) := fun v => h v _ inferInstance
  have ha : ∀ v (addr : CExpr),
      Relates R E (body v fun result => do writeSize size (addr (← getCpu)) result) :=
    fun v addr => h v _ inferInstance
  unfold emitRmw
  split_ifs
  · split
    · infer_instance
    · next h => have := emitEaRead_relates (R := R) (E := E) h; infer_instance
  · split
    · infer_instance
    · next h => have := emitEaAddress_relates (R := R) (E := E) h; infer_instance

variable (instr : NgM68kInstr)

instance : (emitQuickGeneric instr : Emission β).Relates R E := by
  unfold emitQuickGeneric
  dsimp only
  split_ifs
  · infer_instance
  · infer_instance
  · infer_instance
  · exact emitRmw_relates _ _ _ fun _ _ _ => inferInstance

instance : (emitArithImmGeneric instr : Emission β).Relates R E := by
  unfold emitArithImmGeneric
  split_ifs
  · infer_instance
  · exact emitRmw_relates _ _ _ fun _ _ _ => inferInstance

instance : (emitUnaryRmwGeneric instr : Emission β).Relates R E := by
  unfold emitUnaryRmwGeneric
  split_ifs
  · infer_instance
  all_goals exact emitRmw_relates _ _ _ fun _ _ _ => inferInstance

instance : (emitLogicalImmGeneric instr : Emission β).Relates R E := by
  unfold emitLogicalImmGeneric
  split_ifs
  · infer_instance
  · exact emitRmw_relates _ _ _ fun _ _ _ => inferInstance

instance : (emitCmpm instr : Emission β).Relates R E := by
  unfold emitCmpm; infer_instance

instance : (emitAddsubx instr : Emission β).Relates R E := by
  unfold emitAddsubx
  dsimp only
  split_ifs <;> infer_instance

instance : (emitCmpiGeneric instr : Emission β).Relates R E := by
  unfold emitCmpiGeneric
  split_ifs
  · infer_instance
  · split
    · infer_instance
    · next h => have := emitEaRead_relates (R := R) (E := E) h; infer_instance

instance : (emitAluAddressReg instr : Emission β).Relates R E := by
  -- CMPA compares long words whatever its operand size is.
  have hcmp (r : Fin 8) (src : BitVec 32) :
      CcrOnly fun g => cmpFlags 4 src (g.a r) (subResult (g.a r) src) g.sr :=
    @ccrOnly_cmp (fun g => g.sr) _ 4 (fun _ => src) (fun g => g.a r)
      fun g => subResult (g.a r) src
  unfold emitAluAddressReg
  dsimp only
  split_ifs
  · infer_instance
  all_goals
    split
    · infer_instance
    · next h => have := emitEaRead_relates (R := R) (E := E) h; infer_instance

instance : (emitAluDregToEa instr : Emission β).Relates R E := by
  unfold emitAluDregToEa
  split_ifs
  · infer_instance
  · split
    · next h h' =>
      have := emitEaRead_relates (R := R) (E := E) h
      have := emitEaAddress_relates (R := R) (E := E) h'
      infer_instance
    · infer_instance

instance : (emitAluEaToDreg instr : Emission β).Relates R E := by
  unfold emitAluEaToDreg
  split_ifs
  · infer_instance
  all_goals
    split
    · infer_instance
    · next h => have := emitEaRead_relates (R := R) (E := E) h; dsimp only; infer_instance

instance : (aluWordShortcut instr : Emission β).Relates R E := by
  unfold aluWordShortcut; dsimp only; infer_instance

/-! ## Moves -/

instance : (emitMoveGeneric instr : Emission β).Relates R E := by
  unfold emitMoveGeneric
  split_ifs
  · infer_instance
  · split
    · infer_instance
    · next h _ => have := emitEaRead_relates (R := R) (E := E) h; infer_instance
    · next h h' =>
      have := emitEaRead_relates (R := R) (E := E) h
      have := emitEaWrite_relates (R := R) (E := E) h'
      infer_instance

instance : (emitMoveaGeneric instr : Emission β).Relates R E := by
  unfold emitMoveaGeneric
  split_ifs
  · infer_instance
  · split
    · infer_instance
    · next h => have := emitEaRead_relates (R := R) (E := E) h; infer_instance

instance (size : BitVec 8) (addr : BitVec 32) (i : Nat) :
    Relates R E (movemStoreDown size addr i : Gen β _) := by
  unfold movemStoreDown; dsimp only; infer_instance

instance (size : BitVec 8) (addr : BitVec 32) (i : Nat) :
    Relates R E (movemStoreUp size addr i : Gen β _) := by
  unfold movemStoreUp; infer_instance

instance (size : BitVec 8) (addr : BitVec 32) (i : Nat) :
    Relates R E (movemLoad size addr i : Gen β _) := by
  unfold movemLoad; dsimp only; infer_instance

instance : (emitMovem instr : Emission β).Relates R E := by
  unfold emitMovem
  dsimp only
  split_ifs
  · infer_instance
  · split <;> infer_instance
  · infer_instance
  · split <;> infer_instance
  · infer_instance

instance : (emitMovep instr : Emission β).Relates R E := by
  unfold emitMovep
  dsimp only
  split_ifs <;> infer_instance

/-- MOVE from SR and the moves from and to CCR are not privileged. -/
theorem emitMoveSrCcr_relates (h : instr.mnemonic = .moveCcr ∨ instr.dst.mode ≠ .none) :
    (emitMoveSrCcr instr : Emission β).Relates R E := by
  unfold emitMoveSrCcr
  dsimp only
  by_cases hdst : instr.dst.mode ≠ .none
  · rw [if_pos hdst]
    split_ifs
    · infer_instance
    all_goals
      split
      · infer_instance
      · next h => have := emitEaWrite_relates (R := R) (E := E) h; infer_instance
  · have hccr := h.resolve_right hdst
    rw [if_neg hdst, hccr]
    simp only [reduceCtorEq, if_false]
    split_ifs
    · infer_instance
    · split
      · infer_instance
      · next h => have := emitEaRead_relates (R := R) (E := E) h; infer_instance
    · infer_instance

instance : (emitExchange instr : Emission β).Relates R E := by
  unfold emitExchange; dsimp only; infer_instance

/-! ## Logic, bits, decimals and divisions -/

instance : (emitLogicBinaryGeneric instr : Emission β).Relates R E := by
  unfold emitLogicBinaryGeneric
  split_ifs
  · infer_instance
  all_goals
    split
    · infer_instance
    · next h =>
      have := emitEaRead_relates (R := R) (E := E) h
      split
      · infer_instance
      · first
          | infer_instance
          | cases h' : emitEaAddress (β := β) instr.dst instr.size with
            | none => dsimp only; infer_instance
            | some ad =>
              have := emitEaAddress_relates (R := R) (E := E) h'
              dsimp only
              infer_instance

instance : (emitTstGeneric instr : Emission β).Relates R E := by
  unfold emitTstGeneric
  split_ifs
  · infer_instance
  · split
    · infer_instance
    · next h => have := emitEaRead_relates (R := R) (E := E) h; infer_instance

instance : (emitTasGeneric instr : Emission β).Relates R E := by
  unfold emitTasGeneric
  dsimp only
  split_ifs
  · infer_instance
  · infer_instance
  · split
    · infer_instance
    · next h => have := emitEaAddress_relates (R := R) (E := E) h; infer_instance

instance : (emitBitImmGeneric instr : Emission β).Relates R E := by
  unfold emitBitImmGeneric
  dsimp only
  split_ifs
  · infer_instance
  · refine @emission_relates_emitted _ _ _ _ ?_
    refine @relates_bind _ _ _ _ _ _ _ _ _ inferInstance fun g => ?_
    refine @relates_bind _ _ _ _ _ _ _ _ _ inferInstance fun _ => ?_
    split <;> infer_instance
  · split
    · infer_instance
    · next h => have := emitEaRead_relates (R := R) (E := E) h; infer_instance
  · split
    · infer_instance
    · next h =>
      have := emitEaAddress_relates (R := R) (E := E) h
      refine @emission_relates_emitted _ _ _ _ ?_
      refine @relates_bind _ _ _ _ _ _ _ _ _ inferInstance fun addr => ?_
      refine @relates_bind _ _ _ _ _ _ _ _ _ inferInstance fun g => ?_
      refine @relates_bind _ _ _ _ _ _ _ _ _ inferInstance fun value => ?_
      refine @relates_bind _ _ _ _ _ _ _ _ _ inferInstance fun _ => ?_
      split <;> infer_instance

instance (reg v : BitVec 8) : Relates R E (storeByteDreg reg v : Gen β Unit) := by
  unfold storeByteDreg; infer_instance

instance (v x : BitVec 8) (store : BitVec 8 → Gen β Unit) [∀ r, Relates R E (store r)] :
    Relates R E (emitNbcdCore v x store) := by
  unfold emitNbcdCore; dsimp only; infer_instance

instance : (emitNbcdGeneric instr : Emission β).Relates R E := by
  unfold emitNbcdGeneric
  split_ifs
  · infer_instance
  · infer_instance
  · split
    · infer_instance
    · next h => have := emitEaAddress_relates (R := R) (E := E) h; infer_instance

instance : (emitAbcdSbcd instr : Emission β).Relates R E := by
  unfold emitAbcdSbcd
  dsimp only
  split_ifs <;> infer_instance

instance : (emitChk instr : Emission β).Relates R E := by
  unfold emitChk
  split_ifs
  · infer_instance
  · split
    · infer_instance
    · next h => have := emitEaRead_relates (R := R) (E := E) h; infer_instance

instance : (emitMultiply instr : Emission β).Relates R E := by
  unfold emitMultiply
  dsimp only
  split_ifs
  · infer_instance
  all_goals
    split
    · infer_instance
    · next h => have := emitEaRead_relates (R := R) (E := E) h; infer_instance

instance (r : Fin 8) (v : BitVec 16) : Relates R E (divuStatements r v : Gen β Unit) := by
  unfold divuStatements; dsimp only; infer_instance

instance (r : Fin 8) (v : BitVec 16) : Relates R E (divsStatements r v : Gen β Unit) := by
  unfold divsStatements; dsimp only; infer_instance

instance : (emitDivide instr : Emission β).Relates R E := by
  unfold emitDivide
  dsimp only
  split_ifs
  · infer_instance
  all_goals
    split
    · infer_instance
    · next h => have := emitEaRead_relates (R := R) (E := E) h; infer_instance

instance : (emitShiftRotateDreg instr : Emission β).Relates R E := by
  unfold emitShiftRotateDreg
  dsimp only
  split_ifs <;> infer_instance

instance : (emitShiftRotateMemory instr : Emission β).Relates R E := by
  unfold emitShiftRotateMemory
  dsimp only
  split_ifs
  · infer_instance
  · infer_instance
  · split
    · infer_instance
    · next h => have := emitEaAddress_relates (R := R) (E := E) h; infer_instance

/-! ## Instructions -/

instance (reg size : BitVec 8) (v : BitVec (ngSizeBits size)) :
    Relates R E (loadDreg reg size v : Gen β Unit) := by
  unfold loadDreg; dsimp only; infer_instance

instance (size : BitVec 8) (addr : BitVec 32) (e : CExpr) :
    Relates R E (storeAbs size addr e : Gen β Unit) := by
  unfold storeAbs; infer_instance

theorem moveShortcut_relates {text : Gen β Unit} (h : moveShortcut instr = some text) :
    Relates R E text := by
  unfold moveShortcut at h
  split_ifs at h <;> cases h <;> infer_instance

theorem clrShortcut_relates {text : Gen β Unit} (h : clrShortcut instr = some text) :
    Relates R E text := by
  unfold clrShortcut at h
  dsimp only at h
  split_ifs at h <;> cases h <;> infer_instance

theorem tstShortcut_relates {text : Gen β Unit} (h : tstShortcut instr = some text) :
    Relates R E text := by
  unfold tstShortcut at h
  split_ifs at h <;> cases h <;> infer_instance

theorem andiShortcut_relates {text : Gen β Unit} (h : andiShortcut instr = some text) :
    Relates R E text := by
  unfold andiShortcut at h
  dsimp only at h
  split_ifs at h
  cases h
  infer_instance

instance : (emitClrGeneric instr : Emission β).Relates R E := by
  unfold emitClrGeneric
  split_ifs
  · infer_instance
  · split
    · infer_instance
    · next h => have := emitEaWrite_relates (R := R) (E := E) h; infer_instance

instance : Relates R E (linkText instr : Gen β Unit) := by
  unfold linkText; dsimp only; infer_instance

instance : Relates R E (unlkText instr : Gen β Unit) := by
  unfold unlkText; dsimp only; infer_instance

instance : Relates R E (moveqText instr : Gen β Unit) := by unfold moveqText; infer_instance

instance : Relates R E (swapText instr : Gen β Unit) := by
  unfold swapText; dsimp only; infer_instance

instance (pc : BitVec 32) : Relates R E (emitPushReturnAddress pc : Gen β Unit) := by
  unfold emitPushReturnAddress; infer_instance

instance : Relates R E (trapvText instr : Gen β Unit) := by unfold trapvText; infer_instance

-- The frame pop is split once, for the instance search.
instance : Relates R E (rtrText : Gen β Unit) := by
  unfold rtrText
  refine @relates_bind _ _ _ _ _ _ _ _ _ inferInstance fun _ => ?_
  refine @relates_bind _ _ _ _ _ _ _ _ _ inferInstance fun _ => ?_
  infer_instance

instance : Relates R E (rtsText : Gen β Unit) := by unfold rtsText; infer_instance

instance : Relates R E (callText instr : Gen β Unit) := by unfold callText; infer_instance

theorem emitLea_relates : Relates R E (emitLea (β := β) instr).text := by
  unfold emitLea
  dsimp only
  split_ifs
  · split <;> infer_instance
  · infer_instance

theorem emitExt_relates : Relates R E (emitExt (β := β) instr).text := by
  unfold emitExt
  dsimp only
  split_ifs <;> infer_instance

theorem emitPea_relates : Relates R E (emitPea (β := β) instr).text := by
  unfold emitPea
  split <;> infer_instance

theorem emitScc_relates : Relates R E (emitScc (β := β) instr).text := by
  unfold emitScc
  cases hw : emitEaWrite (β := β) instr.dst 1 with
  | none =>
    dsimp only
    split_ifs
    · infer_instance
    · infer_instance
    · split <;> infer_instance
  | some wr =>
    have := emitEaWrite_relates (R := R) (E := E) hw
    dsimp only
    split_ifs
    · infer_instance
    · infer_instance
    · split <;> infer_instance

theorem emitMove_relates : Relates R E (emitMove (β := β) instr).text := by
  unfold emitMove
  split
  · next h => have := moveShortcut_relates (R := R) (E := E) instr h; infer_instance
  · exact orUnsupported_relates _ _

theorem emitClr_relates : Relates R E (emitClr (β := β) instr).text := by
  unfold emitClr
  split
  · next h => have := clrShortcut_relates (R := R) (E := E) instr h; infer_instance
  · exact orUnsupported_relates _ _

theorem emitTst_relates : Relates R E (emitTst (β := β) instr).text := by
  unfold emitTst
  split
  · next h => have := tstShortcut_relates (R := R) (E := E) instr h; infer_instance
  · exact orUnsupported_relates _ _

theorem emitLogicalImm_relates : Relates R E (emitLogicalImm (β := β) instr).text := by
  unfold emitLogicalImm
  split
  · next h => have := andiShortcut_relates (R := R) (E := E) instr h; infer_instance
  · exact orUnsupported_relates _ _

theorem emitJsr_relates : Relates R E (emitJsr (β := β) instr).text := by
  unfold emitJsr
  split <;> infer_instance

theorem emitJmp_relates : Relates R E (emitJmp (β := β) instr).text := by
  unfold emitJmp
  split <;> infer_instance

theorem emitBranchCondition_relates :
    Relates R E (emitBranchCondition instr : Gen β Unit × Bool).1 := by
  unfold emitBranchCondition
  dsimp only
  split_ifs
  · dsimp only; infer_instance
  · dsimp only; infer_instance
  · split <;> dsimp only <;> infer_instance

theorem emitBra_relates : Relates R E (emitBra (β := β) instr).text := by
  have h := emitBranchCondition_relates (R := R) (E := E) instr
  unfold emitBra
  split
  all_goals
    next he =>
      rw [he] at h
      dsimp only at h
      infer_instance

instance : Relates R E (dbccStatements instr : Gen β Unit) := by
  unfold dbccStatements; dsimp only; infer_instance

theorem emitDbcc_relates : Relates R E (emitDbcc (β := β) instr).text := by
  unfold emitDbcc
  split_ifs
  · infer_instance
  · infer_instance
  · split <;> infer_instance

/-! ## Instructions -/

/-- The instructions whose code asks for supervisor mode. -/
def privileged (instr : NgM68kInstr) : Bool :=
  match instr.mnemonic with
  | .reset | .stop | .rte | .moveUsp | .oriToSr | .andiToSr | .eoriToSr => true
  | .moveSr => instr.dst.mode = .none
  | _ => false

theorem emitInstr_relates (h : privileged instr = false) :
    Relates R E (emitInstr (β := β) instr).text := by
  unfold privileged at h
  unfold emitInstr
  cases hm : instr.mnemonic <;> rw [hm] at h
  case lea => exact emitLea_relates instr
  case pea => exact emitPea_relates instr
  case scc => exact emitScc_relates instr
  case ext => exact emitExt_relates instr
  case move => exact emitMove_relates instr
  case clr => exact emitClr_relates instr
  case tst => exact emitTst_relates instr
  case ori | andi | eori => exact emitLogicalImm_relates instr
  case jsr => exact emitJsr_relates instr
  case jmp => exact emitJmp_relates instr
  case bra => exact emitBra_relates instr
  case bcc => exact emitBranchCondition_relates instr
  case dbcc => exact emitDbcc_relates instr
  case moveSr =>
    have := emitMoveSrCcr_relates (R := R) (E := E) instr (.inr (of_decide_eq_false h))
    exact orUnsupported_relates _ _
  case moveCcr =>
    have := emitMoveSrCcr_relates (R := R) (E := E) instr (.inl hm)
    exact orUnsupported_relates _ _
  case oriToCcr | andiToCcr | eoriToCcr =>
    dsimp only [emitImmediateToSrCcr]
    rw [hm]
    exact orUnsupported_relates _ _
  all_goals first
    | exact orUnsupported_relates _ _
    | infer_instance
    | cases h

end NeoRecomp
