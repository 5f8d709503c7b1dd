import NeoRecomp.Correct.Arithmetic
import NeoRecomp.Correct.Tracking

/-!
# Bounded table indices

The invariant of `ng_m68k_index_reg_bound_update`: the low word of a register with a valid bound is a
multiple of its scale, below the bound.  A bound is at most 64 entries and a scale at most 16 bytes,
so nothing wraps.
-/

namespace NeoRecomp

open Gen Tracking

/-- The low word of a data register. -/
def lowWord (g : NgM68kState) (r : Fin 8) : Nat := ((g.d r).setWidth 16).toNat

/-- The invariant of one register, whose low word is `low`. -/
structure RegBound (t : NgM68kIndexRegBoundState) (r : Fin 8) (low : Nat) : Prop where
  entry : t.valid r = true → ∃ k < (t.maxEntries r).toNat, low = k * (t.scaleBytes r).toNat
  max_le : t.valid r = true → (t.maxEntries r).toNat ≤ 64
  scale_le : t.valid r = true → (t.scaleBytes r).toNat ≤ 16
  guard_le : t.guardedValid r = true → (t.guardedMaxEntries r).toNat ≤ 64
  pending_le : t.pendingCmpValid r = true → (t.pendingCmpEntries r).toNat ≤ 64

def IndexSound (t : NgM68kIndexRegBoundState) (g : NgM68kState) : Prop :=
  ∀ r, RegBound t r (lowWord g r)

/-! ## What the tracker does to one register -/

section Tracker
variable {t : NgM68kIndexRegBoundState} {r s : Fin 8} {low low' : Nat}

theorem regBound_reset : RegBound ngM68kIndexRegBoundReset r low := by
  constructor <;> intro h <;> cases h

/-- A register without a bound may hold anything. -/
theorem RegBound.of_low (h : RegBound t r low) (hl : t.valid r = true → low' = low) :
    RegBound t r low' :=
  { h with entry := fun hv => by rw [hl hv]; exact h.entry hv }

/-- What the tracker holds about one register. -/
def NgM68kIndexRegBoundState.row (t : NgM68kIndexRegBoundState) (r : Fin 8) :
    (Bool × BitVec 32 × BitVec 8) × (Bool × BitVec 32) × (Bool × BitVec 32) :=
  ((t.valid r, t.maxEntries r, t.scaleBytes r), (t.guardedValid r, t.guardedMaxEntries r),
    (t.pendingCmpValid r, t.pendingCmpEntries r))

theorem RegBound.of_row {t' : NgM68kIndexRegBoundState} (h : RegBound t r low)
    (hrow : t'.row r = t.row r) : RegBound t' r low := by
  simp only [NgM68kIndexRegBoundState.row, Prod.mk.injEq] at hrow
  obtain ⟨⟨hv, hm, hs⟩, ⟨hgv, hg⟩, hpv, hp⟩ := hrow
  constructor
  · rw [hv, hm, hs]; exact h.entry
  · rw [hv, hm]; exact h.max_le
  · rw [hv, hs]; exact h.scale_le
  · rw [hgv, hg]; exact h.guard_le
  · rw [hpv, hp]; exact h.pending_le

theorem RegBound.clear (h : r ≠ s → RegBound t r low) : RegBound (indexRegBoundClear t s) r low := by
  by_cases hr : r = s
  · subst hr
    constructor <;> intro hv <;> simp [indexRegBoundClear] at hv
  · exact (h hr).of_row (by
      simp [NgM68kIndexRegBoundState.row, indexRegBoundClear, Function.update_of_ne hr])

theorem RegBound.noteCmp (h : RegBound t r low) (reg : BitVec 8) (bound : BitVec 32) :
    RegBound (indexRegBoundNoteCmp t reg bound) r low := by
  unfold indexRegBoundNoteCmp
  split_ifs with hb
  · exact h
  · refine { h with pending_le := fun hp => ?_ }
    dsimp only at hp ⊢
    by_cases hr : r = regIndex reg
    · subst hr
      rw [Function.update_self]
      exact BitVec.not_lt.mp (not_or.mp (not_or.mp hb).2).2
    · rw [Function.update_of_ne hr] at hp ⊢
      exact h.pending_le hp

theorem cmpBranchGuardMaxEntries_le {condition : BitVec 8} {bound n : BitVec 32}
    (h : cmpBranchGuardMaxEntries condition bound = some n) (hb : bound.toNat ≤ 64) :
    n.toNat ≤ 64 := by
  unfold cmpBranchGuardMaxEntries at h
  split_ifs at h with h0 h5 h3 <;> cases h
  · exact hb
  · have hlt : bound.toNat < 64 := h3.2
    rw [BitVec.toNat_add, show (1 : BitVec 32).toNat = 1 from rfl, Nat.mod_eq_of_lt (by omega)]
    omega

theorem RegBound.promote (h : RegBound t r low) (instr : NgM68kInstr) :
    RegBound (indexRegBoundPromoteCmpGuard t instr) r low := by
  refine { h with
    guard_le := fun hg => ?_
    pending_le := fun hp => by cases hp }
  simp only [indexRegBoundPromoteCmpGuard] at hg ⊢
  cases hp : promotedGuard t instr r with
  | none =>
    rw [hp] at hg
    exact h.guard_le hg
  | some n =>
    unfold promotedGuard at hp
    split_ifs at hp with hb
    exact cmpBranchGuardMaxEntries_le hp (h.pending_le hb.2)

/-- A left shift or a self-add scales the index. -/
theorem RegBound.scaleOrClear {factor : BitVec 32} (h : RegBound t r low) (hf : factor ≠ 0)
    (hl : low' = low * factor.toNat % 2 ^ 16) :
    RegBound (indexRegBoundScaleOrClear t r factor) r low' := by
  have hclear : ∀ t', RegBound (indexRegBoundClear t' r) r low' :=
    fun t' => RegBound.clear fun hr => absurd rfl hr
  unfold indexRegBoundScaleOrClear indexRegBoundScale
  by_cases hv : t.valid r = true
  · rw [if_neg (not_or.mpr ⟨hf, by simp [hv]⟩)]
    dsimp only
    split_ifs with h0 h16
    · exact hclear _
    · exact hclear _
    · -- The product stays small, so neither the 32-bit scale nor the 16-bit index wraps.
      obtain ⟨k, hk, hlow⟩ := h.entry hv
      have hk64 := h.max_le hv
      have hs : ((t.scaleBytes r).setWidth 32).toNat = (t.scaleBytes r).toNat :=
        BitVec.toNat_setWidth_of_le (by decide)
      have hwrap : (t.scaleBytes r).toNat * factor.toNat < 2 ^ 32 := by
        rw [not_or, BitVec.not_lt] at h0
        have hdiv := BitVec.le_def.mp h0.2
        rw [BitVec.toNat_udiv, hs] at hdiv
        exact lt_of_le_of_lt (Nat.mul_le_of_le_div _ _ _ hdiv) (by decide)
      have hscale : ((t.scaleBytes r).setWidth 32 * factor).toNat =
          (t.scaleBytes r).toNat * factor.toNat := by
        rw [BitVec.toNat_mul, hs, Nat.mod_eq_of_lt hwrap]
      have hle : (t.scaleBytes r).toNat * factor.toNat ≤ 16 := by
        rw [← hscale]
        exact BitVec.le_def.mp (BitVec.not_lt.mp h16)
      have hnew : (((t.scaleBytes r).setWidth 32 * factor).setWidth 8).toNat =
          (t.scaleBytes r).toNat * factor.toNat := by
        rw [BitVec.toNat_setWidth, hscale, Nat.mod_eq_of_lt (by omega)]
      refine ⟨fun _ => ⟨k, hk, ?_⟩, h.max_le, fun _ => ?_, h.guard_le, h.pending_le⟩
      · dsimp only
        rw [Function.update_self, hnew, hl, hlow, Nat.mul_assoc, Nat.mod_eq_of_lt]
        calc k * ((t.scaleBytes r).toNat * factor.toNat)
            ≤ 64 * 16 := Nat.mul_le_mul (by omega) hle
          _ < 2 ^ 16 := by decide
      · dsimp only
        rw [Function.update_self, hnew]
        exact hle
  · rw [if_pos (.inr (Bool.not_eq_true _ ▸ hv))]
    exact hclear _

/-- Scaling touches one register only. -/
theorem RegBound.scaleOrClear_of_ne {factor : BitVec 32} (hr : r ≠ s) (h : RegBound t r low) :
    RegBound (indexRegBoundScaleOrClear t s factor) r low := by
  have hclear : ∀ {t'}, RegBound t' r low → RegBound (indexRegBoundClear t' s) r low :=
    fun h => RegBound.clear fun _ => h
  unfold indexRegBoundScaleOrClear indexRegBoundScale
  dsimp only
  split_ifs
  · exact hclear h
  · exact hclear (hclear h)
  · exact hclear (hclear h)
  · exact h.of_row (by simp [NgM68kIndexRegBoundState.row, Function.update_of_ne hr])

end Tracker

/-! ## What the instructions do to the low word -/

/-- Bits 8 to 15 of a register. -/
def secondByte (v : BitVec 32) : BitVec 8 := v.extractLsb' 8 8

section Words
variable {size : BitVec 8}

theorem ngSizeBits_cases (h : size = 1 ∨ size = 2 ∨ size = 4) :
    ngSizeBits size = 8 ∧ size = 1 ∨ ngSizeBits size = 16 ∨ ngSizeBits size = 32 := by
  rcases h with rfl | rfl | rfl
  · exact .inl ⟨rfl, rfl⟩
  · exact .inr (.inl rfl)
  · exact .inr (.inr rfl)

/-- A small value stored in a register is its low word, if no stale byte stays above it. -/
theorem lowWord_replaceLow {old : BitVec 32} {v : BitVec (ngSizeBits size)}
    (hsize : size = 1 ∨ size = 2 ∨ size = 4) (hv : v.toNat < 2 ^ 8)
    (hb : size = 1 → secondByte old = 0) : ((replaceLow old v).setWidth 16).toNat = v.toNat := by
  have hold := old.isLt
  rw [replaceLow, BitVec.toNat_setWidth, BitVec.toNat_ofNat]
  generalize v.toNat = n at hv ⊢
  rcases ngSizeBits_cases hsize with ⟨hw, h1⟩ | hw | hw
  · have hbyte : old.toNat / 2 ^ 8 % 2 ^ 8 = 0 := by
      have := congrArg BitVec.toNat (hb h1)
      rwa [secondByte, BitVec.extractLsb'_toNat, Nat.shiftRight_eq_div_pow] at this
    rw [hw]
    omega
  · rw [hw]
    omega
  · rw [hw]
    omega

/-- A word or long store replaces the whole low word. -/
theorem setWidth_replaceLow_word {old : BitVec 32} {v : BitVec (ngSizeBits size)}
    (hsize : size = 2 ∨ size = 4) : (replaceLow old v).setWidth 16 = v.setWidth 16 := by
  have hv := v.isLt
  apply BitVec.eq_of_toNat_eq
  rw [replaceLow, BitVec.toNat_setWidth, BitVec.toNat_ofNat, BitVec.toNat_setWidth]
  generalize v.toNat = n at hv ⊢
  have hw : ngSizeBits size = 16 ∨ ngSizeBits size = 32 := by
    rcases hsize with rfl | rfl
    · exact .inl rfl
    · exact .inr rfl
  rcases hw with hw | hw <;> rw [hw] at hv ⊢ <;> omega

theorem setWidth_castSize_word (hsize : size = 2 ∨ size = 4) (x : BitVec 32) :
    (castSize size x).setWidth 16 = x.setWidth 16 := by
  rcases hsize with rfl | rfl
  · exact BitVec.setWidth_eq _
  · rw [castSize, show ngSizeBits 4 = 32 from rfl, BitVec.setWidth_eq]

end Words

@[simp] theorem d_setD_self (g : NgM68kState) (r : Fin 8) (v : BitVec 32) :
    (g.setD r v).d r = v := Function.update_self ..

section Steps
variable {β : Type} [GeneratedAbi β] {instr : NgM68kInstr} {g g' : NgM68kState}

theorem moveq_lowWord (hm : instr.mnemonic = .moveq) (hv : validateMoveq instr = true)
    (h : FallsThrough β instr g g') (hi : instr.immediate.toNat < 2 ^ 8) :
    lowWord g' (regIndex instr.dst.reg) = instr.immediate.toNat := by
  obtain ⟨m, m', rfl, hrun, rfl⟩ := h
  simp only [emitInstr, hm] at hrun
  cases hrun
  rw [← (validateMoveq_dst hv).2]
  change (((m.cpu.setD (regIndex instr.reg) instr.immediate).d (regIndex instr.reg)).setWidth
    16).toNat = _
  rw [d_setD_self, BitVec.toNat_setWidth, Nat.mod_eq_of_lt (by omega)]

theorem moveImm_lowWord (hm : instr.mnemonic = .move) (hv : validateMove instr = true)
    (hs : instr.src.mode = .imm) (hd : instr.dst.mode = .dreg) (h : FallsThrough β instr g g')
    (hi : instr.src.immediate.toNat < 2 ^ 8)
    (hb : instr.size = 1 → secondByte (g.d (regIndex instr.dst.reg)) = 0) :
    lowWord g' (regIndex instr.dst.reg) = instr.src.immediate.toNat := by
  have hfields : (instr.form = .immToDreg ∧ instr.reg = instr.dst.reg ∧
      instr.immediate = instr.src.immediate) ∧
      (instr.size = 1 ∨ instr.size = 2 ∨ instr.size = 4) := by
    unfold validateMove at hv
    split at hv
    · simp only [Bool.and_eq_true, validSize, Bool.or_eq_true, beq_iff_eq,
        validateMoveLegacyFields, hs, hd, moveLegacyFields, reduceCtorEq, false_and, and_false,
        or_self, if_false, and_self, if_true] at hv
      obtain ⟨⟨⟨⟨⟨hsize, -⟩, -⟩, hl⟩, -⟩, -⟩ := hv
      exact ⟨⟨hl.1.1.1.1.1, hl.1.1.1.1.2, hl.1.1.2⟩, or_assoc.mp hsize⟩
    · simp at hv
  obtain ⟨⟨hform, hreg, himm⟩, hsize⟩ := hfields
  obtain ⟨m, m', rfl, hrun, rfl⟩ := h
  simp only [emitInstr, hm, emitMove, moveShortcut, hform, reduceCtorEq, false_and, if_false,
    if_true] at hrun
  cases hrun
  have hcast : (castSize instr.size instr.immediate).toNat = instr.src.immediate.toNat := by
    rw [castSize, BitVec.toNat_setWidth, himm]
    apply Nat.mod_eq_of_lt
    rcases ngSizeBits_cases hsize with ⟨hw, -⟩ | hw | hw <;> rw [hw] <;> omega
  rw [← hcast]
  rw [← hreg] at hb ⊢
  change (((m.cpu.setD (regIndex instr.reg)
    ((m.cpu.d (regIndex instr.reg) &&& ngDregKeepMask instr.size) |||
      promote (castSize instr.size instr.immediate))).d (regIndex instr.reg)).setWidth 16).toNat = _
  rw [d_setD_self, and_keep_or_promote]
  exact lowWord_replaceLow hsize (by rw [hcast]; exact hi) hb

/-- ANDI on a data register keeps the bits of its mask. -/
theorem andi_store (hm : instr.mnemonic = .andi) (hv : validateImmediateToEa instr = true)
    (hd : instr.dst.mode = .dreg) (h : FallsThrough β instr g g') :
    (instr.size = 1 ∨ instr.size = 2 ∨ instr.size = 4) ∧
      g'.d (regIndex instr.dst.reg) = replaceLow (g.d (regIndex instr.dst.reg))
        (castSize instr.size (g.d (regIndex instr.dst.reg) &&& instr.immediate)) := by
  have hfields : instr.form = .immToDreg ∧
      (instr.size = 1 ∨ instr.size = 2 ∨ instr.size = 4) := by
    simp only [validateImmediateToEa, hm] at hv
    unfold validateImmediateWithBase at hv
    split at hv
    · next hsize =>
      simp only [Bool.and_eq_true, validateImmediateDestLegacyFields, validateDstLegacyFields, hd,
        beq_iff_eq] at hv
      exact ⟨hv.1.1.2.2.1.1.1, sizeBitsOf_isSome hsize⟩
    · simp at hv
  obtain ⟨hform, hsize⟩ := hfields
  refine ⟨hsize, ?_⟩
  obtain ⟨m, m', rfl, hrun, rfl⟩ := h
  simp only [emitInstr, hm, emitLogicalImm, andiShortcut, hform, emitLogicalImmGeneric, emitRmw,
    emitEaRead, hd, reduceCtorEq, false_and, and_false, if_false, if_true, storeDreg,
    logicStatements, emitSetNzForSize, writeDreg_eq, castSize_promote] at hrun
  cases hrun
  refine (d_setD_self ..).trans ?_
  congr 1
  rw [castSize_dreg, castSize_and_ngValueMask]
  apply BitVec.eq_of_getLsbD_eq
  intro i hi
  have h32 := ngSizeBits_le instr.size
  simp [castSize, logicOp, promote, hi, show i < 32 by omega]

/-- One turn of a left shift doubles the low word. -/
theorem shiftTurn_left (hm : instr.mnemonic = .lsl ∨ instr.mnemonic = .asl)
    (hsize : instr.size = 2 ∨ instr.size = 4) (s : ShiftVars) :
    (shiftTurn instr.mnemonic (ngSignMask instr.size) (ngValueMask instr.size) s).result.setWidth
      16 = s.result.setWidth 16 <<< 1 := by
  have hresult : (shiftTurn instr.mnemonic (ngSignMask instr.size) (ngValueMask instr.size)
      s).result = (s.result <<< 1) &&& ngValueMask instr.size := by
    rcases hm with hm | hm <;> simp [shiftTurn, hm, shiftIsLogical, shiftIsArith, shiftIsLeft]
  rw [hresult]
  apply BitVec.eq_of_getLsbD_eq
  intro i hi
  have hmask : (ngValueMask instr.size).getLsbD i = true := by
    rw [getLsbD_ngValueMask, decide_eq_true_eq]
    rcases hsize with h | h <;> rw [h]
    · exact hi
    · exact lt_trans hi (by decide)
  simp only [BitVec.getLsbD_setWidth, BitVec.getLsbD_and, BitVec.getLsbD_shiftLeft, hmask, hi,
    decide_true, Bool.true_and, Bool.and_true, show i < 32 by omega, show i - 1 < 16 by omega]

theorem shiftTurns_left (hm : instr.mnemonic = .lsl ∨ instr.mnemonic = .asl)
    (hsize : instr.size = 2 ∨ instr.size = 4) (s : ShiftVars) (n : Nat) :
    ((shiftTurn instr.mnemonic (ngSignMask instr.size) (ngValueMask instr.size))^[n]
      s).result.setWidth 16 = s.result.setWidth 16 <<< n := by
  induction n with
  | zero => simp
  | succ n ih =>
    rw [Function.iterate_succ_apply', shiftTurn_left hm hsize, ih, ← BitVec.shiftLeft_add]

/-- The low word a left shift stores. -/
theorem shift_store {n : Nat} (hm : instr.mnemonic = .lsl ∨ instr.mnemonic = .asl)
    (hsize : instr.size = 2 ∨ instr.size = 4) (old : BitVec 32) (s : ShiftVars)
    (hs : s.result = old &&& ngValueMask instr.size) :
    (((old &&& ngDregKeepMask instr.size) |||
        (((shiftTurn instr.mnemonic (ngSignMask instr.size) (ngValueMask instr.size))^[n]
          s).result &&& ngValueMask instr.size)).setWidth 16).toNat =
      (old.setWidth 16).toNat * 2 ^ n % 2 ^ 16 := by
  rw [and_ngValueMask, and_keep_or_promote, setWidth_replaceLow_word hsize,
    setWidth_castSize_word hsize, shiftTurns_left hm hsize, hs,
    ← setWidth_castSize_word hsize (old &&& _), castSize_and_ngValueMask,
    setWidth_castSize_word hsize, BitVec.toNat_shiftLeft, Nat.shiftLeft_eq]

theorem shift_lowWord (hs : isIndexShift instr = true) (h : FallsThrough β instr g g') :
    lowWord g' (regIndex instr.dst.reg) =
      lowWord g (regIndex instr.dst.reg) * 2 ^ instr.immediate.toNat % 2 ^ 16 := by
  simp only [isIndexShift, Bool.and_eq_true, Bool.or_eq_true, decide_eq_true_eq] at hs
  obtain ⟨⟨⟨⟨⟨hm, hd⟩, -⟩, hsrc⟩, hsize⟩, himm⟩ := hs
  have hcount : (instr.immediate.setWidth 8).toNat = instr.immediate.toNat := by
    have hlt : instr.immediate.toNat < 8 := himm
    rw [BitVec.toNat_setWidth, Nat.mod_eq_of_lt (by omega)]
  obtain ⟨m, m', rfl, hrun, rfl⟩ := h
  have hemit : emitInstr (β := β) instr = orUnsupported instr
      ((emitShiftRotateMemory instr).orElse (emitShiftRotateDreg instr)) := by
    rcases hm with hm | hm <;> simp only [emitInstr, hm]
  have hmem : emitShiftRotateMemory (β := β) instr = .rejected := by
    simp [emitShiftRotateMemory, hd]
  have hknown : shiftIsKnown instr.mnemonic = true := by
    rcases hm with hm | hm <;> rw [hm] <;> rfl
  rw [hemit, hmem] at hrun
  simp only [emitShiftRotateDreg, hd, hknown, ne_eq, not_true_eq_false, if_false, Bool.not_true,
    Bool.false_eq_true, if_neg hsrc] at hrun
  unfold lowWord
  by_cases h0 : instr.immediate.setWidth 8 = 0
  · -- A count of zero stores the masked register back.
    have hn : instr.immediate.toNat = 0 := by rw [← hcount, h0]; rfl
    simp only [h0, not_true_eq_false, if_false] at hrun
    cases hrun
    rw [hn, ← shift_store (n := 0) hm hsize _
      { result := m.cpu.d (regIndex instr.dst.reg) &&& ngValueMask instr.size, last := false,
        v := false, x := false } rfl]
    exact congrArg (fun v : BitVec 32 => (v.setWidth 16).toNat) (d_setD_self ..)
  · simp only [h0, not_false_eq_true, if_true] at hrun
    cases hrun
    rw [← hcount, ← shift_store (n := (instr.immediate.setWidth 8).toNat) hm hsize _
      { result := m.cpu.d (regIndex instr.dst.reg) &&& ngValueMask instr.size, last := false,
        v := false, x := srHas m.cpu.sr ngCcrX } rfl]
    exact congrArg (fun v : BitVec 32 => (v.setWidth 16).toNat) (d_setD_self ..)

theorem double_lowWord (hs : isIndexDouble instr = true) (h : FallsThrough β instr g g') :
    lowWord g' (regIndex instr.dst.reg) = lowWord g (regIndex instr.dst.reg) * 2 % 2 ^ 16 := by
  simp only [isIndexDouble, instrIsDregSelfAdd, Bool.and_eq_true, Bool.or_eq_true,
    decide_eq_true_eq] at hs
  obtain ⟨⟨hd, -⟩, ⟨⟨⟨⟨hm, hsize⟩, hsrc⟩, -⟩, hreg⟩, -⟩ := hs
  obtain ⟨m, m', rfl, hrun, rfl⟩ := h
  have hmem : emitAluDregToEa (β := β) instr = .rejected := by simp [emitAluDregToEa, hd]
  simp only [emitInstr, hm, emitAlu, hmem, emitAluEaToDreg, emitEaRead, hsrc, hd, hreg,
    reduceCtorEq, or_self, if_false, if_true, ne_eq, not_true_eq_false, addStatements,
    storeDreg, writeDreg_eq, castSize_promote, addFull_setWidth] at hrun
  cases hrun
  refine (congrArg (fun v : BitVec 32 => (v.setWidth 16).toNat) (d_setD_self ..)).trans ?_
  dsimp only
  have hle : 16 ≤ ngSizeBits instr.size := by rcases hsize with h | h <;> rw [h] <;> decide
  rw [setWidth_replaceLow_word hsize, castSize_dreg, castSize_and_ngValueMask,
    BitVec.setWidth_add _ _ hle, ← castSize, setWidth_castSize_word hsize, BitVec.toNat_add,
    lowWord, Nat.mul_two]

end Steps

/-! ## The condition on a step -/

/-- Data registers an instruction changes without `instr_writes_dreg` seeing it. -/
def missesDreg (instr : NgM68kInstr) (r : Fin 8) : Bool :=
  instrWrites instr (.d r) && (instrWritesDreg instr).map regIndex ≠ some r

/-- The instruction gives a register a bound: a mask, or a constant under a compare guard. -/
def setsBound (t : NgM68kIndexRegBoundState) (instr : NgM68kInstr) : Bool :=
  isIndexMask instr || (indexRegBoundApplyGuardedClamp t instr).isSome

/-- The step changes no bounded register behind the tracker's back, a byte-sized mask or constant
finds the next byte clear, and no compare guard cuts the bound of a mask. -/
def IndexSeen (t : NgM68kIndexRegBoundState) (instr : NgM68kInstr) (g : NgM68kState) : Prop :=
  (∀ r, missesDreg instr r = true → t.valid r = false) ∧
    (setsBound t instr = true → instr.size = 1 →
      secondByte (g.d (regIndex instr.dst.reg)) = 0) ∧
    (isIndexMask instr = true → andiMaxEntries t instr = instr.immediate + 1)

section Sound
variable {β : Type} [GeneratedAbi β] {instr : NgM68kInstr} {g g' : NgM68kState}
  {t : NgM68kIndexRegBoundState}

/-- Promoting a compare guard changes nothing the other parts of the update read, except at a
Bcc. -/
theorem promote_of_not_bcc (t : NgM68kIndexRegBoundState) (hm : instr.mnemonic ≠ .bcc) :
    (indexRegBoundPromoteCmpGuard t instr).guardedValid = t.guardedValid ∧
      (indexRegBoundPromoteCmpGuard t instr).guardedMaxEntries = t.guardedMaxEntries := by
  simp [indexRegBoundPromoteCmpGuard, promotedGuard, hm]

theorem instrMovesImmediateToDreg_eq {reg : BitVec 8} {value : BitVec 32}
    (h : instrMovesImmediateToDreg instr = some (reg, value)) :
    instr.dst.mode = .dreg ∧ instr.dst.reg < 8 ∧ reg = instr.dst.reg ∧
      (instr.mnemonic = .moveq ∧ value = instr.immediate ∨
        instr.mnemonic = .move ∧ instr.src.mode = .imm ∧ value = instr.src.immediate) := by
  unfold instrMovesImmediateToDreg at h
  split_ifs at h with hd hq hi <;> cases h <;> rw [not_or, not_not, BitVec.not_le] at hd
  · exact ⟨hd.1, hd.2, rfl, .inl ⟨hq, rfl⟩⟩
  · exact ⟨hd.1, hd.2, rfl, .inr ⟨hi.1, hi.2, rfl⟩⟩

/-- The guarded clamp applies to constant moves only, and the promotion before it changes nothing
there. -/
theorem clamp_of_promote {t' : NgM68kIndexRegBoundState}
    (h : indexRegBoundApplyGuardedClamp (indexRegBoundPromoteCmpGuard t instr) instr = some t') :
    instr.dst.mode = .dreg ∧ instr.dst.reg < 8 ∧
      (instr.mnemonic = .moveq ∨ instr.mnemonic = .move) ∧
      (indexRegBoundApplyGuardedClamp t instr).isSome = true := by
  unfold indexRegBoundApplyGuardedClamp at h ⊢
  split at h
  · cases h
  next reg value hmoves =>
  obtain ⟨hd, hlt, rfl, hkind⟩ := instrMovesImmediateToDreg_eq hmoves
  have hm : instr.mnemonic = .moveq ∨ instr.mnemonic = .move :=
    hkind.imp (fun hk => hk.1) fun hk => hk.1
  obtain ⟨hgv, hg⟩ := promote_of_not_bcc t
    (show instr.mnemonic ≠ .bcc by rcases hm with hm | hm <;> rw [hm] <;> decide)
  refine ⟨hd, hlt, hm, ?_⟩
  dsimp only at h ⊢
  rw [hgv, hg] at h
  split_ifs at h ⊢
  rfl

/-- A constant below the guard is the bounded index. -/
theorem RegBound.clamp {t' : NgM68kIndexRegBoundState} {r : Fin 8}
    (hc : indexRegBoundApplyGuardedClamp t instr = some t') (hv : ngM68kValidate instr = true)
    (h : FallsThrough β instr g g')
    (hb : instr.size = 1 → secondByte (g.d (regIndex instr.dst.reg)) = 0)
    (hr : RegBound t r (lowWord g r))
    (hkeep : r ≠ regIndex instr.dst.reg → RegBound t r (lowWord g' r)) :
    RegBound t' r (lowWord g' r) := by
  unfold indexRegBoundApplyGuardedClamp at hc
  split at hc
  · cases hc
  next reg value hmoves =>
  obtain ⟨hd, -, rfl, hkind⟩ := instrMovesImmediateToDreg_eq hmoves
  dsimp only at hc
  split_ifs at hc with hg
  simp only [not_or, Bool.not_eq_false, ge_iff_le, BitVec.not_le] at hg
  obtain ⟨hgv, -, hlt⟩ := hg
  cases hc
  by_cases hrr : r = regIndex instr.dst.reg
  · subst hrr
    have hguard := hr.guard_le hgv
    have hvalue : value.toNat < (t.guardedMaxEntries (regIndex instr.dst.reg)).toNat := hlt
    have hlow : lowWord g' (regIndex instr.dst.reg) = value.toNat := by
      rw [ngM68kValidate, Bool.and_eq_true] at hv
      rcases hkind with ⟨hm, rfl⟩ | ⟨hm, hs, rfl⟩ <;> simp only [hm] at hv
      · exact moveq_lowWord hm hv.2 h (by omega)
      · exact moveImm_lowWord hm hv.2 hs hd h (by omega) hb
    refine ⟨fun _ => ⟨value.toNat, ?_, ?_⟩, fun _ => ?_, fun _ => ?_, fun hf => ?_, fun hf => ?_⟩ <;>
      simp only [Function.update_self] at *
    · exact hvalue
    · rw [hlow]; exact (Nat.mul_one _).symm
    · exact hguard
    · decide
    · cases hf
    · cases hf
  · exact (hkeep hrr).of_row (by
      simp [NgM68kIndexRegBoundState.row, Function.update_of_ne hrr])

/-- A mask is the largest index it lets through. -/
theorem RegBound.mask {r : Fin 8} (hmask : isIndexMask instr = true)
    (hv : ngM68kValidate instr = true) (h : FallsThrough β instr g g')
    (hb : instr.size = 1 → secondByte (g.d (regIndex instr.dst.reg)) = 0)
    (hmax : andiMaxEntries t instr = instr.immediate + 1)
    (hr : RegBound t r (lowWord g r))
    (hkeep : r ≠ regIndex instr.dst.reg → RegBound t r (lowWord g' r)) :
    RegBound (indexRegBoundMask t instr) r (lowWord g' r) := by
  simp only [isIndexMask, Bool.and_eq_true, decide_eq_true_eq] at hmask
  obtain ⟨⟨⟨hm, hd⟩, -⟩, himm⟩ := hmask
  have himm : instr.immediate.toNat < 64 := himm
  rw [ngM68kValidate, Bool.and_eq_true] at hv
  simp only [hm] at hv
  obtain ⟨hsize, hstore⟩ := andi_store hm hv.2 hd h
  by_cases hrr : r = regIndex instr.dst.reg
  · subst hrr
    have hle : (castSize instr.size
        (g.d (regIndex instr.dst.reg) &&& instr.immediate)).toNat ≤ instr.immediate.toNat := by
      rw [castSize, BitVec.toNat_setWidth, BitVec.toNat_and]
      exact (Nat.mod_le _ _).trans Nat.and_le_right
    have hlow := lowWord_replaceLow hsize (lt_of_le_of_lt hle (by omega)) hb
    have hplus : (instr.immediate + 1).toNat = instr.immediate.toNat + 1 := by
      rw [BitVec.toNat_add, show (1 : BitVec 32).toNat = 1 from rfl, Nat.mod_eq_of_lt (by omega)]
    rw [← hstore] at hlow
    refine ⟨fun _ => ⟨(castSize instr.size
        (g.d (regIndex instr.dst.reg) &&& instr.immediate)).toNat, ?_, ?_⟩, fun _ => ?_,
      fun _ => ?_, hr.guard_le, hr.pending_le⟩ <;>
      simp only [indexRegBoundMask, Function.update_self, hmax]
    · rw [hplus]
      exact Nat.lt_succ_of_le hle
    · rw [lowWord, hlow]
      exact (Nat.mul_one _).symm
    · omega
    · decide
  · exact (hkeep hrr).of_row (by
      simp [NgM68kIndexRegBoundState.row, indexRegBoundMask, Function.update_of_ne hrr])

theorem instrCmpiImmediateToDreg_mnemonic {x : BitVec 8 × BitVec 32}
    (h : instrCmpiImmediateToDreg instr = some x) : instr.mnemonic = .cmpi := by
  unfold instrCmpiImmediateToDreg at h
  split_ifs at h with hc
  rw [not_or, not_not] at hc
  exact hc.1

/-- The mask, shift, double and move cases write the register `instr_writes_dreg` reports. -/
theorem instrWritesDreg_dst (hd : instr.dst.mode = .dreg) (hlt : instr.dst.reg < 8)
    (hm : instr.mnemonic = .move ∨ instr.mnemonic = .moveq ∨ instr.mnemonic = .andi ∨
      instr.mnemonic = .lsl ∨ instr.mnemonic = .asl ∨ instr.mnemonic = .add) :
    instrWritesDreg instr = some instr.dst.reg := by
  rw [instrWritesDreg, if_pos ⟨hd, hlt⟩]
  rcases hm with hm | hm | hm | hm | hm | hm <;> rw [hm]

/-- A left shift by a constant. -/
theorem RegBound.shift {r : Fin 8} (hshift : isIndexShift instr = true)
    (h : FallsThrough β instr g g') (hr : RegBound t r (lowWord g r))
    (hkeep : r ≠ regIndex instr.dst.reg → RegBound t r (lowWord g' r)) :
    RegBound (indexRegBoundScaleOrClear t (regIndex instr.dst.reg)
      ((1 : BitVec 32) <<< instr.immediate.toNat)) r (lowWord g' r) := by
  have himm : instr.immediate.toNat < 8 := by
    simp only [isIndexShift, Bool.and_eq_true, decide_eq_true_eq] at hshift
    exact hshift.2
  have hfactor : ((1 : BitVec 32) <<< instr.immediate.toNat).toNat =
      2 ^ instr.immediate.toNat := by
    have hpow : 2 ^ instr.immediate.toNat ≤ 2 ^ 7 := Nat.pow_le_pow_right (by decide) (by omega)
    rw [BitVec.toNat_shiftLeft, Nat.shiftLeft_eq, show (1 : BitVec 32).toNat = 1 from rfl,
      Nat.one_mul, Nat.mod_eq_of_lt (lt_of_le_of_lt hpow (by decide))]
  by_cases hrr : r = regIndex instr.dst.reg
  · subst hrr
    refine hr.scaleOrClear ?_ ?_
    · intro h0
      have hzero := congrArg BitVec.toNat h0
      rw [hfactor] at hzero
      exact absurd hzero (Nat.pos_iff_ne_zero.mp (Nat.two_pow_pos _))
    · rw [hfactor]
      exact shift_lowWord hshift h
  · exact (hkeep hrr).scaleOrClear_of_ne hrr

/-- The part of the update after the guarded clamp. -/
theorem RegBound.transfer {r : Fin 8} (hv : ngM68kValidate instr = true)
    (h : FallsThrough β instr g g')
    (hb : isIndexMask instr = true → instr.size = 1 →
      secondByte (g.d (regIndex instr.dst.reg)) = 0)
    (hmax : isIndexMask instr = true → andiMaxEntries t instr = instr.immediate + 1)
    (hr : RegBound t r (lowWord g r))
    (hkeep : (instrWritesDreg instr).map regIndex ≠ some r → RegBound t r (lowWord g' r)) :
    RegBound (indexRegBoundTransfer t instr) r (lowWord g' r) := by
  have hdst (hw : instrWritesDreg instr = some instr.dst.reg)
      (hne : r ≠ regIndex instr.dst.reg) : RegBound t r (lowWord g' r) :=
    hkeep (by rw [hw]; simpa using Ne.symm hne)
  unfold indexRegBoundTransfer
  dsimp only
  split_ifs with hmask hshift hdouble
  · have hm := hmask
    simp only [isIndexMask, Bool.and_eq_true, decide_eq_true_eq] at hm
    obtain ⟨⟨⟨hm, hd⟩, hlt⟩, -⟩ := hm
    have hw := instrWritesDreg_dst hd hlt (.inr (.inr (.inl hm)))
    exact RegBound.mask hmask hv h (hb hmask) (hmax hmask) hr (hdst hw)
  · have hm := hshift
    simp only [isIndexShift, Bool.and_eq_true, Bool.or_eq_true, decide_eq_true_eq] at hm
    obtain ⟨⟨⟨⟨⟨hm, hd⟩, hlt⟩, -⟩, -⟩, -⟩ := hm
    have hw := instrWritesDreg_dst hd hlt
      (hm.elim (fun hl => .inr (.inr (.inr (.inl hl)))) fun ha => .inr (.inr (.inr (.inr (.inl ha)))))
    exact RegBound.shift hshift h hr (hdst hw)
  · have hm := hdouble
    simp only [isIndexDouble, instrIsDregSelfAdd, Bool.and_eq_true, decide_eq_true_eq] at hm
    obtain ⟨⟨hd, hlt⟩, ⟨⟨⟨⟨hm, -⟩, -⟩, -⟩, -⟩, -⟩ := hm
    have hw := instrWritesDreg_dst hd hlt (.inr (.inr (.inr (.inr (.inr hm)))))
    by_cases hrr : r = regIndex instr.dst.reg
    · subst hrr
      exact hr.scaleOrClear (by decide) (double_lowWord hdouble h)
    · exact (hdst hw hrr).scaleOrClear_of_ne hrr
  · split
    · next reg hw =>
      refine RegBound.clear fun hne => hkeep ?_
      rw [hw]
      simpa using Ne.symm hne
    · next hw => exact hkeep (by rw [hw]; simp)

theorem IndexSound.step (hsound : IndexSound t g) (hseen : IndexSeen t instr g)
    (hstep : ScannedStep β instr g g') : IndexSound (ngM68kIndexRegBoundUpdate t instr) g' := by
  obtain ⟨hmiss, hbyte, hmaskBound⟩ := hseen
  obtain ⟨hdec, hcall | hfalls⟩ := hstep
  · intro r
    have hc : instr.mnemonic = .jsr ∨ instr.mnemonic = .bsr := by simpa [isCall] using hcall
    rw [ngM68kIndexRegBoundUpdate, if_pos hc]
    exact regBound_reset
  intro r
  have hv := hfalls.validated hdec
  -- A bounded register the instruction is not known to write keeps its low word.
  have keep : (instrWritesDreg instr).map regIndex ≠ some r → RegBound t r (lowWord g' r) := by
    intro hne
    refine (hsound r).of_low fun hr => ?_
    have hreg : g'.reg (.d r) = g.reg (.d r) := by
      refine hfalls.keeps hdec (Bool.eq_false_iff.mpr fun hw => ?_)
      have hinvalid := hmiss r (by simp [missesDreg, hw, hne])
      rw [hinvalid] at hr
      cases hr
    exact congrArg (fun v : BitVec 32 => (v.setWidth 16).toNat) hreg
  unfold ngM68kIndexRegBoundUpdate
  split_ifs with hc
  · exact regBound_reset
  split
  · next hcmp =>
    have hm := instrCmpiImmediateToDreg_mnemonic hcmp
    exact (keep (by simp [instrWritesDreg, hm])).noteCmp _ _
  dsimp only
  split
  · next t' hclamp =>
    obtain ⟨hd, hlt, hm, hsome⟩ := clamp_of_promote hclamp
    have hw := instrWritesDreg_dst hd hlt
      (hm.elim (fun hq => .inr (.inl hq)) fun hmove => .inl hmove)
    exact RegBound.clamp hclamp hv hfalls (hbyte (by simp [setsBound, hsome]))
      ((hsound r).promote instr)
      fun hne => (keep (by rw [hw]; simpa using Ne.symm hne)).promote instr
  · refine RegBound.transfer hv hfalls (fun hmask => hbyte (by simp [setsBound, hmask]))
      (fun hmask => ?_) ((hsound r).promote instr) fun hne => (keep hne).promote instr
    have hm : instr.mnemonic = .andi := by
      simp only [isIndexMask, Bool.and_eq_true, decide_eq_true_eq] at hmask
      exact hmask.1.1.1
    obtain ⟨hgv, hg⟩ := promote_of_not_bcc t (show instr.mnemonic ≠ .bcc by rw [hm]; decide)
    rw [andiMaxEntries, hgv, hg]
    exact hmaskBound hmask

/-- The bounds after a run from the reset state. -/
def trackedBounds (run : List (NgM68kInstr × NgM68kState)) : NgM68kIndexRegBoundState :=
  track ngM68kIndexRegBoundUpdate ngM68kIndexRegBoundReset run

/-- Along every scanned run whose steps the tracker sees, a bounded register selects one of its
entries, and so does a word index of a table the bound is applied to. -/
theorem indexBound_sound (g : NgM68kState) (run : List (NgM68kInstr × NgM68kState))
    (hrun : Run (ScannedStep β) g run)
    (hseen : EveryStep ngM68kIndexRegBoundUpdate IndexSeen ngM68kIndexRegBoundReset g run) :
    (∀ r, (trackedBounds run).valid r = true →
      ∃ k < ((trackedBounds run).maxEntries r).toNat,
        (((final g run).d r).setWidth 16).toNat = k * ((trackedBounds run).scaleBytes r).toNat) ∧
    ∀ (p : NgM68kJumpTablePattern) (ea : NgM68kEa), ea.indexReg = p.indexReg →
      ea.indexIsAddr = 0 → ea.indexIsLong = 0 → indexBoundApplies p (trackedBounds run) = true →
        ∃ k < (ngM68kJumpTableApplyIndexBound p (trackedBounds run)).maxEntries.toNat,
          ngFormatIndexExpr ea (final g run) = BitVec.ofNat 32 (k * p.entrySize.toNat) := by
  have hsound : IndexSound (trackedBounds run) (final g run) :=
    sound_run (fun _ _ _ _ hs hok hst => hs.step hok hst) (fun _ => regBound_reset) hrun hseen
  refine ⟨fun r hr => (hsound r).entry hr, fun p ea hreg haddr hlong happlies => ?_⟩
  rw [ngM68kJumpTableApplyIndexBound, if_pos happlies]
  simp only [indexBoundApplies, Bool.and_eq_true, decide_eq_true_eq] at happlies
  obtain ⟨⟨⟨-, hvalid⟩, hscale⟩, -⟩ := happlies
  have hr := hsound (regIndex p.indexReg)
  obtain ⟨k, hk, hlow⟩ := hr.entry hvalid
  refine ⟨k, hk, ?_⟩
  -- The index is below 1024, so its sign extension is itself.
  have hsmall : k * (p.entrySize).toNat < 2 ^ 15 := by
    have hk64 := hr.max_le hvalid
    have hs16 := hr.scale_le hvalid
    rw [← hscale]
    calc k * ((trackedBounds run).scaleBytes (regIndex p.indexReg)).toNat
        ≤ 64 * 16 := Nat.mul_le_mul (by omega) hs16
      _ < 2 ^ 15 := by decide
  rw [hscale] at hlow
  unfold ngFormatIndexExpr
  simp only [haddr, hlong, hreg, ne_eq, not_true_eq_false, if_false]
  rw [BitVec.signExtend_eq_setWidth_of_msb_false]
  · apply BitVec.eq_of_toNat_eq
    rw [BitVec.toNat_setWidth, BitVec.toNat_ofNat]
    exact congrArg (· % 2 ^ 32) hlow
  · rw [BitVec.msb_eq_false_iff_two_mul_lt]
    have hlow' : (((final g run).d (regIndex p.indexReg)).setWidth 16).toNat = _ := hlow
    rw [hlow']
    omega

end Sound

/-- `ANDI.W #3,D0; BSET #2,D0`. -/
def andiBsetRom : NgProgramRom where
  data := #[0x02, 0x40, 0x00, 0x03, 0x08, 0xC0, 0x00, 0x02]
  size := 8
  size_eq := rfl

def andiInstr : NgM68kInstr :=
  { addr := 0, opcode := 0x0240, mnemonic := .andi, byteLength := 4, size := 2,
    form := .immToDreg, immediate := 3, dst := { mode := .dreg } }

def bsetInstr : NgM68kInstr :=
  { addr := 4, opcode := 0x08C0, mnemonic := .bset, byteLength := 4, size := 4, form := .dreg,
    immediate := 2, dst := { mode := .dreg } }

/-- D0 masked to zero, with Z set. -/
def maskedCpu : NgM68kState := (clearedCpu.setD 0 0).setSr 4

theorem andi_scannedStep : ScannedStep Ram andiInstr clearedCpu maskedCpu :=
  ⟨⟨andiBsetRom, 0, by decide +kernel⟩, .inr ⟨onClearedRam clearedCpu, _, rfl, rfl, rfl⟩⟩

/-- `ANDI.W #3,D0; ADD.W D0,D0; ADD.W D0,D0`. -/
def scaledIndexRom : NgProgramRom where
  data := #[0x02, 0x40, 0x00, 0x03, 0xD0, 0x40, 0xD0, 0x40]
  size := 8
  size_eq := rfl

def doubleInstr (addr : BitVec 32) : NgM68kInstr :=
  { addr := addr, opcode := 0xD040, mnemonic := .add, byteLength := 2, size := 2,
    form := .dregToDreg, src := { mode := .dreg }, dst := { mode := .dreg } }

/-- D0 is 7: masked it is entry 3, which is found at byte 12 of entries of four bytes. -/
theorem indexBound_sound_andi :
    ∃ g₁ g₂ g₃, let run := [(andiInstr, g₁), (doubleInstr 4, g₂), (doubleInstr 6, g₃)]
      Run (ScannedStep Ram) (clearedCpu.setD 0 7) run ∧ (trackedBounds run).valid 0 = true ∧
        (trackedBounds run).maxEntries 0 = 4 ∧ (trackedBounds run).scaleBytes 0 = 4 ∧
        (g₃.d 0).setWidth 16 = (12 : BitVec 16) ∧
        ∃ k < 4, ((g₃.d 0).setWidth 16).toNat = k * 4 := by
  obtain ⟨g₁, g₂, g₃, hrun, hlow⟩ : ∃ g₁ g₂ g₃, Run (ScannedStep Ram) (clearedCpu.setD 0 7)
      [(andiInstr, g₁), (doubleInstr 4, g₂), (doubleInstr 6, g₃)] ∧
      (g₃.d 0).setWidth 16 = (12 : BitVec 16) :=
    ⟨_, _, _, ⟨⟨⟨scaledIndexRom, 0, by decide +kernel⟩, .inr ⟨onClearedRam _, _, rfl, rfl, rfl⟩⟩,
      ⟨⟨scaledIndexRom, 4, by decide +kernel⟩, .inr ⟨onClearedRam _, _, rfl, rfl, rfl⟩⟩,
      ⟨⟨scaledIndexRom, 6, by decide +kernel⟩, .inr ⟨onClearedRam _, _, rfl, rfl, rfl⟩⟩, trivial⟩,
      rfl⟩
  refine ⟨g₁, g₂, g₃, hrun, rfl, rfl, rfl, hlow, ?_⟩
  refine (indexBound_sound (clearedCpu.setD 0 7) _ hrun ⟨?_, ?_, ?_, trivial⟩).1 0 rfl
  · exact ⟨fun _ _ => rfl, fun _ h => absurd h (by decide), fun _ => rfl⟩
  · exact ⟨by decide, fun h => absurd h (by decide), fun h => absurd h (by decide)⟩
  · exact ⟨by decide, fun h => absurd h (by decide), fun h => absurd h (by decide)⟩

/-- `BSET #2,D0` leaves 4 in a register bounded by 4 entries of one byte. -/
theorem indexBound_misses_bset : Run (ScannedStep Ram) clearedCpu
      [(andiInstr, maskedCpu), (bsetInstr, (maskedCpu.setSr 4).setD 0 4)] ∧
    (trackedBounds [(andiInstr, maskedCpu), (bsetInstr, (maskedCpu.setSr 4).setD 0 4)]).valid 0 =
      true ∧
    ¬∃ k < ((trackedBounds [(andiInstr, maskedCpu),
        (bsetInstr, (maskedCpu.setSr 4).setD 0 4)]).maxEntries 0).toNat,
      ((((maskedCpu.setSr 4).setD 0 4).d 0).setWidth 16).toNat =
        k * ((trackedBounds [(andiInstr, maskedCpu),
          (bsetInstr, (maskedCpu.setSr 4).setD 0 4)]).scaleBytes 0).toNat := by
  refine ⟨⟨andi_scannedStep, ⟨⟨andiBsetRom, 4, by decide +kernel⟩,
    .inr ⟨onClearedRam maskedCpu, _, rfl, rfl, rfl⟩⟩, trivial⟩, rfl, ?_⟩
  rintro ⟨k, hk, hlow⟩
  have hk : k < 4 := hk
  have hlow : 4 = k * 1 := hlow
  omega

end NeoRecomp
