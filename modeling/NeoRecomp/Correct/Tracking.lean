import NeoRecomp.Analyze
import NeoRecomp.Correct.Closed
import NeoRecomp.Correct.Registers
import NeoRecomp.Lib.Tracking
import NeoRecomp.Spec.Ram

/-!
# Static tracking against the code

The meaning of an instruction is the code the emitter prints for it.  A tracker is sound on a
straight-line run when every register it holds valid has the tracked value, whatever the memory is.
-/

namespace NeoRecomp

open Gen Tracking

/-! ## Straight-line steps -/

/-- An instruction the decoder produces. -/
def Decoded (instr : NgM68kInstr) : Prop := ∃ rom pc, ngM68kDecode rom pc = (true, instr)

/-- JSR and BSR. -/
def isCall (instr : NgM68kInstr) : Bool := instr.mnemonic = .jsr || instr.mnemonic = .bsr

section Steps
variable (β : Type) [GeneratedAbi β]

/-- The code of an instruction falls through from one CPU state to another, on some memory. -/
def FallsThrough (instr : NgM68kInstr) (g g' : NgM68kState) : Prop :=
  ∃ m m' : Machine β, m.cpu = g ∧ (emitInstr instr).text m = .next () m' ∧ m'.cpu = g'

/-- One step of a straight-line sequence without calls. -/
def StraightStep (instr : NgM68kInstr) (g g' : NgM68kState) : Prop :=
  Decoded instr ∧ isCall instr = false ∧ FallsThrough β instr g g'

/-- One step along the path the scanner follows: a call comes back with any registers. -/
def ScannedStep (instr : NgM68kInstr) (g g' : NgM68kState) : Prop :=
  Decoded instr ∧ (isCall instr = true ∨ FallsThrough β instr g g')

end Steps

section Frame
variable {β : Type} [GeneratedAbi β] {instr : NgM68kInstr} {g g' : NgM68kState}

/-- Code that falls through belongs to a validated record. -/
theorem FallsThrough.validated (h : FallsThrough β instr g g') (hd : Decoded instr) :
    ngM68kValidate instr = true := by
  obtain ⟨rom, pc, hd⟩ := hd
  refine (ngM68kDecode_accepted hd).resolve_left fun hu => ?_
  obtain ⟨m, m', -, hm, -⟩ := h
  simp only [emitInstr, hu] at hm
  exact (unsupportedFallback_neverNext instr _).exits m () m' hm

theorem FallsThrough.keeps (h : FallsThrough β instr g g') (hd : Decoded instr) {r : Reg}
    (hr : instrWrites instr r = false) : g'.reg r = g.reg r := by
  have hw := emitInstr_writesOnly (β := β) instr (h.validated hd)
  obtain ⟨m, m', rfl, hm, rfl⟩ := h
  exact hw.next m () m' hm r (by simp [hr])

end Frame

/-! ## Address registers -/

/-- Every register the tracker holds valid has the tracked value. -/
def AregSound (t : NgM68kStaticAregState) (g : NgM68kState) : Prop :=
  ∀ r, t.valid r = true → g.a r = t.target r

/-- Address registers an instruction changes without `instr_writes_areg` seeing it. -/
def missesAreg (instr : NgM68kInstr) (r : Fin 8) : Bool :=
  instrWrites instr (.a r) && (instrWritesAreg instr).map regIndex ≠ some r

/-- The step changes no valid register behind the tracker's back, and the index of a
`LEA d8(PC,Xn)`, which the tracker leaves out of the target, is zero. -/
def AregSeen (t : NgM68kStaticAregState) (instr : NgM68kInstr) (g : NgM68kState) : Prop :=
  (∀ r, missesAreg instr r = true → t.valid r = false) ∧
    (instr.mnemonic = .lea → instr.src.mode = .pcIndex → ngFormatIndexExpr instr.src g = 0)

section Areg
variable {β : Type} [GeneratedAbi β] {instr : NgM68kInstr} {g g' : NgM68kState}

theorem eaSimpleRegisterPayload_lt {ea : NgM68kEa} (h : eaSimpleRegisterPayload ea = true) :
    ea.reg < 8 := by
  simp only [eaSimpleRegisterPayload, Bool.and_eq_true, decide_eq_true_eq] at h
  exact h.1.1.1.1.1.1

theorem validateAddressRegOp_lt (h : validateAddressRegOp instr = true) : instr.dst.reg < 8 := by
  unfold validateAddressRegOp at h
  split at h
  · simp only [Bool.and_eq_true, validateAddressRegOpLegacyFields] at h
    exact eaSimpleRegisterPayload_lt h.1.1.2.1.2
  · simp at h

theorem validateQuickOp_lt (h : validateQuickOp instr = true) (hd : instr.dst.mode = .areg) :
    instr.dst.reg < 8 := by
  unfold validateQuickOp at h
  split at h
  · next hext _ _ =>
    simp only [quickAlterableExtLength, hd, extIf] at hext
    split_ifs at hext with hp
    exact eaSimpleRegisterPayload_lt hp
  · simp at h

theorem validateLea_lt (h : validateLea instr = true) : instr.dst.reg < 8 := by
  unfold validateLea at h
  split at h
  · simp only [Bool.and_eq_true, decide_eq_true_eq] at h
    exact h.1.1.1.1.1.1.1.2
  · simp at h

/-- The registers `instr_writes_areg` reports are in range on validated records. -/
theorem instrWritesAreg_lt (hv : ngM68kValidate instr = true) {reg : BitVec 8}
    (h : instrWritesAreg instr = some reg) : reg < 8 := by
  rw [ngM68kValidate, Bool.and_eq_true] at hv
  obtain ⟨-, hv⟩ := hv
  unfold instrWritesAreg at h
  split at h <;> first | (split_ifs at h with hd; cases h) | cases h
  all_goals simp only [‹instr.mnemonic = _›] at hv
  · exact validateLea_lt hv
  · exact validateAddressRegOp_lt hv
  · exact validateAddressRegOp_lt hv
  · exact validateAddressRegOp_lt hv
  · exact validateQuickOp_lt hv hd
  · exact validateQuickOp_lt hv hd

/-- The target field of a constant LEA is the address of its operand. -/
theorem validateLea_target (h : validateLea instr = true) (hs : hasStaticCodeTarget instr = true) :
    instr.target = instr.src.absoluteAddr := by
  unfold validateLea at h
  split at h
  · simp only [Bool.and_eq_true, validateLeaLegacyFields] at h
    have hl := h.1.1.2.2
    unfold hasStaticCodeTarget at hs
    split at hs
    case h_5 => cases hs
    all_goals
      rename_i hmode
      simp only [hmode, Bool.and_eq_true, beq_iff_eq] at hl
      exact hl.1
  · simp at h

/-- The address expression of a constant operand, up to the index of `d8(PC,Xn)`. -/
theorem emitEaAddressValue_static (hs : hasStaticCodeTarget instr = true)
    (hi : instr.src.mode = .pcIndex → ngFormatIndexExpr instr.src g = 0) :
    instr.src.mode ≠ .none ∧
      ∃ e, emitEaAddressValue instr.src = some e ∧ e g = instr.src.absoluteAddr := by
  unfold hasStaticCodeTarget at hs
  unfold emitEaAddressValue
  split at hs
  case h_5 => cases hs
  case h_4 hmode =>
    rw [hmode]
    refine ⟨by decide, _, rfl, ?_⟩
    rw [hi hmode]
    exact BitVec.add_zero _
  all_goals
    rename_i hmode
    rw [hmode]
    exact ⟨by decide, _, rfl, rfl⟩

theorem lea_loads (hm : instr.mnemonic = .lea) (hs : hasStaticCodeTarget instr = true)
    (hv : validateLea instr = true) (h : FallsThrough β instr g g')
    (hi : instr.src.mode = .pcIndex → ngFormatIndexExpr instr.src g = 0) :
    g'.a (regIndex instr.dst.reg) = instr.target := by
  obtain ⟨hne, e, he, hval⟩ := emitEaAddressValue_static hs hi
  obtain ⟨m, m', rfl, hrun, rfl⟩ := h
  simp only [emitInstr, hm, emitLea, if_pos hne, he] at hrun
  cases hrun
  rw [validateLea_target hv hs, ← hval, ← (validateLea_dst hv).2]
  exact Function.update_self ..

theorem movea_loads (hm : instr.mnemonic = .movea) (hsize : instr.size = 4)
    (hd : instr.dst.mode = .areg) (hs : instr.src.mode = .imm) (h : FallsThrough β instr g g') :
    g'.a (regIndex instr.dst.reg) = instr.src.immediate := by
  obtain ⟨m, m', rfl, hrun, rfl⟩ := h
  simp only [emitInstr, hm, emitMoveaGeneric, emitEaRead, hs, hd, hsize, reduceCtorEq, ne_eq,
    not_true_eq_false, or_self, if_false] at hrun
  cases hrun
  refine (Function.update_self ..).trans ?_
  exact BitVec.and_allOnes

/-- What `static_areg_load_target` reports is what the instruction leaves in the register. -/
theorem staticAregLoadTarget_loads {reg : BitVec 8} {target : BitVec 32}
    (hl : staticAregLoadTarget instr = some (reg, target)) (hv : ngM68kValidate instr = true)
    (h : FallsThrough β instr g g')
    (hi : instr.mnemonic = .lea → instr.src.mode = .pcIndex → ngFormatIndexExpr instr.src g = 0) :
    instrWritesAreg instr = some reg ∧ g'.a (regIndex reg) = target := by
  rw [ngM68kValidate, Bool.and_eq_true] at hv
  unfold staticAregLoadTarget at hl
  split_ifs at hl with h1 h2 <;> cases hl
  · obtain ⟨hm, hd, hs⟩ := h1
    simp only [hm] at hv
    exact ⟨by simp [instrWritesAreg, hm, hd], lea_loads hm hs hv.2 h (hi hm)⟩
  · obtain ⟨hm, hsize, hd, hs⟩ := h2
    exact ⟨by simp [instrWritesAreg, hm, hd], movea_loads hm hsize hd hs h⟩

theorem AregSound.step {t : NgM68kStaticAregState} (hsound : AregSound t g)
    (hseen : AregSeen t instr g) (hstep : StraightStep β instr g g') :
    AregSound (ngM68kStaticAregUpdate t instr) g' := by
  obtain ⟨hd, hcall, hfalls⟩ := hstep
  have hv := hfalls.validated hd
  -- A valid register the instruction is not known to write keeps its value.
  have keep : ∀ r, t.valid r = true → (instrWritesAreg instr).map regIndex ≠ some r →
      g'.a r = t.target r := by
    intro r hr hne
    rw [← hsound r hr]
    refine hfalls.keeps hd (r := .a r) (Bool.eq_false_iff.mpr fun hw => ?_)
    have := hseen.1 r (by simp [missesAreg, hw, hne])
    rw [this] at hr
    cases hr
  have hnc : ¬(instr.mnemonic = .jsr ∨ instr.mnemonic = .bsr) := by
    simpa [isCall] using hcall
  unfold ngM68kStaticAregUpdate
  rw [if_neg hnc]
  split
  · next reg target hl =>
    obtain ⟨hw, hval⟩ := staticAregLoadTarget_loads hl hv hfalls hseen.2
    rw [if_pos (instrWritesAreg_lt hv hw)]
    intro r hr
    by_cases hrr : r = regIndex reg
    · subst hrr
      rw [hval]
      exact (Function.update_self (regIndex reg) target t.target).symm
    · simp only [NgM68kStaticAregState.load, Function.update_of_ne hrr] at hr ⊢
      exact keep r hr (by rw [hw]; simpa using Ne.symm hrr)
  · unfold staticAregInvalidate
    split
    · next reg hw =>
      rw [if_pos (instrWritesAreg_lt hv hw)]
      intro r hr
      by_cases hrr : r = regIndex reg
      · subst hrr
        simp [NgM68kStaticAregState.drop] at hr
      · simp only [NgM68kStaticAregState.drop, Function.update_of_ne hrr] at hr ⊢
        exact keep r hr (by rw [hw]; simpa using Ne.symm hrr)
    · next hw => exact fun r hr => keep r hr (by rw [hw]; simp)

/-- The tracked registers after a run from the reset state. -/
def trackedAregs (run : List (NgM68kInstr × NgM68kState)) : NgM68kStaticAregState :=
  track ngM68kStaticAregUpdate ngM68kStaticAregReset run

/-- Along every straight-line run that hides no register change from it, the tracker's valid address
registers hold their targets. -/
theorem staticAreg_sound (g : NgM68kState) (run : List (NgM68kInstr × NgM68kState))
    (hrun : Run (StraightStep β) g run)
    (hseen : EveryStep ngM68kStaticAregUpdate AregSeen ngM68kStaticAregReset g run) (r : Fin 8)
    (hr : (trackedAregs run).valid r = true) : (final g run).a r = (trackedAregs run).target r := by
  have hreset : AregSound ngM68kStaticAregReset g := fun _ h => by cases h
  exact sound_run (fun _ _ _ _ hs hok hst => hs.step hok hst) hreset hrun hseen r hr

end Areg

/-- All registers zero. -/
def clearedCpu : NgM68kState :=
  { d := fun _ => 0, a := fun _ => 0, pc := 0, sr := 0, usp := 0, ssp := 0 }

/-- A CPU state on a cleared memory. -/
def onClearedRam (g : NgM68kState) : Machine Ram :=
  { cpu := g, bus := { bytes := fun _ => 0 }, traceSr := 0, log := [] }

/-- `LEA $1000.L,A0; TST.B (A0)+`. -/
def leaTstRom : NgProgramRom where
  data := #[0x41, 0xF9, 0x00, 0x00, 0x10, 0x00, 0x4A, 0x18]
  size := 8
  size_eq := rfl

def leaInstr : NgM68kInstr :=
  { addr := 0, opcode := 0x41F9, mnemonic := .lea, byteLength := 6, size := 4, target := 0x1000,
    src := { mode := .absL, reg := 1, absoluteAddr := 0x1000 }, dst := { mode := .areg } }

def tstPostInstr : NgM68kInstr :=
  { addr := 6, opcode := 0x4A18, mnemonic := .tst, byteLength := 2, size := 1,
    src := { mode := .apost } }

theorem lea_straightStep : StraightStep Ram leaInstr clearedCpu (clearedCpu.setA 0 0x1000) :=
  ⟨⟨leaTstRom, 0, by decide +kernel⟩, rfl, onClearedRam clearedCpu, _, rfl, rfl, rfl⟩

/-- `LEA $1000.L,A0; MOVEA.L #$2000,A1; TST.B (A2)+; ADDQ.L #2,A0`. -/
def loadedAregsRom : NgProgramRom where
  data := #[0x41, 0xF9, 0x00, 0x00, 0x10, 0x00, 0x22, 0x7C, 0x00, 0x00, 0x20, 0x00, 0x4A, 0x1A,
    0x54, 0x88]
  size := 16
  size_eq := rfl

def moveaInstr : NgM68kInstr :=
  { addr := 6, opcode := 0x227C, mnemonic := .movea, byteLength := 6, reg := 1, size := 4,
    src := { mode := .imm, reg := 4, immediate := 0x2000 }, dst := { mode := .areg, reg := 1 } }

def tstUntrackedInstr : NgM68kInstr :=
  { addr := 12, opcode := 0x4A1A, mnemonic := .tst, byteLength := 2, size := 1,
    src := { mode := .apost, reg := 2 } }

def addqInstr : NgM68kInstr :=
  { addr := 14, opcode := 0x5488, mnemonic := .addq, byteLength := 2, size := 4, immediate := 2,
    dst := { mode := .areg } }

/-- A0 is loaded and then stepped, A2 is stepped untracked; A1 alone is still known. -/
theorem staticAreg_sound_lea :
    ∃ g₁ g₂ g₃ g₄, let run := [(leaInstr, g₁), (moveaInstr, g₂), (tstUntrackedInstr, g₃),
        (addqInstr, g₄)]
      Run (StraightStep Ram) clearedCpu run ∧ (trackedAregs run).valid 0 = false ∧
        (trackedAregs run).valid 1 = true ∧ g₄.a 1 = 0x2000 := by
  obtain ⟨g₁, g₂, g₃, g₄, hrun⟩ : ∃ g₁ g₂ g₃ g₄, Run (StraightStep Ram) clearedCpu
      [(leaInstr, g₁), (moveaInstr, g₂), (tstUntrackedInstr, g₃), (addqInstr, g₄)] :=
    ⟨_, _, _, _, ⟨⟨loadedAregsRom, 0, by decide +kernel⟩, rfl, onClearedRam _, _, rfl, rfl, rfl⟩,
      ⟨⟨loadedAregsRom, 6, by decide +kernel⟩, rfl, onClearedRam _, _, rfl, rfl, rfl⟩,
      ⟨⟨loadedAregsRom, 12, by decide +kernel⟩, rfl, onClearedRam _, _, rfl, rfl, rfl⟩,
      ⟨⟨loadedAregsRom, 14, by decide +kernel⟩, rfl, onClearedRam _, _, rfl, rfl, rfl⟩, trivial⟩
  refine ⟨g₁, g₂, g₃, g₄, hrun, rfl, rfl, ?_⟩
  refine staticAreg_sound clearedCpu _ hrun ⟨?_, ?_, ?_, ?_, trivial⟩ 1 rfl
  · exact ⟨fun _ _ => rfl, fun _ h => by cases h⟩
  · exact ⟨by decide, fun h => by cases h⟩
  · exact ⟨by decide, fun h => by cases h⟩
  · exact ⟨by decide, fun h => by cases h⟩

/-- `TST.B (A0)+` moves A0 past the tracked value. -/
theorem staticAreg_misses_postincrement :
    ∃ g, Run (StraightStep Ram) clearedCpu [(leaInstr, clearedCpu.setA 0 0x1000),
        (tstPostInstr, g)] ∧
      (trackedAregs [(leaInstr, clearedCpu.setA 0 0x1000), (tstPostInstr, g)]).valid 0 = true ∧
      g.a 0 = 0x1001 ∧
      (trackedAregs [(leaInstr, clearedCpu.setA 0 0x1000), (tstPostInstr, g)]).target 0 = 0x1000 :=
  ⟨_, ⟨lea_straightStep, ⟨⟨leaTstRom, 6, by decide +kernel⟩, rfl,
    onClearedRam (clearedCpu.setA 0 0x1000), _, rfl, rfl, rfl⟩, trivial⟩, rfl, rfl, rfl⟩

end NeoRecomp
