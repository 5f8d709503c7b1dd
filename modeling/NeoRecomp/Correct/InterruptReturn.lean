import NeoRecomp.Correct.CallTrees
import NeoRecomp.Correct.Interrupts

/-!
# Interrupts between two instructions

In front of every instruction emitted code asks the runtime for an interrupt.  One that is taken
puts a frame on the supervisor stack and leaves for the handler; whatever the handler calls and
saves, its RTE dispatches back to the instruction that did not run, with every register, the status
register and both stack pointers as they were.
-/

namespace NeoRecomp

open Gen NeogeoRuntime

/-! ## Exception vectors -/

/-- The byte at an offset below `0x80`: the BIOS can put its own vectors there. -/
def NeogeoRuntime.vectorByte (rt : NeogeoRuntime) (offset : Nat) : BitVec 8 :=
  if rt.biosVectorsEnabled ≠ 0 then rt.systemByte offset else rt.programByte offset

/-- The address a vector names. -/
def NeogeoRuntime.exceptionVector (rt : NeogeoRuntime) (vector : BitVec 8) : BitVec 32 :=
  let offset := 4 * vector.toNat
  (rt.vectorByte offset ++ rt.vectorByte (offset + 1)) ++
    (rt.vectorByte (offset + 2) ++ rt.vectorByte (offset + 3))

section Vectors
variable {rt rt' : NeogeoRuntime} {h : SmokeHost}

theorem read8_vector {addr : BitVec 32} (hv : addr.toNat ≤ 0x7F) :
    ng68kRead8 rt.bus addr = (rt.vectorByte addr.toNat, rt.bus) := by
  have hmask : (addr &&& 0x00FFFFFF).toNat = addr.toNat := by
    rw [toNat_and_mask24]
    omega
  unfold ng68kRead8 vectorByte
  dsimp only
  rw [hmask]
  by_cases hb : rt.biosVectorsEnabled = 0
  · rw [if_neg, if_pos (by omega), if_neg (not_not.mpr hb)]
    · rfl
    · simp [bus, hb]
  · rw [if_pos, if_pos hb]
    · rfl
    · exact ⟨bne_iff_ne.mpr hb, hv⟩

theorem read_vector {vector : BitVec 8} (hv : vector.toNat < 32) :
    abiRead 4 (vector.setWidth 32 * 4) h = (h.runtime.exceptionVector vector, h) := by
  have hat (k : Nat) (hk : k < 4) :
      (vector.setWidth 32 * 4 + BitVec.ofNat 32 k).toNat = 4 * vector.toNat + k := by
    rw [BitVec.toNat_add, BitVec.toNat_mul, BitVec.toNat_setWidth, BitVec.toNat_ofNat]
    change ((vector.toNat % 2 ^ 32) * 4 % 2 ^ 32 + k % 2 ^ 32) % 2 ^ 32 = _
    omega
  have hbyte (k : Nat) (hk : k < 4) :
      ng68kRead8 h.runtime.bus (vector.setWidth 32 * 4 + BitVec.ofNat 32 k) =
        (h.runtime.vectorByte (4 * vector.toNat + k), h.runtime.bus) := by
    rw [read8_vector (by rw [hat k hk]; omega), hat k hk]
  have h0 := hbyte 0 (by decide)
  have h1 := hbyte 1 (by decide)
  have h2 := hbyte 2 (by decide)
  have h3 := hbyte 3 (by decide)
  have hlast (a : BitVec 32) :
      a + BitVec.ofNat 32 2 + BitVec.ofNat 32 1 = a + BitVec.ofNat 32 3 := by
    rw [BitVec.add_assoc]
    rfl
  have hlong : ng68kRead32 h.runtime.bus (vector.setWidth 32 * 4) =
      (h.runtime.exceptionVector vector, h.runtime.bus) := by
    unfold ng68kRead32 ng68kRead16
    rw [BitVec.add_zero] at h0
    simp only [show (1 : BitVec 32) = BitVec.ofNat 32 1 from rfl,
      show (2 : BitVec 32) = BitVec.ofNat 32 2 from rfl, hlast, h0, h1, h2, h3]
    rfl
  have hread : SmokeHost.access ng68kRead32 (vector.setWidth 32 * 4) h =
      (h.runtime.exceptionVector vector, h) := access_eq hlong
  show ((SmokeHost.access ng68kRead32 (vector.setWidth 32 * 4) h).1.setWidth 32,
    (SmokeHost.access ng68kRead32 (vector.setWidth 32 * 4) h).2) = _
  rw [hread, BitVec.setWidth_eq]

/-- The vectors depend on the ROMs and on the latch that chooses between them. -/
theorem exceptionVector_congr (hrom : rt'.toRomState = rt.toRomState)
    (hlatch : rt'.biosVectorsEnabled = rt.biosVectorsEnabled) (vector : BitVec 8) :
    rt'.exceptionVector vector = rt.exceptionVector vector := by
  have hp : rt'.programRom = rt.programRom := congrArg RomState.programRom hrom
  have hps : rt'.programRomSize = rt.programRomSize := congrArg RomState.programRomSize hrom
  have hs : rt'.systemRom = rt.systemRom := congrArg RomState.systemRom hrom
  have hss : rt'.systemRomSize = rt.systemRomSize := congrArg RomState.systemRomSize hrom
  unfold exceptionVector vectorByte systemByte programByte
  rw [hp, hps, hs, hss, hlatch]

/-- What is written to work RAM reaches neither. -/
theorem abiWrite_vectors {size : BitVec 8} {addr : BitVec 32}
    (hin : OperandIn workRamArea size addr) (v : BitVec (ngSizeBits size)) (vector : BitVec 8) :
    (abiWrite size addr v h).runtime.exceptionVector vector = h.runtime.exceptionVector vector := by
  have hfar {n : Nat} (hinside : Inside n addr .workRam) : ¬ Reaches n addr .systemLatch := by
    rintro ⟨k, hk, hlatch⟩
    rw [hinside k hk] at hlatch
    cases hlatch
  have hframe {n : Nat} {rt' : NeogeoRuntime} (hinside : Inside n addr .workRam)
      (hc : ChangesOnly (Reaches n addr) h.runtime rt') :
      rt'.exceptionVector vector = h.runtime.exceptionVector vector :=
    have hlatch := congrArg LatchState.biosVectorsEnabled (hc.latches (hfar hinside))
    exceptionVector_congr hc.rom hlatch vector
  have hinside := inside_of_operandIn hin
  unfold abiWrite
  unfold sizeBytes at hinside
  split_ifs at hinside ⊢ with h4 h1
  · exact hframe hinside (write32_changesOnly addr _)
  · exact hframe hinside (write8_changesOnly addr _)
  · exact hframe hinside (write16_changesOnly addr _)

end Vectors

/-! ## The boundary -/

/-- The interrupt mask in the status register. -/
def srMask (sr : BitVec 16) : BitVec 8 := ((sr >>> 8) &&& 7).setWidth 8

/-- The runtime once an instruction at `addr` has asked it for an interrupt. -/
def SmokeHost.polledAt (addr : BitVec 32) (h : SmokeHost) : NeogeoRuntime :=
  (h.ngGeneratedInstructionHook addr).runtime.pollInterrupts

/-- The instruction at `addr` gives way to an interrupt: the harness does not stop there, the
watchdog has not expired, and the pending sources stand for a level above the mask. -/
structure SmokeHost.Interrupted (addr : BitVec 32) (sr : BitVec 16) (level vector : BitVec 8)
    (h : SmokeHost) : Prop where
  runs : ((h.ngGeneratedInstructionHook addr).ngGeneratedShouldYield addr).1 = false
  noReset : h.runtime.watchdogResetPending = 0
  noTimeout : (h.polledAt addr).watchdogResetPending = 0
  line : (level, vector) = interruptLine (h.polledAt addr).irqPending
  unmasked : srMask sr < level

section Boundary
variable {h : SmokeHost} {m : Machine SmokeHost} {addr : BitVec 32} {level vector : BitVec 8}

theorem takeReset_none (h0 : h.runtime.watchdogResetPending = 0) : h.takeReset = (none, h) := by
  unfold SmokeHost.takeReset ngM68kTakeReset
  rw [if_pos h0]
  rfl

theorem ngServiceReset_none (h0 : m.bus.runtime.watchdogResetPending = 0) :
    ngServiceReset m = .next false m := by
  have hcall : (call GeneratedAbi.takeReset : Gen SmokeHost _) m = .next none m := by
    show Outcome.next m.bus.takeReset.1 { m with bus := m.bus.takeReset.2 } = _
    rw [takeReset_none h0]
  unfold ngServiceReset
  rw [bind_of_next hcall]
  rfl

theorem takeInterrupt_watchdog (rt : NeogeoRuntime) (mask : BitVec 8) (out : Bool) :
    (rt.ngM68kTakeInterrupt mask out).2.watchdogResetPending =
      rt.pollInterrupts.watchdogResetPending := by
  unfold ngM68kTakeInterrupt
  dsimp only
  split
  · rfl
  · split
    · rfl
    · split <;> rfl

/-- The vectors of the three sources. -/
theorem interruptLine_vector_lt {pending : BitVec 16}
    (hl : (level, vector) = interruptLine pending) : vector.toNat < 32 := by
  unfold interruptLine at hl
  split_ifs at hl <;> cases hl <;> decide

/-- From `m` to `m'` an interrupt frame went onto the supervisor stack. -/
structure InterruptFrame (returnPc : BitVec 32) (level : BitVec 8) (m m' : Machine SmokeHost) :
    Prop where
  d : m'.cpu.d = m.cpu.d
  a : ∀ r, r ≠ 7 → m'.cpu.a r = m.cpu.a r
  sr : m'.cpu.sr = (ExceptionEntry.interrupt returnPc level).nextSr m.cpu.sr
  userSp : userSp m'.cpu = userSp m.cpu
  supervisorSp : supervisorSp m'.cpu = supervisorSp m.cpu - 6
  savedSr : HoldsAt SmokeHost.workRamByte m'.bus 2 (NeoRecomp.supervisorSp m.cpu - 6) m.cpu.sr
  savedPc : HoldsAt SmokeHost.workRamByte m'.bus 4 (NeoRecomp.supervisorSp m.cpu - 4)
    (addr24 returnPc)
  keep : ∀ x ∈ workRamArea, x ∉ frameBytes (NeoRecomp.supervisorSp m.cpu) 1 →
    m'.bus.workRamByte x = m.bus.workRamByte x

/-- The service of an interrupt the runtime hands over. -/
theorem ngServiceInterrupt_taken (pc : BitVec 32) {b : SmokeHost}
    (hreset : m.bus.runtime.watchdogResetPending = 0)
    (htake : m.bus.takeInterrupt (srMask m.cpu.sr) = (some (level, vector), b))
    (hb : b.runtime.watchdogResetPending = 0) (hvector : vector.toNat < 32)
    (hram : b.workRamByte = m.bus.workRamByte)
    (hrom : b.runtime.exceptionVector vector = m.bus.runtime.exceptionVector vector)
    (hin : frameBytes (supervisorSp m.cpu) 1 ⊆ workRamArea) :
    ∃ m', ngServiceInterrupt pc m = .next true m' ∧ InterruptFrame pc level m m' ∧
      dispatches m'.log =
        dispatches m.log ++ [addr24 (m.bus.runtime.exceptionVector vector)] := by
  obtain ⟨m₁, hpush, hd, ha, hsr, husp, hssp, hbus, hlog⟩ :=
    (ExceptionEntry.interrupt pc level).push_apply { m with bus := b }
  have hframe := push_bus SmokeHost.workRam_ramArea (n := 0) (by decide) hin m.cpu.sr
    (addr24 pc) b
  obtain ⟨h2, h4⟩ := frame_in_area (n := 0) (by decide) hin
  have hread : abiRead 4 (vector.setWidth 32 * 4) m₁.bus =
      (m.bus.runtime.exceptionVector vector, m₁.bus) := by
    rw [read_vector hvector, hbus]
    refine Prod.ext ?_ rfl
    exact (abiWrite_vectors h2 _ _).trans ((abiWrite_vectors h4 _ _).trans hrom)
  have hcall : (call (GeneratedAbi.takeInterrupt (srMask m.cpu.sr)) : Gen SmokeHost _) m =
      .next (some (level, vector)) { m with bus := b } := by
    show Outcome.next (m.bus.takeInterrupt (srMask m.cpu.sr)).1
      { m with bus := (m.bus.takeInterrupt (srMask m.cpu.sr)).2 } = _
    rw [htake]
  have hpush' : ngPushInterruptFrame pc level { m with bus := b } = .next () m₁ := hpush
  refine ⟨{ m₁ with
    log := m₁.log ++ [.read 4 (vector.setWidth 32 * 4)] ++
      [.dispatch (addr24 (m.bus.runtime.exceptionVector vector))] }, ?_, ?_, ?_⟩
  · unfold ngServiceInterrupt
    rw [bind_of_next (getCpu_apply m), bind_of_next (ngServiceReset_none hreset)]
    simp only [Bool.false_eq_true, if_false]
    have hmask : (((m.cpu.sr >>> 8) &&& 7).setWidth 8 : BitVec 8) = srMask m.cpu.sr := rfl
    rw [hmask, bind_of_next hcall, bind_of_next (ngServiceReset_none hb)]
    simp only [Bool.false_eq_true, if_false]
    rw [bind_of_next hpush']
    simp only [bind_apply, read32_apply, hread]
    rfl
  · refine ⟨hd, ha, hsr, husp, hssp, ?_, ?_, ?_⟩
    · show HoldsAt _ m₁.bus 2 _ _
      rw [hbus]
      exact hframe.1
    · show HoldsAt _ m₁.bus 4 _ _
      rw [hbus]
      exact hframe.2.1
    · intro x hx hout
      show m₁.bus.workRamByte x = _
      rw [hbus, ← hram]
      exact hframe.2.2 x hx hout
  · rw [← show dispatches m₁.log = dispatches m.log from hlog]
    simp [dispatches]

/-- An instruction gives way: what it printed so far ends in the `return`. -/
theorem instrPrologue_interrupted (cycles : NgM68kInstr → BitVec 8) (instr : NgM68kInstr)
    (hline : m.bus.runtime.LineOk)
    (hi : m.bus.Interrupted (addr24 instr.addr) m.cpu.sr level vector)
    (hin : frameBytes (supervisorSp m.cpu) 1 ⊆ workRamArea) :
    ∃ m', instrPrologue cycles instr m = .exit .ret m' ∧
      InterruptFrame (addr24 instr.addr) level m m' ∧ dispatches m'.log =
        dispatches m.log ++ [addr24 (m.bus.runtime.exceptionVector vector)] := by
  obtain ⟨b, hb⟩ : ∃ b, b = ((m.bus.ngGeneratedInstructionHook
      (addr24 instr.addr)).ngGeneratedShouldYield (addr24 instr.addr)).2 := ⟨_, rfl⟩
  have hyield : (m.bus.ngGeneratedInstructionHook (addr24 instr.addr)).ngGeneratedShouldYield
      (addr24 instr.addr) = (false, b) := Prod.ext hi.runs hb.symm
  have hruntime : b.runtime = (m.bus.ngGeneratedInstructionHook (addr24 instr.addr)).runtime := by
    rw [hb]
    rfl
  have hpolled : b.runtime.pollInterrupts = m.bus.polledAt (addr24 instr.addr) :=
    congrArg _ hruntime
  have hok : b.runtime.pollInterrupts.LineOk := by
    apply b.runtime.pollInterrupts_lineStep.line
    rw [hruntime]
    exact hline
  have hlevel : (b.runtime.pollInterrupts.interruptLevel,
      b.runtime.pollInterrupts.interruptVector) = (level, vector) := by
    rw [hi.line, ← hpolled]
    exact hok
  have hmask : srMask m.cpu.sr &&& 7 = srMask m.cpu.sr := by
    unfold srMask
    rw [BitVec.setWidth_and, BitVec.and_assoc]
    rfl
  have htake : (b.runtime.ngM68kTakeInterrupt (srMask m.cpu.sr) true).1 = some (level, vector) := by
    rw [takeInterrupt_result hok, hmask, hlevel, if_pos]
    rw [show b.runtime.pollInterrupts.interruptLevel = level from congrArg Prod.fst hlevel]
    exact hi.unmasked
  have hclock := b.runtime.takeInterrupt_clockOnly (srMask m.cpu.sr) true
  obtain ⟨m', hrun, hframe, hlog⟩ := @ngServiceInterrupt_taken
    { m with cpu := m.cpu.setPc (addr24 instr.addr), bus := b } level vector (addr24 instr.addr)
    { b with runtime := (b.runtime.ngM68kTakeInterrupt (srMask m.cpu.sr) true).2 }
    (by rw [hruntime]; exact hi.noReset) (Prod.ext htake rfl)
    (by rw [takeInterrupt_watchdog, hpolled]; exact hi.noTimeout) (interruptLine_vector_lt hi.line)
    (by
      funext x
      show (b.runtime.ngM68kTakeInterrupt (srMask m.cpu.sr) true).2.workRam _ = _
      rw [hclock]
      rfl)
    (exceptionVector_congr (by rw [hclock]) (by rw [hclock]) vector) hin
  have hcells : b.workRamByte = m.bus.workRamByte := by
    funext x
    show b.runtime.workRam _ = _
    rw [hruntime]
    rfl
  have hvector : b.runtime.exceptionVector vector = m.bus.runtime.exceptionVector vector := by
    rw [hruntime]
    rfl
  have hstop : (do
      if ← call (GeneratedAbi.shouldYield (addr24 instr.addr)) then ret
      if ← ngServiceInterrupt (addr24 instr.addr) then ret
      call fun b => ((), GeneratedAbi.cycleHook (addr24 instr.addr) ((cycles instr).setWidth 32) b)
      sampleTraceSr : Gen SmokeHost Unit)
      { m with
        cpu := m.cpu.setPc (addr24 instr.addr)
        bus := m.bus.ngGeneratedInstructionHook (addr24 instr.addr) } = .exit .ret m' := by
    have hasked : (call (GeneratedAbi.shouldYield (addr24 instr.addr)) : Gen SmokeHost Bool)
        { m with
          cpu := m.cpu.setPc (addr24 instr.addr)
          bus := m.bus.ngGeneratedInstructionHook (addr24 instr.addr) } =
        .next false { m with cpu := m.cpu.setPc (addr24 instr.addr), bus := b } :=
      congrArg (fun r : Bool × SmokeHost => Outcome.next r.1
        { m with cpu := m.cpu.setPc (addr24 instr.addr), bus := r.2 }) hyield
    rw [bind_of_next hasked]
    simp only [Bool.false_eq_true, if_false]
    rw [bind_of_next hrun]
    rfl
  refine ⟨m', hstop, ⟨hframe.d, hframe.a, hframe.sr, hframe.userSp, hframe.supervisorSp,
    hframe.savedSr, hframe.savedPc, fun x hx hout => ?_⟩, ?_⟩
  · rw [hframe.keep x hx hout]
    exact congrFun hcells x
  · rw [hlog]
    show _ ++ [addr24 (b.runtime.exceptionVector vector)] = _
    rw [hvector]

/-- The new mask is the level of the interrupt. -/
theorem srMask_nextSr (pc : BitVec 32) (sr : BitVec 16) {pending : BitVec 16}
    (hl : (level, vector) = interruptLine pending) :
    srMask ((ExceptionEntry.interrupt pc level).nextSr sr) = level := by
  have hmask (lvl : BitVec 8) :
      srMask ((ExceptionEntry.interrupt pc lvl).nextSr sr) = lvl &&& 7 := by
    unfold srMask ExceptionEntry.nextSr
    apply BitVec.eq_of_getLsbD_eq
    intro i hi
    simp only [ngSrS, ngSrT, BitVec.getLsbD_setWidth, BitVec.getLsbD_and,
      BitVec.getLsbD_ushiftRight, BitVec.getLsbD_or, BitVec.getLsbD_not, BitVec.getLsbD_shiftLeft]
    interval_cases i <;> simp
  rw [hmask]
  unfold interruptLine at hl
  split_ifs at hl <;> cases hl <;> decide

end Boundary

/-! ## The return -/

section Return
variable {sp : BitVec 32} {n k : Nat}

theorem savedSr_used (hn : n + 6 ≤ 2 ^ 32) (hk : k < 2) :
    byteAddr (sp - 6) k ∈ bytesFrom (sp - 6) (n + 6) := by
  simp only [bytesFrom, byteAddr, Set.mem_ofPred_eq]
  interval_cases k <;> bv_omega

theorem savedPc_used (hn : n + 6 ≤ 2 ^ 32) (hk : k < 4) :
    byteAddr (sp - 4) k ∈ bytesFrom (sp - 6) (n + 6) := by
  simp only [bytesFrom, byteAddr, Set.mem_ofPred_eq]
  interval_cases k <;> bv_omega

theorem used_outside_frame (hn : n + 6 ≤ 2 ^ 32) {x : BitVec 32} (hx : x ∈ bytesFrom sp n) :
    x ∉ frameBytes sp 1 ∧ x ∈ bytesFrom (sp - 6) (n + 6) := by
  simp only [frameBytes, bytesFrom, Set.mem_ofPred_eq] at hx ⊢
  constructor <;> bv_omega

end Return

/-- An interrupt leaves no trace in the registers.  Behind the frame any handler that keeps the
registers (saving what it uses) and the stack in use can run, its own calls and frames nested; its
RTE dispatches to the instruction that gave way, with the registers of before. -/
theorem SmokeHost.interrupt_returns (cycles : NgM68kInstr → BitVec 8) (instr rte : NgM68kInstr)
    (handler : CallTree SmokeHost) (n : Nat) (m : Machine SmokeHost) {level vector : BitVec 8}
    (hrte : rte.mnemonic = .rte) (hline : m.bus.runtime.LineOk)
    (hi : m.bus.Interrupted (addr24 instr.addr) m.cpu.sr level vector)
    (ht : handler.Nests workRamArea SmokeHost.workRamByte Set.univ (supervisorSp m.cpu - 6) (n + 6))
    (hlo : 0x100000 + (6 + handler.room) ≤ (supervisorSp m.cpu).toNat)
    (hhi : (supervisorSp m.cpu).toNat + n ≤ 0x110000) :
    ∃ m₁ m₂ ds, instrPrologue cycles instr m = .exit .ret m₁ ∧
      (do handler.run; runReturn rte) m₁ = .next () m₂ ∧
      InterruptFrame (addr24 instr.addr) level m m₁ ∧
      srHas m₁.cpu.sr ngSrS = true ∧ srMask m₁.cpu.sr = level ∧
      SameRegisters m.cpu m₂.cpu ∧
      (∀ x ∈ workRamArea, x ∈ bytesFrom (supervisorSp m.cpu) n →
        m₂.bus.workRamByte x = m.bus.workRamByte x) ∧
      handler.Dispatches ds ∧ dispatches m₂.log = dispatches m.log ++
        addr24 (m.bus.runtime.exceptionVector vector) :: (ds ++ [addr24 instr.addr]) := by
  have hin : frameBytes (supervisorSp m.cpu) 1 ⊆ workRamArea :=
    bytesBelow_workRam (by omega) (by omega)
  obtain ⟨h2, h4⟩ := frame_in_area (n := 0) (by decide) hin
  obtain ⟨m₁, hentry, hf, hlog⟩ := instrPrologue_interrupted cycles instr hline hi hin
  obtain ⟨hS, hT⟩ := (ExceptionEntry.interrupt (addr24 instr.addr) level).srHas_nextSr m.cpu.sr
  rw [← hf.sr] at hS hT
  have hsp : m₁.cpu.a 7 = supervisorSp m.cpu - 6 := by
    rw [← hf.supervisorSp, supervisorSp, if_pos hS]
  have hsix : (supervisorSp m.cpu - 6).toNat = (supervisorSp m.cpu).toNat - 6 := by bv_omega
  obtain ⟨m₂, ds, hrun, hds, hbal, hlog₂⟩ := SmokeHost.callTree_returns handler Set.univ (n + 6) m₁
    (by rw [hsp]; exact ht) hT (by rw [hsp]; omega) (by rw [hsp]; omega)
  have hS₂ : srHas m₂.cpu.sr ngSrS = true := hbal.mode.trans hS
  have hssp₂ : supervisorSp m₂.cpu = supervisorSp m.cpu - 6 := by
    rw [supervisorSp, if_pos hS₂, hbal.sp, hsp]
  have hup : supervisorSp m.cpu - 6 + 2 = supervisorSp m.cpu - 4 := by bv_omega
  have hroom : n + 6 ≤ 2 ^ 32 := by omega
  -- the handler kept the frame
  have hsr : HoldsAt SmokeHost.workRamByte m₂.bus 2 (supervisorSp m.cpu - 6) m.cpu.sr := by
    intro k hk
    rw [hbal.stack _ (h2 k hk) (by rw [hsp]; exact savedSr_used hroom hk), hf.savedSr k hk]
  have hpc : HoldsAt SmokeHost.workRamByte m₂.bus 4 (supervisorSp m.cpu - 4)
      (addr24 instr.addr) := by
    intro k hk
    rw [hbal.stack _ (h4 k hk) (by rw [hsp]; exact savedPc_used hroom hk), hf.savedPc k hk,
      addr24_addr24]
  have ram := SmokeHost.workRam_ramArea
  obtain ⟨m₃, hback, hd, ha, hsr₃, husp, hssp, hbus, hlog₃⟩ := runReturn_apply hrte hS₂
    hbal.untraced m.cpu.sr (addr24 instr.addr) (by rw [hssp₂]; exact ram.read_of_holds h2 hsr)
    (by
      rw [hssp₂, hup]
      exact ram.read_of_holds h4 (ram.holds_after_read h2 h4 hpc))
  refine ⟨m₁, m₃, ds, hentry, by rw [bind_of_next hrun, hback], hf, hS, ?_,
    ⟨?_, fun r hr => ?_, hsr₃, ?_, ?_⟩, fun x hx hused => ?_, hds, ?_⟩
  · rw [hf.sr]
    exact srMask_nextSr _ _ hi.line
  · rw [hd, ← hf.d]
    funext r
    exact hbal.regs (.d r) trivial (by simp)
  · rw [ha r hr, ← hf.a r hr]
    exact hbal.regs (.a r) trivial (by simpa using hr)
  · rw [husp, ← hf.userSp, userSp, userSp, if_pos hS₂, if_pos hS, hbal.usp]
  · rw [hssp, hssp₂, BitVec.sub_add_cancel]
  · obtain ⟨hout, hused'⟩ := used_outside_frame hroom hused
    rw [hbus, hssp₂, hup, ram.read_keep 4 _ _ h4 x hx, ram.read_keep 2 _ _ h2 x hx,
      hbal.stack x hx (by rw [hsp]; exact hused'), hf.keep x hx hout]
  · rw [hlog₃, hlog₂, hlog, addr24_addr24]
    simp

/-- `MOVEM.L D0-D7/A0-A6,-(A7)` and `MOVEM.L (A7)+,D0-D7/A0-A6`. -/
def pushAll : NgM68kInstr :=
  { addr := 0x4000, opcode := 0x48E7, mnemonic := .movem, byteLength := 4, size := 4,
    immediate := 0xFFFE, dst := { mode := .apre, reg := 7 } }

def popAll : NgM68kInstr :=
  { addr := 0x4006, opcode := 0x4CDF, mnemonic := .movem, byteLength := 4, size := 4,
    immediate := 0x7FFF, src := { mode := .apost, reg := 7 } }

/-- A vblank is pending while the mask is zero. -/
def vblankHost : Machine SmokeHost where
  cpu := { stackedHost.cpu with sr := 0x2000 }
  bus := { runtime := { NeogeoRuntime.initial with
    irqPending := 4, interruptLevel := 1, interruptVector := 25 } }
  traceSr := 0
  log := []

theorem SmokeHost.interrupt_returns_vblank :
    ∃ m₁ m₂ ds,
      instrPrologue (fun _ => 4) { addr := 0x1000, mnemonic := .nop, byteLength := 2 } vblankHost =
        .exit .ret m₁ ∧
      (do
        CallTree.run (.saved pushAll (.code (emitInstr clearD7).text) popAll)
        runReturn { addr := 0x400A, mnemonic := .rte, byteLength := 2 }) m₁ = .next () m₂ ∧
      InterruptFrame (addr24 0x1000) 1 vblankHost m₁ ∧
      srHas m₁.cpu.sr ngSrS = true ∧ srMask m₁.cpu.sr = 1 ∧
      SameRegisters vblankHost.cpu m₂.cpu ∧
      (∀ x ∈ workRamArea, x ∈ bytesFrom (supervisorSp vblankHost.cpu) 0x100 →
        m₂.bus.workRamByte x = vblankHost.bus.workRamByte x) ∧
      CallTree.Dispatches (.saved pushAll (.code (emitInstr clearD7).text) popAll :
        CallTree SmokeHost) ds ∧
      dispatches m₂.log = dispatches vblankHost.log ++
        addr24 (vblankHost.bus.runtime.exceptionVector 25) :: (ds ++ [addr24 0x1000]) := by
  refine SmokeHost.interrupt_returns (fun _ => 4)
    { addr := 0x1000, mnemonic := .nop, byteLength := 2 } _
    (.saved pushAll (.code (emitInstr clearD7).text) popAll) 0x100 vblankHost rfl ?_
    ⟨?_, ?_, ?_, ?_, ?_⟩
    ⟨⟨rfl, rfl, rfl, rfl, rfl, rfl, rfl, rfl, ?_⟩, rfl, clearD7_nests ?_ _ _⟩ ?_ ?_
  case refine_1 => exact show (_, _) = interruptLine 4 by decide
  case refine_8 =>
    have hregs : (CallTree.savedRegs popAll).map movemRegOf =
        (List.finRange 8).map .d ++ (List.finRange 7).map fun r => .a r.castSucc := by decide
    rw [hregs]
    simp
  all_goals decide

end NeoRecomp
