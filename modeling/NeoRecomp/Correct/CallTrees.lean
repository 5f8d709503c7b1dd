import NeoRecomp.Correct.Exceptions
import NeoRecomp.Correct.Faults
import NeoRecomp.Correct.HostRam
import NeoRecomp.Correct.HostRuns
import NeoRecomp.Correct.MovemPair
import NeoRecomp.Emit.Writes

/-!
# Calls, stack frames and saved registers nest

Emitted code has no call stack of its own: a JSR or BSR pushes its return address into guest memory
and goes back to the dispatcher, and so does the RTS that pops it.  Whatever is called in between,
each RTS dispatches to the instruction behind its own call, each UNLK gives back the register its
LINK saved and each MOVEM from the stack those that the MOVEM before it saved, as long as the code
on the way keeps the stack above its stack pointer.
-/

namespace NeoRecomp

open Gen

variable {β : Type} [GeneratedAbi β]

/-! ## Trees of calls -/

/-- Code with properly nested calls, frames and saves.  The leaves are any emitted code. -/
inductive CallTree (β : Type)
  | code (text : Gen β Unit)
  | seq (first second : CallTree β)
  | call (jump : NgM68kInstr) (body : CallTree β) (back : NgM68kInstr)
  | frame (link : NgM68kInstr) (body : CallTree β) (unlink : NgM68kInstr)
  | saved (save : NgM68kInstr) (body : CallTree β) (load : NgM68kInstr)

namespace CallTree

/-- The text of an instruction from the sampling of `ng_trace_sr` on. -/
def runThrough (instr : NgM68kInstr) : Gen β Unit := do
  sampleTraceSr
  (emitInstr instr).text

/-- A run of the tree.  The `return` of a call and of RTS goes to the dispatcher, which runs what
was dispatched. -/
def run : CallTree β → Gen β Unit
  | .code text => text
  | .seq first second => do
      first.run
      second.run
  | .call jump body back => do
      runReturn jump
      body.run
      runReturn back
  | .frame link body unlink => do
      runThrough link
      body.run
      runThrough unlink
  | .saved save body load => do
      runThrough save
      body.run
      runThrough load

/-- The bytes LINK reserves, for a displacement that is not positive. -/
def localBytes (link : NgM68kInstr) : Nat := (-link.displacement.toInt).toNat

/-- The registers a MOVEM loads, in its order. -/
def savedRegs (load : NgM68kInstr) : List Nat := movemBits (load.immediate.setWidth 16)

/-- The stack bytes calls, frames and saves take below the stack pointer. -/
def room : CallTree β → Nat
  | .code _ => 0
  | .seq first second => max first.room second.room
  | .call _ body _ => 4 + body.room
  | .frame link body _ => 4 + localBytes link + body.room
  | .saved _ body load => 4 * (savedRegs load).length + body.room

end CallTree

/-! ## Stack discipline -/

/-- The `n` bytes from an address on. -/
def bytesFrom (addr : BitVec 32) (n : Nat) : Set (BitVec 32) := { x | (x - addr).toNat < n }

/-- From `m` to `m'` the stack pointer, the registers in `keep` and the `n` bytes on top of the
stack came back, the mode is the same and tracing is off. -/
structure Balanced (area : Set (BitVec 32)) (peek : β → BitVec 32 → BitVec 8) (keep : Set Reg)
    (n : Nat) (m m' : Machine β) : Prop where
  sp : m'.cpu.a 7 = m.cpu.a 7
  usp : m'.cpu.usp = m.cpu.usp
  mode : srHas m'.cpu.sr ngSrS = srHas m.cpu.sr ngSrS
  regs : ∀ r ∈ keep, r ≠ .a 7 → m'.cpu.reg r = m.cpu.reg r
  stack : ∀ x ∈ area, x ∈ bytesFrom (m.cpu.a 7) n → peek m'.bus x = peek m.bus x
  untraced : srHas m'.cpu.sr ngSrT = false

/-- Nesting with the stack pointer at `sp` and `n` bytes in use above it: the leaves keep what is in
use, frame registers included, and dispatch nothing. -/
def CallTree.Nests (area : Set (BitVec 32)) (peek : β → BitVec 32 → BitVec 8) :
    Set Reg → BitVec 32 → Nat → CallTree β → Prop
  | keep, sp, n, .code text => ∀ m, m.cpu.a 7 = sp → srHas m.cpu.sr ngSrT = false →
      ∃ m', text m = .next () m' ∧ Balanced area peek keep n m m' ∧
        dispatches m'.log = dispatches m.log
  | keep, sp, n, .seq first second =>
      first.Nests area peek keep sp n ∧ second.Nests area peek keep sp n
  | keep, sp, n, .call jump body back =>
      (jump.mnemonic = .jsr ∨ jump.mnemonic = .bsr) ∧ back.mnemonic = .rts ∧
        body.Nests area peek keep (sp - 4) (n + 4)
  | keep, sp, n, .frame link body unlink =>
      link.mnemonic = .link ∧ unlink.mnemonic = .unlk ∧ unlink.reg = link.reg ∧
        regIndex link.reg ≠ 7 ∧ link.displacement.toInt ≤ 0 ∧
        body.Nests area peek (insert (.a (regIndex link.reg)) keep)
          (sp - 4 + link.displacement.signExtend 32) (n + 4 + localBytes link)
  | keep, sp, n, .saved save body load =>
      MovemPair save load ∧ regIndex save.dst.reg = 7 ∧
        body.Nests area peek (keep \ { r | r ∈ (savedRegs load).map movemRegOf })
          (sp - longOffset (savedRegs load).length) (n + 4 * (savedRegs load).length)

/-- The target of a call, where the record names it. -/
def CallTree.target? (jump : NgM68kInstr) : Option (BitVec 32) :=
  if (jumpAddressValue jump).isNone ∨ jump.mnemonic = .bsr then some (addr24 jump.target) else none

/-- The addresses a tree dispatches: around the ones of its body, a call dispatches its target and
the address of the instruction behind it. -/
inductive CallTree.Dispatches : CallTree β → List (BitVec 32) → Prop
  | code (text) : Dispatches (.code text) []
  | seq {first second ds es} (h : Dispatches first ds) (h' : Dispatches second es) :
      Dispatches (.seq first second) (ds ++ es)
  | call {jump body back target ds} (h : Dispatches body ds)
      (htarget : ∀ a, CallTree.target? jump = some a → target = a) :
      Dispatches (.call jump body back) (target :: (ds ++ [addr24 (nextPc jump)]))
  | frame {link body unlink ds} (h : Dispatches body ds) : Dispatches (.frame link body unlink) ds
  | saved {save body load ds} (h : Dispatches body ds) : Dispatches (.saved save body load) ds

/-! ## Stack bytes -/

/-- The `n` bytes below an address. -/
def bytesBelow (addr : BitVec 32) (n : Nat) : Set (BitVec 32) := { x | (addr - 1 - x).toNat < n }

section Bytes
variable {sp : BitVec 32} {s n : Nat}

theorem bytesBelow_shift (h : s + n ≤ 2 ^ 32) :
    bytesBelow (sp - BitVec.ofNat 32 s) n ⊆ bytesBelow sp (s + n) := by
  intro x hx
  simp only [bytesBelow, Set.mem_ofPred_eq] at hx ⊢
  bv_omega

theorem bytesBelow_mono {n' : Nat} (h : n ≤ n') : bytesBelow sp n ⊆ bytesBelow sp n' :=
  fun _ hx => Nat.lt_of_lt_of_le hx h

theorem bytesFrom_shift (h : s + n ≤ 2 ^ 32) :
    bytesFrom sp n ⊆ bytesFrom (sp - BitVec.ofNat 32 s) (n + s) := by
  intro x hx
  simp only [bytesFrom, Set.mem_ofPred_eq] at hx ⊢
  bv_omega

/-- The slot a push fills: below the stack pointer, outside what was in use, and in use once the
stack pointer has moved past it. -/
theorem slot_byte {k : Nat} (hk : k < 4) (hn : n + 4 ≤ 2 ^ 32) :
    byteAddr (sp - 4) k ∈ bytesBelow sp 4 ∧ byteAddr (sp - 4) k ∉ bytesFrom sp n := by
  simp only [bytesBelow, bytesFrom, byteAddr, Set.mem_ofPred_eq]
  constructor
  · interval_cases k <;> bv_omega
  · interval_cases k <;> bv_omega

theorem slot_in_use {k : Nat} (hk : k < 4) (hs : 4 ≤ s) (hn : s + n ≤ 2 ^ 32) :
    byteAddr (sp - 4) k ∈ bytesFrom (sp - BitVec.ofNat 32 s) (n + s) := by
  simp only [bytesFrom, byteAddr, Set.mem_ofPred_eq]
  interval_cases k <;> bv_omega

end Bytes

/-! ## The instructions -/

section Instructions
variable {instr : NgM68kInstr} {m : Machine β}

theorem pushLong_apply (v : BitVec 32) (m : Machine β) :
    pushLong v m = .next ()
      { m with
        cpu := m.cpu.setA 7 (m.cpu.a 7 - 4)
        bus := abiWrite 4 (m.cpu.a 7 - 4) v m.bus
        log := m.log ++ [.write 4 (m.cpu.a 7 - 4) v] } := by
  simp only [pushLong, bind_apply, modifyCpu_apply, getCpu_apply]
  rfl

theorem traceDispatchReturn_apply (ht : srHas m.traceSr ngSrT = false) (pc : BitVec 32) :
    (traceDispatchReturn pc : Gen β Unit) m =
      .exit .ret { m with log := m.log ++ [.dispatch (addr24 pc)] } := by
  rw [traceDispatchReturn, bind_of_next (traceOrReturn_of_untraced ht pc)]
  rfl

omit [GeneratedAbi β] in
theorem sampleTraceSr_apply (m : Machine β) :
    sampleTraceSr m = .next () { m with traceSr := m.cpu.sr } := rfl

theorem runReturn_of_exit {m' : Machine β}
    (h : (emitInstr instr).text { m with traceSr := m.cpu.sr } = .exit .ret m') :
    runReturn instr m = .next () m' := by
  unfold runReturn
  rw [bind_of_next (sampleTraceSr_apply m), h]

/-- A JSR or BSR pushes the address behind it and dispatches its target. -/
theorem jsr_apply (hm : instr.mnemonic = .jsr ∨ instr.mnemonic = .bsr)
    (hT : srHas m.cpu.sr ngSrT = false) :
    ∃ m' target, runReturn instr m = .next () m' ∧
      m'.cpu = m.cpu.setA 7 (m.cpu.a 7 - 4) ∧
      m'.bus = abiWrite 4 (m.cpu.a 7 - 4) (nextPc instr) m.bus ∧
      dispatches m'.log = dispatches m.log ++ [target] ∧
      ∀ a, CallTree.target? instr = some a → target = a := by
  have hpush (target : BitVec 32) : (do
      pushLong (nextPc instr)
      traceDispatchReturn target : Gen β Unit) { m with traceSr := m.cpu.sr } = .exit .ret
        { cpu := m.cpu.setA 7 (m.cpu.a 7 - 4)
          bus := abiWrite 4 (m.cpu.a 7 - 4) (nextPc instr) m.bus
          traceSr := m.cpu.sr
          log := m.log ++ [.write 4 (m.cpu.a 7 - 4) (nextPc instr)] ++
            [.dispatch (addr24 target)] } := by
    rw [bind_of_next (pushLong_apply _ _)]
    exact traceDispatchReturn_apply hT target
  have htext : ∃ target, (emitInstr instr).text { m with traceSr := m.cpu.sr } = (do
      pushLong (nextPc instr)
      traceDispatchReturn target : Gen β Unit) { m with traceSr := m.cpu.sr } ∧
        ∀ a, CallTree.target? instr = some a → addr24 target = a := by
    unfold CallTree.target?
    rcases hm with h | h
    · cases hj : jumpAddressValue instr with
      | some e =>
        refine ⟨e m.cpu, ?_, fun a ha => ?_⟩
        · simp only [emitInstr, h, emitJsr, hj, leaves]
          rfl
        · simp [h] at ha
      | none =>
        refine ⟨addr24 instr.target, ?_, fun a ha => ?_⟩
        · simp only [emitInstr, h, emitJsr, hj, leaves]
          rfl
        · simpa [addr24_addr24] using ha
    · refine ⟨addr24 instr.target, ?_, fun a ha => ?_⟩
      · simp only [emitInstr, h, leaves]
        rfl
      · simpa [h, addr24_addr24] using ha
  obtain ⟨target, htext, htarget⟩ := htext
  refine ⟨_, addr24 target, runReturn_of_exit (htext.trans (hpush target)), rfl, rfl, ?_, htarget⟩
  simp [dispatches]

/-- An RTS dispatches the address it finds on the stack. -/
theorem rts_apply (hm : instr.mnemonic = .rts) (hT : srHas m.cpu.sr ngSrT = false)
    {pc : BitVec 32} (hpc : (abiRead 4 (m.cpu.a 7) m.bus).1 = pc) :
    ∃ m', runReturn instr m = .next () m' ∧ m'.cpu = m.cpu.setA 7 (m.cpu.a 7 + 4) ∧
      m'.bus = (abiRead 4 (m.cpu.a 7) m.bus).2 ∧
      dispatches m'.log = dispatches m.log ++ [addr24 pc] := by
  have htext : (emitInstr instr).text { m with traceSr := m.cpu.sr } = .exit .ret
      { cpu := m.cpu.setA 7 (m.cpu.a 7 + 4)
        bus := (abiRead 4 (m.cpu.a 7) m.bus).2
        traceSr := m.cpu.sr
        log := m.log ++ [.read 4 (m.cpu.a 7)] ++ [.dispatch (addr24 pc)] } := by
    simp only [emitInstr, hm, leaves, rtsText, bind_apply, getCpu_apply, read32_apply,
      modifyCpu_apply, hpc]
    exact traceDispatchReturn_apply hT pc
  refine ⟨_, runReturn_of_exit htext, rfl, rfl, ?_⟩
  simp [dispatches]

/-- LINK saves its register, points it at what it saved and moves the stack pointer on. -/
theorem link_apply (hm : instr.mnemonic = .link) (hr : regIndex instr.reg ≠ 7) :
    ∃ m', CallTree.runThrough instr m = .next () m' ∧
      m'.cpu.a 7 = m.cpu.a 7 - 4 + instr.displacement.signExtend 32 ∧
      m'.cpu.a (regIndex instr.reg) = m.cpu.a 7 - 4 ∧
      (∀ r, r ≠ .a 7 → r ≠ .a (regIndex instr.reg) → m'.cpu.reg r = m.cpu.reg r) ∧
      (m'.cpu.sr = m.cpu.sr ∧ m'.cpu.usp = m.cpu.usp) ∧
      m'.bus = abiWrite 4 (m.cpu.a 7 - 4) (m.cpu.a (regIndex instr.reg)) m.bus ∧
      dispatches m'.log = dispatches m.log := by
  have htext : CallTree.runThrough instr m = .next ()
      { cpu := ((m.cpu.setA 7 (m.cpu.a 7 - 4)).setA (regIndex instr.reg) (m.cpu.a 7 - 4)).setA 7
          (m.cpu.a 7 - 4 + instr.displacement.signExtend 32)
        bus := abiWrite 4 (m.cpu.a 7 - 4) (m.cpu.a (regIndex instr.reg)) m.bus
        traceSr := m.cpu.sr
        log := m.log ++ [.write 4 (m.cpu.a 7 - 4) (m.cpu.a (regIndex instr.reg))] } := by
    rw [CallTree.runThrough, bind_of_next (sampleTraceSr_apply m)]
    simp only [emitInstr, hm, fallsThrough, linkText, bind_apply, getCpu_apply, pushLong_apply,
      modifyCpu_apply, NgM68kState.setA, Function.update_self, Function.update_of_ne hr.symm]
  refine ⟨_, htext, ?_, ?_, ?_, ⟨rfl, rfl⟩, rfl, ?_⟩
  · simp [NgM68kState.setA]
  · simp [NgM68kState.setA, Function.update_of_ne hr]
  · intro r h7 hne
    rw [reg_setA_of_ne _ r _ h7, reg_setA_of_ne _ r _ hne, reg_setA_of_ne _ r _ h7]
  · simp [dispatches]

/-- UNLK takes the stack pointer from its register and the register from the stack. -/
theorem unlk_apply (hm : instr.mnemonic = .unlk) (hr : regIndex instr.reg ≠ 7) {v : BitVec 32}
    (hv : (abiRead 4 (m.cpu.a (regIndex instr.reg)) m.bus).1 = v) :
    ∃ m', CallTree.runThrough instr m = .next () m' ∧
      m'.cpu.a 7 = m.cpu.a (regIndex instr.reg) + 4 ∧ m'.cpu.a (regIndex instr.reg) = v ∧
      (∀ r, r ≠ .a 7 → r ≠ .a (regIndex instr.reg) → m'.cpu.reg r = m.cpu.reg r) ∧
      (m'.cpu.sr = m.cpu.sr ∧ m'.cpu.usp = m.cpu.usp) ∧
      m'.bus = (abiRead 4 (m.cpu.a (regIndex instr.reg)) m.bus).2 ∧
      dispatches m'.log = dispatches m.log := by
  have hreg : instr.reg ≠ 7 := fun h => hr (by rw [h]; decide)
  have htext : CallTree.runThrough instr m = .next ()
      { cpu := ((m.cpu.setA 7 (m.cpu.a (regIndex instr.reg))).setA (regIndex instr.reg) v).setA 7
          (m.cpu.a (regIndex instr.reg) + 4)
        bus := (abiRead 4 (m.cpu.a (regIndex instr.reg)) m.bus).2
        traceSr := m.cpu.sr
        log := m.log ++ [.read 4 (m.cpu.a (regIndex instr.reg))] } := by
    rw [CallTree.runThrough, bind_of_next (sampleTraceSr_apply m)]
    simp only [emitInstr, hm, fallsThrough, unlkText, if_neg hreg, bind_apply, getCpu_apply,
      read32_apply, modifyCpu_apply, NgM68kState.setA, Function.update_self,
      Function.update_of_ne hr.symm, hv]
  refine ⟨_, htext, ?_, ?_, ?_, ⟨rfl, rfl⟩, rfl, ?_⟩
  · simp [NgM68kState.setA]
  · simp [NgM68kState.setA, Function.update_of_ne hr]
  · intro r h7 hne
    rw [reg_setA_of_ne _ r _ h7, reg_setA_of_ne _ r _ hne, reg_setA_of_ne _ r _ h7]
  · simp [dispatches]

end Instructions

/-- The stack pointer LINK leaves. -/
theorem link_sp (link : NgM68kInstr) (h : link.displacement.toInt ≤ 0) (sp : BitVec 32) :
    sp - 4 + link.displacement.signExtend 32 =
      sp - BitVec.ofNat 32 (4 + CallTree.localBytes link) := by
  have hlo := BitVec.le_two_mul_toInt (x := link.displacement)
  have hint : ((CallTree.localBytes link : Nat) : Int) = -link.displacement.toInt := by
    unfold CallTree.localBytes
    omega
  have hext : link.displacement.signExtend 32 =
      -BitVec.ofNat 32 (CallTree.localBytes link) := by
    rw [BitVec.signExtend, ← BitVec.ofInt_natCast, hint, BitVec.ofInt_neg, neg_neg]
  rw [hext]
  bv_omega

/-! ## Saved registers -/

theorem movemReg_eq (g : NgM68kState) (i : Nat) : movemReg g i = g.reg (movemRegOf i) := by
  unfold movemReg movemRegOf
  split <;> rfl

theorem reg_setMovemReg (i : Nat) (v : BitVec 32) (g : NgM68kState) (r : Reg) :
    (setMovemReg i v g).reg r = if r = movemRegOf i then v else g.reg r := by
  unfold setMovemReg movemRegOf
  by_cases hi : i < 8
  · rw [if_pos hi, if_pos hi]
    split
    · rename_i hr
      rw [hr]
      exact Function.update_self ..
    · exact reg_setD_of_ne g r v ‹_›
  · rw [if_neg hi, if_neg hi]
    split
    · rename_i hr
      rw [hr]
      exact Function.update_self ..
    · exact reg_setA_of_ne g r v ‹_›

/-- The loaded registers take their saved values, the others stay. -/
theorem reg_loadRegisters (g₀ g : NgM68kState) (regs : List Nat) (r : Reg) :
    (loadRegisters (movemReg g₀) regs g).reg r =
      if r ∈ regs.map movemRegOf then g₀.reg r else g.reg r := by
  induction regs generalizing g with
  | nil => rfl
  | cons i regs ih =>
    show (loadRegisters (movemReg g₀) regs (setMovemReg i (movemReg g₀ i) g)).reg r = _
    rw [ih, reg_setMovemReg, movemReg_eq, List.map_cons]
    by_cases hr : r = movemRegOf i
    · subst hr
      simp
    · simp [hr]

theorem loadRegisters_rest (f : Nat → BitVec 32) (regs : List Nat) (g : NgM68kState) :
    (loadRegisters f regs g).sr = g.sr ∧ (loadRegisters f regs g).usp = g.usp := by
  induction regs generalizing g with
  | nil => exact ⟨rfl, rfl⟩
  | cons i regs ih =>
    have hset : (setMovemReg i (f i) g).sr = g.sr ∧ (setMovemReg i (f i) g).usp = g.usp := by
      unfold setMovemReg
      split <;> exact ⟨rfl, rfl⟩
    exact ⟨(ih _).1.trans hset.1, (ih _).2.trans hset.2⟩

omit [GeneratedAbi β] in
theorem dispatches_of_noTransfer {m m' : Machine β} (h : NoTransfer m m') :
    dispatches m'.log = dispatches m.log := by
  obtain ⟨es, hlog, hes⟩ := h.dispatched
  rw [hlog, dispatches, List.filterMap_append]
  exact (congrArg _ hes).trans (List.append_nil _)

section Saves
variable {area : Set (BitVec 32)} {peek : β → BitVec 32 → BitVec 8} {save load : NgM68kInstr}

theorem movemStores_keep (ram : RamArea area peek) (bits : List Nat) (addr : BitVec 32)
    (m : Machine β) (hin : ∀ a ∈ limbAddrs 4 addr bits.length, OperandIn area 4 a) :
    ∃ a' m', bits.foldlM (movemStoreDown 4) addr m = .next a' m' ∧ ∀ x ∈ area,
      (∀ a ∈ limbAddrs 4 addr bits.length, ∀ k < 4, x ≠ byteAddr a k) →
        peek m'.bus x = peek m.bus x := by
  induction bits generalizing addr m with
  | nil => exact ⟨addr, m, rfl, fun _ _ _ => rfl⟩
  | cons bit bits ih =>
    obtain ⟨hfirst, hin⟩ := List.forall_mem_cons.mp hin
    obtain ⟨m₁, hstep, -, -, hbus⟩ := movemStoreDown_apply addr bit m
    obtain ⟨a', m', hrun, hkeep⟩ := ih (addr - 4) m₁ hin
    refine ⟨a', m', by rw [List.foldlM_cons, bind_of_next hstep, hrun], fun x hx hout => ?_⟩
    obtain ⟨hout₁, hout⟩ := List.forall_mem_cons.mp hout
    rw [hkeep x hx hout, hbus]
    exact ram.write_keep 4 _ _ _ hfirst x hx hout₁

theorem movemLoads_keep (ram : RamArea area peek) (regs : List Nat) (addr : BitVec 32)
    (m : Machine β) (hin : ∀ a ∈ longAddrs addr regs.length, OperandIn area 4 a) :
    ∃ a' m', regs.foldlM (movemLoad 4) addr m = .next a' m' ∧
      ∀ x ∈ area, peek m'.bus x = peek m.bus x := by
  induction regs generalizing addr m with
  | nil => exact ⟨addr, m, rfl, fun _ _ => rfl⟩
  | cons i regs ih =>
    obtain ⟨hfirst, hin⟩ := List.forall_mem_cons.mp hin
    obtain ⟨m₁, hstep, -, -, hbus⟩ := movemLoad_apply addr i m
    obtain ⟨a', m', hrun, hkeep⟩ := ih (addr + 4) m₁ hin
    refine ⟨a', m', by rw [List.foldlM_cons, bind_of_next hstep, hrun], fun x hx => ?_⟩
    rw [hkeep x hx, hbus]
    exact ram.read_keep 4 _ _ hfirst x hx

/-- The bytes of the words a save stores: below the stack pointer, outside what was in use, and in
use once the stack pointer has moved past them. -/
theorem saved_byte {sp a : BitVec 32} {n s k : Nat} (hs : s ≤ 16) (hn : n + 4 * s ≤ 2 ^ 32)
    (ha : a ∈ limbAddrs 4 sp s) (hk : k < 4) :
    byteAddr a k ∈ bytesBelow sp (4 * s) ∧ byteAddr a k ∉ bytesFrom sp n ∧
      byteAddr a k ∈ bytesFrom (sp - longOffset s) (n + 4 * s) := by
  obtain ⟨j, hj, rfl⟩ := mem_limbAddrs ha
  simp only [bytesBelow, bytesFrom, byteAddr, longOffset, Set.mem_ofPred_eq]
  refine ⟨?_, ?_, ?_⟩
  all_goals bv_omega

/-- The MOVEM to the stack stores the registers below the stack pointer and moves it there. -/
theorem save_apply (h : MovemPair save load) (h7 : regIndex save.dst.reg = 7)
    (ram : RamArea area peek) (m : Machine β) {s n : Nat}
    (hlen : (CallTree.savedRegs load).length = s)
    (hin : bytesBelow (m.cpu.a 7) (4 * s) ⊆ area) (hn : n + 4 * s ≤ 2 ^ 32) :
    ∃ m', CallTree.runThrough save m = .next () m' ∧
      m'.cpu = m.cpu.setA 7 (m.cpu.a 7 - longOffset s) ∧
      List.Forall₂ (HoldsAt peek m'.bus 4) (longAddrs (m.cpu.a 7 - longOffset s) s)
        ((CallTree.savedRegs load).map (movemReg m.cpu)) ∧
      (∀ x ∈ area, x ∈ bytesFrom (m.cpu.a 7) n → peek m'.bus x = peek m.bus x) ∧
      dispatches m'.log = dispatches m.log := by
  have hs : s ≤ 16 := by
    rw [← hlen]
    exact movemBits_length_le _
  have hbits : (movemBits (save.immediate.setWidth 16)).length = s := by
    rw [← hlen, CallTree.savedRegs, h.mask, movemBits_reverse, List.length_reverse, List.length_map]
  have hin' : ∀ a ∈ limbAddrs 4 (m.cpu.a 7) s, OperandIn area 4 a :=
    fun a ha k hk => hin (saved_byte hs hn ha hk).1
  obtain ⟨m', hrun, hcpu, -, hholds⟩ := movemSave_run h ram { m with traceSr := m.cpu.sr } hlen
    (by rw [h7]; exact hin')
  have htext : ExitsBy NoWay ((emitInstr save).text : Gen β Unit) := by
    rw [movemSave_text h]
    infer_instance
  have hlog := dispatches_of_noTransfer (htext.next _ _ _ hrun).2
  obtain ⟨a', m₁, hstores, hkeep⟩ := movemStores_keep ram (movemBits (save.immediate.setWidth 16))
    (m.cpu.a 7) { m with traceSr := m.cpu.sr } (by rw [hbits]; exact hin')
  have hbus : m'.bus = m₁.bus := by
    have haddr : aregAddr save.dst m.cpu = m.cpu.a 7 := by rw [← h7]; rfl
    rw [movemSave_text h, bind_apply, getCpu_apply] at hrun
    dsimp only at hrun
    rw [haddr, bind_of_next hstores] at hrun
    cases hrun
    rfl
  rw [h7] at hcpu hholds
  refine ⟨m', ?_, hcpu, hholds, fun x hx hused => ?_, hlog⟩
  · rw [CallTree.runThrough, bind_of_next (sampleTraceSr_apply m), hrun]
  · rw [hbus]
    apply hkeep x hx
    rw [hbits]
    rintro a ha k hk rfl
    exact (saved_byte hs hn ha hk).2.1 hused

/-- The MOVEM from the stack takes the registers back and the stack pointer with it. -/
theorem load_apply (h : MovemPair save load) (h7 : regIndex save.dst.reg = 7)
    (ram : RamArea area peek) (f : Nat → BitVec 32) (m : Machine β) {sp : BitVec 32} {s n : Nat}
    (hlen : (CallTree.savedRegs load).length = s) (hsp : m.cpu.a 7 = sp - longOffset s)
    (hin : bytesBelow sp (4 * s) ⊆ area) (hn : n + 4 * s ≤ 2 ^ 32)
    (hholds : List.Forall₂ (HoldsAt peek m.bus 4) (longAddrs (sp - longOffset s) s)
      ((CallTree.savedRegs load).map f)) :
    ∃ m', CallTree.runThrough load m = .next () m' ∧
      m'.cpu = (loadRegisters f (CallTree.savedRegs load) m.cpu).setA 7 sp ∧
      (∀ x ∈ area, peek m'.bus x = peek m.bus x) ∧ dispatches m'.log = dispatches m.log := by
  have hs : s ≤ 16 := by
    rw [← hlen]
    exact movemBits_length_le _
  have hin' : ∀ a ∈ longAddrs (sp - longOffset s) s, OperandIn area 4 a := by
    rw [← limbAddrs_reverse]
    intro a ha k hk
    exact hin (saved_byte hs hn (List.mem_reverse.mp ha) hk).1
  obtain ⟨m', hrun, hcpu, -⟩ := movemLoad_run h ram f hlen { m with traceSr := m.cpu.sr }
    (by rw [h7]; exact hsp) hin' hholds
  have htext : ExitsBy NoWay ((emitInstr load).text : Gen β Unit) := by
    rw [movemLoad_text h]
    infer_instance
  have hlog := dispatches_of_noTransfer (htext.next _ _ _ hrun).2
  obtain ⟨a', m₁, hloads, hkeep⟩ := movemLoads_keep ram (movemBits (load.immediate.setWidth 16))
    (sp - longOffset s) { m with traceSr := m.cpu.sr } (by
      rw [show (movemBits (load.immediate.setWidth 16)).length = s from hlen]
      exact hin')
  have hbus : m'.bus = m₁.bus := by
    have haddr : aregAddr load.src m.cpu = sp - longOffset s := by rw [← hsp, ← h7, ← h.reg]; rfl
    rw [movemLoad_text h, bind_apply, getCpu_apply] at hrun
    dsimp only at hrun
    rw [haddr, bind_of_next hloads] at hrun
    cases hrun
    rfl
  rw [h7, BitVec.sub_add_cancel] at hcpu
  refine ⟨m', ?_, hcpu, fun x hx => ?_, hlog⟩
  · rw [CallTree.runThrough, bind_of_next (sampleTraceSr_apply m), hrun]
  · rw [hbus, hkeep x hx]

end Saves

/-! ## The run -/

section Run
variable {area : Set (BitVec 32)} {peek : β → BitVec 32 → BitVec 8} {keep : Set Reg} {n : Nat}

omit [GeneratedAbi β] in
theorem Balanced.trans {m₁ m₂ m₃ : Machine β} (h : Balanced area peek keep n m₁ m₂)
    (h' : Balanced area peek keep n m₂ m₃) : Balanced area peek keep n m₁ m₃ where
  sp := h'.sp.trans h.sp
  usp := h'.usp.trans h.usp
  mode := h'.mode.trans h.mode
  regs r hr h7 := (h'.regs r hr h7).trans (h.regs r hr h7)
  stack x hx hn := (h'.stack x hx (by rwa [h.sp])).trans (h.stack x hx hn)
  untraced := h'.untraced

/-- A push fills its slot and keeps what was in use. -/
theorem push_slot (ram : RamArea area peek) {sp : BitVec 32} (hin : bytesBelow sp 4 ⊆ area)
    (hn : n + 4 ≤ 2 ^ 32) (v : BitVec 32) (b : β) :
    HoldsAt peek (abiWrite 4 (sp - 4) v b) 4 (sp - 4) v ∧
      ∀ x ∈ area, x ∈ bytesFrom sp n → peek (abiWrite 4 (sp - 4) v b) x = peek b x := by
  have hslot : OperandIn area 4 (sp - 4) := fun k hk => hin (slot_byte hk hn).1
  refine ⟨ram.holds_write _ _ hslot, fun x hx hused => ?_⟩
  apply ram.write_keep 4 _ _ _ hslot x hx
  rintro k hk rfl
  exact (slot_byte hk hn).2 hused

/-- What stood in the slot is still there after code that kept the stack in use, and popping it
changes nothing. -/
theorem pop_slot (ram : RamArea area peek) {sp : BitVec 32} {s : Nat} {m m' : Machine β}
    (hin : bytesBelow sp 4 ⊆ area) (hs : 4 ≤ s) (hn : s + n ≤ 2 ^ 32)
    (hsp : m.cpu.a 7 = sp - BitVec.ofNat 32 s) (h : Balanced area peek keep (n + s) m m')
    {v : BitVec 32} (hv : HoldsAt peek m.bus 4 (sp - 4) v) :
    (abiRead 4 (sp - 4) m'.bus).1 = v ∧ ∀ x ∈ area, x ∈ bytesFrom sp n →
      peek (abiRead 4 (sp - 4) m'.bus).2 x = peek m.bus x := by
  have hslot : OperandIn area 4 (sp - 4) := fun k hk =>
    hin (slot_byte hk (show n + 4 ≤ 2 ^ 32 by omega)).1
  constructor
  · apply ram.read_of_holds hslot
    intro k hk
    rw [h.stack _ (hslot k hk) (by rw [hsp]; exact slot_in_use hk hs hn), hv k hk]
  · intro x hx hused
    rw [ram.read_keep 4 _ _ hslot x hx]
    exact h.stack x hx (by rw [hsp]; exact bytesFrom_shift hn hused)

/-- Induction on the tree: a call or LINK pushes below what is in use, its body keeps the enlarged
stack, and the matching RTS or UNLK finds what was pushed. -/
theorem CallTree.run_nests (ram : RamArea area peek) (t : CallTree β) (sp : BitVec 32)
    (m : Machine β) (ht : t.Nests area peek keep sp n) (hsp : m.cpu.a 7 = sp)
    (hT : srHas m.cpu.sr ngSrT = false) (harea : bytesBelow sp t.room ⊆ area)
    (hroom : t.room + n ≤ 2 ^ 32) :
    ∃ m' ds, t.run m = .next () m' ∧ t.Dispatches ds ∧ Balanced area peek keep n m m' ∧
      dispatches m'.log = dispatches m.log ++ ds := by
  induction t generalizing keep sp n m with
  | code text =>
    obtain ⟨m', hrun, hbal, hlog⟩ := ht m hsp hT
    exact ⟨m', [], hrun, .code text, hbal, by rw [hlog, List.append_nil]⟩
  | seq first second ih₁ ih₂ =>
    have hmax := le_max_left first.room second.room
    have hmax' := le_max_right first.room second.room
    have hroom' : max first.room second.room + n ≤ 2 ^ 32 := hroom
    obtain ⟨m₁, ds, hrun, hds, hbal, hlog⟩ :=
      ih₁ sp m ht.1 hsp hT ((bytesBelow_mono hmax).trans harea) (by omega)
    obtain ⟨m₂, es, hrun', hes, hbal', hlog'⟩ :=
      ih₂ sp m₁ ht.2 (hbal.sp.trans hsp) hbal.untraced ((bytesBelow_mono hmax').trans harea)
        (by omega)
    refine ⟨m₂, ds ++ es, ?_, .seq hds hes, hbal.trans hbal', ?_⟩
    · rw [CallTree.run, bind_of_next hrun, hrun']
    · rw [hlog', hlog, List.append_assoc]
  | call jump body back ih =>
    obtain ⟨hjump, hback, hbody⟩ := ht
    have hroom' : 4 + body.room + n ≤ 2 ^ 32 := hroom
    have hbelow : bytesBelow sp 4 ⊆ area := (bytesBelow_mono (by simp [CallTree.room])).trans harea
    obtain ⟨m₁, target, hcall, hcpu, hbus, hlog, htarget⟩ := jsr_apply hjump hT
    rw [hsp] at hcpu hbus
    have hsp₁ : m₁.cpu.a 7 = sp - 4 := by rw [hcpu]; simp [NgM68kState.setA]
    have hT₁ : srHas m₁.cpu.sr ngSrT = false := by rw [hcpu]; exact hT
    obtain ⟨hslot, hkeep⟩ := push_slot ram hbelow (show n + 4 ≤ 2 ^ 32 by omega) (nextPc jump) m.bus
    rw [← hbus] at hslot hkeep
    -- the body runs below the return address
    obtain ⟨m₂, ds, hrun, hds, hbal, hlog₂⟩ := ih (sp - 4) m₁ hbody hsp₁ hT₁
      ((bytesBelow_shift (show 4 + body.room ≤ 2 ^ 32 by omega)).trans harea) (by omega)
    obtain ⟨hpc, hkeep₂⟩ := pop_slot ram hbelow (le_refl 4) (by omega) hsp₁ hbal hslot
    have hsp₂ : m₂.cpu.a 7 = sp - 4 := hbal.sp.trans hsp₁
    obtain ⟨m₃, hrts, hcpu₃, hbus₃, hlog₃⟩ :=
      @rts_apply _ _ back m₂ hback hbal.untraced _ (by rw [hsp₂]; exact hpc)
    rw [hsp₂] at hcpu₃ hbus₃
    refine ⟨m₃, target :: (ds ++ [addr24 (nextPc jump)]), ?_, .call hds htarget, ?_, ?_⟩
    · rw [CallTree.run, bind_of_next hcall, bind_of_next hrun, hrts]
    · refine ⟨?_, ?_, ?_, fun r hr h7 => ?_, fun x hx hused => ?_, ?_⟩
      · rw [hcpu₃, hsp]
        simp [NgM68kState.setA]
      · rw [hcpu₃, ← show m₁.cpu.usp = m.cpu.usp by rw [hcpu]; rfl]
        exact hbal.usp
      · rw [hcpu₃, ← show m₁.cpu.sr = m.cpu.sr by rw [hcpu]; rfl]
        exact hbal.mode
      · rw [hcpu₃, reg_setA_of_ne _ r _ h7, hbal.regs r hr h7, hcpu, reg_setA_of_ne _ r _ h7]
      · rw [hsp] at hused
        rw [hbus₃, hkeep₂ x hx hused, hkeep x hx hused]
      · rw [hcpu₃]
        exact hbal.untraced
    · rw [hlog₃, hlog₂, hlog]
      simp
  | frame link body unlink ih =>
    obtain ⟨hlink, hunlink, hsame, h7, hdisp, hbody⟩ := ht
    have hroom' : 4 + CallTree.localBytes link + body.room + n ≤ 2 ^ 32 := hroom
    have hbelow : bytesBelow sp 4 ⊆ area :=
      (bytesBelow_mono (by simp [CallTree.room, Nat.add_assoc])).trans harea
    obtain ⟨m₁, hrun₁, hsp₁, hfp₁, hregs₁, ⟨hsr₁, husp₁⟩, hbus₁, hlog₁⟩ :=
      @link_apply _ _ link m hlink h7
    rw [hsp, link_sp link hdisp] at hsp₁
    rw [hsp] at hfp₁ hbus₁
    rw [link_sp link hdisp, Nat.add_assoc] at hbody
    have hT₁ : srHas m₁.cpu.sr ngSrT = false := by rw [hsr₁]; exact hT
    obtain ⟨hslot, hkeep⟩ := push_slot ram hbelow (show n + 4 ≤ 2 ^ 32 by omega)
      (m.cpu.a (regIndex link.reg)) m.bus
    rw [← hbus₁] at hslot hkeep
    -- the body keeps the frame register among the others
    obtain ⟨m₂, ds, hrun₂, hds, hbal, hlog₂⟩ := ih _ m₁ hbody hsp₁ hT₁
      ((bytesBelow_shift (by omega)).trans harea) (by omega)
    obtain ⟨hv, hkeep₂⟩ := pop_slot ram hbelow (Nat.le_add_right 4 _) (by omega) hsp₁ hbal hslot
    have hfp₂ : m₂.cpu.a (regIndex link.reg) = sp - 4 :=
      (hbal.regs _ (Set.mem_insert _ _) (fun h => h7 (Reg.a.inj h))).trans hfp₁
    obtain ⟨m₃, hrun₃, hsp₃, hfp₃, hregs₃, ⟨hsr₃, husp₃⟩, hbus₃, hlog₃⟩ :=
      @unlk_apply _ _ unlink m₂ hunlink (by rw [hsame]; exact h7) _
        (by rw [hsame, hfp₂]; exact hv)
    rw [hsame, hfp₂] at hsp₃ hbus₃
    rw [hsame] at hfp₃ hregs₃
    refine ⟨m₃, ds, ?_, .frame hds, ?_, by rw [hlog₃, hlog₂, hlog₁]⟩
    · rw [CallTree.run, bind_of_next hrun₁, bind_of_next hrun₂, hrun₃]
    · refine ⟨?_, ?_, ?_, fun r hr hr7 => ?_, fun x hx hused => ?_, ?_⟩
      · rw [hsp₃, hsp, BitVec.sub_add_cancel]
      · rw [husp₃, hbal.usp, husp₁]
      · rw [hsr₃, hbal.mode, hsr₁]
      · by_cases hfp : r = .a (regIndex link.reg)
        · rw [hfp]
          exact hfp₃
        · rw [hregs₃ r hr7 hfp, hbal.regs r (Set.mem_insert_of_mem _ hr) hr7, hregs₁ r hr7 hfp]
      · rw [hsp] at hused
        rw [hbus₃, hkeep₂ x hx hused, hkeep x hx hused]
      · rw [hsr₃]
        exact hbal.untraced
  | saved save body load ih =>
    obtain ⟨hpair, h7, hbody⟩ := ht
    obtain ⟨s, hlen⟩ : ∃ s, (CallTree.savedRegs load).length = s := ⟨_, rfl⟩
    have hroom' : 4 * s + body.room + n ≤ 2 ^ 32 := by
      rw [← hlen]
      exact hroom
    have hs : s ≤ 16 := by
      rw [← hlen]
      exact movemBits_length_le _
    have hbelow : bytesBelow sp (4 * s) ⊆ area :=
      (bytesBelow_mono (by rw [← hlen]; exact Nat.le_add_right ..)).trans harea
    rw [hlen] at hbody
    obtain ⟨m₁, hsave, hcpu₁, hholds, hkeep, hlog₁⟩ :=
      @save_apply _ _ _ _ _ _ hpair h7 ram m s n hlen (by rw [hsp]; exact hbelow) (by omega)
    rw [hsp] at hcpu₁ hholds
    have hsp₁ : m₁.cpu.a 7 = sp - longOffset s := by rw [hcpu₁]; simp [NgM68kState.setA]
    -- the body may change what was saved
    obtain ⟨m₂, ds, hrun, hds, hbal, hlog₂⟩ := ih _ m₁ hbody hsp₁ (by rw [hcpu₁]; exact hT)
      ((bytesBelow_shift (show 4 * s + body.room ≤ 2 ^ 32 by omega)).trans
        ((bytesBelow_mono (by rw [← hlen]; exact le_refl _)).trans harea)) (by omega)
    have hsp₂ : m₂.cpu.a 7 = sp - longOffset s := hbal.sp.trans hsp₁
    have hholds₂ : List.Forall₂ (HoldsAt peek m₂.bus 4) (longAddrs (sp - longOffset s) s)
        ((CallTree.savedRegs load).map (movemReg m.cpu)) := by
      refine forall₂_holdsAt_keep hholds fun a ha v hv k hk => ?_
      rw [← limbAddrs_reverse] at ha
      obtain ⟨hin, -, hused⟩ :=
        @saved_byte sp a n s k hs (by omega) (List.mem_reverse.mp ha) hk
      rw [hbal.stack _ (hbelow hin) (by rw [hsp₁]; exact hused), hv k hk]
    obtain ⟨m₃, hload, hcpu₃, hbus₃, hlog₃⟩ :=
      @load_apply _ _ _ _ _ _ hpair h7 ram _ m₂ sp s n hlen hsp₂ hbelow (by omega) hholds₂
    obtain ⟨hsr₃, husp₃⟩ := loadRegisters_rest (movemReg m.cpu) (CallTree.savedRegs load) m₂.cpu
    refine ⟨m₃, ds, ?_, .saved hds, ?_, by rw [hlog₃, hlog₂, hlog₁]⟩
    · rw [CallTree.run, bind_of_next hsave, bind_of_next hrun, hload]
    · refine ⟨?_, ?_, ?_, fun r hr hr7 => ?_, fun x hx hused => ?_, ?_⟩
      · rw [hcpu₃, hsp]
        simp [NgM68kState.setA]
      · rw [hcpu₃]
        exact husp₃.trans (hbal.usp.trans (by rw [hcpu₁]; rfl))
      · rw [hcpu₃, show ((loadRegisters _ _ m₂.cpu).setA 7 sp).sr = m₂.cpu.sr from hsr₃,
          hbal.mode, hcpu₁]
        rfl
      · rw [hcpu₃, reg_setA_of_ne _ r _ hr7, reg_loadRegisters]
        split
        · rfl
        · rw [hbal.regs r ⟨hr, ‹_›⟩ hr7, hcpu₁, reg_setA_of_ne _ r _ hr7]
      · have hused₁ : x ∈ bytesFrom (m₁.cpu.a 7) (n + 4 * s) := by
          rw [hsp₁]
          rw [hsp] at hused
          exact bytesFrom_shift (by omega) hused
        rw [hbus₃ x hx, hbal.stack x hx hused₁, hkeep x hx hused]
      · rw [hcpu₃, show ((loadRegisters _ _ m₂.cpu).setA 7 sp).sr = m₂.cpu.sr from hsr₃]
        exact hbal.untraced

end Run

/-! ## On the running system -/

theorem bytesBelow_workRam {sp : BitVec 32} {n : Nat} (hlo : 0x100000 + n ≤ sp.toNat)
    (hhi : sp.toNat ≤ 0x110000) : bytesBelow sp n ⊆ workRamArea := by
  intro x hx
  simp only [bytesBelow, workRamArea, Set.mem_ofPred_eq] at hx ⊢
  bv_omega

/-- With a stack in work RAM, nested calls and frames come back: every RTS dispatches to the
instruction behind its own call, the stack pointer, the kept registers and everything in use on the
stack are as before. -/
theorem SmokeHost.callTree_returns (t : CallTree SmokeHost) (keep : Set Reg) (n : Nat)
    (m : Machine SmokeHost)
    (ht : t.Nests workRamArea SmokeHost.workRamByte keep (m.cpu.a 7) n)
    (hT : srHas m.cpu.sr ngSrT = false) (hlo : 0x100000 + t.room ≤ (m.cpu.a 7).toNat)
    (hhi : (m.cpu.a 7).toNat + n ≤ 0x110000) :
    ∃ m' ds, t.run m = .next () m' ∧ t.Dispatches ds ∧
      Balanced workRamArea SmokeHost.workRamByte keep n m m' ∧
      dispatches m'.log = dispatches m.log ++ ds :=
  t.run_nests SmokeHost.workRam_ramArea _ m ht rfl hT (bytesBelow_workRam hlo (by omega)) (by omega)

/-- `MOVEM.L D7/A5,-(A7)` and `MOVEM.L (A7)+,D7/A5`. -/
def pushD7A5 : NgM68kInstr :=
  { addr := 0x3000, opcode := 0x48E7, mnemonic := .movem, byteLength := 4, size := 4,
    immediate := 0x0104, dst := { mode := .apre, reg := 7 } }

def popD7A5 : NgM68kInstr :=
  { addr := 0x3006, opcode := 0x4CDF, mnemonic := .movem, byteLength := 4, size := 4,
    immediate := 0x2080, src := { mode := .apost, reg := 7 } }

/-- `MOVEQ #0,D7`. -/
def clearD7 : NgM68kInstr :=
  { addr := 0x3004, opcode := 0x7E00, mnemonic := .moveq, byteLength := 2, size := 4, reg := 7 }

/-- It keeps every other register. -/
theorem clearD7_nests {keep : Set Reg} (hkeep : .d 7 ∉ keep) (sp : BitVec 32) (n : Nat) :
    CallTree.Nests workRamArea SmokeHost.workRamByte keep sp n (.code (emitInstr clearD7).text) := by
  intro m _ hT
  have hsystem (w : BitVec 32) : srHas (ngSetNz w m.cpu.sr) ngSrS = srHas m.cpu.sr ngSrS ∧
      srHas (ngSetNz w m.cpu.sr) ngSrT = srHas m.cpu.sr ngSrT := by
    simp only [srHas_s, srHas_t]
    unfold ngSetNz
    constructor
    all_goals cases w.msb <;> cases w == 0 <;> simp [orIf, ngCcrN, ngCcrZ]
  refine ⟨_, rfl, ⟨rfl, rfl, (hsystem _).1, fun r hr _ => ?_, fun _ _ _ => rfl, ?_⟩, rfl⟩
  · exact reg_setD_of_ne m.cpu r _ fun h => hkeep (h ▸ hr)
  · exact (hsystem _).2.trans hT

/-- `BSR` to a subroutine that sets up a frame of eight bytes and calls another one, which uses D7
and gives it back. -/
def nestedCalls : CallTree SmokeHost :=
  .call { addr := 0x1000, mnemonic := .bsr, byteLength := 2, target := 0x2000 }
    (.frame { addr := 0x2000, mnemonic := .link, byteLength := 4, reg := 6, displacement := 0xFFF8 }
      (.call { addr := 0x2004, mnemonic := .bsr, byteLength := 2, target := 0x3000 }
        (.saved pushD7A5 (.code (emitInstr clearD7).text) popD7A5)
        { addr := 0x300A, mnemonic := .rts, byteLength := 2 })
      { addr := 0x2006, mnemonic := .unlk, byteLength := 2, reg := 6 })
    { addr := 0x2008, mnemonic := .rts, byteLength := 2 }

/-- The initial supervisor stack pointer of a Neo Geo vector table. -/
def stackedHost : Machine SmokeHost :=
  { hostAtStart with cpu := { hostAtStart.cpu with a := fun _ => 0x10F300, sr := 0x2700 } }

theorem SmokeHost.callTree_returns_nestedCalls :
    ∃ m' ds, nestedCalls.run stackedHost = .next () m' ∧ nestedCalls.Dispatches ds ∧
      Balanced workRamArea SmokeHost.workRamByte {.a 5, .d 7} 0x100 stackedHost m' ∧
      dispatches m'.log = dispatches stackedHost.log ++ ds := by
  have hregs : (CallTree.savedRegs popD7A5).map movemRegOf = [.d 7, .a 5] := by decide
  refine SmokeHost.callTree_returns nestedCalls {.a 5, .d 7} 0x100 stackedHost ?_ (by decide)
    (by decide) (by decide)
  refine ⟨.inr rfl, rfl, rfl, rfl, rfl, by decide, by decide, .inr rfl, rfl,
    ⟨rfl, rfl, rfl, rfl, rfl, rfl, rfl, rfl, by decide⟩, rfl, clearD7_nests ?_ _ _⟩
  rw [hregs]
  simp

end NeoRecomp
