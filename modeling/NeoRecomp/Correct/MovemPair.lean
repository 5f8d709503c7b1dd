import NeoRecomp.Correct.LimbChains

/-!
# MOVEM save and restore

`MOVEM.L list,-(An)` stores the registers of its mask downwards, the highest one first, and
`MOVEM.L (An)+,list` loads them upwards, the lowest one first.  Over RAM the pair changes no register
and no flag, with An in the list or not.
-/

namespace NeoRecomp

open Gen

/-! ## Masks -/

theorem range_sixteen_reverse : (List.range 16).map (15 - ·) = (List.range 16).reverse := by decide

/-- The reversed mask names the same registers in the opposite order. -/
theorem movemBits_reverse (mask : BitVec 16) :
    movemBits mask.reverse = ((movemBits mask).map (15 - ·)).reverse := by
  have hreg : movemBits mask.reverse =
      (List.range 16).filter fun bit => mask.getLsbD (15 - bit) := by
    apply List.filter_congr
    intro bit hbit
    have hlt := List.mem_range.mp hbit
    rw [BitVec.getLsbD_reverse, BitVec.getMsbD, decide_eq_true hlt, Bool.true_and]
  have hback : (List.range 16).filter (fun bit => mask.getLsbD (15 - (15 - bit))) =
      movemBits mask := by
    apply List.filter_congr
    intro bit hbit
    have hlt := List.mem_range.mp hbit
    rw [show 15 - (15 - bit) = bit by omega]
  rw [hreg, ← hback]
  calc (List.range 16).filter (fun bit => mask.getLsbD (15 - bit))
      = ((List.range 16).reverse.filter fun bit => mask.getLsbD (15 - bit)).reverse := by
        rw [List.filter_reverse, List.reverse_reverse]
    _ = (((List.range 16).map (15 - ·)).filter fun bit => mask.getLsbD (15 - bit)).reverse := by
        rw [range_sixteen_reverse]
    _ = _ := by
        rw [List.filter_map]
        rfl

theorem movemBits_length_le (mask : BitVec 16) : (movemBits mask).length ≤ 16 := by
  apply (List.length_filter_le _ _).trans
  show (List.range 16).length ≤ 16
  rw [List.length_range]

/-! ## Addresses -/

/-- The addresses of `n` long words from `addr` upwards. -/
def longAddrs : BitVec 32 → Nat → List (BitVec 32)
  | _, 0 => []
  | addr, n + 1 => addr :: longAddrs (addr + 4) n

/-- `n` long words further. -/
def longOffset (n : Nat) : BitVec 32 := BitVec.ofNat 32 (4 * n)

theorem longOffset_succ (n : Nat) : longOffset (n + 1) = 4 + longOffset n := by
  rw [longOffset, longOffset]
  bv_omega

theorem longAddrs_succ (addr : BitVec 32) (n : Nat) :
    longAddrs addr (n + 1) = longAddrs addr n ++ [addr + longOffset n] := by
  induction n generalizing addr with
  | zero =>
    show [addr] = [addr + 0#32]
    rw [BitVec.add_zero]
  | succ n ih =>
    rw [longAddrs, ih, longAddrs, longOffset_succ, BitVec.add_assoc]
    rfl

/-- The words below an address, met downwards, are those from the lowest one up, reversed. -/
theorem limbAddrs_reverse (addr : BitVec 32) (n : Nat) :
    (limbAddrs 4 addr n).reverse = longAddrs (addr - longOffset n) n := by
  induction n generalizing addr with
  | zero => rfl
  | succ n ih =>
    have hlow : addr - 4 - longOffset n = addr - longOffset (n + 1) := by
      rw [longOffset_succ, BitVec.sub_sub]
    have htop : addr - longOffset (n + 1) + longOffset n = addr - 4 := by
      rw [← hlow, BitVec.sub_add_cancel]
    rw [limbAddrs, List.reverse_cons, ih, hlow, longAddrs_succ, htop]

theorem mem_limbAddrs {addr a : BitVec 32} {n : Nat} (h : a ∈ limbAddrs 4 addr n) :
    ∃ k < n, a = addr - 4 - longOffset k := by
  induction n generalizing addr with
  | zero => cases h
  | succ n ih =>
    rcases List.mem_cons.mp h with rfl | h
    · exact ⟨0, Nat.succ_pos n, by rw [longOffset]; bv_omega⟩
    · obtain ⟨k, hk, rfl⟩ := ih h
      refine ⟨k + 1, Nat.succ_lt_succ hk, ?_⟩
      rw [longOffset_succ, ← BitVec.sub_sub]

/-- As many words as a mask has registers do not overlap. -/
theorem limbAddrs_apart (addr : BitVec 32) {n : Nat} (hn : n ≤ 16) :
    (limbAddrs 4 addr n).Pairwise fun a b => OperandsDisjoint 4 4 a b := by
  induction n generalizing addr with
  | zero => exact List.Pairwise.nil
  | succ n ih =>
    refine List.pairwise_cons.mpr ⟨?_, ih (addr - 4) (by omega)⟩
    intro b hb j hj j' hj'
    obtain ⟨k, hk, rfl⟩ := mem_limbAddrs hb
    change j < 4 at hj
    change j' < 4 at hj'
    rw [byteAddr, byteAddr, longOffset]
    bv_omega

/-! ## The two loops -/

section Loops
variable {β : Type} [GeneratedAbi β] {area : Set (BitVec 32)} {peek : β → BitVec 32 → BitVec 8}

omit [GeneratedAbi β] in
theorem operandsDisjoint_symm {a b : BitVec 32} (h : OperandsDisjoint 4 4 a b) :
    OperandsDisjoint 4 4 b a :=
  fun k hk k' hk' => (h k' hk' k hk).symm

theorem movemStoreDown_apply (addr : BitVec 32) (bit : Nat) (m : Machine β) :
    ∃ m', movemStoreDown 4 addr bit m = .next (addr - 4) m' ∧ m'.cpu = m.cpu ∧
      m'.traceSr = m.traceSr ∧
      m'.bus = abiWrite 4 (addr - 4) (movemReg m.cpu (15 - bit)) m.bus := by
  have hword : castSize 4 (movemReg m.cpu (15 - bit)) = movemReg m.cpu (15 - bit) :=
    BitVec.setWidth_eq _
  refine ⟨_, rfl, rfl, rfl, ?_⟩
  show abiWrite 4 (addr - 4) (castSize 4 (movemReg m.cpu (15 - bit))) m.bus = _
  rw [hword]

/-- Induction on the registers: a store keeps the words above it. -/
theorem movemStores_spec (ram : RamArea area peek) (bits : List Nat) (addr : BitVec 32)
    (m : Machine β) (hin : ∀ a ∈ limbAddrs 4 addr bits.length, OperandIn area 4 a)
    (hapart : (limbAddrs 4 addr bits.length).Pairwise fun a b => OperandsDisjoint 4 4 a b) :
    ∃ m', bits.foldlM (movemStoreDown 4) addr m = .next (addr - longOffset bits.length) m' ∧
      m'.cpu = m.cpu ∧ m'.traceSr = m.traceSr ∧
      List.Forall₂ (HoldsAt peek m'.bus 4) (limbAddrs 4 addr bits.length)
        (bits.map fun bit => movemReg m.cpu (15 - bit)) ∧
      ∀ a v, OperandIn area 4 a →
        (∀ b ∈ limbAddrs 4 addr bits.length, OperandsDisjoint 4 4 b a) →
          HoldsAt peek m.bus 4 a v → HoldsAt peek m'.bus 4 a v := by
  induction bits generalizing addr m with
  | nil =>
    refine ⟨m, ?_, rfl, rfl, .nil, fun _ _ _ _ hk => hk⟩
    show Outcome.next addr m = _
    rw [show addr - longOffset ([] : List Nat).length = addr from BitVec.sub_zero addr]
  | cons bit bits ih =>
    obtain ⟨hfirst, hin⟩ := List.forall_mem_cons.mp hin
    obtain ⟨hfresh, hapart⟩ := List.pairwise_cons.mp hapart
    obtain ⟨m₁, hstep, hcpu₁, htrace₁, hbus₁⟩ := movemStoreDown_apply addr bit m
    obtain ⟨m', hrun, hcpu, htrace, hholds, hkeep⟩ := ih (addr - 4) m₁ hin hapart
    have hlow : addr - 4 - longOffset bits.length = addr - longOffset (bits.length + 1) := by
      rw [longOffset_succ, BitVec.sub_sub]
    refine ⟨m', ?_, hcpu.trans hcpu₁, htrace.trans htrace₁, ?_, ?_⟩
    · rw [List.foldlM_cons, bind_of_next hstep, hrun, List.length_cons, hlow]
    · rw [hcpu₁] at hholds
      refine .cons (hkeep _ _ hfirst ?_ ?_) hholds
      · intro b hb
        exact operandsDisjoint_symm (hfresh b hb)
      · rw [hbus₁]
        exact ram.holds_write _ _ hfirst
    · intro a v ha hdis hold
      refine hkeep a v ha (fun b hb => hdis b (.tail _ hb)) ?_
      rw [hbus₁]
      exact ram.holds_after_write _ hfirst ha (hdis _ List.mem_cons_self) hold

/-- The registers loaded with the values `f`. -/
def loadRegisters (f : Nat → BitVec 32) (regs : List Nat) (g : NgM68kState) : NgM68kState :=
  regs.foldl (fun g i => setMovemReg i (f i) g) g

theorem movemLoad_apply (addr : BitVec 32) (i : Nat) (m : Machine β) :
    ∃ m', movemLoad 4 addr i m = .next (addr + 4) m' ∧
      m'.cpu = setMovemReg i (abiRead 4 addr m.bus).1 m.cpu ∧ m'.traceSr = m.traceSr ∧
      m'.bus = (abiRead 4 addr m.bus).2 := by
  refine ⟨_, rfl, ?_, rfl, rfl⟩
  show setMovemReg i ((abiRead 4 addr m.bus).1.setWidth 32) m.cpu = _
  rw [show (abiRead 4 addr m.bus).1.setWidth 32 = (abiRead 4 addr m.bus).1 from
    BitVec.setWidth_eq _]

/-- Induction on the registers: a load changes no word. -/
theorem movemLoads_spec (ram : RamArea area peek) (f : Nat → BitVec 32) (regs : List Nat)
    (addr : BitVec 32) (m : Machine β)
    (hin : ∀ a ∈ longAddrs addr regs.length, OperandIn area 4 a)
    (hholds : List.Forall₂ (HoldsAt peek m.bus 4) (longAddrs addr regs.length) (regs.map f)) :
    ∃ m', regs.foldlM (movemLoad 4) addr m = .next (addr + longOffset regs.length) m' ∧
      m'.cpu = loadRegisters f regs m.cpu ∧ m'.traceSr = m.traceSr := by
  induction regs generalizing addr m with
  | nil =>
    refine ⟨m, ?_, rfl, rfl⟩
    show Outcome.next addr m = _
    rw [show addr + longOffset ([] : List Nat).length = addr from BitVec.add_zero addr]
  | cons i regs ih =>
    obtain ⟨hfirst, hin⟩ := List.forall_mem_cons.mp hin
    obtain ⟨hword, hholds⟩ := List.forall₂_cons.mp hholds
    obtain ⟨m₁, hstep, hcpu₁, htrace₁, hbus₁⟩ := movemLoad_apply addr i m
    rw [ram.read_of_holds hfirst hword] at hcpu₁
    obtain ⟨m', hrun, hcpu, htrace⟩ := ih (addr + 4) m₁ hin (by
      rw [hbus₁]
      exact forall₂_holdsAt_keep hholds fun a ha v => ram.holds_after_read hfirst (hin a ha))
    refine ⟨m', ?_, ?_, htrace.trans htrace₁⟩
    · rw [List.foldlM_cons, bind_of_next hstep, hrun, List.length_cons, longOffset_succ,
        BitVec.add_assoc]
    · rw [hcpu, hcpu₁]
      rfl

end Loops

/-! ## The pair -/

/-- Loading a register with its own value leaves at most An changed. -/
theorem setMovemReg_self (g : NgM68kState) (r : Fin 8) (w : BitVec 32) (i : Nat) :
    ∃ w', setMovemReg i (movemReg g i) (g.setA r w) = g.setA r w' := by
  unfold setMovemReg movemReg
  by_cases hi : i < 8
  · refine ⟨w, ?_⟩
    rw [if_pos hi, if_pos hi]
    show { g.setA r w with d := Function.update g.d (Fin.ofNat 8 i) (g.d (Fin.ofNat 8 i)) } =
      g.setA r w
    rw [Function.update_eq_self]
    rfl
  · rw [if_neg hi, if_neg hi]
    by_cases hr : Fin.ofNat 8 (i - 8) = r
    · refine ⟨g.a r, ?_⟩
      show { g with a := Function.update (Function.update g.a r w) _ _ } = g.setA r (g.a r)
      rw [hr, Function.update_idem]
      rfl
    · refine ⟨w, ?_⟩
      show { g with a := Function.update (Function.update g.a r w) _ _ } = g.setA r w
      rw [Function.update_comm (Ne.symm hr), Function.update_eq_self]
      rfl

/-- Loading registers with their own values changes none, whatever An holds in between. -/
theorem loadRegisters_self (g : NgM68kState) (r : Fin 8) (regs : List Nat) (w : BitVec 32) :
    (loadRegisters (movemReg g) regs (g.setA r w)).setA r (g.a r) = g := by
  induction regs generalizing w with
  | nil =>
    show { g with a := Function.update (Function.update g.a r w) r (g.a r) } = g
    rw [Function.update_idem, Function.update_eq_self]
  | cons i regs ih =>
    obtain ⟨w', hw'⟩ := setMovemReg_self g r w i
    show (loadRegisters (movemReg g) regs
      (setMovemReg i (movemReg g i) (g.setA r w))).setA r (g.a r) = g
    rw [hw', ih]

/-- `MOVEM.L list,-(An)` and `MOVEM.L (An)+,list` with the reversed mask. -/
structure MovemPair (save load : NgM68kInstr) : Prop where
  save_mnemonic : save.mnemonic = .movem
  load_mnemonic : load.mnemonic = .movem
  save_size : save.size = 4
  load_size : load.size = 4
  save_dst : save.dst.mode = .apre
  load_dst : load.dst.mode = .none
  load_src : load.src.mode = .apost
  reg : regIndex load.src.reg = regIndex save.dst.reg
  mask : load.immediate.setWidth 16 = (save.immediate.setWidth 16 : BitVec 16).reverse

section Run
variable {β : Type} [GeneratedAbi β] {area : Set (BitVec 32)} {peek : β → BitVec 32 → BitVec 8}
  {save load : NgM68kInstr}

theorem movemSave_text (h : MovemPair save load) :
    (emitInstr (β := β) save).text = (do
      let addr ← (movemBits (save.immediate.setWidth 16)).foldlM (movemStoreDown 4)
        (aregAddr save.dst (← getCpu))
      modifyCpu fun g => g.setA (regIndex save.dst.reg) addr) := by
  have hemit : emitInstr (β := β) save = orUnsupported save (emitMovem save) := by
    simp only [emitInstr, h.save_mnemonic]
  have hdst : save.dst.mode ≠ .none := by
    rw [h.save_dst]
    decide
  rw [hemit, emitMovem, if_pos hdst, if_pos h.save_dst, h.save_size]
  rfl

theorem movemLoad_text (h : MovemPair save load) :
    (emitInstr (β := β) load).text = (do
      let addr ← (movemBits (load.immediate.setWidth 16)).foldlM (movemLoad 4)
        (aregAddr load.src (← getCpu))
      modifyCpu fun g => g.setA (regIndex load.src.reg) addr) := by
  have hemit : emitInstr (β := β) load = orUnsupported load (emitMovem load) := by
    simp only [emitInstr, h.load_mnemonic]
  have hsrc : load.src.mode ≠ .none := by
    rw [h.load_src]
    decide
  rw [hemit, emitMovem, if_neg (not_not.mpr h.load_dst), if_pos hsrc, if_pos h.load_src, h.load_size]
  rfl

/-- The save leaves An at the lowest of the stored words, which hold the registers in the order of
the load. -/
theorem movemSave_run (h : MovemPair save load) (ram : RamArea area peek) (m : Machine β) {n : Nat}
    (hn : (movemBits (load.immediate.setWidth 16)).length = n)
    (hin : ∀ a ∈ limbAddrs 4 (m.cpu.a (regIndex save.dst.reg)) n, OperandIn area 4 a) :
    ∃ m', (emitInstr save).text m = .next () m' ∧
      m'.cpu = m.cpu.setA (regIndex save.dst.reg)
        (m.cpu.a (regIndex save.dst.reg) - longOffset n) ∧
      m'.traceSr = m.traceSr ∧
      List.Forall₂ (HoldsAt peek m'.bus 4)
        (longAddrs (m.cpu.a (regIndex save.dst.reg) - longOffset n) n)
        ((movemBits (load.immediate.setWidth 16)).map (movemReg m.cpu)) := by
  have hregs := movemBits_reverse (save.immediate.setWidth 16)
  rw [← h.mask] at hregs
  have hlen : (movemBits (save.immediate.setWidth 16)).length = n := by
    rw [← hn, hregs, List.length_reverse, List.length_map]
  have hle := movemBits_length_le (save.immediate.setWidth 16)
  rw [hlen] at hle
  obtain ⟨m₁, hstores, hcpu, htrace, hholds, -⟩ := movemStores_spec ram
    (movemBits (save.immediate.setWidth 16)) (m.cpu.a (regIndex save.dst.reg)) m
    (by rwa [hlen]) (by rw [hlen]; exact limbAddrs_apart _ hle)
  rw [hlen] at hstores hholds
  have haddr : aregAddr save.dst m.cpu = m.cpu.a (regIndex save.dst.reg) := rfl
  refine ⟨{ m₁ with
    cpu := m₁.cpu.setA (regIndex save.dst.reg)
      (m.cpu.a (regIndex save.dst.reg) - longOffset n) }, ?_, ?_, htrace, ?_⟩
  · rw [movemSave_text h, bind_apply, getCpu_apply]
    dsimp only
    rw [haddr, bind_of_next hstores]
    rfl
  · rw [hcpu]
  · have hwords : (movemBits (load.immediate.setWidth 16)).map (movemReg m.cpu) =
        ((movemBits (save.immediate.setWidth 16)).map fun bit => movemReg m.cpu (15 - bit)).reverse := by
      rw [hregs, List.map_reverse, List.map_map]
      rfl
    rw [← limbAddrs_reverse]
    exact Eq.subst (motive := List.Forall₂ (HoldsAt peek m₁.bus 4) _) hwords.symm
      (List.rel_reverse hholds)

/-- The load finds the words at An and leaves An behind them. -/
theorem movemLoad_run (h : MovemPair save load) (ram : RamArea area peek) (f : Nat → BitVec 32)
    {addr : BitVec 32} {n : Nat} (hn : (movemBits (load.immediate.setWidth 16)).length = n)
    (m : Machine β) (ha : m.cpu.a (regIndex save.dst.reg) = addr)
    (hin : ∀ a ∈ longAddrs addr n, OperandIn area 4 a)
    (hholds : List.Forall₂ (HoldsAt peek m.bus 4) (longAddrs addr n)
      ((movemBits (load.immediate.setWidth 16)).map f)) :
    ∃ m', (emitInstr load).text m = .next () m' ∧
      m'.cpu = (loadRegisters f (movemBits (load.immediate.setWidth 16)) m.cpu).setA
        (regIndex save.dst.reg) (addr + longOffset n) ∧
      m'.traceSr = m.traceSr := by
  subst hn
  obtain ⟨m₁, hloads, hcpu, htrace⟩ := movemLoads_spec ram f
    (movemBits (load.immediate.setWidth 16)) addr m hin hholds
  have haddr : aregAddr load.src m.cpu = addr := by
    rw [← ha, ← h.reg]
    rfl
  refine ⟨{ m₁ with
    cpu := m₁.cpu.setA (regIndex save.dst.reg)
      (addr + longOffset (movemBits (load.immediate.setWidth 16)).length) }, ?_, ?_, htrace⟩
  · rw [movemLoad_text h, bind_apply, getCpu_apply]
    dsimp only
    rw [haddr, bind_of_next hloads, h.reg]
    rfl
  · rw [hcpu]

/-- Saving registers and loading them again changes no register and no flag, where the words below
An are RAM. -/
theorem movem_save_restore (h : MovemPair save load) (ram : RamArea area peek) (m : Machine β)
    (hin : ∀ a ∈ limbAddrs 4 (m.cpu.a (regIndex save.dst.reg))
      (movemBits (load.immediate.setWidth 16)).length, OperandIn area 4 a) :
    ∃ m', (do (emitInstr save).text; (emitInstr load).text) m = .next () m' ∧
      m'.cpu = m.cpu ∧ m'.traceSr = m.traceSr := by
  obtain ⟨m₁, hsave, hcpu₁, htrace₁, hholds⟩ := movemSave_run h ram m rfl hin
  have hreg : m₁.cpu.a (regIndex save.dst.reg) = m.cpu.a (regIndex save.dst.reg) -
      longOffset (movemBits (load.immediate.setWidth 16)).length := by
    rw [hcpu₁]
    exact Function.update_self ..
  obtain ⟨m₂, hload, hcpu₂, htrace₂⟩ := movemLoad_run h ram (movemReg m.cpu) rfl m₁ hreg (by
    rw [← limbAddrs_reverse]
    intro a ha
    exact hin a (List.mem_reverse.mp ha)) hholds
  refine ⟨m₂, by rw [bind_of_next hsave, hload], ?_, htrace₂.trans htrace₁⟩
  rw [hcpu₂, hcpu₁, BitVec.sub_add_cancel]
  exact loadRegisters_self m.cpu _ _ _

/-- `MOVEM.L D0/D1/A0,-(A0)`. -/
def movemSaveInstr : NgM68kInstr :=
  { addr := 0x1000, opcode := 0x48E0, mnemonic := .movem, byteLength := 4, size := 4,
    immediate := 0xC080, dst := { mode := .apre } }

/-- `MOVEM.L (A0)+,D0/D1/A0`. -/
def movemLoadInstr : NgM68kInstr :=
  { addr := 0x1004, opcode := 0x4CD8, mnemonic := .movem, byteLength := 4, size := 4,
    immediate := 0x0103, src := { mode := .apost } }

/-- Every An sixteen bytes above the start of the work RAM. -/
def ramStackMachine : Machine Ram where
  cpu := { d := fun _ => 0, a := fun _ => 0x00100010, pc := 0, sr := 0, usp := 0, ssp := 0 }
  bus := { bytes := fun _ => 0 }
  traceSr := 0
  log := []

theorem movem_save_restore_a0 :
    ∃ m', (do (emitInstr movemSaveInstr).text; (emitInstr movemLoadInstr).text) ramStackMachine =
        .next () m' ∧
      m'.cpu = ramStackMachine.cpu ∧ m'.traceSr = ramStackMachine.traceSr :=
  movem_save_restore ⟨rfl, rfl, rfl, rfl, rfl, rfl, rfl, rfl, by decide⟩ Ram.ramArea ramStackMachine
    fun _ _ _ _ => trivial

end Run

end NeoRecomp
