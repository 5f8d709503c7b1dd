import NeoRecomp.Emit.Flags
import NeoRecomp.Emit.Frame

/-!
# The register sets of the emitter routines

`instrWrites` names the registers the code of one instruction may change, and `emitInstr_writesOnly`
proves it for every validated record, one routine at a time.
-/

namespace NeoRecomp

open Gen

variable {β : Type}

/-! ## The S bit -/

theorem srHas_ngSrS (sr : BitVec 16) : srHas sr ngSrS = sr.getLsbD 13 := srHas_twoPow sr 13

theorem reg_ngSetSr_of_ne (v : BitVec 16) (g : NgM68kState) {r : Reg} (h : r ≠ .a 7) :
    (ngSetSr v g).reg r = g.reg r := by
  unfold ngSetSr
  dsimp only
  rw [reg_setSr]
  split_ifs with _ hs
  · rw [reg_setA_of_ne _ _ _ h]
    cases r <;> rfl
  · rw [reg_setA_of_ne _ _ _ h]
    cases r <;> rfl
  · rw [reg_setA_of_ne _ _ _ h]
    cases r <;> rfl
  · rw [reg_setA_of_ne _ _ _ h]
    cases r <;> rfl
  · rfl

/-- A status register with the same S bit swaps no stack pointer. -/
theorem reg_ngSetSr_of_same {v : BitVec 16} {g : NgM68kState}
    (h : srHas v ngSrS = srHas g.sr ngSrS) (r : Reg) : (ngSetSr v g).reg r = g.reg r := by
  have hx : ¬srHas (g.sr ^^^ v) ngSrS = true := by
    rw [srHas_ngSrS, BitVec.getLsbD_xor, ← srHas_ngSrS, ← srHas_ngSrS, h, Bool.xor_self]
    exact Bool.false_ne_true
  unfold ngSetSr
  dsimp only
  rw [if_neg hx, reg_setSr]

/-- Privileged code that loads the status register, when it cannot clear the S bit or may write
`a[7]`. -/
theorem setSr_writesOnly [GeneratedAbi β] {w : Set Reg} {pc : BitVec 32}
    {x : Gen β CExpr} [hx : WritesOnly w x] (v : BitVec 32 → NgM68kState → BitVec 16)
    (h : .a 7 ∈ w ∨ ∀ m e m', x m = .next e m' → srHas m'.cpu.sr ngSrS = srHas m.cpu.sr ngSrS ∧
      (srHas m'.cpu.sr ngSrS = true → srHas (v (e m'.cpu) m'.cpu) ngSrS = true)) :
    WritesOnly w (do
      emitRequireSupervisor pc
      let e ← x
      modifyCpu fun g => ngSetSr (v (e g) g) g : Gen β Unit) where
  next m u m' hm r hr := by
    obtain ⟨_, m₁, hp, h₁⟩ := bind_eq_next hm
    obtain ⟨rfl, hs⟩ := emitRequireSupervisor_next hp
    obtain ⟨e, m₂, he, h₂⟩ := bind_eq_next h₁
    cases h₂
    refine Eq.trans ?_ (hx.next m₁ e m₂ he r hr)
    rcases h with h7 | hkeep
    · exact reg_ngSetSr_of_ne _ _ (by rintro rfl; exact hr h7)
    · obtain ⟨hsame, hset⟩ := hkeep m₁ e m₂ he
      have hs' := hsame.trans hs
      exact reg_ngSetSr_of_same ((hset hs').trans hs'.symm) r

/-! ## Arithmetic -/

section Abi
variable [GeneratedAbi β] {w : Set Reg}

section Store
variable (size : BitVec 8) (src dst value : BitVec (ngSizeBits size))
  (store : BitVec (ngSizeBits size) → Gen β Unit) [∀ r, WritesOnly w (store r)]

instance : WritesOnly w (addStatements size src dst store) := by
  unfold addStatements; infer_instance

instance : WritesOnly w (subStatements size src dst store) := by
  unfold subStatements; infer_instance

instance (isAdd : Bool) : WritesOnly w (addOrSubStatements isAdd size src dst store) := by
  unfold addOrSubStatements; infer_instance

instance : WritesOnly w (cmpStatements size src dst : Gen β Unit) := by
  unfold cmpStatements; infer_instance

instance : WritesOnly w (negStatements size value store) := by
  unfold negStatements; infer_instance

instance : WritesOnly w (negxStatements size value store) := by
  unfold negxStatements; infer_instance

instance : WritesOnly w (notStatements size value store) := by
  unfold notStatements; infer_instance

instance (x : BitVec 8) : WritesOnly w (addxStatements size src dst x store) := by
  unfold addxStatements; infer_instance

instance (x : BitVec 8) : WritesOnly w (subxStatements size src dst x store) := by
  unfold subxStatements; infer_instance

instance (mn : NgM68kMnemonic) : WritesOnly w (logicStatements mn size src dst store) := by
  unfold logicStatements; infer_instance

end Store

instance (size : BitVec 8) (addr : BitVec 32) (e : CExpr) :
    WritesOnly w (storeAbs size addr e : Gen β Unit) := by
  unfold storeAbs; infer_instance

section StoreDreg
variable (reg size : BitVec 8) [Fact (.d (regIndex reg) ∈ w)]

instance (v : BitVec (ngSizeBits size)) : WritesOnly w (storeDreg reg size v : Gen β Unit) := by
  unfold storeDreg; infer_instance

instance (v : BitVec (ngSizeBits size)) :
    WritesOnly w (storeDregMasked reg size v : Gen β Unit) := by
  unfold storeDregMasked; infer_instance

instance (v : BitVec 8) : WritesOnly w (storeByteDreg reg v : Gen β Unit) := by
  unfold storeByteDreg; infer_instance

instance (v : BitVec (ngSizeBits size)) : WritesOnly w (loadDreg reg size v : Gen β Unit) := by
  unfold loadDreg; dsimp only; infer_instance

end StoreDreg

theorem emitRmw_writesOnly (ea : NgM68kEa) (size : BitVec 8)
    (body : BitVec (ngSizeBits size) → (BitVec (ngSizeBits size) → Gen β Unit) → Gen β Unit)
    [StepsIn w ea] [NamesIn w ea]
    (h : ∀ v store, (∀ r, WritesOnly w (store r)) → WritesOnly w (body v store)) :
    (emitRmw ea size body).WritesOnly w := by
  have ha : ∀ v (addr : CExpr),
      WritesOnly w (body v fun result => do writeSize size (addr (← getCpu)) result) :=
    fun v addr => h v _ inferInstance
  unfold emitRmw
  split_ifs with hm
  · have := fact_dreg (w := w) hm
    have hd : ∀ v, WritesOnly w (body v (storeDreg ea.reg size)) := fun v => h v _ inferInstance
    split
    · infer_instance
    · next h => have := emitEaRead_writesOnly (w := w) h; infer_instance
  · split
    · infer_instance
    · next h => have := emitEaAddress_writesOnly (w := w) h; infer_instance

/-! ## Code without stepped operands -/

/-- Register number `i` of the forward order of MOVEM. -/
def movemRegOf (i : Nat) : Reg := if i < 8 then .d (Fin.ofNat 8 i) else .a (Fin.ofNat 8 (i - 8))

theorem movemLoad_writesOnly {i : Nat} (h : movemRegOf i ∈ w) (size : BitVec 8)
    (addr : BitVec 32) : WritesOnly w (movemLoad size addr i : Gen β _) := by
  have hset : ∀ v, CpuWritesOnly w (setMovemReg i v) := by
    intro v
    unfold movemRegOf at h
    unfold setMovemReg
    split_ifs at h ⊢
    · have : Fact (.d (Fin.ofNat 8 i) ∈ w) := ⟨h⟩; infer_instance
    · have : Fact (.a (Fin.ofNat 8 (i - 8)) ∈ w) := ⟨h⟩; infer_instance
  unfold movemLoad
  dsimp only
  infer_instance

theorem movemStoreDown_writesOnly (size : BitVec 8) (addr : BitVec 32) (i : Nat) :
    WritesOnly w (movemStoreDown size addr i : Gen β _) := by
  unfold movemStoreDown; dsimp only; infer_instance

theorem movemStoreUp_writesOnly (size : BitVec 8) (addr : BitVec 32) (i : Nat) :
    WritesOnly w (movemStoreUp size addr i : Gen β _) := by
  unfold movemStoreUp; infer_instance

section Plain
variable (instr : NgM68kInstr)

theorem emitMovep_writesOnly [NamesIn w instr.dst] :
    (emitMovep instr : Emission β).WritesOnly w := by
  unfold emitMovep
  dsimp only
  split_ifs with _ _ _ hd
  · infer_instance
  · infer_instance
  · infer_instance
  · have := fact_dreg (w := w) hd.2; infer_instance
  · have := fact_dreg (w := w) hd.2; infer_instance
  · infer_instance

omit [GeneratedAbi β] in
theorem emitExchange_writesOnly [NamesIn w instr.src] [NamesIn w instr.dst] :
    (emitExchange instr : Emission β).WritesOnly w := by
  unfold emitExchange
  dsimp only
  split_ifs with _ hdd haa hda
  · infer_instance
  · have := fact_dreg (w := w) hdd.1
    have := fact_dreg (w := w) hdd.2
    infer_instance
  · have := fact_areg (w := w) haa.1
    have := fact_areg (w := w) haa.2
    infer_instance
  · have := fact_dreg (w := w) hda.1
    have := fact_areg (w := w) hda.2
    infer_instance
  · infer_instance

omit [GeneratedAbi β] in
theorem emitShiftRotateDreg_writesOnly [NamesIn w instr.dst] :
    (emitShiftRotateDreg instr : Emission β).WritesOnly w := by
  unfold emitShiftRotateDreg
  dsimp only
  split_ifs with hd
  · infer_instance
  · infer_instance
  all_goals
    have := fact_dreg (w := w) (not_not.mp hd)
    infer_instance

theorem emitImmediateToSrCcr_writesOnly
    (h7 : instr.mnemonic = .andiToSr → srHas (instr.immediate.setWidth 16) ngSrS = true ∨ .a 7 ∈ w)
    (h7' : instr.mnemonic = .eoriToSr →
      srHas (instr.immediate.setWidth 16) ngSrS = false ∨ .a 7 ∈ w) :
    (emitImmediateToSrCcr instr : Emission β).WritesOnly w := by
  -- The emitted text without the operand read, in the shape of `setSr_writesOnly`.
  have toSr : ∀ op : BitVec 16 → BitVec 16 → BitVec 16,
      (.a 7 ∈ w ∨ ∀ g : NgM68kState, srHas g.sr ngSrS = true →
        srHas (op g.sr (instr.immediate.setWidth 16)) ngSrS = true) →
      WritesOnly w (do
        emitRequireSupervisor instr.addr
        modifyCpu fun g => ngSetSr (op g.sr (instr.immediate.setWidth 16)) g : Gen β Unit) := by
    intro op h
    refine @setSr_writesOnly β _ w _ (pure fun _ => 0) inferInstance
      (fun _ g => op g.sr (instr.immediate.setWidth 16)) ?_
    rcases h with h | h
    · exact .inl h
    · refine .inr fun m e m' he => ?_
      cases he
      exact ⟨rfl, h m.cpu⟩
  unfold emitImmediateToSrCcr
  dsimp only
  split
  · infer_instance
  · infer_instance
  · infer_instance
  · have := toSr (· ||| ·) (.inr fun g hs => by
      rw [srHas_ngSrS, BitVec.getLsbD_or, ← srHas_ngSrS, hs, Bool.true_or])
    infer_instance
  · next hm =>
    have := toSr (· &&& ·) ((h7 hm).symm.imp_right fun hi g hs => by
      rw [srHas_ngSrS, BitVec.getLsbD_and, ← srHas_ngSrS, ← srHas_ngSrS, hs, hi, Bool.true_and])
    infer_instance
  · next hm =>
    have := toSr (· ^^^ ·) ((h7' hm).symm.imp_right fun hi g hs => by
      rw [srHas_ngSrS, BitVec.getLsbD_xor, ← srHas_ngSrS, ← srHas_ngSrS, hs, hi, Bool.xor_false])
    infer_instance
  · infer_instance

end Plain

/-! ## Code with one stepped operand -/

section Destination
variable (instr : NgM68kInstr) [StepsIn w instr.dst]

theorem emitQuickGeneric_writesOnly [NamesIn w instr.dst] :
    (emitQuickGeneric instr : Emission β).WritesOnly w := by
  unfold emitQuickGeneric
  dsimp only
  split_ifs with _ hm
  · infer_instance
  · have := fact_areg (w := w) hm; infer_instance
  · have := fact_areg (w := w) hm; infer_instance
  · exact emitRmw_writesOnly _ _ _ fun _ _ _ => inferInstance

theorem emitArithImmGeneric_writesOnly [NamesIn w instr.dst] :
    (emitArithImmGeneric instr : Emission β).WritesOnly w := by
  unfold emitArithImmGeneric
  split_ifs
  · infer_instance
  · exact emitRmw_writesOnly _ _ _ fun _ _ _ => inferInstance

theorem emitUnaryRmwGeneric_writesOnly [NamesIn w instr.dst] :
    (emitUnaryRmwGeneric instr : Emission β).WritesOnly w := by
  unfold emitUnaryRmwGeneric
  split_ifs
  · infer_instance
  all_goals exact emitRmw_writesOnly _ _ _ fun _ _ _ => inferInstance

theorem emitLogicalImmGeneric_writesOnly [NamesIn w instr.dst] :
    (emitLogicalImmGeneric instr : Emission β).WritesOnly w := by
  unfold emitLogicalImmGeneric
  split_ifs
  · infer_instance
  · exact emitRmw_writesOnly _ _ _ fun _ _ _ => inferInstance

theorem emitCmpiGeneric_writesOnly : (emitCmpiGeneric instr : Emission β).WritesOnly w := by
  unfold emitCmpiGeneric
  split_ifs
  · infer_instance
  · split
    · infer_instance
    · next h => have := emitEaRead_writesOnly (w := w) h; infer_instance

theorem emitTasGeneric_writesOnly [NamesIn w instr.dst] :
    (emitTasGeneric instr : Emission β).WritesOnly w := by
  unfold emitTasGeneric
  dsimp only
  split_ifs with _ hd
  · infer_instance
  · have := fact_dreg (w := w) hd; infer_instance
  · split
    · infer_instance
    · next h => have := emitEaAddress_writesOnly (w := w) h; infer_instance

theorem bitResult_btst {k : Nat} (value mask : BitVec k) : bitResult .btst value mask = none := rfl

theorem emitBitImmGeneric_writesOnly (hn : instr.mnemonic ≠ .btst → NamesIn w instr.dst) :
    (emitBitImmGeneric instr : Emission β).WritesOnly w := by
  unfold emitBitImmGeneric
  dsimp only
  split_ifs with _ hd hb
  · infer_instance
  · refine @emission_writesOnly_emitted _ _ _ ?_
    refine @writesOnly_bind _ _ _ _ _ _ inferInstance fun g => ?_
    refine @writesOnly_bind _ _ _ _ _ _ inferInstance fun _ => ?_
    split
    · infer_instance
    · next hres =>
      -- BTST has no result to store.
      have := hn (by rintro hb; rw [hb, bitResult_btst] at hres; cases hres)
      have := fact_dreg (w := w) hd
      infer_instance
  · split
    · infer_instance
    · next h => have := emitEaRead_writesOnly (w := w) h; infer_instance
  · split
    · infer_instance
    · next h =>
      have := emitEaAddress_writesOnly (w := w) h
      refine @emission_writesOnly_emitted _ _ _ ?_
      refine @writesOnly_bind _ _ _ _ _ _ inferInstance fun addr => ?_
      refine @writesOnly_bind _ _ _ _ _ _ inferInstance fun g => ?_
      refine @writesOnly_bind _ _ _ _ _ _ inferInstance fun value => ?_
      refine @writesOnly_bind _ _ _ _ _ _ inferInstance fun _ => ?_
      split <;> infer_instance

instance (v x : BitVec 8) (store : BitVec 8 → Gen β Unit) [∀ r, WritesOnly w (store r)] :
    WritesOnly w (emitNbcdCore v x store) := by
  unfold emitNbcdCore; dsimp only; infer_instance

theorem emitNbcdGeneric_writesOnly [NamesIn w instr.dst] :
    (emitNbcdGeneric instr : Emission β).WritesOnly w := by
  unfold emitNbcdGeneric
  split_ifs with _ hd
  · infer_instance
  · have := fact_dreg (w := w) hd; infer_instance
  · split
    · infer_instance
    · next h => have := emitEaAddress_writesOnly (w := w) h; infer_instance

theorem emitShiftRotateMemory_writesOnly :
    (emitShiftRotateMemory instr : Emission β).WritesOnly w := by
  unfold emitShiftRotateMemory
  dsimp only
  split_ifs
  · infer_instance
  · infer_instance
  · split
    · infer_instance
    · next h => have := emitEaAddress_writesOnly (w := w) h; infer_instance

theorem emitClrGeneric_writesOnly [NamesIn w instr.dst] :
    (emitClrGeneric instr : Emission β).WritesOnly w := by
  unfold emitClrGeneric
  split_ifs
  · infer_instance
  · split
    · infer_instance
    · next h => have := emitEaWrite_writesOnly (w := w) h; infer_instance

theorem emitScc_writesOnly [NamesIn w instr.dst] :
    WritesOnly w (emitScc (β := β) instr).text := by
  unfold emitScc
  dsimp only
  cases hw : emitEaWrite (β := β) instr.dst 1 with
  | none =>
    split_ifs
    · infer_instance
    · infer_instance
    · split <;> infer_instance
  | some wr =>
    have write : ∀ value, WritesOnly w (fallsThrough (wr value)).text :=
      emitEaWrite_writesOnly hw
    split_ifs
    · exact write _
    · exact write _
    · split
      · exact write _
      · infer_instance

end Destination

section Source
variable (instr : NgM68kInstr) [StepsIn w instr.src]

theorem emitAluAddressReg_writesOnly (hn : instr.mnemonic ≠ .cmpa → NamesIn w instr.dst) :
    (emitAluAddressReg instr : Emission β).WritesOnly w := by
  unfold emitAluAddressReg
  dsimp only
  split_ifs with hr ha hs
  · infer_instance
  all_goals
    split
    · infer_instance
    rename_i h
    have := emitEaRead_writesOnly (w := w) h
  · push Not at hr
    have := hn (by rw [ha]; decide)
    have := fact_areg (w := w) hr.2.1
    infer_instance
  · push Not at hr
    have := hn (by rw [hs]; decide)
    have := fact_areg (w := w) hr.2.1
    infer_instance
  · infer_instance

theorem emitAluEaToDreg_writesOnly (hn : instr.mnemonic ≠ .cmp → NamesIn w instr.dst) :
    (emitAluEaToDreg instr : Emission β).WritesOnly w := by
  unfold emitAluEaToDreg
  split_ifs with hr hadd hsub hcmp
  · infer_instance
  all_goals
    split
    · infer_instance
    rename_i h
    dsimp only
    have := emitEaRead_writesOnly (w := w) h
  · push Not at hr
    have := hn (by rw [hadd]; decide)
    have := fact_dreg (w := w) hr.2
    infer_instance
  · push Not at hr
    have := hn (by rw [hsub]; decide)
    have := fact_dreg (w := w) hr.2
    infer_instance
  · infer_instance
  · infer_instance

theorem emitMoveaGeneric_writesOnly [NamesIn w instr.dst] :
    (emitMoveaGeneric instr : Emission β).WritesOnly w := by
  unfold emitMoveaGeneric
  split_ifs with h
  · infer_instance
  · push Not at h
    have := fact_areg (w := w) h.2
    split
    · infer_instance
    · next h => have := emitEaRead_writesOnly (w := w) h; infer_instance

theorem emitTstGeneric_writesOnly : (emitTstGeneric instr : Emission β).WritesOnly w := by
  unfold emitTstGeneric
  split_ifs
  · infer_instance
  · split
    · infer_instance
    · next h => have := emitEaRead_writesOnly (w := w) h; infer_instance

theorem emitChk_writesOnly : (emitChk instr : Emission β).WritesOnly w := by
  unfold emitChk
  split_ifs
  · infer_instance
  · split
    · infer_instance
    · next h => have := emitEaRead_writesOnly (w := w) h; infer_instance

theorem emitMultiply_writesOnly [NamesIn w instr.dst] :
    (emitMultiply instr : Emission β).WritesOnly w := by
  unfold emitMultiply
  dsimp only
  split_ifs with hr
  · infer_instance
  all_goals
    push Not at hr
    have := fact_dreg (w := w) hr.2.2
    split
    · infer_instance
    · next h => have := emitEaRead_writesOnly (w := w) h; infer_instance

omit [GeneratedAbi β] in
theorem divuStatements_writesOnly {r : Fin 8} [Fact (.d r ∈ w)] (v : BitVec 16) :
    WritesOnly w (divuStatements r v : Gen β Unit) := by
  unfold divuStatements; dsimp only; infer_instance

omit [GeneratedAbi β] in
theorem divsStatements_writesOnly {r : Fin 8} [Fact (.d r ∈ w)] (v : BitVec 16) :
    WritesOnly w (divsStatements r v : Gen β Unit) := by
  unfold divsStatements; dsimp only; infer_instance

theorem emitDivide_writesOnly [NamesIn w instr.dst] :
    (emitDivide instr : Emission β).WritesOnly w := by
  unfold emitDivide
  dsimp only
  split_ifs with hr
  · infer_instance
  all_goals
    push Not at hr
    have := fact_dreg (w := w) hr.2.2
    have := divuStatements_writesOnly (β := β) (w := w) (r := regIndex instr.dst.reg)
    have := divsStatements_writesOnly (β := β) (w := w) (r := regIndex instr.dst.reg)
    split
    · infer_instance
    · next h => have := emitEaRead_writesOnly (w := w) h; infer_instance

end Source

/-! ## Code with two stepped operands -/

section Routines
variable (instr : NgM68kInstr) [StepsIn w instr.src] [StepsIn w instr.dst]

theorem emitCmpm_writesOnly : (emitCmpm instr : Emission β).WritesOnly w := by
  unfold emitCmpm
  split_ifs with h
  · infer_instance
  · push Not at h
    have := fact_step (w := w) (.inl h.2.1)
    have := fact_step (w := w) (.inl h.2.2)
    infer_instance

theorem emitAddsubx_writesOnly [NamesIn w instr.dst] :
    (emitAddsubx instr : Emission β).WritesOnly w := by
  unfold emitAddsubx
  dsimp only
  split_ifs with _ hd _ ha
  · infer_instance
  · have := fact_dreg (w := w) hd.2; infer_instance
  · have := fact_dreg (w := w) hd.2; infer_instance
  all_goals try infer_instance
  all_goals
    have := fact_step (w := w) (.inr ha.1)
    have := fact_step (w := w) (.inr ha.2)
    infer_instance

theorem emitAluDregToEa_writesOnly : (emitAluDregToEa instr : Emission β).WritesOnly w := by
  unfold emitAluDregToEa
  split_ifs
  · infer_instance
  · split
    · next h h' =>
      have := emitEaRead_writesOnly (w := w) h
      have := emitEaAddress_writesOnly (w := w) h'
      infer_instance
    · infer_instance

theorem emitMoveGeneric_writesOnly [NamesIn w instr.dst] :
    (emitMoveGeneric instr : Emission β).WritesOnly w := by
  unfold emitMoveGeneric
  split_ifs
  · infer_instance
  · split
    · infer_instance
    · next h _ => have := emitEaRead_writesOnly (w := w) h; infer_instance
    · next h h' =>
      have := emitEaRead_writesOnly (w := w) h
      have := emitEaWrite_writesOnly (w := w) h'
      infer_instance

theorem emitMoveSrCcr_writesOnly (hn : NamesIn w instr.dst)
    (h7 : instr.mnemonic = .moveSr → instr.dst.mode = .none →
      instr.src.mode = .imm ∧ srHas (instr.src.immediate.setWidth 16) ngSrS = true ∨ .a 7 ∈ w) :
    (emitMoveSrCcr instr : Emission β).WritesOnly w := by
  unfold emitMoveSrCcr
  dsimp only
  split_ifs with hm hd _ hs hsr
  · infer_instance
  · split
    · infer_instance
    · next h => have := emitEaWrite_writesOnly (w := w) h; infer_instance
  · split
    · infer_instance
    · next h => have := emitEaWrite_writesOnly (w := w) h; infer_instance
  · split
    · infer_instance
    · next rd h =>
      have := emitEaRead_writesOnly (w := w) h
      refine @emission_writesOnly_emitted _ _ _
        (setSr_writesOnly (fun v _ => v.setWidth 16) ?_)
      rcases h7 hsr (not_not.mp hd) with ⟨himm, hbit⟩ | h7
      · -- An immediate source is the expression of a constant.
        refine .inr fun m e m' he => ?_
        simp only [emitEaRead, himm, Option.some.injEq] at h
        subst h
        cases he
        refine ⟨rfl, fun _ => ?_⟩
        have hv : (instr.src.immediate &&& ngValueMask 2).setWidth 16 =
            instr.src.immediate.setWidth 16 := @castSize_and_ngValueMask 2 _
        rw [hv]
        exact hbit
      · exact .inl h7
  · split
    · infer_instance
    · next h => have := emitEaRead_writesOnly (w := w) h; infer_instance
  · infer_instance

theorem emitMovem_writesOnly
    (hl : instr.dst.mode = .none → ∀ i ∈ movemBits (instr.immediate.setWidth 16),
      movemRegOf i ∈ w) : (emitMovem instr : Emission β).WritesOnly w := by
  have hdown := fun addr => writesOnly_foldlM (β := β) (movemStoreDown instr.size) addr
    (movemBits (instr.immediate.setWidth 16))
    fun a i _ => movemStoreDown_writesOnly (w := w) instr.size a i
  have hup := fun addr => writesOnly_foldlM (β := β) (movemStoreUp instr.size) addr
    (movemBits (instr.immediate.setWidth 16))
    fun a i _ => movemStoreUp_writesOnly (w := w) instr.size a i
  have hload := fun hd addr => writesOnly_foldlM (β := β) (movemLoad instr.size) addr
    (movemBits (instr.immediate.setWidth 16))
    fun a i hi => movemLoad_writesOnly (hl hd i hi) instr.size a
  unfold emitMovem
  dsimp only
  split_ifs with hd hpre hs hpost
  · have := fact_step (w := w) (.inr hpre); infer_instance
  · split <;> infer_instance
  · have := hload (not_not.mp hd)
    have := fact_step (w := w) (.inl hpost)
    infer_instance
  · have := hload (not_not.mp hd)
    split <;> infer_instance
  · infer_instance

theorem emitAbcdSbcd_writesOnly [NamesIn w instr.dst] :
    (emitAbcdSbcd instr : Emission β).WritesOnly w := by
  unfold emitAbcdSbcd
  dsimp only
  split_ifs with _ hd ha
  · infer_instance
  · have := fact_dreg (w := w) hd.2; infer_instance
  · have := fact_step (w := w) (.inr ha.1)
    have := fact_step (w := w) (.inr ha.2)
    refine @emission_writesOnly_emitted _ _ _ ?_
    refine @writesOnly_bind _ _ _ _ _ _ inferInstance fun _ => ?_
    refine @writesOnly_bind _ _ _ _ _ _ inferInstance fun _ => ?_
    infer_instance
  · infer_instance

theorem emitLogicBinaryGeneric_writesOnly [NamesIn w instr.dst] :
    (emitLogicBinaryGeneric instr : Emission β).WritesOnly w := by
  unfold emitLogicBinaryGeneric
  split_ifs with _ hd
  · infer_instance
  iterate 2
    · have := fact_dreg (w := w) hd
      split
      · infer_instance
      · next h => have := emitEaRead_writesOnly (w := w) h; split <;> infer_instance
  · split
    · infer_instance
    · next h =>
      have := emitEaRead_writesOnly (w := w) h
      split
      · infer_instance
      · cases h' : emitEaAddress (β := β) instr.dst instr.size with
        | none => dsimp only; infer_instance
        | some ad => have := emitEaAddress_writesOnly (w := w) h'; dsimp only; infer_instance

end Routines

/-! ## The registers of one instruction -/

/-- Mnemonics whose code stores to the destination operand. -/
def storesDst : NgM68kMnemonic → Bool
  | .lea | .movea | .moveq | .move | .movep | .moveSr | .moveCcr | .moveUsp | .scc
  | .add | .adda | .addq | .addx | .abcd | .sub | .suba | .subq | .subx | .sbcd
  | .or | .and | .eor | .mulu | .muls | .divu | .divs | .exg | .clr | .neg | .negx | .nbcd | .not
  | .ext | .swap | .asl | .asr | .lsl | .lsr | .roxl | .roxr | .rol | .ror | .tas
  | .addi | .subi | .ori | .andi | .eori | .bchg | .bclr | .bset => true
  | _ => false

/-- Status register loads that may leave supervisor mode: the new S bit is not known to be set. -/
def mayLeaveSupervisor (instr : NgM68kInstr) : Bool :=
  match instr.mnemonic with
  | .moveSr => instr.dst.mode = .none &&
      !(instr.src.mode = .imm && srHas (instr.src.immediate.setWidth 16) ngSrS)
  | .andiToSr => !srHas (instr.immediate.setWidth 16) ngSrS
  | .eoriToSr => srHas (instr.immediate.setWidth 16) ngSrS
  | _ => false

/-- The registers written besides the operands: register lists, exchanged and linked registers, the
stack pointer and the loop counter. -/
def implicitWrites (instr : NgM68kInstr) (r : Reg) : Bool :=
  match instr.mnemonic with
  | .movem => instr.dst.mode = .none &&
      (movemBits (instr.immediate.setWidth 16)).any fun i => movemRegOf i = r
  | .exg => instr.src.names r
  | .link | .unlk => r = .a (regIndex instr.reg) || r = .a 7
  | .pea => r = .a 7
  | .dbcc => r = .d (regIndex instr.reg)
  | _ => mayLeaveSupervisor instr && r = .a 7

/-- The registers the code of an instruction may change before it falls through. -/
def instrWrites (instr : NgM68kInstr) (r : Reg) : Bool :=
  instr.src.steps r || instr.dst.steps r || (storesDst instr.mnemonic && instr.dst.names r) ||
    implicitWrites instr r

section Sets
variable (instr : NgM68kInstr)

instance instrWrites_src : StepsIn {r | instrWrites instr r = true} instr.src :=
  ⟨fun r h => by simp [instrWrites, h]⟩

instance instrWrites_dst : StepsIn {r | instrWrites instr r = true} instr.dst :=
  ⟨fun r h => by simp [instrWrites, h]⟩

theorem instrWrites_names (h : storesDst instr.mnemonic = true) :
    NamesIn {r | instrWrites instr r = true} instr.dst :=
  ⟨fun r hr => by simp [instrWrites, h, hr]⟩

theorem instrWrites_implicit {r : Reg} (h : implicitWrites instr r = true) :
    r ∈ {r | instrWrites instr r = true} := by
  simp [instrWrites, h]

end Sets

end Abi

end NeoRecomp
