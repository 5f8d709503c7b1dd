import NeoRecomp.Correct.Extended
import NeoRecomp.Correct.LimbChains

/-!
# Multi-precision chains

ADDX, SUBX and NEGX, run limb by limb from the least significant one in data registers or through
predecremented address registers, compute the whole number exactly.
-/

namespace NeoRecomp

open Gen BitArith

/-! ## The chain of limbs -/

section Chain
variable {w : Nat} {mn : NgM68kMnemonic}

/-- The operation of an extended instruction on one limb. -/
def extendOp (mn : NgM68kMnemonic) : LimbOp w := fun x p =>
  (extendResult mn p.1 p.2 x, extendCarry mn p.1 p.2 x)

/-- The sign of the operation and the operand pair it acts on; NEGX subtracts from zero. -/
def chainSign (mn : NgM68kMnemonic) : Int := if mn = .addx then 1 else -1

def chainPair (mn : NgM68kMnemonic) (p : BitVec w × BitVec w) : BitVec w × BitVec w :=
  if mn = .negx then (0, p.1) else p

theorem extendExact_eq_limbExact (hm : isExtended mn = true) (x : Bool) (p : BitVec w × BitVec w) :
    extendExact mn p.1.toNat p.2.toNat x = limbExact (chainSign mn) x (chainPair mn p) := by
  cases mn <;> simp only [isExtended, Bool.false_eq_true] at hm
  case addx => simp [extendExact, limbExact, chainSign, chainPair]; omega
  case subx => simp [extendExact, limbExact, chainSign, chainPair]; omega
  case negx => simp [extendExact, limbExact, chainSign, chainPair]; omega

theorem opChain_eq_limbChain (hm : isExtended mn = true) (x z : Bool)
    (ps : List (BitVec w × BitVec w)) :
    (opChain (extendOp mn) x z ps).1 = (limbChain (chainSign mn) x (ps.map (chainPair mn))).1 ∧
      (opChain (extendOp mn) x z ps).2.1 =
        (limbChain (chainSign mn) x (ps.map (chainPair mn))).2 := by
  induction ps generalizing x z with
  | nil => simp [opChain, limbChain]
  | cons p ps ih =>
    have hstep : limbStep (chainSign mn) x (chainPair mn p) = extendOp mn x p := by
      rw [limbStep, extendOp, extendResult, extendCarry, extendExact_eq_limbExact hm]
    obtain ⟨h1, h2⟩ := ih (extendOp mn x p).2 (z && decide ((extendOp mn x p).1 = 0))
    simp only [opChain, List.map_cons, limbChain, hstep]
    exact ⟨by rw [h1], h2⟩

theorem chain_operands (hm : isExtended mn = true) (x : Bool) (ps : List (BitVec w × BitVec w)) :
    extendExact mn (limbsValue (ps.map Prod.fst)) (limbsValue (ps.map Prod.snd)) x =
      limbsValue ((ps.map (chainPair mn)).map Prod.fst) +
        chainSign mn * (limbsValue ((ps.map (chainPair mn)).map Prod.snd) + x.toNat) := by
  by_cases hneg : mn = .negx
  · subst hneg
    have hfst : (ps.map (chainPair .negx)).map Prod.fst = ps.map fun _ => (0 : BitVec w) := by
      rw [List.map_map]
      rfl
    have hsnd : (ps.map (chainPair .negx)).map Prod.snd = ps.map Prod.fst := by
      rw [List.map_map]
      rfl
    have hzero : limbsValue (ps.map fun _ => (0 : BitVec w)) = 0 := by
      rw [limbsValue_eq_zero_iff]
      simp
    rw [hfst, hsnd, hzero, extendExact, chainSign, if_neg (by decide)]
    · omega
    · intro h; cases h
    · intro h; cases h
  · have hid : ps.map (chainPair mn) = ps := by
      have : (chainPair mn : BitVec w × BitVec w → _) = id := by
        funext p
        rw [chainPair, if_neg hneg, id]
      rw [this, List.map_id]
    rw [hid]
    cases mn <;> simp only [isExtended, Bool.false_eq_true] at hm
    case addx => rw [extendExact, chainSign, if_pos rfl]; omega
    case subx => rw [extendExact, chainSign, if_neg (by decide)]; omega
    case negx => exact absurd rfl hneg

/-- The chain holds the exact result modulo `2^(w n)`, and X says that it did not fit. -/
theorem opChain_exact (hm : isExtended mn = true) (x z : Bool) (ps : List (BitVec w × BitVec w))
    {e : Int}
    (he : e = extendExact mn (limbsValue (ps.map Prod.fst)) (limbsValue (ps.map Prod.snd)) x) :
    (limbsValue (opChain (extendOp mn) x z ps).1 : Int) = e % 2 ^ (w * ps.length) ∧
      (opChain (extendOp mn) x z ps).2.1 = decide (¬ FitsUnsigned (w * ps.length) e) := by
  have hs : chainSign mn = 1 ∨ chainSign mn = -1 := by
    unfold chainSign
    split_ifs
    · exact .inl rfl
    · exact .inr rfl
  obtain ⟨h1, h2⟩ := opChain_eq_limbChain hm x z ps
  have hex := limbChain_exact hs x (ps.map (chainPair mn)) (he.trans (chain_operands hm x ps))
  rw [List.length_map] at hex
  exact ⟨by rw [h1, hex.1], by rw [h2, hex.2]⟩

/-- What a chain over the operand pairs `ps` must leave: the limbs `rs` hold the exact value modulo
`2^(w n)`, X and C say whether it fits, and Z is set if it was set and every limb is zero. -/
def ChainExact (mn : NgM68kMnemonic) (sr : BitVec 16) (ps : List (BitVec w × BitVec w))
    (rs : List (BitVec w)) (sr' : BitVec 16) : Prop :=
  let e := extendExact mn (limbsValue (ps.map Prod.fst)) (limbsValue (ps.map Prod.snd)) (flagX sr)
  rs.length = ps.length ∧
    (limbsValue rs : Int) = e % 2 ^ (w * ps.length) ∧
    flagX sr' = decide (¬ FitsUnsigned (w * ps.length) e) ∧
    (ps ≠ [] → flagC sr' = flagX sr') ∧
    (flagZ sr' = true ↔ flagZ sr = true ∧ ∀ r ∈ rs, r = 0)

theorem chainExact_of_opChain (hm : isExtended mn = true) {sr sr' : BitVec 16}
    {ps : List (BitVec w × BitVec w)} (hflags : FlagsAfterChain sr sr' (extendOp mn) ps) :
    ChainExact mn sr ps (opChain (extendOp mn) (flagX sr) (flagZ sr) ps).1 sr' := by
  obtain ⟨h1, h2⟩ := opChain_exact hm (flagX sr) (flagZ sr) ps rfl
  refine ⟨length_opChain _ _ _ _, h1, by rw [hflags.x, h2], hflags.c, ?_⟩
  rw [hflags.z, opChain_zero, Bool.and_eq_true, decide_eq_true_iff]

theorem flagsAfter_extend (p : BitVec w × BitVec w) (v : Bool) (sr : BitVec 16) :
    FlagsAfter sr ((extendCcr mn p.1 p.2 (flagX sr) v sr).put sr) (extendOp mn (flagX sr) p) :=
  ⟨flagX_put _ _, flagC_put _ _, flagZ_put _ _⟩

end Chain

/-! ## One instruction -/

section Run
variable {β : Type} [GeneratedAbi β] {mn : NgM68kMnemonic}

/-- A validated extended instruction on data registers. -/
structure ExtendedRegister (mn : NgM68kMnemonic) (size : BitVec 8) (instr : NgM68kInstr) :
    Prop where
  valid : ngM68kValidate instr = true
  mnemonic : instr.mnemonic = mn
  size : instr.size = size
  dst : instr.dst.mode = .dreg

theorem extended_stepsRegister (hm : isExtended mn = true) {size : BitVec 8} {instr : NgM68kInstr}
    (h : ExtendedRegister mn size instr) :
    StepsRegister β (extendOp (w := ngSizeBits size) mn) (mn == .negx) instr := by
  obtain ⟨hv, rfl, rfl, hd⟩ := h
  intro m
  have ho : extendOperands instr m = .next
      ⟨(limbPair (instr.mnemonic == .negx) instr.size m instr).1,
        (limbPair (instr.mnemonic == .negx) instr.size m instr).2,
        .dreg (regIndex instr.dst.reg)⟩ m := by
    unfold extendOperands unaryOperand pairOperands limbPair
    simp only [beq_iff_eq]
    split_ifs <;> rfl
  exact ⟨_, extend_text_store hv hm ho rfl, rfl, flagsAfter_extend _ _ _⟩

variable {area : Set (BitVec 32)} {peek : β → BitVec 32 → BitVec 8} {instr : NgM68kInstr}

/-- In `-(An)` form over RAM the registers step down, the result replaces the destination limb, and
every other operand of the area keeps its value. -/
theorem extended_stepsMemory (ram : RamArea area peek) (hv : ngM68kValidate instr = true)
    (hm : isExtended instr.mnemonic = true) (hmode : instr.dst.mode = .apre) :
    StepsMemory (extendOp (w := ngSizeBits instr.size) instr.mnemonic) (instr.mnemonic == .negx)
      area peek instr := by
  intro m p hdin hd has
  have hnot : ¬ instr.dst.mode = .dreg := by rw [hmode]; decide
  have hdnext : m.cpu.a (regIndex instr.dst.reg) - ngEaStepBytes instr.dst instr.size =
    nextLimb m instr.dst instr.size := rfl
  by_cases hn : instr.mnemonic = .negx
  · have hread := ram.read_of_holds hdin hd
    have ho : extendOperands instr m = .next ⟨p.1, 0, .mem (nextLimb m instr.dst instr.size)⟩
        { m with
          cpu := m.cpu.setA (regIndex instr.dst.reg) (nextLimb m instr.dst instr.size)
          bus := (abiRead instr.size (nextLimb m instr.dst instr.size) m.bus).2
          log := m.log ++
            [.read (sizeBytes instr.size) (nextLimb m instr.dst instr.size)] } := by
      rw [extendOperands, if_pos hn, unaryOperand, if_neg hnot]
      simp only [emitEaAddress, hmode, bind_apply, stepDown, modifyCpu_apply, pure_apply,
        getCpu_apply, readSize_apply, aregAddr, NgM68kState.setA, Function.update_self, hdnext,
        hread]
    refine ⟨_, extend_text_store hv hm ho (writeSize_apply _ _ _ _), Function.update_self ..,
      fun hu => absurd hn (beq_eq_false_iff_ne.mp hu), ?_, ?_, ?_⟩
    · rw [hn]
      exact @flagsAfter_extend _ .negx p (emittedOverflow .negx p.1 0 (flagX m.cpu.sr)) m.cpu.sr
    · rw [hn]
      exact ram.holds_write _ _ hdin
    · intro a v ha hdis hold
      exact ram.holds_after_write _ hdin ha hdis (ram.holds_after_read hdin ha hold)
  · obtain ⟨hne, hsin, hs⟩ := has (beq_eq_false_iff_ne.mpr hn)
    have hsnext : m.cpu.a (regIndex instr.src.reg) - ngEaStepBytes instr.src instr.size =
      nextLimb m instr.src instr.size := rfl
    have hreads := ram.read_of_holds hsin hs
    have hreadd := ram.read_of_holds hdin (ram.holds_after_read hsin hdin hd)
    have ho : extendOperands instr m = .next ⟨p.1, p.2, .mem (nextLimb m instr.dst instr.size)⟩
        { m with
          cpu := (m.cpu.setA (regIndex instr.src.reg) (nextLimb m instr.src instr.size)).setA
            (regIndex instr.dst.reg) (nextLimb m instr.dst instr.size)
          bus := (abiRead instr.size (nextLimb m instr.dst instr.size)
            (abiRead instr.size (nextLimb m instr.src instr.size) m.bus).2).2
          log := m.log ++
            [.read (sizeBytes instr.size) (nextLimb m instr.src instr.size)] ++
            [.read (sizeBytes instr.size) (nextLimb m instr.dst instr.size)] } := by
      rw [extendOperands, if_neg hn, pairOperands, if_neg hnot]
      simp only [bind_apply, stepDown, modifyCpu_apply, pure_apply, getCpu_apply, readSize_apply,
        NgM68kState.setA, Function.update_self, Function.update_of_ne hne.symm, hdnext, hsnext,
        hreads, hreadd]
    refine ⟨_, extend_text_store hv hm ho (writeSize_apply _ _ _ _), Function.update_self ..,
      fun _ => ?_, flagsAfter_extend _ _ _, ?_, ?_⟩
    · change Function.update (Function.update m.cpu.a _ _) _ _ _ = _
      rw [Function.update_of_ne hne, Function.update_self]
    · exact ram.holds_write _ _ hdin
    · intro a v ha hdis hold
      exact ram.holds_after_write _ hdin ha hdis
        (ram.holds_after_read hdin ha (ram.holds_after_read hsin ha hold))

/-! ## Main result -/

/-- Chains of ADDX, SUBX and NEGX compute the whole number exactly, in data registers and through
predecremented address registers over RAM. -/
theorem extended_chain_exact (ram : RamArea area peek) (hm : isExtended mn = true)
    (m : Machine β) :
    (∀ size is, (∀ i ∈ is, ExtendedRegister mn size i) → RegistersDistinct (mn == .negx) is →
      ∃ m', runTexts is m = .next () m' ∧
        ChainExact mn m.cpu.sr (is.map (limbPair (mn == .negx) size m))
          (is.map fun i => dregLimb size m' i.dst.reg) m'.cpu.sr) ∧
    (∀ instr ps, ngM68kValidate instr = true → instr.mnemonic = mn →
      OperandChain (mn == .negx) area peek instr.size instr m ps →
      ∃ m' rs, runTexts (List.replicate ps.length instr) m = .next () m' ∧
        List.Forall₂ (HoldsAt peek m'.bus instr.size)
          (eaLimbAddrs m instr.dst instr.size ps.length) rs ∧
        ChainExact mn m.cpu.sr ps rs m'.cpu.sr) := by
  constructor
  · intro size is hform hdistinct
    obtain ⟨m', hrun, hlimbs, hflags, -⟩ := registerChain_of_steps
      (fun i hi => extended_stepsRegister hm (hform i hi)) hdistinct m
    refine ⟨m', hrun, ?_⟩
    rw [hlimbs]
    exact chainExact_of_opChain hm hflags
  · intro instr ps hv hmn hchain
    subst hmn
    obtain ⟨m', hrun, hlimbs, hflags, -⟩ :=
      memoryChain_of_steps (extended_stepsMemory ram hv hm hchain.mode) hchain
    exact ⟨m', _, hrun, hlimbs, chainExact_of_opChain hm hflags⟩

/-- `ADDX.L Ds,Dd`. -/
def addxLongInstr (s d : BitVec 8) : NgM68kInstr :=
  { addr := 0x1000, opcode := 0xD180 ||| (d.setWidth 16 <<< 9) ||| s.setWidth 16, mnemonic := .addx,
    byteLength := 2, reg := d, srcReg := s, size := 4, form := .dregToDreg,
    src := { mode := .dreg, reg := s }, dst := { mode := .dreg, reg := d } }

/-- `ADDX.W -(A1),-(A0)`. -/
def addxWordInstr : NgM68kInstr :=
  { addr := 0x1000, opcode := 0xD149, mnemonic := .addx, byteLength := 2, srcReg := 1, size := 2,
    src := { mode := .apre, reg := 1 }, dst := { mode := .apre } }

/-- Every byte is the low part of its address; A0 and A1 point behind two words each. -/
def addxWordMachine : Machine Ram where
  cpu := { d := fun r => BitVec.ofNat 32 r, a := fun r => if r = 0 then 0x1004 else 0x2004,
           pc := 0x1000, sr := 0x2014, usp := 0, ssp := 0 }
  bus := ⟨fun a => a.setWidth 8⟩
  traceSr := 0
  log := []

theorem addx_chain_two_limbs :
    (∃ m', runTexts [addxLongInstr 2 0, addxLongInstr 3 1] addxWordMachine = .next () m' ∧
      ChainExact .addx 0x2014 [((0 : BitVec (ngSizeBits 4)), 2), (1, 3)]
        [dregLimb 4 m' 0, dregLimb 4 m' 1] m'.cpu.sr) ∧
    (∃ m' rs, runTexts [addxWordInstr, addxWordInstr] addxWordMachine = .next () m' ∧
      List.Forall₂ (HoldsAt Ram.bytes m'.bus 2) [0x1002, 0x1000] rs ∧
      ChainExact .addx 0x2014 [((0x0203 : BitVec (ngSizeBits 2)), 0x0203), (0x0001, 0x0001)] rs
        m'.cpu.sr) := by
  have h := extended_chain_exact Ram.ramArea (show isExtended .addx = true by decide)
    addxWordMachine
  refine ⟨h.1 4 [addxLongInstr 2 0, addxLongInstr 3 1] ?_ ?_,
    h.2 addxWordInstr [(0x0203, 0x0203), (0x0001, 0x0001)] (by decide +kernel) rfl
      ⟨rfl, ?_, ?_, ?_, ?_, ?_, ?_, ?_⟩⟩
  · exact List.forall_mem_cons.mpr ⟨⟨by decide +kernel, rfl, rfl, rfl⟩,
      List.forall_mem_cons.mpr ⟨⟨by decide +kernel, rfl, rfl, rfl⟩, List.forall_mem_nil _⟩⟩
  · unfold RegistersDistinct
    decide +kernel
  · intro a _ k _
    trivial
  · refine .cons ?_ (.cons ?_ .nil) <;> unfold HoldsAt <;> decide
  · change List.Pairwise _ [(0x1002 : BitVec 32), 0x1000]
    unfold OperandsDisjoint
    decide
  · decide
  · intro _ a _ k _
    trivial
  · intro _
    refine .cons ?_ (.cons ?_ .nil) <;> unfold HoldsAt <;> decide
  · intro _ a ha b hb
    change a ∈ [(0x1002 : BitVec 32), 0x1000] at ha
    change b ∈ [(0x2002 : BitVec 32), 0x2000] at hb
    simp only [List.mem_cons, List.not_mem_nil, or_false] at ha hb
    rcases ha with rfl | rfl <;> rcases hb with rfl | rfl <;> unfold OperandsDisjoint <;> decide

end Run

end NeoRecomp
