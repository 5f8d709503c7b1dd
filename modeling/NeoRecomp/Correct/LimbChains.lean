import NeoRecomp.Emit.Flags
import NeoRecomp.Spec.Ram

/-!
# Chains of limb instructions

An instruction that combines one limb with X and leaves a carry in X, run limb by limb from the least
significant one, in data registers or through predecremented address registers.  What one run does is
an assumption here; the chains of it follow by induction on the limbs.
-/

namespace NeoRecomp

open Gen BitArith

/-! ## The chain of limbs -/

section Chain
variable {w : Nat}

/-- The operation on one limb: result and carry from X and the operand pair. -/
abbrev LimbOp (w : Nat) : Type := Bool → BitVec w × BitVec w → BitVec w × Bool

/-- The results of all limbs and the X and Z flags after them. -/
def opChain (op : LimbOp w) :
    Bool → Bool → List (BitVec w × BitVec w) → List (BitVec w) × Bool × Bool
  | x, z, [] => ([], x, z)
  | x, z, p :: ps =>
      let out := op x p
      let rest := opChain op out.2 (z && decide (out.1 = 0)) ps
      (out.1 :: rest.1, rest.2)

theorem length_opChain (op : LimbOp w) (x z : Bool) (ps : List (BitVec w × BitVec w)) :
    (opChain op x z ps).1.length = ps.length := by
  induction ps generalizing x z with
  | nil => rfl
  | cons p ps ih => rw [opChain, List.length_cons, List.length_cons, ih]

/-- Z survives only over zero limbs. -/
theorem opChain_zero (op : LimbOp w) (x z : Bool) (ps : List (BitVec w × BitVec w)) :
    (opChain op x z ps).2.2 = (z && decide (∀ r ∈ (opChain op x z ps).1, r = 0)) := by
  induction ps generalizing x z with
  | nil => simp [opChain]
  | cons p ps ih =>
    rw [opChain]
    dsimp only
    rw [ih, Bool.and_assoc, ← Bool.decide_and]
    simp only [List.mem_cons, forall_eq_or_imp]

/-- The flags after one limb: X and C are the carry, and Z is cleared by a result that is not
zero. -/
structure FlagsAfter (sr sr' : BitVec 16) (out : BitVec w × Bool) : Prop where
  x : flagX sr' = out.2
  c : flagC sr' = out.2
  z : flagZ sr' = (flagZ sr && decide (out.1 = 0))

/-- The flags after the limbs `ps`, of which there may be none. -/
structure FlagsAfterChain (sr sr' : BitVec 16) (op : LimbOp w) (ps : List (BitVec w × BitVec w)) :
    Prop where
  x : flagX sr' = (opChain op (flagX sr) (flagZ sr) ps).2.1
  z : flagZ sr' = (opChain op (flagX sr) (flagZ sr) ps).2.2
  c : ps ≠ [] → flagC sr' = flagX sr'

theorem FlagsAfterChain.nil (sr : BitVec 16) (op : LimbOp w) : FlagsAfterChain sr sr op [] :=
  ⟨rfl, rfl, fun h => absurd rfl h⟩

theorem FlagsAfterChain.cons {sr sr₁ sr₂ : BitVec 16} {op : LimbOp w} {p : BitVec w × BitVec w}
    {ps : List (BitVec w × BitVec w)} (h : FlagsAfter sr sr₁ (op (flagX sr) p))
    (h' : FlagsAfterChain sr₁ sr₂ op ps) (hnil : ps = [] → sr₂ = sr₁) :
    FlagsAfterChain sr sr₂ op (p :: ps) := by
  obtain ⟨hX, hZ, hC⟩ := h'
  rw [h.x, h.z] at hX hZ
  refine ⟨hX, hZ, fun _ => ?_⟩
  by_cases hps : ps = []
  · rw [hnil hps, h.c, h.x]
  · exact hC hps

/-- The limbs of a chain, where the flags after the first one are known. -/
theorem opChain_cons_fst {sr sr₁ : BitVec 16} {op : LimbOp w} {p : BitVec w × BitVec w}
    (h : FlagsAfter sr sr₁ (op (flagX sr) p)) (ps : List (BitVec w × BitVec w)) :
    (opChain op (flagX sr) (flagZ sr) (p :: ps)).1 =
      (op (flagX sr) p).1 :: (opChain op (flagX sr₁) (flagZ sr₁) ps).1 := by
  rw [opChain, h.x, h.z]

end Chain

/-! ## Data registers -/

section Run
variable {β : Type} [GeneratedAbi β] {size : BitVec 8}

/-- The texts of a list of instructions, one after the other. -/
def runTexts : List NgM68kInstr → Gen β Unit
  | [] => pure ()
  | i :: is => do
      (emitInstr i).text
      runTexts is

/-- Low part of a data register. -/
def dregLimb (size : BitVec 8) (m : Machine β) (reg : BitVec 8) : BitVec (ngSizeBits size) :=
  (m.cpu.d (regIndex reg)).setWidth _

/-- The operands of one instruction in data registers; a unary instruction has only the first. -/
def limbPair (unary : Bool) (size : BitVec 8) (m : Machine β) (i : NgM68kInstr) :
    BitVec (ngSizeBits size) × BitVec (ngSizeBits size) :=
  (dregLimb size m i.dst.reg, if unary then 0 else dregLimb size m i.src.reg)

/-- The instruction combines its data registers by `op`. -/
def StepsRegister (β : Type) [GeneratedAbi β] (op : LimbOp (ngSizeBits size)) (unary : Bool)
    (i : NgM68kInstr) : Prop :=
  ∀ m : Machine β, ∃ m', (emitInstr i).text m = .next () m' ∧
    m'.cpu.d = Function.update m.cpu.d (regIndex i.dst.reg)
      (replaceLow (m.cpu.d (regIndex i.dst.reg))
        (op (flagX m.cpu.sr) (limbPair unary size m i)).1) ∧
    FlagsAfter m.cpu.sr m'.cpu.sr (op (flagX m.cpu.sr) (limbPair unary size m i))

/-- No destination is read or written again. -/
def RegistersDistinct (unary : Bool) (is : List NgM68kInstr) : Prop :=
  is.Pairwise fun i j => regIndex i.dst.reg ≠ regIndex j.dst.reg ∧
    (unary = false → regIndex i.dst.reg ≠ regIndex j.src.reg)

/-- By induction on the instructions: a later one finds the operands the chain started with. -/
theorem registerChain_of_steps {op : LimbOp (ngSizeBits size)} {unary : Bool}
    {is : List NgM68kInstr} (hsteps : ∀ i ∈ is, StepsRegister β op unary i)
    (hdistinct : RegistersDistinct unary is) (m : Machine β) :
    ∃ m', runTexts is m = .next () m' ∧
      is.map (fun i => dregLimb size m' i.dst.reg) =
        (opChain op (flagX m.cpu.sr) (flagZ m.cpu.sr) (is.map (limbPair unary size m))).1 ∧
      FlagsAfterChain m.cpu.sr m'.cpu.sr op (is.map (limbPair unary size m)) ∧
      ∀ r, (∀ i ∈ is, regIndex i.dst.reg ≠ r) → m'.cpu.d r = m.cpu.d r := by
  induction is generalizing m with
  | nil => exact ⟨m, rfl, rfl, .nil _ _, fun _ _ => rfl⟩
  | cons i is ih =>
    obtain ⟨hfresh, hpair⟩ := List.pairwise_cons.mp hdistinct
    obtain ⟨m₁, htext, hreg, hflags⟩ := hsteps i List.mem_cons_self m
    obtain ⟨m₂, hrun, hlimbs, hchain, hkeep⟩ := ih (fun j hj => hsteps j (.tail _ hj)) hpair m₁
    have hsame : is.map (limbPair unary size m₁) = is.map (limbPair unary size m) := by
      apply List.map_congr_left
      intro j hj
      have hdst : dregLimb size m₁ j.dst.reg = dregLimb size m j.dst.reg := by
        rw [dregLimb, dregLimb, hreg, Function.update_of_ne (hfresh j hj).1.symm]
      have hsrc (hu : unary = false) : dregLimb size m₁ j.src.reg = dregLimb size m j.src.reg := by
        rw [dregLimb, dregLimb, hreg, Function.update_of_ne ((hfresh j hj).2 hu).symm]
      unfold limbPair
      cases unary with
      | true => rw [hdst, if_pos rfl, if_pos rfl]
      | false => rw [hdst, hsrc rfl]
    have hfirst : dregLimb size m₂ i.dst.reg =
        (op (flagX m.cpu.sr) (limbPair unary size m i)).1 := by
      rw [dregLimb, hkeep _ fun j hj => (hfresh j hj).1.symm, hreg, Function.update_self,
        setWidth_replaceLow (ngSizeBits_le _)]
    rw [hsame] at hlimbs hchain
    refine ⟨m₂, ?_, ?_, ?_, ?_⟩
    · rw [runTexts, bind_of_next htext, hrun]
    · rw [List.map_cons, List.map_cons, hfirst, hlimbs, opChain_cons_fst hflags]
    · rw [List.map_cons]
      refine .cons hflags hchain fun hnil => ?_
      rw [List.map_eq_nil_iff] at hnil
      subst hnil
      cases hrun
      rfl
    · intro r hr
      rw [hkeep r fun j hj => hr j (.tail _ hj), hreg,
        Function.update_of_ne (hr i List.mem_cons_self).symm]

/-! ## Predecremented memory -/

/-- The addresses of `n` limbs below `addr`, in the order a predecremented register meets them. -/
def limbAddrs (step : BitVec 32) : BitVec 32 → Nat → List (BitVec 32)
  | _, 0 => []
  | addr, n + 1 => (addr - step) :: limbAddrs step (addr - step) n

/-- The limb addresses of a predecremented operand. -/
def eaLimbAddrs (m : Machine β) (ea : NgM68kEa) (size : BitVec 8) (n : Nat) : List (BitVec 32) :=
  limbAddrs (ngEaStepBytes ea size) (m.cpu.a (regIndex ea.reg)) n

omit [GeneratedAbi β] in
theorem forall₂_holdsAt_keep {b b' : β} {as : List (BitVec 32)}
    {vs : List (BitVec (ngSizeBits size))} (h : List.Forall₂ (HoldsAt peek b size) as vs)
    (hkeep : ∀ a ∈ as, ∀ v, HoldsAt peek b size a v → HoldsAt peek b' size a v) :
    List.Forall₂ (HoldsAt peek b' size) as vs := by
  induction h with
  | nil => exact .nil
  | cons hav _ ih =>
    exact .cons (hkeep _ List.mem_cons_self _ hav) (ih fun a ha => hkeep a (.tail _ ha))

variable {area : Set (BitVec 32)} {peek : β → BitVec 32 → BitVec 8} {instr : NgM68kInstr}

/-- The operands of `n` runs of one instruction in `-(An)` form: RAM that holds the limb pairs
`ps`, where no limb is written over before it is read. -/
structure OperandChain (unary : Bool) (area : Set (BitVec 32)) (peek : β → BitVec 32 → BitVec 8)
    (size : BitVec 8) (instr : NgM68kInstr) (m : Machine β)
    (ps : List (BitVec (ngSizeBits size) × BitVec (ngSizeBits size))) : Prop where
  mode : instr.dst.mode = .apre
  dst_in : ∀ a ∈ eaLimbAddrs m instr.dst size ps.length, OperandIn area size a
  dst_holds : List.Forall₂ (HoldsAt peek m.bus size)
    (eaLimbAddrs m instr.dst size ps.length) (ps.map Prod.fst)
  dst_apart : (eaLimbAddrs m instr.dst size ps.length).Pairwise
    fun a b => OperandsDisjoint size size a b
  registers : unary = false → regIndex instr.src.reg ≠ regIndex instr.dst.reg
  src_in : unary = false → ∀ a ∈ eaLimbAddrs m instr.src size ps.length, OperandIn area size a
  src_holds : unary = false → List.Forall₂ (HoldsAt peek m.bus size)
    (eaLimbAddrs m instr.src size ps.length) (ps.map Prod.snd)
  src_apart : unary = false → ∀ a ∈ eaLimbAddrs m instr.dst size ps.length,
    ∀ b ∈ eaLimbAddrs m instr.src size ps.length, OperandsDisjoint size size a b

/-- The limb addresses of the next run. -/
def nextLimb (m : Machine β) (ea : NgM68kEa) (size : BitVec 8) : BitVec 32 :=
  m.cpu.a (regIndex ea.reg) - ngEaStepBytes ea size

/-- What one run of the instruction at `ad` and `as` leaves. -/
structure MemoryStep (op : LimbOp (ngSizeBits size)) (unary : Bool) (area : Set (BitVec 32))
    (peek : β → BitVec 32 → BitVec 8) (instr : NgM68kInstr) (m m' : Machine β)
    (p : BitVec (ngSizeBits size) × BitVec (ngSizeBits size)) : Prop where
  dst : m'.cpu.a (regIndex instr.dst.reg) = nextLimb m instr.dst size
  src : unary = false → m'.cpu.a (regIndex instr.src.reg) = nextLimb m instr.src size
  flags : FlagsAfter m.cpu.sr m'.cpu.sr (op (flagX m.cpu.sr) p)
  holds : HoldsAt peek m'.bus size (nextLimb m instr.dst size) (op (flagX m.cpu.sr) p).1
  keeps : ∀ a v, OperandIn area size a →
    OperandsDisjoint size size (nextLimb m instr.dst size) a →
      HoldsAt peek m.bus size a v → HoldsAt peek m'.bus size a v

/-- The instruction combines its memory operands by `op`. -/
def StepsMemory (op : LimbOp (ngSizeBits size)) (unary : Bool) (area : Set (BitVec 32))
    (peek : β → BitVec 32 → BitVec 8) (instr : NgM68kInstr) : Prop :=
  ∀ (m : Machine β) (p : BitVec (ngSizeBits size) × BitVec (ngSizeBits size)),
    OperandIn area size (nextLimb m instr.dst size) →
    HoldsAt peek m.bus size (nextLimb m instr.dst size) p.1 →
    (unary = false → regIndex instr.src.reg ≠ regIndex instr.dst.reg ∧
      OperandIn area size (nextLimb m instr.src size) ∧
      HoldsAt peek m.bus size (nextLimb m instr.src size) p.2) →
    ∃ m', (emitInstr instr).text m = .next () m' ∧
      MemoryStep op unary area peek instr m m' p

/-- By induction on the limbs: a run keeps every operand that is still to come. -/
theorem memoryChain_of_steps {op : LimbOp (ngSizeBits size)} {unary : Bool}
    (hsteps : StepsMemory op unary area peek instr)
    {ps : List (BitVec (ngSizeBits size) × BitVec (ngSizeBits size))} {m : Machine β}
    (h : OperandChain unary area peek size instr m ps) :
    ∃ m', runTexts (List.replicate ps.length instr) m = .next () m' ∧
      List.Forall₂ (HoldsAt peek m'.bus size) (eaLimbAddrs m instr.dst size ps.length)
        (opChain op (flagX m.cpu.sr) (flagZ m.cpu.sr) ps).1 ∧
      FlagsAfterChain m.cpu.sr m'.cpu.sr op ps ∧
      ∀ a v, OperandIn area size a →
        (∀ b ∈ eaLimbAddrs m instr.dst size ps.length, OperandsDisjoint size size b a) →
        HoldsAt peek m.bus size a v → HoldsAt peek m'.bus size a v := by
  induction ps generalizing m with
  | nil => exact ⟨m, rfl, .nil, .nil _ _, fun _ _ _ _ hk => hk⟩
  | cons p ps ih =>
    obtain ⟨hmode, hdin, hdh, hdapart, hregs, hsin, hsh, hsapart⟩ := h
    simp only [eaLimbAddrs, List.length_cons, limbAddrs, List.map_cons] at hdin hdh hdapart
    simp only [eaLimbAddrs, List.length_cons, limbAddrs, List.map_cons] at hsin hsh hsapart
    obtain ⟨hd₀, hdh⟩ := List.forall₂_cons.mp hdh
    obtain ⟨hfresh, hdapart⟩ := List.pairwise_cons.mp hdapart
    obtain ⟨m₁, htext, had, has, hflags, hres, hkeep⟩ := hsteps m p
      (hdin _ List.mem_cons_self) hd₀
      fun hu => ⟨hregs hu, hsin hu _ List.mem_cons_self, (List.forall₂_cons.mp (hsh hu)).1⟩
    have hdst : eaLimbAddrs m₁ instr.dst size ps.length =
        limbAddrs (ngEaStepBytes instr.dst size) (nextLimb m instr.dst size) ps.length := by
      rw [eaLimbAddrs, had]
    have hsrc (hu : unary = false) : eaLimbAddrs m₁ instr.src size ps.length =
        limbAddrs (ngEaStepBytes instr.src size) (nextLimb m instr.src size) ps.length := by
      rw [eaLimbAddrs, has hu]
    obtain ⟨m₂, hrun, hlimbs, hchain, hframe⟩ := ih (m := m₁)
      { mode := hmode
        dst_in := fun a ha => hdin a (.tail _ (hdst ▸ ha))
        dst_holds := by
          rw [hdst]
          exact forall₂_holdsAt_keep hdh fun a ha v =>
            hkeep a v (hdin a (.tail _ ha)) (hfresh a ha)
        dst_apart := hdst ▸ hdapart
        registers := hregs
        src_in := fun hu a ha => hsin hu a (.tail _ (hsrc hu ▸ ha))
        src_holds := fun hu => by
          rw [hsrc hu]
          exact forall₂_holdsAt_keep (List.forall₂_cons.mp (hsh hu)).2 fun a ha v =>
            hkeep a v (hsin hu a (.tail _ ha)) (hsapart hu _ List.mem_cons_self a (.tail _ ha))
        src_apart := fun hu a ha b hb =>
          hsapart hu a (.tail _ (hdst ▸ ha)) b (.tail _ (hsrc hu ▸ hb)) }
    rw [hdst] at hlimbs hframe
    have hsymm : ∀ a ∈ limbAddrs (ngEaStepBytes instr.dst size) (nextLimb m instr.dst size)
        ps.length, OperandsDisjoint size size a (nextLimb m instr.dst size) :=
      fun a ha k hk k' hk' => (hfresh a ha k' hk' k hk).symm
    refine ⟨m₂, ?_, ?_, ?_, ?_⟩
    · rw [List.length_cons, List.replicate_succ, runTexts, bind_of_next htext, hrun]
    · rw [opChain_cons_fst hflags]
      exact .cons (hframe _ _ (hdin _ List.mem_cons_self) hsymm hres) hlimbs
    · refine .cons hflags hchain fun hnil => ?_
      subst hnil
      cases hrun
      rfl
    · intro a v ha hdis hold
      exact hframe a v ha (fun b hb => hdis b (.tail _ hb))
        (hkeep a v ha (hdis _ List.mem_cons_self) hold)

end Run

end NeoRecomp
