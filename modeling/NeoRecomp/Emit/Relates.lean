import NeoRecomp.Emit.Access
import NeoRecomp.Emit.Body

/-!
# Relations that every piece of emitted code respects

Emitted code touches the machine in few ways: it computes on registers and condition codes, calls
the functions of `generated_abi.h`, logs, and takes exceptions.  A relation that allows each of
these relates the machine before any unprivileged instruction to the machine after it.  Code that
returns may relate them in a weaker way than code that goes on.
-/

namespace NeoRecomp

open Gen

variable {β α γ : Type}

/-! ## Steps -/

/-- The bits of SR outside the condition codes. -/
def systemBits (sr : BitVec 16) : BitVec 16 := sr &&& 0xFFE0

/-- Two records that differ only in what unprivileged code may change. -/
structure NgM68kState.SameSystem (g g' : NgM68kState) : Prop where
  sr : systemBits g'.sr = systemBits g.sr
  usp : g'.usp = g.usp
  ssp : g'.ssp = g.ssp

theorem NgM68kState.SameSystem.refl (g : NgM68kState) : g.SameSystem g := ⟨rfl, rfl, rfl⟩

theorem NgM68kState.SameSystem.trans {g g' g'' : NgM68kState} (h : g.SameSystem g')
    (h' : g'.SameSystem g'') : g.SameSystem g'' :=
  ⟨h'.sr.trans h.sr, h'.usp.trans h.usp, h'.ssp.trans h.ssp⟩

/-- One call of a function of `generated_abi.h`. -/
inductive AbiStep [GeneratedAbi β] (b : β) : β → Prop
  | read8 (addr) : AbiStep b (GeneratedAbi.read8 addr b).2
  | read16 (addr) : AbiStep b (GeneratedAbi.read16 addr b).2
  | read32 (addr) : AbiStep b (GeneratedAbi.read32 addr b).2
  | write8 (addr v) : AbiStep b (GeneratedAbi.write8 addr v b)
  | write16 (addr v) : AbiStep b (GeneratedAbi.write16 addr v b)
  | write32 (addr v) : AbiStep b (GeneratedAbi.write32 addr v b)
  | instructionHook (addr) : AbiStep b (GeneratedAbi.instructionHook addr b)
  | cycleHook (addr cycles) : AbiStep b (GeneratedAbi.cycleHook addr cycles b)
  | shouldYield (addr) : AbiStep b (GeneratedAbi.shouldYield addr b).2
  | resetDevices : AbiStep b (GeneratedAbi.resetDevices b)
  | stopUntilInterrupt (sr) : AbiStep b (GeneratedAbi.stopUntilInterrupt sr b)
  | takeReset : AbiStep b (GeneratedAbi.takeReset b).2
  | takeInterrupt (mask) : AbiStep b (GeneratedAbi.takeInterrupt mask b).2

/-- Code that relates the machine it starts on to the one it ends on: by `R` where control stays in
the body and by `E` where it returns. -/
class Relates (R E : Machine β → Machine β → Prop) (x : Gen β α) : Prop where
  next : ∀ m a m', x m = .next a m' → R m m'
  goto : ∀ m label m', x m = .exit (.goto label) m' → R m m'
  ret : ∀ m m', x m = .exit .ret m' → E m m'

/-- Relations that allow logging and calls of the ABI. -/
class MachineRelation [GeneratedAbi β] (R E : Machine β → Machine β → Prop) : Prop where
  refl : ∀ m, R m m
  trans : ∀ {m₁ m₂ m₃}, R m₁ m₂ → R m₂ m₃ → R m₁ m₃
  leave : ∀ {m m'}, R m m' → E m m'
  after : ∀ {m₁ m₂ m₃}, R m₁ m₂ → E m₂ m₃ → E m₁ m₃
  log : ∀ m e, R m { m with log := m.log ++ [e] }
  bus : ∀ m b, AbiStep m.bus b → R m { m with bus := b }

/-- Relations that allow what unprivileged code does. -/
class CodeRelation [GeneratedAbi β] (R E : Machine β → Machine β → Prop) : Prop
    extends MachineRelation R E where
  cpu : ∀ (m : Machine β) (g : NgM68kState), m.cpu.SameSystem g → R m { m with cpu := g }
  trace : ∀ pc, Relates R E (traceOrReturn pc)
  vector : ∀ v pc, Relates R E (emitExceptionVectorCall v pc)
  trap : ∀ instr addr, Relates R E (trapThrough instr addr)

/-- A relation that allows every change of the CPU record. -/
class FreeRelation [GeneratedAbi β] (R : Machine β → Machine β → Prop) : Prop
    extends MachineRelation R R where
  cpu : ∀ m g, R m { m with cpu := g }
  traceSr : ∀ m v, R m { m with traceSr := v }

/-! ## Changes of the CPU record -/

/-- A change of the CPU record that unprivileged code may make. -/
class KeepsSystem (f : NgM68kState → NgM68kState) : Prop where
  same : ∀ g : NgM68kState, g.SameSystem (f g)

/-- A status register that differs from the current one in condition codes only. -/
class CcrOnly (v : NgM68kState → BitVec 16) : Prop where
  system : ∀ g, systemBits (v g) = systemBits g.sr

/-- Condition codes. -/
class CcrBits (bits : BitVec 16) : Prop where
  none : systemBits bits = 0

/-- A mask that clears condition codes only. -/
class CcrMask (keep : BitVec 16) : Prop where
  all : systemBits keep = 0xFFE0

instance ccrBits_c : CcrBits ngCcrC := ⟨by decide⟩
instance ccrBits_v : CcrBits ngCcrV := ⟨by decide⟩
instance ccrBits_z : CcrBits ngCcrZ := ⟨by decide⟩
instance ccrBits_n : CcrBits ngCcrN := ⟨by decide⟩
instance ccrBits_cx : CcrBits (ngCcrC ||| ngCcrX) := ⟨by decide⟩
instance ccrMask_all : CcrMask 0xFFE0 := ⟨by decide⟩
instance ccrMask_keepX : CcrMask 0xFFF0 := ⟨by decide⟩
instance ccrMask_sticky : CcrMask 0xFFE4 := ⟨by decide⟩

instance ccrMask_not (bits : BitVec 16) [h : CcrBits bits] : CcrMask (~~~bits) where
  all := by
    have hn := h.none
    unfold systemBits at hn ⊢
    apply BitVec.eq_of_getLsbD_eq
    intro i hi
    have hb := congrArg (fun v => v.getLsbD i) hn
    simp only [BitVec.getLsbD_and, BitVec.getLsbD_not, hi, decide_true, Bool.true_and] at hb ⊢
    cases h1 : bits.getLsbD i <;> cases h2 : (0xFFE0#16).getLsbD i <;> simp_all

section Ccr
variable (f : NgM68kState → BitVec 16) [hf : CcrOnly f]

instance ccrOnly_sr : CcrOnly fun g => g.sr := ⟨fun _ => rfl⟩

instance ccrOnly_and (keep : BitVec 16) [hk : CcrMask keep] : CcrOnly fun g => f g &&& keep where
  system g := by
    have h := hk.all
    rw [← hf.system g]
    unfold systemBits at h ⊢
    rw [BitVec.and_assoc, h]

instance ccrOnly_or (bits : BitVec 16) [hb : CcrBits bits] : CcrOnly fun g => f g ||| bits where
  system g := by
    have h := hb.none
    rw [← hf.system g]
    unfold systemBits at h ⊢
    rw [BitVec.and_or_distrib_right, h]
    exact BitVec.or_zero

instance ccrOnly_ite (c : NgM68kState → Prop) [∀ g, Decidable (c g)] (f' : NgM68kState → BitVec 16)
    [hf' : CcrOnly f'] : CcrOnly fun g => if c g then f g else f' g where
  system g := by
    split_ifs
    · exact hf.system g
    · exact hf'.system g

instance ccrOnly_orIf (c : NgM68kState → Bool) (bits : BitVec 16) [CcrBits bits] :
    CcrOnly fun g => orIf (c g) bits (f g) := by
  unfold orIf; infer_instance

instance ccrOnly_setNz {w : Nat} (v : NgM68kState → BitVec w) :
    CcrOnly fun g => ngSetNz (v g) (f g) := by
  unfold ngSetNz; infer_instance

section Arith
variable (size : BitVec 8) (src dst result : NgM68kState → BitVec (ngSizeBits size))

instance ccrOnly_zeroNeg (keep : BitVec 16) [CcrMask keep] :
    CcrOnly fun g => zeroNegFlags size keep (result g) (f g) := by
  unfold zeroNegFlags; infer_instance

instance ccrOnly_add (full : NgM68kState → BitVec 64) :
    CcrOnly fun g => addFlags size (src g) (dst g) (result g) (full g) (f g) := by
  unfold addFlags; infer_instance

instance ccrOnly_subtract (keep carry : BitVec 16) [CcrMask keep] [CcrBits carry] :
    CcrOnly fun g => subtractFlags size keep carry (src g) (dst g) (result g) (f g) := by
  unfold subtractFlags; infer_instance

instance ccrOnly_sub : CcrOnly fun g => subFlags size (src g) (dst g) (result g) (f g) :=
  ccrOnly_subtract f size src dst result _ _

instance ccrOnly_cmp : CcrOnly fun g => cmpFlags size (src g) (dst g) (result g) (f g) :=
  ccrOnly_subtract f size src dst result _ _

instance ccrOnly_sticky : CcrOnly fun g => stickyZeroNegFlags size (result g) (f g) := by
  unfold stickyZeroNegFlags; dsimp only; infer_instance

end Arith

instance ccrOnly_bcd (r : NgM68kState → BitVec 8) (b : NgM68kState → Bool) :
    CcrOnly fun g => bcdFlags (r g) (b g) (f g) := by
  unfold bcdFlags; dsimp only; infer_instance

instance ccrOnly_bit {w : Nat} (v mask : NgM68kState → BitVec w) :
    CcrOnly fun g => bitZeroFlag (v g) (mask g) (f g) := by
  unfold bitZeroFlag; infer_instance

instance ccrOnly_shift (m : NgM68kMnemonic) (signMask valueMask : BitVec 32) (s : ShiftVars) :
    CcrOnly fun g => shiftFlags m signMask valueMask s (f g) := by
  unfold shiftFlags
  dsimp only
  have : CcrMask (if shiftIsRot m then 0xFFF0 else 0xFFE0) := by split_ifs <;> infer_instance
  have : CcrBits (if shiftIsRot m then ngCcrC else ngCcrC ||| ngCcrX) := by
    split_ifs <;> infer_instance
  infer_instance

instance ccrOnly_shiftZero (m : NgM68kMnemonic) (signMask valueMask result : BitVec 32) :
    CcrOnly fun g => shiftZeroFlags m signMask valueMask result (f g) := by
  unfold shiftZeroFlags; dsimp only; infer_instance

end Ccr

/-- Condition codes taken from elsewhere. -/
instance ccrOnly_load (v : NgM68kState → BitVec 16) :
    CcrOnly fun g => (g.sr &&& 0xFFE0) ||| (v g &&& 0x001F) where
  system g := by
    unfold systemBits
    rw [BitVec.and_or_distrib_right, BitVec.and_assoc, BitVec.and_assoc, BitVec.and_self,
      show (0x001F &&& 0xFFE0 : BitVec 16) = 0#16 by decide, BitVec.and_zero, BitVec.or_zero]

instance ccrOnly_load_const (v : BitVec 16) :
    CcrOnly fun g => (g.sr &&& 0xFFE0) ||| (v &&& 0x001F) := ccrOnly_load fun _ => v

section Changes
variable (f : NgM68kState → NgM68kState) [hf : KeepsSystem f]

instance keepsSystem_id : KeepsSystem fun g => g := ⟨fun g => .refl g⟩

instance keepsSystem_setD (r : NgM68kState → Fin 8) (v : NgM68kState → BitVec 32) :
    KeepsSystem fun g => (f g).setD (r g) (v g) := ⟨fun g => (hf.same g).trans ⟨rfl, rfl, rfl⟩⟩

instance keepsSystem_setA (r : NgM68kState → Fin 8) (v : NgM68kState → BitVec 32) :
    KeepsSystem fun g => (f g).setA (r g) (v g) := ⟨fun g => (hf.same g).trans ⟨rfl, rfl, rfl⟩⟩

instance keepsSystem_setPc (v : NgM68kState → BitVec 32) :
    KeepsSystem fun g => (f g).setPc (v g) := ⟨fun g => (hf.same g).trans ⟨rfl, rfl, rfl⟩⟩

instance keepsSystem_setSr (v : NgM68kState → BitVec 16) [hv : CcrOnly v] :
    KeepsSystem fun g => g.setSr (v g) := ⟨fun g => ⟨hv.system g, rfl, rfl⟩⟩

instance keepsSystem_writeDreg (reg size : BitVec 8) (v : NgM68kState → BitVec 32) :
    KeepsSystem fun g => writeDreg reg size (v g) g := by
  unfold writeDreg; infer_instance

instance keepsSystem_writeDreg_const (reg size : BitVec 8) (v : BitVec 32) :
    KeepsSystem (writeDreg reg size v) := keepsSystem_writeDreg reg size fun _ => v

instance keepsSystem_setMovemReg (i : Nat) (v : BitVec 32) : KeepsSystem (setMovemReg i v) where
  same g := by
    unfold setMovemReg
    split_ifs <;> exact ⟨rfl, rfl, rfl⟩

end Changes

/-! ## Primitives and sequencing -/

section Base
variable [GeneratedAbi β] {R E : Machine β → Machine β → Prop} [hR : MachineRelation R E]

omit [GeneratedAbi β] hR in
/-- Code that falls through from every machine. -/
theorem relates_of_next {x : Gen β α} {a : Machine β → α} {f : Machine β → Machine β}
    (h : ∀ m, x m = .next (a m) (f m)) (hf : ∀ m, R m (f m)) : Relates R E x where
  next m b m' hb := by
    rw [h m] at hb
    cases hb
    exact hf m
  goto m l m' he := by
    rw [h m] at he
    cases he
  ret m m' he := by
    rw [h m] at he
    cases he

instance relates_pure (a : α) : Relates R E (pure a : Gen β α) :=
  relates_of_next (fun _ => rfl) hR.refl

instance relates_getCpu : Relates R E (getCpu : Gen β NgM68kState) :=
  relates_of_next (fun _ => rfl) hR.refl

instance relates_getTraceSr : Relates R E (getTraceSr : Gen β (BitVec 16)) :=
  relates_of_next (fun _ => rfl) hR.refl

instance relates_event (e : Event) : Relates R E (event e : Gen β Unit) :=
  relates_of_next (fun _ => rfl) fun m => hR.log m e

theorem relates_call {f : β → α × β} (h : ∀ b, AbiStep b (f b).2) :
    Relates R E (call f : Gen β α) :=
  relates_of_next (fun _ => rfl) fun m => hR.bus m _ (h m.bus)

instance relates_ret : Relates R E (ret : Gen β α) where
  next m a m' h := by cases h
  goto m l m' h := by cases h
  ret m m' h := by cases h; exact hR.leave (hR.refl m)

instance relates_goto (target : BitVec 32) : Relates R E (goto target : Gen β α) where
  next m a m' h := by cases h
  goto m l m' h := by cases h; exact hR.refl m
  ret m m' h := by cases h

instance relates_bind (x : Gen β α) (f : α → Gen β γ) [hx : Relates R E x]
    [hf : ∀ a, Relates R E (f a)] : Relates R E (x >>= f) where
  next m c m' h := by
    obtain ⟨a, m₁, hm, h⟩ := bind_eq_next h
    exact hR.trans (hx.next m a m₁ hm) ((hf a).next m₁ c m' h)
  goto m l m' h := by
    rw [bind_apply] at h
    cases hm : x m with
    | exit e₁ m₁ => rw [hm] at h; cases h; exact hx.goto m l m' hm
    | next a m₁ =>
      rw [hm] at h
      exact hR.trans (hx.next m a m₁ hm) ((hf a).goto m₁ l m' h)
  ret m m' h := by
    rw [bind_apply] at h
    cases hm : x m with
    | exit e₁ m₁ => rw [hm] at h; cases h; exact hx.ret m m' hm
    | next a m₁ =>
      rw [hm] at h
      exact hR.after (hx.next m a m₁ hm) ((hf a).ret m₁ m' h)

instance relates_map (g : α → γ) (x : Gen β α) [Relates R E x] : Relates R E (g <$> x) := by
  rw [← bind_pure_comp]
  infer_instance

omit hR in
instance relates_ite (c : Prop) [Decidable c] (x y : Gen β α) [Relates R E x] [Relates R E y] :
    Relates R E (if c then x else y) := by
  split_ifs <;> infer_instance

instance relates_foldlM {δ : Type} (f : γ → δ → Gen β γ) [h : ∀ c d, Relates R E (f c d)] (c : γ)
    (ds : List δ) : Relates R E (ds.foldlM f c) := by
  induction ds generalizing c with
  | nil => rw [List.foldlM_nil]; infer_instance
  | cons d ds ih => rw [List.foldlM_cons]; infer_instance

instance (addr : BitVec 32) : Relates R E (dispatch addr : Gen β Unit) := by
  unfold dispatch; infer_instance

instance (addr : BitVec 32) : Relates R E (logDispatchMiss addr : Gen β Unit) := by
  unfold logDispatchMiss; infer_instance

instance (addr : BitVec 32) : Relates R E (missReturn addr : Gen β Unit) := by
  unfold missReturn; infer_instance

instance (addr : BitVec 32) : Relates R E (read8 addr : Gen β _) := by
  have := relates_call (R := R) (E := E) (f := GeneratedAbi.read8 addr) fun _ => .read8 addr
  unfold read8; infer_instance

instance (addr : BitVec 32) : Relates R E (read16 addr : Gen β _) := by
  have := relates_call (R := R) (E := E) (f := GeneratedAbi.read16 addr) fun _ => .read16 addr
  unfold read16; infer_instance

instance (addr : BitVec 32) : Relates R E (read32 addr : Gen β _) := by
  have := relates_call (R := R) (E := E) (f := GeneratedAbi.read32 addr) fun _ => .read32 addr
  unfold read32; infer_instance

instance (addr : BitVec 32) (v : BitVec 8) : Relates R E (write8 addr v : Gen β Unit) := by
  have := relates_call (R := R) (E := E) (f := fun b => ((), GeneratedAbi.write8 addr v b))
    fun _ => .write8 addr v
  unfold write8; infer_instance

instance (addr : BitVec 32) (v : BitVec 16) : Relates R E (write16 addr v : Gen β Unit) := by
  have := relates_call (R := R) (E := E) (f := fun b => ((), GeneratedAbi.write16 addr v b))
    fun _ => .write16 addr v
  unfold write16; infer_instance

instance (addr v : BitVec 32) : Relates R E (write32 addr v : Gen β Unit) := by
  have := relates_call (R := R) (E := E) (f := fun b => ((), GeneratedAbi.write32 addr v b))
    fun _ => .write32 addr v
  unfold write32; infer_instance

end Base

section Code
variable [GeneratedAbi β] {R E : Machine β → Machine β → Prop} [hR : CodeRelation R E]

instance relates_modifyCpu (f : NgM68kState → NgM68kState) [hf : KeepsSystem f] :
    Relates R E (modifyCpu f : Gen β Unit) :=
  relates_of_next (fun _ => rfl) fun m => hR.cpu m _ (hf.same m.cpu)

instance (pc : BitVec 32) : Relates R E (traceOrReturn pc : Gen β Unit) := hR.trace pc

instance (vector : BitVec 8) (pc : BitVec 32) :
    Relates R E (emitExceptionVectorCall vector pc : Gen β Unit) := hR.vector vector pc

instance (instr : NgM68kInstr) (addr : BitVec 32) :
    Relates R E (trapThrough instr addr : Gen β Unit) := hR.trap instr addr

end Code

end NeoRecomp
