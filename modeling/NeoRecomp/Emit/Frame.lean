import NeoRecomp.Emit.Access
import NeoRecomp.Emit.Body

/-!
# Registers written by instruction code

Code that falls through changes no register outside the set its instruction names: the data and
address registers it stores to, the address registers its operands step, and the few implicit ones.
Code that leaves the function is not constrained here.
-/

namespace NeoRecomp

open Gen

variable {β α γ : Type}

/-- A data or an address register. -/
inductive Reg
  | d (r : Fin 8)
  | a (r : Fin 8)
  deriving DecidableEq, Repr

def NgM68kState.reg (g : NgM68kState) : Reg → BitVec 32
  | .d r => g.d r
  | .a r => g.a r

section State
variable (g : NgM68kState) (r : Reg)

@[simp] theorem reg_setSr (v : BitVec 16) : (g.setSr v).reg r = g.reg r := by cases r <;> rfl

theorem reg_setD_of_ne {s : Fin 8} (v : BitVec 32) (h : r ≠ .d s) :
    (g.setD s v).reg r = g.reg r := by
  cases r with
  | a r => rfl
  | d r => exact Function.update_of_ne (fun hr => h (congrArg Reg.d hr)) _ _

theorem reg_setA_of_ne {s : Fin 8} (v : BitVec 32) (h : r ≠ .a s) :
    (g.setA s v).reg r = g.reg r := by
  cases r with
  | d r => rfl
  | a r => exact Function.update_of_ne (fun hr => h (congrArg Reg.a hr)) _ _

end State

/-! ## Code that writes only some registers -/

/-- A change of the CPU record that keeps every register outside `w`. -/
class CpuWritesOnly (w : Set Reg) (f : NgM68kState → NgM68kState) : Prop where
  keeps : ∀ g r, r ∉ w → (f g).reg r = g.reg r

/-- Code that keeps every register outside `w` while it falls through. -/
class WritesOnly (w : Set Reg) (x : Gen β α) : Prop where
  next : ∀ m v m', x m = .next v m' → ∀ r, r ∉ w → m'.cpu.reg r = m.cpu.reg r

/-- Code that never falls through. -/
class NeverNext (x : Gen β α) : Prop where
  exits : ∀ m v m', x m ≠ .next v m'

section Changes
variable {w : Set Reg}

instance cpuWritesOnly_setSr (f : NgM68kState → NgM68kState) (v : NgM68kState → BitVec 16)
    [hf : CpuWritesOnly w f] : CpuWritesOnly w fun g => (f g).setSr (v g) :=
  ⟨fun g r hr => (reg_setSr _ _ _).trans (hf.keeps g r hr)⟩

instance cpuWritesOnly_setUsp (v : NgM68kState → BitVec 32) :
    CpuWritesOnly w fun g => { g with usp := v g } :=
  ⟨fun _ r _ => by cases r <;> rfl⟩

instance cpuWritesOnly_setD (s : Fin 8) (f : NgM68kState → NgM68kState)
    (v : NgM68kState → BitVec 32) [hf : CpuWritesOnly w f] [hs : Fact (.d s ∈ w)] :
    CpuWritesOnly w fun g => (f g).setD s (v g) where
  keeps g r hr := by
    rw [reg_setD_of_ne _ _ _ (by rintro rfl; exact hr hs.out)]
    exact hf.keeps g r hr

instance cpuWritesOnly_setA (s : Fin 8) (f : NgM68kState → NgM68kState)
    (v : NgM68kState → BitVec 32) [hf : CpuWritesOnly w f] [hs : Fact (.a s ∈ w)] :
    CpuWritesOnly w fun g => (f g).setA s (v g) where
  keeps g r hr := by
    rw [reg_setA_of_ne _ _ _ (by rintro rfl; exact hr hs.out)]
    exact hf.keeps g r hr

instance cpuWritesOnly_writeDreg (reg size : BitVec 8) (v : NgM68kState → BitVec 32)
    [Fact (.d (regIndex reg) ∈ w)] : CpuWritesOnly w fun g => writeDreg reg size (v g) g := by
  unfold writeDreg
  infer_instance

instance cpuWritesOnly_writeDreg_const (reg size : BitVec 8) (v : BitVec 32)
    [Fact (.d (regIndex reg) ∈ w)] : CpuWritesOnly w (writeDreg reg size v) :=
  cpuWritesOnly_writeDreg reg size fun _ => v

end Changes

/-! ## Sequencing -/

section Sequencing
variable {w : Set Reg}

/-- Code that falls through from every machine. -/
theorem writesOnly_of_next {x : Gen β α} {v : Machine β → α} {f : Machine β → Machine β}
    (h : ∀ m, x m = .next (v m) (f m)) (hk : ∀ m r, r ∉ w → (f m).cpu.reg r = m.cpu.reg r) :
    WritesOnly w x where
  next m b m' hb r hr := by
    rw [h m] at hb
    cases hb
    exact hk m r hr

instance writesOnly_pure (a : α) : WritesOnly w (pure a : Gen β α) :=
  writesOnly_of_next (fun _ => rfl) fun _ _ _ => rfl

instance writesOnly_getCpu : WritesOnly w (getCpu : Gen β NgM68kState) :=
  writesOnly_of_next (fun _ => rfl) fun _ _ _ => rfl

instance writesOnly_modifyCpu (f : NgM68kState → NgM68kState) [h : CpuWritesOnly w f] :
    WritesOnly w (modifyCpu f : Gen β Unit) :=
  writesOnly_of_next (fun _ => rfl) fun m => h.keeps m.cpu

instance writesOnly_call (f : β → α × β) : WritesOnly w (call f : Gen β α) :=
  writesOnly_of_next (fun _ => rfl) fun _ _ _ => rfl

instance writesOnly_event (e : Event) : WritesOnly w (event e : Gen β Unit) :=
  writesOnly_of_next (fun _ => rfl) fun _ _ _ => rfl

instance writesOnly_bind (x : Gen β α) (f : α → Gen β γ) [hx : WritesOnly w x]
    [hf : ∀ a, WritesOnly w (f a)] : WritesOnly w (x >>= f) where
  next m c m' h r hr := by
    obtain ⟨a, m₁, hm, h⟩ := bind_eq_next h
    exact ((hf a).next m₁ c m' h r hr).trans (hx.next m a m₁ hm r hr)

instance writesOnly_map (g : α → γ) (x : Gen β α) [WritesOnly w x] : WritesOnly w (g <$> x) := by
  rw [← bind_pure_comp]
  infer_instance

instance writesOnly_ite (c : Prop) [Decidable c] (x y : Gen β α) [WritesOnly w x]
    [WritesOnly w y] : WritesOnly w (if c then x else y) := by
  split_ifs <;> infer_instance

theorem writesOnly_foldlM {δ : Type} (f : γ → δ → Gen β γ) (c : γ) (ds : List δ)
    (h : ∀ c, ∀ d ∈ ds, WritesOnly w (f c d)) : WritesOnly w (ds.foldlM f c) := by
  induction ds generalizing c with
  | nil => rw [List.foldlM_nil]; infer_instance
  | cons d ds ih =>
    have hd := h c d List.mem_cons_self
    have ht := fun c => ih c fun c' d' hd' => h c' d' (List.mem_cons_of_mem _ hd')
    rw [List.foldlM_cons]
    infer_instance

instance neverNext_ret : NeverNext (ret : Gen β α) := ⟨fun _ _ _ h => by cases h⟩

instance neverNext_goto (t : BitVec 32) : NeverNext (goto t : Gen β α) :=
  ⟨fun _ _ _ h => by cases h⟩

instance neverNext_bind (x : Gen β α) (f : α → Gen β γ) [hf : ∀ a, NeverNext (f a)] :
    NeverNext (x >>= f) where
  exits m c m' h := by
    obtain ⟨a, m₁, _, h⟩ := bind_eq_next h
    exact (hf a).exits m₁ c m' h

instance neverNext_ite (c : Prop) [Decidable c] (x y : Gen β α) [NeverNext x] [NeverNext y] :
    NeverNext (if c then x else y) := by
  split_ifs <;> infer_instance

instance (priority := low) writesOnly_of_neverNext (x : Gen β α) [h : NeverNext x] :
    WritesOnly w x :=
  ⟨fun m v m' hm => absurd hm (h.exits m v m')⟩

end Sequencing

/-! ## Helper functions -/

section Abi
variable [GeneratedAbi β] {w : Set Reg}

instance (addr : BitVec 32) : WritesOnly w (read8 addr : Gen β _) := by
  unfold read8; infer_instance

instance (addr : BitVec 32) : WritesOnly w (read16 addr : Gen β _) := by
  unfold read16; infer_instance

instance (addr : BitVec 32) : WritesOnly w (read32 addr : Gen β _) := by
  unfold read32; infer_instance

instance (addr : BitVec 32) (v : BitVec 8) : WritesOnly w (write8 addr v : Gen β Unit) := by
  unfold write8; infer_instance

instance (addr : BitVec 32) (v : BitVec 16) : WritesOnly w (write16 addr v : Gen β Unit) := by
  unfold write16; infer_instance

instance (addr v : BitVec 32) : WritesOnly w (write32 addr v : Gen β Unit) := by
  unfold write32; infer_instance

instance (v : BitVec 32) [Fact (.a 7 ∈ w)] : WritesOnly w (pushLong v : Gen β Unit) := by
  unfold pushLong; infer_instance

/-- Past the privilege test the machine is as before it, in supervisor mode. -/
theorem emitRequireSupervisor_next {pc : BitVec 32} {m m' : Machine β} {u : Unit}
    (h : emitRequireSupervisor pc m = .next u m') : m' = m ∧ srHas m.cpu.sr ngSrS = true := by
  unfold emitRequireSupervisor ngRequireSupervisor at h
  obtain ⟨b, m₁, hb, h⟩ := bind_eq_next h
  obtain ⟨g, m₂, hg, hb⟩ := bind_eq_next hb
  cases hg
  by_cases hs : srHas m.cpu.sr ngSrS = true
  · rw [if_pos hs] at hb
    cases hb
    cases h
    exact ⟨rfl, hs⟩
  · -- The exception path answers `false`, and the caller returns.
    rw [if_neg hs] at hb
    obtain ⟨_, m₃, _, hb⟩ := bind_eq_next hb
    obtain ⟨_, m₄, _, hb⟩ := bind_eq_next hb
    cases hb
    cases h

/-- Past the trace test the machine is as before it, and the trace bit was clear. -/
theorem traceOrReturn_next {pc : BitVec 32} {m m' : Machine β} {u : Unit}
    (h : traceOrReturn pc m = .next u m') : m' = m ∧ srHas m.traceSr ngSrT = false := by
  unfold traceOrReturn ngServiceTrace at h
  obtain ⟨sr, m₁, hsr, h⟩ := bind_eq_next h
  cases hsr
  obtain ⟨b, m₂, hb, h⟩ := bind_eq_next h
  by_cases hs : srHas m.traceSr ngSrT = true
  · rw [if_pos hs] at hb
    obtain ⟨_, m₃, _, hb⟩ := bind_eq_next hb
    obtain ⟨_, m₄, _, hb⟩ := bind_eq_next hb
    cases hb
    cases h
  · rw [if_neg hs] at hb
    cases hb
    cases h
    exact ⟨rfl, Bool.eq_false_iff.mpr hs⟩

instance (pc : BitVec 32) : WritesOnly w (emitRequireSupervisor pc : Gen β Unit) :=
  ⟨fun _ _ _ h _ _ => by rw [(emitRequireSupervisor_next h).1]⟩

instance (pc : BitVec 32) : WritesOnly w (traceOrReturn pc : Gen β Unit) :=
  ⟨fun _ _ _ h _ _ => by rw [(traceOrReturn_next h).1]⟩

instance (pc : BitVec 32) : NeverNext (traceDispatchReturn pc : Gen β Unit) := by
  unfold traceDispatchReturn; infer_instance

instance (vector : BitVec 8) (pc : BitVec 32) :
    NeverNext (emitExceptionVectorCall vector pc : Gen β Unit) := by
  unfold emitExceptionVectorCall; infer_instance

instance (instr : NgM68kInstr) (addr : BitVec 32) :
    NeverNext (trapThrough instr addr : Gen β Unit) := by
  unfold trapThrough; infer_instance

end Abi

instance (addr : BitVec 32) : NeverNext (missReturn addr : Gen β Unit) := by
  unfold missReturn; infer_instance

/-! ## Operands -/

/-- The address register an operand steps. -/
def NgM68kEa.steps (ea : NgM68kEa) (r : Reg) : Bool :=
  (ea.mode = .apost || ea.mode = .apre) && r = .a (regIndex ea.reg)

/-- The register an operand is. -/
def NgM68kEa.names (ea : NgM68kEa) (r : Reg) : Bool :=
  match ea.mode with
  | .dreg => r = .d (regIndex ea.reg)
  | .areg => r = .a (regIndex ea.reg)
  | _ => false

/-- The operand steps no register outside `w`. -/
class StepsIn (w : Set Reg) (ea : NgM68kEa) : Prop where
  mem : ∀ r, ea.steps r = true → r ∈ w

/-- The operand is no register outside `w`. -/
class NamesIn (w : Set Reg) (ea : NgM68kEa) : Prop where
  mem : ∀ r, ea.names r = true → r ∈ w

section Operands
variable {w : Set Reg} {ea : NgM68kEa} {size : BitVec 8}

theorem fact_step [h : StepsIn w ea] (hm : ea.mode = .apost ∨ ea.mode = .apre) :
    Fact (.a (regIndex ea.reg) ∈ w) :=
  ⟨h.mem _ (by rcases hm with hm | hm <;> simp [NgM68kEa.steps, hm])⟩

theorem fact_dreg [h : NamesIn w ea] (hm : ea.mode = .dreg) : Fact (.d (regIndex ea.reg) ∈ w) :=
  ⟨h.mem _ (by simp [NgM68kEa.names, hm])⟩

theorem fact_areg [h : NamesIn w ea] (hm : ea.mode = .areg) : Fact (.a (regIndex ea.reg) ∈ w) :=
  ⟨h.mem _ (by simp [NgM68kEa.names, hm])⟩

instance [Fact (.a (regIndex ea.reg) ∈ w)] : WritesOnly w (stepUp ea size : Gen β Unit) := by
  unfold stepUp; infer_instance

instance [Fact (.a (regIndex ea.reg) ∈ w)] : WritesOnly w (stepDown ea size : Gen β Unit) := by
  unfold stepDown; infer_instance

instance (e : CExpr) : WritesOnly w (emitSetNzForSize size e : Gen β Unit) := by
  unfold emitSetNzForSize; infer_instance

theorem emitEaAddress_writesOnly [StepsIn w ea] {ad : Gen β CExpr}
    (h : emitEaAddress ea size = some ad) : WritesOnly w ad := by
  unfold emitEaAddress at h
  cases hm : ea.mode <;> simp only [hm, Option.some.injEq, reduceCtorEq] at h <;> subst h
  case apost => have := fact_step (w := w) (.inl hm); infer_instance
  case apre => have := fact_step (w := w) (.inr hm); infer_instance
  all_goals infer_instance

variable [GeneratedAbi β]

instance (addr : BitVec 32) : WritesOnly w (readSize size addr : Gen β _) := by
  unfold readSize; infer_instance

instance (addr : BitVec 32) (v : BitVec (ngSizeBits size)) :
    WritesOnly w (writeSize size addr v : Gen β Unit) := by
  unfold writeSize; infer_instance

instance (addr : CExpr) : WritesOnly w (readThrough size addr : Gen β CExpr) := by
  unfold readThrough; infer_instance

instance (addr e : CExpr) : WritesOnly w (writeThrough size addr e : Gen β Unit) := by
  unfold writeThrough; infer_instance

theorem emitEaRead_writesOnly [StepsIn w ea] {rd : Gen β CExpr}
    (h : emitEaRead ea size = some rd) : WritesOnly w rd := by
  unfold emitEaRead at h
  cases hm : ea.mode <;> simp only [hm, Option.some.injEq, reduceCtorEq] at h <;> subst h
  case apost => have := fact_step (w := w) (.inl hm); infer_instance
  case apre => have := fact_step (w := w) (.inr hm); infer_instance
  all_goals infer_instance

theorem emitEaWrite_writesOnly [StepsIn w ea] [NamesIn w ea] {wr : CExpr → Gen β Unit}
    (h : emitEaWrite ea size = some wr) (e : CExpr) : WritesOnly w (wr e) := by
  unfold emitEaWrite at h
  cases hm : ea.mode <;> simp only [hm, Option.some.injEq, reduceCtorEq] at h <;> subst h
  case dreg => have := fact_dreg (w := w) hm; infer_instance
  case areg => have := fact_areg (w := w) hm; infer_instance
  case apost => have := fact_step (w := w) (.inl hm); infer_instance
  case apre => have := fact_step (w := w) (.inr hm); infer_instance
  all_goals infer_instance

end Operands

/-! ## Emissions -/

/-- Everything an emission prints writes only registers of `w`. -/
class Emission.WritesOnly (w : Set Reg) (e : Emission β) : Prop where
  emitted : ∀ text, e = .emitted text → NeoRecomp.WritesOnly w text
  failed : ∀ text, e = .failed text → NeoRecomp.WritesOnly w text

section Emissions
variable {w : Set Reg}

instance emission_writesOnly_emitted (text : Gen β Unit) [h : WritesOnly w text] :
    (Emission.emitted text).WritesOnly w where
  emitted _ he := by cases he; exact h
  failed _ he := by cases he

instance emission_writesOnly_failed (text : Gen β Unit) [h : WritesOnly w text] :
    (Emission.failed text).WritesOnly w where
  emitted _ he := by cases he
  failed _ he := by cases he; exact h

instance emission_writesOnly_rejected : (Emission.rejected : Emission β).WritesOnly w :=
  emission_writesOnly_failed (pure ())

instance emission_writesOnly_orElse (e e' : Emission β) [h : e.WritesOnly w]
    [h' : e'.WritesOnly w] : (e.orElse e').WritesOnly w := by
  cases e with
  | emitted text => have := h.emitted text rfl; exact emission_writesOnly_emitted text
  | failed text =>
    have := h.failed text rfl
    cases e' with
    | emitted text' => have := h'.emitted text' rfl; exact emission_writesOnly_emitted _
    | failed text' => have := h'.failed text' rfl; exact emission_writesOnly_failed _

instance fallsThrough_writesOnly (text : Gen β Unit) [h : WritesOnly w text] :
    WritesOnly w (fallsThrough text).text := h

instance leaves_neverNext (text : Gen β Unit) [h : NeverNext text] :
    NeverNext (leaves text).text := h

instance unsupportedFallback_neverNext (instr : NgM68kInstr) (text : Gen β Unit) :
    NeverNext (unsupportedFallback instr text).text := by
  unfold unsupportedFallback; infer_instance

theorem orUnsupported_writesOnly (instr : NgM68kInstr) (e : Emission β) [h : e.WritesOnly w] :
    WritesOnly w (orUnsupported instr e).text := by
  cases e with
  | emitted text => exact h.emitted text rfl
  | failed text => exact @writesOnly_of_neverNext _ _ _ _ (unsupportedFallback_neverNext instr text)

end Emissions

end NeoRecomp
