import NeoRecomp.Emit.Access
import NeoRecomp.Emit.Body

/-!
# What instruction code leaves alone

Outside of branches and STOP, the code printed for an instruction keeps the trace sample of the
running function, transfers no control while it falls through, and leaves the function right after
its first dispatch.
-/

namespace NeoRecomp

open Gen

variable {β α γ : Type}

/-- A dispatch or a logged miss, as opposed to a bus access. -/
def Event.isTransfer : Event → Bool
  | .dispatch _ | .miss _ => true
  | _ => false

/-- From `m` to `m'` only bus accesses were logged. -/
def NoTransfer (m m' : Machine β) : Prop :=
  ∃ es, m'.log = m.log ++ es ∧ ∀ e ∈ es, e.isTransfer = false

/-- From `m` to `m'` there was one transfer, a dispatch, and it came last. -/
def OneDispatch (m m' : Machine β) : Prop :=
  ∃ es a, m'.log = m.log ++ (es ++ [.dispatch a]) ∧ ∀ e ∈ es, e.isTransfer = false

theorem NoTransfer.refl (m : Machine β) : NoTransfer m m := ⟨[], by simp, by simp⟩

theorem NoTransfer.trans {m₁ m₂ m₃ : Machine β} (h : NoTransfer m₁ m₂) (h' : NoTransfer m₂ m₃) :
    NoTransfer m₁ m₃ := by
  obtain ⟨es, he, hes⟩ := h
  obtain ⟨es', he', hes'⟩ := h'
  refine ⟨es ++ es', by rw [he', he, List.append_assoc], fun e h => ?_⟩
  rcases List.mem_append.mp h with h | h
  · exact hes e h
  · exact hes' e h

theorem NoTransfer.then_oneDispatch {m₁ m₂ m₃ : Machine β} (h : NoTransfer m₁ m₂)
    (h' : OneDispatch m₂ m₃) : OneDispatch m₁ m₃ := by
  obtain ⟨es, he, hes⟩ := h
  obtain ⟨es', a, he', hes'⟩ := h'
  refine ⟨es ++ es', a, by rw [he', he]; simp only [List.append_assoc], fun e h => ?_⟩
  rcases List.mem_append.mp h with h | h
  · exact hes e h
  · exact hes' e h

/-- Code that keeps the trace sample, transfers no control while it falls through, and leaves the
function by a `return;` right after its only dispatch. -/
class Tame (x : Gen β α) : Prop where
  next : ∀ m a m', x m = .next a m' → m'.traceSr = m.traceSr ∧ NoTransfer m m'
  exit : ∀ m e m', x m = .exit e m' → e = .ret ∧ OneDispatch m m'

/-! ## Primitives and sequencing -/

/-- Code that falls through from every machine. -/
theorem tame_of_next {x : Gen β α} {a : Machine β → α} {f : Machine β → Machine β}
    (h : ∀ m, x m = .next (a m) (f m)) (ht : ∀ m, (f m).traceSr = m.traceSr)
    (hl : ∀ m, NoTransfer m (f m)) : Tame x where
  next m b m' hb := by
    rw [h m] at hb
    cases hb
    exact ⟨ht m, hl m⟩
  exit m e m' he := by
    rw [h m] at he
    cases he

instance tame_pure (a : α) : Tame (pure a : Gen β α) :=
  tame_of_next (fun _ => rfl) (fun _ => rfl) .refl

instance tame_getCpu : Tame (getCpu : Gen β NgM68kState) :=
  tame_of_next (fun _ => rfl) (fun _ => rfl) .refl

instance tame_getTraceSr : Tame (getTraceSr : Gen β (BitVec 16)) :=
  tame_of_next (fun _ => rfl) (fun _ => rfl) .refl

instance tame_modifyCpu (f : NgM68kState → NgM68kState) : Tame (modifyCpu f : Gen β Unit) :=
  tame_of_next (fun _ => rfl) (fun _ => rfl) fun m => .refl m

instance tame_call (f : β → α × β) : Tame (call f : Gen β α) :=
  tame_of_next (fun _ => rfl) (fun _ => rfl) fun m => .refl m

instance tame_bind (x : Gen β α) (f : α → Gen β γ) [hx : Tame x] [hf : ∀ a, Tame (f a)] :
    Tame (x >>= f) where
  next m c m' h := by
    rw [bind_apply] at h
    cases hm : x m with
    | exit e m₁ => rw [hm] at h; cases h
    | next a m₁ =>
      rw [hm] at h
      obtain ⟨ht, hl⟩ := hx.next m a m₁ hm
      obtain ⟨ht', hl'⟩ := (hf a).next m₁ c m' h
      exact ⟨ht'.trans ht, hl.trans hl'⟩
  exit m e m' h := by
    rw [bind_apply] at h
    cases hm : x m with
    | exit e₁ m₁ => rw [hm] at h; cases h; exact hx.exit m e m' hm
    | next a m₁ =>
      rw [hm] at h
      obtain ⟨hr, hd⟩ := (hf a).exit m₁ e m' h
      exact ⟨hr, (hx.next m a m₁ hm).2.then_oneDispatch hd⟩

instance tame_ite (c : Prop) [Decidable c] (x y : Gen β α) [Tame x] [Tame y] :
    Tame (if c then x else y) := by
  split_ifs <;> infer_instance

theorem oneDispatch_dispatch (addr : BitVec 32) (m : Machine β) :
    OneDispatch m { m with log := m.log ++ [.dispatch addr] } :=
  ⟨[], addr, by simp, by simp⟩

/-- A `return;` right after a dispatch. -/
instance tame_dispatch_ret (addr : BitVec 32) : Tame (do dispatch addr; ret : Gen β α) where
  next m a m' h := by cases h
  exit m e m' h := by
    cases h
    exact ⟨rfl, oneDispatch_dispatch _ m⟩

/-- A test that dispatches once when its answer is `stop` and is tame otherwise. -/
class DispatchTest (x : Gen β Bool) (stop : Bool) : Prop where
  stops : ∀ m m', x m = .next stop m' → OneDispatch m m'
  goes : ∀ m m', x m = .next (!stop) m' → m'.traceSr = m.traceSr ∧ NoTransfer m m'
  exit : ∀ m e m', x m = .exit e m' → e = .ret ∧ OneDispatch m m'

/-- What follows a test: nothing but the way out after a dispatch, tame code otherwise. -/
theorem tame_of_test {x : Gen β Bool} {stop : Bool} [hx : DispatchTest x stop]
    (f : Bool → Gen β α) (hs : f stop = ret) [hf : Tame (f (!stop))] : Tame (x >>= f) where
  next m c m' h := by
    rw [bind_apply] at h
    cases hm : x m with
    | exit e m₁ => rw [hm] at h; cases h
    | next b m₁ =>
      rw [hm] at h
      rcases Bool.eq_or_eq_not b stop with rfl | rfl
      · simp only [hs] at h; cases h
      · obtain ⟨ht, hl⟩ := hx.goes m m₁ hm
        obtain ⟨ht', hl'⟩ := hf.next m₁ c m' h
        exact ⟨ht'.trans ht, hl.trans hl'⟩
  exit m e m' h := by
    rw [bind_apply] at h
    cases hm : x m with
    | exit e₁ m₁ => rw [hm] at h; cases h; exact hx.exit m e m' hm
    | next b m₁ =>
      rw [hm] at h
      rcases Bool.eq_or_eq_not b stop with rfl | rfl
      · simp only [hs] at h; cases h; exact ⟨rfl, hx.stops m m' hm⟩
      · obtain ⟨hr, hd⟩ := hf.exit m₁ e m' h
        exact ⟨hr, (hx.goes m m₁ hm).2.then_oneDispatch hd⟩

instance test_go (stop : Bool) : DispatchTest (pure (!stop) : Gen β Bool) stop where
  stops m m' h := by cases stop <;> cases h
  goes m m' h := by cases h; exact ⟨rfl, .refl m⟩
  exit m e m' h := by cases h

instance test_dispatch (addr : BitVec 32) (stop : Bool) :
    DispatchTest (do dispatch addr; pure stop : Gen β Bool) stop where
  stops m m' h := by cases h; exact oneDispatch_dispatch _ m
  goes m m' h := by cases stop <;> cases h
  exit m e m' h := by cases h

instance test_bind (x : Gen β α) (f : α → Gen β Bool) (stop : Bool) [hx : Tame x]
    [hf : ∀ a, DispatchTest (f a) stop] : DispatchTest (x >>= f) stop where
  stops m m' h := by
    rw [bind_apply] at h
    cases hm : x m with
    | exit e m₁ => rw [hm] at h; cases h
    | next a m₁ =>
      rw [hm] at h
      exact (hx.next m a m₁ hm).2.then_oneDispatch ((hf a).stops m₁ m' h)
  goes m m' h := by
    rw [bind_apply] at h
    cases hm : x m with
    | exit e m₁ => rw [hm] at h; cases h
    | next a m₁ =>
      rw [hm] at h
      obtain ⟨ht, hl⟩ := hx.next m a m₁ hm
      obtain ⟨ht', hl'⟩ := (hf a).goes m₁ m' h
      exact ⟨ht'.trans ht, hl.trans hl'⟩
  exit m e m' h := by
    rw [bind_apply] at h
    cases hm : x m with
    | exit e₁ m₁ => rw [hm] at h; cases h; exact hx.exit m e m' hm
    | next a m₁ =>
      rw [hm] at h
      obtain ⟨hr, hd⟩ := (hf a).exit m₁ e m' h
      exact ⟨hr, (hx.next m a m₁ hm).2.then_oneDispatch hd⟩

instance test_ite (c : Prop) [Decidable c] (x y : Gen β Bool) (stop : Bool)
    [DispatchTest x stop] [DispatchTest y stop] : DispatchTest (if c then x else y) stop := by
  split_ifs <;> infer_instance

/-- A second test after one that did not dispatch. -/
theorem test_of_test {x : Gen β Bool} [hx : DispatchTest x true] (f : Bool → Gen β Bool)
    (hs : f true = pure true) [hf : DispatchTest (f false) true] : DispatchTest (x >>= f) true where
  stops m m' h := by
    rw [bind_apply] at h
    cases hm : x m with
    | exit e m₁ => rw [hm] at h; cases h
    | next b m₁ =>
      rw [hm] at h
      cases b with
      | true => simp only [hs] at h; cases h; exact hx.stops m m' hm
      | false => exact (hx.goes m m₁ hm).2.then_oneDispatch (hf.stops m₁ m' h)
  goes m m' h := by
    rw [bind_apply] at h
    cases hm : x m with
    | exit e m₁ => rw [hm] at h; cases h
    | next b m₁ =>
      rw [hm] at h
      cases b with
      | true => simp only [hs] at h; cases h
      | false =>
        obtain ⟨ht, hl⟩ := hx.goes m m₁ hm
        obtain ⟨ht', hl'⟩ := hf.goes m₁ m' h
        exact ⟨ht'.trans ht, hl.trans hl'⟩
  exit m e m' h := by
    rw [bind_apply] at h
    cases hm : x m with
    | exit e₁ m₁ => rw [hm] at h; cases h; exact hx.exit m e m' hm
    | next b m₁ =>
      rw [hm] at h
      cases b with
      | true => simp only [hs] at h; cases h
      | false =>
        obtain ⟨hr, hd⟩ := hf.exit m₁ e m' h
        exact ⟨hr, (hx.goes m m₁ hm).2.then_oneDispatch hd⟩

/-! ## Ways out -/

/-- No way out. -/
def NoWay (_ _ : Machine β) : Prop := False

/-- Code that keeps the trace sample, transfers no control while it falls through, and leaves the
function by a `return;`, behind some bus accesses in the given way. -/
class ExitsBy (W : Machine β → Machine β → Prop) (x : Gen β α) : Prop where
  next : ∀ m a m', x m = .next a m' → m'.traceSr = m.traceSr ∧ NoTransfer m m'
  exit : ∀ m e m', x m = .exit e m' → e = .ret ∧ ∃ m₁, NoTransfer m m₁ ∧ W m₁ m'

instance (priority := low) ExitsBy.tame (x : Gen β α) [h : ExitsBy OneDispatch x] : Tame x where
  next := h.next
  exit m e m' hx := by
    obtain ⟨hr, m₁, hno, hd⟩ := h.exit m e m' hx
    exact ⟨hr, hno.then_oneDispatch hd⟩

/-- Code with no way out falls through. -/
theorem ExitsBy.falls_through {x : Gen β α} (h : ExitsBy NoWay x) (m : Machine β) :
    ∃ a m', x m = .next a m' := by
  cases hm : x m with
  | next a m' => exact ⟨a, m', rfl⟩
  | exit e m' => obtain ⟨-, m₁, -, hno⟩ := h.exit m e m' hm; exact hno.elim

section Ways
variable {W : Machine β → Machine β → Prop}

theorem exitsBy_of_next {x : Gen β α} {a : Machine β → α} {f : Machine β → Machine β}
    (h : ∀ m, x m = .next (a m) (f m)) (ht : ∀ m, (f m).traceSr = m.traceSr)
    (hl : ∀ m, NoTransfer m (f m)) : ExitsBy W x where
  next m b m' hb := by
    rw [h m] at hb
    cases hb
    exact ⟨ht m, hl m⟩
  exit m e m' he := by
    rw [h m] at he
    cases he

instance exitsBy_pure (a : α) : ExitsBy W (pure a : Gen β α) :=
  exitsBy_of_next (fun _ => rfl) (fun _ => rfl) .refl

instance exitsBy_getCpu : ExitsBy W (getCpu : Gen β NgM68kState) :=
  exitsBy_of_next (fun _ => rfl) (fun _ => rfl) .refl

instance exitsBy_modifyCpu (f : NgM68kState → NgM68kState) :
    ExitsBy W (modifyCpu f : Gen β Unit) :=
  exitsBy_of_next (fun _ => rfl) (fun _ => rfl) fun m => .refl m

instance exitsBy_call (f : β → α × β) : ExitsBy W (call f : Gen β α) :=
  exitsBy_of_next (fun _ => rfl) (fun _ => rfl) fun m => .refl m

theorem exitsBy_event {e : Event} (he : e.isTransfer = false) :
    ExitsBy W (event e : Gen β Unit) :=
  exitsBy_of_next (fun _ => rfl) (fun _ => rfl) fun _ => ⟨[e], rfl, by simpa using he⟩

instance exitsBy_read_event (n : Nat) (addr : BitVec 32) :
    ExitsBy W (event (.read n addr) : Gen β Unit) :=
  exitsBy_event rfl

instance exitsBy_write_event (n : Nat) (addr v : BitVec 32) :
    ExitsBy W (event (.write n addr v) : Gen β Unit) :=
  exitsBy_event rfl

instance exitsBy_bind (x : Gen β α) (f : α → Gen β γ)
    [hx : ExitsBy W x] [hf : ∀ a, ExitsBy W (f a)] : ExitsBy W (x >>= f) where
  next m c m' h := by
    rw [bind_apply] at h
    cases hm : x m with
    | exit e m₁ => rw [hm] at h; cases h
    | next a m₁ =>
      rw [hm] at h
      obtain ⟨ht, hl⟩ := hx.next m a m₁ hm
      obtain ⟨ht', hl'⟩ := (hf a).next m₁ c m' h
      exact ⟨ht'.trans ht, hl.trans hl'⟩
  exit m e m' h := by
    rw [bind_apply] at h
    cases hm : x m with
    | exit e₁ m₁ => rw [hm] at h; cases h; exact hx.exit m e m' hm
    | next a m₁ =>
      rw [hm] at h
      obtain ⟨hr, m₂, hno, hd⟩ := (hf a).exit m₁ e m' h
      exact ⟨hr, m₂, (hx.next m a m₁ hm).2.trans hno, hd⟩

instance exitsBy_map (g : α → γ) (x : Gen β α) [ExitsBy W x] :
    ExitsBy W (g <$> x) := by
  rw [← bind_pure_comp]
  infer_instance

instance exitsBy_ite (c : Prop) [Decidable c] (x y : Gen β α) [ExitsBy W x] [ExitsBy W y] :
    ExitsBy W (if c then x else y) := by
  split_ifs <;> infer_instance

instance exitsBy_foldlM {δ : Type} (f : γ → δ → Gen β γ)
    [h : ∀ c d, ExitsBy W (f c d)] (c : γ) (ds : List δ) : ExitsBy W (ds.foldlM f c) := by
  induction ds generalizing c with
  | nil => rw [List.foldlM_nil]; infer_instance
  | cons d ds ih => rw [List.foldlM_cons]; infer_instance

instance (ea : NgM68kEa) (size : BitVec 8) : ExitsBy W (stepUp ea size : Gen β Unit) := by
  unfold stepUp; infer_instance

instance (ea : NgM68kEa) (size : BitVec 8) : ExitsBy W (stepDown ea size : Gen β Unit) := by
  unfold stepDown; infer_instance

section Abi
variable [GeneratedAbi β]

instance (addr : BitVec 32) : ExitsBy W (read8 addr : Gen β _) := by unfold read8; infer_instance
instance (addr : BitVec 32) : ExitsBy W (read16 addr : Gen β _) := by unfold read16; infer_instance
instance (addr : BitVec 32) : ExitsBy W (read32 addr : Gen β _) := by unfold read32; infer_instance

instance (addr : BitVec 32) (v : BitVec 8) : ExitsBy W (write8 addr v : Gen β Unit) := by
  unfold write8; infer_instance

instance (addr : BitVec 32) (v : BitVec 16) : ExitsBy W (write16 addr v : Gen β Unit) := by
  unfold write16; infer_instance

instance (addr v : BitVec 32) : ExitsBy W (write32 addr v : Gen β Unit) := by
  unfold write32; infer_instance

/-! ## Helper functions -/

instance (v : BitVec 32) : ExitsBy W (pushLong v : Gen β Unit) := by unfold pushLong; infer_instance

instance (v : BitVec 16) : ExitsBy W (pushWord v : Gen β Unit) := by unfold pushWord; infer_instance

instance (pc : BitVec 32) : ExitsBy W (ngPushExceptionFrame pc : Gen β Unit) := by
  unfold ngPushExceptionFrame; infer_instance

instance (pc : BitVec 32) (level : BitVec 8) :
    ExitsBy W (ngPushInterruptFrame pc level : Gen β Unit) := by
  unfold ngPushInterruptFrame; infer_instance

instance test_requireSupervisor (pc : BitVec 32) :
    DispatchTest (ngRequireSupervisor pc : Gen β Bool) false := by
  have : DispatchTest (pure true : Gen β Bool) false := test_go false
  unfold ngRequireSupervisor
  infer_instance

instance test_serviceTrace (pc : BitVec 32) (sr : BitVec 16) :
    DispatchTest (ngServiceTrace pc sr : Gen β Bool) true := by
  have : DispatchTest (pure false : Gen β Bool) true := test_go true
  unfold ngServiceTrace
  infer_instance

instance test_serviceReset : DispatchTest (ngServiceReset : Gen β Bool) true := by
  have : DispatchTest (pure false : Gen β Bool) true := test_go true
  unfold ngServiceReset
  refine @test_bind _ _ _ _ _ inferInstance fun taken => ?_
  split <;> infer_instance

instance test_serviceInterrupt (pc : BitVec 32) :
    DispatchTest (ngServiceInterrupt pc : Gen β Bool) true := by
  have hgo : DispatchTest (pure false : Gen β Bool) true := test_go true
  unfold ngServiceInterrupt
  refine @test_bind _ _ _ _ _ inferInstance fun g => ?_
  -- A pending reset is taken before and after the interrupt line is sampled.
  refine @test_of_test _ _ inferInstance _ rfl ?_
  refine @test_bind _ _ _ _ _ inferInstance fun taken => ?_
  refine @test_of_test _ _ inferInstance _ rfl ?_
  cases taken with
  | none => exact hgo
  | some lv => rw [if_neg Bool.false_ne_true]; infer_instance

instance (pc : BitVec 32) : Tame (emitRequireSupervisor pc : Gen β Unit) := by
  unfold emitRequireSupervisor
  exact @tame_of_test _ _ _ false inferInstance _ rfl (tame_pure ())

instance (pc : BitVec 32) : Tame (traceOrReturn pc : Gen β Unit) := by
  unfold traceOrReturn
  refine @tame_bind _ _ _ _ _ inferInstance fun sr => ?_
  exact @tame_of_test _ _ _ true inferInstance _ rfl (tame_pure ())

instance (pc : BitVec 32) : Tame (traceDispatchReturn pc : Gen β Unit) := by
  unfold traceDispatchReturn; infer_instance

instance (vector : BitVec 8) (pc : BitVec 32) :
    Tame (emitExceptionVectorCall vector pc : Gen β Unit) := by
  unfold emitExceptionVectorCall; infer_instance

instance (instr : NgM68kInstr) (addr : BitVec 32) : Tame (trapThrough instr addr : Gen β Unit) := by
  unfold trapThrough; infer_instance

/-! ## Operands -/

instance (size : BitVec 8) (addr : BitVec 32) : ExitsBy W (readSize size addr : Gen β _) := by
  unfold readSize; infer_instance

instance (size : BitVec 8) (addr : BitVec 32) (v : BitVec (ngSizeBits size)) :
    ExitsBy W (writeSize size addr v : Gen β Unit) := by
  unfold writeSize; infer_instance

instance (size : BitVec 8) (addr : CExpr) : ExitsBy W (readThrough size addr : Gen β CExpr) := by
  unfold readThrough; infer_instance

instance (size : BitVec 8) (addr e : CExpr) : ExitsBy W (writeThrough size addr e : Gen β Unit) := by
  unfold writeThrough; infer_instance

instance (size : BitVec 8) (e : CExpr) : ExitsBy W (emitSetNzForSize size e : Gen β Unit) := by
  unfold emitSetNzForSize; infer_instance

theorem emitEaRead_exitsBy {ea : NgM68kEa} {size : BitVec 8} {rd : Gen β CExpr}
    (h : emitEaRead ea size = some rd) : ExitsBy W rd := by
  unfold emitEaRead at h
  cases hm : ea.mode <;> simp only [hm, Option.some.injEq, reduceCtorEq] at h <;> subst h <;>
    infer_instance

theorem emitEaWrite_exitsBy {ea : NgM68kEa} {size : BitVec 8} {wr : CExpr → Gen β Unit}
    (h : emitEaWrite ea size = some wr) (e : CExpr) : ExitsBy W (wr e) := by
  unfold emitEaWrite at h
  cases hm : ea.mode <;> simp only [hm, Option.some.injEq, reduceCtorEq] at h <;> subst h <;>
    infer_instance

end Abi

theorem emitEaAddress_exitsBy {ea : NgM68kEa} {size : BitVec 8} {ad : Gen β CExpr}
    (h : emitEaAddress ea size = some ad) : ExitsBy W ad := by
  unfold emitEaAddress at h
  cases hm : ea.mode <;> simp only [hm, Option.some.injEq, reduceCtorEq] at h <;> subst h <;>
    infer_instance

/-! ## Emissions -/

/-- Everything an emission prints is tame. -/
class Emission.Tame (e : Emission β) : Prop where
  emitted : ∀ text, e = .emitted text → NeoRecomp.Tame text
  failed : ∀ text, e = .failed text → NeoRecomp.Tame text

instance emission_tame_emitted (text : Gen β Unit) [h : Tame text] :
    (Emission.emitted text).Tame where
  emitted _ he := by cases he; exact h
  failed _ he := by cases he

instance emission_tame_failed (text : Gen β Unit) [h : Tame text] :
    (Emission.failed text).Tame where
  emitted _ he := by cases he
  failed _ he := by cases he; exact h

instance emission_tame_rejected : (Emission.rejected : Emission β).Tame :=
  emission_tame_failed (pure ())

/-- What an emission without the unsupported fallback prints is tame. -/
def InstrEmission.Tame (e : InstrEmission β) : Prop :=
  e.unsupported = false → NeoRecomp.Tame e.text

theorem fallsThrough_tame (text : Gen β Unit) [h : Tame text] : (fallsThrough text).Tame :=
  fun _ => h

theorem leaves_tame (text : Gen β Unit) [h : Tame text] : (leaves text).Tame := fun _ => h

theorem unsupportedFallback_tame (instr : NgM68kInstr) (text : Gen β Unit) :
    (unsupportedFallback instr text).Tame := by
  intro h
  cases h

theorem orUnsupported_tame (instr : NgM68kInstr) (e : Emission β) [h : e.Tame] :
    (orUnsupported instr e).Tame := by
  cases e with
  | emitted text => exact fun _ => h.emitted text rfl
  | failed text => exact unsupportedFallback_tame instr text

/-- Everything an emission prints leaves only in the given way. -/
class Emission.ExitsBy (W : Machine β → Machine β → Prop) (e : Emission β) : Prop where
  emitted : ∀ text, e = .emitted text → NeoRecomp.ExitsBy W text
  failed : ∀ text, e = .failed text → NeoRecomp.ExitsBy W text

instance emission_exitsBy_emitted (text : Gen β Unit) [h : ExitsBy W text] :
    (Emission.emitted text).ExitsBy W where
  emitted _ he := by cases he; exact h
  failed _ he := by cases he

instance emission_exitsBy_failed (text : Gen β Unit) [h : ExitsBy W text] :
    (Emission.failed text).ExitsBy W where
  emitted _ he := by cases he
  failed _ he := by cases he; exact h

instance emission_exitsBy_rejected : (Emission.rejected : Emission β).ExitsBy W :=
  emission_exitsBy_failed (pure ())

instance emission_exitsBy_ite (c : Prop) [Decidable c] (e e' : Emission β) [e.ExitsBy W]
    [e'.ExitsBy W] : (if c then e else e').ExitsBy W := by
  split_ifs <;> infer_instance

instance emission_exitsBy_orElse (e e' : Emission β) [h : e.ExitsBy W] [h' : e'.ExitsBy W] :
    (e.orElse e').ExitsBy W := by
  cases e with
  | emitted text => have := h.emitted text rfl; exact emission_exitsBy_emitted text
  | failed text =>
    have := h.failed text rfl
    cases e' with
    | emitted text' => have := h'.emitted text' rfl; exact emission_exitsBy_emitted _
    | failed text' => have := h'.failed text' rfl; exact emission_exitsBy_failed _

/-- What an emission without the unsupported fallback prints leaves only in the given way. -/
def InstrEmission.ExitsBy (W : Machine β → Machine β → Prop) (e : InstrEmission β) : Prop :=
  e.unsupported = false → NeoRecomp.ExitsBy W e.text

theorem fallsThrough_exitsBy (text : Gen β Unit) [h : ExitsBy W text] :
    (fallsThrough text).ExitsBy W :=
  fun _ => h

theorem unsupportedFallback_exitsBy (instr : NgM68kInstr) (text : Gen β Unit) :
    (unsupportedFallback instr text).ExitsBy W := by
  intro h
  cases h

theorem orUnsupported_exitsBy (instr : NgM68kInstr) (e : Emission β) [h : e.ExitsBy W] :
    (orUnsupported instr e).ExitsBy W := by
  cases e with
  | emitted text => exact fun _ => h.emitted text rfl
  | failed text => exact unsupportedFallback_exitsBy instr text

theorem emitLea_exitsBy (instr : NgM68kInstr) : (emitLea (β := β) instr).ExitsBy W := by
  unfold emitLea
  dsimp only
  split_ifs
  · split
    · exact fallsThrough_exitsBy _
    · exact unsupportedFallback_exitsBy _ _
  · exact fallsThrough_exitsBy _

theorem emitExt_exitsBy (instr : NgM68kInstr) : (emitExt (β := β) instr).ExitsBy W := by
  unfold emitExt
  dsimp only
  split_ifs
  · exact fallsThrough_exitsBy _
  · exact fallsThrough_exitsBy _
  · exact unsupportedFallback_exitsBy _ _

section Abi
variable [GeneratedAbi β]

/-! ## Arithmetic -/

section Store
variable (size : BitVec 8) (src dst value : BitVec (ngSizeBits size))
  (store : BitVec (ngSizeBits size) → Gen β Unit) [∀ r, ExitsBy W (store r)]

instance : ExitsBy W (addStatements size src dst store) := by unfold addStatements; infer_instance

instance : ExitsBy W (subStatements size src dst store) := by unfold subStatements; infer_instance

instance (isAdd : Bool) : ExitsBy W (addOrSubStatements isAdd size src dst store) := by
  unfold addOrSubStatements; infer_instance

instance : ExitsBy W (cmpStatements size src dst : Gen β Unit) := by
  unfold cmpStatements; infer_instance

instance : ExitsBy W (negStatements size value store) := by unfold negStatements; infer_instance

instance : ExitsBy W (negxStatements size value store) := by unfold negxStatements; infer_instance

instance : ExitsBy W (notStatements size value store) := by unfold notStatements; infer_instance

instance (x : BitVec 8) : ExitsBy W (addxStatements size src dst x store) := by
  unfold addxStatements; infer_instance

instance (x : BitVec 8) : ExitsBy W (subxStatements size src dst x store) := by
  unfold subxStatements; infer_instance

instance (mn : NgM68kMnemonic) : ExitsBy W (logicStatements mn size src dst store) := by
  unfold logicStatements; infer_instance

end Store

instance (reg size : BitVec 8) (v : BitVec (ngSizeBits size)) :
    ExitsBy W (storeDreg reg size v : Gen β Unit) := by
  unfold storeDreg; infer_instance

instance (reg size : BitVec 8) (v : BitVec (ngSizeBits size)) :
    ExitsBy W (storeDregMasked reg size v : Gen β Unit) := by
  unfold storeDregMasked; infer_instance

theorem emitRmw_exitsBy (ea : NgM68kEa) (size : BitVec 8)
    (body : BitVec (ngSizeBits size) → (BitVec (ngSizeBits size) → Gen β Unit) → Gen β Unit)
    (h : ∀ v store, (∀ r, ExitsBy W (store r)) → ExitsBy W (body v store)) :
    (emitRmw ea size body).ExitsBy W := by
  -- Both ways of storing the result are tame, so the body is.
  have hd : ∀ v, ExitsBy W (body v (storeDreg ea.reg size)) := fun v => h v _ inferInstance
  have ha : ∀ v (addr : CExpr),
      ExitsBy W (body v fun result => do writeSize size (addr (← getCpu)) result) :=
    fun v addr => h v _ inferInstance
  unfold emitRmw
  split_ifs
  · split
    · infer_instance
    · next h => have := emitEaRead_exitsBy (W := W) h; infer_instance
  · split
    · infer_instance
    · next h => have := emitEaAddress_exitsBy (W := W) h; infer_instance

variable (instr : NgM68kInstr)

instance : (emitQuickGeneric instr : Emission β).ExitsBy W := by
  unfold emitQuickGeneric
  dsimp only
  split_ifs
  · infer_instance
  · infer_instance
  · infer_instance
  · exact emitRmw_exitsBy _ _ _ fun _ _ _ => inferInstance

instance : (emitArithImmGeneric instr : Emission β).ExitsBy W := by
  unfold emitArithImmGeneric
  split_ifs
  · infer_instance
  · exact emitRmw_exitsBy _ _ _ fun _ _ _ => inferInstance

instance : (emitUnaryRmwGeneric instr : Emission β).ExitsBy W := by
  unfold emitUnaryRmwGeneric
  split_ifs
  · infer_instance
  all_goals exact emitRmw_exitsBy _ _ _ fun _ _ _ => inferInstance

instance : (emitLogicalImmGeneric instr : Emission β).ExitsBy W := by
  unfold emitLogicalImmGeneric
  split_ifs
  · infer_instance
  · exact emitRmw_exitsBy _ _ _ fun _ _ _ => inferInstance

instance : (emitCmpm instr : Emission β).ExitsBy W := by
  unfold emitCmpm; infer_instance

instance : (emitAddsubx instr : Emission β).ExitsBy W := by
  unfold emitAddsubx
  dsimp only
  split_ifs <;> infer_instance

instance : (emitCmpiGeneric instr : Emission β).ExitsBy W := by
  unfold emitCmpiGeneric
  split_ifs
  · infer_instance
  · split
    · infer_instance
    · next h => have := emitEaRead_exitsBy (W := W) h; infer_instance

instance : (emitAluAddressReg instr : Emission β).ExitsBy W := by
  unfold emitAluAddressReg
  dsimp only
  split_ifs
  · infer_instance
  all_goals
    split
    · infer_instance
    · next h => have := emitEaRead_exitsBy (W := W) h; infer_instance

instance : (emitAluDregToEa instr : Emission β).ExitsBy W := by
  unfold emitAluDregToEa
  split_ifs
  · infer_instance
  · split
    · next h h' =>
      have := emitEaRead_exitsBy (W := W) h
      have := emitEaAddress_exitsBy (W := W) h'
      infer_instance
    · infer_instance

instance : (emitAluEaToDreg instr : Emission β).ExitsBy W := by
  unfold emitAluEaToDreg
  split_ifs
  · infer_instance
  all_goals
    split
    · infer_instance
    · next h => have := emitEaRead_exitsBy (W := W) h; dsimp only; infer_instance

instance : (aluWordShortcut instr : Emission β).ExitsBy W := by
  unfold aluWordShortcut; dsimp only; infer_instance

/-! ## Moves -/

instance : (emitMoveGeneric instr : Emission β).ExitsBy W := by
  unfold emitMoveGeneric
  split_ifs
  · infer_instance
  · split
    · infer_instance
    · next h _ => have := emitEaRead_exitsBy (W := W) h; infer_instance
    · next h h' =>
      have := emitEaRead_exitsBy (W := W) h
      have := emitEaWrite_exitsBy (W := W) h'
      infer_instance

instance : (emitMoveaGeneric instr : Emission β).ExitsBy W := by
  unfold emitMoveaGeneric
  split_ifs
  · infer_instance
  · split
    · infer_instance
    · next h => have := emitEaRead_exitsBy (W := W) h; infer_instance

instance (size : BitVec 8) (addr : BitVec 32) (i : Nat) :
    ExitsBy W (movemStoreDown size addr i : Gen β _) := by
  unfold movemStoreDown; dsimp only; infer_instance

instance (size : BitVec 8) (addr : BitVec 32) (i : Nat) :
    ExitsBy W (movemStoreUp size addr i : Gen β _) := by
  unfold movemStoreUp; infer_instance

instance (size : BitVec 8) (addr : BitVec 32) (i : Nat) :
    ExitsBy W (movemLoad size addr i : Gen β _) := by
  unfold movemLoad; dsimp only; infer_instance

instance : (emitMovem instr : Emission β).ExitsBy W := by
  unfold emitMovem
  dsimp only
  split_ifs
  · infer_instance
  · split <;> infer_instance
  · infer_instance
  · split <;> infer_instance
  · infer_instance

instance : (emitMovep instr : Emission β).ExitsBy W := by
  unfold emitMovep
  dsimp only
  split_ifs <;> infer_instance

/-- MOVE from SR and the moves from and to CCR are not privileged. -/
theorem emitMoveSrCcr_exitsBy (h : instr.mnemonic = .moveCcr ∨ instr.dst.mode ≠ .none) :
    (emitMoveSrCcr instr : Emission β).ExitsBy W := by
  unfold emitMoveSrCcr
  dsimp only
  by_cases hdst : instr.dst.mode ≠ .none
  · rw [if_pos hdst]
    split_ifs
    · infer_instance
    all_goals
      split
      · infer_instance
      · next h => have := emitEaWrite_exitsBy (W := W) h; infer_instance
  · have hccr := h.resolve_right hdst
    rw [if_neg hdst, hccr]
    simp only [reduceCtorEq, if_false]
    split_ifs
    · infer_instance
    · split
      · infer_instance
      · next h => have := emitEaRead_exitsBy (W := W) h; infer_instance
    · infer_instance

instance : (emitMoveSrCcr instr : Emission β).Tame := by
  unfold emitMoveSrCcr
  dsimp only
  split_ifs
  · infer_instance
  all_goals try infer_instance
  all_goals
    split
    · infer_instance
    · next h =>
      first
        | have := emitEaRead_exitsBy (W := OneDispatch) h; infer_instance
        | have := emitEaWrite_exitsBy (W := OneDispatch) h; infer_instance

instance : (emitImmediateToSrCcr instr : Emission β).Tame := by
  unfold emitImmediateToSrCcr
  dsimp only
  split <;> infer_instance

instance : (emitExchange instr : Emission β).ExitsBy W := by
  unfold emitExchange; dsimp only; infer_instance

/-! ## Logic, bits, decimals and divisions -/

instance : (emitLogicBinaryGeneric instr : Emission β).ExitsBy W := by
  unfold emitLogicBinaryGeneric
  split_ifs
  · infer_instance
  all_goals
    split
    · infer_instance
    · next h =>
      have := emitEaRead_exitsBy (W := W) h
      split
      · infer_instance
      · first
          | infer_instance
          | cases h' : emitEaAddress (β := β) instr.dst instr.size with
            | none => dsimp only; infer_instance
            | some ad => have := emitEaAddress_exitsBy (W := W) h'; dsimp only; infer_instance

instance : (emitTstGeneric instr : Emission β).ExitsBy W := by
  unfold emitTstGeneric
  split_ifs
  · infer_instance
  · split
    · infer_instance
    · next h => have := emitEaRead_exitsBy (W := W) h; infer_instance

instance : (emitTasGeneric instr : Emission β).ExitsBy W := by
  unfold emitTasGeneric
  dsimp only
  split_ifs
  · infer_instance
  · infer_instance
  · split
    · infer_instance
    · next h => have := emitEaAddress_exitsBy (W := W) h; infer_instance

instance : (emitBitImmGeneric instr : Emission β).ExitsBy W := by
  unfold emitBitImmGeneric
  dsimp only
  split_ifs
  · infer_instance
  · refine @emission_exitsBy_emitted _ _ _ ?_
    refine @exitsBy_bind _ _ _ _ _ _ inferInstance fun g => ?_
    refine @exitsBy_bind _ _ _ _ _ _ inferInstance fun _ => ?_
    split <;> infer_instance
  · split
    · infer_instance
    · next h => have := emitEaRead_exitsBy (W := W) h; infer_instance
  · split
    · infer_instance
    · next h =>
      have := emitEaAddress_exitsBy (W := W) h
      refine @emission_exitsBy_emitted _ _ _ ?_
      refine @exitsBy_bind _ _ _ _ _ _ inferInstance fun addr => ?_
      refine @exitsBy_bind _ _ _ _ _ _ inferInstance fun g => ?_
      refine @exitsBy_bind _ _ _ _ _ _ inferInstance fun value => ?_
      refine @exitsBy_bind _ _ _ _ _ _ inferInstance fun _ => ?_
      split <;> infer_instance

instance (reg v : BitVec 8) : ExitsBy W (storeByteDreg reg v : Gen β Unit) := by
  unfold storeByteDreg; infer_instance

instance (v x : BitVec 8) (store : BitVec 8 → Gen β Unit) [∀ r, ExitsBy W (store r)] :
    ExitsBy W (emitNbcdCore v x store) := by
  unfold emitNbcdCore; dsimp only; infer_instance

instance : (emitNbcdGeneric instr : Emission β).ExitsBy W := by
  unfold emitNbcdGeneric
  split_ifs
  · infer_instance
  · infer_instance
  · split
    · infer_instance
    · next h => have := emitEaAddress_exitsBy (W := W) h; infer_instance

instance : (emitAbcdSbcd instr : Emission β).ExitsBy W := by
  unfold emitAbcdSbcd
  dsimp only
  split_ifs <;> infer_instance

instance : (emitChk instr : Emission β).Tame := by
  unfold emitChk
  split_ifs
  · infer_instance
  · split
    · infer_instance
    · next h => have := emitEaRead_exitsBy (W := OneDispatch) h; infer_instance

instance : (emitMultiply instr : Emission β).ExitsBy W := by
  unfold emitMultiply
  dsimp only
  split_ifs
  · infer_instance
  all_goals
    split
    · infer_instance
    · next h => have := emitEaRead_exitsBy (W := W) h; infer_instance

instance (r : Fin 8) (v : BitVec 16) : ExitsBy W (divuStatements r v : Gen β Unit) := by
  unfold divuStatements; dsimp only; infer_instance

instance (r : Fin 8) (v : BitVec 16) : ExitsBy W (divsStatements r v : Gen β Unit) := by
  unfold divsStatements; dsimp only; infer_instance

instance : (emitDivide instr : Emission β).Tame := by
  unfold emitDivide
  dsimp only
  split_ifs
  · infer_instance
  all_goals
    split
    · infer_instance
    · next h => have := emitEaRead_exitsBy (W := OneDispatch) h; infer_instance

instance : (emitShiftRotateDreg instr : Emission β).ExitsBy W := by
  unfold emitShiftRotateDreg
  dsimp only
  split_ifs <;> infer_instance

instance : (emitShiftRotateMemory instr : Emission β).ExitsBy W := by
  unfold emitShiftRotateMemory
  dsimp only
  split_ifs
  · infer_instance
  · infer_instance
  · split
    · infer_instance
    · next h => have := emitEaAddress_exitsBy (W := W) h; infer_instance

/-! ## Instructions -/

instance (reg size : BitVec 8) (v : BitVec (ngSizeBits size)) :
    ExitsBy W (loadDreg reg size v : Gen β Unit) := by
  unfold loadDreg; dsimp only; infer_instance

instance (size : BitVec 8) (addr : BitVec 32) (e : CExpr) :
    ExitsBy W (storeAbs size addr e : Gen β Unit) := by
  unfold storeAbs; infer_instance

theorem moveShortcut_exitsBy {text : Gen β Unit} (h : moveShortcut instr = some text) :
    ExitsBy W text := by
  unfold moveShortcut at h
  split_ifs at h <;> cases h <;> infer_instance

theorem clrShortcut_exitsBy {text : Gen β Unit} (h : clrShortcut instr = some text) :
    ExitsBy W text := by
  unfold clrShortcut at h
  dsimp only at h
  split_ifs at h <;> cases h <;> infer_instance

theorem tstShortcut_exitsBy {text : Gen β Unit} (h : tstShortcut instr = some text) :
    ExitsBy W text := by
  unfold tstShortcut at h
  split_ifs at h <;> cases h <;> infer_instance

theorem andiShortcut_exitsBy {text : Gen β Unit} (h : andiShortcut instr = some text) :
    ExitsBy W text := by
  unfold andiShortcut at h
  dsimp only at h
  split_ifs at h
  cases h
  infer_instance

instance : (emitClrGeneric instr : Emission β).ExitsBy W := by
  unfold emitClrGeneric
  split_ifs
  · infer_instance
  · split
    · infer_instance
    · next h => have := emitEaWrite_exitsBy (W := W) h; infer_instance

instance : ExitsBy W (linkText instr : Gen β Unit) := by
  unfold linkText; dsimp only; infer_instance

instance : ExitsBy W (unlkText instr : Gen β Unit) := by
  unfold unlkText; dsimp only; infer_instance

instance : ExitsBy W (moveqText instr : Gen β Unit) := by unfold moveqText; infer_instance

instance : ExitsBy W (swapText instr : Gen β Unit) := by
  unfold swapText; dsimp only; infer_instance

instance (pc : BitVec 32) : Tame (emitPushReturnAddress pc : Gen β Unit) := by
  unfold emitPushReturnAddress; infer_instance

instance : Tame (trapvText instr : Gen β Unit) := by unfold trapvText; infer_instance

-- The two long frame pops are split once, for the instance search.
instance : Tame (rteText instr : Gen β Unit) := by
  unfold rteText
  refine @tame_bind _ _ _ _ _ inferInstance fun _ => ?_
  refine @tame_bind _ _ _ _ _ inferInstance fun _ => ?_
  infer_instance

instance : Tame (rtrText : Gen β Unit) := by
  unfold rtrText
  refine @tame_bind _ _ _ _ _ inferInstance fun _ => ?_
  infer_instance

instance : Tame (rtsText : Gen β Unit) := by unfold rtsText; infer_instance

instance : Tame (callText instr : Gen β Unit) := by unfold callText; infer_instance

theorem emitPea_exitsBy : (emitPea (β := β) instr).ExitsBy W := by
  unfold emitPea
  split
  · exact fallsThrough_exitsBy _
  · exact unsupportedFallback_exitsBy _ _

theorem emitMoveUsp_tame : (emitMoveUsp (β := β) instr).Tame := by
  unfold emitMoveUsp
  split_ifs
  · exact fallsThrough_tame _
  · exact fallsThrough_tame _
  · exact unsupportedFallback_tame _ _

theorem emitScc_exitsBy : (emitScc (β := β) instr).ExitsBy W := by
  unfold emitScc
  dsimp only
  cases hw : emitEaWrite (β := β) instr.dst 1 with
  | none =>
    split_ifs
    · exact unsupportedFallback_exitsBy _ _
    · exact unsupportedFallback_exitsBy _ _
    · split <;> exact unsupportedFallback_exitsBy _ _
  | some wr =>
    have write : ∀ value, (fallsThrough (wr value)).ExitsBy W := fun value =>
      @fallsThrough_exitsBy _ _ _ (emitEaWrite_exitsBy hw value)
    split_ifs
    · exact write _
    · exact write _
    · split
      · exact write _
      · exact unsupportedFallback_exitsBy _ _

theorem emitMove_exitsBy : (emitMove (β := β) instr).ExitsBy W := by
  unfold emitMove
  split
  · next h => exact @fallsThrough_exitsBy _ _ _ (moveShortcut_exitsBy instr h)
  · exact orUnsupported_exitsBy _ _

theorem emitClr_exitsBy : (emitClr (β := β) instr).ExitsBy W := by
  unfold emitClr
  split
  · next h => exact @fallsThrough_exitsBy _ _ _ (clrShortcut_exitsBy instr h)
  · exact orUnsupported_exitsBy _ _

theorem emitTst_exitsBy : (emitTst (β := β) instr).ExitsBy W := by
  unfold emitTst
  split
  · next h => exact @fallsThrough_exitsBy _ _ _ (tstShortcut_exitsBy instr h)
  · exact orUnsupported_exitsBy _ _

theorem emitLogicalImm_exitsBy : (emitLogicalImm (β := β) instr).ExitsBy W := by
  unfold emitLogicalImm
  split
  · next h => exact @fallsThrough_exitsBy _ _ _ (andiShortcut_exitsBy instr h)
  · exact orUnsupported_exitsBy _ _

theorem emitJsr_tame : (emitJsr (β := β) instr).Tame := by
  unfold emitJsr
  split
  · exact leaves_tame _
  · exact leaves_tame _

theorem emitJmp_tame : (emitJmp (β := β) instr).Tame := by
  unfold emitJmp
  split
  · exact leaves_tame _
  · exact leaves_tame _

/-- Mnemonics whose code branches inside the body or waits. -/
def branchesOrWaits : NgM68kMnemonic → Bool
  | .bra | .bcc | .dbcc | .stop => true
  | _ => false

/-- Mnemonics whose code may take an exception and falls through otherwise; MOVE from and to SR
share one of them. -/
def mayTrap : NgM68kMnemonic → Bool
  | .reset | .trapv | .moveSr | .moveUsp | .oriToSr | .andiToSr | .eoriToSr | .chk | .divu | .divs =>
      true
  | _ => false

/-- Without branches, calls, returns and exceptions there is no way out. -/
theorem emitInstr_exitsBy (hb : branchesOrWaits instr.mnemonic = false)
    (he : endsBody instr.mnemonic = false) (ht : mayTrap instr.mnemonic = false) :
    (emitInstr (β := β) instr).ExitsBy W := by
  unfold emitInstr
  cases hm : instr.mnemonic
  case bra | bcc | dbcc => rw [hm] at hb; cases hb
  case bsr | jmp | jsr | rts | stop | illegal | trap | rte | rtr | unknown | invalid =>
    rw [hm] at he
    cases he
  case reset | trapv | moveSr | moveUsp | oriToSr | andiToSr | eoriToSr | chk | divu | divs =>
    rw [hm] at ht
    cases ht
  case lea => exact emitLea_exitsBy instr
  case pea => exact emitPea_exitsBy instr
  case scc => exact emitScc_exitsBy instr
  case ext => exact emitExt_exitsBy instr
  case move => exact emitMove_exitsBy instr
  case clr => exact emitClr_exitsBy instr
  case tst => exact emitTst_exitsBy instr
  case add | sub | cmp => exact orUnsupported_exitsBy _ _
  case ori | andi | eori => exact emitLogicalImm_exitsBy instr
  case moveCcr => exact @orUnsupported_exitsBy _ _ _ _ (emitMoveSrCcr_exitsBy instr (.inl hm))
  case oriToCcr | andiToCcr | eoriToCcr =>
    dsimp only [emitImmediateToSrCcr]
    rw [hm]
    exact orUnsupported_exitsBy _ _
  all_goals first
    | exact orUnsupported_exitsBy _ _
    | exact fallsThrough_exitsBy _

theorem emitInstr_tame (h : branchesOrWaits instr.mnemonic = false) :
    (emitInstr (β := β) instr).Tame := by
  by_cases hplain : endsBody instr.mnemonic = false ∧ mayTrap instr.mnemonic = false
  · intro hsup
    have := emitInstr_exitsBy (W := OneDispatch) instr h hplain.1 hplain.2 hsup
    infer_instance
  unfold emitInstr
  cases hm : instr.mnemonic <;> rw [hm] at h hplain
  case moveUsp => exact emitMoveUsp_tame instr
  case jsr => exact emitJsr_tame instr
  case jmp => exact emitJmp_tame instr
  case moveSr | oriToSr | andiToSr | eoriToSr | chk | divu | divs => exact orUnsupported_tame _ _
  case reset | trapv => exact fallsThrough_tame _
  case bsr | rts | illegal | trap | rte | rtr => exact leaves_tame _
  case unknown | invalid => exact unsupportedFallback_tame _ _
  all_goals first
    | exact absurd ⟨rfl, rfl⟩ hplain
    | cases h

end Abi

end Ways

end NeoRecomp
