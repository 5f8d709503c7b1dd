import NeoRecomp.Correct.Bodies
import NeoRecomp.Emit.Program
import NeoRecomp.Emit.Tame

/-!
# The dispatch loop

Emitted functions do not call each other: they leave an address in a single slot and return, and
the outermost `NG_GENERATED_CALL` runs the next function.  The slot holds one address, so this is
only faithful because no body dispatches twice.
-/

namespace NeoRecomp

open Gen

variable {β α γ : Type}

/-- From `m` to `m'` exactly the addresses `ds` were dispatched, in this order. -/
def Dispatched (m m' : Machine β) (ds : List (BitVec 32)) : Prop :=
  ∃ es, m'.log = m.log ++ es ∧ dispatches es = ds

theorem Dispatched.refl (m : Machine β) : Dispatched m m [] := ⟨[], by simp, rfl⟩

theorem Dispatched.trans {m₁ m₂ m₃ : Machine β} {ds ds' : List (BitVec 32)}
    (h : Dispatched m₁ m₂ ds) (h' : Dispatched m₂ m₃ ds') : Dispatched m₁ m₃ (ds ++ ds') := by
  obtain ⟨es, he, rfl⟩ := h
  obtain ⟨es', he', rfl⟩ := h'
  exact ⟨es ++ es', by rw [he', he, List.append_assoc], by simp [dispatches]⟩

theorem dispatches_eq_nil {es : List Event} (h : ∀ e ∈ es, e.isTransfer = false) :
    dispatches es = [] := by
  unfold dispatches
  rw [List.filterMap_eq_nil_iff]
  intro e he
  have := h e he
  cases e <;> simp_all [Event.isTransfer]

theorem NoTransfer.dispatched {m m' : Machine β} (h : NoTransfer m m') : Dispatched m m' [] := by
  obtain ⟨es, he, hes⟩ := h
  exact ⟨es, he, dispatches_eq_nil hes⟩

theorem OneDispatch.dispatched {m m' : Machine β} (h : OneDispatch m m') :
    ∃ a, Dispatched m m' [a] := by
  obtain ⟨es, a, he, hes⟩ := h
  refine ⟨a, es ++ [.dispatch a], he, ?_⟩
  have : dispatches (es ++ [.dispatch a]) = dispatches es ++ [a] := by simp [dispatches]
  rw [this, dispatches_eq_nil hes, List.nil_append]

/-! ## One dispatch, then the way out -/

/-- Code that dispatches nothing while control stays in the body and at most once before it
returns. -/
class DispatchesOnce (x : Gen β α) : Prop where
  next : ∀ m a m', x m = .next a m' → Dispatched m m' []
  goto : ∀ m l m', x m = .exit (.goto l) m' → Dispatched m m' []
  ret : ∀ m m', x m = .exit .ret m' → ∃ ds, Dispatched m m' ds ∧ ds.length ≤ 1

instance Tame.dispatchesOnce (x : Gen β α) [h : Tame x] : DispatchesOnce x where
  next m a m' hx := (h.next m a m' hx).2.dispatched
  goto m l m' hx := by cases (h.exit m _ m' hx).1
  ret m m' hx := by
    obtain ⟨a, ha⟩ := (h.exit m _ m' hx).2.dispatched
    exact ⟨[a], ha, le_refl _⟩

instance ret_dispatchesOnce : DispatchesOnce (Gen.ret : Gen β α) where
  next m a m' h := by cases h
  goto m l m' h := by cases h
  ret m m' h := by cases h; exact ⟨[], .refl m, Nat.zero_le _⟩

instance goto_dispatchesOnce (target : BitVec 32) : DispatchesOnce (Gen.goto target : Gen β α) where
  next m a m' h := by cases h
  goto m l m' h := by cases h; exact .refl m
  ret m m' h := by cases h

instance sampleTraceSr_dispatchesOnce : DispatchesOnce (sampleTraceSr : Gen β Unit) where
  next m a m' h := by cases h; exact ⟨[], by simp, rfl⟩
  goto m l m' h := by cases h
  ret m m' h := by cases h

instance logDispatchMiss_dispatchesOnce (addr : BitVec 32) :
    DispatchesOnce (logDispatchMiss addr : Gen β Unit) where
  next m a m' h := by cases h; exact ⟨[.miss addr], rfl, rfl⟩
  goto m l m' h := by cases h
  ret m m' h := by cases h

instance bind_dispatchesOnce (x : Gen β α) (f : α → Gen β γ) [hx : DispatchesOnce x]
    [hf : ∀ a, DispatchesOnce (f a)] : DispatchesOnce (x >>= f) where
  next m c m' h := by
    rw [bind_apply] at h
    cases hm : x m with
    | exit e m₁ => rw [hm] at h; cases h
    | next a m₁ =>
      rw [hm] at h
      exact (hx.next m a m₁ hm).trans ((hf a).next m₁ c m' h)
  goto m l m' h := by
    rw [bind_apply] at h
    cases hm : x m with
    | exit e m₁ => rw [hm] at h; cases h; exact hx.goto m l m' hm
    | next a m₁ =>
      rw [hm] at h
      exact (hx.next m a m₁ hm).trans ((hf a).goto m₁ l m' h)
  ret m m' h := by
    rw [bind_apply] at h
    cases hm : x m with
    | exit e m₁ => rw [hm] at h; cases h; exact hx.ret m m' hm
    | next a m₁ =>
      rw [hm] at h
      obtain ⟨ds, hd, hl⟩ := (hf a).ret m₁ m' h
      exact ⟨[] ++ ds, (hx.next m a m₁ hm).trans hd, hl⟩

instance ite_dispatchesOnce (c : Prop) [Decidable c] (x y : Gen β α) [DispatchesOnce x]
    [DispatchesOnce y] : DispatchesOnce (if c then x else y) := by
  split_ifs <;> infer_instance

/-- After a test that has dispatched the code must return. -/
theorem dispatchesOnce_of_test {x : Gen β Bool} [hx : DispatchTest x true] (f : Bool → Gen β α)
    (hs : f true = Gen.ret) [hf : DispatchesOnce (f false)] : DispatchesOnce (x >>= f) where
  next m c m' h := by
    rw [bind_apply] at h
    cases hm : x m with
    | exit e m₁ => rw [hm] at h; cases h
    | next b m₁ =>
      rw [hm] at h
      cases b with
      | true => simp only [hs] at h; cases h
      | false => exact (hx.goes m m₁ hm).2.dispatched.trans (hf.next m₁ c m' h)
  goto m l m' h := by
    rw [bind_apply] at h
    cases hm : x m with
    | exit e m₁ => rw [hm] at h; cases h; cases (hx.exit m _ m' hm).1
    | next b m₁ =>
      rw [hm] at h
      cases b with
      | true => simp only [hs] at h; cases h
      | false => exact (hx.goes m m₁ hm).2.dispatched.trans (hf.goto m₁ l m' h)
  ret m m' h := by
    rw [bind_apply] at h
    cases hm : x m with
    | exit e m₁ =>
      rw [hm] at h
      cases h
      obtain ⟨a, ha⟩ := (hx.exit m _ m' hm).2.dispatched
      exact ⟨[a], ha, le_refl _⟩
    | next b m₁ =>
      rw [hm] at h
      cases b with
      | true =>
        simp only [hs] at h
        cases h
        obtain ⟨a, ha⟩ := (hx.stops m m' hm).dispatched
        exact ⟨[a], ha, le_refl _⟩
      | false =>
        obtain ⟨ds, hd, hl⟩ := hf.ret m₁ m' h
        exact ⟨[] ++ ds, (hx.goes m m₁ hm).2.dispatched.trans hd, hl⟩

section Abi
variable [GeneratedAbi β] (instr : NgM68kInstr)

instance : DispatchesOnce (missReturn instr.addr : Gen β Unit) := by
  unfold missReturn; infer_instance

instance : DispatchesOnce (stopText instr : Gen β Unit) := by
  unfold stopText
  refine @bind_dispatchesOnce _ _ _ _ _ inferInstance fun _ => ?_
  refine @bind_dispatchesOnce _ _ _ _ _ inferInstance fun _ => ?_
  refine @bind_dispatchesOnce _ _ _ _ _ inferInstance fun _ => ?_
  refine @bind_dispatchesOnce _ _ _ _ _ inferInstance fun _ => ?_
  refine @bind_dispatchesOnce _ _ _ _ _ inferInstance fun _ => ?_
  exact @dispatchesOnce_of_test _ _ _ inferInstance _ rfl ret_dispatchesOnce

instance : DispatchesOnce (dbccStatements instr : Gen β Unit) := by
  unfold dbccStatements; dsimp only; infer_instance

theorem emitBranchCondition_dispatchesOnce :
    DispatchesOnce (emitBranchCondition instr : Gen β Unit × Bool).1 := by
  unfold emitBranchCondition
  dsimp only
  split_ifs
  · dsimp only; infer_instance
  · dsimp only; infer_instance
  · split <;> dsimp only <;> infer_instance

/-- The code of every instruction, the unsupported fallback included. -/
theorem emitInstr_dispatchesOnce (hv : ngM68kValidate instr = true) :
    DispatchesOnce (emitInstr (β := β) instr).text := by
  have hsup := (emitInstr_supported (β := β) hv).1
  cases hb : branchesOrWaits instr.mnemonic with
  | false =>
    have := emitInstr_tame (β := β) instr hb hsup
    infer_instance
  | true =>
    unfold emitInstr
    cases hm : instr.mnemonic <;> rw [hm] at hb <;> cases hb
    · exact inferInstanceAs (DispatchesOnce (stopText instr))
    · have := emitBranchCondition_dispatchesOnce (β := β) instr
      dsimp only
      unfold emitBra
      split
      · next h => rw [h] at this; exact this
      · next h =>
        rw [h] at this
        unfold unsupportedFallback
        dsimp only at this ⊢
        infer_instance
    · exact emitBranchCondition_dispatchesOnce instr
    · dsimp only
      unfold emitDbcc unsupportedFallback fallsThrough
      split_ifs
      · dsimp only; infer_instance
      · dsimp only; infer_instance
      · split <;> dsimp only <;> infer_instance

instance (cycles : NgM68kInstr → BitVec 8) :
    DispatchesOnce (instrPrologue cycles instr : Gen β Unit) := by
  -- From the interrupt test on; a yield before it returns without a dispatch.
  have hserve : DispatchesOnce (do
      if ← ngServiceInterrupt (addr24 instr.addr) then Gen.ret
      call fun b => ((), GeneratedAbi.cycleHook (addr24 instr.addr) ((cycles instr).setWidth 32) b)
      sampleTraceSr : Gen β Unit) :=
    @dispatchesOnce_of_test _ _ _ inferInstance _ rfl
      (inferInstanceAs (DispatchesOnce (do
        call fun b =>
          ((), GeneratedAbi.cycleHook (addr24 instr.addr) ((cycles instr).setWidth 32) b)
        sampleTraceSr : Gen β Unit)))
  unfold instrPrologue
  dsimp only
  infer_instance

theorem instrText_dispatchesOnce : DispatchesOnce (instrText instr : Gen β Unit) := by
  unfold instrText
  split_ifs with hv
  · infer_instance
  · have := emitInstr_dispatchesOnce (β := β) instr (by simpa using hv)
    unfold instrEpilogue
    infer_instance
  · have := emitInstr_dispatchesOnce (β := β) instr (by simpa using hv)
    infer_instance

theorem code_dispatchesOnce (cycles : NgM68kInstr → BitVec 8) (item : BodyItem) :
    DispatchesOnce (item.code cycles : Gen β Unit) := by
  cases item with
  | decoded labelled instr =>
    have := instrText_dispatchesOnce (β := β) instr
    unfold BodyItem.code
    infer_instance
  | dispatchLabel target => unfold BodyItem.code; infer_instance
  | miss addr returns => unfold BodyItem.code; infer_instance

/-! ## Whole bodies -/

/-- A run of a body has dispatched nothing while it stands at an item, and at most once when it
returns. -/
theorem BodyRun.dispatched {cycles : NgM68kInstr → BitVec 8} {body : List BodyItem}
    {m m' : Machine β} {c : Control} (h : BodyRun cycles body m c m') :
    ∃ ds, Dispatched m m' ds ∧ ds.length ≤ 1 ∧ (c ≠ .returned → ds = []) := by
  induction h with
  | start => exact ⟨[], ⟨[], by simp, rfl⟩, Nat.zero_le _, fun _ => rfl⟩
  | @step i m₁ c m₂ hrun hs ih =>
    obtain ⟨ds, hd, -, hnil⟩ := ih
    obtain rfl := hnil (by simp)
    have hcode := fun item => code_dispatchesOnce (β := β) cycles item
    unfold bodyStep at hs
    -- Past the last item, or one case for each way an item can end.
    cases hi : body[i]? with
    | none =>
      rw [hi] at hs
      cases hs
      exact ⟨[], hd, Nat.zero_le _, fun h => (h rfl).elim⟩
    | some item =>
      rw [hi] at hs
      dsimp only at hs
      cases hx : item.code cycles m₁ with
      | next a m' =>
        rw [hx] at hs
        cases hs
        exact ⟨[], hd.trans ((hcode item).next m₁ a m₂ hx), Nat.zero_le _, fun _ => rfl⟩
      | exit e m' =>
        rw [hx] at hs
        cases e with
        | ret =>
          cases hs
          obtain ⟨ds, hd', hl⟩ := (hcode item).ret m₁ m₂ hx
          exact ⟨[] ++ ds, hd.trans hd', hl, fun h => (h rfl).elim⟩
        | goto label =>
          simp only [Option.map_eq_some_iff, Prod.mk.injEq] at hs
          obtain ⟨j, -, -, rfl⟩ := hs
          exact ⟨[], hd.trans ((hcode item).goto m₁ label m' hx), Nat.zero_le _, fun _ => rfl⟩

theorem StepRun.dispatched {p : EmittedProgram β} {addr : BitVec 32} {m m' : Machine β}
    (h : StepRun p addr m m') : ∃ ds, Dispatched m m' ds ∧ ds.length ≤ 1 := by
  cases h with
  | function hs hr =>
    obtain ⟨ds, hd, hl, -⟩ := hr.dispatched
    exact ⟨ds, hd, hl⟩
  | byAddress hs =>
    refine ⟨[], ?_, Nat.zero_le _⟩
    unfold ngCallByAddress
    split
    · exact ⟨[.miss _], rfl, rfl⟩
    · dsimp only
      split_ifs
      · exact ⟨[], by simp, rfl⟩
      · exact ⟨[.miss _], rfl, rfl⟩
  | nothing hs => exact ⟨[], ⟨[], by simp, rfl⟩, Nat.zero_le _⟩

/-! ## The loop -/

/-- What holds whenever the loop condition is tested: the addresses stepped so far, followed by the
pending one, are the entry address and every dispatch made since. -/
theorem CallLoop.chain {p : EmittedProgram β} {addr : BitVec 32} {m m' : Machine β}
    {steps : List (BitVec 32)} {s : DispatchSlot} (h : CallLoop p addr m steps s m') :
    s.active = true ∧ ∃ ds, Dispatched m m' ds ∧
      steps ++ (if s.pending then [s.addr] else []) = (addr :: ds).map addr24 := by
  induction h with
  | enter => exact ⟨rfl, [], .refl m, rfl⟩
  | @turn steps s m₁ m₂ hloop hp hr es hes ih =>
    obtain ⟨hactive, ds, hd, hsteps⟩ := ih
    rw [if_pos hp] at hsteps
    obtain ⟨ds', ⟨es', hes', hds'⟩, hl⟩ := hr.dispatched
    obtain rfl : es' = es := List.append_cancel_left (hes'.symm.trans hes)
    subst hds'
    have hall : Dispatched m m₂ (ds ++ dispatches es') := hd.trans ⟨es', hes, rfl⟩
    -- At most one dispatch was made, so the slot holds all of them.
    match hdisp : dispatches es', hl with
    | [], _ =>
      rw [hdisp, List.append_nil] at hall
      refine ⟨hactive, ds, hall, ?_⟩
      simpa using hsteps
    | [a], _ =>
      rw [hdisp] at hall
      refine ⟨rfl, ds ++ [a], hall, ?_⟩
      show (steps ++ [s.addr]) ++ [addr24 a] = (addr :: (ds ++ [a])).map addr24
      rw [hsteps]
      simp

/-- A body performs at most one dispatch, and none before it is about to return.  So whenever
`NG_GENERATED_CALL` tests its loop condition, the addresses stepped so far followed by the pending
one are the entry address and all dispatches made since, masked and in order; and every call made
from inside a step finds the loop active. -/
theorem trampoline_faithful (p : EmittedProgram β) :
    (∀ (i : Nat) (m : Machine β) (c : Control) (m' : Machine β),
      BodyRun p.cycles (candidateBody β p.rom p.discovery i) m c m' →
        ∃ ds, Dispatched m m' ds ∧ ds.length ≤ 1 ∧ (c ≠ .returned → ds = [])) ∧
    ∀ (addr : BitVec 32) (m : Machine β) (steps : List (BitVec 32)) (s : DispatchSlot)
      (m' : Machine β), CallLoop p addr m steps s m' →
        (∀ a, (s.call a).2 = false) ∧ ∃ ds, Dispatched m m' ds ∧
          steps ++ (if s.pending then [s.addr] else []) = (addr :: ds).map addr24 := by
  constructor
  · intro i m c m' h
    exact h.dispatched
  · intro addr m steps s m' h
    obtain ⟨hactive, hchain⟩ := h.chain
    exact ⟨fun a => by simp [DispatchSlot.call, hactive], hchain⟩

end Abi

theorem rtsImage_size : (#[0x4E, 0x75] : Array (BitVec 8)).size = (2 : BitVec 32).toNat := rfl

theorem rtsCandidates_le :
    [({ addr := 0, isEntry := true, isScanRoot := true } : Candidate)].length ≤
      ngFunctionDiscoveryMaxCandidates := by
  decide

/-- A single RTS, discovered at its address. -/
def rtsProgram : EmittedProgram Ram where
  rom := { data := #[0x4E, 0x75], size := 2, size_eq := rtsImage_size }
  discovery :=
    { candidates := [{ addr := 0, isEntry := true, isScanRoot := true }]
      count_le := rtsCandidates_le }
  step :=
    generatedStep
      { candidates := [{ addr := 0, isEntry := true, isScanRoot := true }]
        count_le := rtsCandidates_le }
  cycles _ := 16

def rtsAtZero : NgM68kInstr := { addr := 0, opcode := 0x4E75, mnemonic := .rts, byteLength := 2 }

def zeroedMachine : Machine Ram where
  cpu := { d := fun _ => 0, a := fun _ => 0, pc := 0, sr := 0, usp := 0, ssp := 0 }
  bus := { bytes := fun _ => 0 }
  traceSr := 0
  log := []

theorem rtsProgram_body : candidateBody Ram rtsProgram.rom rtsProgram.discovery 0 =
    [.decoded false rtsAtZero] := by
  decide +kernel

/-- RTS on a cleared stack dispatches address 0, which is stepped again. -/
theorem trampoline_rts :
    ∃ s m', CallLoop rtsProgram 0 zeroedMachine [0] s m' ∧ (∀ a, (s.call a).2 = false) ∧
      ∃ ds, Dispatched zeroedMachine m' ds ∧
        [0] ++ (if s.pending then [s.addr] else []) = ((0 : BitVec 32) :: ds).map addr24 := by
  have hstep : rtsProgram.step 0 = .function 0 := by decide +kernel
  have hret : ∃ m', bodyStep rtsProgram.cycles [.decoded false rtsAtZero] 0 zeroedMachine =
      some (.returned, m') ∧ ∃ es, m'.log = zeroedMachine.log ++ es := ⟨_, rfl, _, rfl⟩
  obtain ⟨m', hbody, es, hlog⟩ := hret
  have hrun : StepRun rtsProgram 0 zeroedMachine m' := by
    refine .function hstep ?_
    rw [rtsProgram_body]
    exact .step .start hbody
  have hloop : CallLoop rtsProgram 0 zeroedMachine [0] _ m' :=
    .turn .enter rfl hrun hlog
  exact ⟨_, m', hloop, (trampoline_faithful rtsProgram).2 0 zeroedMachine [0] _ m' hloop⟩

end NeoRecomp
