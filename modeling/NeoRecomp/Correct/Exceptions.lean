import NeoRecomp.Emit.Body
import NeoRecomp.Emit.Flags
import NeoRecomp.Spec.Ram

/-!
# Exception entry and RTE

The 68000 has two stack pointers, of which A7 shows the one the S bit selects.  Pushing any number
of exception and interrupt frames and running as many RTEs brings back both of them and the status
register, one nesting level at a time.
-/

namespace NeoRecomp

open Gen

/-! ## The two stack pointers -/

/-- The user stack pointer: `a[7]` in user mode, else `usp`. -/
def userSp (g : NgM68kState) : BitVec 32 := if srHas g.sr ngSrS then g.usp else g.a 7

/-- The supervisor stack pointer: `a[7]` in supervisor mode, else `ssp`. -/
def supervisorSp (g : NgM68kState) : BitVec 32 := if srHas g.sr ngSrS then g.a 7 else g.ssp

/-- Same registers as a program sees them: D0-D7, A0-A6, SR and both stack pointers. -/
structure SameRegisters (g g' : NgM68kState) : Prop where
  d : g'.d = g.d
  a : ∀ r, r ≠ 7 → g'.a r = g.a r
  sr : g'.sr = g.sr
  userSp : userSp g' = userSp g
  supervisorSp : supervisorSp g' = supervisorSp g

theorem srHas_s (sr : BitVec 16) : srHas sr ngSrS = sr.getLsbD 13 := srHas_twoPow sr 13

theorem srHas_t (sr : BitVec 16) : srHas sr ngSrT = sr.getLsbD 15 := srHas_twoPow sr 15

theorem srHas_s_xor (a b : BitVec 16) :
    srHas (a ^^^ b) ngSrS = (srHas a ngSrS != srHas b ngSrS) := by
  simp only [srHas_s, BitVec.getLsbD_xor]

section SetSr
variable (value : BitVec 16) (g : NgM68kState)

@[simp] theorem ngSetSr_sr : (ngSetSr value g).sr = value := rfl

@[simp] theorem ngSetSr_d : (ngSetSr value g).d = g.d := by
  unfold ngSetSr
  dsimp only
  split_ifs <;> rfl

theorem ngSetSr_a {r : Fin 8} (hr : r ≠ 7) : (ngSetSr value g).a r = g.a r := by
  unfold ngSetSr
  dsimp only
  split_ifs <;> simp [NgM68kState.setSr, NgM68kState.setA, hr]

/-- Writing SR moves the stack pointers around without changing either. -/
@[simp] theorem userSp_ngSetSr : userSp (ngSetSr value g) = userSp g := by
  unfold userSp
  rw [ngSetSr_sr]
  unfold ngSetSr
  dsimp only
  rw [srHas_s_xor]
  cases hs : srHas g.sr ngSrS <;> cases hv : srHas value ngSrS <;>
    simp [NgM68kState.setSr, NgM68kState.setA]

@[simp] theorem supervisorSp_ngSetSr : supervisorSp (ngSetSr value g) = supervisorSp g := by
  unfold supervisorSp
  rw [ngSetSr_sr]
  unfold ngSetSr
  dsimp only
  rw [srHas_s_xor]
  cases hs : srHas g.sr ngSrS <;> cases hv : srHas value ngSrS <;>
    simp [NgM68kState.setSr, NgM68kState.setA]

end SetSr

/-! ## Entering exceptions -/

/-- A call of `ng_push_exception_frame` or `ng_push_interrupt_frame`. -/
inductive ExceptionEntry
  | exception (returnPc : BitVec 32)
  | interrupt (returnPc : BitVec 32) (level : BitVec 8)

def ExceptionEntry.returnPc : ExceptionEntry → BitVec 32
  | .exception pc => pc
  | .interrupt pc _ => pc

/-- The status register after entry. -/
def ExceptionEntry.nextSr (sr : BitVec 16) : ExceptionEntry → BitVec 16
  | .exception _ => (sr ||| ngSrS) &&& ~~~ngSrT
  | .interrupt _ level =>
      (((sr ||| ngSrS) &&& 0xF8FF) &&& ~~~ngSrT) ||| ((level &&& 7).setWidth 16 <<< 8)

theorem ExceptionEntry.srHas_nextSr (e : ExceptionEntry) (sr : BitVec 16) :
    srHas (e.nextSr sr) ngSrS = true ∧ srHas (e.nextSr sr) ngSrT = false := by
  rw [srHas_s, srHas_t]
  cases e with
  | exception pc => simp [nextSr, ngSrS, ngSrT]
  | interrupt pc level =>
    simp only [nextSr, ngSrS, ngSrT, BitVec.getLsbD_or, BitVec.getLsbD_and, BitVec.getLsbD_not,
      BitVec.getLsbD_shiftLeft, BitVec.getLsbD_setWidth]
    simp

section Frames
variable {β : Type} [GeneratedAbi β]

def ExceptionEntry.push : ExceptionEntry → Gen β Unit
  | .exception pc => ngPushExceptionFrame pc
  | .interrupt pc level => ngPushInterruptFrame pc level

/-- Frames pushed one after the other. -/
def pushFrames : List ExceptionEntry → Gen β Unit
  | [] => pure ()
  | e :: es => do
      e.push
      pushFrames es

theorem sub_four_two (sp : BitVec 32) : sp - 4 - 2 = sp - 6 := by bv_omega

/-- Once SR is set, A7 is the supervisor stack pointer. -/
theorem ExceptionEntry.a7_ngSetSr (e : ExceptionEntry) (g : NgM68kState) :
    (ngSetSr (e.nextSr g.sr) g).a 7 = supervisorSp g := by
  have h := supervisorSp_ngSetSr (e.nextSr g.sr) g
  rw [supervisorSp, ngSetSr_sr, (e.srHas_nextSr g.sr).1, if_pos rfl] at h
  exact h

/-- The machine after one entry. -/
theorem ExceptionEntry.push_eq (e : ExceptionEntry) (m : Machine β) :
    e.push m = .next ()
      { m with
        cpu := ((ngSetSr (e.nextSr m.cpu.sr) m.cpu).setA 7 (supervisorSp m.cpu - 4)).setA 7
          (supervisorSp m.cpu - 6)
        bus := abiWrite 2 (supervisorSp m.cpu - 6) m.cpu.sr
          (abiWrite 4 (supervisorSp m.cpu - 4) (addr24 e.returnPc) m.bus)
        log := m.log ++ [.write 4 (supervisorSp m.cpu - 4) (addr24 e.returnPc)] ++
          [.write 2 (supervisorSp m.cpu - 6) (m.cpu.sr.setWidth 32)] } := by
  rw [← sub_four_two, ← e.a7_ngSetSr m.cpu]
  cases e <;> rfl

/-- One entry: the supervisor stack grows by a frame with the old SR on top of the return
address. -/
theorem ExceptionEntry.push_apply (e : ExceptionEntry) (m : Machine β) :
    ∃ m', e.push m = .next () m' ∧ m'.cpu.d = m.cpu.d ∧ (∀ r, r ≠ 7 → m'.cpu.a r = m.cpu.a r) ∧
      m'.cpu.sr = e.nextSr m.cpu.sr ∧ userSp m'.cpu = userSp m.cpu ∧
      supervisorSp m'.cpu = supervisorSp m.cpu - 6 ∧
      m'.bus = abiWrite 2 (supervisorSp m.cpu - 6) m.cpu.sr
        (abiWrite 4 (supervisorSp m.cpu - 4) (addr24 e.returnPc) m.bus) ∧
      dispatches m'.log = dispatches m.log := by
  have hS := (e.srHas_nextSr m.cpu.sr).1
  have husp : (ngSetSr (e.nextSr m.cpu.sr) m.cpu).usp = userSp m.cpu := by
    have h := userSp_ngSetSr (e.nextSr m.cpu.sr) m.cpu
    rw [userSp, ngSetSr_sr, hS, if_pos rfl] at h
    exact h
  refine ⟨_, e.push_eq m, ngSetSr_d .., ?_, rfl, ?_, ?_, rfl, ?_⟩
  · intro r hr
    simp [NgM68kState.setA, hr, ngSetSr_a]
  · simp [userSp, NgM68kState.setA, hS, husp]
  · simp [supervisorSp, NgM68kState.setA, hS]
  · simp [dispatches]

/-! ## Returning -/

/-- The emitted RTE, from the sampling of `ng_trace_sr` on.  The `return` hands control back to the
caller of the function. -/
def runReturn (instr : NgM68kInstr) : Gen β Unit := fun m =>
  match (do sampleTraceSr; (emitInstr instr).text : Gen β Unit) m with
  | .exit .ret m' => .next () m'
  | o => o

/-- RTEs run one after the other. -/
def runReturns : List NgM68kInstr → Gen β Unit
  | [] => pure ()
  | r :: rs => do
      runReturn r
      runReturns rs

theorem runReturns_append (rs : List NgM68kInstr) (r : NgM68kInstr) :
    runReturns (β := β) (rs ++ [r]) = (do runReturns rs; runReturn r) := by
  induction rs with
  | nil => simp [runReturns]
  | cons r' rs ih => rw [List.cons_append, runReturns, ih, runReturns, bind_assoc]

/-- One RTE: the frame on top of the supervisor stack is popped. -/
theorem runReturn_apply {instr : NgM68kInstr} (hr : instr.mnemonic = .rte) {m : Machine β}
    (hS : srHas m.cpu.sr ngSrS = true) (hT : srHas m.cpu.sr ngSrT = false) (sr : BitVec 16)
    (pc : BitVec 32) (hsr : (abiRead 2 (supervisorSp m.cpu) m.bus).1 = sr)
    (hpc : (abiRead 4 (supervisorSp m.cpu + 2) (abiRead 2 (supervisorSp m.cpu) m.bus).2).1 = pc) :
    ∃ m', runReturn instr m = .next () m' ∧ m'.cpu.d = m.cpu.d ∧
      (∀ r, r ≠ 7 → m'.cpu.a r = m.cpu.a r) ∧ m'.cpu.sr = sr ∧ userSp m'.cpu = userSp m.cpu ∧
      supervisorSp m'.cpu = supervisorSp m.cpu + 6 ∧
      m'.bus = (abiRead 4 (supervisorSp m.cpu + 2) (abiRead 2 (supervisorSp m.cpu) m.bus).2).2 ∧
      dispatches m'.log = dispatches m.log ++ [addr24 pc] := by
  have ha7 : supervisorSp m.cpu = m.cpu.a 7 := by rw [supervisorSp, hS, if_pos rfl]
  have husp : userSp m.cpu = m.cpu.usp := by rw [userSp, hS, if_pos rfl]
  rw [ha7] at hsr hpc ⊢
  have hrun : runReturn instr m = .next ()
      { cpu := ngSetSr sr ((m.cpu.setA 7 (m.cpu.a 7 + 2)).setA 7 (m.cpu.a 7 + 2 + 4))
        bus := (abiRead 4 (m.cpu.a 7 + 2) (abiRead 2 (m.cpu.a 7) m.bus).2).2
        traceSr := m.cpu.sr
        log := m.log ++ [.read 2 (m.cpu.a 7)] ++ [.read 4 (m.cpu.a 7 + 2)] ++
          [.dispatch (addr24 pc)] } := by
    have hreq : emitRequireSupervisor instr.addr { m with traceSr := m.cpu.sr } =
        .next () { m with traceSr := m.cpu.sr } := by
      simp only [emitRequireSupervisor, ngRequireSupervisor, bind_apply, getCpu_apply, hS, if_true,
        pure_apply]
    have htext : (emitInstr instr).text (β := β) = rteText instr := by
      rw [emitInstr, hr]
      rfl
    unfold runReturn
    rw [htext]
    have hsample : (sampleTraceSr : Gen β Unit) m = .next () { m with traceSr := m.cpu.sr } := rfl
    rw [bind_of_next hsample, rteText, bind_of_next hreq]
    simp only [bind_apply, getCpu_apply, modifyCpu_apply, read16_apply, read32_apply,
      NgM68kState.setA, Function.update_self, hsr, hpc]
    simp only [traceDispatchReturn, traceOrReturn, ngServiceTrace, bind_apply, getTraceSr_apply, hT,
      Bool.false_eq_true, if_false, pure_apply, dispatch, event_apply, ret_apply]
    rfl
  refine ⟨_, hrun, ngSetSr_d .., ?_, rfl, ?_, ?_, rfl, ?_⟩
  · intro r hr
    rw [ngSetSr_a _ _ hr]
    simp [NgM68kState.setA, hr]
  · rw [userSp_ngSetSr, husp]
    simp [userSp, NgM68kState.setA, hS]
  · rw [supervisorSp_ngSetSr]
    simp [supervisorSp, NgM68kState.setA, hS, BitVec.add_assoc]
  · simp [dispatches]

/-! ## Nesting -/

/-- The bytes of `n` frames below a stack pointer. -/
def frameBytes (sp : BitVec 32) (n : Nat) : Set (BitVec 32) := { x | (sp - 1 - x).toNat < 6 * n }

/-- The stack pointer below `k` frames. -/
def belowFrames (sp : BitVec 32) (k : Nat) : BitVec 32 := sp - BitVec.ofNat 32 (6 * k)

section Nesting
variable {area : Set (BitVec 32)} {peek : β → BitVec 32 → BitVec 8}

theorem frameBytes_inner (sp : BitVec 32) (n : Nat) :
    frameBytes (sp - 6) n ⊆ frameBytes sp (n + 1) := by
  intro x hx
  simp only [frameBytes, Set.mem_ofPred_eq] at hx ⊢
  bv_omega

/-- A byte of the outermost frame: inside the frames, outside the inner ones. -/
theorem frame_byte {sp : BitVec 32} {n : Nat} (hn : 6 * (n + 1) ≤ 2 ^ 32) {k j : Nat} (hj : j + k < 6)
    {a : BitVec 32} (ha : a = sp - 6 + BitVec.ofNat 32 j) :
    byteAddr a k ∈ frameBytes sp (n + 1) ∧ byteAddr a k ∉ frameBytes (sp - 6) n := by
  subst ha
  simp only [frameBytes, Set.mem_ofPred_eq, byteAddr]
  have hj' : j < 6 := by omega
  have hk' : k < 6 := by omega
  constructor
  · interval_cases j <;> interval_cases k <;> bv_omega
  · interval_cases j <;> interval_cases k <;> bv_omega

theorem frame_in_area {sp : BitVec 32} {n : Nat} (hn : 6 * (n + 1) ≤ 2 ^ 32)
    (harea : frameBytes sp (n + 1) ⊆ area) :
    OperandIn area 2 (sp - 6) ∧ OperandIn area 4 (sp - 4) := by
  constructor
  · intro k hk
    exact harea (frame_byte (j := 0) hn (by change k < 2 at hk; omega) (by bv_omega)).1
  · intro k hk
    exact harea (frame_byte (j := 2) hn (by change k < 4 at hk; omega) (by bv_omega)).1

/-- An entry writes its own frame and nothing else. -/
theorem push_bus (ram : RamArea area peek) {sp : BitVec 32} {n : Nat} (hn : 6 * (n + 1) ≤ 2 ^ 32)
    (harea : frameBytes sp (n + 1) ⊆ area) (sr : BitVec 16) (pc : BitVec 32) (b : β) :
    HoldsAt peek (abiWrite 2 (sp - 6) sr (abiWrite 4 (sp - 4) pc b)) 2 (sp - 6) sr ∧
      HoldsAt peek (abiWrite 2 (sp - 6) sr (abiWrite 4 (sp - 4) pc b)) 4 (sp - 4) pc ∧
      ∀ x ∈ area, x ∉ frameBytes sp (n + 1) →
        peek (abiWrite 2 (sp - 6) sr (abiWrite 4 (sp - 4) pc b)) x = peek b x := by
  obtain ⟨h2, h4⟩ := frame_in_area hn harea
  refine ⟨ram.holds_write _ _ h2, ?_, ?_⟩
  · refine ram.holds_after_write _ h2 h4 ?_ (ram.holds_write _ _ h4)
    intro k hk k' hk'
    change k < 2 at hk
    change k' < 4 at hk'
    unfold byteAddr
    interval_cases k <;> interval_cases k' <;> bv_omega
  · intro x hx hout
    have hne2 : ∀ k < sizeBytes 2, x ≠ byteAddr (sp - 6) k := by
      rintro k hk rfl
      exact hout (frame_byte (j := 0) hn (by change k < 2 at hk; omega) (by bv_omega)).1
    have hne4 : ∀ k < sizeBytes 4, x ≠ byteAddr (sp - 4) k := by
      rintro k hk rfl
      exact hout (frame_byte (j := 2) hn (by change k < 4 at hk; omega) (by bv_omega)).1
    exact (ram.write_keep 2 _ _ _ h2 x hx hne2).trans (ram.write_keep 4 _ _ _ h4 x hx hne4)

/-- Where a nest of exceptions stands after `k` entries (`mk`) and after the returns that come back
to the same depth (`mk'`). -/
structure NestStage (area : Set (BitVec 32)) (peek : β → BitVec 32 → BitVec 8)
    (es : List ExceptionEntry) (m : Machine β) (k : Nat) (mk mk' : Machine β) : Prop where
  d : mk.cpu.d = m.cpu.d
  a : ∀ r, r ≠ 7 → mk.cpu.a r = m.cpu.a r
  userSp : userSp mk.cpu = userSp m.cpu
  supervisorSp : supervisorSp mk.cpu = belowFrames (supervisorSp m.cpu) k
  same : SameRegisters mk.cpu mk'.cpu
  log : dispatches mk'.log =
    dispatches m.log ++ (es.drop k).reverse.map fun e => addr24 e.returnPc
  keep : ∀ x ∈ area, x ∉ frameBytes (NeoRecomp.supervisorSp m.cpu) es.length →
    peek mk'.bus x = peek m.bus x

/-- Induction on the entries: an entry, the whole nest inside it, and the RTE that leaves it. -/
theorem nest_stages (ram : RamArea area peek) (es : List ExceptionEntry) (m : Machine β)
    (harea : frameBytes (supervisorSp m.cpu) es.length ⊆ area) (hn : 6 * es.length ≤ 2 ^ 32) :
    ∃ mn, pushFrames es m = .next () mn ∧
      ∀ rs : List NgM68kInstr, rs.length = es.length → (∀ r ∈ rs, r.mnemonic = .rte) →
        ∀ k ≤ es.length, ∃ mk mk', pushFrames (es.take k) m = .next () mk ∧
          runReturns (rs.take (es.length - k)) mn = .next () mk' ∧
          NestStage area peek es m k mk mk' := by
  induction es generalizing m with
  | nil =>
    refine ⟨m, rfl, fun rs hrs _ k hk => ⟨m, m, ?_, ?_, ?_⟩⟩
    · rw [List.take_nil]
      rfl
    · rw [List.length_eq_zero_iff.mp hrs, List.take_nil]
      rfl
    · obtain rfl : k = 0 := by simpa using hk
      exact ⟨rfl, fun _ _ => rfl, rfl, by simp [belowFrames], ⟨rfl, fun _ _ => rfl, rfl, rfl, rfl⟩,
        by simp, fun _ _ _ => rfl⟩
  | cons e es ih =>
    obtain ⟨m₁, hpush, hd, ha, hsr, husp, hssp, hbus, hlog⟩ := e.push_apply m
    rw [List.length_cons] at hn harea
    obtain ⟨hold2, hold4, hkeep⟩ := push_bus ram hn harea m.cpu.sr (addr24 e.returnPc) m.bus
    rw [← hbus] at hold2 hold4 hkeep
    have hinner := (frameBytes_inner (supervisorSp m.cpu) es.length).trans harea
    obtain ⟨mn, hpushes, hret⟩ := ih m₁ (by rw [hssp]; exact hinner) (by omega)
    refine ⟨mn, by rw [pushFrames, bind_of_next hpush, hpushes], fun rs hrs hrte k hk => ?_⟩
    have hin : (rs.take es.length).length = es.length := by
      rw [List.length_take, hrs, List.length_cons]
      omega
    have hrte' : ∀ r ∈ rs.take es.length, r.mnemonic = .rte :=
      fun r hr => hrte r (List.mem_of_mem_take hr)
    -- Everything outside the frames survives the entry and the inner nest.
    have hkeepAll : ∀ b' : β, (∀ x ∈ area, x ∉ frameBytes (supervisorSp m₁.cpu) es.length →
        peek b' x = peek m₁.bus x) → ∀ x ∈ area,
        x ∉ frameBytes (supervisorSp m.cpu) (es.length + 1) → peek b' x = peek m.bus x := by
      intro b' hb' x hx hout
      have hout' : x ∉ frameBytes (supervisorSp m₁.cpu) es.length := by
        rw [hssp]
        exact fun h => hout (frameBytes_inner _ _ h)
      rw [hb' x hx hout', hkeep x hx hout]
    cases k with
    | succ k =>
      obtain ⟨mk, mk', hmk, hmk', st⟩ := hret _ hin hrte' k (by simpa using hk)
      refine ⟨mk, mk', ?_, ?_, ?_⟩
      · rw [List.take_succ_cons, pushFrames, bind_of_next hpush, hmk]
      · rw [List.take_take, Nat.min_eq_left (Nat.sub_le ..)] at hmk'
        rw [List.length_cons, Nat.add_sub_add_right, hmk']
      · refine ⟨st.d.trans hd, fun r hr => (st.a r hr).trans (ha r hr), st.userSp.trans husp, ?_,
          st.same, ?_, hkeepAll _ st.keep⟩
        · rw [st.supervisorSp, hssp]
          simp only [belowFrames]
          bv_omega
        · rw [st.log, hlog, List.drop_succ_cons]
    | zero =>
      obtain ⟨m₁', m₂, hm₁', hm₂, st⟩ := hret _ hin hrte' 0 (Nat.zero_le _)
      obtain rfl : m₁ = m₁' := by
        rw [List.take_zero] at hm₁'
        cases hm₁'
        rfl
      obtain ⟨h2, h4⟩ := frame_in_area hn harea
      -- The frame of `e` is still there when the inner nest has returned.
      have hstill2 : HoldsAt peek m₂.bus 2 (supervisorSp m.cpu - 6) m.cpu.sr := by
        intro i hi
        rw [st.keep _ (h2 i hi) (by
          rw [hssp]
          exact (frame_byte (j := 0) hn (by change i < 2 at hi; omega) (by bv_omega)).2)]
        exact hold2 i hi
      have hstill4 : HoldsAt peek m₂.bus 4 (supervisorSp m.cpu - 4) (addr24 e.returnPc) := by
        intro i hi
        rw [st.keep _ (h4 i hi) (by
          rw [hssp]
          exact (frame_byte (j := 2) hn (by change i < 4 at hi; omega) (by bv_omega)).2)]
        exact hold4 i hi
      have hsp₂ : supervisorSp m₂.cpu = supervisorSp m.cpu - 6 := by rw [st.same.supervisorSp, hssp]
      have hup : supervisorSp m.cpu - 6 + 2 = supervisorSp m.cpu - 4 := by bv_omega
      have hflags := e.srHas_nextSr m.cpu.sr
      rw [← hsr, ← st.same.sr] at hflags
      obtain ⟨last, hlast⟩ : ∃ last, rs = rs.take es.length ++ [last] := by
        have hne : rs.drop es.length ≠ [] := by
          intro h
          have := congrArg List.length h
          rw [List.length_drop, hrs, List.length_cons, List.length_nil] at this
          omega
        obtain ⟨last, tl, htl⟩ := List.exists_cons_of_ne_nil hne
        have hlen := congrArg List.length htl
        rw [List.length_drop, hrs, List.length_cons, List.length_cons] at hlen
        obtain rfl : tl = [] := List.length_eq_zero_iff.mp (by omega)
        exact ⟨last, by rw [← htl, List.take_append_drop]⟩
      obtain ⟨m', hrun, hd', ha', hsr', husp', hssp', hbus', hlog'⟩ := runReturn_apply
        (hrte last (by rw [hlast]; simp)) hflags.1 hflags.2 m.cpu.sr
        (addr24 e.returnPc)
        (by rw [hsp₂]; exact ram.read_of_holds h2 hstill2)
        (by
          rw [hsp₂, hup]
          exact ram.read_of_holds h4 (ram.holds_after_read h2 h4 hstill4))
      refine ⟨m, m', rfl, ?_, rfl, fun _ _ => rfl, rfl, by simp [belowFrames], ⟨?_, ?_, hsr', ?_, ?_⟩,
        ?_, ?_⟩
      · rw [List.length_cons, Nat.sub_zero, ← List.length_cons (a := e), ← hrs, List.take_length,
          hlast, runReturns_append]
        rw [Nat.sub_zero, List.take_take, Nat.min_self] at hm₂
        rw [bind_of_next hm₂, hrun]
      · rw [hd', st.same.d, hd]
      · intro r hr
        rw [ha' r hr, st.same.a r hr, ha r hr]
      · rw [husp', st.same.userSp, husp]
      · rw [hssp', hsp₂, BitVec.sub_add_cancel]
      · rw [hlog', st.log, hlog, addr24_addr24]
        simp
      · refine hkeepAll _ fun x hx hout => ?_
        rw [hbus', hsp₂, hup, ram.read_keep 4 _ _ h4 x hx, ram.read_keep 2 _ _ h2 x hx,
          st.keep x hx hout]

/-- `a[7]` is the stack pointer the S bit selects, and the other one is in its own field. -/
def StackPointers (g : NgM68kState) (usp ssp : BitVec 32) : Prop :=
  if srHas g.sr ngSrS then g.a 7 = ssp ∧ g.usp = usp else g.a 7 = usp ∧ g.ssp = ssp

theorem stackPointers_of_eq {g : NgM68kState} {usp ssp : BitVec 32} (hu : userSp g = usp)
    (hs : supervisorSp g = ssp) : StackPointers g usp ssp := by
  unfold userSp at hu
  unfold supervisorSp at hs
  unfold StackPointers
  split_ifs at hu hs ⊢
  · exact ⟨hs, hu⟩
  · exact ⟨hu, hs⟩

/-- Exception entry and RTE are inverse.  After `es` have been entered and all but `k` of them left
again, the registers are those after the first `k` entries; the returns have dispatched the return
addresses from the innermost one outwards; and at every stage `a[7]` is the stack pointer the S bit
selects. -/
theorem exception_return_inverse (es : List ExceptionEntry) (rs : List NgM68kInstr)
    (hrs : rs.length = es.length) (hrte : ∀ r ∈ rs, r.mnemonic = .rte) (m : Machine β)
    (ram : RamArea (frameBytes (supervisorSp m.cpu) es.length) peek)
    (hn : 6 * es.length ≤ 2 ^ 32) (k : Nat) (hk : k ≤ es.length) :
    ∃ mk mk', pushFrames (es.take k) m = .next () mk ∧
      (do pushFrames es; runReturns (rs.take (es.length - k))) m = .next () mk' ∧
      SameRegisters mk.cpu mk'.cpu ∧
      mk'.cpu.d = m.cpu.d ∧ (∀ r, r ≠ 7 → mk'.cpu.a r = m.cpu.a r) ∧
      StackPointers mk.cpu (userSp m.cpu) (belowFrames (supervisorSp m.cpu) k) ∧
      StackPointers mk'.cpu (userSp m.cpu) (belowFrames (supervisorSp m.cpu) k) ∧
      dispatches mk'.log =
        dispatches m.log ++ (es.drop k).reverse.map fun e => addr24 e.returnPc := by
  obtain ⟨mn, hpush, hret⟩ := nest_stages ram es m subset_rfl hn
  obtain ⟨mk, mk', hmk, hmk', st⟩ := hret rs hrs hrte k hk
  refine ⟨mk, mk', hmk, by rw [bind_of_next hpush, hmk'], st.same, ?_, ?_, ?_, ?_, st.log⟩
  · rw [st.same.d, st.d]
  · intro r hr
    rw [st.same.a r hr, st.a r hr]
  · exact stackPointers_of_eq st.userSp st.supervisorSp
  · exact stackPointers_of_eq (st.same.userSp.trans st.userSp)
      (st.same.supervisorSp.trans st.supervisorSp)

/-- Traced user code with both stacks in RAM. -/
def tracedUserMachine : Machine Ram where
  cpu := { d := fun _ => 0, a := fun _ => 0x2000, pc := 0x1000, sr := 0x8004, usp := 0,
           ssp := 0x10F300 }
  bus := ⟨fun _ => 0⟩
  traceSr := 0
  log := []

def rteInstr : NgM68kInstr := { addr := 0x1000, opcode := 0x4E73, mnemonic := .rte, byteLength := 2 }

theorem trap_and_interrupt_return :
    ∃ m', (do
      pushFrames [.exception 0xFF001234, .interrupt 0x002000 4]
      runReturns [rteInstr, rteInstr]) tracedUserMachine = .next () m' ∧
      SameRegisters tracedUserMachine.cpu m'.cpu ∧ dispatches m'.log = [0x002000, 0x001234] := by
  obtain ⟨mk, m', hmk, hrun, hsame, -, -, -, -, hlog⟩ := exception_return_inverse
    [.exception 0xFF001234, .interrupt 0x002000 4] [rteInstr, rteInstr] rfl
    (by simp [rteInstr]) tracedUserMachine (Ram.ramArea.mono (Set.subset_univ _)) (by decide) 0
    (by decide)
  cases hmk
  refine ⟨m', hrun, hsame, ?_⟩
  rw [hlog]
  decide

end Nesting

end Frames

end NeoRecomp
