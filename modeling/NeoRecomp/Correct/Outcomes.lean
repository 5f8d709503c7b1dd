import NeoRecomp.Correct.Registers
import NeoRecomp.Correct.StackedPc
import NeoRecomp.Spec.ControlFlow

/-!
# What the text of an instruction can do

Without an interrupt, a trace or a yield the text of a supported instruction falls through, goes to
the label of a taken branch, or returns: calls, jumps, returns, traps and STOP always do, and every
other way out is an exception.
-/

namespace NeoRecomp

open Gen

/-! ## Conditions -/

theorem srHas_c (sr : BitVec 16) : srHas sr ngCcrC = flagC sr := srHas_twoPow sr 0

theorem srHas_v (sr : BitVec 16) : srHas sr ngCcrV = flagV sr := srHas_twoPow sr 1

theorem srHas_z (sr : BitVec 16) : srHas sr ngCcrZ = flagZ sr := srHas_twoPow sr 2

theorem srHas_n (sr : BitVec 16) : srHas sr ngCcrN = flagN sr := srHas_twoPow sr 3

theorem srHas_or (sr a b : BitVec 16) : srHas sr (a ||| b) = (srHas sr a || srHas sr b) := by
  rw [Bool.eq_iff_iff]
  simp only [srHas, BitVec.and_or_distrib_left, bne, Bool.or_eq_true, Bool.not_eq_true',
    beq_eq_false_iff_ne, ne_eq]
  rw [← not_and_or]
  exact not_congr BitVec.or_eq_zero_iff

theorem and_beq_zero (sr bits : BitVec 16) : (sr &&& bits == 0) = !srHas sr bits := by
  simp [srHas, bne]

theorem and_bne_zero (sr bits : BitVec 16) : (sr &&& bits != 0) = srHas sr bits := rfl

/-- The printed conditions are those of the 68000. -/
theorem ngConditionExpr_eq {condition : BitVec 8} {expr : BitVec 16 → Bool}
    (h : ngConditionExpr condition = some expr) (sr : BitVec 16) :
    expr sr = conditionHolds condition sr := by
  unfold ngConditionExpr at h
  unfold conditionHolds
  split at h <;> cases h
  all_goals
    rename_i hc
    simp only [hc, and_beq_zero, and_bne_zero, srHas_or, srHas_c, srHas_v, srHas_z, srHas_n,
      Bool.not_or]

/-! ## Branches -/

variable {β α γ : Type}

theorem NoTransfer.of_log {m m' : Machine β} (h : m'.log = m.log) : NoTransfer m m' :=
  ⟨[], by rw [h, List.append_nil], by simp⟩

section Abi
variable [GeneratedAbi β] {instr : NgM68kInstr} {m : Machine β}

theorem branch_goto (ht : srHas m.traceSr ngSrT = false) :
    (do
      traceOrReturn (instr.target &&& 0x00FFFFFF)
      goto instr.target : Gen β Unit) m = .exit (.goto (addr24 instr.target)) m := by
  rw [bind_of_next (traceOrReturn_of_untraced ht _)]
  rfl

/-- What a branch instruction does: a taken one goes to the label of its target, another one falls
through. -/
def Branches (instr : NgM68kInstr) (m : Machine β) (o : Outcome β Unit) : Prop :=
  if branchTaken instr m.cpu then
    ∃ m', o = .exit (.goto (addr24 instr.target)) m' ∧ NoTransfer m m'
  else ∃ m', o = .next () m' ∧ m'.traceSr = m.traceSr ∧ NoTransfer m m'

theorem emitBcc_branches (hm : instr.mnemonic = .bcc) (hv : validateBranch instr = true)
    (ht : srHas m.traceSr ngSrT = false) : Branches instr m ((emitBcc instr).text m) := by
  simp only [validateBranch, hm, Bool.and_eq_true, decide_eq_true_iff] at hv
  obtain ⟨-, ⟨-, hlo⟩, hhi⟩ := hv
  have h0 : instr.condition ≠ 0 := by rintro h; rw [h] at hlo; exact absurd hlo (by decide)
  have h1 : instr.condition ≠ 1 := by rintro h; rw [h] at hlo; exact absurd hlo (by decide)
  obtain ⟨expr, hexpr⟩ := ngConditionExpr_isSome h0 h1 hhi
  have htaken : branchTaken instr m.cpu = expr m.cpu.sr := by
    rw [branchTaken, hm, ngConditionExpr_eq hexpr]
  rw [Branches, htaken, emitBcc, emitBranchCondition]
  simp only [h0, h1, if_false, hexpr]
  rw [bind_apply, getCpu_apply]
  dsimp only
  split_ifs with hc
  · exact ⟨m, branch_goto ht, .refl m⟩
  · exact ⟨m, rfl, rfl, .refl m⟩

theorem emitBra_branches (hm : instr.mnemonic = .bra) (hv : validateBranch instr = true)
    (ht : srHas m.traceSr ngSrT = false) : Branches instr m ((emitBra instr).text m) := by
  simp only [validateBranch, hm, Bool.and_eq_true, beq_iff_eq] at hv
  have htaken : branchTaken instr m.cpu = true := by rw [branchTaken, hm]
  rw [Branches, htaken, if_pos rfl, emitBra, emitBranchCondition, if_pos hv.2.2]
  exact ⟨m, branch_goto ht, .refl m⟩

/-- The counter of DBcc is the low word of its register. -/
theorem dbccStatements_branches (ht : srHas m.traceSr ngSrT = false) :
    if (m.cpu.d (regIndex instr.reg)).setWidth 16 - 1 ≠ (0xFFFF : BitVec 16) then
      ∃ m', dbccStatements instr m = .exit (.goto (addr24 instr.target)) m' ∧ NoTransfer m m'
    else ∃ m', dbccStatements instr m = .next () m' ∧ m'.traceSr = m.traceSr ∧ NoTransfer m m' := by
  have hcounter : ((m.cpu.d (regIndex instr.reg) &&& 0xFFFF) - 1).setWidth 16 =
      (m.cpu.d (regIndex instr.reg)).setWidth 16 - (1 : BitVec 16) := by
    have hsub (v : BitVec 32) : (v - 1).setWidth 16 = v.setWidth 16 - (1 : BitVec 16) := by
      bv_omega
    rw [hsub, setWidth_and_word]
  unfold dbccStatements
  simp only [bind_apply, getCpu_apply, modifyCpu_apply, hcounter]
  split_ifs with hc
  · exact ⟨_, branch_goto ht, .of_log rfl⟩
  · exact ⟨_, rfl, rfl, .of_log rfl⟩

theorem emitDbcc_branches (hm : instr.mnemonic = .dbcc) (hv : validateDbcc instr = true)
    (ht : srHas m.traceSr ngSrT = false) : Branches instr m ((emitDbcc instr).text m) := by
  simp only [validateDbcc, Bool.and_eq_true, decide_eq_true_iff] at hv
  have hle : instr.condition ≤ 15 := hv.1.1.1.1.1.1.1.1.2
  have hfall (hnot : branchTaken instr m.cpu = false) : Branches instr m (.next () m) := by
    rw [Branches, hnot]
    exact ⟨m, rfl, rfl, .refl m⟩
  have hcount (hcond : conditionHolds instr.condition m.cpu.sr = false) :
      Branches instr m (dbccStatements instr m) := by
    have h := @dbccStatements_branches β _ instr m ht
    rw [Branches, branchTaken, hm]
    simpa [hcond] using h
  unfold emitDbcc
  split_ifs with h0 h1
  · apply hfall
    rw [branchTaken, hm, h0]
    rfl
  · apply hcount
    rw [h1]
    rfl
  · obtain ⟨expr, hexpr⟩ := ngConditionExpr_isSome h0 h1 hle
    rw [hexpr]
    dsimp only [fallsThrough]
    rw [bind_apply, getCpu_apply]
    dsimp only
    split_ifs with hc
    · apply hfall
      rw [branchTaken, hm, ← ngConditionExpr_eq hexpr, hc]
      rfl
    · apply hcount
      rw [← ngConditionExpr_eq hexpr]
      exact Bool.not_eq_true _ ▸ hc

theorem emitInstr_branches (hm : instr.mnemonic = .bra ∨ instr.mnemonic = .bcc ∨
      instr.mnemonic = .dbcc) (hv : ngM68kValidate instr = true)
    (ht : srHas m.traceSr ngSrT = false) : Branches instr m ((emitInstr instr).text m) := by
  rw [ngM68kValidate, Bool.and_eq_true] at hv
  obtain ⟨-, hv⟩ := hv
  unfold emitInstr
  rcases hm with hm | hm | hm <;> rw [hm] at hv <;> simp only [hm]
  · exact emitBra_branches hm hv ht
  · exact emitBcc_branches hm hv ht
  · exact emitDbcc_branches hm hv ht

/-! ## Exceptions -/

theorem emitRequireSupervisor_of_supervisor (hs : srHas m.cpu.sr ngSrS = true) (pc : BitVec 32) :
    (emitRequireSupervisor pc : Gen β Unit) m = .next () m := by
  show (ngRequireSupervisor (addr24 pc) >>= fun b =>
    if b then pure () else ret : Gen β Unit) m = _
  rw [ngRequireSupervisor, bind_apply, bind_apply, getCpu_apply]
  dsimp only
  rw [if_pos hs]
  rfl

/-- A privileged instruction that leaves was not run in supervisor mode. -/
theorem raises_of_privileged (hp : isPrivileged instr = true) (he : endsBody instr.mnemonic = false)
    (hsup : (emitInstr (β := β) instr).unsupported = false) {e : Exit} {m' : Machine β}
    (h : (emitInstr instr).text m = .exit e m') :
    Raises instr m 0x00000020 (addr24 instr.addr) m := by
  apply Raises.privilege hp
  by_contra hs
  rw [Bool.not_eq_false] at hs
  obtain ⟨x, hx, hno⟩ := text_of_isPrivileged (β := β) hp
  rw [hx, bind_of_next (emitRequireSupervisor_of_supervisor hs _)] at h
  obtain ⟨-, m₁, -, hway⟩ := (hno he hsup).exit m e m' h
  exact hway

theorem raises_of_trapv (hm : instr.mnemonic = .trapv) {e : Exit} {m' : Machine β}
    (h : (emitInstr instr).text m = .exit e m') : Raises instr m 0x0000001C (nextPc instr) m := by
  apply Raises.trapv hm
  by_contra hv
  rw [text_of_trapv hm, trapvText, bind_apply, getCpu_apply] at h
  dsimp only at h
  rw [if_neg hv] at h
  cases h

theorem raises_of_chk (hm : instr.mnemonic = .chk)
    (hsup : (emitInstr (β := β) instr).unsupported = false) {e : Exit} {m' : Machine β}
    (h : (emitInstr instr).text m = .exit e m') :
    ∃ m₁, Raises instr m 0x00000018 (nextPc instr) m₁ := by
  have hemit : emitInstr (β := β) instr = orUnsupported instr (emitChk instr) := by
    simp only [emitInstr, hm]
  rw [hemit, emitChk] at h hsup
  by_cases hform : instr.mnemonic ≠ .chk ∨ instr.src.mode = .none ∨ instr.dst.mode ≠ .dreg ∨
      instr.size ≠ 2
  · rw [if_pos hform] at hsup
    cases hsup
  · rw [if_neg hform] at h hsup
    push Not at hform
    obtain ⟨-, -, hdst, hsize⟩ := hform
    cases hrd : emitEaRead (β := β) instr.src 2 with
    | none => rw [hrd] at hsup; cases hsup
    | some rd =>
      rw [hrd] at h
      obtain ⟨ex, m₁, hrun⟩ := (emitEaRead_exitsBy (W := NoWay) hrd).falls_through m
      dsimp only [orUnsupported, fallsThrough] at h
      rw [bind_of_next hrun] at h
      simp only [bind_apply, getCpu_apply, setWidth_and_word, gt_iff_lt] at h
      refine ⟨_, .chk hm hdst hsize hrd hrun rfl ?_⟩
      by_contra hout
      rw [if_neg hout] at h
      cases h

theorem raises_of_divide (hm : isDivide instr.mnemonic = true)
    (hsup : (emitInstr (β := β) instr).unsupported = false) {e : Exit} {m' : Machine β}
    (h : (emitInstr instr).text m = .exit e m') :
    ∃ m₁, Raises instr m 0x00000014 (nextPc instr) m₁ := by
  have hemit : emitInstr (β := β) instr = orUnsupported instr (emitDivide instr) := by
    unfold emitInstr
    cases hi : instr.mnemonic <;> rw [hi] at hm <;> first | rfl | cases hm
  rw [hemit, emitDivide] at h hsup
  dsimp only at h hsup
  by_cases hform : (instr.mnemonic ≠ .divu ∧ instr.mnemonic ≠ .divs) ∨ instr.src.mode = .none ∨
      instr.dst.mode ≠ .dreg
  · rw [if_pos hform] at hsup
    cases hsup
  · rw [if_neg hform] at h hsup
    push Not at hform
    cases hrd : emitEaRead (β := β) instr.src 2 with
    | none => rw [hrd] at hsup; cases hsup
    | some rd =>
      rw [hrd] at h
      obtain ⟨ex, m₁, hrun⟩ := (emitEaRead_exitsBy (W := NoWay) hrd).falls_through m
      refine ⟨m₁, .divide hm hform.2.2 hrd hrun ?_⟩
      by_contra hzero
      dsimp only [orUnsupported, fallsThrough] at h
      rw [bind_of_next hrun, bind_apply, getCpu_apply] at h
      dsimp only at h
      rw [if_neg hzero] at h
      split_ifs at h
      · obtain ⟨-, m₂, -, hway⟩ := ExitsBy.exit (W := NoWay) m₁ e m' h
        exact hway
      · obtain ⟨-, m₂, -, hway⟩ := ExitsBy.exit (W := NoWay) m₁ e m' h
        exact hway

/-- Outside of branches and of instructions that always leave, the way out is an exception. -/
theorem raises_of_exit (hv : ngM68kValidate instr = true)
    (hb : branchesOrWaits instr.mnemonic = false) (he : endsBody instr.mnemonic = false) {e : Exit}
    {m' : Machine β} (h : (emitInstr instr).text m = .exit e m') :
    ∃ vector pc m₁, Raises instr m vector pc m₁ := by
  have hsup := (emitInstr_supported (β := β) hv).1
  by_cases ht : mayTrap instr.mnemonic = true
  · by_cases hp : isPrivileged instr = true
    · exact ⟨_, _, _, raises_of_privileged hp he hsup h⟩
    cases hm : instr.mnemonic
    case trapv => exact ⟨_, _, _, raises_of_trapv hm h⟩
    case chk =>
      obtain ⟨m₁, hr⟩ := raises_of_chk hm hsup h
      exact ⟨_, _, m₁, hr⟩
    case divu | divs =>
      obtain ⟨m₁, hr⟩ := raises_of_divide (by rw [hm]; rfl) hsup h
      exact ⟨_, _, m₁, hr⟩
    case moveSr =>
      -- MOVE from SR is not privileged
      have hemit : emitInstr (β := β) instr = orUnsupported instr (emitMoveSrCcr instr) := by
        simp only [emitInstr, hm]
      rw [hemit] at h hsup
      by_cases hdst : instr.dst.mode = .none
      · have hsrc : instr.src.mode = .none := by
          by_contra hsrc
          exact hp (by simp [isPrivileged, hm, hdst, hsrc])
        rw [emitMoveSrCcr, if_neg (by simp [hm]), if_neg (by simp [hdst]), if_neg (by simp [hsrc])]
          at hsup
        cases hsup
      · have := emitMoveSrCcr_exitsBy (β := β) (W := NoWay) instr (.inr hdst)
        obtain ⟨-, m₁, -, hway⟩ := (orUnsupported_exitsBy (W := NoWay) instr _ hsup).exit m e m' h
        exact hway.elim
    case reset | moveUsp | oriToSr | andiToSr | eoriToSr =>
      rw [isPrivileged, hm] at hp
      exact absurd rfl hp
    all_goals
      rw [hm] at ht
      cases ht
  · have hno := emitInstr_exitsBy (β := β) (W := NoWay) instr hb he (Bool.not_eq_true _ ▸ ht) hsup
    obtain ⟨-, m₁, -, hway⟩ := hno.exit m e m' h
    exact hway.elim

/-! ## Instructions that always leave -/

/-- From `m` to `m'` at most one transfer was made, a dispatch, and it came last. -/
def AtMostDispatch (m m' : Machine β) : Prop := NoTransfer m m' ∨ OneDispatch m m'

omit [GeneratedAbi β] in
theorem AtMostDispatch.after {m₁ m₂ m₃ : Machine β} (h : NoTransfer m₁ m₂)
    (h' : AtMostDispatch m₂ m₃) : AtMostDispatch m₁ m₃ :=
  h'.imp h.trans h.then_oneDispatch

/-- Code that always returns, after at most one dispatch. -/
def Returns (x : Gen β α) : Prop := ∀ m, ∃ m', x m = .exit .ret m' ∧ AtMostDispatch m m'

omit [GeneratedAbi β] in
theorem Returns.bind {x : Gen β α} (hx : Tame x) {f : α → Gen β γ} (hf : ∀ a, Returns (f a)) :
    Returns (x >>= f) := by
  intro m
  cases hm : x m with
  | next a m₁ =>
    obtain ⟨m', hrun, hlast⟩ := hf a m₁
    exact ⟨m', by rw [bind_of_next hm, hrun], .after (hx.next m a m₁ hm).2 hlast⟩
  | exit e m' =>
    obtain ⟨rfl, hone⟩ := hx.exit m e m' hm
    exact ⟨m', bind_of_exit hm f, .inr hone⟩

/-- STOP returns whether or not an interrupt is pending. -/
theorem stopText_returns (instr : NgM68kInstr) : Returns (stopText instr : Gen β Unit) := by
  unfold stopText
  refine .bind inferInstance fun _ => .bind inferInstance fun _ => .bind inferInstance fun _ =>
    .bind inferInstance fun _ => .bind inferInstance fun _ => ?_
  intro m
  have htest := test_serviceInterrupt (β := β) (nextPc instr)
  cases hm : ngServiceInterrupt (nextPc instr) m with
  | next b m' =>
    refine ⟨m', by rw [bind_of_next hm]; cases b <;> rfl, ?_⟩
    cases b with
    | true => exact .inr (htest.stops m m' hm)
    | false => exact .inl (htest.goes m m' hm).2
  | exit e m' =>
    obtain ⟨rfl, hone⟩ := htest.exit m e m' hm
    exact ⟨m', bind_of_exit hm _, .inr hone⟩

omit [GeneratedAbi β] in
theorem returns_of_neverNext {x : Gen β α} (ht : Tame x) (hn : NeverNext x) : Returns x := by
  intro m
  cases hm : x m with
  | next a m' => exact absurd hm (hn.exits m a m')
  | exit e m' =>
    obtain ⟨rfl, hone⟩ := ht.exit m e m' hm
    exact ⟨m', rfl, .inr hone⟩

theorem emitInstr_neverNext (he : endsBody instr.mnemonic = true)
    (h : branchesOrWaits instr.mnemonic = false) : NeverNext (emitInstr (β := β) instr).text := by
  unfold emitInstr
  cases hm : instr.mnemonic
  case bsr | jsr | jmp | rts | rte | rtr | illegal | trap | unknown | invalid =>
    dsimp only
    infer_instance
  case stop | bra | bcc | dbcc => rw [hm] at h; cases h
  all_goals rw [hm] at he; cases he

/-- Calls, jumps, returns, traps and STOP. -/
theorem emitInstr_returns (hv : ngM68kValidate instr = true) (he : endsBody instr.mnemonic = true)
    (hbra : instr.mnemonic ≠ .bra) : Returns (emitInstr (β := β) instr).text := by
  cases hb : branchesOrWaits instr.mnemonic with
  | false =>
    exact returns_of_neverNext (emitInstr_tame instr hb (emitInstr_supported hv).1)
      (emitInstr_neverNext he hb)
  | true =>
    have hstop : instr.mnemonic = .stop := by
      cases hm : instr.mnemonic
      case stop => rfl
      case bra => exact absurd hm hbra
      case bcc | dbcc => rw [hm] at he; cases he
      all_goals rw [hm] at hb; cases hb
    unfold emitInstr
    rw [hstop]
    exact stopText_returns instr

/-! ## One instruction -/

/-- The ways an instruction gives up control for good: calls, jumps, returns, traps, STOP, and
exceptions. -/
def LeavesBody (instr : NgM68kInstr) (m : Machine β) : Prop :=
  (endsBody instr.mnemonic = true ∧ instr.mnemonic ≠ .bra) ∨
    ∃ vector pc m', Raises instr m vector pc m'

/-- Everything the text of an instruction can do. -/
inductive TextOutcome (instr : NgM68kInstr) (m : Machine β) : Outcome β Unit → Prop
  | next {m'} (hs : endsBody instr.mnemonic = false) (hb : branchTaken instr m.cpu = false)
      (hr : ¬ LeavesBody instr m) (hno : NoTransfer m m') : TextOutcome instr m (.next () m')
  | branch {m'} (hb : branchTaken instr m.cpu = true) (hno : NoTransfer m m') :
      TextOutcome instr m (.exit (.goto (addr24 instr.target)) m')
  | leave {m'} (hl : LeavesBody instr m) (hlast : AtMostDispatch m m') :
      TextOutcome instr m (.exit .ret m')

/-- Where nothing can trap, only the instructions that always leave do. -/
theorem raises_exits {vector pc : BitVec 32} {m₁ : Machine β} (h : Raises instr m vector pc m₁) :
    ∃ m', (emitInstr instr).text m = .exit .ret m' := by
  have hex {v p : BitVec 32} {m₂ : Machine β}
      (h : TakesException v p m₂ ((emitInstr instr).text m)) :
      ∃ m', (emitInstr instr).text m = .exit .ret m' := by
    obtain ⟨m', -, hrun, -⟩ := h
    exact ⟨m', hrun⟩
  cases h with
  | privilege hp hs => exact hex (takesException_privileged hp hs)
  | illegal hm => exact hex (takesException_illegal hm)
  | trap hm => exact hex (takesException_trapInstr hm)
  | trapv hm hv => exact hex (takesException_trapv hm hv)
  | chk hm hd hsize hrd hrun hvalue hout =>
    exact hex (takesException_chk hm hd hsize hrd hrun hvalue hout)
  | divide hm hd hrd hrun hzero => exact hex (takesException_divide hm hd hrd hrun hzero)

theorem not_leaves_of_next {m' : Machine β} (he : endsBody instr.mnemonic = false)
    (h : (emitInstr instr).text m = .next () m') : ¬ LeavesBody instr m := by
  rintro (⟨hends, -⟩ | ⟨vector, pc, m₁, hr⟩)
  · rw [he] at hends
    cases hends
  · obtain ⟨m₂, hrun⟩ := raises_exits hr
    rw [h] at hrun
    cases hrun

/-- The text of an instruction followed by the step to the next one. -/
theorem instrText_of_exit (hv : ngM68kValidate instr = true) {e : Exit} {m' : Machine β}
    (h : (emitInstr instr).text m = .exit e m') : instrText instr m = .exit e m' := by
  rw [instrText, hv, Bool.not_true, if_neg Bool.false_ne_true]
  exact bind_of_exit h _

theorem instrText_of_next (hv : ngM68kValidate instr = true) (he : endsBody instr.mnemonic = false)
    {m' : Machine β} (h : (emitInstr instr).text m = .next () m')
    (ht : srHas m'.traceSr ngSrT = false) :
    instrText instr m = .next () { m' with cpu := m'.cpu.setPc (nextPc instr) } := by
  have hcont := (emitInstr_supported (β := β) hv).2
  rw [he, Bool.not_false] at hcont
  rw [instrText, hv, Bool.not_true, if_neg Bool.false_ne_true, bind_of_next h, if_pos hcont,
    instrEpilogue, bind_apply, modifyCpu_apply]
  dsimp only
  apply traceOrReturn_of_untraced
  exact ht

theorem branchTaken_of_plain (h : branchesOrWaits instr.mnemonic = false) (g : NgM68kState) :
    branchTaken instr g = false := by
  unfold branchTaken
  cases hm : instr.mnemonic
  case bra | bcc | dbcc => rw [hm] at h; cases h
  all_goals rfl

theorem instrText_outcome (hv : ngM68kValidate instr = true)
    (ht : srHas m.traceSr ngSrT = false) : TextOutcome instr m (instrText instr m) := by
  by_cases hbranch : instr.mnemonic = .bra ∨ instr.mnemonic = .bcc ∨ instr.mnemonic = .dbcc
  · have h := emitInstr_branches hbranch hv ht
    unfold Branches at h
    split_ifs at h with htaken
    · obtain ⟨m', hrun, hno⟩ := h
      rw [instrText_of_exit hv hrun]
      exact .branch htaken hno
    · obtain ⟨m', hrun, htrace, hno⟩ := h
      have he : endsBody instr.mnemonic = false := by
        rcases hbranch with hm | hm | hm
        · rw [branchTaken, hm] at htaken
          exact absurd rfl htaken
        · rw [hm]; rfl
        · rw [hm]; rfl
      rw [instrText_of_next hv he hrun (by rw [htrace, ht])]
      exact .next he (Bool.not_eq_true _ ▸ htaken) (not_leaves_of_next he hrun)
        (hno.trans (.of_log rfl))
  cases he : endsBody instr.mnemonic with
  | true =>
    have hbra : instr.mnemonic ≠ .bra := fun hm => hbranch (.inl hm)
    obtain ⟨m', hrun, hlast⟩ := emitInstr_returns (β := β) hv he hbra m
    rw [instrText_of_exit hv hrun]
    exact .leave (.inl ⟨he, hbra⟩) hlast
  | false =>
    have hb : branchesOrWaits instr.mnemonic = false := by
      cases hm : instr.mnemonic
      case stop => rw [hm] at he; cases he
      case bra | bcc | dbcc => simp [hm] at hbranch
      all_goals rfl
    have htame := emitInstr_tame (β := β) instr hb (emitInstr_supported hv).1
    cases hrun : (emitInstr (β := β) instr).text m with
    | next a m' =>
      obtain ⟨htrace, hno⟩ := htame.next m a m' hrun
      rw [instrText_of_next hv he hrun (by rw [htrace, ht])]
      exact .next he (branchTaken_of_plain hb _) (not_leaves_of_next he hrun)
        (hno.trans (.of_log rfl))
    | exit e m' =>
      obtain ⟨rfl, hone⟩ := htame.exit m e m' hrun
      rw [instrText_of_exit hv hrun]
      exact .leave (.inr (raises_of_exit hv hb he hrun)) (.inr hone)

end Abi

end NeoRecomp
