import Mathlib.Data.BitVec
import NeoRecomp.Lib.Credit
import NeoRecomp.Correct.AudioState

/-!
# The Z80's cycle credit

`ng_neogeo_audio_advance_z80_cycles` runs whole instructions and carries what they took too much
over to the next call.  It is a budget spent in whole steps, so only the sum of the calls counts.
-/

namespace NeoRecomp

/-- The registers with which a step ends, whatever its reads return. -/
def Z80Run.Ends (p : Z80 → Prop) : Z80Run → Prop
  | .done cpu => p cpu
  | .readByte _ _ next => ∀ value, (next value).Ends p
  | .writeByte _ _ _ next => next.Ends p
  | .portIn _ _ next => ∀ value, (next value).Ends p
  | .portOut _ _ _ next => next.Ends p

/-- Every instruction takes at least one cycle and at most 2^16. -/
def StepCycles (z80Step : Z80 → Z80Run) : Prop :=
  ∀ cpu, (z80Step cpu).Ends fun cpu' => 1 ≤ (cpu'.cyc - cpu.cyc).toNat ∧
    (cpu'.cyc - cpu.cyc).toNat ≤ 2 ^ 16

namespace NgNeoAudio

variable {χ : Type} (chip : Ym2610Chip χ) (z80Step : Z80 → Z80Run) {audio : NgNeoAudio χ}

/-! ## One step -/

theorem refreshAdpcmA_credit (core : AudioCore) :
    (ngAudioRefreshLastAdpcmAEvent core).z80CycleCredit = core.z80CycleCredit := by
  unfold ngAudioRefreshLastAdpcmAEvent
  split <;> rfl

theorem refreshAdpcmB_credit (core : AudioCore) :
    (ngAudioRefreshLastAdpcmBEvent core).z80CycleCredit = core.z80CycleCredit := by
  unfold ngAudioRefreshLastAdpcmBEvent
  split <;> rfl

theorem trackYmDataWrite_credit (core : AudioCore) (port address data : BitVec 8) :
    (ngAudioTrackYmDataWrite core port address data).z80CycleCredit = core.z80CycleCredit := by
  unfold ngAudioTrackYmDataWrite
  split
  · unfold trackAdpcmA
    rw [refreshAdpcmA_credit]
    split <;> rfl
  · split
    · unfold trackAdpcmB
      rw [refreshAdpcmB_credit]
      split <;> rfl
    · rfl

theorem ymWrite_credit (port data : BitVec 8) :
    (audio.ngAudioYmWrite chip port data).z80CycleCredit = audio.z80CycleCredit := by
  unfold ngAudioYmWrite
  dsimp only
  split
  · rfl
  · exact trackYmDataWrite_credit _ _ _ _

theorem ymRead_credit (port : BitVec 8) :
    (audio.ngAudioYmRead chip port).2.z80CycleCredit = audio.z80CycleCredit := by
  unfold ngAudioYmRead
  dsimp only
  split <;> rfl

theorem portRead_credit (portAddr : BitVec 16) :
    (audio.ngAudioPortRead chip portAddr).2.z80CycleCredit = audio.z80CycleCredit := by
  unfold ngAudioPortRead
  dsimp only
  split <;> first | rfl | exact ymRead_credit chip _

theorem portWrite_credit (portAddr : BitVec 16) (value : BitVec 8) :
    (audio.ngAudioPortWrite chip portAddr value).z80CycleCredit = audio.z80CycleCredit := by
  unfold ngAudioPortWrite
  split <;> try rfl
  split <;> first | rfl | exact ymWrite_credit chip _ _

theorem debugWrite_credit (addr : BitVec 16) (value : BitVec 8) :
    (audio.ngAudioDebugWriteZ80 addr value).z80CycleCredit = audio.z80CycleCredit := by
  unfold ngAudioDebugWriteZ80
  split <;> rfl

/-- The callbacks of a step leave the credit alone. -/
theorem runZ80_credit (run : Z80Run) (audio : NgNeoAudio χ) :
    (audio.runZ80 chip run).z80CycleCredit = audio.z80CycleCredit := by
  induction run generalizing audio with
  | done cpu => rfl
  | readByte cpu addr next ih => exact ih _ _
  | writeByte cpu addr value next ih => exact (ih _).trans (debugWrite_credit _ _)
  | portIn cpu addr next ih => exact (ih _ _).trans (portRead_credit chip _)
  | portOut cpu addr value next ih => exact (ih _).trans (portWrite_credit chip _ _)

theorem runZ80_ends {p : Z80 → Prop} (run : Z80Run) (h : run.Ends p) (audio : NgNeoAudio χ) :
    p (audio.runZ80 chip run).cpu := by
  induction run generalizing audio with
  | done cpu => exact h
  | readByte cpu addr next ih => exact ih _ (h _) _
  | writeByte cpu addr value next ih => exact ih h _
  | portIn cpu addr next ih => exact ih _ (h _) _
  | portOut cpu addr value next ih => exact ih h _

theorem raiseNmi_frame :
    audio.raiseNmi.cpu.cyc = audio.cpu.cyc ∧
      audio.raiseNmi.z80CycleCredit = audio.z80CycleCredit := by
  unfold raiseNmi
  split <;> exact ⟨rfl, rfl⟩

theorem followIrq_frame :
    audio.followIrq.cpu.cyc = audio.cpu.cyc ∧
      audio.followIrq.z80CycleCredit = audio.z80CycleCredit := by
  unfold followIrq
  split
  · split <;> exact ⟨rfl, rfl⟩
  · exact ⟨rfl, rfl⟩

/-- The cycles that `ng_audio_step_z80` takes. -/
def stepCost (audio : NgNeoAudio χ) : Nat :=
  ((audio.ngAudioStepZ80 chip z80Step).cpu.cyc - audio.cpu.cyc).toNat

theorem stepZ80_credit :
    (audio.ngAudioStepZ80 chip z80Step).z80CycleCredit = audio.z80CycleCredit := by
  have hrun := runZ80_credit chip (z80Step audio.raiseNmi.followIrq.cpu)
    audio.raiseNmi.followIrq
  rw [followIrq_frame.2, raiseNmi_frame.2] at hrun
  unfold ngAudioStepZ80
  dsimp only
  split <;> exact hrun

theorem stepZ80_cpu :
    (audio.ngAudioStepZ80 chip z80Step).cpu =
      (audio.raiseNmi.followIrq.runZ80 chip (z80Step audio.raiseNmi.followIrq.cpu)).cpu := by
  unfold ngAudioStepZ80
  dsimp only
  split <;> rfl

theorem stepCost_bounds (h : StepCycles z80Step) (audio : NgNeoAudio χ) :
    1 ≤ audio.stepCost chip z80Step ∧ audio.stepCost chip z80Step ≤ 2 ^ 16 := by
  have hends := runZ80_ends chip _ (h audio.raiseNmi.followIrq.cpu)
    audio.raiseNmi.followIrq
  rw [followIrq_frame.1, raiseNmi_frame.1] at hends
  unfold stepCost
  rw [stepZ80_cpu]
  exact hends

/-! ## The budget -/

/-- The audio object with its credit taken out. -/
def account (audio : NgNeoAudio χ) : NgNeoAudio χ × Nat :=
  ({ audio with z80CycleCredit := 0 }, audio.z80CycleCredit.toNat)

/-- A budget for the Z80. -/
def spend (n : Nat) (s : NgNeoAudio χ × Nat) : NgNeoAudio χ × Nat :=
  Credit.advance (·.ngAudioStepZ80 chip z80Step) (·.stepCost chip z80Step) n s

/-- The states in which it takes its steps. -/
def spendSteps (n : Nat) (s : NgNeoAudio χ × Nat) : List (NgNeoAudio χ) :=
  Credit.steps (·.ngAudioStepZ80 chip z80Step) (·.stepCost chip z80Step) n s

/-- The steps of the loop of `ng_neogeo_audio_advance_z80_cycles`. -/
def turnSteps (start : BitVec 64) (cycles : BitVec 32) : Nat → NgNeoAudio χ → List (NgNeoAudio χ)
  | 0, _ => []
  | turns + 1, audio =>
    if (audio.cpu.cyc - start).setWidth 32 < cycles then
      audio :: turnSteps start cycles turns (audio.ngAudioStepZ80 chip z80Step)
    else []

/-- The steps of its part behind the credit. -/
def beyondCreditSteps (audio : NgNeoAudio χ) (cycles : BitVec 32) : List (NgNeoAudio χ) :=
  turnSteps chip z80Step audio.cpu.cyc cycles (cycles * 2 + 1024).toNat audio

/-- The steps of `ng_neogeo_audio_advance_z80_cycles`. -/
def callSteps (audio : NgNeoAudio χ) (cycles : BitVec 32) : List (NgNeoAudio χ) :=
  if cycles = 0 then []
  else if audio.z80CycleCredit ≠ 0 then
    if cycles ≤ audio.z80CycleCredit then []
    else
      beyondCreditSteps chip z80Step { audio with z80CycleCredit := 0 }
        (cycles - audio.z80CycleCredit)
  else beyondCreditSteps chip z80Step audio cycles

theorem account_injective : Function.Injective (account (χ := χ)) := by
  intro a b h
  have hstate := congrArg Prod.fst h
  have hcredit : a.z80CycleCredit = b.z80CycleCredit :=
    BitVec.eq_of_toNat_eq (congrArg Prod.snd h)
  have ha : a = { { a with z80CycleCredit := 0 } with z80CycleCredit := a.z80CycleCredit } := rfl
  rw [ha, hcredit]
  unfold account at hstate
  dsimp only at hstate
  rw [hstate]

theorem account_of_zero (h : audio.z80CycleCredit = 0) : audio.account = (audio, 0) := by
  unfold account
  rw [h, ← h]
  exact congrArg (Prod.mk audio) (congrArg BitVec.toNat h)

/-- The part of a call behind its loop. -/
def settle (start : BitVec 64) (cycles : BitVec 32) (audio : NgNeoAudio χ) : NgNeoAudio χ :=
  let advanced := (audio.cpu.cyc - start).setWidth 32
  if cycles < advanced then { audio with z80CycleCredit := advanced - cycles } else audio

/-- The cycles since the start of a loop, one step on. -/
theorem toNat_since_step {start : BitVec 64} {since : Nat}
    (h : (audio.cpu.cyc - start).toNat = since)
    (hlt : since + audio.stepCost chip z80Step < 2 ^ 64) :
    ((audio.ngAudioStepZ80 chip z80Step).cpu.cyc - start).toNat =
      since + audio.stepCost chip z80Step := by
  have hsum : (audio.ngAudioStepZ80 chip z80Step).cpu.cyc - start =
      ((audio.ngAudioStepZ80 chip z80Step).cpu.cyc - audio.cpu.cyc) + (audio.cpu.cyc - start) :=
    (sub_add_sub_cancel ..).symm
  unfold stepCost at *
  rw [hsum, BitVec.toNat_add, h, Nat.add_comm]
  exact Nat.mod_eq_of_lt hlt

/-- A loop that has its cycles stops. -/
theorem turns_done {start : BitVec 64} {cycles : BitVec 32}
    (h : cycles ≤ (audio.cpu.cyc - start).setWidth 32) (turns : Nat) :
    audio.advanceTurns chip z80Step start cycles turns = audio ∧
      turnSteps chip z80Step start cycles turns audio = [] := by
  cases turns with
  | zero => exact ⟨rfl, rfl⟩
  | succ turns =>
    have hstop : ¬ (audio.cpu.cyc - start).setWidth 32 < cycles := BitVec.not_lt.mpr h
    exact ⟨if_neg hstop, if_neg hstop⟩

/-- What is beyond the cycles becomes the credit. -/
theorem settle_account {start : BitVec 64} {cycles : BitVec 32} {since : Nat}
    (hcredit : audio.z80CycleCredit = 0) (hsince : (audio.cpu.cyc - start).toNat = since)
    (hlt : since < 2 ^ 32) :
    (settle start cycles audio).account = (audio, since - cycles.toNat) := by
  have hadvanced : ((audio.cpu.cyc - start).setWidth 32).toNat = since := by
    rw [BitVec.toNat_setWidth, hsince]
    exact Nat.mod_eq_of_lt hlt
  unfold settle
  dsimp only
  split
  · next hbeyond =>
    have hover : ((audio.cpu.cyc - start).setWidth 32 - cycles).toNat = since - cycles.toNat := by
      rw [BitVec.toNat_sub_of_le (BitVec.le_of_lt hbeyond), hadvanced]
    show ({ audio with z80CycleCredit := 0 }, _) = _
    rw [hover]
    congr 1
    rw [← hcredit]
  · next hwithin =>
    rw [BitVec.not_lt, BitVec.le_def, hadvanced] at hwithin
    have hexact : since - cycles.toNat = 0 := Nat.sub_eq_zero_of_le hwithin
    rw [account_of_zero hcredit, hexact]

/-- The loop spends what is left of its cycles, whatever number of turns it may take at most: only
the budget ends it. -/
theorem turns_spend (hz : StepCycles z80Step) {start : BitVec 64} {cycles : BitVec 32}
    (hcycles : cycles.toNat < 2 ^ 31) (turns : Nat) (audio : NgNeoAudio χ) {since : Nat}
    (hcredit : audio.z80CycleCredit = 0) (hsince : (audio.cpu.cyc - start).toNat = since)
    (hlt : since < cycles.toNat) (hturns : cycles.toNat - since ≤ turns) :
    (settle start cycles (audio.advanceTurns chip z80Step start cycles turns)).account =
        spend chip z80Step (cycles.toNat - since) (audio, 0) ∧
      turnSteps chip z80Step start cycles turns audio =
        spendSteps chip z80Step (cycles.toNat - since) (audio, 0) ∧
      cycles ≤ ((audio.advanceTurns chip z80Step start cycles turns).cpu.cyc - start).setWidth 32 := by
  induction turns generalizing audio since with
  | zero => omega
  | succ turns ih =>
    have hbounds := stepCost_bounds chip z80Step hz audio
    have hcost : audio.stepCost chip z80Step ≠ 0 := Nat.ne_zero_of_lt hbounds.1
    have hnext := toNat_since_step chip z80Step hsince (by omega)
    have hcredit' : (audio.ngAudioStepZ80 chip z80Step).z80CycleCredit = 0 :=
      (stepZ80_credit chip z80Step).trans hcredit
    have hgo : (audio.cpu.cyc - start).setWidth 32 < cycles := by
      rw [BitVec.lt_def, BitVec.toNat_setWidth, hsince, Nat.mod_eq_of_lt (by omega)]
      exact hlt
    rw [advanceTurns, if_pos hgo, turnSteps, if_pos hgo]
    by_cases hmore : since + audio.stepCost chip z80Step < cycles.toNat
    · obtain ⟨hstate, hsteps, hend⟩ := ih (audio.ngAudioStepZ80 chip z80Step) hcredit' hnext hmore
        (by omega)
      have hleft : cycles.toNat - since - audio.stepCost chip z80Step =
          cycles.toNat - (since + audio.stepCost chip z80Step) := by omega
      refine ⟨?_, ?_, hend⟩
      · rw [hstate, spend, spend, Credit.advance_past hcost (by omega), hleft]
      · rw [hsteps, spendSteps, spendSteps, Credit.steps_past hcost (by omega), hleft]
    · have hstop : cycles ≤
          ((audio.ngAudioStepZ80 chip z80Step).cpu.cyc - start).setWidth 32 := by
        rw [BitVec.le_def, BitVec.toNat_setWidth, hnext, Nat.mod_eq_of_lt (by omega)]
        exact Nat.le_of_not_lt hmore
      obtain ⟨hdone, hnone⟩ := turns_done chip z80Step hstop turns
      have hover : since + audio.stepCost chip z80Step - cycles.toNat =
          audio.stepCost chip z80Step - (cycles.toNat - since) := by omega
      rw [hdone, hnone]
      refine ⟨?_, ?_, hstop⟩
      · rw [settle_account hcredit' hnext (by omega), spend,
          Credit.advance_step (by omega) (by omega), hover]
      · rw [spendSteps, Credit.steps_step (by omega) (by omega)]

/-! ## Calls -/

theorem toNat_maxInstructions {cycles : BitVec 32} (h : cycles.toNat < 2 ^ 31 - 512) :
    (cycles * 2 + 1024).toNat = cycles.toNat * 2 + 1024 := by
  have htwo : (cycles * 2).toNat = cycles.toNat * 2 := by
    rw [BitVec.toNat_mul]
    exact Nat.mod_eq_of_lt (show cycles.toNat * 2 < 2 ^ 32 by omega)
  rw [BitVec.toNat_add, htwo]
  exact Nat.mod_eq_of_lt (show cycles.toNat * 2 + 1024 < 2 ^ 32 by omega)

/-- The loop behind the credit has its cycles when it ends. -/
def LoopEnds (audio : NgNeoAudio χ) (cycles : BitVec 32) : Prop :=
  cycles ≤ ((audio.advanceTurns chip z80Step audio.cpu.cyc cycles
    (cycles * 2 + 1024).toNat).cpu.cyc - audio.cpu.cyc).setWidth 32

/-- The guard on the number of instructions does not end a call: it has no loop to run, or the
loop gets its cycles. -/
def CallEnds (audio : NgNeoAudio χ) (cycles : BitVec 32) : Prop :=
  if cycles = 0 then True
  else if audio.z80CycleCredit ≠ 0 then
    if cycles ≤ audio.z80CycleCredit then True
    else LoopEnds chip z80Step { audio with z80CycleCredit := 0 } (cycles - audio.z80CycleCredit)
  else LoopEnds chip z80Step audio cycles

theorem beyondCredit_spend (hz : StepCycles z80Step) {cycles : BitVec 32}
    (hcycles : cycles.toNat < 2 ^ 31 - 512) (hpos : 0 < cycles.toNat)
    (hcredit : audio.z80CycleCredit = 0) :
    (audio.advanceBeyondCredit chip z80Step cycles).account =
        spend chip z80Step cycles.toNat (audio, 0) ∧
      beyondCreditSteps chip z80Step audio cycles =
        spendSteps chip z80Step cycles.toNat (audio, 0) ∧
      LoopEnds chip z80Step audio cycles := by
  have hmax := toNat_maxInstructions hcycles
  have hzero : (audio.cpu.cyc - audio.cpu.cyc).toNat = 0 := by
    rw [BitVec.sub_self]
    rfl
  exact turns_spend chip z80Step hz (by omega) _ audio hcredit hzero hpos (by omega)

/-- A call spends its cycles. -/
theorem call_spend (hz : StepCycles z80Step) (audio : NgNeoAudio χ) {cycles : BitVec 32}
    (hcycles : cycles.toNat < 2 ^ 31 - 512) :
    (audio.ngNeogeoAudioAdvanceZ80Cycles chip z80Step cycles).account =
        spend chip z80Step cycles.toNat audio.account ∧
      callSteps chip z80Step audio cycles = spendSteps chip z80Step cycles.toNat audio.account ∧
      CallEnds chip z80Step audio cycles := by
  unfold ngNeogeoAudioAdvanceZ80Cycles callSteps CallEnds
  by_cases hzero : cycles = 0
  · rw [if_pos hzero, if_pos hzero, if_pos hzero, hzero]
    exact ⟨rfl, rfl, trivial⟩
  · have hpos : 0 < cycles.toNat := Nat.pos_of_ne_zero fun hz => hzero (BitVec.eq_of_toNat_eq hz)
    rw [if_neg hzero, if_neg hzero, if_neg hzero]
    by_cases hcredit : audio.z80CycleCredit = 0
    · have hnot : ¬ audio.z80CycleCredit ≠ 0 := not_not.mpr hcredit
      rw [if_neg hnot, if_neg hnot, if_neg hnot, account_of_zero hcredit]
      exact beyondCredit_spend chip z80Step hz hcycles hpos hcredit
    · have hacc : audio.account =
          ({ audio with z80CycleCredit := 0 }, audio.z80CycleCredit.toNat) := rfl
      rw [if_pos hcredit, if_pos hcredit, if_pos hcredit]
      by_cases hle : cycles ≤ audio.z80CycleCredit
      · have hnat : cycles.toNat ≤ audio.z80CycleCredit.toNat := hle
        rw [if_pos hle, if_pos hle, if_pos hle]
        refine ⟨?_, ?_, trivial⟩
        · rw [hacc, spend, Credit.advance_of_le hnat, ← BitVec.toNat_sub_of_le hle]
          rfl
        · rw [hacc, spendSteps, Credit.steps_of_le hnat]
      · have hge : audio.z80CycleCredit ≤ cycles := BitVec.le_of_lt (BitVec.not_le.mp hle)
        have hnat : audio.z80CycleCredit.toNat ≤ cycles.toNat := hge
        have hleft := BitVec.toNat_sub_of_le hge
        have hlt : audio.z80CycleCredit.toNat < cycles.toNat := BitVec.not_le.mp hle
        rw [if_neg hle, if_neg hle, if_neg hle, hacc, spend, spendSteps,
          Credit.advance_of_ge hnat, Credit.steps_of_ge hnat, ← hleft]
        exact beyondCredit_spend chip z80Step hz (by omega) (by omega) rfl

/-- Successive calls. -/
def advanceCalls (audio : NgNeoAudio χ) : List (BitVec 32) → NgNeoAudio χ
  | [] => audio
  | cycles :: calls =>
    (audio.ngNeogeoAudioAdvanceZ80Cycles chip z80Step cycles).advanceCalls calls

/-- Their steps. -/
def callsSteps (audio : NgNeoAudio χ) : List (BitVec 32) → List (NgNeoAudio χ)
  | [] => []
  | cycles :: calls =>
    callSteps chip z80Step audio cycles ++
      (audio.ngNeogeoAudioAdvanceZ80Cycles chip z80Step cycles).callsSteps calls

theorem calls_spend (hz : StepCycles z80Step) (calls : List (BitVec 32))
    (hsum : (calls.map (·.toNat)).sum < 2 ^ 31 - 512) (audio : NgNeoAudio χ) :
    (audio.advanceCalls chip z80Step calls).account =
        spend chip z80Step (calls.map (·.toNat)).sum audio.account ∧
      audio.callsSteps chip z80Step calls =
        spendSteps chip z80Step (calls.map (·.toNat)).sum audio.account := by
  induction calls generalizing audio with
  | nil => exact ⟨rfl, rfl⟩
  | cons cycles calls ih =>
    rw [List.map_cons, List.sum_cons] at hsum ⊢
    obtain ⟨hstate, hsteps, -⟩ := @call_spend χ chip z80Step hz audio cycles (by omega)
    obtain ⟨hrest, hrestSteps⟩ :=
      ih (by omega) (audio.ngNeogeoAudioAdvanceZ80Cycles chip z80Step cycles)
    constructor
    · rw [advanceCalls, hrest, hstate, spend, spend, spend, Credit.advance_add]
    · rw [callsSteps, hrestSteps, hsteps, hstate, spendSteps, spendSteps, spendSteps, spend,
        Credit.steps_add]

/-- The cycles that a call executes are those requested and the change of the credit. -/
theorem call_executed (hz : StepCycles z80Step) (audio : NgNeoAudio χ) {cycles : BitVec 32}
    (hcycles : cycles.toNat < 2 ^ 31 - 512) :
    ((audio.ngNeogeoAudioAdvanceZ80Cycles chip z80Step cycles).cpu.cyc - audio.cpu.cyc).toNat +
        audio.z80CycleCredit.toNat =
      cycles.toNat +
        (audio.ngNeogeoAudioAdvanceZ80Cycles chip z80Step cycles).z80CycleCredit.toNat := by
  obtain ⟨hstate, -, -⟩ := call_spend chip z80Step hz audio hcycles
  have hcost : ∀ a : NgNeoAudio χ, a.stepCost chip z80Step ≠ 0 :=
    fun a => Nat.ne_zero_of_lt (stepCost_bounds chip z80Step hz a).1
  have hclock : ∀ a : NgNeoAudio χ, (a.ngAudioStepZ80 chip z80Step).cpu.cyc =
      a.cpu.cyc + BitVec.ofNat 64 (a.stepCost chip z80Step) := by
    intro a
    unfold stepCost
    rw [BitVec.ofNat_toNat, BitVec.setWidth_eq, BitVec.add_comm, BitVec.sub_add_cancel]
  have hpaid := @Credit.cost_steps _ (·.ngAudioStepZ80 chip z80Step) _ hcost cycles.toNat
    audio.account
  have htime := @Credit.clock_advance _ (·.ngAudioStepZ80 chip z80Step) _ _ (·.cpu.cyc) hclock
    cycles.toNat audio.account
  unfold spend at hstate
  rw [← hstate] at hpaid htime
  have hlimit := (audio.ngNeogeoAudioAdvanceZ80Cycles chip z80Step cycles).z80CycleCredit.isLt
  unfold account at hpaid htime
  dsimp only at hpaid htime
  rw [htime, BitVec.add_comm, BitVec.add_sub_cancel, BitVec.toNat_ofNat,
    Nat.mod_eq_of_lt (by omega)]
  exact hpaid

/-- However its cycles are split into calls, the Z80 takes the same steps to the same state and the
same credit; it executes the cycles requested and the change of the credit, and the guard on the
number of instructions ends no call. -/
theorem z80_cycle_batches (chip : Ym2610Chip χ) {z80Step : Z80 → Z80Run} (hz : StepCycles z80Step)
    (audio : NgNeoAudio χ) (calls : List (BitVec 32))
    (hsum : (calls.map (·.toNat)).sum < 2 ^ 31 - 512) :
    let total := BitVec.ofNat 32 (calls.map (·.toNat)).sum
    let after := audio.ngNeogeoAudioAdvanceZ80Cycles chip z80Step total
    audio.advanceCalls chip z80Step calls = after ∧
    audio.callsSteps chip z80Step calls = callSteps chip z80Step audio total ∧
    (after.cpu.cyc - audio.cpu.cyc).toNat + audio.z80CycleCredit.toNat =
      total.toNat + after.z80CycleCredit.toNat ∧
    ∀ (between : NgNeoAudio χ) (cycles : BitVec 32), cycles.toNat < 2 ^ 31 - 512 →
      CallEnds chip z80Step between cycles := by
  intro total after
  have htotal : total.toNat = (calls.map (·.toNat)).sum := by
    rw [BitVec.toNat_ofNat]
    exact Nat.mod_eq_of_lt (by omega)
  obtain ⟨hstate, hsteps⟩ := calls_spend chip z80Step hz calls hsum audio
  obtain ⟨hone, honeSteps, -⟩ :=
    @call_spend χ chip z80Step hz audio total (by omega)
  rw [← htotal] at hstate hsteps
  refine ⟨account_injective (hstate.trans hone.symm), hsteps.trans honeSteps.symm, ?_, ?_⟩
  · exact call_executed chip z80Step hz audio (by omega)
  · exact fun between cycles hcycles => (call_spend chip z80Step hz between hcycles).2.2

/-- The Z80 on a NOP: an opcode fetch of four cycles. -/
def nopStep (cpu : Z80) : Z80Run :=
  .readByte cpu cpu.pc fun _ =>
    .done { cpu with cyc := cpu.cyc + 4, pc := cpu.pc + 1, r := (cpu.r + 1) &&& 0x7F }

theorem nopStep_cycles : StepCycles nopStep := by
  intro cpu opcode
  have hfour : cpu.cyc + 4 - cpu.cyc = 4 := by
    rw [BitVec.add_comm, BitVec.add_sub_cancel]
  show 1 ≤ (cpu.cyc + 4 - cpu.cyc).toNat ∧ (cpu.cyc + 4 - cpu.cyc).toNat ≤ 2 ^ 16
  rw [hfour]
  decide

/-- The audio object with a program ROM of NOPs. -/
def nopAudio : NgNeoAudio (BitVec 8) :=
  { latchAudio with mRom := some (Array.replicate 16 0), mRomSize := 16 }

theorem z80_cycle_batches_nops :
    nopAudio.advanceCalls latchChip nopStep [3, 2, 6] =
      nopAudio.ngNeogeoAudioAdvanceZ80Cycles latchChip nopStep 11 :=
  (z80_cycle_batches latchChip nopStep_cycles nopAudio [3, 2, 6] (by decide)).1

end NgNeoAudio
end NeoRecomp
