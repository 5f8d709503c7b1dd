import NeoRecomp.Correct.DispatchStats

/-!
# The trampoline under a budget

Calls from inside a dispatch do not nest: the trampoline follows the last one after the dispatch has
returned.  With a budget it always ends, however the two programs call each other.
-/

namespace NeoRecomp

open SmokeDispatcher

variable {W : Type} (P : CombinedPrograms W)

/-! ## The chain of last calls -/

/-- The program of an address, with the mirrors of the BIOS. -/
def CombinedPrograms.step (addr : BitVec 32) (w : W) : List (BitVec 32) × W :=
  if isBios addr then
    P.ngBiosGeneratedCall (0x00C00000 + ((addr - 0x00C00000) % ngNeoSystemRomBytes)) w
  else P.ngCartGeneratedCall addr w

/-- At most so many programs, each at the last address the one before has called: the addresses,
the one that is left over, and the machine. -/
def CombinedPrograms.follow :
    Nat → Option (BitVec 32) → W → List (BitVec 32) × Option (BitVec 32) × W
  | 0, next, w => ([], next, w)
  | _ + 1, none, w => ([], none, w)
  | room + 1, some addr, w =>
    let r := P.step addr w
    let rest := CombinedPrograms.follow room (r.1.getLast?.map (· &&& 0x00FFFFFF)) r.2
    (addr :: rest.1, rest.2)

theorem CombinedPrograms.follow_length (room : Nat) (next : Option (BitVec 32)) (w : W) :
    (P.follow room next w).1.length ≤ room := by
  induction room generalizing next w with
  | zero => exact Nat.le_refl 0
  | succ room ih =>
    cases next with
    | none => exact Nat.zero_le _
    | some addr => exact Nat.succ_le_succ (ih _ _)

namespace SmokeDispatcher

/-- The pending address. -/
def pendingAddr (d : SmokeDispatcher) : Option (BitVec 32) :=
  if d.dispatchPending then some d.dispatchAddr else none

theorem pendingAddr_nested (addrs : List (BitVec 32)) (d : SmokeDispatcher) :
    (addrs.foldl (fun d a => d.nestedCall a) d).pendingAddr =
      (addrs.getLast?.map (· &&& 0x00FFFFFF)).or d.pendingAddr := by
  induction addrs generalizing d with
  | nil => rfl
  | cons a addrs ih =>
    rw [List.foldl_cons, ih]
    cases addrs with
    | nil => rfl
    | cons b rest =>
      rw [List.getLast?_cons_cons, List.getLast?_cons]
      rfl

/-- What calls from inside a dispatch leave alone. -/
theorem nested_rest (addrs : List (BitVec 32)) (d : SmokeDispatcher) :
    ∃ dispatchAddr dispatchPending, addrs.foldl (fun d a => d.nestedCall a) d =
      { d with dispatchAddr, dispatchPending } := by
  induction addrs generalizing d with
  | nil => exact ⟨_, _, rfl⟩
  | cons a addrs ih =>
    obtain ⟨addr, pending, h⟩ := ih (d.nestedCall a)
    exact ⟨addr, pending, h⟩

variable {P} in
/-- One dispatch: the program of the address runs, and its last call is pending afterwards. -/
theorem dispatchOne_step {next : BitVec 32} (hnext : next &&& 0x00FFFFFF = next)
    (d : SmokeDispatcher) (w : W) (hidle : d.dispatchPending = false) :
    ∃ d', ngGeneratedSmokeDispatchOne P next (d.count next) w = (d', (P.step next w).2) ∧
      d'.pendingAddr = (P.step next w).1.getLast?.map (· &&& 0x00FFFFFF) ∧
      d'.dispatchCount = d.dispatchCount + 1 ∧ d'.dispatchBudget = d.dispatchBudget ∧
      d'.budgetHit = d.budgetHit ∧ d'.dispatchActive = d.dispatchActive := by
  obtain ⟨hotAddr, hotCount, unique, overflow, hcount⟩ := count_rest hnext d
  rw [hcount]
  unfold ngGeneratedSmokeDispatchOne CombinedPrograms.step
  rw [hnext]
  have hpending (addrs : List (BitVec 32)) (d₁ : SmokeDispatcher)
      (h₁ : d₁.dispatchPending = false) :
      (addrs.foldl (fun d a => d.nestedCall a) d₁).pendingAddr =
        addrs.getLast?.map (· &&& 0x00FFFFFF) := by
    rw [pendingAddr_nested, pendingAddr, h₁]
    exact Option.or_none
  by_cases hb : isBios next = true
  · simp only [hb, if_true]
    refine ⟨_, rfl, hpending _ _ hidle, ?_⟩
    obtain ⟨addr, pending, h⟩ := nested_rest
      (P.ngBiosGeneratedCall (0x00C00000 + ((next - 0x00C00000) % ngNeoSystemRomBytes)) w).1 _
    rw [h]
    exact ⟨rfl, rfl, rfl, rfl⟩
  · simp only [hb, Bool.false_eq_true, if_false]
    refine ⟨_, rfl, hpending _ _ hidle, ?_⟩
    obtain ⟨addr, pending, h⟩ := nested_rest (P.ngCartGeneratedCall next w).1 _
    rw [h]
    exact ⟨rfl, rfl, rfl, rfl⟩

/-- What the loop does with the chain `run` of last calls. -/
structure Follows (d d' : SmokeDispatcher)
    (run : List (BitVec 32) × Option (BitVec 32) × W) : Prop where
  hit : d'.budgetHit = (run.2.1.isSome || d.budgetHit)
  stop : ∀ a, run.2.1 = some a → d'.budgetStopAddr = a

theorem dispatchLoop_idle {d : SmokeDispatcher} (h : d.dispatchPending = false) (turns : Nat)
    (w : W) : dispatchLoop P (turns + 1) d w = some ([], d, w) := by
  rw [dispatchLoop, if_pos h]

theorem dispatchLoop_stop {d : SmokeDispatcher} (h : d.dispatchPending = true)
    (hs : BudgetStop d) (turns : Nat) (w : W) :
    ∃ d', dispatchLoop P (turns + 1) d w =
        some ([], d', P.setPc (d.dispatchAddr &&& 0x00FFFFFF) w) ∧
      d'.budgetHit = true ∧ d'.budgetStopAddr = d.dispatchAddr &&& 0x00FFFFFF := by
  rw [dispatchLoop, if_neg (by simp [h])]
  dsimp only
  rw [if_pos (show d.dispatchBudget ≠ 0 ∧ _ from hs)]
  exact ⟨_, rfl, rfl, rfl⟩

theorem dispatchLoop_go {d : SmokeDispatcher} (h : d.dispatchPending = true)
    (hs : ¬ BudgetStop d) (turns : Nat) (w : W) :
    let r := ngGeneratedSmokeDispatchOne P d.dispatchAddr
      (SmokeDispatcher.count d.dispatchAddr { d with dispatchPending := false }) w
    dispatchLoop P (turns + 1) d w =
      (dispatchLoop P turns r.1 r.2).map fun out => (d.dispatchAddr :: out.1, out.2) := by
  dsimp only
  rw [dispatchLoop, if_neg (by simp [h])]
  dsimp only
  rw [if_neg (show ¬ (d.dispatchBudget ≠ 0 ∧ _) from hs)]

theorem dispatchLoop_follow {room : Nat} {d : SmokeDispatcher} (hd : SlotMasked d)
    (hb : d.dispatchBudget ≠ 0) (hroom : room = d.dispatchBudget.toNat - d.dispatchCount.toNat)
    (w : W) {turns : Nat} (ht : room < turns) :
    ∃ d', dispatchLoop P turns d w = some ((P.follow room d.pendingAddr w).1, d',
        (P.follow room d.pendingAddr w).2.1.elim (P.follow room d.pendingAddr w).2.2
          fun a => P.setPc a (P.follow room d.pendingAddr w).2.2) ∧
      Follows d d' (P.follow room d.pendingAddr w) := by
  obtain ⟨turns, rfl⟩ : ∃ t, turns = t + 1 := ⟨turns - 1, by omega⟩
  induction room generalizing d w turns with
  | zero =>
    cases hp : d.dispatchPending with
    | false =>
      rw [pendingAddr, hp, dispatchLoop_idle P hp]
      exact ⟨d, rfl, rfl, fun _ h => by cases h⟩
    | true =>
      have hstop : BudgetStop d := ⟨hb, by rw [BitVec.le_def]; omega⟩
      obtain ⟨d', hloop, hhit, haddr⟩ := dispatchLoop_stop P hp hstop turns w
      rw [hd] at hloop haddr
      rw [pendingAddr, hp, hloop]
      refine ⟨d', rfl, hhit, fun a h => ?_⟩
      cases h
      exact haddr
  | succ room ih =>
    cases hp : d.dispatchPending with
    | false =>
      rw [pendingAddr, hp, dispatchLoop_idle P hp]
      exact ⟨d, rfl, rfl, fun _ h => by cases h⟩
    | true =>
      have hgo : ¬ BudgetStop d := fun hs => by
        have := BitVec.le_def.mp hs.2
        omega
      obtain ⟨d₁, hone, hpend, hcount, hbudget, hhit, -⟩ :=
        dispatchOne_step (P := P) hd { d with dispatchPending := false } w rfl
      have hmasked : SlotMasked d₁ := by
        have := slotMasked_dispatchOne (P := P) (d := { d with dispatchPending := false }) hd w hd
        rwa [hone] at this
      have hcount' : d₁.dispatchCount.toNat = d.dispatchCount.toNat + 1 := by
        have hlt : d.dispatchCount.toNat + 1 < 2 ^ 64 := by
          have := d.dispatchBudget.isLt
          omega
        rw [hcount]
        exact toNat_add_one hlt
      have hroom' : room = d₁.dispatchBudget.toNat - d₁.dispatchCount.toNat := by
        rw [hcount', hbudget]
        show room = d.dispatchBudget.toNat - (d.dispatchCount.toNat + 1)
        omega
      obtain ⟨d', hloop, hfollows⟩ := ih (d := d₁) hmasked (hbudget ▸ hb) hroom'
        (P.step d.dispatchAddr w).2 (turns - 1) (by omega)
      have hturns : turns - 1 + 1 = turns := by omega
      rw [hturns] at hloop
      have hstep := dispatchLoop_go P hp hgo turns w
      dsimp only at hstep
      rw [hone, hloop, hpend] at hstep
      rw [hpend] at hfollows
      rw [pendingAddr, hp]
      refine ⟨d', hstep, ?_, hfollows.stop⟩
      rw [hfollows.hit, hhit]
      rfl

/-- Under a budget a call from outside ends for all programs: it runs the chain of last calls from
its address for as many dispatches as are left, and a chain that is not over then leaves its next
address in the program counter. -/
theorem budgeted_call {d : SmokeDispatcher} (hactive : d.dispatchActive = false)
    (hb : d.dispatchBudget ≠ 0) (addr : BitVec 32) (w : W) (turns : Nat)
    (ht : d.dispatchBudget.toNat - d.dispatchCount.toNat < turns) :
    let room := d.dispatchBudget.toNat - d.dispatchCount.toNat
    let run := P.follow room (some (addr &&& 0x00FFFFFF)) w
    ∃ d', ngGeneratedCall P turns addr d w =
        some (run.1, d', run.2.1.elim run.2.2 fun a => P.setPc a run.2.2) ∧
      run.1.length ≤ room ∧ d'.dispatchActive = false ∧
      d'.budgetHit = (run.2.1.isSome || d.budgetHit) ∧
      ∀ a, run.2.1 = some a → d'.budgetStopAddr = a := by
  intro room run
  have hmasked : SlotMasked { d.nestedCall addr with dispatchActive := true } := by
    simp [SlotMasked, nestedCall, BitVec.and_assoc]
  obtain ⟨d', hloop, hfollows⟩ := dispatchLoop_follow P
    (d := { d.nestedCall addr with dispatchActive := true }) hmasked hb rfl w ht
  refine ⟨{ d' with dispatchActive := false }, ?_, P.follow_length _ _ _, rfl, hfollows.hit,
    hfollows.stop⟩
  unfold ngGeneratedCall
  rw [hactive]
  simp only [Bool.false_eq_true, if_false]
  rw [hloop]
  rfl

end SmokeDispatcher

/-- Two programs that call each other without end. -/
def pingPong : CombinedPrograms (BitVec 32) where
  ngCartGeneratedCall _ pc := ([0x00C00000], pc)
  ngBiosGeneratedCall _ pc := ([0x00000122], pc)
  setPc pc _ := pc

theorem budgeted_call_pingPong :
    let d : SmokeDispatcher := { dispatchBudget := 3 }
    ∃ d', ngGeneratedCall pingPong 4 0x00000122 d 0 =
        some ([0x00000122, 0x00C00000, 0x00000122], d', 0x00C00000) ∧
      d'.budgetHit = true := by
  intro d
  obtain ⟨d', hcall, -, -, hhit, -⟩ :=
    SmokeDispatcher.budgeted_call pingPong (d := d) rfl (by decide) 0x00000122 0 4 (by decide)
  exact ⟨d', hcall, hhit⟩

end NeoRecomp
