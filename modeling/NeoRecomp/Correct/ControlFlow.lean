import NeoRecomp.Correct.Labels
import NeoRecomp.Correct.Outcomes
import NeoRecomp.Correct.Resume

/-!
# Control flow of a function body

An undisturbed run of a printed body executes the instructions of the ROM in their order.  The body
stops short of that in two places: a decode failure leaves nothing of the instructions in front of
it, and behind the last instruction of a full first pass the labels of branches out of the body are
printed before the miss that belongs there.
-/

namespace NeoRecomp

open Gen

/-! ## The first pass and the straight line -/

section Passes
variable {rom : NgProgramRom}

/-- What the first pass collects in front of a decode failure stands in a straight line. -/
theorem ScannedFrom.straight_of_failed {fuel : Nat} {pc last : BitVec 32}
    {instrs : List NgM68kInstr} (h : ScannedFrom rom fuel pc instrs last true) :
    StraightLine rom pc instrs last ∧ instrs.length < fuel ∧ (ngM68kDecode rom last).1 = false := by
  generalize hf : true = failed at h
  induction h with
  | limit pc => cases hf
  | @fail fuel pc instr hd => exact ⟨.nil pc, Nat.succ_pos fuel, by rw [hd]⟩
  | stop hd hs => cases hf
  | next hd hs hrest ih =>
    obtain ⟨hline, hlen, hfail⟩ := ih hf
    exact ⟨.cons hd hs hline, Nat.succ_lt_succ hlen, hfail⟩

theorem StraightLine.goes_on {pc last : BitVec 32} {instrs : List NgM68kInstr}
    (h : StraightLine rom pc instrs last) : ∀ i ∈ instrs, stopsFirstPass i = false := by
  induction h with
  | nil pc => exact fun i hi => absurd hi List.not_mem_nil
  | cons hd hs hrest ih =>
    intro i hi
    rcases List.mem_cons.mp hi with rfl | hi
    · exact hs
    · exact ih i hi

theorem StraightLine.last_eq {pc last : BitVec 32} {line : List NgM68kInstr} {instr : NgM68kInstr}
    (h : StraightLine rom pc (line ++ [instr]) last) :
    last = instr.addr + instr.byteLength.setWidth 32 := by
  induction line generalizing pc with
  | nil =>
    cases h with
    | cons hd hs hrest =>
      cases hrest
      rw [ngM68kDecode_addr hd]
  | cons first line ih =>
    cases h with
    | cons hd hs hrest => exact ih hrest

/-- A straight line ends behind its start. -/
theorem StraightLine.offset {pc last : BitVec 32} {instrs : List NgM68kInstr}
    (h : StraightLine rom pc instrs last) :
    ∃ k, last = pc + BitVec.ofNat 32 k ∧ 2 * instrs.length ≤ k ∧ k ≤ 10 * instrs.length := by
  induction h with
  | nil pc => exact ⟨0, by simp, Nat.le_refl _, Nat.le_refl _⟩
  | @cons pc instr rest last hd hs hrest ih =>
    obtain ⟨k, hk, hlo, hhi⟩ := ih
    have hlen : 2 ≤ instr.byteLength.toNat ∧ instr.byteLength.toNat ≤ 10 := by
      rcases ngM68kDecode_length hd with hl | hl | hl | hl | hl <;> rw [hl] <;> decide
    rw [List.length_cons]
    refine ⟨instr.byteLength.toNat + k, ?_, by omega, by omega⟩
    rw [hk, BitVec.add_assoc, BitVec.ofNat_add, BitVec.ofNat_toNat]

/-- A straight line is where the first pass begins. -/
theorem ScannedFrom.behind {fuel : Nat} {pc last : BitVec 32} {instrs : List NgM68kInstr}
    {failed : Bool} (h : ScannedFrom rom fuel pc instrs last failed) {line : List NgM68kInstr}
    {next : BitVec 32} (hline : StraightLine rom pc line next) (hlen : line.length ≤ fuel) :
    ∃ rest, instrs = line ++ rest ∧
      ScannedFrom rom (fuel - line.length) next rest last failed := by
  induction hline generalizing fuel instrs with
  | nil pc => exact ⟨instrs, rfl, h⟩
  | @cons pc instr line next hd hs hline ih =>
    cases h with
    | limit => exact absurd hlen (Nat.not_succ_le_zero _)
    | fail hd' =>
      rw [hd] at hd'
      cases hd'
    | stop hd' hs' =>
      rw [hd] at hd'
      cases hd'
      rw [hs] at hs'
      cases hs'
    | next hd' hs' hrest =>
      rw [hd] at hd'
      cases hd'
      obtain ⟨rest, rfl, hscan⟩ := ih hrest (Nat.le_of_succ_le_succ hlen)
      refine ⟨rest, rfl, ?_⟩
      rwa [List.length_cons, Nat.add_sub_add_right]

/-- A full straight line is all the first pass collects. -/
theorem bodyFirstPass_of_full {start last : BitVec 32} {line : List NgM68kInstr}
    (hline : StraightLine rom start line last) (hfull : line.length = ngEmitMaxInstructions) :
    (bodyFirstPass rom start).decodeFailed = false ∧ (bodyFirstPass rom start).instrs = line := by
  obtain ⟨rest, hinstrs, hrest⟩ := (bodyFirstPass_scanned rom start).behind hline (le_of_eq hfull)
  rw [hfull, Nat.sub_self] at hrest
  generalize (bodyFirstPass rom start).decodeFailed = failed at hrest
  generalize (bodyFirstPass rom start).pc = pc at hrest
  cases hrest
  exact ⟨rfl, by rw [hinstrs, List.append_nil]⟩

/-- Behind a shorter one the pass stops where nothing decodes. -/
theorem bodyFirstPass_of_failing {start pc : BitVec 32} {line : List NgM68kInstr}
    (hline : StraightLine rom start line pc) (hlen : line.length < ngEmitMaxInstructions)
    (hfail : (ngM68kDecode rom pc).1 = false) :
    (bodyFirstPass rom start).decodeFailed = true ∧ (bodyFirstPass rom start).pc = pc := by
  obtain ⟨rest, -, hrest⟩ := (bodyFirstPass_scanned rom start).behind hline hlen.le
  obtain ⟨fuel, hfuel⟩ := Nat.exists_eq_succ_of_ne_zero (Nat.sub_ne_zero_of_lt hlen)
  rw [hfuel] at hrest
  generalize (bodyFirstPass rom start).decodeFailed = failed at hrest
  generalize (bodyFirstPass rom start).pc = last at hrest
  cases hrest with
  | fail hd => exact ⟨rfl, rfl⟩
  | stop hd hs =>
    rw [hd] at hfail
    cases hfail
  | next hd hs hrest =>
    rw [hd] at hfail
    cases hfail

/-- Without a failure the pass has something to print. -/
theorem ScannedFrom.head {fuel : Nat} {pc last : BitVec 32} {instrs : List NgM68kInstr}
    (h : ScannedFrom rom (fuel + 1) pc instrs last false) :
    ∃ instr, instrs[0]? = some instr ∧ instr.addr = pc := by
  cases h with
  | stop hd hs => exact ⟨_, rfl, ngM68kDecode_addr hd⟩
  | next hd hs hrest => exact ⟨_, rfl, ngM68kDecode_addr hd⟩

/-- Behind an instruction that does not end the body stands the next one, unless the pass has made
all its turns. -/
theorem ScannedFrom.following {fuel : Nat} {pc last : BitVec 32} {instrs : List NgM68kInstr}
    (h : ScannedFrom rom fuel pc instrs last false) {i : Nat} {instr : NgM68kInstr}
    (hi : instrs[i]? = some instr) (hs : stopsFirstPass instr = false) :
    (∃ follower, instrs[i + 1]? = some follower ∧
      follower.addr = instr.addr + instr.byteLength.setWidth 32) ∨
    (i + 1 = instrs.length ∧ instrs.length = fuel ∧ StraightLine rom pc instrs last ∧
      last = instr.addr + instr.byteLength.setWidth 32) := by
  generalize hf : false = failed at h
  induction h generalizing i with
  | limit pc => cases hi
  | fail hd => cases hf
  | @stop fuel pc first hd hstop =>
    cases i with
    | zero => cases hi; rw [hs] at hstop; cases hstop
    | succ i => cases hi
  | @next fuel pc first rest last failed hd hgo hrest ih =>
    subst hf
    cases i with
    | succ i =>
      rcases ih hi rfl with hnext | ⟨hlen, hfuel, hline, hlast⟩
      · exact .inl hnext
      · exact .inr ⟨by rw [List.length_cons, hlen], by rw [List.length_cons, hfuel],
          .cons hd hgo hline, hlast⟩
    | zero =>
      cases hi
      rw [ngM68kDecode_addr hd]
      cases fuel with
      | zero =>
        cases hrest
        exact .inr ⟨rfl, rfl, .cons hd hgo (.nil _), rfl⟩
      | succ fuel =>
        obtain ⟨follower, hf, haddr⟩ := hrest.head
        exact .inl ⟨follower, hf, haddr⟩

theorem branchTargets_append (instrs : List NgM68kInstr) (instr : NgM68kInstr) :
    branchTargets (instrs ++ [instr]) =
      branchTargets instrs ++ if instrHasLocalBranchTarget instr then [instr.target] else [] := by
  unfold branchTargets
  rw [List.filter_append, List.map_append, List.filter_cons, List.filter_nil]
  split_ifs <;> rfl

/-- What is looked for among the targets is found first among the labels: a label is left out only
where the same one stands before it. -/
def FirstPass.FindsTargets (p : FirstPass) : Prop :=
  ∀ P : BitVec 32 → Bool, (∀ t t', addr24 t = addr24 t' → P t = P t') →
    p.labelTargets.find? P = (branchTargets p.instrs).find? P

theorem FirstPass.FindsTargets.record {p : FirstPass} (h : p.FindsTargets) (instr : NgM68kInstr) :
    (p.record instr).FindsTargets := by
  intro P hP
  unfold FirstPass.record
  dsimp only
  rw [branchTargets_append, List.find?_append, ← h P hP]
  cases hb : instrHasLocalBranchTarget instr with
  | false =>
    rw [Bool.false_and, if_neg Bool.false_ne_true, if_neg Bool.false_ne_true, List.find?_nil,
      Option.or_none]
  | true =>
    rw [Bool.true_and, if_pos rfl]
    cases hin : addrInList p.labelTargets instr.target with
    | false => rw [Bool.not_false, if_pos rfl, List.find?_append]
    | true =>
      rw [Bool.not_true, if_neg Bool.false_ne_true]
      cases hfind : p.labelTargets.find? P with
      | some t => rfl
      | none =>
        -- the same label has been looked at already
        obtain ⟨t, ht, heq⟩ := List.mem_map.mp (addrInList_iff.mp hin)
        have hnot := List.find?_eq_none.mp hfind t ht
        rw [hP t instr.target heq, Bool.not_eq_true] at hnot
        rw [Option.none_or, List.find?_cons, hnot, List.find?_nil]

theorem firstPass_findsTargets (turns : Nat) {p : FirstPass} (h : p.FindsTargets) :
    (firstPass rom turns p).FindsTargets := by
  induction turns generalizing p with
  | zero => exact h
  | succ turns ih =>
    rcases hd : ngM68kDecode rom p.pc with ⟨ok, instr⟩
    cases ok with
    | false =>
      simp only [firstPass, hd]
      exact h
    | true =>
      simp only [firstPass, hd]
      split_ifs with hs
      · exact h.record instr
      · exact ih (h.record instr)

/-- The first label printed behind the instructions is the first branch target outside of them. -/
theorem head_missing (rom : NgProgramRom) (start : BitVec 32) :
    (emitMissingBranchLabels (bodyFirstPass rom start).instrs
      (bodyFirstPass rom start).labelTargets).head? =
    (outsideTarget (bodyFirstPass rom start).instrs).map BodyItem.dispatchLabel := by
  have hfind : (bodyFirstPass rom start).FindsTargets :=
    firstPass_findsTargets _ fun P hP => rfl
  unfold emitMissingBranchLabels outsideTarget
  rw [List.head?_map, List.head?_filter, hfind]
  · unfold addrInList
    simp only [List.any_map]
    rfl
  · intro t t' ht
    rw [ht]

end Passes

/-! ## The pieces of a body -/

/-- The address a piece of a body is printed for. -/
def BodyItem.address : BodyItem → BitVec 32
  | .decoded _ instr => addr24 instr.addr
  | .dispatchLabel target => addr24 target
  | .miss addr _ => addr24 addr

section Layout
variable {β : Type} [GeneratedAbi β] {rom : NgProgramRom} {start : BitVec 32}
  {d : NgEmitDiagnostics}

/-- The instructions of the first pass, the labels of branches out of the body, and the miss. -/
theorem emitFunctionBody_layout (hf : (bodyFirstPass rom start).decodeFailed = false) :
    ∃ tail, ((tail = [] ∧ ∃ i ∈ (bodyFirstPass rom start).instrs, stopsFirstPass i = true) ∨
        tail = [.miss (bodyFirstPass rom start).pc false]) ∧
      (emitFunctionBody β rom start d).1 =
        (bodyFirstPass rom start).instrs.map (fun i =>
          .decoded (addrInList (bodyFirstPass rom start).labelTargets i.addr) i) ++
        emitMissingBranchLabels (bodyFirstPass rom start).instrs
          (bodyFirstPass rom start).labelTargets ++ tail := by
  unfold emitFunctionBody
  dsimp only
  rw [if_neg (by rw [hf]; decide)]
  exact secondPass_items (bodyFirstPass_scanned rom start) _ _ _ d

theorem emitFunctionBody_failed (hf : (bodyFirstPass rom start).decodeFailed = true) :
    (emitFunctionBody β rom start d).1 = [.miss (bodyFirstPass rom start).pc true] := by
  unfold emitFunctionBody
  dsimp only
  rw [if_pos hf]

/-- The printed instructions are those of the first pass, at their places. -/
theorem body_decoded_iff {i : Nat} {instr : NgM68kInstr} :
    (∃ labelled, (emitFunctionBody β rom start d).1[i]? = some (.decoded labelled instr)) ↔
      (bodyFirstPass rom start).decodeFailed = false ∧
        (bodyFirstPass rom start).instrs[i]? = some instr := by
  cases hf : (bodyFirstPass rom start).decodeFailed with
  | true =>
    rw [emitFunctionBody_failed hf]
    constructor
    · rintro ⟨labelled, h⟩
      cases i with
      | zero => cases h
      | succ i => cases h
    · rintro ⟨h, -⟩
      cases h
  | false =>
    obtain ⟨tail, htail, hbody⟩ := emitFunctionBody_layout (β := β) (d := d) hf
    rw [hbody, List.append_assoc, List.getElem?_append, List.length_map]
    split_ifs with hlt
    · rw [List.getElem?_map, List.getElem?_eq_getElem hlt]
      simp
    · rw [List.getElem?_eq_none (Nat.le_of_not_lt hlt)]
      constructor
      · rintro ⟨labelled, h⟩
        rcases List.mem_append.mp (List.mem_of_getElem? h) with hmem | hmem
        · obtain ⟨t, -, ht⟩ := List.mem_map.mp hmem
          cases ht
        · rcases htail with ⟨rfl, -⟩ | rfl
          · cases hmem
          · cases List.mem_singleton.mp hmem
      · rintro ⟨-, h⟩
        cases h

/-- Behind the last instruction of a full straight line stands the first label of a branch out of
it, and only without one the miss. -/
theorem body_behind (hf : (bodyFirstPass rom start).decodeFailed = false)
    (hgo : ∀ i ∈ (bodyFirstPass rom start).instrs, stopsFirstPass i = false) :
    (emitFunctionBody β rom start d).1[(bodyFirstPass rom start).instrs.length]? =
      some (((outsideTarget (bodyFirstPass rom start).instrs).map BodyItem.dispatchLabel).getD
        (.miss (bodyFirstPass rom start).pc false)) := by
  obtain ⟨tail, htail, hbody⟩ := emitFunctionBody_layout (β := β) (d := d) hf
  rcases htail with ⟨-, i, hi, hstop⟩ | rfl
  · rw [hgo i hi] at hstop
    cases hstop
  · rw [hbody, List.append_assoc, List.getElem?_append_right (by rw [List.length_map]),
      List.length_map, Nat.sub_self, ← head_missing]
    cases emitMissingBranchLabels (bodyFirstPass rom start).instrs
      (bodyFirstPass rom start).labelTargets with
    | nil => rfl
    | cons label rest => rfl

/-- The miss without a `return;` ends the body. -/
theorem body_miss_last {i : Nat} {addr : BitVec 32}
    (h : (emitFunctionBody β rom start d).1[i]? = some (.miss addr false)) :
    (emitFunctionBody β rom start d).1[i + 1]? = none := by
  cases hf : (bodyFirstPass rom start).decodeFailed with
  | true =>
    rw [emitFunctionBody_failed hf] at h
    cases i with
    | zero => cases h
    | succ i => cases h
  | false =>
    obtain ⟨tail, htail, hbody⟩ := emitFunctionBody_layout (β := β) (d := d) hf
    rw [hbody, List.getElem?_append] at h
    rw [hbody]
    split_ifs at h with hlt
    · -- no miss is printed among the instructions and the labels
      rcases List.mem_append.mp (List.mem_of_getElem? h) with hmem | hmem
      · obtain ⟨instr, -, hinstr⟩ := List.mem_map.mp hmem
        cases hinstr
      · obtain ⟨t, -, ht⟩ := List.mem_map.mp hmem
        cases ht
    · apply List.getElem?_eq_none
      rw [List.length_append]
      have hin := (List.getElem?_eq_some_iff.mp h).1
      rcases htail with ⟨rfl, -⟩ | rfl
      · cases h
      · rw [List.length_singleton] at hin ⊢
        omega

end Layout

/-! ## Undisturbed runs -/

section Runs
variable {β : Type} [GeneratedAbi β]

/-- An instruction starts without a yield and without an interrupt, and the trace bit is clear. -/
def Undisturbed (cycles : NgM68kInstr → BitVec 8) (instr : NgM68kInstr) (m m' : Machine β) : Prop :=
  instrPrologue cycles instr m = .next () m' ∧ srHas m'.traceSr ngSrT = false

/-- STOP in supervisor mode, which is neither a branch nor an exception: it waits for an interrupt,
and the address behind it is where the 68000 goes on. -/
def Waits (instr : NgM68kInstr) (m : Machine β) : Prop :=
  instr.mnemonic = .stop ∧ srHas m.cpu.sr ngSrS = true

/-- The undisturbed runs of a body, with the instructions executed so far and the machine each of
them ran on.  No interrupt is served behind a STOP either. -/
inductive QuietRun (cycles : NgM68kInstr → BitVec 8) (body : List BodyItem) (m : Machine β) :
    List (NgM68kInstr × Machine β) → Control → Machine β → Prop
  | start : QuietRun cycles body m [] (.item 0) { m with traceSr := 0 }
  | instruction {es i m₁ labelled instr m₂ c m₃} (h : QuietRun cycles body m es (.item i) m₁)
      (hi : body[i]? = some (.decoded labelled instr)) (hv : ngM68kValidate instr = true)
      (hq : Undisturbed cycles instr m₁ m₂) (hs : bodyStep cycles body i m₁ = some (c, m₃))
      (hw : Waits instr m₂ → NoTransfer m₂ m₃) : QuietRun cycles body m (es ++ [(instr, m₂)]) c m₃
  /-- An unsupported opcode, a label, a miss or the end of the body. -/
  | other {es i m₁ c m₂} (h : QuietRun cycles body m es (.item i) m₁)
      (hq : ∀ labelled instr, body[i]? = some (.decoded labelled instr) →
        ngM68kValidate instr = false ∧ ∃ m', Undisturbed cycles instr m₁ m')
      (hs : bodyStep cycles body i m₁ = some (c, m₂)) : QuietRun cycles body m es c m₂

variable {cycles : NgM68kInstr → BitVec 8} {instr : NgM68kInstr} {m m' : Machine β}

/-- They are runs of the body. -/
theorem QuietRun.bodyRun {body : List BodyItem} {es : List (NgM68kInstr × Machine β)} {c : Control}
    (h : QuietRun cycles body m es c m') : BodyRun cycles body m c m' := by
  induction h with
  | start => exact .start
  | instruction h hi hv hq hs hw ih => exact .step ih hs
  | other h hq hs ih => exact .step ih hs

theorem instrPrologue_noTransfer (h : instrPrologue cycles instr m = .next () m') :
    NoTransfer m m' := by
  unfold instrPrologue at h
  obtain ⟨_, m₁, h₁, h⟩ := bind_eq_next h
  obtain ⟨_, m₂, h₂, h⟩ := bind_eq_next h
  obtain ⟨yields, m₃, h₃, h⟩ := bind_eq_next h
  have hcalls : NoTransfer m m₃ := by
    cases h₁
    cases h₂
    cases h₃
    exact .of_log rfl
  cases yields with
  | true => cases h
  | false =>
    dsimp only at h
    rw [if_neg Bool.false_ne_true] at h
    obtain ⟨served, m₄, h₄, h⟩ := bind_eq_next h
    cases served with
    | true => cases h
    | false =>
      rw [if_neg Bool.false_ne_true] at h
      have hno := ((test_serviceInterrupt (addr24 instr.addr)).goes _ m₄ h₄).2
      obtain ⟨_, m₅, h₅, h⟩ := bind_eq_next h
      cases h₅
      cases h
      exact hcalls.trans (hno.trans (.of_log rfl))

/-- What one executed instruction can do to control: go on, take its branch, or leave the body. -/
theorem executed_cases {body : List BodyItem} {i : Nat} {labelled : Bool} {m₁ m₂ m₃ : Machine β}
    {c : Control} (hi : body[i]? = some (.decoded labelled instr))
    (hv : ngM68kValidate instr = true) (hq : Undisturbed cycles instr m₁ m₂)
    (hs : bodyStep cycles body i m₁ = some (c, m₃)) :
    (c = .item (i + 1) ∧ endsBody instr.mnemonic = false ∧ branchTaken instr m₂.cpu = false ∧
      ¬ LeavesBody instr m₂ ∧ NoTransfer m₁ m₃) ∨
    (∃ j, c = .item j ∧ labelIndex body (addr24 instr.target) = some j ∧
      branchTaken instr m₂.cpu = true ∧ NoTransfer m₁ m₃) ∨
    (c = .returned ∧ LeavesBody instr m₂ ∧ AtMostDispatch m₁ m₃) := by
  have hbefore := instrPrologue_noTransfer hq.1
  have hcode : (BodyItem.decoded labelled instr).code cycles m₁ = instrText instr m₂ :=
    bind_of_next hq.1 _
  unfold bodyStep at hs
  rw [hi] at hs
  dsimp only at hs
  rw [hcode] at hs
  have hout := instrText_outcome (β := β) hv hq.2
  generalize instrText instr m₂ = o at hs hout
  cases hout with
  | next he hb hl hno =>
    cases hs
    exact .inl ⟨rfl, he, hb, hl, hbefore.trans hno⟩
  | branch hb hno =>
    obtain ⟨j, hj, heq⟩ := Option.map_eq_some_iff.mp hs
    cases heq
    exact .inr (.inl ⟨j, rfl, hj, hb, hbefore.trans hno⟩)
  | leave hl hlast =>
    cases hs
    exact .inr (.inr ⟨rfl, hl, .after hbefore hlast⟩)

/-- From `m` to `m'` there was one transfer, `e`, and it came last. -/
def LastTransfer (m m' : Machine β) (e : Event) : Prop :=
  ∃ es, m'.log = m.log ++ (es ++ [e]) ∧ ∀ x ∈ es, x.isTransfer = false

omit [GeneratedAbi β] in
theorem NoTransfer.then_last {m₁ m₂ : Machine β} (h : NoTransfer m₁ m₂) {e : Event}
    (hlog : m'.log = m₂.log ++ [e]) : LastTransfer m₁ m' e := by
  obtain ⟨es, hes, hno⟩ := h
  exact ⟨es, by rw [hlog, hes, List.append_assoc], hno⟩

/-- Control has come to the instruction at `a`: it stands before the piece of the body printed for
it, or has left the body by a dispatch of it or by a miss logged for it. -/
inductive Arrives (body : List BodyItem) (m : Machine β) (a : BitVec 32) :
    Control → Machine β → Prop
  | inside {i item m₁} (hi : body[i]? = some item) (ha : item.address = a)
      (hno : NoTransfer m m₁) : Arrives body m a (.item i) m₁
  | dispatched {m₁} (h : LastTransfer m m₁ (.dispatch a)) : Arrives body m a .returned m₁
  | missed {c m₁} (h : LastTransfer m m₁ (.miss a)) (hc : ∀ i, c = .item i → body[i]? = none) :
      Arrives body m a c m₁

omit [GeneratedAbi β] in
theorem LastTransfer.unique {e e' : Event} (h : LastTransfer m m' e) (h' : LastTransfer m m' e') :
    e = e' := by
  obtain ⟨es, hlog, -⟩ := h
  obtain ⟨es', hlog', -⟩ := h'
  rw [hlog] at hlog'
  exact List.singleton_inj.mp (List.append_inj' (List.append_cancel_left hlog') rfl).2

omit [GeneratedAbi β] in
/-- Control comes to one instruction at a time. -/
theorem Arrives.unique {body : List BodyItem} {a a' : BitVec 32} {c : Control}
    (h : Arrives body m a c m') (h' : Arrives body m a' c m') : a = a' := by
  cases h with
  | inside hi ha hno =>
    cases h' with
    | inside hi' ha' hno' =>
      cases hi.symm.trans hi'
      exact ha.symm.trans ha'
    | missed h' hc =>
      rw [hc _ rfl] at hi
      cases hi
  | dispatched h =>
    cases h' with
    | dispatched h' => cases h.unique h'; rfl
    | missed h' hc => cases h.unique h'
  | missed h hc =>
    cases h' with
    | inside hi' ha' hno' =>
      rw [hc _ rfl] at hi'
      cases hi'
    | dispatched h' => cases h.unique h'
    | missed h' hc' => cases h.unique h'; rfl

/-- The last executed instruction has left the body for good: a call, a jump, a return, a trap or an
exception, but no STOP that waits. -/
def LeftBy (es : List (NgM68kInstr × Machine β)) (c : Control) (m m' : Machine β) : Prop :=
  ∃ before instr m₁, es = before ++ [(instr, m₁)] ∧ LeavesBody instr m₁ ∧ ¬ Waits instr m₁ ∧
    c = .returned ∧ AtMostDispatch m m'

/-- The last instruction of a full first pass goes on to the next one, and the first branch out of
the pass leads elsewhere. -/
def RunsOff (rom : NgProgramRom) (start : BitVec 32) (instr : NgM68kInstr) (m : Machine β) : Prop :=
  branchTaken instr m.cpu = false ∧ ¬ LeavesBody instr m ∧
    ∃ line last t, StraightLine rom start (line ++ [instr]) last ∧
      (line ++ [instr]).length = ngEmitMaxInstructions ∧
      outsideTarget (line ++ [instr]) = some t ∧ addr24 t ≠ addr24 last

/-! ## Following the ROM -/

section Follows
variable {rom : NgProgramRom} {start : BitVec 32} {d : NgEmitDiagnostics}

theorem stopsFirstPass_of_goes_on (hv : ngM68kValidate instr = true)
    (hd : ngM68kDecode rom instr.addr = (true, instr)) (he : endsBody instr.mnemonic = false) :
    stopsFirstPass instr = false := by
  rw [stopsFirstPass, hv, he, decide_eq_false (ngM68kDecode_eq hd).2.1]
  rfl

/-- A body starts with its start address, unless the pass fails further on. -/
theorem body_head (hline : LineDecodes rom start) :
    ∃ item, (emitFunctionBody β rom start d).1[0]? = some item ∧ item.address = addr24 start := by
  have hscan := bodyFirstPass_scanned rom start
  cases hf : (bodyFirstPass rom start).decodeFailed with
  | true =>
    rw [hf] at hscan
    obtain ⟨hstraight, hlen, hfail⟩ := hscan.straight_of_failed
    have hnil : (bodyFirstPass rom start).instrs = [] := by
      by_contra hne
      rw [hline _ _ hstraight hne hlen] at hfail
      cases hfail
    rw [hnil] at hstraight
    have hpc : (bodyFirstPass rom start).pc = start := by
      generalize (bodyFirstPass rom start).pc = pc at hstraight
      cases hstraight
      rfl
    rw [emitFunctionBody_failed hf, hpc]
    exact ⟨_, rfl, rfl⟩
  | false =>
    rw [hf] at hscan
    obtain ⟨instr, hi, haddr⟩ := hscan.head
    obtain ⟨labelled, hbody⟩ := body_decoded_iff (β := β) (d := d).mpr ⟨hf, hi⟩
    exact ⟨_, hbody, congrArg addr24 haddr⟩

/-- Behind an instruction that goes on stands the piece for the next one. -/
theorem body_next {i : Nat} {labelled : Bool}
    (hi : (emitFunctionBody β rom start d).1[i]? = some (.decoded labelled instr))
    (hs : stopsFirstPass instr = false) (hb : branchTaken instr m.cpu = false)
    (hl : ¬ LeavesBody instr m) (hoff : ¬ RunsOff rom start instr m) :
    ∃ item, (emitFunctionBody β rom start d).1[i + 1]? = some item ∧
      item.address = addr24 (instr.addr + instr.byteLength.setWidth 32) := by
  obtain ⟨hf, hinstr⟩ := body_decoded_iff.mp ⟨labelled, hi⟩
  have hscan := bodyFirstPass_scanned rom start
  rw [hf] at hscan
  rcases hscan.following hinstr hs with ⟨follower, hfollower, haddr⟩ | ⟨hlast, hfull, hline, hpc⟩
  · obtain ⟨l, hbody⟩ := body_decoded_iff (β := β) (d := d).mpr ⟨hf, hfollower⟩
    exact ⟨_, hbody, congrArg addr24 haddr⟩
  · -- the pass has made all its turns
    have hbehind := body_behind (β := β) (d := d) hf hline.goes_on
    rw [← hlast] at hbehind
    refine ⟨_, hbehind, ?_⟩
    rw [← hpc]
    cases hout : outsideTarget (bodyFirstPass rom start).instrs with
    | none => rfl
    | some t =>
      by_contra hne
      have hsplit : (bodyFirstPass rom start).instrs =
          (bodyFirstPass rom start).instrs.take i ++ [instr] := by
        have htake := List.take_add_one (l := (bodyFirstPass rom start).instrs) (i := i)
        rwa [hlast, List.take_length, hinstr] at htake
      generalize (bodyFirstPass rom start).instrs.take i = line at hsplit
      rw [hsplit] at hline hfull hout
      exact hoff ⟨hb, hl, line, _, t, hline, hfull, hout, hne⟩

/-- A goto continues at the piece printed for its label. -/
theorem address_of_labelIndex {body : List BodyItem} {label : BitVec 32} {j : Nat}
    (h : labelIndex body label = some j) :
    ∃ item, body[j]? = some item ∧ item.address = label := by
  obtain ⟨hj, hitem, -⟩ := List.findIdx?_eq_some_iff_getElem.mp h
  refine ⟨body[j], List.getElem?_eq_getElem hj, ?_⟩
  rw [beq_iff_eq] at hitem
  cases hb : body[j] with
  | decoded labelled instr =>
    rw [hb] at hitem
    cases labelled with
    | true => exact Option.some.inj hitem
    | false => cases hitem
  | dispatchLabel target => rw [hb] at hitem; exact Option.some.inj hitem
  | miss addr returns => rw [hb] at hitem; cases hitem

/-- One executed instruction, from the piece printed for it. -/
theorem instruction_arrives {es : List (NgM68kInstr × Machine β)} {i : Nat} {labelled : Bool}
    {m₁ m₂ m₃ : Machine β} {c : Control}
    (hi : (emitFunctionBody β rom start d).1[i]? = some (.decoded labelled instr))
    (hv : ngM68kValidate instr = true) (hq : Undisturbed cycles instr m₁ m₂)
    (hs : bodyStep cycles (emitFunctionBody β rom start d).1 i m₁ = some (c, m₃))
    (hno : NoTransfer m m₁) (hoff : ¬ RunsOff rom start instr m₂) (hwait : ¬ Waits instr m₂) :
    Arrives (emitFunctionBody β rom start d).1 m (successor instr m₂.cpu) c m₃ ∨
      LeftBy (es ++ [(instr, m₂)]) c m m₃ := by
  have hd : ngM68kDecode rom instr.addr = (true, instr) := by
    have hin := (body_decoded_iff.mp ⟨labelled, hi⟩).2
    exact (bodyFirstPass_scanned rom start).decodes instr (List.mem_of_getElem? hin)
  obtain ⟨rfl, he, hb, hl, hnext⟩ | ⟨j, rfl, hj, hb, hgoto⟩ | ⟨rfl, hl, hlast⟩ :=
    executed_cases hi hv hq hs
  · obtain ⟨item, hitem, haddr⟩ :=
      body_next (β := β) hi (stopsFirstPass_of_goes_on hv hd he) hb hl hoff
    refine .inl (.inside hitem ?_ (hno.trans hnext))
    rw [successor, if_neg (by rw [hb]; decide), haddr]
  · obtain ⟨item, hitem, haddr⟩ := address_of_labelIndex hj
    refine .inl (.inside hitem ?_ (hno.trans hgoto))
    rw [successor, if_pos hb, haddr]
  · exact .inr ⟨es, instr, m₂, rfl, hl, hwait, rfl, .after hno hlast⟩

/-- What is printed behind the instructions hands control over to the address it is printed for. -/
theorem other_arrives {a : BitVec 32} {i : Nat} {item : BodyItem} {m₁ m₂ : Machine β} {c : Control}
    (hi : (emitFunctionBody β rom start d).1[i]? = some item) (ha : item.address = a)
    (hq : ∀ labelled instr, item = .decoded labelled instr →
      ngM68kValidate instr = false ∧ ∃ m', Undisturbed cycles instr m₁ m')
    (hs : bodyStep cycles (emitFunctionBody β rom start d).1 i m₁ = some (c, m₂))
    (hno : NoTransfer m m₁) : Arrives (emitFunctionBody β rom start d).1 m a c m₂ := by
  unfold bodyStep at hs
  rw [hi] at hs
  dsimp only at hs
  subst ha
  cases item with
  | decoded labelled instr =>
    obtain ⟨hv, m', hm', -⟩ := hq labelled instr rfl
    have hcode : (BodyItem.decoded labelled instr).code cycles m₁ = missReturn instr.addr m' := by
      show (instrPrologue cycles instr >>= fun _ => instrText instr) m₁ = _
      rw [bind_of_next hm', instrText, hv]
      rfl
    rw [hcode] at hs
    cases hs
    exact .missed ((hno.trans (instrPrologue_noTransfer hm')).then_last rfl) fun i h => by cases h
  | dispatchLabel target =>
    cases hs
    refine .dispatched (hno.then_last ?_)
    show m₁.log ++ [.dispatch (addr24 (addr24 target))] = _
    rw [addr24_addr24]
    rfl
  | miss addr returns =>
    cases returns with
    | true =>
      cases hs
      exact .missed (hno.then_last rfl) fun i h => by cases h
    | false =>
      cases hs
      refine .missed (hno.then_last rfl) ?_
      rintro j h
      cases h
      exact body_miss_last hi

/-- Where no instruction is executed, control goes on to the same address. -/
theorem Arrives.other {a : BitVec 32} {i : Nat} {m₁ m₂ : Machine β} {c : Control}
    (h : Arrives (emitFunctionBody β rom start d).1 m a (.item i) m₁)
    (hq : ∀ labelled instr,
      (emitFunctionBody β rom start d).1[i]? = some (.decoded labelled instr) →
      ngM68kValidate instr = false ∧ ∃ m', Undisturbed cycles instr m₁ m')
    (hs : bodyStep cycles (emitFunctionBody β rom start d).1 i m₁ = some (c, m₂)) :
    Arrives (emitFunctionBody β rom start d).1 m a c m₂ := by
  cases h with
  | inside hitem haddr hno =>
    apply other_arrives hitem haddr _ hs hno
    intro labelled instr heq
    exact hq labelled instr (heq ▸ hitem)
  | missed h hc =>
    unfold bodyStep at hs
    rw [hc i rfl] at hs
    cases hs
    exact .missed h fun i hi => by cases hi

/-- Where a run stands: the executed instructions follow each other in the ROM from `start` on, and
control has come to the instruction behind them, or the last one has left the body for good.  A miss
is logged for that address only. -/
def FollowsRom (rom : NgProgramRom) (start : BitVec 32) (body : List BodyItem) (m : Machine β)
    (es : List (NgM68kInstr × Machine β)) (c : Control) (m' : Machine β) : Prop :=
  ∃ a, Path rom start es a ∧ (Arrives body m a c m' ∨ LeftBy es c m m') ∧
    ∀ missed, .miss missed ∈ m'.log.drop m.log.length → missed = a

omit [GeneratedAbi β] in
theorem miss_of_arrives {body : List BodyItem} {a : BitVec 32} {c : Control}
    (h : Arrives body m a c m') {missed : BitVec 32}
    (hmem : .miss missed ∈ m'.log.drop m.log.length) : missed = a := by
  have hdrop {es : List Event} (hlog : m'.log = m.log ++ es) : .miss missed ∈ es := by
    rwa [hlog, List.drop_left] at hmem
  cases h with
  | inside hi ha hno =>
    obtain ⟨es, hlog, hes⟩ := hno
    cases hes _ (hdrop hlog)
  | dispatched h =>
    obtain ⟨es, hlog, hes⟩ := h
    rcases List.mem_append.mp (hdrop hlog) with hin | hlast
    · cases hes _ hin
    · cases List.mem_singleton.mp hlast
  | missed h hc =>
    obtain ⟨es, hlog, hes⟩ := h
    rcases List.mem_append.mp (hdrop hlog) with hin | hlast
    · cases hes _ hin
    · cases List.mem_singleton.mp hlast
      rfl

theorem no_miss_of_leftBy {es : List (NgM68kInstr × Machine β)} {c : Control}
    (h : LeftBy es c m m') {missed : BitVec 32} : .miss missed ∉ m'.log.drop m.log.length := by
  obtain ⟨-, -, -, -, -, -, -, hlast⟩ := h
  intro hmem
  rcases hlast with ⟨es, hlog, hes⟩ | ⟨es, a, hlog, hes⟩
  · rw [hlog, List.drop_left] at hmem
    cases hes _ hmem
  · rw [hlog, List.drop_left] at hmem
    rcases List.mem_append.mp hmem with hin | hlast
    · cases hes _ hin
    · cases List.mem_singleton.mp hlast

theorem followsRom_of {body : List BodyItem} {es : List (NgM68kInstr × Machine β)} {a : BitVec 32}
    {c : Control} (hpath : Path rom start es a) (h : Arrives body m a c m' ∨ LeftBy es c m m') :
    FollowsRom rom start body m es c m' :=
  ⟨a, hpath, h, fun _ hmem => h.elim (fun h => miss_of_arrives h hmem)
    fun h => absurd hmem (no_miss_of_leftBy h)⟩

/-- By induction on the run: control stands where the executed instructions lead. -/
theorem QuietRun.followsRom (hline : LineDecodes rom start)
    {es : List (NgM68kInstr × Machine β)} {c : Control}
    (hrun : QuietRun cycles (emitFunctionBody β rom start d).1 m es c m')
    (hsteps : ∀ e ∈ es, ¬ RunsOff rom start e.1 e.2 ∧ ¬ Waits e.1 e.2) :
    ∃ a, Path rom start es a ∧
      (Arrives (emitFunctionBody β rom start d).1 m a c m' ∨ LeftBy es c m m') := by
  induction hrun with
  | start =>
    obtain ⟨item, hitem, haddr⟩ := body_head (β := β) (d := d) hline
    exact ⟨_, .nil, .inl (.inside hitem haddr (.of_log rfl))⟩
  | @instruction es i m₁ labelled instr m₂ c m₃ hrun hi hv hq hs hw ih =>
    obtain ⟨a, hpath, hstate⟩ := ih fun e he => hsteps e (List.mem_append_left _ he)
    have hd : ngM68kDecode rom instr.addr = (true, instr) := by
      have hin := (body_decoded_iff.mp ⟨labelled, hi⟩).2
      exact (bodyFirstPass_scanned rom start).decodes instr (List.mem_of_getElem? hin)
    obtain ⟨hoff, hwait⟩ := hsteps (instr, m₂) (List.mem_append_right _ (List.mem_singleton_self _))
    rcases hstate with harrives | ⟨_, _, _, _, _, _, hret, _⟩
    · cases harrives with
      | inside hitem haddr hno =>
        cases hi.symm.trans hitem
        exact ⟨_, .snoc hpath hd haddr, instruction_arrives hi hv hq hs hno hoff hwait⟩
      | missed h hc =>
        rw [hc i rfl] at hi
        cases hi
    · cases hret
  | @other es i m₁ c m₂ hrun hq hs ih =>
    obtain ⟨a, hpath, hstate⟩ := ih hsteps
    refine ⟨a, hpath, ?_⟩
    rcases hstate with harrives | ⟨_, _, _, _, _, _, hret, _⟩
    · exact .inl (harrives.other hq hs)
    · cases hret

/-! ## Where a body goes astray -/

omit [GeneratedAbi β] in
theorem Path.last_eq {es : List (NgM68kInstr × Machine β)} {a : BitVec 32}
    (h : Path rom start (es ++ [(instr, m)]) a) : a = successor instr m.cpu := by
  generalize heq : es ++ [(instr, m)] = all at h
  cases h with
  | nil => exact absurd heq (List.append_ne_nil_of_right_ne_nil _ (List.cons_ne_nil _ _))
  | snoc h hd ha =>
    cases (List.append_inj' heq rfl).2
    rfl

omit [GeneratedAbi β] in
theorem Path.nil_eq {a : BitVec 32} (h : Path (β := β) rom start [] a) : a = addr24 start := by
  generalize hnil : ([] : List (NgM68kInstr × Machine β)) = es at h
  cases h with
  | nil => rfl
  | snoc h hd ha =>
    exact absurd hnil.symm (List.append_ne_nil_of_right_ne_nil _ (List.cons_ne_nil _ _))

/-- After a decode failure nothing is executed, and control is at the address of the failure. -/
theorem QuietRun.of_failed (hf : (bodyFirstPass rom start).decodeFailed = true)
    {es : List (NgM68kInstr × Machine β)} {c : Control}
    (hrun : QuietRun cycles (emitFunctionBody β rom start d).1 m es c m') :
    es = [] ∧ Arrives (emitFunctionBody β rom start d).1 m
      (addr24 (bodyFirstPass rom start).pc) c m' := by
  induction hrun with
  | start => exact ⟨rfl, .inside (by rw [emitFunctionBody_failed hf]; rfl) rfl (.of_log rfl)⟩
  | instruction hrun hi hv hq hs hw ih =>
    have hdecoded := (body_decoded_iff.mp ⟨_, hi⟩).1
    rw [hf] at hdecoded
    cases hdecoded
  | other hrun hq hs ih => exact ⟨ih.1, ih.2.other hq hs⟩

theorem FollowsRom.lineDecodes {es : List (NgM68kInstr × Machine β)} {c : Control}
    (hrun : QuietRun cycles (emitFunctionBody β rom start d).1 m es c m')
    (h : FollowsRom rom start (emitFunctionBody β rom start d).1 m es c m') :
    LineDecodes rom start := by
  intro line pc hline hne hlen
  by_contra hfail
  rw [Bool.not_eq_true] at hfail
  obtain ⟨hf, hpc⟩ := bodyFirstPass_of_failing hline hlen hfail
  obtain ⟨rfl, harrives⟩ := hrun.of_failed hf
  obtain ⟨a, hpath, hstate, -⟩ := h
  obtain rfl := hpath.nil_eq
  rcases hstate with hstart | ⟨before, _, _, hnil, -⟩
  · have heq := harrives.unique hstart
    obtain ⟨k, hk, hlo, hhi⟩ := hline.offset
    have hpos := List.length_pos_iff.mpr hne
    have hmax : ngEmitMaxInstructions = 192 := rfl
    rw [hpc, hk] at heq
    exact addr24_add_ne (by omega) (by omega) heq
  · exact absurd hnil.symm (List.append_ne_nil_of_right_ne_nil _ (List.cons_ne_nil _ _))

/-- A full line falls through into the first label behind it. -/
theorem runsOff_arrives {i : Nat} {labelled : Bool} {m₁ m₂ m₃ : Machine β} {c : Control}
    (hi : (emitFunctionBody β rom start d).1[i]? = some (.decoded labelled instr))
    (hv : ngM68kValidate instr = true) (hq : Undisturbed cycles instr m₁ m₂)
    (hs : bodyStep cycles (emitFunctionBody β rom start d).1 i m₁ = some (c, m₃))
    (hno : NoTransfer m m₁) (hoff : RunsOff rom start instr m₂) :
    ∃ t, outsideTarget (bodyFirstPass rom start).instrs = some t ∧
      addr24 t ≠ successor instr m₂.cpu ∧
      Arrives (emitFunctionBody β rom start d).1 m (addr24 t) c m₃ := by
  obtain ⟨hb, hl, line, last, t, hline, hfull, hout, hne⟩ := hoff
  obtain ⟨hf, hinstrs⟩ := bodyFirstPass_of_full hline hfull
  rw [hline.last_eq] at hne
  refine ⟨t, by rw [hinstrs]; exact hout, by rwa [successor, hb, if_neg Bool.false_ne_true], ?_⟩
  have hbehind := body_behind (β := β) (d := d) hf (by rw [hinstrs]; exact hline.goes_on)
  have hlast : i + 1 = (bodyFirstPass rom start).instrs.length := by
    have hnodup := (bodyFirstPass_scanned rom start).addrs_nodup (by decide)
    have hin := (body_decoded_iff.mp ⟨labelled, hi⟩).2
    rw [hinstrs] at hnodup hin ⊢
    have hi := (List.getElem?_inj (List.getElem?_eq_some_iff.mp hin).1 hnodup.of_map).mp
      (hin.trans (List.getElem?_concat_length).symm)
    rw [hi, List.length_append, List.length_singleton]
  rw [← hlast, hinstrs, hout] at hbehind
  obtain ⟨rfl, -, -, -, hnext⟩ | ⟨_, -, -, htaken, -⟩ | ⟨-, hleaves, -⟩ := executed_cases hi hv hq hs
  · exact .inside hbehind rfl (hno.trans hnext)
  · rw [hb] at htaken
    cases htaken
  · exact absurd hleaves hl

theorem outsideTarget_ne {instrs : List NgM68kInstr} {t : BitVec 32}
    (h : outsideTarget instrs = some t) (hmem : instr ∈ instrs) : addr24 instr.addr ≠ addr24 t := by
  intro heq
  have hin : addrInList (instrs.map fun i => i.addr) t = true := by
    rw [addrInList_iff, List.map_map, ← heq]
    exact List.mem_map.mpr ⟨instr, hmem, rfl⟩
  have hout := List.find?_some h
  rw [hin] at hout
  cases hout

/-- While control is inside a body nothing has been dispatched or missed. -/
theorem QuietRun.noTransfer {es : List (NgM68kInstr × Machine β)} {c : Control}
    (hrun : QuietRun cycles (emitFunctionBody β rom start d).1 m es c m') {i : Nat} {item : BodyItem}
    (hc : c = .item i) (hi : (emitFunctionBody β rom start d).1[i]? = some item) :
    NoTransfer m m' := by
  induction hrun generalizing i item with
  | start => exact .of_log rfl
  | @instruction es j m₁ labelled instr m₂ c m₃ hrun hj hv hq hs hw ih =>
    obtain ⟨-, -, -, -, hno⟩ | ⟨_, -, -, -, hno⟩ | ⟨hret, -⟩ := executed_cases hj hv hq hs
    · exact (ih rfl hj).trans hno
    · exact (ih rfl hj).trans hno
    · rw [hret] at hc
      cases hc
  | @other es j m₁ c m₂ hrun hq hs ih =>
    subst hc
    unfold bodyStep at hs
    cases hj : (emitFunctionBody β rom start d).1[j]? with
    | none =>
      rw [hj] at hs
      cases hs
    | some piece =>
      have harrives := other_arrives (m := m) hj rfl (fun labelled instr heq =>
        hq labelled instr (heq ▸ hj)) (by unfold bodyStep; exact hs) (ih rfl hj)
      cases harrives with
      | inside _ _ hno => exact hno
      | missed _ hnone =>
        rw [hnone i rfl] at hi
        cases hi

/-- Behind a STOP that waits the body returns, with nothing dispatched or missed. -/
theorem QuietRun.of_waits {es : List (NgM68kInstr × Machine β)} {c : Control}
    (hrun : QuietRun cycles (emitFunctionBody β rom start d).1 m es c m') :
    ∀ e ∈ es, Waits e.1 e.2 → c = .returned ∧ NoTransfer m m' ∧ ∃ before, es = before ++ [e] := by
  induction hrun with
  | start => exact fun e he => absurd he List.not_mem_nil
  | @instruction es i m₁ labelled instr m₂ c m₃ hrun hi hv hq hs hw ih =>
    intro e he hwaits
    rcases List.mem_append.mp he with he | he
    · cases (ih e he hwaits).1
    · obtain rfl := List.mem_singleton.mp he
      have hbefore := (hrun.noTransfer rfl hi).trans (instrPrologue_noTransfer hq.1)
      refine ⟨?_, hbefore.trans (hw hwaits), es, rfl⟩
      obtain ⟨-, he, -⟩ | ⟨_, -, -, hb, -⟩ | ⟨hret, -⟩ := executed_cases hi hv hq hs
      · rw [hwaits.1] at he
        cases he
      · rw [branchTaken, hwaits.1] at hb
        cases hb
      · exact hret
  | other hrun hq hs ih =>
    intro e he hwaits
    cases (ih e he hwaits).1

omit [GeneratedAbi β] in
theorem NoTransfer.not_last {e : Event} (h : NoTransfer m m') (he : e.isTransfer = true) :
    ¬ LastTransfer m m' e := by
  rintro ⟨es, hlog, -⟩
  obtain ⟨es', hlog', hes'⟩ := h
  rw [hlog] at hlog'
  have hnot := hes' e (List.append_cancel_left hlog' ▸ by simp)
  rw [he] at hnot
  cases hnot

/-- Such a STOP does not reach the address behind it. -/
theorem FollowsRom.not_waits {es : List (NgM68kInstr × Machine β)} {c : Control}
    (hrun : QuietRun cycles (emitFunctionBody β rom start d).1 m es c m')
    (h : FollowsRom rom start (emitFunctionBody β rom start d).1 m es c m') :
    ∀ e ∈ es, ¬ Waits e.1 e.2 := by
  intro e he hwaits
  obtain ⟨rfl, hno, before, rfl⟩ := hrun.of_waits e he hwaits
  obtain ⟨a, -, hstate, -⟩ := h
  rcases hstate with harrives | ⟨before', instr', m₂, heq, -, hnot, -⟩
  · cases harrives with
    | dispatched hlast => exact hno.not_last rfl hlast
    | missed hlast => exact hno.not_last rfl hlast
  · cases (List.append_inj' heq rfl).2
    exact hnot hwaits

/-- After such a step nothing more is executed. -/
theorem QuietRun.of_runsOff (hline : LineDecodes rom start)
    {es : List (NgM68kInstr × Machine β)} {c : Control}
    (hrun : QuietRun cycles (emitFunctionBody β rom start d).1 m es c m') :
    ∀ e ∈ es, RunsOff rom start e.1 e.2 → ∃ before t, es = before ++ [e] ∧
      outsideTarget (bodyFirstPass rom start).instrs = some t ∧
      addr24 t ≠ successor e.1 e.2.cpu ∧
      Arrives (emitFunctionBody β rom start d).1 m (addr24 t) c m' := by
  induction hrun with
  | start => exact fun e he => absurd he List.not_mem_nil
  | @instruction es i m₁ labelled instr m₂ c m₃ hrun hi hv hq hs hw ih =>
    have hbefore : ∀ e ∈ es, ¬ RunsOff rom start e.1 e.2 ∧ ¬ Waits e.1 e.2 := by
      intro e he
      refine ⟨fun hoff => ?_, fun hwaits => ?_⟩
      case refine_2 => cases (hrun.of_waits e he hwaits).1
      -- control stands at a label behind the instructions
      obtain ⟨-, t, -, ht, -, harrives⟩ := ih e he hoff
      cases harrives with
      | inside hitem haddr hno =>
        cases hi.symm.trans hitem
        have hin := (body_decoded_iff.mp ⟨labelled, hi⟩).2
        exact outsideTarget_ne ht (List.mem_of_getElem? hin) haddr
      | missed h hc =>
        rw [hc i rfl] at hi
        cases hi
    intro e he hoff
    rcases List.mem_append.mp he with he | he
    · exact absurd hoff (hbefore e he).1
    · obtain rfl := List.mem_singleton.mp he
      obtain ⟨a, -, hstate⟩ := hrun.followsRom hline hbefore
      rcases hstate with harrives | ⟨_, _, _, _, _, _, hret, _⟩
      · cases harrives with
        | inside hitem haddr hno =>
          obtain ⟨t, ht, hne, hat⟩ := runsOff_arrives hi hv hq hs hno hoff
          exact ⟨es, t, rfl, ht, hne, hat⟩
        | missed h hc =>
          rw [hc i rfl] at hi
          cases hi
      · cases hret
  | other hrun hq hs ih =>
    intro e he hoff
    obtain ⟨before, t, hes, ht, hne, harrives⟩ := ih e he hoff
    exact ⟨before, t, hes, ht, hne, harrives.other hq hs⟩

/-- Such a step leads away from the ROM. -/
theorem FollowsRom.not_runsOff {es : List (NgM68kInstr × Machine β)} {c : Control}
    (hrun : QuietRun cycles (emitFunctionBody β rom start d).1 m es c m')
    (h : FollowsRom rom start (emitFunctionBody β rom start d).1 m es c m') :
    ∀ e ∈ es, ¬ RunsOff rom start e.1 e.2 := by
  rintro ⟨instr, m₁⟩ he hoff
  obtain ⟨before, t, rfl, -, hne, harrives⟩ := hrun.of_runsOff (h.lineDecodes hrun) _ he hoff
  obtain ⟨a, hpath, hstate, -⟩ := h
  rcases hstate with hat | ⟨before', instr', m₂, heq, hleaves, -⟩
  · exact hne ((harrives.unique hat).trans hpath.last_eq)
  · cases (List.append_inj' heq rfl).2
    exact hoff.2.1 hleaves

/-- In an undisturbed run control follows the instructions of the ROM, and a miss is logged only for
the address behind the executed ones, exactly when decoding fails nowhere behind the first
instruction of the line and no executed instruction runs off the end of a full line or is a STOP that
waits. -/
theorem emitFunctionBody_followsRom {es : List (NgM68kInstr × Machine β)} {c : Control}
    (hrun : QuietRun cycles (emitFunctionBody β rom start d).1 m es c m') :
    FollowsRom rom start (emitFunctionBody β rom start d).1 m es c m' ↔
      LineDecodes rom start ∧ ∀ e ∈ es, ¬ RunsOff rom start e.1 e.2 ∧ ¬ Waits e.1 e.2 := by
  constructor
  · exact fun h => ⟨h.lineDecodes hrun, fun e he => ⟨h.not_runsOff hrun e he, h.not_waits hrun e he⟩⟩
  · rintro ⟨hline, hsteps⟩
    obtain ⟨a, hpath, hstate⟩ := hrun.followsRom hline hsteps
    exact followsRom_of hpath hstate

/-- NOP as the only instruction of a plain image. -/
def nopRom : NgProgramRom where
  data := #[0x4E, 0x71]
  size := 2
  size_eq := rfl

/-- Nothing decodes behind the NOP; it is not executed, and a miss is logged for address 2. -/
theorem nop_not_executed :
    ¬ ∀ (rom : NgProgramRom) (start : BitVec 32) (d : NgEmitDiagnostics) (m m' : Machine Ram)
        (es : List (NgM68kInstr × Machine Ram)) (c : Control),
      QuietRun (fun _ => 16) (emitFunctionBody Ram rom start d).1 m es c m' →
        FollowsRom rom start (emitFunctionBody Ram rom start d).1 m es c m' := by
  intro h
  have hbody : (emitFunctionBody Ram nopRom 0 {}).1 = [.miss 2 true] := by decide +kernel
  have h := h nopRom 0 {} zeroedMachine { zeroedMachine with log := [.miss 2] } [] .returned
  rw [hbody] at h
  obtain ⟨a, hpath, -, hmiss⟩ := h (.other .start (fun labelled instr h => by cases h) rfl)
  have ha : a = 0 := hpath.nil_eq
  have h2 := hmiss 2 (List.mem_singleton_self _)
  rw [ha] at h2
  cases h2

def nopAtZero : NgM68kInstr := { addr := 0, opcode := 0x4E71, mnemonic := .nop, byteLength := 2 }

/-- The line ends before RTS. -/
theorem straightLine_nopRts {line : List NgM68kInstr} {last : BitVec 32}
    (h : StraightLine nopRtsRom 0 line last) : line = [] ∨ line = [nopAtZero] ∧ last = 2 := by
  have hnop : ngM68kDecode nopRtsRom 0 = (true, nopAtZero) := by decide +kernel
  have hrts : (ngM68kDecode nopRtsRom 2).2.mnemonic = .rts := by decide +kernel
  cases h with
  | nil => exact .inl rfl
  | cons hd hs hrest =>
    cases hnop.symm.trans hd
    cases hrest with
    | nil => exact .inr ⟨rfl, rfl⟩
    | @cons _ instr rest _ hd hs hrest =>
      have hd : ngM68kDecode nopRtsRom 2 = (true, instr) := hd
      rw [hd] at hrts
      have hends := (stopsFirstPass_eq_false hs).2
      rw [hrts] at hends
      cases hends

/-- Behind the executed NOP control is at RTS. -/
theorem emitFunctionBody_followsRom_nop :
    ∃ m₁ m', QuietRun (fun _ => 16) (emitFunctionBody Ram nopRtsRom 0 {}).1 zeroedMachine
        [(nopAtZero, m₁)] (.item 1) m' ∧
      FollowsRom nopRtsRom 0 (emitFunctionBody Ram nopRtsRom 0 {}).1 zeroedMachine
        [(nopAtZero, m₁)] (.item 1) m' := by
  have hbody : (emitFunctionBody Ram nopRtsRom 0 {}).1[0]? = some (.decoded false nopAtZero) := by
    decide +kernel
  have hstep : ∃ m₁ m', Undisturbed (fun _ => 16) nopAtZero { zeroedMachine with traceSr := 0 } m₁ ∧
      (BodyItem.decoded false nopAtZero).code (fun _ => 16) { zeroedMachine with traceSr := 0 } =
        .next () m' := ⟨_, _, ⟨rfl, rfl⟩, rfl⟩
  obtain ⟨m₁, m', hq, hcode⟩ := hstep
  have hrun : QuietRun (fun _ => 16) (emitFunctionBody Ram nopRtsRom 0 {}).1 zeroedMachine
      ([] ++ [(nopAtZero, m₁)]) (.item 1) m' := by
    refine .instruction .start hbody (by decide +kernel) hq ?_ fun hwaits => by cases hwaits.1
    unfold bodyStep
    rw [hbody]
    dsimp only
    rw [hcode]
  have hdecodes : (ngM68kDecode nopRtsRom 2).1 = true := by decide +kernel
  refine ⟨m₁, m', hrun, (emitFunctionBody_followsRom hrun).mpr ⟨?_, ?_⟩⟩
  · intro line last hline hne hlen
    rcases straightLine_nopRts hline with rfl | ⟨-, rfl⟩
    · exact absurd rfl hne
    · exact hdecodes
  · intro e he
    obtain rfl := List.mem_singleton.mp he
    refine ⟨?_, fun hwaits => by cases hwaits.1⟩
    rintro ⟨-, -, line, last, t, hline, hfull, -⟩
    rcases straightLine_nopRts hline with hnil | ⟨hone, -⟩
    · rw [hnil] at hfull
      cases hfull
    · rw [hone] at hfull
      cases hfull

end Follows

end Runs

end NeoRecomp
