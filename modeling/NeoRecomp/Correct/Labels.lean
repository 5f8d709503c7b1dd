import NeoRecomp.Correct.DecodeFrame
import NeoRecomp.Correct.Trampoline

/-!
# Labels of a function body

A printed body is C text, so every `goto` needs its label exactly once.  The first pass collects the
branch targets before anything is printed; a target at one of the collected instructions becomes the
label of that instruction, and every other one a dispatch after the last instruction.
-/

namespace NeoRecomp

open Gen

/-! ## Array bounds -/

/-- Each turn appends one instruction and at most one label. -/
theorem firstPass_lengths (rom : NgProgramRom) (turns : Nat) (p : FirstPass) :
    (firstPass rom turns p).instrs.length ≤ p.instrs.length + turns ∧
      (firstPass rom turns p).labelTargets.length ≤ p.labelTargets.length + turns := by
  induction turns generalizing p with
  | zero => exact ⟨Nat.le_refl _, Nat.le_refl _⟩
  | succ turns ih =>
    rcases hd : ngM68kDecode rom p.pc with ⟨ok, instr⟩
    cases ok with
    | false =>
      simp only [firstPass, hd]
      omega
    | true =>
      simp only [firstPass, hd]
      have hi : (p.record instr).instrs.length = p.instrs.length + 1 := by
        simp [FirstPass.record]
      have hl : (p.record instr).labelTargets.length ≤ p.labelTargets.length + 1 := by
        unfold FirstPass.record
        dsimp only
        split_ifs
        · simp
        · omega
      split_ifs with hs
      · omega
      · have h := ih { p.record instr with
          pc := (p.record instr).pc + instr.byteLength.setWidth 32 }
        dsimp only at h
        omega

/-! ## Collected targets -/

theorem addrInList_iff {addrs : List (BitVec 32)} {addr : BitVec 32} :
    addrInList addrs addr = true ↔ addr24 addr ∈ addrs.map addr24 := by
  simp only [addrInList, List.any_eq_true, beq_iff_eq, List.mem_map]

/-- What the first pass keeps: no label is collected twice, and the target of every collected branch
has its label. -/
structure TargetsCollected (p : FirstPass) : Prop where
  nodup : (p.labelTargets.map addr24).Nodup
  branches : ∀ i ∈ p.instrs, instrHasLocalBranchTarget i = true →
    addr24 i.target ∈ p.labelTargets.map addr24

theorem TargetsCollected.record {p : FirstPass} (h : TargetsCollected p) (instr : NgM68kInstr) :
    TargetsCollected (p.record instr) := by
  unfold FirstPass.record
  by_cases hnew : (instrHasLocalBranchTarget instr && !addrInList p.labelTargets instr.target) = true
  · -- A branch to an address not yet in the list.
    obtain ⟨-, hout⟩ := Bool.and_eq_true_iff.mp hnew
    have hnot : addr24 instr.target ∉ p.labelTargets.map addr24 := by
      intro hmem
      rw [addrInList_iff.mpr hmem] at hout
      cases hout
    rw [if_pos hnew]
    constructor
    · show ((p.labelTargets ++ [instr.target]).map addr24).Nodup
      rw [List.map_append, List.nodup_append_comm]
      exact List.nodup_cons.mpr ⟨hnot, h.nodup⟩
    · intro i hi hb
      show addr24 i.target ∈ (p.labelTargets ++ [instr.target]).map addr24
      rw [List.map_append, List.mem_append]
      rcases List.mem_append.mp hi with hold | hlast
      · exact .inl (h.branches i hold hb)
      · obtain rfl := List.mem_singleton.mp hlast
        exact .inr (List.mem_singleton.mpr rfl)
  · rw [if_neg hnew]
    refine ⟨h.nodup, fun i hi hb => ?_⟩
    rcases List.mem_append.mp hi with hold | hlast
    · exact h.branches i hold hb
    · obtain rfl := List.mem_singleton.mp hlast
      apply addrInList_iff.mp
      cases hin : addrInList p.labelTargets i.target with
      | true => rfl
      | false => exact absurd (by rw [hb, hin]; rfl) hnew

theorem firstPass_targetsCollected (rom : NgProgramRom) (turns : Nat) {p : FirstPass}
    (h : TargetsCollected p) : TargetsCollected (firstPass rom turns p) := by
  induction turns generalizing p with
  | zero => exact h
  | succ turns ih =>
    rcases hd : ngM68kDecode rom p.pc with ⟨ok, instr⟩
    have hr := h.record instr
    cases ok with
    | false =>
      simp only [firstPass, hd]
      exact ⟨h.nodup, h.branches⟩
    | true =>
      simp only [firstPass, hd]
      split_ifs with hs
      · exact hr
      · exact ih ⟨hr.nodup, hr.branches⟩

theorem bodyFirstPass_targetsCollected (rom : NgProgramRom) (start : BitVec 32) :
    TargetsCollected (bodyFirstPass rom start) := by
  unfold bodyFirstPass
  apply firstPass_targetsCollected
  exact ⟨List.nodup_nil, fun i hi => absurd hi List.not_mem_nil⟩

/-! ## Instruction addresses -/

/-- Addresses less than 16 MiB apart have different labels, also across the wrap. -/
theorem addr24_add_ne {pc : BitVec 32} {k : Nat} (hpos : 0 < k) (hlt : k < 2 ^ 24) :
    addr24 (pc + BitVec.ofNat 32 k) ≠ addr24 pc := by
  have hmod : ∀ a : BitVec 32, (addr24 a).toNat = a.toNat % 2 ^ 24 := by
    intro a
    show a.toNat &&& 0x00FFFFFF = a.toNat % 2 ^ 24
    exact Nat.and_two_pow_sub_one_eq_mod a.toNat 24
  intro h
  have h := congrArg BitVec.toNat h
  rw [hmod, hmod, BitVec.toNat_add, BitVec.toNat_ofNat] at h
  omega

/-- An instruction is at most ten bytes long. -/
theorem ScannedFrom.offset {rom : NgProgramRom} {fuel : Nat} {pc last : BitVec 32}
    {instrs : List NgM68kInstr} {failed : Bool} (h : ScannedFrom rom fuel pc instrs last failed) :
    ∀ i ∈ instrs, ∃ k, i.addr = pc + BitVec.ofNat 32 k ∧ k < 10 * fuel := by
  induction h with
  | limit pc => exact fun i hi => absurd hi List.not_mem_nil
  | fail hd => exact fun i hi => absurd hi List.not_mem_nil
  | @stop fuel pc instr hd hs =>
    intro i hi
    obtain rfl := List.mem_singleton.mp hi
    exact ⟨0, by rw [ngM68kDecode_addr hd]; simp, by omega⟩
  | @next fuel pc instr rest last failed hd hs hrest ih =>
    intro i hi
    rcases List.mem_cons.mp hi with rfl | hi
    · exact ⟨0, by rw [ngM68kDecode_addr hd]; simp, by omega⟩
    · obtain ⟨k, hk, hlt⟩ := ih i hi
      have hlen : instr.byteLength.toNat ≤ 10 := by
        rcases ngM68kDecode_length hd with hl | hl | hl | hl | hl <;> rw [hl] <;> decide
      refine ⟨instr.byteLength.toNat + k, ?_, by omega⟩
      rw [hk, BitVec.add_assoc, BitVec.ofNat_add, BitVec.ofNat_toNat]

/-- No two instructions of a body share a label. -/
theorem ScannedFrom.addrs_nodup {rom : NgProgramRom} {fuel : Nat} {pc last : BitVec 32}
    {instrs : List NgM68kInstr} {failed : Bool} (h : ScannedFrom rom fuel pc instrs last failed)
    (hfuel : 10 * fuel < 2 ^ 24) : (instrs.map fun i => addr24 i.addr).Nodup := by
  induction h with
  | limit pc => exact List.nodup_nil
  | fail hd => exact List.nodup_nil
  | stop hd hs => exact List.nodup_singleton _
  | @next fuel pc instr rest last failed hd hs hrest ih =>
    rw [List.map_cons, List.nodup_cons]
    refine ⟨?_, ih (by omega)⟩
    intro hmem
    obtain ⟨i, hi, heq⟩ := List.mem_map.mp hmem
    obtain ⟨k, hk, hlt⟩ := hrest.offset i hi
    have hlen : 2 ≤ instr.byteLength.toNat ∧ instr.byteLength.toNat ≤ 10 := by
      rcases ngM68kDecode_length hd with hl | hl | hl | hl | hl <;> rw [hl] <;> decide
    rw [hk, ngM68kDecode_addr hd, BitVec.add_assoc, ← BitVec.ofNat_toNat, ← BitVec.ofNat_add] at heq
    exact addr24_add_ne (by omega) (by omega) heq

/-! ## Printed items -/

section Abi
variable {β : Type} [GeneratedAbi β]

/-- The second pass prints every collected instruction, then the missing labels: only an instruction
that stops the first pass, the last one, ends it early. -/
theorem secondPass_items {rom : NgProgramRom} {fuel : Nat} {pc last : BitVec 32}
    {instrs : List NgM68kInstr} {failed : Bool} (h : ScannedFrom rom fuel pc instrs last failed)
    (labels : List (BitVec 32)) (trailing : List BodyItem) (endPc : BitVec 32)
    (d : NgEmitDiagnostics) :
    ∃ tail, ((tail = [] ∧ ∃ i ∈ instrs, stopsFirstPass i = true) ∨ tail = [.miss endPc false]) ∧
      (secondPass β labels trailing endPc instrs d).1 =
        instrs.map (fun i => .decoded (addrInList labels i.addr) i) ++ trailing ++ tail := by
  induction h generalizing d with
  | limit pc => exact ⟨_, .inr rfl, rfl⟩
  | fail hd => exact ⟨_, .inr rfl, rfl⟩
  | @stop fuel pc instr hd hs =>
    have hitem : ∀ out : List BodyItem × NgEmitDiagnostics,
        out.1 = .decoded (addrInList labels instr.addr) instr :: trailing →
        ∃ tail, ((tail = [] ∧ ∃ i ∈ [instr], stopsFirstPass i = true) ∨
          tail = [.miss endPc false]) ∧ out.1 =
          [instr].map (fun i => .decoded (addrInList labels i.addr) i) ++ trailing ++ tail := by
      intro out hout
      exact ⟨[], .inl ⟨rfl, instr, List.mem_singleton_self _, hs⟩,
        by rw [hout, List.append_nil]; rfl⟩
    apply hitem
    unfold secondPass
    dsimp only
    by_cases hv : ngM68kValidate instr = true
    · -- A validated instruction stopped the pass because it never falls through.
      have hlen := (ngM68kDecode_eq hd).2.1
      have hends : endsBody instr.mnemonic = true := by
        simp only [stopsFirstPass, hv, Bool.not_true, Bool.false_or, Bool.or_eq_true,
          decide_eq_true_eq] at hs
        exact hs.resolve_left hlen
      have hcont := (emitInstr_supported (β := β) hv).2
      rw [hends, Bool.not_true] at hcont
      rw [hv, hcont]
      rfl
    · rw [Bool.not_eq_true] at hv
      rw [hv]
      rfl
  | @next fuel pc instr rest last failed hd hs hrest ih =>
    obtain ⟨hv, hends⟩ := stopsFirstPass_eq_false hs
    obtain ⟨hsup, hcont⟩ := emitInstr_supported (β := β) hv
    rw [hends, Bool.not_false] at hcont
    obtain ⟨tail, htail, heq⟩ := ih d
    have hstops (h : ∃ i ∈ rest, stopsFirstPass i = true) :
        ∃ i ∈ instr :: rest, stopsFirstPass i = true := by
      obtain ⟨i, hi, hstop⟩ := h
      exact ⟨i, List.mem_cons_of_mem _ hi, hstop⟩
    refine ⟨tail, htail.imp_left (And.imp_right hstops), ?_⟩
    simp only [secondPass, hv, hsup, hcont, Bool.not_true, Bool.false_eq_true, if_false, if_true,
      heq]
    rfl

/-- The labels printed before the collected instructions. -/
theorem filterMap_label_decoded (labels : List (BitVec 32)) (instrs : List NgM68kInstr) :
    (instrs.map fun i => BodyItem.decoded (addrInList labels i.addr) i).filterMap BodyItem.label =
      (instrs.filter fun i => addrInList labels i.addr).map fun i => addr24 i.addr := by
  induction instrs with
  | nil => rfl
  | cons i rest ih =>
    rw [List.filter_cons, List.map_cons]
    cases hl : addrInList labels i.addr with
    | true =>
      rw [if_pos rfl, List.map_cons, ← ih]
      rfl
    | false =>
      rw [if_neg Bool.false_ne_true, ← ih]
      rfl

theorem filterMap_label_missing (instrs : List NgM68kInstr) (targets : List (BitVec 32)) :
    (emitMissingBranchLabels instrs targets).filterMap BodyItem.label =
      (targets.filter fun t => !instrs.any fun i => addr24 i.addr == addr24 t).map addr24 := by
  unfold emitMissingBranchLabels
  rw [List.filterMap_map]
  exact congrFun List.filterMap_eq_map _

/-- A missing label stands at none of the instructions. -/
theorem mem_missing_iff {instrs : List NgM68kInstr} {targets : List (BitVec 32)} {l : BitVec 32} :
    l ∈ (targets.filter fun t => !instrs.any fun i => addr24 i.addr == addr24 t).map addr24 ↔
      l ∈ targets.map addr24 ∧ l ∉ instrs.map fun i => addr24 i.addr := by
  simp only [List.mem_map, List.mem_filter, Bool.not_eq_true', List.any_eq_false, beq_iff_eq]
  constructor
  · rintro ⟨t, ⟨ht, hnone⟩, rfl⟩
    exact ⟨⟨t, ht, rfl⟩, fun ⟨i, hi, heq⟩ => hnone i hi heq⟩
  · rintro ⟨⟨t, ht, rfl⟩, hnone⟩
    exact ⟨t, ⟨ht, fun i hi heq => hnone ⟨i, hi, heq⟩⟩, rfl⟩

/-- The labels of a body. -/
def bodyLabels (body : List BodyItem) : List (BitVec 32) := body.filterMap BodyItem.label

/-- A body has the labels of its first pass, each of them once: those at its instructions come
first. -/
theorem emitFunctionBody_bodyLabels (rom : NgProgramRom) (start : BitVec 32)
    (d : NgEmitDiagnostics) :
    (bodyLabels (emitFunctionBody β rom start d).1).Nodup ∧
      ((bodyFirstPass rom start).decodeFailed = false → ∀ l,
        l ∈ bodyLabels (emitFunctionBody β rom start d).1 ↔
          l ∈ (bodyFirstPass rom start).labelTargets.map addr24) := by
  have hscan := bodyFirstPass_scanned rom start
  have htargets := bodyFirstPass_targetsCollected rom start
  unfold emitFunctionBody
  dsimp only
  generalize bodyFirstPass rom start = p at hscan htargets ⊢
  cases hf : p.decodeFailed with
  | true => exact ⟨List.nodup_nil, fun h => absurd h (by decide)⟩
  | false =>
    obtain ⟨tail, htail, hitems⟩ := secondPass_items (β := β) hscan p.labelTargets
      (emitMissingBranchLabels p.instrs p.labelTargets) p.pc d
    have hnone : tail.filterMap BodyItem.label = [] := by
      rcases htail with ⟨rfl, -⟩ | rfl <;> rfl
    have hlabels : bodyLabels (secondPass β p.labelTargets
        (emitMissingBranchLabels p.instrs p.labelTargets) p.pc p.instrs d).1 =
        ((p.instrs.filter fun i => addrInList p.labelTargets i.addr).map fun i => addr24 i.addr) ++
          (p.labelTargets.filter fun t =>
            !p.instrs.any fun i => addr24 i.addr == addr24 t).map addr24 := by
      rw [hitems, bodyLabels, List.filterMap_append, List.filterMap_append, hnone,
        List.append_nil, filterMap_label_decoded, filterMap_label_missing]
    rw [if_neg Bool.false_ne_true, hlabels]
    constructor
    · rw [List.nodup_append]
      refine ⟨?_, ?_, ?_⟩
      · have hnodup := hscan.addrs_nodup (by decide)
        exact hnodup.sublist (List.filter_sublist.map _)
      · exact htargets.nodup.sublist (List.filter_sublist.map _)
      · intro a ha b hb heq
        subst heq
        obtain ⟨i, hi, rfl⟩ := List.mem_map.mp ha
        apply (mem_missing_iff.mp hb).2
        exact List.mem_map.mpr ⟨i, (List.mem_filter.mp hi).1, rfl⟩
    · intro _ l
      rw [List.mem_append, mem_missing_iff]
      constructor
      · rintro (hat | ⟨hmem, -⟩)
        · obtain ⟨i, hi, rfl⟩ := List.mem_map.mp hat
          exact addrInList_iff.mp (List.mem_filter.mp hi).2
        · exact hmem
      · intro hmem
        by_cases hat : l ∈ p.instrs.map fun i => addr24 i.addr
        · obtain ⟨i, hi, rfl⟩ := List.mem_map.mp hat
          exact .inl (List.mem_map.mpr ⟨i, List.mem_filter.mpr ⟨hi, addrInList_iff.mpr hmem⟩, rfl⟩)
        · exact .inr ⟨hmem, hat⟩

end Abi

/-! ## Gotos -/

section Gotos
variable {β α γ : Type}

/-- Code whose gotos all go to labels in `P`. -/
class JumpsWithin (P : BitVec 32 → Prop) (x : Gen β α) : Prop where
  goto : ∀ m l m', x m = .exit (.goto l) m' → P l

variable {P : BitVec 32 → Prop}

instance Tame.jumpsWithin (x : Gen β α) [h : Tame x] : JumpsWithin P x where
  goto m l m' hx := by cases (h.exit m _ m' hx).1

theorem DispatchTest.jumpsWithin {x : Gen β Bool} {stop : Bool} (h : DispatchTest x stop) :
    JumpsWithin P x where
  goto m l m' hx := by cases (h.exit m _ m' hx).1

instance ret_jumpsWithin : JumpsWithin P (Gen.ret : Gen β α) where
  goto m l m' h := by cases h

theorem goto_jumpsWithin {target : BitVec 32} (h : P (addr24 target)) :
    JumpsWithin P (Gen.goto target : Gen β α) where
  goto m l m' hx := by cases hx; exact h

instance dispatch_jumpsWithin (addr : BitVec 32) :
    JumpsWithin P (Gen.dispatch addr : Gen β Unit) where
  goto m l m' h := by cases h

instance sampleTraceSr_jumpsWithin : JumpsWithin P (sampleTraceSr : Gen β Unit) where
  goto m l m' h := by cases h

instance logDispatchMiss_jumpsWithin (addr : BitVec 32) :
    JumpsWithin P (logDispatchMiss addr : Gen β Unit) where
  goto m l m' h := by cases h

instance bind_jumpsWithin (x : Gen β α) (f : α → Gen β γ) [hx : JumpsWithin P x]
    [hf : ∀ a, JumpsWithin P (f a)] : JumpsWithin P (x >>= f) where
  goto m l m' h := by
    rw [bind_apply] at h
    cases hm : x m with
    | exit e m₁ => rw [hm] at h; cases h; exact hx.goto m l m' hm
    | next a m₁ => rw [hm] at h; exact (hf a).goto m₁ l m' h

instance ite_jumpsWithin (c : Prop) [Decidable c] (x y : Gen β α) [JumpsWithin P x]
    [JumpsWithin P y] : JumpsWithin P (if c then x else y) := by
  split_ifs <;> infer_instance

section Abi
variable [GeneratedAbi β] (instr : NgM68kInstr)

instance ngServiceInterrupt_jumpsWithin (pc : BitVec 32) :
    JumpsWithin P (ngServiceInterrupt pc : Gen β Bool) :=
  @DispatchTest.jumpsWithin _ _ _ true inferInstance

instance missReturn_jumpsWithin : JumpsWithin P (missReturn instr.addr : Gen β Unit) := by
  unfold missReturn
  infer_instance

instance stopText_jumpsWithin : JumpsWithin P (stopText instr : Gen β Unit) := by
  unfold stopText
  refine @bind_jumpsWithin _ _ _ _ _ _ inferInstance fun _ => ?_
  refine @bind_jumpsWithin _ _ _ _ _ _ inferInstance fun _ => ?_
  refine @bind_jumpsWithin _ _ _ _ _ _ inferInstance fun _ => ?_
  infer_instance

instance instrPrologue_jumpsWithin (cycles : NgM68kInstr → BitVec 8) :
    JumpsWithin P (instrPrologue cycles instr : Gen β Unit) := by
  -- From the interrupt test on.
  have hserve : JumpsWithin P (do
      if ← ngServiceInterrupt (addr24 instr.addr) then Gen.ret
      call fun b => ((), GeneratedAbi.cycleHook (addr24 instr.addr) ((cycles instr).setWidth 32) b)
      sampleTraceSr : Gen β Unit) := by
    refine @bind_jumpsWithin _ _ _ _ _ _ inferInstance fun _ => ?_
    infer_instance
  unfold instrPrologue
  dsimp only
  infer_instance

theorem dbccStatements_jumpsWithin (h : P (addr24 instr.target)) :
    JumpsWithin P (dbccStatements instr : Gen β Unit) := by
  have hgoto := goto_jumpsWithin (β := β) (α := Unit) h
  unfold dbccStatements
  infer_instance

/-- A condition that is never true prints no goto. -/
theorem emitBranchCondition_jumpsWithin (h : instr.condition ≠ 1 → P (addr24 instr.target)) :
    JumpsWithin P (emitBranchCondition instr : Gen β Unit × Bool).1 := by
  unfold emitBranchCondition
  dsimp only
  by_cases h1 : instr.condition = 1
  · rw [if_neg (by rw [h1]; decide), if_pos h1]
    infer_instance
  · have hgoto := goto_jumpsWithin (β := β) (α := Unit) (h h1)
    split_ifs
    · dsimp only; infer_instance
    · split <;> dsimp only <;> infer_instance

/-- The printed code of an instruction jumps nowhere but to the target collected for it. -/
theorem emitInstr_jumpsWithin (hv : ngM68kValidate instr = true)
    (h : instrHasLocalBranchTarget instr = true → P (addr24 instr.target)) :
    JumpsWithin P (emitInstr (β := β) instr).text := by
  have hsup := (emitInstr_supported (β := β) hv).1
  unfold instrHasLocalBranchTarget at h
  cases hb : branchesOrWaits instr.mnemonic with
  | false =>
    have := emitInstr_tame (β := β) instr hb hsup
    infer_instance
  | true =>
    unfold emitInstr
    cases hm : instr.mnemonic <;> rw [hm] at hb <;> cases hb <;> rw [hm] at h
    · exact inferInstanceAs (JumpsWithin P (stopText instr))
    · -- BRA
      have hcond := emitBranchCondition_jumpsWithin (β := β) instr fun _ => h rfl
      dsimp only
      unfold emitBra
      split
      · next heq => rw [heq] at hcond; exact hcond
      · next heq =>
        rw [heq] at hcond
        unfold unsupportedFallback
        dsimp only at hcond ⊢
        infer_instance
    · -- Bcc
      exact emitBranchCondition_jumpsWithin instr fun h1 => h (decide_eq_true h1)
    · -- DBcc
      dsimp only
      unfold emitDbcc unsupportedFallback fallsThrough
      by_cases h0 : instr.condition = 0
      · rw [if_pos h0]
        dsimp only
        infer_instance
      · have hdbcc := dbccStatements_jumpsWithin (β := β) instr (h (decide_eq_true h0))
        rw [if_neg h0]
        split_ifs
        · exact hdbcc
        · split <;> dsimp only <;> infer_instance

theorem instrText_jumpsWithin
    (h : instrHasLocalBranchTarget instr = true → P (addr24 instr.target)) :
    JumpsWithin P (instrText instr : Gen β Unit) := by
  unfold instrText
  split_ifs with hv
  · infer_instance
  · have := emitInstr_jumpsWithin (β := β) instr (by simpa using hv) h
    unfold instrEpilogue
    infer_instance
  · have := emitInstr_jumpsWithin (β := β) instr (by simpa using hv) h
    infer_instance

/-- The label of the goto in an item's text. -/
def BodyItem.gotoLabel : BodyItem → Option (BitVec 32)
  | .decoded _ instr =>
      if instrHasLocalBranchTarget instr then some (addr24 instr.target) else none
  | .dispatchLabel _ | .miss _ _ => none

theorem code_jumpsWithin (cycles : NgM68kInstr → BitVec 8) (item : BodyItem)
    (h : ∀ l, item.gotoLabel = some l → P l) : JumpsWithin P (item.code cycles : Gen β Unit) := by
  cases item with
  | decoded labelled instr =>
    have := instrText_jumpsWithin (β := β) (P := P) instr fun hb => h _ (if_pos hb)
    unfold BodyItem.code
    infer_instance
  | dispatchLabel target => unfold BodyItem.code; infer_instance
  | miss addr returns => unfold BodyItem.code; infer_instance

/-! ## Well-formed bodies -/

/-- Every goto of a body has its label. -/
theorem gotoLabel_mem_bodyLabels (rom : NgProgramRom) (start : BitVec 32) (d : NgEmitDiagnostics)
    {item : BodyItem} (hitem : item ∈ (emitFunctionBody β rom start d).1) {l : BitVec 32}
    (hl : item.gotoLabel = some l) : l ∈ bodyLabels (emitFunctionBody β rom start d).1 := by
  have hmem := (emitFunctionBody_bodyLabels (β := β) rom start d).2
  have hcollected := (bodyFirstPass_targetsCollected rom start).branches
  cases hf : (bodyFirstPass rom start).decodeFailed with
  | true =>
    -- No instruction is printed after a decode error.
    have hbody : (emitFunctionBody β rom start d).1 = [.miss (bodyFirstPass rom start).pc true] := by
      unfold emitFunctionBody
      dsimp only
      rw [if_pos hf]
    rw [hbody] at hitem
    obtain rfl := List.mem_singleton.mp hitem
    cases hl
  | false =>
    rw [hmem hf]
    obtain ⟨tail, htail, hitems⟩ := secondPass_items (β := β) (bodyFirstPass_scanned rom start)
      (bodyFirstPass rom start).labelTargets (emitMissingBranchLabels (bodyFirstPass rom start).instrs
        (bodyFirstPass rom start).labelTargets) (bodyFirstPass rom start).pc d
    have hbody : item ∈ (secondPass β (bodyFirstPass rom start).labelTargets
        (emitMissingBranchLabels (bodyFirstPass rom start).instrs
          (bodyFirstPass rom start).labelTargets) (bodyFirstPass rom start).pc
        (bodyFirstPass rom start).instrs d).1 := by
      unfold emitFunctionBody at hitem
      dsimp only at hitem
      rw [hf] at hitem
      exact hitem
    rw [hitems, List.mem_append, List.mem_append] at hbody
    rcases hbody with (hdecoded | hmissing) | hend
    · obtain ⟨i, hi, rfl⟩ := List.mem_map.mp hdecoded
      unfold BodyItem.gotoLabel at hl
      dsimp only at hl
      split_ifs at hl with hb
      cases hl
      exact hcollected i hi hb
    · obtain ⟨t, ht, rfl⟩ := List.mem_map.mp hmissing
      cases hl
    · rcases htail with ⟨rfl, -⟩ | rfl
      · exact absurd hend List.not_mem_nil
      · obtain rfl := List.mem_singleton.mp hend
        cases hl

/-- The labels of every emitted body are sound: none is defined twice, the label of every goto is
defined once, a goto runs only where one is printed, and after any number of turns of the first pass
the instruction and label arrays hold at most one entry a turn. -/
theorem emitFunctionBody_labels (rom : NgProgramRom) (start : BitVec 32) (d : NgEmitDiagnostics) :
    (bodyLabels (emitFunctionBody β rom start d).1).Nodup ∧
      (∀ item ∈ (emitFunctionBody β rom start d).1,
        (∀ l, item.gotoLabel = some l →
          (bodyLabels (emitFunctionBody β rom start d).1).count l = 1) ∧
        ∀ (cycles : NgM68kInstr → BitVec 8) (m m' : Machine β) (l : BitVec 32),
          item.code cycles m = .exit (.goto l) m' → item.gotoLabel = some l) ∧
      ∀ turns ≤ ngEmitMaxInstructions,
        let p := firstPass rom turns
          { instrs := [], labelTargets := [], pc := start, decodeFailed := false }
        p.instrs.length ≤ turns ∧ p.labelTargets.length ≤ turns := by
  have hnodup := (emitFunctionBody_bodyLabels (β := β) rom start d).1
  refine ⟨hnodup, fun item hitem => ⟨fun l hl => ?_, fun cycles m m' l hrun => ?_⟩, ?_⟩
  · exact List.count_eq_one_of_mem hnodup (gotoLabel_mem_bodyLabels rom start d hitem hl)
  · have hjumps := code_jumpsWithin (β := β) (P := fun l => item.gotoLabel = some l) cycles item
      fun l hl => hl
    exact hjumps.goto m l m' hrun
  · intro turns _
    have h := firstPass_lengths rom turns
      { instrs := [], labelTargets := [], pc := start, decodeFailed := false }
    simpa using h

end Abi

end Gotos

/-- `BRA.S` to itself. -/
def loopRom : NgProgramRom where
  data := #[0x60, 0xFE]
  size := 2
  size_eq := rfl

theorem emitFunctionBody_labels_loop :
    (bodyLabels (emitFunctionBody Ram loopRom 0 {}).1).count 0 = 1 ∧
      (firstPass loopRom 192
        { instrs := [], labelTargets := [], pc := 0, decodeFailed := false }).instrs.length ≤ 192 := by
  obtain ⟨-, hitems, hturns⟩ := emitFunctionBody_labels (β := Ram) loopRom 0 {}
  have hbra : BodyItem.decoded true
      { addr := 0, opcode := 0x60FE, mnemonic := .bra, byteLength := 2, displacement := 0xFFFE } ∈
        (emitFunctionBody Ram loopRom 0 {}).1 := by
    decide +kernel
  exact ⟨(hitems _ hbra).1 0 (by decide), (hturns 192 (by decide)).1⟩

section Progress
variable {β : Type} [GeneratedAbi β]

/-- A running body never stands before a goto without a label. -/
theorem bodyStep_isSome (rom : NgProgramRom) (start : BitVec 32) (d : NgEmitDiagnostics)
    (cycles : NgM68kInstr → BitVec 8) (i : Nat) (m : Machine β) :
    (bodyStep cycles (emitFunctionBody β rom start d).1 i m).isSome = true := by
  unfold bodyStep
  cases hi : (emitFunctionBody β rom start d).1[i]? with
  | none => rfl
  | some item =>
    dsimp only
    have hitem := List.mem_of_getElem? hi
    cases hx : item.code cycles m with
    | next a m' => rfl
    | exit e m' =>
      cases e with
      | ret => rfl
      | goto l =>
        have hjumps := code_jumpsWithin (β := β) (P := fun l => item.gotoLabel = some l) cycles item
          fun l hl => hl
        have hmem := gotoLabel_mem_bodyLabels rom start d hitem (hjumps.goto m l m' hx)
        obtain ⟨labelled, hat, hlabel⟩ := List.mem_filterMap.mp hmem
        dsimp only
        rw [Option.isSome_map, labelIndex, List.findIdx?_isSome, List.any_eq_true]
        exact ⟨labelled, hat, by rw [hlabel]; exact beq_self_eq_true _⟩

end Progress

end NeoRecomp
