import NeoRecomp.Correct.AuditSites
import NeoRecomp.Correct.WorklistRuns

/-!
# Jump tables in discovery and in the audit

Both scan the same path from a root and look for the same tables.  Discovery knows at least the
registers the audit knows, so a table the audit records is one whose entries discovery has added,
but for the entries that its own filter refuses and the audit's does not.
-/

namespace NeoRecomp

/-! ## Address registers -/

/-- A register known in the first state has the same value in the second. -/
def NgM68kStaticAregState.Below (a b : NgM68kStaticAregState) : Prop :=
  ∀ r, a.valid r = true → b.valid r = true ∧ b.target r = a.target r

section Registers
variable {a b : NgM68kStaticAregState} {instr first dispatch : NgM68kInstr}
  {q : NgM68kJumpTablePattern}

theorem below_reset (b : NgM68kStaticAregState) : ngM68kStaticAregReset.Below b :=
  fun r h => by cases h

theorem NgM68kStaticAregState.Below.load (h : a.Below b) (r : Fin 8) (target : BitVec 32) :
    (a.load r target).Below (b.load r target) := by
  intro r' hv
  by_cases hr : r' = r
  · rw [hr]
    unfold NgM68kStaticAregState.load
    simp only [Function.update_self, true_and]
  · unfold NgM68kStaticAregState.load at hv ⊢
    simp only [Function.update_of_ne hr] at hv ⊢
    exact h r' hv

theorem NgM68kStaticAregState.Below.drop (h : a.Below b) (r : Fin 8) :
    (a.drop r).Below (b.drop r) := by
  intro r' hv
  by_cases hr : r' = r
  · rw [hr] at hv
    unfold NgM68kStaticAregState.drop at hv
    simp only [Function.update_self, Bool.false_eq_true] at hv
  · unfold NgM68kStaticAregState.drop at hv ⊢
    simp only [Function.update_of_ne hr] at hv ⊢
    exact h r' hv

theorem NgM68kStaticAregState.Below.invalidate (h : a.Below b) (instr : NgM68kInstr) :
    (staticAregInvalidate a instr).Below (staticAregInvalidate b instr) := by
  unfold staticAregInvalidate
  cases instrWritesAreg instr with
  | none => exact h
  | some reg =>
    dsimp only
    split_ifs
    · exact h.drop _
    · exact h

theorem NgM68kStaticAregState.Below.update (h : a.Below b) (instr : NgM68kInstr) :
    (ngM68kStaticAregUpdate a instr).Below (ngM68kStaticAregUpdate b instr) := by
  unfold ngM68kStaticAregUpdate
  by_cases hcall : instr.mnemonic = .jsr ∨ instr.mnemonic = .bsr
  · rw [if_pos hcall, if_pos hcall]
    exact ((h.drop 0).drop 1).drop 7
  · rw [if_neg hcall, if_neg hcall]
    cases staticAregLoadTarget instr with
    | none => exact h.invalidate instr
    | some loaded =>
      dsimp only
      split_ifs
      · exact h.load _ _
      · exact h.invalidate instr

/-- The audit forgets a register that is loaded from a data register; discovery may know it. -/
theorem NgM68kStaticAregState.Below.loadFromDreg (h : a.Below b) (dreg : StaticDregState)
    (instr : NgM68kInstr) :
    (ngM68kStaticAregUpdate a instr).Below
      (staticDregToAregUpdate (ngM68kStaticAregUpdate b instr) dreg instr) := by
  have hupdate := h.update instr
  unfold staticDregToAregUpdate
  split_ifs with hload
  · cases hd : dreg (regIndex instr.src.reg) with
    | none => exact hupdate
    | some target =>
      obtain ⟨hm, -, hsrc, -, hdst, hreg⟩ := hload
      have hdropped : ngM68kStaticAregUpdate a instr = a.drop (regIndex instr.dst.reg) := by
        have hnone : staticAregLoadTarget instr = none := by
          simp [staticAregLoadTarget, hm, hsrc]
        have hwrites : instrWritesAreg instr = some instr.dst.reg := by
          simp [instrWritesAreg, hm, hdst]
        rw [ngM68kStaticAregUpdate, if_neg (by simp [hm]), hnone]
        dsimp only
        rw [staticAregInvalidate, hwrites]
        exact if_pos hreg
      intro r hv
      have hr : r ≠ regIndex instr.dst.reg := by
        rintro rfl
        rw [hdropped] at hv
        unfold NgM68kStaticAregState.drop at hv
        simp only [Function.update_self, Bool.false_eq_true] at hv
      unfold NgM68kStaticAregState.load
      simp only [Function.update_of_ne hr]
      exact hupdate r hv
  · exact hupdate

theorem NgM68kStaticAregState.Below.staticTableAddr (h : a.Below b) {ea : NgM68kEa}
    (hv : a.valid (regIndex ea.reg) = true) :
    NeoRecomp.staticTableAddr b ea = NeoRecomp.staticTableAddr a ea := by
  unfold NeoRecomp.staticTableAddr
  rw [(h _ hv).2]

theorem NgM68kStaticAregState.Below.indexJumpTable (h : a.Below b)
    (hq : ngM68kMatchStaticIndexJumpTable first dispatch a = some q) :
    ngM68kMatchStaticIndexJumpTable first dispatch b = some q := by
  unfold ngM68kMatchStaticIndexJumpTable at hq ⊢
  split_ifs at hq with hload hdispatch
  have hv : a.valid (regIndex first.src.reg) = true := by
    cases hv : a.valid (regIndex first.src.reg) with
    | true => rfl
    | false => exact absurd (.inr (.inr (.inr (.inr (.inr hv))))) hload
  rw [hv] at hload
  rw [(h _ hv).1, if_neg hload, if_neg hdispatch, ← hq, h.staticTableAddr hv]

theorem NgM68kStaticAregState.Below.indexBranchTable (h : a.Below b)
    (hq : ngM68kMatchStaticIndexBranchTable dispatch a = some q) :
    ngM68kMatchStaticIndexBranchTable dispatch b = some q := by
  unfold ngM68kMatchStaticIndexBranchTable at hq ⊢
  split_ifs at hq with hdispatch
  have hv : a.valid (regIndex dispatch.src.reg) = true := by
    cases hv : a.valid (regIndex dispatch.src.reg) with
    | true => rfl
    | false => exact absurd (.inr (.inr (.inr hv))) hdispatch
  rw [hv] at hdispatch
  rw [(h _ hv).1, if_neg hdispatch, ← hq, h.staticTableAddr hv]

end Registers

/-! ## The tables of an instruction -/

/-- The locals of the audit beside those of discovery at the same instruction. -/
structure AuditLocals.Tracks (locals : AuditLocals) (s : ScanState) : Prop where
  previous : s.previous = locals.previous
  areg : locals.areg.Below s.areg
  previousAreg : locals.previousAreg.Below s.previousAreg
  indexBound : s.indexBound = locals.indexBound

section Tables
variable {rom : NgProgramRom} {config : NgGameConfig} {start : BitVec 32} {locals : AuditLocals}
  {s : ScanState} {instr previous : NgM68kInstr} {q pattern : NgM68kJumpTablePattern}

theorem tracks_start : AuditLocals.Tracks {} {} :=
  ⟨rfl, below_reset _, below_reset _, rfl⟩

theorem AuditLocals.Tracks.update (h : locals.Tracks s) (instr : NgM68kInstr) :
    (locals.update instr).Tracks (s.update rom config instr) where
  previous := rfl
  areg := h.areg.loadFromDreg s.dreg instr
  previousAreg := h.areg
  indexBound := congrArg (ngM68kIndexRegBoundUpdate · instr) h.indexBound

theorem applyIndexBound_of_code (hq : q.entryKind ≠ .abs32) (bound : NgM68kIndexRegBoundState) :
    ngM68kJumpTableApplyIndexBound q bound = q := by
  unfold ngM68kJumpTableApplyIndexBound indexBoundApplies
  rw [decide_eq_false hq]
  rfl

/-- Inlined code, branches and repeated jumps are tables of code. -/
theorem matchedCodeTable_kind {previous : Option NgM68kInstr}
    (h : matchedCodeTable rom previous instr = some q) : q.entryKind ≠ .abs32 := by
  unfold matchedCodeTable at h
  simp only [Option.orElse_eq_orElse, Option.orElse_eq_or, Option.or_eq_some_iff] at h
  rcases h with h | ⟨-, h | ⟨-, h⟩⟩
  · obtain ⟨prev, -, h⟩ := Option.bind_eq_some_iff.mp h
    unfold ngM68kMatchPcIndexInlineCodeTable at h
    split_ifs at h
    obtain ⟨signature, -, rfl⟩ := Option.map_eq_some_iff.mp h
    exact NgM68kJumpTableEntryKind.noConfusion
  · unfold ngM68kMatchPcIndexBranchTable at h
    split_ifs at h
    obtain rfl := Option.some.inj h
    exact NgM68kJumpTableEntryKind.noConfusion
  · unfold ngM68kMatchRepeatedDirectDispatchTable at h
    dsimp only at h
    split_ifs at h
    obtain rfl := Option.some.inj h
    exact NgM68kJumpTableEntryKind.noConfusion

theorem calls_of_addressTable (hprevious : s.previous = some previous)
    (h : matchedAddressTable s previous instr = some pattern) :
    ∀ call ∈ addJumpTableTargets rom pattern, call ∈ contextCalls rom start config s instr := by
  intro call hcall
  unfold contextCalls
  rw [hprevious]
  dsimp only
  rw [pairCalls, h]
  iterate 5 apply List.mem_append_left
  exact hcall

theorem calls_of_codeTable (h : matchedCodeTable rom s.previous instr = some pattern) :
    ∀ call ∈ addJumpTableTargets rom pattern, call ∈ contextCalls rom start config s instr := by
  intro call hcall
  unfold contextCalls
  rw [h]
  iterate 4 apply List.mem_append_left
  exact List.mem_append_right _ hcall

/-- A table of addresses that the audit matches is the first that discovery matches. -/
theorem AuditLocals.Tracks.addressTable (h : locals.Tracks s)
    (hq : (ngM68kMatchPcIndexJumpTable previous instr <|>
      ngM68kMatchStaticIndexJumpTable previous instr locals.previousAreg <|>
      ngM68kMatchStaticIndexBranchTable instr locals.areg) = some q) :
    matchedAddressTable s previous instr =
      some (ngM68kJumpTableApplyIndexBound q locals.indexBound) := by
  unfold matchedAddressTable
  rw [h.indexBound]
  refine Option.map_eq_some_iff.mpr ⟨q, ?_, rfl⟩
  simp only [Option.orElse_eq_orElse, Option.orElse_eq_or, Option.or_eq_some_iff] at hq ⊢
  rcases hq with hq | ⟨hnone, hq | ⟨-, hq⟩⟩
  · exact .inl hq
  · exact .inr ⟨hnone, .inl (h.previousAreg.indexJumpTable hq)⟩
  · refine .inr ⟨hnone, .inr ⟨?_, h.areg.indexBranchTable hq⟩⟩
    -- the two matchers want different operands
    unfold ngM68kMatchStaticIndexBranchTable at hq
    split_ifs at hq with hdispatch
    push Not at hdispatch
    unfold ngM68kMatchStaticIndexJumpTable
    rw [hdispatch.2.1]
    split_ifs
    · rfl
    · rfl
    · rename_i hmode
      simp at hmode

theorem orElse_regroup {α : Type} (a b c d e f : Option α) :
    ((a <|> b <|> c <|> d) <|> e <|> f) = ((a <|> b <|> c) <|> d <|> e <|> f) := by
  cases a with
  | some a => rfl
  | none =>
    cases b with
    | some b => rfl
    | none =>
      cases c with
      | some c => rfl
      | none => rfl

variable (start config) in
/-- Discovery adds the targets of every table the audit matches. -/
theorem AuditLocals.Tracks.table_calls (h : locals.Tracks s)
    (hpattern : auditMatchedTable rom locals instr = some pattern) :
    ∀ call ∈ addJumpTableTargets rom pattern, call ∈ contextCalls rom start config s instr := by
  unfold auditMatchedTable at hpattern
  obtain ⟨q, hq, rfl⟩ := Option.map_eq_some_iff.mp hpattern
  have hcode (hq : matchedCodeTable rom s.previous instr = some q) :
      ∀ call ∈ addJumpTableTargets rom (ngM68kJumpTableApplyIndexBound q locals.indexBound),
        call ∈ contextCalls rom start config s instr := by
    rw [applyIndexBound_of_code (matchedCodeTable_kind hq)]
    exact calls_of_codeTable hq
  cases hprevious : locals.previous with
  | none =>
    apply hcode
    rw [hprevious] at hq
    rw [matchedCodeTable, h.previous, hprevious]
    exact hq
  | some previous =>
    have hs : s.previous = some previous := h.previous.trans hprevious
    rw [hprevious, Option.bind_some, orElse_regroup] at hq
    cases haddress : (ngM68kMatchPcIndexJumpTable previous instr <|>
        ngM68kMatchStaticIndexJumpTable previous instr locals.previousAreg <|>
        ngM68kMatchStaticIndexBranchTable instr locals.areg) with
    | some q' =>
      rw [haddress] at hq
      cases hq
      exact calls_of_addressTable hs (h.addressTable haddress)
    | none =>
      apply hcode
      rw [haddress] at hq
      rw [matchedCodeTable, hs]
      exact hq

theorem stopsScan_eq (instr : NgM68kInstr) : stopsScan instr = instrStopsScan instr := by
  unfold stopsScan instrStopsScan
  cases instr.mnemonic <;> rfl

variable (start config) in
/-- Every item of a path is one that the scan from the same root has handled. -/
theorem linearPath_scanned {item : AuditItem} {turns : Nat} {pc : BitVec 32}
    (h : locals.Tracks s) (hitem : item ∈ linearPath rom turns pc locals) :
    item.rom = rom ∧ ∃ s', item.locals.Tracks s' ∧
      ∀ call ∈ scanCalls rom start item.pc config s' item.instr,
        call ∈ scanTurns rom start config turns pc s := by
  induction turns generalizing pc locals s with
  | zero => exact absurd hitem List.not_mem_nil
  | succ turns ih =>
    unfold linearPath at hitem
    unfold scanTurns
    cases hdecode : decodeCode rom pc with
    | none =>
      rw [hdecode] at hitem
      exact absurd hitem List.not_mem_nil
    | some instr =>
      rw [hdecode] at hitem
      dsimp only at hitem ⊢
      rw [stopsScan_eq]
      rcases List.mem_cons.mp hitem with rfl | hrest
      · exact ⟨rfl, s, h, fun call hcall => List.mem_append_left _ hcall⟩
      · by_cases hstop : instrStopsScan instr = true
        · rw [if_pos hstop] at hrest
          exact absurd hrest List.not_mem_nil
        · rw [if_neg hstop] at hrest ⊢
          obtain ⟨hrom, s', hs', hcalls⟩ := ih (h.update instr) hrest
          exact ⟨hrom, s', hs', fun call hcall => List.mem_append_right _ (hcalls call hcall)⟩

end Tables

/-! ## The entries of a table -/

/-- The longword at a place of a table of addresses. -/
def tableTarget (rom : NgProgramRom) (pattern : NgM68kJumpTablePattern) (i : Nat) : BitVec 32 :=
  ngProgramRomRead32 rom (pattern.tableAddr + BitVec.ofNat 32 i * pattern.entrySize.setWidth 32)

/-- The entries that the audit looks up and discovery refuses: in a bounded table of addresses all
from the first extra entry on that runs on without a control transfer, in a table of code those that
are no function. -/
inductive RefusedEntry (rom : NgProgramRom) (pattern : NgM68kJumpTablePattern) : BitVec 32 → Prop
  | tail {i j} (hkind : pattern.entryKind = .abs32) (hbound : pattern.maxEntries ≠ 0) (hi : 4 ≤ i)
      (hij : i ≤ j)
      (hstrict : isProbableStrictHeuristicCodeTarget rom (tableTarget rom pattern i) = false) :
      RefusedEntry rom pattern (tableTarget rom pattern j)
  | code {entry} (hkind : pattern.entryKind ≠ .abs32)
      (hprobable : isProbableFunctionTarget rom entry = false) : RefusedEntry rom pattern entry

section Entries
variable {rom : NgProgramRom} {pattern : NgM68kJumpTablePattern} {entry : BitVec 32}

theorem mem_abs32TableTargets {allowed : Nat → BitVec 32 → Bool} {turns i : Nat}
    (h : entry ∈ abs32TableTargets rom pattern allowed turns i) :
    ∃ j, i ≤ j ∧ entry = tableTarget rom pattern j ∧ allowed j entry = true := by
  induction turns generalizing i with
  | zero => exact absurd h List.not_mem_nil
  | succ turns ih =>
    have hlater (h : entry ∈ abs32TableTargets rom pattern allowed turns (i + 1)) :
        ∃ j, i ≤ j ∧ entry = tableTarget rom pattern j ∧ allowed j entry = true := by
      obtain ⟨j, hj, hentry⟩ := ih h
      exact ⟨j, Nat.le_of_succ_le hj, hentry⟩
    unfold abs32TableTargets at h
    dsimp only at h
    split_ifs at h with hmapped hallowed hbound
    · exact absurd h List.not_mem_nil
    · rcases List.mem_cons.mp h with rfl | h
      · exact ⟨i, Nat.le_refl i, rfl, hallowed⟩
      · exact hlater h
    · exact absurd h List.not_mem_nil
    · exact hlater h

theorem probable_of_tableTargetAllowed {i : Nat}
    (h : tableTargetAllowed rom pattern i entry = true) :
    isProbableFunctionTarget rom entry = true := by
  unfold tableTargetAllowed at h
  split_ifs at h
  · exact (Bool.and_eq_true_iff.mp h).1
  · exact (Bool.and_eq_true_iff.mp h).1

theorem heuristicWalk_of_strict {turns : Nat} {pc : BitVec 32}
    (h : heuristicWalk rom false turns pc = true) : heuristicWalk rom true turns pc = true := by
  induction turns generalizing pc with
  | zero => rfl
  | succ turns ih =>
    unfold heuristicWalk at h ⊢
    cases hdecode : decodeCode rom pc with
    | none =>
      rw [hdecode] at h
      cases h
    | some instr =>
      rw [hdecode] at h
      dsimp only at h ⊢
      split_ifs at h ⊢
      · rfl
      · exact ih h

/-- Outside of extra entries that run on the two filters are one. -/
theorem tableTargetAllowed_eq {i : Nat} {target : BitVec 32}
    (h : ¬ (pattern.maxEntries ≠ 0 ∧ 4 ≤ i ∧
      isProbableStrictHeuristicCodeTarget rom target = false)) :
    tableTargetAllowed rom pattern i target = auditProbableStaticTableTarget rom target := by
  unfold tableTargetAllowed
  split_ifs with hextra
  · have hstrict : isProbableStrictHeuristicCodeTarget rom target = true := by
      by_contra hnot
      exact h ⟨hextra.1, hextra.2, Bool.not_eq_true _ ▸ hnot⟩
    obtain ⟨hprobable, hwalk⟩ := Bool.and_eq_true_iff.mp hstrict
    rw [hstrict]
    exact (Bool.and_eq_true_iff.mpr ⟨hprobable, heuristicWalk_of_strict hwalk⟩).symm
  · rfl

/-- Up to the first extra entry that is refused the two read the same targets. -/
theorem mem_abs32_or_refused (hkind : pattern.entryKind = .abs32) {turns i : Nat}
    (h : entry ∈ abs32TableTargets rom pattern (fun _ => auditProbableStaticTableTarget rom)
      turns i) :
    entry ∈ abs32TableTargets rom pattern (tableTargetAllowed rom pattern) turns i ∨
      RefusedEntry rom pattern entry := by
  induction turns generalizing i with
  | zero => exact absurd h List.not_mem_nil
  | succ turns ih =>
    by_cases hextra : pattern.maxEntries ≠ 0 ∧ 4 ≤ i ∧
        isProbableStrictHeuristicCodeTarget rom (tableTarget rom pattern i) = false
    · obtain ⟨hbound, hi, hstrict⟩ := hextra
      obtain ⟨j, hj, rfl, -⟩ := mem_abs32TableTargets h
      exact .inr (.tail hkind hbound hi hj hstrict)
    · have hsame := tableTargetAllowed_eq hextra
      unfold tableTarget at hsame
      unfold abs32TableTargets at h ⊢
      dsimp only at h ⊢
      rw [hsame]
      split_ifs at h ⊢ with hmapped hallowed hbound
      · exact .inl h
      · rcases List.mem_cons.mp h with rfl | h
        · exact .inl List.mem_cons_self
        · exact (ih h).imp_left (List.mem_cons_of_mem _)
      · exact .inl h
      · exact ih h

/-- What the audit looks up and discovery does not refuse is added. -/
theorem mem_calls_or_refused (h : entry ∈ auditTableEntries rom pattern) :
    (.add rom entry ∈ addJumpTableTargets rom pattern ∧
      isProbableFunctionTarget rom entry = true) ∨ RefusedEntry rom pattern entry := by
  by_cases hkind : pattern.entryKind = .abs32
  · unfold auditTableEntries at h
    unfold addJumpTableTargets
    rw [hkind] at h ⊢
    dsimp only at h ⊢
    refine (mem_abs32_or_refused hkind h).imp_left fun hin => ⟨List.mem_map_of_mem hin, ?_⟩
    obtain ⟨j, -, -, hallowed⟩ := mem_abs32TableTargets hin
    exact probable_of_tableTargetAllowed hallowed
  · cases hprobable : isProbableFunctionTarget rom entry with
    | false => exact .inr (.code hkind hprobable)
    | true =>
      left
      have hcode : entry ∈ (codeTableEntries rom pattern 32 pattern.tableAddr
          (pattern.entrySize.setWidth 32)).map (·.1) := by
        unfold auditTableEntries at h
        cases hk : pattern.entryKind with
        | abs32 => exact absurd hk hkind
        | address | inlineCode | directDispatch =>
          rw [hk] at h
          exact h
      obtain ⟨⟨addr, terminal⟩, hmem, rfl⟩ := List.mem_map.mp hcode
      dsimp only at hprobable ⊢
      have hadd : DiscoveryCall.add rom addr ∈ (codeTableEntries rom pattern 32 pattern.tableAddr
          (pattern.entrySize.setWidth 32)).flatMap fun e =>
            if e.2 ∧ !isProbableFunctionTarget rom e.1 then [] else [.add rom e.1] := by
        refine List.mem_flatMap.mpr ⟨_, hmem, ?_⟩
        rw [if_neg (by simp [hprobable])]
        exact List.mem_singleton_self _
      refine ⟨?_, rfl⟩
      unfold addJumpTableTargets
      cases hk : pattern.entryKind with
      | abs32 => exact absurd hk hkind
      | address | inlineCode | directDispatch => exact hadd

end Entries

end NeoRecomp
