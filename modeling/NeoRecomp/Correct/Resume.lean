import NeoRecomp.Correct.Coverage
import NeoRecomp.Correct.Dispatch

/-!
# Bodies over a closed discovery

The emitter sweeps up to 192 instructions from a candidate and discovery up to 128, each with its own
reasons to stop.  Since discovery is closed, whatever the emitter can reach in its sweep is a
candidate all the same.
-/

namespace NeoRecomp

/-- No address from `2 ^ 24` on is mapped, whichever bank is selected. -/
def MapBelow24 (rom : NgProgramRom) : Prop :=
  ∀ bank addr, ngProgramRomAddrIsMapped (ngProgramRomSelectBank rom bank) addr = true →
    addr.toNat < 2 ^ 24

/-- An image without an address map ends where its bytes end. -/
theorem mapBelow24_of_plain {rom : NgProgramRom} (hplain : rom.addressMapEnabled = false)
    (hsize : rom.size.toNat ≤ 2 ^ 24) : MapBelow24 rom := by
  intro bank addr h
  by_contra hge
  have hout : ngProgramRomTranslateAddr (ngProgramRomSelectBank rom bank) addr = none := by
    simp only [ngProgramRomTranslateAddr, ngProgramRomSelectBank, hplain, Bool.not_false, if_true]
    exact if_pos (by omega)
  rw [ngProgramRomAddrIsMapped, hout] at h
  cases h

theorem addr24_of_lt {a : BitVec 32} (h : a.toNat < 2 ^ 24) : addr24 a = a := by
  apply BitVec.eq_of_toNat_eq
  rw [addr24, BitVec.toNat_and]
  show a.toNat &&& (2 ^ 24 - 1) = a.toNat
  rw [Nat.and_two_pow_sub_one_eq_mod, Nat.mod_eq_of_lt h]

theorem MapBelow24.view {rom view : NgProgramRom} (h : MapBelow24 rom) (hv : ViewOf rom view)
    {addr : BitVec 32} (hm : ngProgramRomAddrIsMapped view addr = true) : addr.toNat < 2 ^ 24 := by
  obtain rfl | ⟨bank, -, rfl⟩ := hv
  · exact h view.activeBank addr hm
  · exact h bank addr hm

/-! ## The sweep of the emitter -/

section Sweep
variable {rom : NgProgramRom} {d : NgFunctionDiscovery}

theorem not_invalid_of_validate {instr : NgM68kInstr} (h : ngM68kValidate instr = true) :
    instr.mnemonic ≠ .invalid := by
  intro hi
  rw [ngM68kValidate, hi, Bool.and_false] at h
  cases h

theorem isProbable_of_decode {pc : BitVec 32} {instr : NgM68kInstr} (heven : pc &&& 1 = 0)
    (hd : ngM68kDecode rom pc = (true, instr)) (hv : ngM68kValidate instr = true) :
    isProbableFunctionTarget rom pc = true :=
  isProbableFunctionTarget_iff.mpr ⟨heven, (ngM68kDecode_mapped hd).1, instr,
    decodeCode_of_mnemonic hd (not_unknown_of_validate hv) (not_invalid_of_validate hv)⟩

theorem even_add {pc : BitVec 32} {len : BitVec 8} (hpc : pc &&& 1 = 0) (hlen : WordLength len) :
    (pc + len.setWidth 32) &&& 1 = 0 := by
  have hl : (len.setWidth 32).toNat % 2 = 0 := by
    rcases hlen with rfl | rfl | rfl | rfl | rfl <;> decide
  rw [even_iff] at hpc ⊢
  rw [BitVec.toNat_add]
  omega

theorem leadsTo_next {pc : BitVec 32} {instr : NgM68kInstr} (h : stopsFirstPass instr = false) :
    LeadsTo pc instr (pc + instr.byteLength.setWidth 32) := by
  obtain ⟨-, hends⟩ := stopsFirstPass_eq_false h
  apply LeadsTo.next
  refine ⟨?_, ?_, ?_, ?_, ?_⟩ <;> (rintro hm; rw [hm] at hends; cases hends)

theorem ScannedFrom.decodes {fuel : Nat} {pc last : BitVec 32} {instrs : List NgM68kInstr}
    {failed : Bool} (h : ScannedFrom rom fuel pc instrs last failed) :
    ∀ instr ∈ instrs, ngM68kDecode rom instr.addr = (true, instr) := by
  induction h with
  | limit pc => exact fun _ h => by cases h
  | fail hd => exact fun _ h => by cases h
  | @stop fuel pc instr hd hs =>
    intro i hi
    rw [List.mem_singleton.mp hi, ngM68kDecode_addr hd]
    exact hd
  | @next fuel pc instr rest last failed hd hs hrest ih =>
    intro i hi
    rcases List.mem_cons.mp hi with rfl | hi
    · rw [ngM68kDecode_addr hd]
      exact hd
    · exact ih i hi

/-- What the first pass collects in front of an unsupported instruction is discovered. -/
theorem ScannedFrom.discovered {fuel : Nat} {pc last : BitVec 32} {instrs : List NgM68kInstr}
    {failed : Bool} (h : ScannedFrom rom fuel pc instrs last failed)
    (hclosed : ∀ c ∈ d.candidates, ClosedAt rom d c.addr) (heven : pc &&& 1 = 0)
    (hpc : isProbableFunctionTarget rom pc = true → ngFunctionDiscoveryContains d pc = true) :
    ∀ instr ∈ instrs, ngM68kValidate instr = true →
      ngFunctionDiscoveryContains d instr.addr = true := by
  induction h with
  | limit pc => exact fun _ h => by cases h
  | fail hd => exact fun _ h => by cases h
  | @stop fuel pc instr hd hs =>
    intro i hi hv
    rw [List.mem_singleton.mp hi] at hv ⊢
    rw [ngM68kDecode_addr hd]
    exact hpc (isProbable_of_decode heven hd hv)
  | @next fuel pc instr rest last failed hd hs hrest ih =>
    have hcont := hpc (isProbable_of_decode heven hd (stopsFirstPass_eq_false hs).1)
    intro i hi hv
    rcases List.mem_cons.mp hi with rfl | hi
    · rw [ngM68kDecode_addr hd]
      exact hcont
    · obtain ⟨c, hc, rfl⟩ := contains_iff.mp hcont
      refine ih (even_add heven (ngM68kDecode_length hd)) ?_ i hi hv
      exact hclosed c hc instr hd _ (leadsTo_next hs)

end Sweep

/-! ## Bodies of candidates -/

section Bodies
variable {β : Type} [GeneratedAbi β] {rom : NgProgramRom} {d : NgFunctionDiscovery} {i : Nat}

theorem secondPass_decoded {labels : List (BitVec 32)} {targets : List (BitVec 32)}
    {all instrs : List NgM68kInstr} {pc : BitVec 32} {diag : NgEmitDiagnostics} {item : BodyItem}
    (h : item ∈ (secondPass β labels (emitMissingBranchLabels all targets) pc instrs diag).1) :
    (∃ labelled, ∃ instr ∈ instrs, item = .decoded labelled instr) ∨
      item ∈ emitMissingBranchLabels all targets ∨ item = .miss pc false := by
  induction instrs generalizing diag with
  | nil =>
    rw [secondPass, List.mem_append, List.mem_singleton] at h
    exact .inr h
  | cons instr rest ih =>
    have here : ∀ {tail : List BodyItem},
        item ∈ .decoded (addrInList labels instr.addr) instr :: tail →
        (item ∈ tail → (∃ labelled, ∃ i ∈ instr :: rest, item = .decoded labelled i) ∨
          item ∈ emitMissingBranchLabels all targets ∨ item = .miss pc false) →
        (∃ labelled, ∃ i ∈ instr :: rest, item = .decoded labelled i) ∨
          item ∈ emitMissingBranchLabels all targets ∨ item = .miss pc false := by
      intro tail hmem htail
      rcases List.mem_cons.mp hmem with rfl | hmem
      · exact .inl ⟨_, instr, List.mem_cons_self, rfl⟩
      · exact htail hmem
    rw [secondPass] at h
    dsimp only at h
    split_ifs at h
    · exact here h fun hm => .inr (.inl hm)
    all_goals first
      | exact here h fun hm => .inr (.inl hm)
      | refine here h fun hm => ?_
        rcases ih hm with ⟨labelled, i, hi, he⟩ | hrest
        · exact .inl ⟨labelled, i, List.mem_cons_of_mem _ hi, he⟩
        · exact .inr hrest

/-- The pieces of a body: collected instructions, the labels of branches out of it, and misses. -/
theorem emitFunctionBody_items {start : BitVec 32} {item : BodyItem}
    (h : item ∈ (emitFunctionBody β rom start {}).1) :
    (∃ labelled, ∃ instr ∈ (bodyFirstPass rom start).instrs, item = .decoded labelled instr) ∨
      item ∈ emitMissingBranchLabels (bodyFirstPass rom start).instrs
        (bodyFirstPass rom start).labelTargets ∨ ∃ addr returns, item = .miss addr returns := by
  unfold emitFunctionBody at h
  dsimp only at h
  split_ifs at h
  · exact .inr (.inr ⟨_, _, List.mem_singleton.mp h⟩)
  · rcases secondPass_decoded h with hd | hl | hm
    · exact .inl hd
    · exact .inr (.inl hl)
    · exact .inr (.inr ⟨_, _, hm⟩)

theorem emitView_unbanked (hun : Unbanked rom d) (hi : i < d.count) : emitView rom d i = rom := by
  have hc := List.getElem?_eq_getElem (l := d.candidates) hi
  have := (hun _ (List.mem_of_getElem? hc)).2
  simp [emitView, ngFunctionDiscoveryBankAt, hc, this]

theorem Unbanked.addrAt_even (hun : Unbanked rom d) (hi : i < d.count) :
    d.addrAt i &&& 1 = 0 ∧ ngFunctionDiscoveryContains d (d.addrAt i) = true := by
  have hc := List.getElem?_eq_getElem (l := d.candidates) hi
  obtain ⟨⟨view, -, hp⟩, -⟩ := hun _ (List.mem_of_getElem? hc)
  rw [addrAt_eq hc]
  exact ⟨(isProbableFunctionTarget_iff.mp hp).1, contains_iff.mpr ⟨_, List.getElem_mem _, rfl⟩⟩

/-- Every instruction collected for a candidate in the address range of the bus is discovered. -/
theorem candidate_sweep (hun : Unbanked rom d)
    (hclosed : ∀ c ∈ d.candidates, ClosedAt rom d c.addr) (hi : i < d.count)
    (h24 : addr24 (d.addrAt i) = d.addrAt i) :
    ∀ instr ∈ (bodyFirstPass (emitView rom d i) (addr24 (d.addrAt i))).instrs,
      ngM68kDecode rom instr.addr = (true, instr) ∧
        (ngM68kValidate instr = true → ngFunctionDiscoveryContains d instr.addr = true) := by
  obtain ⟨heven, hcont⟩ := hun.addrAt_even hi
  rw [emitView_unbanked hun hi, h24]
  have hscan := bodyFirstPass_scanned rom (d.addrAt i)
  exact fun instr hin =>
    ⟨hscan.decodes instr hin, hscan.discovered hclosed heven (fun _ => hcont) instr hin⟩

/-- An address in the record is a case of the switch. -/
theorem case_of_contains {addr : BitVec 32} (h : ngFunctionDiscoveryContains d addr = true) :
    ∃ j, (addr24 addr, j) ∈ dispatchCases d 0 d.count ∧ generatedStep d addr = .function j := by
  obtain ⟨c, hc, rfl⟩ := contains_iff.mp h
  obtain ⟨i, hi⟩ := List.mem_iff_getElem?.mp hc
  have hlt : i < d.count := (List.getElem?_eq_some_iff.mp hi).1
  obtain ⟨j, -, hj⟩ := exists_firstAt hlt
  rw [addrAt_eq hi] at hj
  exact ⟨j, (mem_dispatchCases (le_refl _)).mpr ⟨Nat.zero_le _, hj.lt, hj⟩,
    generatedStep_of_firstAt hj⟩

end Bodies

/-! ## Constant dispatches -/

section Constants
variable {β : Type} [GeneratedAbi β] {instr : NgM68kInstr} {t : BitVec 32}

/-- The target whose low 24 bits the text of a BSR, JSR or JMP passes to `NG_GENERATED_DISPATCH` as
a constant. -/
def constantTarget (instr : NgM68kInstr) : Option (BitVec 32) :=
  match instr.mnemonic with
  | .bsr => some instr.target
  | .jsr | .jmp => if (jumpAddressValue instr).isNone then some instr.target else none
  | _ => none

/-- The same for a piece of a body: a call or jump, or a branch out of the body. -/
def BodyItem.dispatchTarget : BodyItem → Option (BitVec 32)
  | .decoded _ instr => constantTarget instr
  | .dispatchLabel target => some target
  | .miss _ _ => none

/-- The emitted text ends in that dispatch. -/
theorem emitInstr_constantTarget (h : constantTarget instr = some t) :
    ∃ push : Gen β Unit, (emitInstr instr).text = (do push; traceDispatchReturn (addr24 t)) := by
  unfold constantTarget at h
  split at h
  · next hm =>
    cases h
    refine ⟨emitPushReturnAddress (instr.addr + instr.byteLength.setWidth 32), ?_⟩
    rw [emitInstr, hm]
    rfl
  · next hm =>
    split_ifs at h with hj
    cases h
    refine ⟨emitPushReturnAddress (instr.addr + instr.byteLength.setWidth 32), ?_⟩
    rw [emitInstr, hm]
    simp only [emitJsr, Option.isNone_iff_eq_none.mp hj]
    rfl
  · next hm =>
    split_ifs at h with hj
    cases h
    refine ⟨pure (), ?_⟩
    rw [emitInstr, hm]
    simp only [emitJmp, Option.isNone_iff_eq_none.mp hj]
    rfl
  · cases h

/-- Only the absolute and PC-relative targets of a validated JSR or JMP are constants. -/
theorem mode_of_jumpAddressValue (hv : validateControlTransfer instr = true)
    (h : jumpAddressValue instr = none) :
    instr.src.mode = .absW ∨ instr.src.mode = .absL ∨ instr.src.mode = .pcDisp := by
  unfold validateControlTransfer at hv
  unfold jumpAddressValue at h
  cases hm : instr.src.mode
  case absW | absL | pcDisp => simp
  case none | dreg | areg | apost | apre | imm =>
    simp [exactControlSourceExtLength, exactControlEaExtLength, hm] at hv
  all_goals
    cases hl : exactControlSourceExtLength instr <;> cases hf : eaOpcodeField instr.src <;>
      simp [hl, hf] at hv
    have hform := hv.2
    simp [validateControlTransferFields, hm] at hform
    simp [emitEaAddressValue, hm, hform] at h

theorem constantTarget_direct (hv : ngM68kValidate instr = true)
    (h : constantTarget instr = some t) : isDirectFunctionTarget instr = true ∧ instr.target = t := by
  have hdirect : (instr.mnemonic = .jsr ∨ instr.mnemonic = .jmp) →
      jumpAddressValue instr = none → isDirectFunctionTarget instr = true := by
    intro hm hj
    have hc : validateControlTransfer instr = true := by
      rcases hm with hm | hm <;> · rw [ngM68kValidate, hm, Bool.and_eq_true] at hv; exact hv.2
    have hmode := mode_of_jumpAddressValue hc hj
    unfold isDirectFunctionTarget
    rcases hm with hm | hm <;> rcases hmode with hs | hs | hs <;> simp [hm, hs]
  unfold constantTarget at h
  split at h
  · next hm => exact ⟨by simp [isDirectFunctionTarget, hm], Option.some.inj h⟩
  · next hm =>
    split_ifs at h with hj
    exact ⟨hdirect (.inl hm) (Option.isNone_iff_eq_none.mp hj), Option.some.inj h⟩
  · next hm =>
    split_ifs at h with hj
    exact ⟨hdirect (.inr hm) (Option.isNone_iff_eq_none.mp hj), Option.some.inj h⟩
  · cases h

/-- The labels a body needs are the targets of its branches. -/
def FirstPass.LabelsBranch (p : FirstPass) : Prop :=
  ∀ t ∈ p.labelTargets, ∃ instr ∈ p.instrs,
    instrHasLocalBranchTarget instr = true ∧ instr.target = t

theorem FirstPass.LabelsBranch.record {p : FirstPass} (hp : p.LabelsBranch) (instr : NgM68kInstr) :
    (p.record instr).LabelsBranch := by
  intro t ht
  have hold : t ∈ p.labelTargets → ∃ i ∈ (p.record instr).instrs,
      instrHasLocalBranchTarget i = true ∧ i.target = t := by
    intro ht
    obtain ⟨i, hi, hb⟩ := hp t ht
    exact ⟨i, List.mem_append_left _ hi, hb⟩
  simp only [FirstPass.record] at ht
  split_ifs at ht with hb
  · rcases List.mem_append.mp ht with ht | ht
    · exact hold ht
    · refine ⟨instr, List.mem_append_right _ List.mem_cons_self, ?_⟩
      exact ⟨(Bool.and_eq_true_iff.mp hb).1, (List.mem_singleton.mp ht).symm⟩
  · exact hold ht

theorem firstPass_labels (rom : NgProgramRom) (fuel : Nat) (p : FirstPass) (hp : p.LabelsBranch) :
    (firstPass rom fuel p).LabelsBranch := by
  induction fuel generalizing p with
  | zero => exact hp
  | succ fuel ih =>
    rcases hd : ngM68kDecode rom p.pc with ⟨ok, instr⟩
    cases ok with
    | false =>
      simp only [firstPass, hd]
      exact hp
    | true =>
      simp only [firstPass, hd]
      split_ifs
      · exact hp.record instr
      · exact ih _ (hp.record instr)

theorem isBranchTargetCandidate_of_local (h : instrHasLocalBranchTarget instr = true) :
    isBranchTargetCandidate instr = true := by
  unfold instrHasLocalBranchTarget at h
  unfold isBranchTargetCandidate
  cases hm : instr.mnemonic <;> simp_all

end Constants

section Resumable
variable (calloc : Nat → Nat → Bool) (rom : NgProgramRom) (hone : AtMostOneBank rom)
  (seeds : List (BitVec 32)) (config : NgGameConfig) (maxCandidates : BitVec 32)
  (d : NgFunctionDiscovery)
  (hret : ngFunctionDiscoverFromGameConfigLimited calloc rom seeds config maxCandidates =
    some (true, d))
  (ht : d.truncated = false)
include hone hret ht

/-- Every validated instruction in the body of a candidate is a case of the dispatch switch, so
control can come back to it: a step to its address never falls to `ng_call_by_address`. -/
theorem bodies_resumable (β : Type) [GeneratedAbi β] (h24 : MapBelow24 rom) :
    ∀ i < d.count, ∀ labelled instr, .decoded labelled instr ∈ candidateBody β rom d i →
      ngM68kValidate instr = true →
        ∃ j, (addr24 instr.addr, j) ∈ dispatchCases d 0 d.count ∧
          generatedStep d instr.addr = .function j := by
  intro i hi labelled instr hmem hv
  have hun := discovered_unbanked hone hret
  have haddr : addr24 (d.addrAt i) = d.addrAt i := by
    have hc := List.getElem?_eq_getElem (l := d.candidates) hi
    obtain ⟨⟨view, hview, hp⟩, -⟩ := hun _ (List.mem_of_getElem? hc)
    rw [addrAt_eq hc]
    exact addr24_of_lt (h24.view hview (isProbableFunctionTarget_iff.mp hp).2.1)
  have hsweep := candidate_sweep hun (discovered_closedAt hone hret ht) hi haddr
  rcases emitFunctionBody_items hmem with ⟨_, instr', hin, he⟩ | hl | ⟨_, _, he⟩
  · cases he
    exact case_of_contains ((hsweep instr hin).2 hv)
  · simp [emitMissingBranchLabels] at hl
  · cases he

/-- The constant addresses that the emitted code of a candidate dispatches are discovered where they
look like code, as long as neither the candidate nor the decoded target has bits the bus does not:
discovery looks for the whole target, the code goes to its low 24 bits. -/
theorem static_targets_discovered (β : Type) [GeneratedAbi β] :
    ∀ i < d.count, ∀ item ∈ candidateBody β rom d i, ∀ t, item.dispatchTarget = some t →
      addr24 (d.addrAt i) = d.addrAt i → addr24 t = t →
        isProbableFunctionTarget rom (addr24 t) = true →
          ngFunctionDiscoveryContains d (addr24 t) = true := by
  intro i hi item hmem t hitem haddr h24 hp
  have hun := discovered_unbanked hone hret
  have hclosed := discovered_closedAt hone hret ht
  have hsweep := candidate_sweep hun hclosed hi haddr
  rw [h24] at hp ⊢
  -- the instruction the target was decoded from is a candidate, and discovery is closed there
  have hfrom : ∀ instr ∈ (bodyFirstPass (emitView rom d i) (addr24 (d.addrAt i))).instrs,
      ngM68kValidate instr = true → instr.target = t → LeadsTo instr.addr instr instr.target →
      ngFunctionDiscoveryContains d t = true := by
    rintro instr hin hv rfl hleads
    obtain ⟨hd, hc⟩ := hsweep instr hin
    obtain ⟨c, hcm, hca⟩ := contains_iff.mp (hc hv)
    rw [← hca] at hd hleads
    exact hclosed c hcm instr hd _ hleads hp
  have hvalid : ∀ instr ∈ (bodyFirstPass (emitView rom d i) (addr24 (d.addrAt i))).instrs,
      instr.mnemonic ≠ .unknown → ngM68kValidate instr = true :=
    fun instr hin hu => (ngM68kDecode_accepted (hsweep instr hin).1).resolve_left hu
  rcases emitFunctionBody_items hmem with ⟨_, instr, hin, rfl⟩ | hl | ⟨_, _, rfl⟩
  · have hv : ngM68kValidate instr = true := by
      apply hvalid instr hin
      intro hu
      simp [BodyItem.dispatchTarget, constantTarget, hu] at hitem
    obtain ⟨hdirect, htarget⟩ := constantTarget_direct hv hitem
    exact hfrom instr hin hv htarget (.call hdirect)
  · obtain ⟨label, hlabel, rfl⟩ := List.mem_map.mp hl
    cases hitem
    obtain ⟨instr, hin, hb, htarget⟩ :=
      firstPass_labels _ _ _ (fun _ h => (List.not_mem_nil h).elim) t (List.mem_filter.mp hlabel).1
    have hv : ngM68kValidate instr = true := by
      apply hvalid instr hin
      intro hu
      simp [instrHasLocalBranchTarget, hu] at hb
    exact hfrom instr hin hv htarget (.branch (isBranchTargetCandidate_of_local hb))
  · cases hitem

end Resumable

/-- Coming back to the RTS behind the NOP. -/
theorem bodies_resumable_nopRts :
    ngFunctionDiscoverFromGameConfigLimited (fun _ _ => true) nopRtsRom [0] {} 0 =
        some (true, nopRtsDiscovery) ∧
      (∃ j, (2, j) ∈ dispatchCases nopRtsDiscovery 0 nopRtsDiscovery.count ∧
        generatedStep nopRtsDiscovery 2 = .function j) := by
  have hret : ngFunctionDiscoverFromGameConfigLimited (fun _ _ => true) nopRtsRom [0] {} 0 =
      some (true, nopRtsDiscovery) := by decide +kernel
  refine ⟨hret, ?_⟩
  exact bodies_resumable _ nopRtsRom (by unfold AtMostOneBank; decide) [0] {} 0 nopRtsDiscovery hret
    rfl Ram (mapBelow24_of_plain rfl (by decide)) 0 (by decide) false
    { addr := 2, opcode := 0x4E75, mnemonic := .rts, byteLength := 2 } (by decide +kernel)
    (by decide +kernel)

/-- JMP to an absolute long address, decoded at address 0. -/
def jumpAtZero (target : BitVec 32) : NgM68kInstr :=
  { addr := 0, opcode := 0x4EF9, mnemonic := .jmp, byteLength := 6, target, form := .abs,
    src := { mode := .absL, absoluteAddr := target, reg := 1 } }

/-- JMP $FF000008, RTS, RTS: the bus takes the jump to the second RTS. -/
def highJumpRom : NgProgramRom where
  data := #[0x4E, 0xF9, 0xFF, 0x00, 0x00, 0x08, 0x4E, 0x75, 0x4E, 0x75]
  size := 10
  size_eq := rfl

def highJumpDiscovery : NgFunctionDiscovery where
  candidates := [{ addr := 0, isEntry := true, isScanRoot := true }]

/-- The body of the seed dispatches address 8, which is code and not discovered. -/
theorem static_target_missed :
    AtMostOneBank highJumpRom ∧
      ngFunctionDiscoverFromGameConfigLimited (fun _ _ => true) highJumpRom [0] {} 0 =
        some (true, highJumpDiscovery) ∧
      highJumpDiscovery.truncated = false ∧
      ∃ item ∈ candidateBody Ram highJumpRom highJumpDiscovery 0,
        item.dispatchTarget = some 0xFF000008 ∧ addr24 0xFF000008 = 8 ∧
          isProbableFunctionTarget highJumpRom 8 = true ∧
          ngFunctionDiscoveryContains highJumpDiscovery 8 = false := by
  refine ⟨by unfold AtMostOneBank; decide, by decide +kernel, rfl, ?_⟩
  refine ⟨.decoded false (jumpAtZero 0xFF000008), ?_, ?_⟩
  · decide +kernel
  · decide +kernel

/-- JMP $000006, RTS. -/
def lowJumpRom : NgProgramRom where
  data := #[0x4E, 0xF9, 0x00, 0x00, 0x00, 0x06, 0x4E, 0x75]
  size := 8
  size_eq := rfl

def lowJumpDiscovery : NgFunctionDiscovery where
  candidates := [{ addr := 0, isEntry := true, isScanRoot := true },
    { addr := 6, isEntry := true, isScanRoot := true }]

theorem static_targets_discovered_jump :
    ngFunctionDiscoverFromGameConfigLimited (fun _ _ => true) lowJumpRom [0] {} 0 =
        some (true, lowJumpDiscovery) ∧
      ngFunctionDiscoveryContains lowJumpDiscovery 6 = true := by
  have hret : ngFunctionDiscoverFromGameConfigLimited (fun _ _ => true) lowJumpRom [0] {} 0 =
      some (true, lowJumpDiscovery) := by decide +kernel
  refine ⟨hret, ?_⟩
  exact static_targets_discovered _ lowJumpRom (by unfold AtMostOneBank; decide) [0] {} 0
    lowJumpDiscovery hret rfl Ram 0 (by decide) (.decoded false (jumpAtZero 6)) (by decide +kernel) 6
    (by decide +kernel) (by decide) (by decide) (by decide +kernel)

end NeoRecomp
