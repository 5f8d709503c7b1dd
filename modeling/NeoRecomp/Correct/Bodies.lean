import NeoRecomp.Correct.Closed
import NeoRecomp.Spec.Ram

/-!
# The two passes of a function body

`ScannedFrom` describes what the first pass collects: consecutive instructions up to one that stops
the pass, a decode failure, or the instruction limit.
-/

namespace NeoRecomp

/-- `ScannedFrom rom fuel pc instrs last failed`: with `fuel` turns left at `pc` the first pass
collects `instrs`, ends with its counter at `last`, and `failed` says whether decoding failed there. -/
inductive ScannedFrom (rom : NgProgramRom) :
    Nat → BitVec 32 → List NgM68kInstr → BitVec 32 → Bool → Prop
  | limit (pc) : ScannedFrom rom 0 pc [] pc false
  | fail {fuel pc instr} (h : ngM68kDecode rom pc = (false, instr)) :
      ScannedFrom rom (fuel + 1) pc [] pc true
  | stop {fuel pc instr} (h : ngM68kDecode rom pc = (true, instr))
      (hs : stopsFirstPass instr = true) : ScannedFrom rom (fuel + 1) pc [instr] pc false
  | next {fuel pc instr rest last failed} (h : ngM68kDecode rom pc = (true, instr))
      (hs : stopsFirstPass instr = false)
      (hrest : ScannedFrom rom fuel (pc + instr.byteLength.setWidth 32) rest last failed) :
      ScannedFrom rom (fuel + 1) pc (instr :: rest) last failed

theorem firstPass_scanned (rom : NgProgramRom) (fuel : Nat) (p : FirstPass)
    (hp : p.decodeFailed = false) :
    ∃ instrs, (firstPass rom fuel p).instrs = p.instrs ++ instrs ∧
      ScannedFrom rom fuel p.pc instrs (firstPass rom fuel p).pc
        (firstPass rom fuel p).decodeFailed := by
  induction fuel generalizing p with
  | zero => exact ⟨[], by simp [firstPass], by rw [firstPass, hp]; exact .limit _⟩
  | succ fuel ih =>
    rcases hd : ngM68kDecode rom p.pc with ⟨ok, instr⟩
    cases ok with
    | false =>
      simp only [firstPass, hd]
      exact ⟨[], by simp, .fail hd⟩
    | true =>
      simp only [firstPass, hd]
      split_ifs with hs
      · exact ⟨[instr], rfl, by simpa only [FirstPass.record, hp] using .stop hd hs⟩
      · obtain ⟨rest, heq, hrest⟩ := ih
          { p.record instr with pc := (p.record instr).pc + instr.byteLength.setWidth 32 } hp
        refine ⟨instr :: rest, ?_, .next hd (by simpa using hs) hrest⟩
        rw [heq]
        simp [FirstPass.record]

theorem bodyFirstPass_scanned (rom : NgProgramRom) (start : BitVec 32) :
    ScannedFrom rom ngEmitMaxInstructions start (bodyFirstPass rom start).instrs
      (bodyFirstPass rom start).pc (bodyFirstPass rom start).decodeFailed := by
  obtain ⟨instrs, heq, h⟩ := firstPass_scanned rom ngEmitMaxInstructions
    { instrs := [], labelTargets := [], pc := start, decodeFailed := false } rfl
  rw [List.nil_append] at heq
  rw [bodyFirstPass, heq]
  exact h

/-! ## Diagnostics -/

/-- The UNKNOWN encodings among the collected instructions. -/
def unknownCount (instrs : List NgM68kInstr) : Nat :=
  instrs.countP fun i => i.mnemonic = .unknown

theorem validate_unknown {instr : NgM68kInstr} (h : instr.mnemonic = .unknown) :
    ngM68kValidate instr = false := by
  rw [ngM68kValidate, h, Bool.and_false]

theorem not_unknown_of_validate {instr : NgM68kInstr} (h : ngM68kValidate instr = true) :
    instr.mnemonic ≠ .unknown := by
  intro hu
  rw [validate_unknown hu] at h
  cases h

/-- An instruction that does not stop the first pass is validated and falls through. -/
theorem stopsFirstPass_eq_false {instr : NgM68kInstr} (h : stopsFirstPass instr = false) :
    ngM68kValidate instr = true ∧ endsBody instr.mnemonic = false := by
  simp only [stopsFirstPass, Bool.or_eq_false_iff, Bool.not_eq_false'] at h
  exact ⟨h.1.1, h.2⟩

section Abi
variable {β : Type} [GeneratedAbi β]

/-- The second pass records one unsupported instruction for each UNKNOWN encoding. -/
theorem secondPass_unsupported {rom : NgProgramRom} {fuel : Nat} {pc last : BitVec 32}
    {instrs : List NgM68kInstr} {failed : Bool} (h : ScannedFrom rom fuel pc instrs last failed)
    (labels : List (BitVec 32)) (trailing : List BodyItem) (endPc : BitVec 32)
    (d : NgEmitDiagnostics) :
    (secondPass β labels trailing endPc instrs d).2.unsupportedCount =
      d.unsupportedCount + BitVec.ofNat 32 (unknownCount instrs) := by
  induction h generalizing d with
  | limit pc => simp [secondPass, unknownCount]
  | fail hd => simp [secondPass, unknownCount]
  | @stop fuel pc instr hd hs =>
    by_cases hu : instr.mnemonic = .unknown
    · simp [secondPass, validate_unknown hu, emitRecordUnsupported, unknownCount, hu]
    · have hv := (ngM68kDecode_accepted hd).resolve_left hu
      have hsup := (emitInstr_supported (β := β) hv).1
      simp only [secondPass, hv, hsup, unknownCount]
      split_ifs <;> simp_all
  | @next fuel pc instr rest last failed hd hs hrest ih =>
    obtain ⟨hv, hends⟩ := stopsFirstPass_eq_false hs
    obtain ⟨hsup, hcont⟩ := emitInstr_supported (β := β) hv
    rw [hends, Bool.not_false] at hcont
    have hcount : unknownCount (instr :: rest) = unknownCount rest := by
      simp [unknownCount, not_unknown_of_validate hv]
    simp only [secondPass, hv, hsup, hcont, hcount, Bool.not_true, Bool.false_eq_true, if_false,
      if_true, ih]

/-- The decoder, the validator and the emitter are closed over one instruction set: a decoded
instruction that is not UNKNOWN is validated and emitted, so a function body adds exactly its UNKNOWN
encodings to the unsupported count (and none when decoding fails, as it prints no instruction). -/
theorem instruction_set_closed (rom : NgProgramRom) :
    (∀ (pc : BitVec 32) (instr : NgM68kInstr), ngM68kDecode rom pc = (true, instr) →
      instr.mnemonic ≠ .unknown → instr.mnemonic ≠ .invalid →
        ngM68kValidate instr = true ∧ (emitInstr (β := β) instr).unsupported = false) ∧
    ∀ (start : BitVec 32) (d : NgEmitDiagnostics),
      (emitFunctionBody β rom start d).2.unsupportedCount =
        d.unsupportedCount + BitVec.ofNat 32
          (if (bodyFirstPass rom start).decodeFailed then 0
           else unknownCount (bodyFirstPass rom start).instrs) := by
  constructor
  · intro pc instr hd hu _
    have hv := (ngM68kDecode_accepted hd).resolve_left hu
    exact ⟨hv, (emitInstr_supported hv).1⟩
  · intro start d
    unfold emitFunctionBody
    dsimp only
    split_ifs with hf
    · simp [emitRecordDecodeError]
    · exact secondPass_unsupported (bodyFirstPass_scanned rom start) _ _ _ _

end Abi

/-- `MOVE.L #$12345678,($101000).L` and, behind it, an encoding no 68000 has. -/
def moveLongRom : NgProgramRom where
  data := #[0x23, 0xFC, 0x12, 0x34, 0x56, 0x78, 0x00, 0x10, 0x10, 0x00, 0x06, 0xC0]
  size := 12
  size_eq := rfl

def moveLongInstr : NgM68kInstr :=
  { addr := 0, opcode := 0x23FC, mnemonic := .move, byteLength := 10, size := 4,
    form := .immToAbs, immediate := 0x12345678, absoluteAddr := 0x101000,
    src := { mode := .imm, reg := 4, immediate := 0x12345678 },
    dst := { mode := .absL, reg := 1, absoluteAddr := 0x101000 } }

theorem instruction_set_closed_moveLong :
    ngM68kDecode moveLongRom 0 = (true, moveLongInstr) ∧ ngM68kValidate moveLongInstr = true ∧
      (emitFunctionBody Ram moveLongRom 0 {}).2.unsupportedCount = 1 := by
  have hd : ngM68kDecode moveLongRom 0 = (true, moveLongInstr) := by decide +kernel
  obtain ⟨h1, h2⟩ := instruction_set_closed (β := Ram) moveLongRom
  refine ⟨hd, (h1 0 _ hd (by decide) (by decide)).1, ?_⟩
  rw [h2]
  decide +kernel

end NeoRecomp
