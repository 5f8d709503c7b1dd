import NeoRecomp.Decode.Fields
import NeoRecomp.Validate

/-!
# Decoded operands pass the operand checks

Every effective address `decode_ea` builds has the payload the validator expects for its mode, the
extension length it reports and the opcode field it came from.
-/

namespace NeoRecomp

/-! ## Payload values -/

theorem signedByteValue_sign8 (x : BitVec 8) : signedByteValue (sign8 x) = true := by
  revert x
  decide

theorem validBoolField_and_one (x : BitVec 16) :
    validBoolField ((x &&& 1).setWidth 8) = true := by
  rw [validBoolField, decide_eq_true_iff, BitVec.le_def, BitVec.toNat_setWidth, BitVec.toNat_and]
  have := Nat.and_le_right (n := x.toNat) (m := (1 : BitVec 16).toNat)
  change _ ≤ 1 at this
  change _ % 256 ≤ 1
  omega

theorem signExtendAbsWordValue_signExtendAbsW (x : BitVec 16) :
    signExtendAbsWordValue (signExtendAbsW x) = signExtendAbsW x := by
  rw [signExtendAbsWordValue, signExtendAbsW]
  congr 1
  apply BitVec.eq_of_getLsbD_eq
  intro i hi
  rw [BitVec.getLsbD_setWidth, BitVec.getLsbD_signExtend]
  simp [hi, show i < 32 by omega]

theorem and_byte_le (x : BitVec 32) : x &&& 0xFF ≤ 0xFF := by
  rw [BitVec.le_def, BitVec.toNat_and]
  exact Nat.and_le_right

theorem word_le (x : BitVec 16) : x.setWidth 32 ≤ 0xFFFF := by
  rw [BitVec.le_def, BitVec.toNat_setWidth]
  have := x.isLt
  change _ % 4294967296 ≤ 65535
  omega

/-! ## Cases of `decode_ea` -/

/-- The immediate operand of an extension word or two. -/
def immediateOperand (rom : NgProgramRom) (ext : BitVec 32) (size : BitVec 8) : BitVec 32 :=
  if size = 4 then ngProgramRomRead32 rom ext
  else if size = 1 then (ngProgramRomRead16 rom ext).setWidth 32 &&& 0xFF
  else (ngProgramRomRead16 rom ext).setWidth 32

/-- One case for each addressing mode. -/
theorem decodeEa_cases (rom : NgProgramRom) (ext : BitVec 32) (size : BitVec 8)
    {P : BitVec 8 → BitVec 8 → NgM68kEa × BitVec 8 → Prop}
    (dreg : ∀ r, r < 8#8 → P 0 r ({ mode := .dreg, reg := r }, 0))
    (areg : ∀ r, r < 8#8 → P 1 r ({ mode := .areg, reg := r }, 0))
    (aind : ∀ r, r < 8#8 → P 2 r ({ mode := .aind, reg := r }, 0))
    (apost : ∀ r, r < 8#8 → P 3 r ({ mode := .apost, reg := r }, 0))
    (apre : ∀ r, r < 8#8 → P 4 r ({ mode := .apre, reg := r }, 0))
    (adisp : ∀ r, r < 8#8 → P 5 r
      ({ mode := .adisp, reg := r, displacement := ngProgramRomRead16 rom ext }, 2))
    (aindex : ∀ r, r < 8#8 → P 6 r (decodeIndexExt .aindex r (ngProgramRomRead16 rom ext), 2))
    (absW : P 7 0 ({ mode := .absW, absoluteAddr := signExtendAbsW (ngProgramRomRead16 rom ext) }, 2))
    (absL : P 7 1 ({ mode := .absL, reg := 1, absoluteAddr := ngProgramRomRead32 rom ext }, 4))
    (pcDisp : P 7 2
      ({ mode := .pcDisp, reg := 2, displacement := ngProgramRomRead16 rom ext,
         absoluteAddr := addDisplacement ext (ngProgramRomRead16 rom ext) }, 2))
    (pcIndex : P 7 3
      ({ decodeIndexExt .pcIndex 3 (ngProgramRomRead16 rom ext) with
           absoluteAddr := addDisplacement ext
             (decodeIndexExt .pcIndex 3 (ngProgramRomRead16 rom ext)).displacement }, 2))
    (imm : P 7 4
      ({ mode := .imm, reg := 4, immediate := immediateOperand rom ext size },
        if size = 4 then 4 else 2))
    (none : ∀ r, r = 5 ∨ r = 6 ∨ r = 7 → P 7 r ({ reg := r }, 0))
    {mode reg : BitVec 8} (hm : mode < 8) (hr : reg < 8) :
    P mode reg (decodeEa rom ext mode reg size) := by
  rcases lt_eight_cases hm with rfl | rfl | rfl | rfl | rfl | rfl | rfl | rfl
  · exact dreg reg hr
  · exact areg reg hr
  · exact aind reg hr
  · exact apost reg hr
  · exact apre reg hr
  · exact adisp reg hr
  · exact aindex reg hr
  · rcases lt_eight_cases hr with rfl | rfl | rfl | rfl | rfl | rfl | rfl | rfl
    · exact absW
    · exact absL
    · exact pcDisp
    · exact pcIndex
    · have himm : decodeEa rom ext 7 4 size =
          ({ mode := .imm, reg := 4, immediate := immediateOperand rom ext size },
            if size = 4 then 4 else 2) := by
        change decodeEaMode7 rom ext 4 size = _
        simp only [decodeEaMode7, immediateOperand, show (4 : BitVec 8) ≠ 0 by decide,
          show (4 : BitVec 8) ≠ 1 by decide, show (4 : BitVec 8) ≠ 2 by decide,
          show (4 : BitVec 8) ≠ 3 by decide, if_false, if_true]
        split_ifs <;> rfl
      rw [himm]
      exact imm
    · exact none 5 (by decide)
    · exact none 6 (by decide)
    · exact none 7 (by decide)

section Ea
variable {rom : NgProgramRom} {ext : BitVec 32} {mode reg size : BitVec 8}

/-- The six opcode bits of a decoded operand. -/
theorem decodeEa_field (hm : mode < 8) (hr : reg < 8)
    (hne : (decodeEa rom ext mode reg size).1.mode ≠ .none) :
    eaOpcodeField (decodeEa rom ext mode reg size).1 = some ((mode <<< 3) ||| reg) := by
  revert hne
  refine decodeEa_cases rom ext size
    (P := fun mode reg p => p.1.mode ≠ .none → eaOpcodeField p.1 = some ((mode <<< 3) ||| reg))
    ?_ ?_ ?_ ?_ ?_ ?_ ?_ ?_ ?_ ?_ ?_ ?_ ?_ hm hr <;> intros <;>
    simp_all [eaOpcodeField, eaRegisterField, decodeIndexExt]

theorem decodeEa_len (hm : mode < 8) (hr : reg < 8) : (decodeEa rom ext mode reg size).2 = 0 ∨
    (decodeEa rom ext mode reg size).2 = 2 ∨ (decodeEa rom ext mode reg size).2 = 4 := by
  refine decodeEa_cases rom ext size (P := fun _ _ p => p.2 = 0 ∨ p.2 = 2 ∨ p.2 = 4)
    ?_ ?_ ?_ ?_ ?_ ?_ ?_ ?_ ?_ ?_ ?_ ?_ ?_ hm hr <;> intros <;> (try split_ifs) <;> simp

theorem validImmediateWidth_immediateOperand (hs : validSize size = true) :
    validImmediateWidth size (immediateOperand rom ext size) = true := by
  simp only [validSize, Bool.or_eq_true, beq_iff_eq] at hs
  rcases hs with (rfl | rfl) | rfl
  · simpa [validImmediateWidth, immediateOperand] using and_byte_le _
  · simpa [validImmediateWidth, immediateOperand] using word_le _
  · simp [validImmediateWidth]

/-- The payload of a decoded index word. -/
theorem decodeIndexExt_payload (m : NgM68kEaMode) {r : BitVec 8} (hr : r < 8#8) (w : BitVec 16) :
    eaAddressIndexPayload (decodeIndexExt m r w) = true := by
  simp only [eaAddressIndexPayload, decodeIndexExt, Bool.and_eq_true, beq_self_eq_true]
  exact ⟨⟨⟨⟨⟨⟨decide_eq_true hr, decide_eq_true (and_seven_lt _)⟩, validBoolField_and_one _⟩,
    validBoolField_and_one _⟩, signedByteValue_sign8 _⟩, trivial⟩, trivial⟩

/-- The PC-relative index operand carries its own target. -/
theorem decodePcIndex_payload (w : BitVec 16) :
    eaPcIndexPayload { decodeIndexExt .pcIndex 3 w with
      absoluteAddr := addDisplacement ext (decodeIndexExt .pcIndex 3 w).displacement } ext = true := by
  simp only [eaPcIndexPayload, decodeIndexExt, Bool.and_eq_true, beq_self_eq_true]
  exact ⟨⟨⟨⟨⟨⟨trivial, decide_eq_true (and_seven_lt _)⟩, validBoolField_and_one _⟩,
    validBoolField_and_one _⟩, signedByteValue_sign8 _⟩, trivial⟩, trivial⟩

theorem decodeEa_memoryAlterable (hm : mode < 8) (hr : reg < 8)
    (h : isMemoryAlterableEa mode reg = true) :
    exactMemoryAlterableExtLength (decodeEa rom ext mode reg size).1 =
      some (decodeEa rom ext mode reg size).2 := by
  revert h
  refine decodeEa_cases rom ext size
    (P := fun mode reg p => isMemoryAlterableEa mode reg = true →
      exactMemoryAlterableExtLength p.1 = some p.2)
    ?dreg ?areg ?aind ?apost ?apre ?adisp ?aindex ?absW ?absL ?pcDisp ?pcIndex ?imm ?none hm hr
  case aindex =>
    intro r hr _
    simp only [exactMemoryAlterableExtLength, extIf, decodeIndexExt_payload _ hr, if_true]
    rfl
  case none =>
    rintro r (rfl | rfl | rfl) h <;> simp [isMemoryAlterableEa] at h
  all_goals
    intros
    simp_all [isMemoryAlterableEa, exactMemoryAlterableExtLength, extIf, eaSimpleRegisterPayload,
      eaAddressDisplacementPayload, eaAbsWordPayload, eaAbsLongPayload,
      signExtendAbsWordValue_signExtendAbsW]

theorem decodeEa_dataAlterable (hm : mode < 8) (hr : reg < 8)
    (h : isDataAlterableEa mode reg = true) :
    exactDataAlterableExtLength (decodeEa rom ext mode reg size).1 =
      some (decodeEa rom ext mode reg size).2 := by
  by_cases h0 : mode = 0
  · subst h0
    have hr' : decide (reg < 8) = true := decide_eq_true hr
    simp only [decodeEa, if_true, exactDataAlterableExtLength, eaSimpleRegisterPayload, hr', extIf,
      beq_self_eq_true, Bool.and_self]
  · have hmem : isMemoryAlterableEa mode reg = true := by
      rcases lt_eight_cases hm with rfl | rfl | rfl | rfl | rfl | rfl | rfl | rfl <;>
        simp_all [isDataAlterableEa, isMemoryAlterableEa]
    have hlen := @decodeEa_memoryAlterable rom ext mode reg size hm hr hmem
    rw [← hlen, exactDataAlterableExtLength]
    split
    · rename_i hd
      rw [exactMemoryAlterableExtLength, hd] at hlen
      cases hlen
    · rfl

theorem decodeEa_control (hm : mode < 8) (hr : reg < 8) (h : isControlEa mode reg = true) :
    exactControlEaExtLength (decodeEa rom ext mode reg size).1 ext =
      some (decodeEa rom ext mode reg size).2 := by
  revert h
  refine decodeEa_cases rom ext size
    (P := fun mode reg p => isControlEa mode reg = true → exactControlEaExtLength p.1 ext = some p.2)
    ?dreg ?areg ?aind ?apost ?apre ?adisp ?aindex ?absW ?absL ?pcDisp ?pcIndex ?imm ?none hm hr
  case aindex =>
    intro r hr _
    simp only [exactControlEaExtLength, extIf, decodeIndexExt_payload _ hr, if_true]
    rfl
  case pcIndex =>
    intro _
    change extIf _ _ = _
    simp only [decodePcIndex_payload, extIf, if_true]
  case none =>
    rintro r (rfl | rfl | rfl) h <;> simp [isControlEa] at h
  all_goals
    intros
    simp_all [isControlEa, exactControlEaExtLength, extIf, eaSimpleRegisterPayload,
      eaAddressDisplacementPayload, eaAbsWordPayload, eaAbsLongPayload, eaPcDisplacementPayload,
      signExtendAbsWordValue_signExtendAbsW]

/-- The data addressing modes, as the source operand of a record. -/
theorem decodeEa_data {instr : NgM68kInstr} (hm : mode < 8) (hr : reg < 8)
    (h : isDataEa mode reg = true) (hs : validSize size = true) (hsize : instr.size = size)
    (hsrc : instr.src = (decodeEa rom ext mode reg size).1) (hext : ext = instr.addr + 2) :
    exactDataSourceExtLength instr = some (decodeEa rom ext mode reg size).2 := by
  subst hext
  revert h hsrc
  refine decodeEa_cases rom (instr.addr + 2) size
    (P := fun mode reg p => isDataEa mode reg = true → instr.src = p.1 →
      exactDataSourceExtLength instr = some p.2)
    ?dreg ?areg ?aind ?apost ?apre ?adisp ?aindex ?absW ?absL ?pcDisp ?pcIndex ?imm ?none hm hr
  case aindex =>
    intro r hr _ hsrc
    rw [exactDataSourceExtLength, hsrc]
    change extIf (eaAddressIndexPayload _) _ = _
    simp only [extIf, decodeIndexExt_payload _ hr, if_true]
  case pcIndex =>
    intro _ hsrc
    rw [exactDataSourceExtLength, hsrc]
    change extIf (eaPcIndexPayload _ _) _ = _
    simp only [decodePcIndex_payload, extIf, if_true]
  case imm =>
    intro _ hsrc
    rw [exactDataSourceExtLength, hsrc, hsize]
    change extIf (_ && _) _ = _
    simp [extIf, eaImmediatePayload, hs, validImmediateWidth_immediateOperand hs]
  case none =>
    rintro r (rfl | rfl | rfl) h <;> simp [isDataEa] at h
  all_goals
    intros
    simp_all [isDataEa, exactDataSourceExtLength, exactControlEaExtLength, extIf,
      eaSimpleRegisterPayload, eaAddressDisplacementPayload, eaAbsWordPayload, eaAbsLongPayload,
      eaPcDisplacementPayload, signExtendAbsWordValue_signExtendAbsW]

/-- Only mode 7 with register 5, 6 or 7 has no operand. -/
theorem isDataEa_of_ne_none (hm : mode < 8) (hr : reg < 8)
    (hne : (decodeEa rom ext mode reg size).1.mode ≠ .none) (h1 : mode ≠ 1) :
    isDataEa mode reg = true := by
  revert hne h1
  refine decodeEa_cases rom ext size
    (P := fun mode reg p => p.1.mode ≠ .none → mode ≠ 1 → isDataEa mode reg = true)
    ?dreg ?areg ?aind ?apost ?apre ?adisp ?aindex ?absW ?absL ?pcDisp ?pcIndex ?imm ?none hm hr <;>
    intros <;> simp_all [isDataEa]

/-- The register field is kept in every mode. -/
theorem decodeEa_reg (hm : mode < 8) (hr : reg < 8) :
    (decodeEa rom ext mode reg size).1.reg = reg := by
  refine decodeEa_cases rom ext size (P := fun _ reg p => p.1.reg = reg)
    ?_ ?_ ?_ ?_ ?_ ?_ ?_ ?_ ?_ ?_ ?_ ?_ ?_ hm hr <;> intros <;> rfl

theorem decodeEa_mode_areg (hm : mode < 8) (hr : reg < 8)
    (h : (decodeEa rom ext mode reg size).1.mode = .areg) : mode = 1 := by
  revert h
  refine decodeEa_cases rom ext size (P := fun mode _ p => p.1.mode = .areg → mode = 1)
    ?dreg ?areg ?aind ?apost ?apre ?adisp ?aindex ?absW ?absL ?pcDisp ?pcIndex ?imm ?none hm hr <;>
    intros <;> simp_all [decodeIndexExt]

theorem decodeEa_mode_dreg (hm : mode < 8) (hr : reg < 8)
    (h : (decodeEa rom ext mode reg size).1.mode = .dreg) : mode = 0 := by
  revert h
  refine decodeEa_cases rom ext size (P := fun mode _ p => p.1.mode = .dreg → mode = 0)
    ?dreg ?areg ?aind ?apost ?apre ?adisp ?aindex ?absW ?absL ?pcDisp ?pcIndex ?imm ?none hm hr <;>
    intros <;> simp_all [decodeIndexExt]

theorem decodeEa_mode_pcDisp (hm : mode < 8) (hr : reg < 8)
    (h : (decodeEa rom ext mode reg size).1.mode = .pcDisp) : mode = 7 ∧ reg = 2 := by
  revert h
  refine decodeEa_cases rom ext size
    (P := fun mode reg p => p.1.mode = .pcDisp → mode = 7 ∧ reg = 2)
    ?dreg ?areg ?aind ?apost ?apre ?adisp ?aindex ?absW ?absL ?pcDisp ?pcIndex ?imm ?none hm hr <;>
    intros <;> simp_all [decodeIndexExt]

/-- Any source operand; a byte cannot come from an address register. -/
theorem decodeEa_addsubcmp {instr : NgM68kInstr} (hm : mode < 8) (hr : reg < 8)
    (hne : (decodeEa rom ext mode reg size).1.mode ≠ .none) (h1 : mode = 1 → size ≠ 1)
    (hs : validSize size = true) (hsize : instr.size = size)
    (hsrc : instr.src = (decodeEa rom ext mode reg size).1) (hext : ext = instr.addr + 2) :
    exactAddsubcmpSourceExtLength instr = some (decodeEa rom ext mode reg size).2 := by
  by_cases hmode : mode = 1
  · subst hmode
    have hr' : decide (reg < 8) = true := decide_eq_true hr
    have hsz : (size != 1) = true := bne_iff_ne.mpr (h1 rfl)
    rw [exactAddsubcmpSourceExtLength, hsrc, hsize]
    change extIf (_ && eaSimpleRegisterPayload { mode := .areg, reg := reg }) _ = _
    simp only [eaSimpleRegisterPayload, hr', hsz, extIf, beq_self_eq_true, Bool.and_self, if_true]
    rfl
  · have hdata := isDataEa_of_ne_none hm hr hne hmode
    rw [exactAddsubcmpSourceExtLength]
    split
    · rename_i ha
      rw [hsrc] at ha
      exact absurd (decodeEa_mode_areg hm hr ha) hmode
    · exact decodeEa_data hm hr hdata hs hsize hsrc hext

theorem decodeEa_bit {allow : Bool} (hm : mode < 8) (hr : reg < 8)
    (h : isDataEa mode reg = true) (himm : mode = 7 → reg = 4 → allow = true)
    (hsize : size = if mode = 0 then 4 else 1) :
    exactBitDataExtLength (decodeEa rom ext mode reg size).1 size ext allow =
      some (decodeEa rom ext mode reg size).2 := by
  revert h himm hsize
  refine decodeEa_cases rom ext size
    (P := fun mode reg p => isDataEa mode reg = true → (mode = 7 → reg = 4 → allow = true) →
      size = (if mode = 0 then 4 else 1) → exactBitDataExtLength p.1 size ext allow = some p.2)
    ?dreg ?areg ?aind ?apost ?apre ?adisp ?aindex ?absW ?absL ?pcDisp ?pcIndex ?imm ?none hm hr
  case aindex =>
    rintro r hr _ - rfl
    change extIf (_ && eaAddressIndexPayload _) _ = _
    simp [extIf, decodeIndexExt_payload _ hr]
  case pcIndex =>
    rintro _ - rfl
    change extIf (_ && eaPcIndexPayload _ _) _ = _
    simp only [extIf, decodePcIndex_payload, Bool.and_true]
    rfl
  case imm =>
    rintro _ ha rfl
    have hw := @validImmediateWidth_immediateOperand rom ext 1 (by decide)
    change extIf (_ && _ && eaImmediatePayload _ _) _ = _
    simp_all [extIf, eaImmediatePayload]
  case none =>
    rintro r (rfl | rfl | rfl) h <;> simp [isDataEa] at h
  all_goals
    intros
    simp_all [isDataEa, exactBitDataExtLength, extIf, eaSimpleRegisterPayload,
      eaAddressDisplacementPayload, eaAbsWordPayload, eaAbsLongPayload, eaPcDisplacementPayload,
      signExtendAbsWordValue_signExtendAbsW]

theorem decodeEa_movemRegToMem (hm : mode < 8) (hr : reg < 8)
    (h : isMovemRegToMemEa mode reg = true) :
    movemRegToMemExtLength (decodeEa rom ext mode reg size).1 =
      some (decodeEa rom ext mode reg size).2 := by
  revert h
  refine decodeEa_cases rom ext size
    (P := fun mode reg p => isMovemRegToMemEa mode reg = true → movemRegToMemExtLength p.1 = some p.2)
    ?dreg ?areg ?aind ?apost ?apre ?adisp ?aindex ?absW ?absL ?pcDisp ?pcIndex ?imm ?none hm hr
  case aindex =>
    intro r hr _
    change extIf (eaAddressIndexPayload _) _ = _
    simp only [extIf, decodeIndexExt_payload _ hr, if_true]
  case none =>
    rintro r (rfl | rfl | rfl) h <;> simp [isMovemRegToMemEa] at h
  all_goals
    intros
    simp_all [isMovemRegToMemEa, movemRegToMemExtLength, extIf, eaSimpleRegisterPayload,
      eaAddressDisplacementPayload, eaAbsWordPayload, eaAbsLongPayload,
      signExtendAbsWordValue_signExtendAbsW]

theorem decodeEa_movemMemToReg {instr : NgM68kInstr} (hm : mode < 8) (hr : reg < 8)
    (h : isMovemMemToRegEa mode reg = true)
    (hsrc : instr.src = (decodeEa rom ext mode reg size).1) (hext : ext = instr.addr + 4) :
    movemMemToRegExtLength instr = some (decodeEa rom ext mode reg size).2 := by
  by_cases h3 : mode = 3
  · subst h3
    have hr' : decide (reg < 8) = true := decide_eq_true hr
    rw [movemMemToRegExtLength, hsrc]
    change extIf (eaSimpleRegisterPayload { mode := .apost, reg := reg }) _ = _
    simp only [eaSimpleRegisterPayload, hr', extIf, beq_self_eq_true, Bool.and_self, if_true]
    rfl
  · have hc : isControlEa mode reg = true := by
      rcases lt_eight_cases hm with rfl | rfl | rfl | rfl | rfl | rfl | rfl | rfl <;>
        simp_all [isMovemMemToRegEa, isControlEa]
    have hlen := @decodeEa_control rom ext mode reg size hm hr hc
    rw [movemMemToRegExtLength, hsrc, ← hext]
    split
    · rename_i hp
      rw [exactControlEaExtLength, hp] at hlen
      cases hlen
    · exact hlen

end Ea

end NeoRecomp
