import NeoRecomp.Lib.Tally
import NeoRecomp.Runtime.Devices

/-!
# Palette statistics

`ng_neogeo_write_palette_byte` keeps the number of nonzero bytes, their sum and the peak of that
number by difference.  They are what counting palette RAM anew would give, after any sequence of
bus writes: however the bytes are mirrored, banked or doubled, each update is of one byte.
-/

namespace NeoRecomp
namespace NeogeoRuntime

/-! ## One byte -/

/-- The weight of a byte in the number of nonzero bytes. -/
def nonzeroWeight (value : BitVec 8) : Nat := if value ≠ 0 then 1 else 0

/-- The bytes of palette RAM. -/
def paletteCells (p : PaletteState) (offset : Nat) : BitVec 8 :=
  p.paletteRam (BitVec.ofNat 14 offset)

/-- The two counters follow palette RAM. -/
structure PaletteCounted (p : PaletteState) : Prop where
  nonzero : p.paletteNonzeroBytes = BitVec.ofNat 32 (tally nonzeroWeight (paletteCells p) 0x4000)
  checksum : p.paletteChecksum = BitVec.ofNat 32 (tally BitVec.toNat (paletteCells p) 0x4000)

/-- The number of nonzero bytes fits its counter. -/
theorem PaletteCounted.nonzero_toNat {p : PaletteState} (h : PaletteCounted p) :
    p.paletteNonzeroBytes.toNat = ((Finset.range 0x4000).filter fun i => paletteCells p i ≠ 0).card := by
  have hcount : tally nonzeroWeight (paletteCells p) 0x4000 =
      ((Finset.range 0x4000).filter fun i => paletteCells p i ≠ 0).card := tally_eq_card (· ≠ 0)
  have hle := Finset.card_filter_le (Finset.range 0x4000) fun i => paletteCells p i ≠ 0
  rw [Finset.card_range] at hle
  rw [h.nonzero, hcount, BitVec.toNat_ofNat]
  exact Nat.mod_eq_of_lt (by omega)

/-- The bytes after one of them is written. -/
theorem tally_writeByte (weight : BitVec 8 → Nat) (p p' : PaletteState) (offset : BitVec 14)
    (value : BitVec 8) (hram : p'.paletteRam = Function.update p.paletteRam offset value) :
    tally weight (paletteCells p') 0x4000 + weight (p.paletteRam offset) =
      tally weight (paletteCells p) 0x4000 + weight value := by
  have hcells : ∀ i < 0x4000,
      paletteCells p' i = Function.update (paletteCells p) offset.toNat value i := by
    intro i hi
    unfold paletteCells
    rw [hram]
    by_cases heq : i = offset.toNat
    · rw [heq, BitVec.ofNat_toNat, BitVec.setWidth_eq, Function.update_self, Function.update_self]
    · have hne : BitVec.ofNat 14 i ≠ offset := by
        rintro rfl
        rw [BitVec.toNat_ofNat, Nat.mod_eq_of_lt hi] at heq
        exact heq rfl
      rw [Function.update_of_ne hne, Function.update_of_ne heq]
  have hold : weight (p.paletteRam offset) = weight (paletteCells p offset.toNat) := by
    unfold paletteCells
    rw [BitVec.ofNat_toNat, BitVec.setWidth_eq]
  rw [tally_congr hcells, hold]
  exact tally_update offset.isLt

/-- The peak is the most nonzero bytes that any of the updates so far has left. -/
structure PaletteTracked (updates : List PaletteState) (p : PaletteState) : Prop
    extends PaletteCounted p where
  peak : p.palettePeakNonzeroBytes.toNat = peakOf (updates.map (·.paletteNonzeroBytes.toNat))
  below : p.paletteNonzeroBytes.toNat ≤ p.palettePeakNonzeroBytes.toNat

section Updates
variable {updates : List PaletteState} {p p' : PaletteState}

theorem PaletteTracked.congr (h : PaletteTracked updates p) (hram : p'.paletteRam = p.paletteRam)
    (hnonzero : p'.paletteNonzeroBytes = p.paletteNonzeroBytes)
    (hchecksum : p'.paletteChecksum = p.paletteChecksum)
    (hpeak : p'.palettePeakNonzeroBytes = p.palettePeakNonzeroBytes) :
    PaletteTracked updates p' := by
  have hcells : paletteCells p' = paletteCells p := by
    unfold paletteCells
    rw [hram]
  constructor
  · constructor
    · rw [hnonzero, hcells]
      exact h.nonzero
    · rw [hchecksum, hcells]
      exact h.checksum
  · rw [hpeak]
    exact h.peak
  · rw [hnonzero, hpeak]
    exact h.below

/-- The byte and the counters of an update that changes it, before the peak is looked at. -/
def replacedByte (p : PaletteState) (offset : BitVec 14) (value : BitVec 8) : PaletteState :=
  let old := p.paletteRam offset
  { p with
    paletteNonzeroBytes := p.paletteNonzeroBytes - BitVec.ofNat 32 (nonzeroWeight old) +
      BitVec.ofNat 32 (nonzeroWeight value)
    paletteChecksum := p.paletteChecksum - BitVec.ofNat 32 old.toNat + BitVec.ofNat 32 value.toNat
    paletteRam := Function.update p.paletteRam offset value }

theorem ngNeogeoWritePaletteByte_of_ne {offset : BitVec 32} {value : BitVec 8}
    (h : p.paletteRam (offset.setWidth 14) ≠ value) :
    ngNeogeoWritePaletteByte p offset value =
      ngNeogeoUpdatePalettePeak (replacedByte p (offset.setWidth 14) value) := by
  have hminus : (if p.paletteRam (offset.setWidth 14) ≠ 0 then p.paletteNonzeroBytes - 1
      else p.paletteNonzeroBytes) = p.paletteNonzeroBytes -
        BitVec.ofNat 32 (nonzeroWeight (p.paletteRam (offset.setWidth 14))) := by
    unfold nonzeroWeight
    split
    · rfl
    · exact (BitVec.sub_zero _).symm
  have hplus : ∀ count : BitVec 32, (if value ≠ 0 then count + 1 else count) =
      count + BitVec.ofNat 32 (nonzeroWeight value) := by
    intro count
    unfold nonzeroWeight
    split
    · rfl
    · exact (BitVec.add_zero _).symm
  have hsum : p.paletteChecksum - (p.paletteRam (offset.setWidth 14)).setWidth 32 +
      value.setWidth 32 = p.paletteChecksum -
        BitVec.ofNat 32 (p.paletteRam (offset.setWidth 14)).toNat + BitVec.ofNat 32 value.toNat := by
    rw [BitVec.ofNat_toNat, BitVec.ofNat_toNat]
  unfold ngNeogeoWritePaletteByte replacedByte
  rw [if_neg h, hminus]
  dsimp only
  rw [hplus, hsum]

theorem PaletteCounted.replacedByte (h : PaletteCounted p) (offset : BitVec 14)
    (value : BitVec 8) : PaletteCounted (replacedByte p offset value) := by
  constructor
  · have hstep := tally_writeByte nonzeroWeight p (NeogeoRuntime.replacedByte p offset value) offset
      value rfl
    rw [ofNat_tally_step hstep, ← h.nonzero]
    rfl
  · have hstep := tally_writeByte BitVec.toNat p (NeogeoRuntime.replacedByte p offset value) offset
      value rfl
    rw [ofNat_tally_step hstep, ← h.checksum]
    rfl

theorem updatePalettePeak_nonzero (p : PaletteState) :
    (ngNeogeoUpdatePalettePeak p).paletteNonzeroBytes = p.paletteNonzeroBytes := by
  unfold ngNeogeoUpdatePalettePeak
  split <;> rfl

theorem updatePalettePeak_peak (p : PaletteState) :
    (ngNeogeoUpdatePalettePeak p).palettePeakNonzeroBytes.toNat =
      max p.palettePeakNonzeroBytes.toNat p.paletteNonzeroBytes.toNat := by
  unfold ngNeogeoUpdatePalettePeak
  split
  · next hlt => exact (Nat.max_eq_right (Nat.le_of_lt hlt)).symm
  · next hge => exact (Nat.max_eq_left (Nat.le_of_not_lt hge)).symm

theorem PaletteCounted.updatePeak (h : PaletteCounted p) :
    PaletteCounted (ngNeogeoUpdatePalettePeak p) := by
  unfold ngNeogeoUpdatePalettePeak
  split
  · exact ⟨h.nonzero, h.checksum⟩
  · exact h

theorem peakOf_updates (updates : List PaletteState) (p : PaletteState) :
    peakOf ((updates ++ [p]).map (·.paletteNonzeroBytes.toNat)) =
      max (peakOf (updates.map (·.paletteNonzeroBytes.toNat))) p.paletteNonzeroBytes.toNat := by
  rw [List.map_append, peakOf_append, List.map_singleton, peakOf_singleton]

/-- One byte update. -/
theorem PaletteTracked.writeByte (h : PaletteTracked updates p) (offset : BitVec 32)
    (value : BitVec 8) :
    PaletteTracked (updates ++ [ngNeogeoWritePaletteByte p offset value])
      (ngNeogeoWritePaletteByte p offset value) := by
  by_cases hsame : p.paletteRam (offset.setWidth 14) = value
  · have heq : ngNeogeoWritePaletteByte p offset value = p := if_pos hsame
    rw [heq]
    refine ⟨h.toPaletteCounted, ?_, h.below⟩
    rw [peakOf_updates, ← h.peak]
    exact (Nat.max_eq_left h.below).symm
  · rw [ngNeogeoWritePaletteByte_of_ne hsame]
    have hcounted := h.toPaletteCounted.replacedByte (offset.setWidth 14) value
    refine ⟨hcounted.updatePeak, ?_, ?_⟩
    · rw [peakOf_updates, ← h.peak, updatePalettePeak_peak, updatePalettePeak_nonzero]
      rfl
    · rw [updatePalettePeak_peak, updatePalettePeak_nonzero]
      exact Nat.le_max_right ..

/-! ## Bus writes -/

/-- The states after the two byte updates of a word. -/
def wordUpdates (p : PaletteState) (addr : BitVec 32) (value : BitVec 16) : List PaletteState :=
  let offset := (p.paletteBank.setWidth 32 * 0x2000 ||| (addr &&& 0x1FFF)) &&& ~~~1
  let first := ngNeogeoWritePaletteByte p offset ((value >>> 8).setWidth 8)
  [first, ngNeogeoWritePaletteByte first (offset + 1) (value.setWidth 8)]

theorem PaletteTracked.writeWord (h : PaletteTracked updates p) (addr : BitVec 32)
    (value : BitVec 16) :
    PaletteTracked (updates ++ wordUpdates p addr value) (writePalette p addr value) := by
  have hfirst := h.writeByte ((p.paletteBank.setWidth 32 * 0x2000 ||| (addr &&& 0x1FFF)) &&& ~~~1)
    ((value >>> 8).setWidth 8)
  have hboth := hfirst.writeByte
    (((p.paletteBank.setWidth 32 * 0x2000 ||| (addr &&& 0x1FFF)) &&& ~~~1) + 1) (value.setWidth 8)
  rw [List.append_assoc] at hboth
  exact hboth.congr rfl rfl rfl rfl

variable {rt : NeogeoRuntime}

/-- The states after the byte updates of palette RAM that `ng68k_write8` makes. -/
def write8Updates (rt : NeogeoRuntime) (addr : BitVec 32) (value : BitVec 8) : List PaletteState :=
  if busDevice (addr &&& 0x00FFFFFF) = .palette then
    wordUpdates rt.toPaletteState (addr &&& 0x00FFFFFF) (twice value)
  else []

/-- Those of `ng68k_write16`. -/
def write16Updates (rt : NeogeoRuntime) (addr : BitVec 32) (value : BitVec 16) :
    List PaletteState :=
  match busDevice (addr &&& 0x00FFFFFF) with
  | .palette => wordUpdates rt.toPaletteState (addr &&& 0x00FFFFFF) value
  | .lspc => []
  | _ => write8Updates rt addr ((value >>> 8).setWidth 8) ++
      write8Updates (rt.ng68kWrite8 addr ((value >>> 8).setWidth 8)) (addr + 1) (value.setWidth 8)

/-- Those of a bus write; no other operation makes any. -/
def paletteUpdates (rt : NeogeoRuntime) : RuntimeOp → List PaletteState
  | .write8 addr value => write8Updates rt addr value
  | .write16 addr value => write16Updates rt addr value
  | .write32 addr value =>
    write16Updates rt addr ((value >>> 16).setWidth 16) ++
      write16Updates (rt.ng68kWrite16 addr ((value >>> 16).setWidth 16)) (addr + 2)
        (value.setWidth 16)
  | _ => []

/-- Those of a run. -/
def runUpdates : NeogeoRuntime → List RuntimeOp → List PaletteState
  | _, [] => []
  | rt, op :: ops => paletteUpdates rt op ++ runUpdates (op.step rt).2 ops

theorem PaletteTracked.lspc (h : PaletteTracked updates rt.toPaletteState) (addr : BitVec 32)
    (value : BitVec 16) :
    PaletteTracked updates (rt.ngNeogeoWriteLspcWord addr value).toPaletteState := by
  unfold ngNeogeoWriteLspcWord
  dsimp only
  split <;> try exact h
  split <;> exact h

/-- Only the bank of the palette is a latch. -/
theorem PaletteTracked.systemLatch (h : PaletteTracked updates rt.toPaletteState)
    (addr : BitVec 32) (value : BitVec 8) :
    PaletteTracked updates (rt.writeSystemLatch addr value).toPaletteState := by
  unfold writeSystemLatch
  dsimp only
  split <;> exact h.congr rfl rfl rfl rfl

theorem PaletteTracked.write8 (h : PaletteTracked updates rt.toPaletteState) (addr : BitVec 32)
    (value : BitVec 8) :
    PaletteTracked (updates ++ write8Updates rt addr value)
      (rt.ng68kWrite8 addr value).toPaletteState := by
  rw [ng68kWrite8_eq]
  unfold write8Updates
  cases busDevice (addr &&& 0x00FFFFFF) with
  | palette =>
    rw [if_pos rfl]
    exact h.writeWord _ _
  | systemLatch =>
    rw [if_neg (by decide), List.append_nil]
    exact h.systemLatch _ value
  | lspc =>
    rw [if_neg (by decide), List.append_nil]
    exact h.lspc _ _
  | backupRam =>
    rw [if_neg (by decide), List.append_nil]
    unfold writeDevice writeBackupRam
    dsimp only
    split <;> exact h
  | _ =>
    rw [if_neg (by decide), List.append_nil]
    exact h

theorem PaletteTracked.write16 (h : PaletteTracked updates rt.toPaletteState) (addr : BitVec 32)
    (value : BitVec 16) :
    PaletteTracked (updates ++ write16Updates rt addr value)
      (rt.ng68kWrite16 addr value).toPaletteState := by
  have hbytes := (h.write8 addr ((value >>> 8).setWidth 8)).write8 (addr + 1) (value.setWidth 8)
  rw [List.append_assoc] at hbytes
  rw [ng68kWrite16_eq]
  unfold write16Updates
  cases busDevice (addr &&& 0x00FFFFFF) with
  | palette => exact h.writeWord _ _
  | lspc =>
    rw [List.append_nil]
    exact h.lspc _ _
  | _ => exact hbytes

end Updates

end NeogeoRuntime

/-! ## Runs -/

/-- A bus write. -/
def RuntimeOp.isBusWrite : RuntimeOp → Bool
  | .write8 _ _ | .write16 _ _ | .write32 _ _ => true
  | _ => false

namespace NeogeoRuntime

theorem PaletteTracked.step {updates : List PaletteState} {rt : NeogeoRuntime}
    (h : PaletteTracked updates rt.toPaletteState) {op : RuntimeOp} (hop : op.isBusWrite = true) :
    PaletteTracked (updates ++ paletteUpdates rt op) (op.step rt).2.toPaletteState := by
  cases op with
  | write8 addr value => exact h.write8 addr value
  | write16 addr value => exact h.write16 addr value
  | write32 addr value =>
    have hwords := (h.write16 addr ((value >>> 16).setWidth 16)).write16 (addr + 2)
      (value.setWidth 16)
    rw [List.append_assoc] at hwords
    exact hwords
  | _ => cases hop

theorem PaletteTracked.run (ops : List RuntimeOp) (hops : ∀ op ∈ ops, op.isBusWrite = true)
    {updates : List PaletteState} {rt : NeogeoRuntime}
    (h : PaletteTracked updates rt.toPaletteState) :
    PaletteTracked (updates ++ runUpdates rt ops) (rt.run ops).2.toPaletteState := by
  induction ops generalizing updates rt with
  | nil =>
    rw [runUpdates, List.append_nil]
    exact h
  | cons op ops ih =>
    have hop := h.step (hops op (List.mem_cons_self ..))
    have hrest := ih (fun other hother => hops other (List.mem_cons_of_mem _ hother)) hop
    rw [List.append_assoc] at hrest
    exact hrest

theorem reset_paletteTracked (rt : NeogeoRuntime) :
    PaletteTracked [] rt.ngNeogeoResetRuntime.toPaletteState := by
  have hzero : ∀ weight : BitVec 8 → Nat, weight 0 = 0 →
      tally weight (paletteCells rt.ngNeogeoResetRuntime.toPaletteState) 0x4000 = 0 :=
    fun weight hw => Finset.sum_eq_zero fun i _ => hw
  refine ⟨⟨?_, ?_⟩, rfl, Nat.le_refl _⟩
  · rw [hzero nonzeroWeight rfl]
    rfl
  · rw [hzero BitVec.toNat rfl]
    rfl

/-- After a reset and any bus writes, the statistics are those of palette RAM counted anew, and
the peak is the most nonzero bytes there were after any single byte update. -/
theorem palette_statistics (rt : NeogeoRuntime) (ops : List RuntimeOp)
    (hops : ∀ op ∈ ops, op.isBusWrite = true) :
    let start := rt.ngNeogeoResetRuntime
    let p := (start.run ops).2.toPaletteState
    p.paletteNonzeroBytes.toNat =
        ((Finset.range 0x4000).filter fun i => paletteCells p i ≠ 0).card ∧
      p.paletteChecksum.toNat =
        (∑ i ∈ Finset.range 0x4000, (paletteCells p i).toNat) % 2 ^ 32 ∧
      p.palettePeakNonzeroBytes.toNat =
        peakOf ((runUpdates start ops).map (·.paletteNonzeroBytes.toNat)) := by
  intro start p
  have htracked := PaletteTracked.run ops hops rt.reset_paletteTracked
  rw [List.nil_append] at htracked
  refine ⟨htracked.nonzero_toNat, ?_, htracked.peak⟩
  rw [htracked.checksum, BitVec.toNat_ofNat]
  rfl

/-- A colour in the second bank, which is written over byte by byte. -/
def paletteRun : List RuntimeOp :=
  [.write8 0x3A000F 0, .write16 0x402001 0x1234, .write8 0x400000 0]

theorem palette_statistics_banked :
    (NeogeoRuntime.initial.ngNeogeoResetRuntime.run paletteRun).2.palettePeakNonzeroBytes.toNat =
      peakOf ((runUpdates NeogeoRuntime.initial.ngNeogeoResetRuntime paletteRun).map
        (·.paletteNonzeroBytes.toNat)) :=
  (palette_statistics NeogeoRuntime.initial paletteRun (by decide)).2.2

end NeogeoRuntime
end NeoRecomp
