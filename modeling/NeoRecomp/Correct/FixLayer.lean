import NeoRecomp.Correct.SpriteFrame
import NeoRecomp.Runtime.FixLayer

/-!
# The two renderers of the fix layer

Both run over the same tiles in the same order.  Where the lines start that they compute in 32 bits,
a frame shows the colours of the layer 16 lines further down.
-/

namespace NeoRecomp

open Paint

/-! ## Tile order -/

section Order

/-- The pixels of the layer, tile by tile. -/
def fixOrder : List (Nat × Nat) :=
  (List.range 40).flatMap fun tileX => (List.range 32).flatMap fun tileY =>
    (List.range 8).flatMap fun py => (List.range 8).map fun px => (tileX * 8 + px, tileY * 8 + py)

theorem mem_fixOrder {x row : Nat} : (x, row) ∈ fixOrder ↔ x < 320 ∧ row < 256 := by
  unfold fixOrder
  simp only [List.mem_flatMap, List.mem_map, List.mem_range, Prod.mk.injEq]
  constructor
  · rintro ⟨tileX, hX, tileY, hY, py, hpy, px, hpx, rfl, rfl⟩
    omega
  · rintro ⟨hx, hrow⟩
    exact ⟨x / 8, by omega, row / 8, by omega, row % 8, by omega, x % 8, by omega, by omega,
      by omega⟩

/-- Columns of tiles follow each other, and in a column the rows. -/
theorem fixOrder_pairwise :
    fixOrder.Pairwise fun a b => a.1 / 8 < b.1 / 8 ∨ (a.1 / 8 = b.1 / 8 ∧ a.2 ≤ b.2) := by
  unfold fixOrder
  simp only [List.pairwise_flatMap, List.pairwise_map, List.mem_flatMap, List.mem_map,
    List.mem_range]
  refine ⟨fun tileX _ => ⟨fun tileY _ => ⟨fun py _ => ?_, ?_⟩, ?_⟩, ?_⟩
  · apply List.Pairwise.imp_of_mem _ List.pairwise_lt_range
    intro px px' hpx hpx' _
    rw [List.mem_range] at hpx hpx'
    omega
  · apply List.Pairwise.imp _ List.pairwise_lt_range
    rintro py py' hlt _ ⟨px, hpx, rfl⟩ _ ⟨px', hpx', rfl⟩
    dsimp only
    omega
  · apply List.Pairwise.imp _ List.pairwise_lt_range
    rintro tileY tileY' hlt _ ⟨py, hpy, px, hpx, rfl⟩ _ ⟨py', hpy', px', hpx', rfl⟩
    dsimp only
    omega
  · apply List.Pairwise.imp _ List.pairwise_lt_range
    rintro tileX tileX' hlt _ ⟨tileY, -, py, -, px, hpx, rfl⟩ _ ⟨tileY', -, py', -, px', hpx', rfl⟩
    dsimp only
    omega

variable {α : Type} {line : Nat → Nat → (Nat → α) → Nat → Nat → α}
  {turn : Nat × Nat → List (Nat × α)}

/-- The loops over the tiles and their lines paint the pixels in tile order. -/
theorem tileLoops_eq_paint
    (h : ∀ tileX tileY py out, tileX < 40 → tileY < 32 → py < 8 → line tileX tileY out py =
      paint ((List.range 8).flatMap fun px => turn (tileX * 8 + px, tileY * 8 + py)) out)
    (out : Nat → α) :
    (List.range 40).foldl (fun out tileX => (List.range 32).foldl (fun out tileY =>
      (List.range 8).foldl (line tileX tileY) out) out) out = paint (fixOrder.flatMap turn) out := by
  have horder : fixOrder.flatMap turn = (List.range 40).flatMap fun tileX =>
      (List.range 32).flatMap fun tileY => (List.range 8).flatMap fun py =>
        (List.range 8).flatMap fun px => turn (tileX * 8 + px, tileY * 8 + py) := by
    unfold fixOrder
    simp only [List.flatMap_assoc, List.flatMap_map]
  rw [horder]
  apply foldl_eq_paint
  intro tileX hX out
  apply foldl_eq_paint
  intro tileY hY out
  apply foldl_eq_paint
  intro py hpy out
  exact h tileX tileY py out (List.mem_range.mp hX) (List.mem_range.mp hY) (List.mem_range.mp hpy)

end Order

section Layer
variable (source : FixSource) (vramWords : Array (BitVec 16))

/-- The colour index of a pixel of the layer. -/
def fixPixel (x row : Nat) : BitVec 8 :=
  fixTileLine source vramWords (x / 8) (row / 8) (row % 8) (x % 8) &&& 0x0F

def fixArgb (x row : Nat) : BitVec 32 :=
  ngNeogeoVideoPaletteArgb source.palette
    (fixPaletteBase vramWords (x / 8) (row / 8) ||| (fixPixel source vramWords x row).setWidth 16)

/-- What the overlay writes for a pixel of the layer. -/
def overlayTurn (outHeight outStridePixels sourceYOffset : Nat) (pixel : Nat × Nat) :
    List (Nat × BitVec 32) :=
  if fixPixel source vramWords pixel.1 pixel.2 = 0 ∨ pixel.2 < sourceYOffset ∨
      sourceYOffset + outHeight ≤ pixel.2 then []
  else [((pixel.2 - sourceYOffset) * outStridePixels % 2 ^ 32 + pixel.1,
    fixArgb source vramWords pixel.1 pixel.2)]

/-- What the layer alone writes for it. -/
def layerTurn (outStridePixels : Nat) (pixel : Nat × Nat) : List (Nat × BitVec 32) :=
  [(pixel.2 * outStridePixels % 2 ^ 32 + pixel.1,
    if fixPixel source vramWords pixel.1 pixel.2 = 0 then 0xFF000000
    else fixArgb source vramWords pixel.1 pixel.2)]

variable {source vramWords} {outHeight outStridePixels sourceYOffset : BitVec 32}
  {out : Nat → BitVec 32}

theorem fixPixel_tile {tileX tileY py px : Nat} (hpy : py < 8) (hpx : px < 8) :
    fixPixel source vramWords (tileX * 8 + px) (tileY * 8 + py) =
        fixTileLine source vramWords tileX tileY py px &&& 0x0F ∧
      fixArgb source vramWords (tileX * 8 + px) (tileY * 8 + py) =
        ngNeogeoVideoPaletteArgb source.palette (fixPaletteBase vramWords tileX tileY |||
          (fixTileLine source vramWords tileX tileY py px &&& 0x0F).setWidth 16) := by
  have hx : (tileX * 8 + px) / 8 = tileX ∧ (tileX * 8 + px) % 8 = px := by omega
  have hrow : (tileY * 8 + py) / 8 = tileY ∧ (tileY * 8 + py) % 8 = py := by omega
  unfold fixArgb fixPixel
  rw [hx.1, hx.2, hrow.1, hrow.2]
  exact ⟨rfl, rfl⟩

theorem overlayLine_eq_paint (hoffset : sourceYOffset.toNat ≤ 256)
    (hheight : outHeight.toNat ≤ 256 - sourceYOffset.toNat) {tileX tileY py : Nat}
    (hY : tileY < 32) (hpy : py < 8) :
    overlayLine source vramWords outHeight outStridePixels sourceYOffset tileX tileY out py =
      paint ((List.range 8).flatMap fun px => overlayTurn source vramWords outHeight.toNat
        outStridePixels.toNat sourceYOffset.toNat (tileX * 8 + px, tileY * 8 + py)) out := by
  have hsource : (BitVec.ofNat 32 (tileY * 8 + py)).toNat = tileY * 8 + py := by
    rw [BitVec.toNat_ofNat, Nat.mod_eq_of_lt (by omega)]
  have hend : (sourceYOffset + outHeight).toNat = sourceYOffset.toNat + outHeight.toNat := by
    rw [BitVec.toNat_add, Nat.mod_eq_of_lt (by omega)]
  have hskip : (BitVec.ofNat 32 (tileY * 8 + py) < sourceYOffset ∨
      sourceYOffset + outHeight ≤ BitVec.ofNat 32 (tileY * 8 + py)) ↔
        (tileY * 8 + py < sourceYOffset.toNat ∨
          sourceYOffset.toNat + outHeight.toNat ≤ tileY * 8 + py) := by
    rw [BitVec.lt_def, BitVec.le_def, hsource, hend]
  unfold overlayLine
  dsimp only
  by_cases hout : tileY * 8 + py < sourceYOffset.toNat ∨
      sourceYOffset.toNat + outHeight.toNat ≤ tileY * 8 + py
  · have hnone : ((List.range 8).flatMap fun px => overlayTurn source vramWords outHeight.toNat
        outStridePixels.toNat sourceYOffset.toNat (tileX * 8 + px, tileY * 8 + py)) = [] := by
      apply List.flatMap_eq_nil_iff.mpr
      intro px _
      exact if_pos (Or.inr hout)
    rw [if_pos (hskip.mpr hout), hnone]
    rfl
  · rw [if_neg fun h => hout (hskip.mp h)]
    have houtY : (BitVec.ofNat 32 (tileY * 8 + py) - sourceYOffset).toNat =
        tileY * 8 + py - sourceYOffset.toNat := by
      rw [BitVec.toNat_sub_of_le (by rw [BitVec.le_def, hsource]; omega), hsource]
    apply foldl_eq_paint
    intro px hpx out
    rw [List.mem_range] at hpx
    obtain ⟨hpixel, hargb⟩ := @fixPixel_tile source vramWords tileX tileY py px hpy hpx
    unfold overlayPixel overlayTurn
    dsimp only
    rw [hpixel, hargb]
    by_cases hblank : fixTileLine source vramWords tileX tileY py px &&& 0x0F = 0
    · rw [if_pos hblank, if_pos (Or.inl hblank)]
      rfl
    · have hdrawn : ¬ (fixTileLine source vramWords tileX tileY py px &&& 0x0F = 0 ∨
          tileY * 8 + py < sourceYOffset.toNat ∨
          sourceYOffset.toNat + outHeight.toNat ≤ tileY * 8 + py) := by
        rintro (h | h)
        · exact hblank h
        · exact hout h
      rw [if_neg hblank, if_neg hdrawn, BitVec.toNat_mul, houtY, Nat.add_assoc]
      rfl

theorem layerLine_eq_paint {tileX tileY py : Nat} (hpy : py < 8) :
    layerLine source vramWords outStridePixels tileX tileY out py =
      paint ((List.range 8).flatMap fun px => layerTurn source vramWords outStridePixels.toNat
        (tileX * 8 + px, tileY * 8 + py)) out := by
  unfold layerLine
  dsimp only
  apply foldl_eq_paint
  intro px hpx out
  rw [List.mem_range] at hpx
  obtain ⟨hpixel, hargb⟩ := @fixPixel_tile source vramWords tileX tileY py px hpy hpx
  unfold layerPixel layerTurn
  dsimp only
  rw [hpixel, hargb, toNat_line, Nat.add_assoc]
  rfl

/-! ## What is written -/

variable (source vramWords outHeight outStridePixels) in
def overlayWrites : List (Nat × BitVec 32) :=
  fixOrder.flatMap (overlayTurn source vramWords outHeight.toNat outStridePixels.toNat 16)

variable (source vramWords outStridePixels) in
def layerWrites : List (Nat × BitVec 32) :=
  fixOrder.flatMap (layerTurn source vramWords outStridePixels.toNat)

variable {i : Nat} {argb : BitVec 32}

theorem mem_overlayWrites (h : (i, argb) ∈ overlayWrites source vramWords outHeight outStridePixels) :
    ∃ x < 320, ∃ y < outHeight.toNat, fixPixel source vramWords x (y + 16) ≠ 0 ∧
      i = y * outStridePixels.toNat % 2 ^ 32 + x ∧ argb = fixArgb source vramWords x (y + 16) := by
  obtain ⟨⟨x, row⟩, horder, hturn⟩ := List.mem_flatMap.mp h
  obtain ⟨hx, -⟩ := mem_fixOrder.mp horder
  unfold overlayTurn at hturn
  dsimp only at hturn
  by_cases hskip : fixPixel source vramWords x row = 0 ∨ row < 16 ∨ 16 + outHeight.toNat ≤ row
  · rw [if_pos hskip] at hturn
    exact absurd hturn List.not_mem_nil
  · rw [if_neg hskip, List.mem_singleton, Prod.mk.injEq] at hturn
    simp only [not_or, Nat.not_lt, Nat.not_le] at hskip
    have hrow : row - 16 + 16 = row := by omega
    refine ⟨x, hx, row - 16, by omega, ?_⟩
    rw [hrow]
    exact ⟨hskip.1, hturn⟩

theorem overlayWrites_mem {x y : Nat} (hx : x < 320) (hy : y < outHeight.toNat)
    (hheight : outHeight.toNat ≤ 240) (hpixel : fixPixel source vramWords x (y + 16) ≠ 0) :
    (y * outStridePixels.toNat % 2 ^ 32 + x, fixArgb source vramWords x (y + 16)) ∈
      overlayWrites source vramWords outHeight outStridePixels := by
  apply List.mem_flatMap.mpr
  refine ⟨(x, y + 16), mem_fixOrder.mpr ⟨hx, by omega⟩, ?_⟩
  have hdrawn : ¬ (fixPixel source vramWords x (y + 16) = 0 ∨ y + 16 < 16 ∨
      16 + outHeight.toNat ≤ y + 16) := by
    rintro (h | h | h)
    · exact hpixel h
    · omega
    · omega
  unfold overlayTurn
  dsimp only
  rw [if_neg hdrawn, Nat.add_sub_cancel]
  exact List.mem_singleton_self _

theorem mem_layerWrites :
    (i, argb) ∈ layerWrites source vramWords outStridePixels ↔ ∃ x < 320, ∃ row < 256,
      i = row * outStridePixels.toNat % 2 ^ 32 + x ∧
        argb = if fixPixel source vramWords x row = 0 then 0xFF000000
          else fixArgb source vramWords x row := by
  unfold layerWrites
  rw [List.mem_flatMap]
  constructor
  · rintro ⟨⟨x, row⟩, horder, hturn⟩
    obtain ⟨hx, hrow⟩ := mem_fixOrder.mp horder
    unfold layerTurn at hturn
    rw [List.mem_singleton, Prod.mk.injEq] at hturn
    exact ⟨x, hx, row, hrow, hturn⟩
  · rintro ⟨x, hx, row, hrow, rfl, rfl⟩
    exact ⟨(x, row), mem_fixOrder.mpr ⟨hx, hrow⟩, List.mem_singleton_self _⟩

/-- The parameters that a frame is rendered for. -/
theorem renderFrame_eq {sRom : Option (Array (BitVec 8))} {sRomSize : BitVec 32}
    {sprite : SpriteSource} {vramWordCount outWidth : BitVec 32} {sprites frame : Nat → BitVec 32}
    (hsprites : ngNeogeoVideoRenderSpriteFrameArgbWithOptions sprite (some vramWords) vramWordCount
      out outWidth outHeight outStridePixels = some sprites)
    (hframe : ngNeogeoVideoRenderFrameArgbWithOptions sRom sRomSize sprite (some vramWords)
      vramWordCount out outWidth outHeight outStridePixels = (true, frame)) :
    outHeight.toNat ≤ 240 ∧
      frame = paint (overlayWrites ⟨sRom, sRomSize, sprite.palette⟩ vramWords outHeight
        outStridePixels) sprites := by
  unfold ngNeogeoVideoRenderFrameArgbWithOptions at hframe
  rw [hsprites] at hframe
  dsimp only at hframe
  unfold ngNeogeoVideoOverlayFixLayerArgb at hframe
  cases sRom with
  | none => cases hframe
  | some rom =>
    dsimp only at hframe
    by_cases hrefused : vramWordCount < 0x7000 + 40 * 32 ∨ outWidth < 320 ∨ outHeight < 224 ∨
        outStridePixels < outWidth ∨ 256 < ngNeoFixVisibleYOffset ∨
        256 - ngNeoFixVisibleYOffset < outHeight
    · rw [if_pos hrefused] at hframe
      cases hframe
    · rw [if_neg hrefused] at hframe
      simp only [not_or, BitVec.not_lt, BitVec.le_def] at hrefused
      have hheight : outHeight.toNat ≤ 240 := hrefused.2.2.2.2.2
      refine ⟨hheight, ?_⟩
      rw [← (Prod.mk.inj hframe).2]
      apply tileLoops_eq_paint
      intro tileX tileY py out _ hY hpy
      exact overlayLine_eq_paint (by decide) hheight hY hpy

theorem renderFixLayer_eq {vramWordCount outWidth : BitVec 32} {layer : Nat → BitVec 32}
    (h : ngNeogeoVideoRenderFixLayerArgb source (some vramWords) vramWordCount out outWidth
      outHeight outStridePixels = some layer) :
    320 ≤ outWidth.toNat ∧ 256 ≤ outHeight.toNat ∧ outWidth.toNat ≤ outStridePixels.toNat ∧
      layer = paint (layerWrites source vramWords outStridePixels)
        (paint (fillWrites 0xFF000000 outStridePixels outWidth.toNat outHeight.toNat) out) := by
  unfold ngNeogeoVideoRenderFixLayerArgb at h
  cases hrom : source.sRom with
  | none =>
    rw [hrom] at h
    cases h
  | some rom =>
    rw [hrom] at h
    dsimp only at h
    by_cases hrefused : vramWordCount < 0x7000 + 40 * 32 ∨ outWidth < 320 ∨ outHeight < 256 ∨
        outStridePixels < outWidth
    · rw [if_pos hrefused] at h
      cases h
    · rw [if_neg hrefused, Option.some.injEq] at h
      simp only [not_or, BitVec.not_lt, BitVec.le_def] at hrefused
      refine ⟨hrefused.2.1, hrefused.2.2.1, hrefused.2.2.2, ?_⟩
      rw [← h, fillBackground_eq_paint]
      apply tileLoops_eq_paint
      intro tileX tileY py out _ _ hpy
      exact layerLine_eq_paint hpy

/-! ## Lines that start below `2 ^ 32` -/

theorem line_start {stride last y : Nat} (hstart : last * stride < 2 ^ 32) (hy : y ≤ last) :
    y * stride % 2 ^ 32 = y * stride := by
  have hle := Nat.mul_le_mul_right stride hy
  exact Nat.mod_eq_of_lt (by omega)

/-- The overlay draws each pixel in its place. -/
theorem lastWrite_overlayWrites (hheight : outHeight.toNat ≤ 240)
    (hstart : (outHeight.toNat - 1) * outStridePixels.toNat < 2 ^ 32)
    (hstride : 320 ≤ outStridePixels.toNat) {x y : Nat} (hx : x < outStridePixels.toNat)
    (hy : y < outHeight.toNat) :
    lastWrite (overlayWrites source vramWords outHeight outStridePixels)
        (y * outStridePixels.toNat + x) =
      if x < 320 ∧ fixPixel source vramWords x (y + 16) ≠ 0 then
        some (fixArgb source vramWords x (y + 16))
      else none := by
  have hplace {argb : BitVec 32} (hmem : (y * outStridePixels.toNat + x, argb) ∈
      overlayWrites source vramWords outHeight outStridePixels) :
      (x < 320 ∧ fixPixel source vramWords x (y + 16) ≠ 0) ∧
        argb = fixArgb source vramWords x (y + 16) := by
    obtain ⟨x', hx', y', hy', hpixel, hindex, hargb⟩ := mem_overlayWrites hmem
    rw [line_start hstart (by omega)] at hindex
    obtain ⟨rfl, rfl⟩ := row_inj hx (by omega) hindex
    exact ⟨⟨hx', hpixel⟩, hargb⟩
  by_cases hdrawn : x < 320 ∧ fixPixel source vramWords x (y + 16) ≠ 0
  · rw [if_pos hdrawn]
    have hmem := @overlayWrites_mem source vramWords outHeight outStridePixels x y hdrawn.1 hy
      hheight hdrawn.2
    rw [line_start hstart (by omega)] at hmem
    exact lastWrite_of_forall hmem fun b hb => (hplace hb).2
  · rw [if_neg hdrawn]
    exact lastWrite_eq_none_iff.mpr fun a ha => hdrawn (hplace ha).1

/-- The lines of the layer that a frame shows start below `2 ^ 32`, and none that wraps around
reaches them. -/
def LayerFits (frameHeight layerStride : Nat) : Prop :=
  (frameHeight + 15) * layerStride < 2 ^ 32 ∧ (frameHeight = 224 → 239 * layerStride + 320 ≤ 2 ^ 32)

theorem LayerFits.index_inj {frameHeight stride x y x' row : Nat} (h : LayerFits frameHeight stride)
    (hheight : 224 ≤ frameHeight) (hstride : 320 ≤ stride) (hx : x < 320) (hx' : x' < 320)
    (hy : y < frameHeight) (hrow : row < 256)
    (hindex : (y + 16) * stride + x = row * stride % 2 ^ 32 + x') : row = y + 16 ∧ x' = x := by
  obtain ⟨hstart, hgap⟩ := h
  by_cases hbelow : row * stride < 2 ^ 32
  · rw [Nat.mod_eq_of_lt hbelow] at hindex
    obtain ⟨hrows, hcolumns⟩ := row_inj (by omega) (by omega) hindex
    exact ⟨hrows.symm, hcolumns.symm⟩
  · -- a line that wraps around stands `distance` lines further down
    exfalso
    have hdown : frameHeight + 15 < row := by
      by_contra hle
      have := Nat.mul_le_mul_right stride (by omega : row ≤ frameHeight + 15)
      omega
    have hsplit : row * stride = (row - (y + 16)) * stride + (y + 16) * stride := by
      rw [← Nat.add_mul]
      apply congrArg (· * stride)
      omega
    have htop := Nat.mul_le_mul_right stride (by omega : row ≤ 255)
    have hlow := Nat.mul_le_mul_right stride (by omega : 239 ≤ frameHeight + 15)
    have hwrap : row * stride % 2 ^ 32 = row * stride - 2 ^ 32 := by
      rw [Nat.mod_eq_sub_mod (by omega), Nat.mod_eq_of_lt (by omega)]
    have hdistance : (row - (y + 16)) * stride + x' = 2 ^ 32 + x := by omega
    by_cases hnear : row - (y + 16) ≤ frameHeight + 14
    · have hle := Nat.mul_le_mul_right stride hnear
      have hnext : (frameHeight + 15) * stride = (frameHeight + 14) * stride + stride :=
        Nat.succ_mul _ _
      omega
    · have hexact : row - (y + 16) = 239 ∧ frameHeight = 224 := by omega
      have := hgap hexact.2
      rw [hexact.1] at hdistance
      omega

theorem lastWrite_layerWrites {frameHeight x y : Nat}
    (h : LayerFits frameHeight outStridePixels.toNat) (hlow : 224 ≤ frameHeight)
    (hheight : frameHeight ≤ 240) (hstride : 320 ≤ outStridePixels.toNat) (hx : x < 320)
    (hy : y < frameHeight) :
    lastWrite (layerWrites source vramWords outStridePixels)
        ((y + 16) * outStridePixels.toNat + x) =
      some (if fixPixel source vramWords x (y + 16) = 0 then 0xFF000000
        else fixArgb source vramWords x (y + 16)) := by
  apply lastWrite_of_forall
  · apply mem_layerWrites.mpr
    refine ⟨x, hx, y + 16, by omega, ?_, rfl⟩
    rw [line_start h.1 (by omega)]
  · intro argb hmem
    obtain ⟨x', hx', row, hrow, hindex, rfl⟩ := mem_layerWrites.mp hmem
    obtain ⟨rfl, rfl⟩ := h.index_inj hlow hstride hx hx' hy hrow hindex
    rfl

-- Which pixels meet pixel (0, 16) when line 239 ends behind `2 ^ 32`.
theorem wrapped_index {stride x row : Nat} (hstart : 239 * stride < 2 ^ 32)
    (hend : 2 ^ 32 < 239 * stride + 320) (hx : x < 320) (hrow : row < 256)
    (hindex : 16 * stride = row * stride % 2 ^ 32 + x) :
    (x = 0 ∧ row = 16) ∨ (x = 2 ^ 32 - 239 * stride ∧ row = 255) := by
  by_cases hbelow : row * stride < 2 ^ 32
  · rw [Nat.mod_eq_of_lt hbelow, ← Nat.add_zero (16 * stride)] at hindex
    obtain ⟨hrows, hcolumns⟩ := row_inj (by omega) (by omega) hindex
    exact Or.inl ⟨hcolumns.symm, hrows.symm⟩
  · apply Or.inr
    have htop := Nat.mul_le_mul_right stride (by omega : row ≤ 255)
    have hdown : 239 < row := by
      by_contra hle
      have := Nat.mul_le_mul_right stride (by omega : row ≤ 239)
      omega
    have hsplit : row * stride = (row - 16) * stride + 16 * stride := by
      rw [← Nat.add_mul, Nat.sub_add_cancel (by omega)]
    have hwrap : row * stride % 2 ^ 32 = row * stride - 2 ^ 32 := by
      rw [Nat.mod_eq_sub_mod (by omega), Nat.mod_eq_of_lt (by omega)]
    have hlast : row = 255 := by
      by_contra hne
      have := Nat.mul_le_mul_right stride (by omega : row - 16 ≤ 238)
      omega
    subst hlast
    omega

/-- Line 255 is drawn later than line 16. -/
theorem lastWrite_wrapped (hstart : 239 * outStridePixels.toNat < 2 ^ 32)
    (hend : 2 ^ 32 < 239 * outStridePixels.toNat + 320)
    (hblank : fixPixel source vramWords (2 ^ 32 - 239 * outStridePixels.toNat) 255 = 0) :
    lastWrite (layerWrites source vramWords outStridePixels) (16 * outStridePixels.toNat) =
      some 0xFF000000 := by
  have hturn {x row : Nat} {argb : BitVec 32}
      (h : lastWrite (layerTurn source vramWords outStridePixels.toNat (x, row))
        (16 * outStridePixels.toNat) = some argb) :
      16 * outStridePixels.toNat = row * outStridePixels.toNat % 2 ^ 32 + x ∧
        argb = if fixPixel source vramWords x row = 0 then 0xFF000000
          else fixArgb source vramWords x row :=
    Prod.mk.inj (List.mem_singleton.mp (mem_of_lastWrite h))
  have hwrap : 16 * outStridePixels.toNat =
      255 * outStridePixels.toNat % 2 ^ 32 + (2 ^ 32 - 239 * outStridePixels.toNat) := by
    rw [Nat.mod_eq_sub_mod (by omega), Nat.mod_eq_of_lt (by omega)]
    omega
  have hlate : ((2 ^ 32 - 239 * outStridePixels.toNat), 255) ∈ fixOrder :=
    mem_fixOrder.mpr ⟨by omega, by omega⟩
  have hlateTurn : lastWrite (layerTurn source vramWords outStridePixels.toNat
      ((2 ^ 32 - 239 * outStridePixels.toNat), 255)) (16 * outStridePixels.toNat) ≠ none := by
    intro hnone
    apply lastWrite_eq_none_iff.mp hnone
    unfold layerTurn
    rw [List.mem_singleton, Prod.mk.injEq]
    exact ⟨hwrap, rfl⟩
  cases h : lastWrite (layerWrites source vramWords outStridePixels)
      (16 * outStridePixels.toNat) with
  | none => exact absurd (lastWrite_flatMap_none.mp h _ hlate) hlateTurn
  | some argb =>
    obtain ⟨before, ⟨x, row⟩, after, hsplit, hlast, hafter⟩ := lastWrite_flatMap_some.mp h
    obtain ⟨hindex, rfl⟩ := hturn hlast
    have hmem : (x, row) ∈ fixOrder := by
      rw [hsplit]
      exact List.mem_append_right before List.mem_cons_self
    obtain ⟨hx, hrow⟩ := mem_fixOrder.mp hmem
    rcases wrapped_index hstart hend hx hrow hindex with ⟨rfl, rfl⟩ | ⟨rfl, rfl⟩
    · -- line 16 cannot be the last one to draw there
      exfalso
      have horder := fixOrder_pairwise
      rw [hsplit, List.pairwise_append] at horder
      rw [hsplit] at hlate
      rcases List.mem_append.mp hlate with hbefore | hrest
      · have := horder.2.2 _ hbefore (0, 16) List.mem_cons_self
        dsimp only at this
        omega
      · cases List.mem_cons.mp hrest with
        | inl heq => exact absurd (Prod.mk.inj heq).2 (by decide)
        | inr hmem => exact hlateTurn (hafter _ hmem)
    · rw [if_pos hblank]

/-! ## Behind the buffers -/

theorem fill_outside {background : BitVec 32} {outWidth outHeight : Nat}
    (hi : (outHeight - 1) * outStridePixels.toNat + outWidth ≤ i) :
    lastWrite (fillWrites background outStridePixels outWidth outHeight) i = none := by
  rw [lastWrite_fillWrites, if_neg]
  rintro ⟨y, hy, x, hx, rfl⟩
  have hmod := Nat.mod_le (y * outStridePixels.toNat + x) (2 ^ 32)
  have hle := @row_le outStridePixels.toNat x y (outWidth - 1) (outHeight - 1) (by omega) (by omega)
  omega

-- A line start that wraps around moves up.
theorem line_inside {stride lines width y x : Nat} (hy : y < lines) (hx : x < width) :
    y * stride % 2 ^ 32 + x < (lines - 1) * stride + width := by
  have hmod := Nat.mod_le (y * stride) (2 ^ 32)
  have hle := @row_le stride x y (width - 1) (lines - 1) (by omega) (by omega)
  omega

theorem sprites_outside {sprite : SpriteSource} {vramWordCount outWidth : BitVec 32}
    {sprites : Nat → BitVec 32}
    (hsprites : ngNeogeoVideoRenderSpriteFrameArgbWithOptions sprite (some vramWords) vramWordCount
      out outWidth outHeight outStridePixels = some sprites)
    (hi : (outHeight.toNat - 1) * outStridePixels.toNat + outWidth.toNat ≤ i) :
    sprites i = out i := by
  obtain ⟨-, hwidth, hheight, -, rfl⟩ := renderSpriteFrame_eq hsprites
  rw [paint_apply, lastWrite_passWrites_none, Option.getD_none, paint_apply, fill_outside hi]
  · rfl
  · intro y hy x hx
    have hin := @line_inside outStridePixels.toNat outHeight.toNat outWidth.toNat y x (by omega)
      (by omega)
    omega

theorem overlay_outside {outWidth : BitVec 32} (hwidth : 320 ≤ outWidth.toNat)
    (hi : (outHeight.toNat - 1) * outStridePixels.toNat + outWidth.toNat ≤ i) :
    lastWrite (overlayWrites source vramWords outHeight outStridePixels) i = none := by
  apply lastWrite_eq_none_iff.mpr
  intro argb hmem
  obtain ⟨x, hx, y, hy, -, hindex, -⟩ := mem_overlayWrites hmem
  have hin := @line_inside outStridePixels.toNat outHeight.toNat outWidth.toNat y x hy (by omega)
  omega

theorem layer_outside {outWidth : BitVec 32} (hwidth : 320 ≤ outWidth.toNat)
    (hheight : 256 ≤ outHeight.toNat)
    (hi : (outHeight.toNat - 1) * outStridePixels.toNat + outWidth.toNat ≤ i) :
    lastWrite (layerWrites source vramWords outStridePixels) i = none := by
  apply lastWrite_eq_none_iff.mpr
  intro argb hmem
  obtain ⟨x, hx, row, hrow, hindex, -⟩ := mem_layerWrites.mp hmem
  have hin := @line_inside outStridePixels.toNat outHeight.toNat outWidth.toNat row x (by omega)
    (by omega)
  omega

end Layer

/-! ## Agreement -/

section Agreement
variable (frameWidth frameHeight frameStride layerWidth layerHeight layerStride : BitVec 32)

/-- The geometries that a frame is rendered for. -/
structure FrameGeometry : Prop where
  width : 320 ≤ frameWidth.toNat
  height : 224 ≤ frameHeight.toNat
  height_le : frameHeight.toNat ≤ 240
  stride : frameWidth.toNat ≤ frameStride.toNat

/-- The geometries that the layer is rendered for. -/
structure LayerGeometry : Prop where
  width : 320 ≤ layerWidth.toNat
  height : 256 ≤ layerHeight.toNat
  stride : layerWidth.toNat ≤ layerStride.toNat

/-- Each pixel of a frame shows the layer 16 lines further down where that has a colour, and the
sprites elsewhere; neither renderer writes behind its buffer. -/
def FixLayersAgree : Prop :=
  ∀ (sRom : Option (Array (BitVec 8))) (sRomSize : BitVec 32) (source : SpriteSource)
    (vramWords : Array (BitVec 16)) (vramWordCount : BitVec 32)
    (out out' sprites frame layer : Nat → BitVec 32),
    ngNeogeoVideoRenderSpriteFrameArgbWithOptions source (some vramWords) vramWordCount out
        frameWidth frameHeight frameStride = some sprites →
    ngNeogeoVideoRenderFrameArgbWithOptions sRom sRomSize source (some vramWords) vramWordCount out
        frameWidth frameHeight frameStride = (true, frame) →
    ngNeogeoVideoRenderFixLayerArgb ⟨sRom, sRomSize, source.palette⟩ (some vramWords) vramWordCount
        out' layerWidth layerHeight layerStride = some layer →
      (∀ y < frameHeight.toNat, ∀ x < frameWidth.toNat, frame (y * frameStride.toNat + x) =
        if x < 320 ∧ fixPixel ⟨sRom, sRomSize, source.palette⟩ vramWords x (y + 16) ≠ 0 then
          layer ((y + 16) * layerStride.toNat + x)
        else sprites (y * frameStride.toNat + x)) ∧
      (∀ i, (frameHeight.toNat - 1) * frameStride.toNat + frameWidth.toNat ≤ i →
        frame i = out i) ∧
      ∀ i, (layerHeight.toNat - 1) * layerStride.toNat + layerWidth.toNat ≤ i → layer i = out' i

variable {frameWidth frameHeight frameStride layerWidth layerHeight layerStride}

theorem fixLayersAgree_of_fits
    (hstart : (frameHeight.toNat - 1) * frameStride.toNat < 2 ^ 32)
    (hfits : LayerFits frameHeight.toNat layerStride.toNat) :
    FixLayersAgree frameWidth frameHeight frameStride layerWidth layerHeight layerStride := by
  intro sRom sRomSize source vramWords vramWordCount out out' sprites frame layer hsprites hframe
    hlayer
  obtain ⟨-, hwidth, hheight, hstride, -⟩ := renderSpriteFrame_eq hsprites
  obtain ⟨hheight_le, rfl⟩ := renderFrame_eq hsprites hframe
  obtain ⟨hlayerWidth, hlayerHeight, hlayerStride, hpaint⟩ := renderFixLayer_eq hlayer
  refine ⟨?_, ?_, ?_⟩
  · intro y hy x hx
    rw [paint_apply, lastWrite_overlayWrites hheight_le hstart (by omega) (by omega) hy]
    by_cases hdrawn : x < 320 ∧
        fixPixel ⟨sRom, sRomSize, source.palette⟩ vramWords x (y + 16) ≠ 0
    · rw [if_pos hdrawn, if_pos hdrawn, hpaint, paint_apply,
        lastWrite_layerWrites hfits hheight hheight_le (by omega) hdrawn.1 hy, if_neg hdrawn.2]
      rfl
    · rw [if_neg hdrawn, if_neg hdrawn]
      rfl
  · intro i hi
    rw [paint_apply, overlay_outside hwidth hi]
    exact sprites_outside hsprites hi
  · intro i hi
    rw [hpaint, paint_apply, layer_outside hlayerWidth hlayerHeight hi, Option.getD_none,
      paint_apply, fill_outside hi]
    rfl

/-! ## Contents that tell lines apart -/

/-- One tile, blank but for line `py`, whose pixels all have colour 1. -/
def stripeRom (py : Nat) : Array (BitVec 8) :=
  Array.ofFn fun i : Fin 32 => if i.val % 8 = py then 0x11 else 0

def stripePalette : Palette := ⟨some #[0, 0x7FFF], 2⟩

def stripeSource (py : Nat) : FixSource := ⟨some (stripeRom py), 32, stripePalette⟩

/-- Video memory that shows tile 0 everywhere, and no sprite. -/
def zeroVram : Array (BitVec 16) := Array.replicate 0x8600 0

theorem vramWord_zeroVram (addr : Nat) : vramWord zeroVram addr = 0 := by
  unfold vramWord zeroVram
  rw [Array.getD_eq_getD_getElem?, Array.getElem?_replicate]
  by_cases h : addr < 0x8600
  · rw [if_pos h]
    rfl
  · rw [if_neg h]
    rfl

theorem decode_stripeRom : ∀ py y px : Fin 8,
    ((ngNeogeoVideoDecodeFixTileLine (some (stripeRom py)) 32 0 (BitVec.ofNat 8 y)).getD
      (fun _ => 0) px.val) &&& 0x0F = if y = py then 1 else 0 := by
  decide +kernel

theorem fixPixel_stripe {py : Nat} (hpy : py < 8) (x row : Nat) :
    fixPixel (stripeSource py) zeroVram x row = if row % 8 = py then 1 else 0 := by
  have h := decode_stripeRom ⟨py, hpy⟩ ⟨row % 8, by omega⟩ ⟨x % 8, by omega⟩
  have hmap : fixMapWord zeroVram (x / 8) (row / 8) &&& 0x0FFF = 0 := by
    unfold fixMapWord
    rw [vramWord_zeroVram]
    rfl
  unfold fixPixel fixTileLine
  rw [hmap]
  simp only [Fin.mk.injEq] at h
  exact h

theorem fixArgb_stripe {py : Nat} (hpy : py < 8) {x row : Nat} (hrow : row % 8 = py) :
    fixArgb (stripeSource py) zeroVram x row ≠ 0xFF000000 := by
  have hbase : fixPaletteBase zeroVram (x / 8) (row / 8) = 0 := by
    unfold fixPaletteBase fixMapWord
    rw [vramWord_zeroVram]
    rfl
  unfold fixArgb
  rw [fixPixel_stripe hpy, if_pos hrow, hbase]
  show ngNeogeoVideoPaletteArgb stripePalette (0 ||| BitVec.setWidth 16 1) ≠ 0xFF000000
  decide

/-- No sprites, and the palette of the stripes. -/
def stripeSprites : SpriteSource where
  cRom := some (Array.replicate 128 0)
  cRomSize := 128
  options := none
  palette := stripePalette

theorem stripeSprites_rendered (h : FrameGeometry frameWidth frameHeight frameStride) (py : Nat)
    (out : Nat → BitVec 32) : ∃ sprites frame,
      ngNeogeoVideoRenderSpriteFrameArgbWithOptions stripeSprites (some zeroVram) 0x8600 out
        frameWidth frameHeight frameStride = some sprites ∧
      ngNeogeoVideoRenderFrameArgbWithOptions (some (stripeRom py)) 32 stripeSprites (some zeroVram)
        0x8600 out frameWidth frameHeight frameStride = (true, frame) := by
  obtain ⟨hwidth, hheight, hheight_le, hstride⟩ := h
  have hsprites : ¬ ((0x8600 : BitVec 32) < 0x8600 ∨ frameWidth < 320 ∨ frameHeight < 224 ∨
      frameStride < frameWidth) := by
    simp only [not_or, BitVec.not_lt, BitVec.le_def]
    exact ⟨Nat.le_refl _, hwidth, hheight, hstride⟩
  have hoverlay : ¬ ((0x8600 : BitVec 32) < 0x7000 + 40 * 32 ∨ frameWidth < 320 ∨
      frameHeight < 224 ∨ frameStride < frameWidth ∨ 256 < ngNeoFixVisibleYOffset ∨
      256 - ngNeoFixVisibleYOffset < frameHeight) := by
    simp only [not_or, BitVec.not_lt, BitVec.le_def]
    exact ⟨by decide, hwidth, hheight, hstride, by decide, hheight_le⟩
  unfold ngNeogeoVideoRenderFrameArgbWithOptions ngNeogeoVideoRenderSpriteFrameArgbWithOptions
    ngNeogeoVideoOverlayFixLayerArgb stripeSprites
  dsimp only
  simp only [if_neg hsprites, if_neg hoverlay]
  exact ⟨_, _, rfl, rfl⟩

theorem stripeLayer_rendered (h : LayerGeometry layerWidth layerHeight layerStride) (py : Nat)
    (out : Nat → BitVec 32) : ∃ layer,
      ngNeogeoVideoRenderFixLayerArgb (stripeSource py) (some zeroVram) 0x8600 out layerWidth
        layerHeight layerStride = some layer := by
  obtain ⟨hwidth, hheight, hstride⟩ := h
  have hlayer : ¬ ((0x8600 : BitVec 32) < 0x7000 + 40 * 32 ∨ layerWidth < 320 ∨
      layerHeight < 256 ∨ layerStride < layerWidth) := by
    simp only [not_or, BitVec.not_lt, BitVec.le_def]
    exact ⟨by decide, hwidth, hheight, hstride⟩
  unfold ngNeogeoVideoRenderFixLayerArgb stripeSource
  dsimp only
  rw [if_neg hlayer]
  exact ⟨_, rfl⟩

/-! ## Geometries on which they disagree -/

section Far
variable {source : FixSource} {sprite : SpriteSource} {vramWords : Array (BitVec 16)}
  {vramWordCount outWidth outHeight outStridePixels : BitVec 32} {out : Nat → BitVec 32} {i : Nat}

-- The last index that any of the loops can reach is that of pixel 319 in a line at `2 ^ 32 - 1`.
theorem fill_far {background : BitVec 32} {width height : Nat} (hi : 2 ^ 32 + 319 ≤ i) :
    lastWrite (fillWrites background outStridePixels width height) i = none := by
  rw [lastWrite_fillWrites, if_neg]
  rintro ⟨y, -, x, -, rfl⟩
  have := Nat.mod_lt (y * outStridePixels.toNat + x) (Nat.two_pow_pos 32)
  omega

theorem frame_far {sRom : Option (Array (BitVec 8))} {sRomSize : BitVec 32}
    {sprites frame : Nat → BitVec 32}
    (hsprites : ngNeogeoVideoRenderSpriteFrameArgbWithOptions sprite (some vramWords) vramWordCount
      out outWidth outHeight outStridePixels = some sprites)
    (hframe : ngNeogeoVideoRenderFrameArgbWithOptions sRom sRomSize sprite (some vramWords)
      vramWordCount out outWidth outHeight outStridePixels = (true, frame))
    (hi : 2 ^ 32 + 319 ≤ i) : frame i = out i := by
  obtain ⟨-, rfl⟩ := renderFrame_eq hsprites hframe
  obtain ⟨-, -, -, -, rfl⟩ := renderSpriteFrame_eq hsprites
  rw [paint_apply, lastWrite_eq_none_iff.mpr, Option.getD_none, paint_apply,
    lastWrite_passWrites_none, Option.getD_none, paint_apply, fill_far hi]
  · rfl
  · intro y _ x hx
    have := Nat.mod_lt (y * outStridePixels.toNat) (Nat.two_pow_pos 32)
    omega
  · intro argb hmem
    obtain ⟨x, hx, y, -, -, hindex, -⟩ := mem_overlayWrites hmem
    have := Nat.mod_lt (y * outStridePixels.toNat) (Nat.two_pow_pos 32)
    omega

theorem layer_far {layer : Nat → BitVec 32}
    (hlayer : ngNeogeoVideoRenderFixLayerArgb source (some vramWords) vramWordCount out outWidth
      outHeight outStridePixels = some layer)
    (hi : 2 ^ 32 + 319 ≤ i) : layer i = out i := by
  obtain ⟨-, -, -, hpaint⟩ := renderFixLayer_eq hlayer
  rw [hpaint, paint_apply, lastWrite_eq_none_iff.mpr, Option.getD_none, paint_apply, fill_far hi]
  · rfl
  · intro argb hmem
    obtain ⟨x, hx, row, -, hindex, -⟩ := mem_layerWrites.mp hmem
    have := Nat.mod_lt (row * outStridePixels.toNat) (Nat.two_pow_pos 32)
    omega

end Far

variable (hframe : FrameGeometry frameWidth frameHeight frameStride)
  (hlayer : LayerGeometry layerWidth layerHeight layerStride)
  (hagree : FixLayersAgree frameWidth frameHeight frameStride layerWidth layerHeight layerStride)
include hframe hlayer hagree

-- The property at the last pixel of the frame's last line, with a stripe in that line.
theorem agree_last (out out' : Nat → BitVec 32) : ∃ sprites frame layer,
    ngNeogeoVideoRenderSpriteFrameArgbWithOptions stripeSprites (some zeroVram) 0x8600 out
      frameWidth frameHeight frameStride = some sprites ∧
    ngNeogeoVideoRenderFrameArgbWithOptions (some (stripeRom ((frameHeight.toNat + 15) % 8))) 32
      stripeSprites (some zeroVram) 0x8600 out frameWidth frameHeight frameStride = (true, frame) ∧
    ngNeogeoVideoRenderFixLayerArgb (stripeSource ((frameHeight.toNat + 15) % 8)) (some zeroVram)
      0x8600 out' layerWidth layerHeight layerStride = some layer ∧
    frame ((frameHeight.toNat - 1) * frameStride.toNat + 319) =
      layer ((frameHeight.toNat + 15) * layerStride.toNat + 319) := by
  obtain ⟨sprites, frame, hsprites, hframe'⟩ := stripeSprites_rendered hframe
    ((frameHeight.toNat + 15) % 8) out
  obtain ⟨layer, hlayer'⟩ := stripeLayer_rendered hlayer ((frameHeight.toNat + 15) % 8) out'
  refine ⟨sprites, frame, layer, hsprites, hframe', hlayer', ?_⟩
  have hwidth := hframe.width
  have hheight := hframe.height
  obtain ⟨hpixels, -⟩ := hagree _ _ _ _ _ _ _ _ _ _ hsprites hframe' hlayer'
  have hlast := hpixels (frameHeight.toNat - 1) (by omega) 319 (by omega)
  have hrow : frameHeight.toNat - 1 + 16 = frameHeight.toNat + 15 := by omega
  rw [if_pos] at hlast
  · rw [hrow] at hlast
    exact hlast
  · refine ⟨by decide, ?_⟩
    show fixPixel (stripeSource ((frameHeight.toNat + 15) % 8)) zeroVram 319
      (frameHeight.toNat - 1 + 16) ≠ 0
    rw [fixPixel_stripe (Nat.mod_lt _ (by decide)), hrow, if_pos rfl]
    decide

theorem frameStart_of_agree : (frameHeight.toNat - 1) * frameStride.toNat < 2 ^ 32 := by
  by_contra hlarge
  obtain ⟨_, zeros, layer, hsprites, hzeros, hlayer', hzero⟩ :=
    agree_last hframe hlayer hagree (fun _ => 0) fun _ => 0
  obtain ⟨_, ones, layer', hsprites', hones, hlayer'', hone⟩ :=
    agree_last hframe hlayer hagree (fun _ => 1) fun _ => 0
  -- the same layer, but a frame that keeps what its buffer held
  rw [hlayer'] at hlayer''
  cases hlayer''
  rw [frame_far hsprites hzeros (by omega)] at hzero
  rw [frame_far hsprites' hones (by omega)] at hone
  exact absurd (hzero.trans hone.symm) (by decide)

theorem layerStart_of_agree : (frameHeight.toNat + 15) * layerStride.toNat < 2 ^ 32 := by
  by_contra hlarge
  obtain ⟨_, frame, zeros, hsprites, hframe', hzeros, hzero⟩ :=
    agree_last hframe hlayer hagree (fun _ => 0) fun _ => 0
  obtain ⟨_, frame', ones, hsprites', hframe'', hones, hone⟩ :=
    agree_last hframe hlayer hagree (fun _ => 0) fun _ => 1
  rw [hframe'] at hframe''
  cases hframe''
  rw [layer_far hzeros (by omega)] at hzero
  rw [layer_far hones (by omega)] at hone
  exact absurd (hzero.symm.trans hone) (by decide)

/-- With 224 lines, the last line of the layer may wrap around onto the first one that is shown. -/
theorem layerGap_of_agree (hheight : frameHeight.toNat = 224) :
    239 * layerStride.toNat + 320 ≤ 2 ^ 32 := by
  by_contra hlarge
  have hstart := layerStart_of_agree hframe hlayer hagree
  rw [hheight] at hstart
  have hstride : 320 ≤ layerStride.toNat := hlayer.width.trans hlayer.stride
  obtain ⟨sprites, frame, hsprites, hframe'⟩ := stripeSprites_rendered hframe 0 fun _ => 0
  obtain ⟨layer, hlayer'⟩ := stripeLayer_rendered hlayer 0 fun _ => 0
  obtain ⟨hpixels, -⟩ := hagree _ _ _ _ _ _ _ _ _ _ hsprites hframe' hlayer'
  have hwidth := hframe.width
  have hframeStride := hframe.stride
  have hfirst := hpixels 0 (by omega) 0 (by omega)
  have hpixel : fixPixel (stripeSource 0) zeroVram 0 (0 + 16) ≠ 0 := by
    rw [fixPixel_stripe (by decide)]
    decide
  rw [if_pos ⟨by decide, hpixel⟩] at hfirst
  -- the frame shows the stripe
  obtain ⟨-, hpaint⟩ := renderFrame_eq hsprites hframe'
  have hshown : frame (0 * frameStride.toNat + 0) = fixArgb (stripeSource 0) zeroVram 0 (0 + 16) := by
    have hsource : (⟨some (stripeRom 0), 32, stripeSprites.palette⟩ : FixSource) =
        stripeSource 0 := rfl
    rw [hpaint, hsource, paint_apply, lastWrite_overlayWrites hframe.height_le
      (frameStart_of_agree hframe hlayer hagree) (by omega) (by omega) (by omega),
      if_pos ⟨by decide, hpixel⟩, Option.getD_some]
  -- the layer shows the blank line 255 in its place
  have hblank : fixPixel (stripeSource 0) zeroVram (2 ^ 32 - 239 * layerStride.toNat) 255 = 0 := by
    rw [fixPixel_stripe (by decide)]
    rfl
  obtain ⟨-, -, -, hpaint'⟩ := renderFixLayer_eq hlayer'
  have hcovered : layer ((0 + 16) * layerStride.toNat + 0) = 0xFF000000 := by
    rw [hpaint', paint_apply, Nat.add_zero, Nat.zero_add,
      lastWrite_wrapped hstart (by omega) hblank]
    rfl
  rw [hshown, hcovered] at hfirst
  exact fixArgb_stripe (by decide) (by decide) hfirst

omit hframe hlayer hagree

/-- These are the geometries that the renderers accept. -/
theorem frameGeometry_iff : FrameGeometry frameWidth frameHeight frameStride ↔
    ∃ sRom sRomSize source vramWords vramWordCount out frame,
      ngNeogeoVideoRenderFrameArgbWithOptions sRom sRomSize source (some vramWords) vramWordCount out
        frameWidth frameHeight frameStride = (true, frame) := by
  constructor
  · intro h
    obtain ⟨_, frame, -, hrender⟩ := stripeSprites_rendered h 0 fun _ => 0
    exact ⟨_, _, _, _, _, _, frame, hrender⟩
  · rintro ⟨sRom, sRomSize, source, vramWords, vramWordCount, out, frame, hrender⟩
    cases hsprites : ngNeogeoVideoRenderSpriteFrameArgbWithOptions source (some vramWords)
        vramWordCount out frameWidth frameHeight frameStride with
    | none =>
      unfold ngNeogeoVideoRenderFrameArgbWithOptions at hrender
      rw [hsprites] at hrender
      cases hrender
    | some sprites =>
      obtain ⟨-, hwidth, hheight, hstride, -⟩ := renderSpriteFrame_eq hsprites
      exact ⟨hwidth, hheight, (renderFrame_eq hsprites hrender).1, hstride⟩

theorem layerGeometry_iff : LayerGeometry layerWidth layerHeight layerStride ↔
    ∃ source vramWords vramWordCount out layer,
      ngNeogeoVideoRenderFixLayerArgb source (some vramWords) vramWordCount out layerWidth
        layerHeight layerStride = some layer := by
  constructor
  · intro h
    obtain ⟨layer, hrender⟩ := stripeLayer_rendered h 0 fun _ => 0
    exact ⟨_, _, _, _, layer, hrender⟩
  · rintro ⟨source, vramWords, vramWordCount, out, layer, hrender⟩
    obtain ⟨hwidth, hheight, hstride, -⟩ := renderFixLayer_eq hrender
    exact ⟨hwidth, hheight, hstride⟩

end Agreement

/-- The renderers agree on every content exactly if the lines that they share start where they
should. -/
theorem fix_layers_agree_iff
    (frameWidth frameHeight frameStride layerWidth layerHeight layerStride : BitVec 32)
    (hframe : FrameGeometry frameWidth frameHeight frameStride)
    (hlayer : LayerGeometry layerWidth layerHeight layerStride) :
    FixLayersAgree frameWidth frameHeight frameStride layerWidth layerHeight layerStride ↔
      (frameHeight.toNat - 1) * frameStride.toNat < 2 ^ 32 ∧
        LayerFits frameHeight.toNat layerStride.toNat := by
  constructor
  · intro hagree
    exact ⟨frameStart_of_agree hframe hlayer hagree, layerStart_of_agree hframe hlayer hagree,
      layerGap_of_agree hframe hlayer hagree⟩
  · rintro ⟨hstart, hfits⟩
    exact fixLayersAgree_of_fits hstart hfits

/-- Buffers without gaps. -/
theorem fix_layers_agree_visible : FixLayersAgree 320 224 320 320 256 320 := by
  apply (fix_layers_agree_iff 320 224 320 320 256 320 _ _).mpr
  · exact ⟨by decide, by decide, by decide⟩
  · exact ⟨by decide, by decide, by decide, by decide⟩
  · exact ⟨by decide, by decide, by decide⟩

/-- A frame with lines of `2 ^ 25` pixels. -/
theorem fix_layers_wrap : ¬ FixLayersAgree 320 224 0x02000000 320 256 320 := by
  intro hagree
  have hframe : FrameGeometry 320 224 0x02000000 :=
    ⟨by decide, by decide, by decide, by decide⟩
  have hlayer : LayerGeometry 320 256 320 := ⟨by decide, by decide, by decide⟩
  exact absurd (frameStart_of_agree hframe hlayer hagree) (by decide)

end NeoRecomp
