import Mathlib.Algebra.GroupWithZero.Nat
import NeoRecomp.Correct.SpriteChain
import NeoRecomp.Lib.Paint

/-!
# What a sprite frame shows

The sprite pass as writes to the buffer: the background, then each line's sprites.  A visible pixel
shows the highest sprite of its line that has a colour there, as long as the rectangle fits in the
32 bits of its indices.
-/

namespace NeoRecomp

open Paint

section Pass
variable (source : SpriteSource) (vramWords : Array (BitVec 16))

/-! ## What a pixel shows -/

/-- The first 96 sprites that are active in a line. -/
def activeSprites (line : Nat) : List Nat :=
  (shownSprites vramWords (BitVec.ofNat 32 line) ngNeoSpriteDisplayLimit).take ngNeoSpritesPerScanline

/-- The tile line of a sprite has, as its `k`-th kept pixel, a colour in column `x` of a line. -/
def SpriteShows (line sprite x : Nat) (argb : BitVec 32) : Prop :=
  ∃ (paletteBase : BitVec 16) (pixels : Nat → BitVec 8) (k px : Nat),
    tileLine source vramWords (BitVec.ofNat 32 line) sprite (chainAt vramWords sprite) =
        some (paletteBase, pixels) ∧
      (keptPixels (chainAt vramWords sprite).zoomX)[k]? = some px ∧
      ((chainAt vramWords sprite).x.toNat + k) % 512 = x ∧ pixels px &&& 0x0F ≠ 0 ∧
      argb = ngNeogeoVideoPaletteArgb source.palette
        (paletteBase ||| (pixels px &&& 0x0F).setWidth 16)

/-- Some active sprite of the line has a colour in column `x`. -/
def Covered (line x : Nat) : Prop :=
  ∃ sprite ∈ activeSprites vramWords line, ∃ argb, SpriteShows source vramWords line sprite x argb

/-- The colour of the highest active sprite, or the background where none has one. -/
def PixelShows (line x : Nat) (argb : BitVec 32) : Prop :=
  (∃ sprite ∈ activeSprites vramWords line, SpriteShows source vramWords line sprite x argb ∧
    ∀ other ∈ activeSprites vramWords line, sprite < other →
      ∀ argb', ¬ SpriteShows source vramWords line other x argb') ∨
  (¬ Covered source vramWords line x ∧ argb = ngNeogeoVideoPaletteArgb source.palette 0x0FFF)

variable {source vramWords} {line sprite x : Nat}

theorem activeSprites_eq (line : Nat) :
    ngNeogeoVideoBuildActiveSpriteList vramWords (BitVec.ofNat 32 line) =
      activeSprites vramWords line :=
  activeSpriteList_eq vramWords (BitVec.ofNat 32 line)

theorem shownOn_of_active (h : sprite ∈ activeSprites vramWords line) :
    shownOn (BitVec.ofNat 32 line) (chainAt vramWords sprite) = true := by
  unfold activeSprites shownSprites at h
  exact (List.mem_filter.mp (List.mem_of_mem_take h)).2

theorem lt_of_active (h : sprite ∈ activeSprites vramWords line) : sprite < 381 := by
  unfold activeSprites shownSprites at h
  exact List.mem_range.mp (List.mem_filter.mp (List.mem_of_mem_take h)).1

theorem activeSprites_pairwise : (activeSprites vramWords line).Pairwise (· < ·) := by
  apply List.Pairwise.take
  apply List.Pairwise.filter
  exact List.pairwise_lt_range

/-- A column meets one of the kept pixels. -/
theorem spriteShows_unique {argb argb' : BitVec 32}
    (h : SpriteShows source vramWords line sprite x argb)
    (h' : SpriteShows source vramWords line sprite x argb') : argb = argb' := by
  obtain ⟨base, pixels, k, px, htile, hk, hx, -, rfl⟩ := h
  obtain ⟨base', pixels', k', px', htile', hk', hx', -, rfl⟩ := h'
  have hzoom := (chainAt_bounds vramWords sprite).2
  have hlength := keptPixels_length hzoom
  have hlt := (List.getElem?_eq_some_iff.mp hk).1
  have hlt' := (List.getElem?_eq_some_iff.mp hk').1
  have hsame : k = k' := by omega
  subst hsame
  rw [htile, Option.some.injEq, Prod.mk.injEq] at htile'
  obtain ⟨rfl, rfl⟩ := htile'
  rw [hk, Option.some.injEq] at hk'
  rw [hk']

theorem pixelShows_unique {argb argb' : BitVec 32} (h : PixelShows source vramWords line x argb)
    (h' : PixelShows source vramWords line x argb') : argb = argb' := by
  rcases h with ⟨sprite, hmem, hshows, htop⟩ | ⟨hnone, rfl⟩
  · rcases h' with ⟨sprite', hmem', hshows', htop'⟩ | ⟨hnone, -⟩
    · rcases Nat.lt_trichotomy sprite sprite' with hlt | rfl | hlt
      · exact absurd hshows' (htop sprite' hmem' hlt argb')
      · exact spriteShows_unique hshows hshows'
      · exact absurd hshows (htop' sprite hmem hlt argb)
    · exact absurd ⟨sprite, hmem, argb, hshows⟩ hnone
  · rcases h' with ⟨sprite', hmem', hshows', -⟩ | ⟨-, rfl⟩
    · exact absurd ⟨sprite', hmem', argb', hshows'⟩ hnone
    · rfl

/-! ## The writes of a line -/

variable (source vramWords) in
/-- The pixels that a sprite writes to the line at `dst`. -/
def spriteWrites (dst line sprite : Nat) : List (Nat × BitVec 32) :=
  match tileLine source vramWords (BitVec.ofNat 32 line) sprite (chainAt vramWords sprite) with
  | none => []
  | some (paletteBase, pixels) =>
    ((keptPixels (chainAt vramWords sprite).zoomX).zip
      (spriteColumns (chainAt vramWords sprite))).filterMap fun kept =>
        if kept.2 < 320 ∧ pixels kept.1 &&& 0x0F ≠ 0 then
          some (dst + kept.2, ngNeogeoVideoPaletteArgb source.palette
            (paletteBase ||| (pixels kept.1 &&& 0x0F).setWidth 16))
        else none

theorem foldl_plotKept (palette : Palette) (dst : Nat) (paletteBase : BitVec 16)
    (pixels : Nat → BitVec 8) (kept : List (Nat × Nat)) (out : Nat → BitVec 32) :
    kept.foldl (plotKept (plotPixel palette dst paletteBase) pixels) out =
      paint (kept.filterMap fun kept =>
        if kept.2 < 320 ∧ pixels kept.1 &&& 0x0F ≠ 0 then
          some (dst + kept.2, ngNeogeoVideoPaletteArgb palette
            (paletteBase ||| (pixels kept.1 &&& 0x0F).setWidth 16))
        else none) out := by
  induction kept generalizing out with
  | nil => rfl
  | cons first rest ih =>
    rw [List.foldl_cons, ih, List.filterMap_cons]
    unfold plotKept
    dsimp only
    by_cases h : first.2 < 320 ∧ pixels first.1 &&& 0x0F ≠ 0
    · have hcolumn : (BitVec.ofNat 32 first.2).toNat = first.2 := by
        rw [BitVec.toNat_ofNat, Nat.mod_eq_of_lt (by omega)]
      rw [if_pos h, if_pos h]
      unfold plotPixel
      rw [hcolumn]
      rfl
    · rw [if_neg h, if_neg h]

-- The sprites that are skipped lie behind the right border in all of their columns.
theorem spriteWrites_skipped (dst line : Nat)
    (hskip : 320 ≤ (chainAt vramWords sprite).x ∧ (chainAt vramWords sprite).x ≤ 0x01F0) :
    spriteWrites source vramWords dst line sprite = [] := by
  have hzoom := (chainAt_bounds vramWords sprite).2
  have hx : 320 ≤ (chainAt vramWords sprite).x.toNat := hskip.1
  have hx' : (chainAt vramWords sprite).x.toNat ≤ 496 := hskip.2
  unfold spriteWrites
  cases tileLine source vramWords (BitVec.ofNat 32 line) sprite (chainAt vramWords sprite) with
  | none => rfl
  | some entry =>
    show List.filterMap _ _ = []
    rw [List.filterMap_eq_nil_iff]
    intro kept hkept
    have hcolumn := (List.of_mem_zip hkept).2
    unfold spriteColumns at hcolumn
    rw [List.mem_map] at hcolumn
    obtain ⟨k, hk, hcolumn⟩ := hcolumn
    rw [List.mem_range] at hk
    apply if_neg
    omega

theorem drawPlacedSprite_eq (dst : Nat) (h : sprite ∈ activeSprites vramWords line)
    (out : Nat → BitVec 32) :
    drawPlacedSprite source vramWords dst (BitVec.ofNat 32 line) sprite (chainAt vramWords sprite)
        out = paint (spriteWrites source vramWords dst line sprite) out := by
  obtain ⟨hx, hzoom⟩ := chainAt_bounds vramWords sprite
  have hshown := shownOn_of_active h
  unfold drawPlacedSprite
  by_cases hskip : 320 ≤ (chainAt vramWords sprite).x ∧ (chainAt vramWords sprite).x ≤ 0x01F0
  · rw [if_pos (Or.inr (Or.inl hskip)), spriteWrites_skipped dst line hskip]
    rfl
  · have hdrawn : ¬ ((chainAt vramWords sprite).rows = 0 ∨
        (320 ≤ (chainAt vramWords sprite).x ∧ (chainAt vramWords sprite).x ≤ 0x01F0) ∨
        ngNeogeoVideoSpriteOnScanline (BitVec.ofNat 32 line) (chainAt vramWords sprite).y
          (chainAt vramWords sprite).rows = false) := by
      intro hcases
      have hhidden := (@shownOn_eq_false (BitVec.ofNat 32 line) (chainAt vramWords sprite)).mpr
        (by tauto)
      rw [hshown] at hhidden
      cases hhidden
    rw [if_neg hdrawn]
    unfold spriteWrites
    cases tileLine source vramWords (BitVec.ofNat 32 line) sprite (chainAt vramWords sprite) with
    | none => rfl
    | some entry =>
      show drawPixels _ _ _ _ _ = _
      rw [drawPixels_eq _ _ hx hzoom, foldl_plotKept]

theorem spriteColumns_getElem? {chain : SpriteChain} {k column : Nat} :
    (spriteColumns chain)[k]? = some column ↔
      k < chain.zoomX.toNat + 1 ∧ (chain.x.toNat + k) % 512 = column := by
  unfold spriteColumns
  rw [List.getElem?_map, Option.map_eq_some_iff]
  constructor
  · rintro ⟨k', hk', rfl⟩
    obtain ⟨hlt, rfl⟩ := List.getElem?_eq_some_iff.mp hk'
    rw [List.length_range] at hlt
    rw [List.getElem_range]
    exact ⟨hlt, rfl⟩
  · rintro ⟨hlt, rfl⟩
    exact ⟨k, List.getElem?_range hlt, rfl⟩

theorem mem_spriteWrites {dst i : Nat} {argb : BitVec 32} :
    (i, argb) ∈ spriteWrites source vramWords dst line sprite ↔
      ∃ x < 320, i = dst + x ∧ SpriteShows source vramWords line sprite x argb := by
  have hlength := keptPixels_length (chainAt_bounds vramWords sprite).2
  unfold spriteWrites SpriteShows
  cases htile : tileLine source vramWords (BitVec.ofNat 32 line) sprite
      (chainAt vramWords sprite) with
  | none => simp
  | some entry =>
    show (i, argb) ∈ List.filterMap _ _ ↔ _
    rw [List.mem_filterMap]
    constructor
    · rintro ⟨⟨px, column⟩, hkept, hwrite⟩
      obtain ⟨k, hk⟩ := List.mem_iff_getElem?.mp hkept
      obtain ⟨hpx, hcolumn⟩ := List.getElem?_zip_eq_some.mp hk
      obtain ⟨-, hcolumn⟩ := spriteColumns_getElem?.mp hcolumn
      by_cases hdrawn : column < 320 ∧ entry.2 px &&& 0x0F ≠ 0
      · rw [if_pos hdrawn, Option.some.injEq, Prod.mk.injEq] at hwrite
        obtain ⟨hi, hargb⟩ := hwrite
        exact ⟨column, hdrawn.1, hi.symm, entry.1, entry.2, k, px, rfl, hpx, hcolumn, hdrawn.2,
          hargb.symm⟩
      · rw [if_neg hdrawn] at hwrite
        cases hwrite
    · rintro ⟨x, hx, rfl, base, pixels, k, px, hentry, hpx, hcolumn, hcolour, rfl⟩
      cases hentry
      have hlt := (List.getElem?_eq_some_iff.mp hpx).1
      rw [hlength] at hlt
      refine ⟨(px, x), ?_, if_pos ⟨hx, hcolour⟩⟩
      apply List.mem_iff_getElem?.mpr
      exact ⟨k, List.getElem?_zip_eq_some.mpr ⟨hpx, spriteColumns_getElem?.mpr ⟨hlt, hcolumn⟩⟩⟩

theorem lastWrite_spriteWrites {dst : Nat} {argb : BitVec 32} (hx : x < 320) :
    lastWrite (spriteWrites source vramWords dst line sprite) (dst + x) = some argb ↔
      SpriteShows source vramWords line sprite x argb := by
  have hshows {argb : BitVec 32}
      (hmem : (dst + x, argb) ∈ spriteWrites source vramWords dst line sprite) :
      SpriteShows source vramWords line sprite x argb := by
    obtain ⟨x', -, hi, hshows⟩ := mem_spriteWrites.mp hmem
    rw [Nat.add_left_cancel hi]
    exact hshows
  constructor
  · intro h
    exact hshows (mem_of_lastWrite h)
  · intro h
    apply lastWrite_of_forall (mem_spriteWrites.mpr ⟨x, hx, rfl, h⟩)
    intro b hb
    exact spriteShows_unique (hshows hb) h

variable (source vramWords) in
def lineWrites (dst line : Nat) : List (Nat × BitVec 32) :=
  (activeSprites vramWords line).flatMap (spriteWrites source vramWords dst line)

theorem drawSprites_eq_paint (outStridePixels : BitVec 32) (out : Nat → BitVec 32) :
    drawSprites source vramWords outStridePixels out line =
      paint (lineWrites source vramWords (BitVec.ofNat 32 line * outStridePixels).toNat line) out := by
  rw [drawSprites_eq, activeSprites_eq]
  apply foldl_eq_paint
  intro sprite hsprite out
  exact drawPlacedSprite_eq _ hsprite out

theorem lastWrite_lineWrites_none {dst : Nat} (hx : x < 320) :
    lastWrite (lineWrites source vramWords dst line) (dst + x) = none ↔
      ¬ Covered source vramWords line x := by
  unfold lineWrites Covered
  rw [lastWrite_flatMap_none]
  constructor
  · rintro h ⟨sprite, hsprite, argb, hshows⟩
    have hnone := h sprite hsprite
    rw [(lastWrite_spriteWrites hx).mpr hshows] at hnone
    cases hnone
  · intro h sprite hsprite
    rw [Option.eq_none_iff_forall_ne_some]
    intro argb hargb
    exact h ⟨sprite, hsprite, argb, (lastWrite_spriteWrites hx).mp hargb⟩

/-- The last sprite that a line draws in a column is the highest one. -/
theorem pixelShows_of_lastWrite {dst : Nat} {argb : BitVec 32} (hx : x < 320)
    (h : lastWrite (lineWrites source vramWords dst line) (dst + x) = some argb) :
    PixelShows source vramWords line x argb := by
  obtain ⟨before, sprite, after, hsplit, hlast, hafter⟩ := lastWrite_flatMap_some.mp h
  have hmem : sprite ∈ activeSprites vramWords line := by
    rw [hsplit]
    exact List.mem_append_right before List.mem_cons_self
  refine Or.inl ⟨sprite, hmem, (lastWrite_spriteWrites hx).mp hlast, ?_⟩
  intro other hother hlt argb' hshows
  -- in ascending order, the higher sprites stand behind
  have horder := @activeSprites_pairwise vramWords line
  rw [hsplit, List.pairwise_append] at horder
  rw [hsplit] at hother
  rcases List.mem_append.mp hother with hbefore | hrest
  · have := horder.2.2 other hbefore sprite List.mem_cons_self
    omega
  · cases List.mem_cons.mp hrest with
    | inl heq => omega
    | inr hmem =>
      have hnone := hafter other hmem
      rw [(lastWrite_spriteWrites hx).mpr hshows] at hnone
      cases hnone

theorem index_of_lineWrites {dst i : Nat} {argb : BitVec 32}
    (h : (i, argb) ∈ lineWrites source vramWords dst line) : ∃ x < 320, i = dst + x := by
  unfold lineWrites at h
  obtain ⟨sprite, -, hmem⟩ := List.mem_flatMap.mp h
  obtain ⟨x, hx, hi, -⟩ := mem_spriteWrites.mp hmem
  exact ⟨x, hx, hi⟩

/-! ## The writes of a frame -/

section Frame
variable {outWidth outHeight outStridePixels : BitVec 32} {out : Nat → BitVec 32} {i y : Nat}

-- The start of a line, computed in 32 bits.
theorem toNat_line (outStridePixels : BitVec 32) (y : Nat) :
    (BitVec.ofNat 32 y * outStridePixels).toNat = y * outStridePixels.toNat % 2 ^ 32 := by
  rw [BitVec.toNat_mul, BitVec.toNat_ofNat, Nat.mod_mul_mod]

theorem toNat_index (outStridePixels : BitVec 32) (y x : Nat) :
    (BitVec.ofNat 32 y * outStridePixels + BitVec.ofNat 32 x).toNat =
      (y * outStridePixels.toNat + x) % 2 ^ 32 := by
  rw [BitVec.toNat_add, toNat_line, BitVec.toNat_ofNat, ← Nat.add_mod]

def fillWrites (background outStridePixels : BitVec 32) (outWidth outHeight : Nat) :
    List (Nat × BitVec 32) :=
  (List.range outHeight).flatMap fun y =>
    (List.range outWidth).map fun x => ((y * outStridePixels.toNat + x) % 2 ^ 32, background)

theorem fillBackground_eq_paint (background outStridePixels : BitVec 32)
    (outWidth outHeight : Nat) (out : Nat → BitVec 32) :
    fillBackground background outStridePixels outWidth outHeight out =
      paint (fillWrites background outStridePixels outWidth outHeight) out := by
  apply foldl_eq_paint
  intro y _ out
  unfold paint
  rw [List.foldl_map]
  simp only [toNat_index]

theorem lastWrite_fillWrites {background : BitVec 32} {outWidth outHeight : Nat} :
    lastWrite (fillWrites background outStridePixels outWidth outHeight) i =
      if ∃ y < outHeight, ∃ x < outWidth, (y * outStridePixels.toNat + x) % 2 ^ 32 = i then
        some background
      else none := by
  have hmem (argb : BitVec 32) :
      (i, argb) ∈ fillWrites background outStridePixels outWidth outHeight ↔
        (∃ y < outHeight, ∃ x < outWidth, (y * outStridePixels.toNat + x) % 2 ^ 32 = i) ∧
          argb = background := by
    unfold fillWrites
    simp only [List.mem_flatMap, List.mem_map, List.mem_range, Prod.mk.injEq]
    constructor
    · rintro ⟨y, hy, x, hx, hi, rfl⟩
      exact ⟨⟨y, hy, x, hx, hi⟩, rfl⟩
    · rintro ⟨⟨y, hy, x, hx, hi⟩, rfl⟩
      exact ⟨y, hy, x, hx, hi, rfl⟩
  by_cases h : ∃ y < outHeight, ∃ x < outWidth, (y * outStridePixels.toNat + x) % 2 ^ 32 = i
  · rw [if_pos h]
    exact lastWrite_of_forall ((hmem background).mpr ⟨h, rfl⟩) fun b hb => ((hmem b).mp hb).2
  · rw [if_neg h]
    exact lastWrite_eq_none_iff.mpr fun a ha => h ((hmem a).mp ha).1

variable (source vramWords) in
/-- The writes of the sprites, line by line. -/
def passWrites (outStridePixels : BitVec 32) : List (Nat × BitVec 32) :=
  (List.range 224).flatMap fun line =>
    lineWrites source vramWords (line * outStridePixels.toNat % 2 ^ 32) line

/-- The parameters that the pass accepts. -/
theorem renderSpriteFrame_eq {vramWordCount : BitVec 32} {out' : Nat → BitVec 32}
    (h : ngNeogeoVideoRenderSpriteFrameArgbWithOptions source (some vramWords) vramWordCount out
      outWidth outHeight outStridePixels = some out') :
    0x8600 ≤ vramWordCount.toNat ∧ 320 ≤ outWidth.toNat ∧ 224 ≤ outHeight.toNat ∧
      outWidth.toNat ≤ outStridePixels.toNat ∧
      out' = paint (passWrites source vramWords outStridePixels)
        (paint (fillWrites (ngNeogeoVideoPaletteArgb source.palette 0x0FFF) outStridePixels
          outWidth.toNat outHeight.toNat) out) := by
  unfold ngNeogeoVideoRenderSpriteFrameArgbWithOptions at h
  cases hrom : source.cRom with
  | none =>
    rw [hrom] at h
    cases h
  | some rom =>
    rw [hrom] at h
    dsimp only at h
    by_cases hrefused : vramWordCount < 0x8600 ∨ outWidth < 320 ∨ outHeight < 224 ∨
        outStridePixels < outWidth
    · rw [if_pos hrefused] at h
      cases h
    · rw [if_neg hrefused, Option.some.injEq] at h
      simp only [not_or, BitVec.not_lt, BitVec.le_def] at hrefused
      refine ⟨hrefused.1, hrefused.2.1, hrefused.2.2.1, hrefused.2.2.2, ?_⟩
      rw [← h, fillBackground_eq_paint]
      apply foldl_eq_paint
      intro line _ out
      rw [drawSprites_eq_paint, toNat_line]

theorem lastWrite_passWrites_none
    (h : ∀ y < 224, ∀ x < 320, y * outStridePixels.toNat % 2 ^ 32 + x ≠ i) :
    lastWrite (passWrites source vramWords outStridePixels) i = none := by
  apply lastWrite_flatMap_none.mpr
  intro y hy
  apply lastWrite_eq_none_iff.mpr
  intro argb hmem
  obtain ⟨x, hx, hi⟩ := index_of_lineWrites hmem
  exact h y (List.mem_range.mp hy) x hx hi.symm

/-- Lines that start below `2 ^ 32` do not meet. -/
theorem lastWrite_passWrites (hstart : 223 * outStridePixels.toNat < 2 ^ 32)
    (hstride : 320 ≤ outStridePixels.toNat) (hy : y < 224) (hx : x < 320) :
    lastWrite (passWrites source vramWords outStridePixels) (y * outStridePixels.toNat + x) =
      lastWrite (lineWrites source vramWords (y * outStridePixels.toNat) y)
        (y * outStridePixels.toNat + x) := by
  have hline (z : Nat) (hz : z < 224) :
      z * outStridePixels.toNat % 2 ^ 32 = z * outStridePixels.toNat := by
    apply Nat.mod_eq_of_lt
    have := Nat.mul_le_mul_right outStridePixels.toNat (Nat.le_of_lt_succ hz)
    omega
  unfold passWrites
  rw [lastWrite_flatMap_only (List.mem_range.mpr hy), hline y hy]
  intro z hz hne
  apply lastWrite_eq_none_iff.mpr
  intro argb hmem
  obtain ⟨x', hx', hi⟩ := index_of_lineWrites hmem
  rw [hline z (List.mem_range.mp hz)] at hi
  obtain ⟨heq, -⟩ := row_inj (by omega) (by omega) hi
  exact hne heq.symm

/-! ## Reads of the video memory -/

section Reads
variable {vramWords' : Array (BitVec 16)} {count : Nat}

variable (vramWords vramWords' count) in
/-- The same words below `vram_word_count`. -/
def SameVram : Prop := ∀ addr < count, vramWord vramWords' addr = vramWord vramWords addr

theorem SameVram.activeTurns (h : SameVram vramWords vramWords' count) (hcount : 0x8600 ≤ count)
    (scanline : BitVec 32) (turns sprite : Nat) (y : BitVec 16) (rows : BitVec 8)
    (active : List Nat) (hsprite : sprite + turns ≤ 381) :
    activeTurns vramWords' scanline turns sprite y rows active =
      activeTurns vramWords scanline turns sprite y rows active := by
  induction turns generalizing sprite y rows active with
  | zero => rfl
  | succ turns ih =>
    have hword := h (0x8200 + sprite) (by omega)
    unfold NeoRecomp.activeTurns
    dsimp only
    rw [hword]
    simp only [ih (sprite + 1) _ _ _ (by omega)]

theorem SameVram.drawSpriteScanline (h : SameVram vramWords vramWords' count)
    (hcount : 0x8600 ≤ count) (dst : Nat) (scanline : BitVec 32)
    (state : (Nat → BitVec 32) × SpriteChain) (hsprite : sprite < 381) :
    ngNeogeoVideoDrawSpriteScanline source vramWords' dst scanline state sprite =
      ngNeogeoVideoDrawSpriteScanline source vramWords dst scanline state sprite := by
  have hchain : chainSprite vramWords' state.2 sprite = chainSprite vramWords state.2 sprite := by
    unfold chainSprite isSticky
    rw [h (0x8000 + sprite) (by omega), h (0x8200 + sprite) (by omega),
      h (0x8400 + sprite) (by omega)]
  have htile (chain : SpriteChain) :
      tileLine source vramWords' scanline sprite chain =
        tileLine source vramWords scanline sprite chain := by
    unfold tileLine
    dsimp only
    apply ite_congr rfl
    · intro _
      rfl
    · intro hmap
      rw [h _ (by omega), h _ (by omega)]
  unfold ngNeogeoVideoDrawSpriteScanline drawPlacedSprite
  rw [hchain]
  dsimp only
  rw [htile]

/-- The words at `vram_word_count` and behind do not matter. -/
theorem SameVram.render {vramWordCount : BitVec 32}
    (h : SameVram vramWords vramWords' vramWordCount.toNat) :
    ngNeogeoVideoRenderSpriteFrameArgbWithOptions source (some vramWords') vramWordCount out
        outWidth outHeight outStridePixels =
      ngNeogeoVideoRenderSpriteFrameArgbWithOptions source (some vramWords) vramWordCount out
        outWidth outHeight outStridePixels := by
  unfold ngNeogeoVideoRenderSpriteFrameArgbWithOptions
  cases source.cRom with
  | none => rfl
  | some rom =>
    dsimp only
    by_cases hrefused : vramWordCount < 0x8600 ∨ outWidth < 320 ∨ outHeight < 224 ∨
        outStridePixels < outWidth
    · rw [if_pos hrefused, if_pos hrefused]
    · rw [if_neg hrefused, if_neg hrefused]
      simp only [not_or, BitVec.not_lt, BitVec.le_def] at hrefused
      apply congrArg some
      apply List.foldl_ext
      intro out line _
      have hlist : ngNeogeoVideoBuildActiveSpriteList vramWords' (BitVec.ofNat 32 line) =
          ngNeogeoVideoBuildActiveSpriteList vramWords (BitVec.ofNat 32 line) :=
        h.activeTurns hrefused.1 _ _ _ _ _ _ (Nat.le_refl 381)
      unfold drawSprites
      rw [hlist]
      apply congrArg Prod.fst
      apply List.foldl_ext
      intro state sprite hsprite
      rw [activeSprites_eq] at hsprite
      exact h.drawSpriteScanline hrefused.1 _ _ state (lt_of_active hsprite)

end Reads

/-! ## Frames that fit -/

variable (source vramWords) in
/-- What the sprite pass promises: every pixel of the rectangle, whatever the buffer held, nothing
else, and no word of the video memory behind its end. -/
def SpriteFrameShows (vramWordCount outWidth outHeight outStridePixels : BitVec 32) : Prop :=
  ∀ out out' : Nat → BitVec 32,
    ngNeogeoVideoRenderSpriteFrameArgbWithOptions source (some vramWords) vramWordCount out
        outWidth outHeight outStridePixels = some out' →
      (∀ y < 224, ∀ x < 320,
        PixelShows source vramWords y x (out' (y * outStridePixels.toNat + x))) ∧
      (∀ y < outHeight.toNat, ∀ x < outWidth.toNat, ¬ (y < 224 ∧ x < 320) →
        out' (y * outStridePixels.toNat + x) =
          ngNeogeoVideoPaletteArgb source.palette 0x0FFF) ∧
      (∀ i, (∀ y < outHeight.toNat, ∀ x < outWidth.toNat, i ≠ y * outStridePixels.toNat + x) →
        out' i = out i) ∧
      ∀ vramWords', SameVram vramWords vramWords' vramWordCount.toNat →
        ngNeogeoVideoRenderSpriteFrameArgbWithOptions source (some vramWords') vramWordCount out
          outWidth outHeight outStridePixels = some out'

variable (source vramWords) in
/-- Every pixel of the rectangle has an index below `2 ^ 32`, or is a visible one that a sprite
covers, in a line that starts below `2 ^ 32`. -/
def SpriteFrameFits (outWidth outHeight outStridePixels : BitVec 32) : Prop :=
  ∀ y < outHeight.toNat, ∀ x < outWidth.toNat, y * outStridePixels.toNat + x < 2 ^ 32 ∨
    (y < 224 ∧ x < 320 ∧ y * outStridePixels.toNat < 2 ^ 32 ∧ Covered source vramWords y x)

theorem SpriteFrameFits.start (h : SpriteFrameFits source vramWords outWidth outHeight
      outStridePixels) (hwidth : 320 ≤ outWidth.toNat) (hheight : 224 ≤ outHeight.toNat) :
    223 * outStridePixels.toNat < 2 ^ 32 := by
  have hle := Nat.mul_le_mul_right outStridePixels.toNat (by omega : 223 ≤ outHeight.toNat - 1)
  rcases h (outHeight.toNat - 1) (by omega) (outWidth.toNat - 1) (by omega) with hlt | hlt
  · omega
  · omega

/-- An index that wraps around falls into the first line. -/
theorem SpriteFrameFits.index (h : SpriteFrameFits source vramWords outWidth outHeight
      outStridePixels) (hy : y < outHeight.toNat) (hx : x < outWidth.toNat) :
    ∃ y' < outHeight.toNat, ∃ x' < outWidth.toNat,
      (y * outStridePixels.toNat + x) % 2 ^ 32 = y' * outStridePixels.toNat + x' := by
  rcases h y hy x hx with hlt | ⟨-, hvisible, hstart, -⟩
  · exact ⟨y, hy, x, hx, Nat.mod_eq_of_lt hlt⟩
  · by_cases hlt : y * outStridePixels.toNat + x < 2 ^ 32
    · exact ⟨y, hy, x, hx, Nat.mod_eq_of_lt hlt⟩
    · refine ⟨0, by omega, y * outStridePixels.toNat + x - 2 ^ 32, by omega, ?_⟩
      omega

theorem spriteFrameShows_of_fits {vramWordCount : BitVec 32}
    (hfits : SpriteFrameFits source vramWords outWidth outHeight outStridePixels) :
    SpriteFrameShows source vramWords vramWordCount outWidth outHeight outStridePixels := by
  intro out out' hrender
  obtain ⟨-, hwidth, hheight, hstride, rfl⟩ := renderSpriteFrame_eq hrender
  have hstart := hfits.start hwidth hheight
  have hvisible (y : Nat) (hy : y < 224) (x : Nat) (hx : x < 320) :
      lastWrite (passWrites source vramWords outStridePixels) (y * outStridePixels.toNat + x) =
        lastWrite (lineWrites source vramWords (y * outStridePixels.toNat) y)
          (y * outStridePixels.toNat + x) :=
    lastWrite_passWrites hstart (by omega) hy hx
  have hhidden (i : Nat) (h : ∀ y < 224, ∀ x < 320, i ≠ y * outStridePixels.toNat + x) :
      lastWrite (passWrites source vramWords outStridePixels) i = none := by
    apply lastWrite_passWrites_none
    intro y hy x hx heq
    have hle := Nat.mul_le_mul_right outStridePixels.toNat (Nat.le_of_lt_succ hy)
    rw [Nat.mod_eq_of_lt (by omega)] at heq
    exact h y hy x hx heq.symm
  refine ⟨?_, ?_, ?_, ?_⟩
  · intro y hy x hx
    rw [paint_apply, hvisible y hy x hx]
    cases hlast : lastWrite (lineWrites source vramWords (y * outStridePixels.toNat) y)
        (y * outStridePixels.toNat + x) with
    | some argb => exact pixelShows_of_lastWrite hx hlast
    | none =>
      have hbare := (lastWrite_lineWrites_none hx).mp hlast
      rcases hfits y (by omega) x (by omega) with hlt | ⟨-, -, -, hcovered⟩
      · rw [Option.getD_none, paint_apply, lastWrite_fillWrites,
          if_pos ⟨y, by omega, x, by omega, Nat.mod_eq_of_lt hlt⟩]
        exact Or.inr ⟨hbare, rfl⟩
      · exact absurd hcovered hbare
  · intro y hy x hx hnot
    have hlt : y * outStridePixels.toNat + x < 2 ^ 32 := by
      rcases hfits y hy x hx with hlt | ⟨hy', hx', -, -⟩
      · exact hlt
      · exact absurd ⟨hy', hx'⟩ hnot
    rw [paint_apply, hhidden, Option.getD_none, paint_apply, lastWrite_fillWrites,
      if_pos ⟨y, hy, x, hx, Nat.mod_eq_of_lt hlt⟩]
    · rfl
    · intro y' hy' x' hx' heq
      obtain ⟨rfl, rfl⟩ := row_inj (by omega) (by omega) heq
      exact hnot ⟨hy', hx'⟩
  · intro i houtside
    rw [paint_apply, hhidden, Option.getD_none, paint_apply, lastWrite_fillWrites, if_neg]
    · rfl
    · rintro ⟨y, hy, x, hx, hi⟩
      obtain ⟨y', hy', x', hx', heq⟩ := hfits.index hy hx
      exact houtside y' hy' x' hx' (hi.symm.trans heq)
    · intro y hy x hx
      exact houtside y (by omega) x (by omega)
  · intro vramWords' hsame
    rw [hsame.render]
    exact hrender

/-- A pixel that is not written keeps what the buffer held, which may be anything. -/
theorem written_of_shows {vramWordCount : BitVec 32}
    (haccepts : ∀ out, ngNeogeoVideoRenderSpriteFrameArgbWithOptions source (some vramWords)
      vramWordCount out outWidth outHeight outStridePixels ≠ none)
    (hshows : SpriteFrameShows source vramWords vramWordCount outWidth outHeight outStridePixels)
    (hy : y < outHeight.toNat) (hx : x < outWidth.toNat)
    (hlarge : 2 ^ 32 ≤ y * outStridePixels.toNat + x) :
    lastWrite (passWrites source vramWords outStridePixels) (y * outStridePixels.toNat + x) ≠
      none := by
  intro hnone
  have hkept (value : BitVec 32) : ∃ out',
      ngNeogeoVideoRenderSpriteFrameArgbWithOptions source (some vramWords) vramWordCount
        (fun _ => value) outWidth outHeight outStridePixels = some out' ∧
      out' (y * outStridePixels.toNat + x) = value := by
    obtain ⟨out', hrender⟩ := Option.ne_none_iff_exists'.mp (haccepts fun _ => value)
    refine ⟨out', hrender, ?_⟩
    obtain ⟨-, -, -, -, rfl⟩ := renderSpriteFrame_eq hrender
    rw [paint_apply, hnone, Option.getD_none, paint_apply, lastWrite_fillWrites, if_neg]
    · rfl
    · rintro ⟨y', -, x', -, hi⟩
      have := Nat.mod_lt (y' * outStridePixels.toNat + x') (Nat.two_pow_pos 32)
      omega
  obtain ⟨zeros, hzeros, hzero⟩ := hkept 0
  obtain ⟨ones, hones, hone⟩ := hkept 1
  obtain ⟨hvisible, hhidden, -⟩ := hshows _ _ hzeros
  obtain ⟨hvisible', hhidden', -⟩ := hshows _ _ hones
  have hsame : (0 : BitVec 32) = 1 := by
    by_cases hin : y < 224 ∧ x < 320
    · have h := hvisible y hin.1 x hin.2
      have h' := hvisible' y hin.1 x hin.2
      rw [hzero] at h
      rw [hone] at h'
      exact pixelShows_unique h h'
    · rw [← hzero, ← hone, hhidden y hy x hx hin, hhidden' y hy x hx hin]
  exact absurd hsame (by decide)

theorem fits_of_spriteFrameShows {vramWordCount : BitVec 32}
    (haccepts : ∀ out, ngNeogeoVideoRenderSpriteFrameArgbWithOptions source (some vramWords)
      vramWordCount out outWidth outHeight outStridePixels ≠ none)
    (hshows : SpriteFrameShows source vramWords vramWordCount outWidth outHeight outStridePixels) :
    SpriteFrameFits source vramWords outWidth outHeight outStridePixels := by
  obtain ⟨out', hrender⟩ := Option.ne_none_iff_exists'.mp (haccepts fun _ => 0)
  obtain ⟨-, hwidth, hheight, hstride, -⟩ := renderSpriteFrame_eq hrender
  intro y hy x hx
  by_cases hlt : y * outStridePixels.toNat + x < 2 ^ 32
  · exact Or.inl hlt
  · -- The last pixel of the rectangle is written, so that it is the last visible one.
    have hle : y * outStridePixels.toNat + x ≤
        (outHeight.toNat - 1) * outStridePixels.toNat + (outWidth.toNat - 1) :=
      row_le (by omega) (by omega)
    have hlast := written_of_shows haccepts hshows (by omega : outHeight.toNat - 1 < _)
      (by omega : outWidth.toNat - 1 < _) (by omega)
    have hcorner : outHeight.toNat = 224 ∧ outWidth.toNat = 320 ∧
        223 * outStridePixels.toNat < 2 ^ 32 := by
      by_contra hnot
      apply hlast
      apply lastWrite_passWrites_none
      intro y' hy' x' hx' heq
      -- no line reaches as far, unless it is the last and starts where it should
      have hmod := Nat.mod_le (y' * outStridePixels.toNat) (2 ^ 32)
      have hreach : y' * outStridePixels.toNat + x' ≤
          (outHeight.toNat - 1) * outStridePixels.toNat + (outWidth.toNat - 1) :=
        row_le (by omega) (by omega)
      have hexact : y' * outStridePixels.toNat % 2 ^ 32 = y' * outStridePixels.toNat := by omega
      rw [hexact] at heq
      obtain ⟨hrow, hcolumn⟩ := row_inj (by omega) (by omega) heq
      have hlow := Nat.mod_lt (y' * outStridePixels.toNat) (Nat.two_pow_pos 32)
      rw [hexact] at hlow
      have hy'' : y' = 223 := by omega
      rw [hy''] at hlow
      exact hnot ⟨by omega, by omega, hlow⟩
    obtain ⟨hheight', hwidth', hstart⟩ := hcorner
    have hrow := Nat.mul_le_mul_right outStridePixels.toNat (by omega : y ≤ 223)
    refine Or.inr ⟨by omega, by omega, by omega, ?_⟩
    by_contra hbare
    apply written_of_shows haccepts hshows hy hx (by omega)
    rw [lastWrite_passWrites hstart (by omega) (by omega) (by omega)]
    exact (lastWrite_lineWrites_none (by omega)).mpr hbare

end Frame

end Pass

/-- The sprite pass shows what it promises exactly if the rectangle fits. -/
theorem sprite_frame_shows_iff (source : SpriteSource) (vramWords : Array (BitVec 16))
    (vramWordCount outWidth outHeight outStridePixels : BitVec 32)
    (haccepts : ∀ out, ngNeogeoVideoRenderSpriteFrameArgbWithOptions source (some vramWords)
      vramWordCount out outWidth outHeight outStridePixels ≠ none) :
    SpriteFrameShows source vramWords vramWordCount outWidth outHeight outStridePixels ↔
      SpriteFrameFits source vramWords outWidth outHeight outStridePixels :=
  ⟨fits_of_spriteFrameShows haccepts, spriteFrameShows_of_fits⟩

/-- A blank C-ROM tile and no palette. -/
def blankSource : SpriteSource where
  cRom := some (Array.replicate 128 0)
  cRomSize := 128
  options := none
  palette := ⟨none, 0⟩

/-- The frame of the hardware, without a gap between its lines. -/
theorem sprite_frame_shows_visible :
    SpriteFrameShows blankSource (Array.replicate 0x8600 0) 0x8600 320 224 320 := by
  apply (sprite_frame_shows_iff blankSource (Array.replicate 0x8600 0) 0x8600 320 224 320 _).mpr
  · intro y hy x hx
    apply Or.inl
    show y * 320 + x < 4294967296
    have hy' : y < 224 := hy
    have hx' : x < 320 := hx
    omega
  · intro out h
    cases h

/-- Lines of `2 ^ 25` pixels: the 128th starts over at the first. -/
theorem sprite_frame_wraps :
    ¬ SpriteFrameShows blankSource (Array.replicate 0x8600 0) 0x8600 320 224 0x02000000 := by
  intro hshows
  have hfits := fits_of_spriteFrameShows (fun out h => by cases h) hshows
  rcases hfits 223 (by decide) 319 (by decide) with hlt | ⟨-, -, hlt, -⟩
  · exact absurd hlt (by decide)
  · exact absurd hlt (by decide)

end NeoRecomp
