import Mathlib.Logic.Function.Basic

/-!
# Sprite rendering

The sprite pass of `neogeo_video.c`.  A frame is a buffer of pixels indexed from `out_argb` on; the
arrays of the caller are given with the sizes that it passes for them.
-/

namespace NeoRecomp

/-! ## Colours -/

structure NgNeoRgb where
  r : BitVec 8
  g : BitVec 8
  b : BitVec 8

/-- `ng_neogeo_video_scale5`. -/
def ngNeogeoVideoScale5 (value : BitVec 8) : BitVec 8 :=
  (((value &&& 0x1F).setWidth 16 * 255) / 31).setWidth 8

/-- `ng_neogeo_video_palette_word_to_rgb`. -/
def ngNeogeoVideoPaletteWordToRgb (word : BitVec 16) : NgNeoRgb :=
  let five (wide low : BitVec 16) : BitVec 8 :=
    ngNeogeoVideoScale5 (((wide &&& 0x1E) ||| (low &&& 0x01)).setWidth 8)
  let dark (value : BitVec 8) : BitVec 8 := ((value.setWidth 16 * 2) / 3).setWidth 8
  let r := five (word >>> 7) (word >>> 14)
  let g := five (word >>> 3) (word >>> 13)
  let b := five (word <<< 1) (word >>> 12)
  if word &&& 0x8000 ≠ 0 then ⟨dark r, dark g, dark b⟩ else ⟨r, g, b⟩

/-- `ng_neogeo_video_palette_word_to_argb`. -/
def ngNeogeoVideoPaletteWordToArgb (word : BitVec 16) : BitVec 32 :=
  let rgb := ngNeogeoVideoPaletteWordToRgb word
  0xFF000000 ||| (rgb.r.setWidth 32 <<< 16) ||| (rgb.g.setWidth 32 <<< 8) ||| rgb.b.setWidth 32

/-- `palette_words` with its count. -/
structure Palette where
  paletteWords : Option (Array (BitVec 16))
  paletteWordCount : BitVec 32

/-- `ng_neogeo_video_palette_argb`. -/
def ngNeogeoVideoPaletteArgb (palette : Palette) (paletteIndex : BitVec 16) : BitVec 32 :=
  match palette.paletteWords with
  | none => 0xFF000000
  | some words =>
    if palette.paletteWordCount ≤ paletteIndex.setWidth 32 then 0xFF000000
    else ngNeogeoVideoPaletteWordToArgb (words.getD paletteIndex.toNat 0)

/-! ## Tiles -/

structure NgNeoSpriteMapEntry where
  tileIndex : BitVec 32
  palette : BitVec 8
  autoAnimation : BitVec 8
  vflip : BitVec 8
  hflip : BitVec 8

/-- `ng_neogeo_video_decode_sprite_map_entry`. -/
def ngNeogeoVideoDecodeSpriteMapEntry (tileWord attrWord : BitVec 16) : NgNeoSpriteMapEntry where
  tileIndex := (((attrWord >>> 4) &&& 0x0F).setWidth 32 <<< 16) ||| tileWord.setWidth 32
  palette := (attrWord >>> 8).setWidth 8
  autoAnimation := ((attrWord >>> 2) &&& 0x03).setWidth 8
  vflip := ((attrWord >>> 1) &&& 0x01).setWidth 8
  hflip := (attrWord &&& 0x01).setWidth 8

/-- `ng_neogeo_video_decode_sprite_half`: pixel `x` of 8, from the four planes at `planes`. -/
def ngNeogeoVideoDecodeSpriteHalf (cRom : Array (BitVec 8)) (planes x : Nat) : BitVec 8 :=
  let plane (i : Nat) : BitVec 8 := (cRom.getD (planes + i) 0 >>> x) &&& 1
  plane 0 ||| (plane 2 <<< 1) ||| (plane 1 <<< 2) ||| (plane 3 <<< 3)

/-- `ng_neogeo_video_decode_sprite_tile_line`: the 16 pixels, or `none` for its return value 0. -/
def ngNeogeoVideoDecodeSpriteTileLine (cRom : Option (Array (BitVec 8))) (cRomSize tileIndex : BitVec 32)
    (y hflip : BitVec 8) : Option (Nat → BitVec 8) :=
  match cRom with
  | none => none
  | some rom =>
    if 16 ≤ y then none
    else if 0xFFFFFFFF / 128 < tileIndex then none
    else
      let tileOffset := tileIndex * 128
      if cRomSize < tileOffset ∨ cRomSize - tileOffset < 128 then none
      else
        let half (planeBase x : Nat) : BitVec 8 :=
          ngNeogeoVideoDecodeSpriteHalf rom (tileOffset.toNat + planeBase + y.toNat * 4) x
        let pixel (x : Nat) : BitVec 8 := if x < 8 then half 0x40 x else half 0x00 (x - 8)
        some fun x => if hflip ≠ 0 then pixel (15 - x) else pixel x

/-! ## Where a sprite is -/

/-- `ng_neogeo_video_hshrink_masks`. -/
def ngNeogeoVideoHshrinkMasks : Vector (BitVec 16) 16 :=
  #v[0x0080, 0x0880, 0x0888, 0x2888, 0x288A, 0x2A8A, 0x2AAA, 0xAAAA,
    0xAAEA, 0xBAEA, 0xBAEB, 0xBBEB, 0xBBEF, 0xFBEF, 0xFBFF, 0xFFFF]

/-- `ng_neogeo_video_sprite_y`. -/
def ngNeogeoVideoSpriteY (scb3Word : BitVec 16) : BitVec 16 :=
  (496 - ((scb3Word >>> 7) &&& 0x01FF)) &&& 0x01FF

/-- `ng_neogeo_video_sprite_on_scanline`. -/
def ngNeogeoVideoSpriteOnScanline (scanline : BitVec 32) (y : BitVec 16) (rows : BitVec 8) : Bool :=
  0x20 ≤ rows || (scanline - y.setWidth 32) &&& 0x01FF < rows.setWidth 32 * 16

/-- A word of `vram_words`. -/
def vramWord (vramWords : Array (BitVec 16)) (addr : Nat) : BitVec 16 := vramWords.getD addr 0

def ngNeoSpriteDisplayLimit : Nat := 381

def ngNeoSpritesPerScanline : Nat := 96

/-- The loop of `ng_neogeo_video_build_active_sprite_list` over the sprites that are left. -/
def activeTurns (vramWords : Array (BitVec 16)) (scanline : BitVec 32) :
    Nat → Nat → BitVec 16 → BitVec 8 → List Nat → List Nat
  | 0, _, _, _, active => active
  | turns + 1, sprite, y, rows, active =>
    let scb3 := vramWord vramWords (0x8200 + sprite)
    let head := (scb3 >>> 6) &&& 1 = 0
    let y := if head then ngNeogeoVideoSpriteY scb3 else y
    let rows := if head then (scb3 &&& 0x3F).setWidth 8 else rows
    if rows = 0 ∨ ngNeogeoVideoSpriteOnScanline scanline y rows = false then
      activeTurns vramWords scanline turns (sprite + 1) y rows active
    else if (active ++ [sprite]).length = ngNeoSpritesPerScanline then active ++ [sprite]
    else activeTurns vramWords scanline turns (sprite + 1) y rows (active ++ [sprite])

/-- `ng_neogeo_video_build_active_sprite_list`. -/
def ngNeogeoVideoBuildActiveSpriteList (vramWords : Array (BitVec 16)) (scanline : BitVec 32) :
    List Nat :=
  activeTurns vramWords scanline ngNeoSpriteDisplayLimit 0 0 0 []

/-- The `chain_` variables. -/
structure SpriteChain where
  x : BitVec 16
  y : BitVec 16
  rows : BitVec 8
  zoomY : BitVec 8
  zoomX : BitVec 8
  deriving DecidableEq

/-- Their values before the first sprite of a line. -/
def SpriteChain.initial : SpriteChain where
  x := 0
  y := 0
  rows := 0
  zoomY := 0xFF
  zoomX := 0x0F

/-- A sprite that continues the chain of the one before it. -/
def isSticky (vramWords : Array (BitVec 16)) (sprite : Nat) : Bool :=
  (vramWord vramWords (0x8200 + sprite) >>> 6) &&& 1 ≠ 0

/-- The position at the beginning of `ng_neogeo_video_draw_sprite_scanline`. -/
def chainSprite (vramWords : Array (BitVec 16)) (chain : SpriteChain) (sprite : Nat) : SpriteChain :=
  let scb2 := vramWord vramWords (0x8000 + sprite)
  let scb3 := vramWord vramWords (0x8200 + sprite)
  let scb4 := vramWord vramWords (0x8400 + sprite)
  let zoomX := ((scb2 >>> 8) &&& 0x0F).setWidth 8
  if isSticky vramWords sprite then
    { chain with
      x := (chain.x + chain.zoomX.setWidth 16 + 1) &&& 0x01FF
      zoomX := zoomX }
  else
    { x := (scb4 >>> 7) &&& 0x01FF
      y := ngNeogeoVideoSpriteY scb3
      rows := (scb3 &&& 0x3F).setWidth 8
      zoomY := (scb2 &&& 0xFF).setWidth 8
      zoomX := zoomX }

/-! ## One line of a sprite -/

/-- `NgNeoVideoRenderOptions`. -/
structure NgNeoVideoRenderOptions where
  zoomRom : Option (Array (BitVec 8))
  zoomRomSize : BitVec 32
  autoAnimationCounter : BitVec 8
  autoAnimationDisabled : BitVec 8

/-- `ng_neogeo_video_sprite_zoom_source`: the tile of the column and the line of that tile. -/
def ngNeogeoVideoSpriteZoomSource (zoomRom : Option (Array (BitVec 8))) (zoomRomSize : BitVec 32)
    (zoomY zoomLine : BitVec 8) : BitVec 8 × BitVec 8 :=
  let approximate : BitVec 8 :=
    if zoomY = 0xFF then zoomLine
    else if zoomLine ≤ zoomY then
      ((zoomLine.setWidth 32 * 256) / (zoomY.setWidth 32 + 1)).setWidth 8
    else 0xFF
  let sourceLine : BitVec 8 :=
    match zoomRom with
    | some rom =>
      if 0x10000 ≤ zoomRomSize then rom.getD (zoomY ++ zoomLine).toNat 0 else approximate
    | none => approximate
  (sourceLine >>> 4, sourceLine &&& 0x0F)

/-- The line of the column that is shown, and whether it is in the inverted half. -/
def zoomLine (scanline : BitVec 32) (chain : SpriteChain) : BitVec 8 × Bool :=
  let spriteLine := (scanline - chain.y.setWidth 32) &&& 0x01FF
  let invert := (spriteLine >>> 8) &&& 1 ≠ 0
  let line : BitVec 8 := if invert then spriteLine.setWidth 8 ^^^ 0xFF else spriteLine.setWidth 8
  if 0x20 < chain.rows then
    -- Columns of more than 32 rows repeat the zoomed height, every other time upside down.
    let period : BitVec 16 := (chain.zoomY.setWidth 16 + 1) <<< 1
    let line : BitVec 8 := (line.setWidth 16 % period).setWidth 8
    if chain.zoomY < line then ((period - 1 - line.setWidth 16).setWidth 8, !invert)
    else (line, invert)
  else (line, invert)

/-- The tile of an entry after auto-animation. -/
def animatedTile (options : Option NgNeoVideoRenderOptions) (entry : NgNeoSpriteMapEntry) :
    BitVec 32 :=
  let counter : BitVec 32 :=
    match options with
    | some options => options.autoAnimationCounter.setWidth 32
    | none => 0
  if options.all (·.autoAnimationDisabled = 0) then
    if entry.autoAnimation &&& 0x02 ≠ 0 then (entry.tileIndex &&& ~~~0x07) ||| (counter &&& 0x07)
    else if entry.autoAnimation &&& 0x01 ≠ 0 then
      (entry.tileIndex &&& ~~~0x03) ||| (counter &&& 0x03)
    else entry.tileIndex
  else entry.tileIndex

/-- The pixel loop of `ng_neogeo_video_draw_sprite_scanline`, with the turns that are left; `plot`
writes a colour index to a column. -/
def pixelTurns {β : Type} (plot : BitVec 32 → BitVec 8 → β → β) (x : BitVec 16)
    (pixels : Nat → BitVec 8) : Nat → Nat → BitVec 16 → BitVec 16 → BitVec 32 → β → β
  | 0, _, _, _, _, out => out
  | turns + 1, px, hmask, wrapX, outX, out =>
    let color := pixels px &&& 0x0F
    let drawn := if outX < 320 ∧ color ≠ 0 then plot outX color out else out
    let kept := hmask &&& 0x8000 ≠ 0
    let visible := ¬ 0x01F0 < x ∨ 0x0200 ≤ wrapX
    let out := if kept ∧ visible then drawn else out
    let outX := if kept ∧ visible then outX + 1 else outX
    let wrapX := if kept ∧ 0x01F0 < x then wrapX + 1 else wrapX
    if hmask <<< 1 = 0 then out
    else pixelTurns plot x pixels turns (px + 1) (hmask <<< 1) wrapX outX out

/-- The pixel loop. -/
def drawPixels {β : Type} (plot : BitVec 32 → BitVec 8 → β → β) (x : BitVec 16) (zoomX : BitVec 8)
    (pixels : Nat → BitVec 8) (out : β) : β :=
  pixelTurns plot x pixels 16 0 (ngNeogeoVideoHshrinkMasks.get (zoomX.setWidth 4).toFin) x
    (if x ≤ 0x01F0 then x.setWidth 32 else 0) out

/-- The graphics data that the sprite pass reads. -/
structure SpriteSource where
  cRom : Option (Array (BitVec 8))
  cRomSize : BitVec 32
  options : Option NgNeoVideoRenderOptions
  palette : Palette

/-- The palette entries of a sprite's tile in a scanline and its 16 pixels, or `none` if its map
entry lies behind the sprite map. -/
def tileLine (source : SpriteSource) (vramWords : Array (BitVec 16)) (scanline : BitVec 32)
    (sprite : Nat) (chain : SpriteChain) : Option (BitVec 16 × (Nat → BitVec 8)) :=
  let line := zoomLine scanline chain
  let zoomed := ngNeogeoVideoSpriteZoomSource (source.options.bind (·.zoomRom))
    (source.options.elim 0 (·.zoomRomSize)) chain.zoomY line.1
  let tileY := if line.2 then zoomed.1 ^^^ 0x1F else zoomed.1
  let sourceY := if line.2 then zoomed.2 ^^^ 0x0F else zoomed.2
  let mapAddr := sprite * 64 + tileY.toNat * 2
  if 0x7000 ≤ mapAddr + 1 then none
  else
    let entry := ngNeogeoVideoDecodeSpriteMapEntry (vramWord vramWords mapAddr)
      (vramWord vramWords (mapAddr + 1))
    let sourceY := if entry.vflip ≠ 0 then sourceY ^^^ 0x0F else sourceY
    let pixels := ngNeogeoVideoDecodeSpriteTileLine source.cRom source.cRomSize
      (animatedTile source.options entry) sourceY entry.hflip
    some (entry.palette.setWidth 16 <<< 4, pixels.getD fun _ => 0)

/-- A colour index of a tile, written to a column of the line at `dst`. -/
def plotPixel (palette : Palette) (dst : Nat) (paletteBase : BitVec 16) (outX : BitVec 32)
    (color : BitVec 8) (out : Nat → BitVec 32) : Nat → BitVec 32 :=
  Function.update out (dst + outX.toNat)
    (ngNeogeoVideoPaletteArgb palette (paletteBase ||| color.setWidth 16))

/-- `ng_neogeo_video_draw_sprite_scanline` behind its position. -/
def drawPlacedSprite (source : SpriteSource) (vramWords : Array (BitVec 16)) (dst : Nat)
    (scanline : BitVec 32) (sprite : Nat) (chain : SpriteChain) (out : Nat → BitVec 32) :
    Nat → BitVec 32 :=
  if chain.rows = 0 ∨ (320 ≤ chain.x ∧ chain.x ≤ 0x01F0) ∨
      ngNeogeoVideoSpriteOnScanline scanline chain.y chain.rows = false then out
  else
    match tileLine source vramWords scanline sprite chain with
    | none => out
    | some (paletteBase, pixels) =>
      drawPixels (plotPixel source.palette dst paletteBase) chain.x chain.zoomX pixels out

/-- `ng_neogeo_video_draw_sprite_scanline`, with the line it writes and the chain. -/
def ngNeogeoVideoDrawSpriteScanline (source : SpriteSource) (vramWords : Array (BitVec 16))
    (dst : Nat) (scanline : BitVec 32) (state : (Nat → BitVec 32) × SpriteChain) (sprite : Nat) :
    (Nat → BitVec 32) × SpriteChain :=
  let chain := chainSprite vramWords state.2 sprite
  (drawPlacedSprite source vramWords dst scanline sprite chain state.1, chain)

/-! ## Frames -/

/-- The sprites of a scanline. -/
def drawSprites (source : SpriteSource) (vramWords : Array (BitVec 16)) (outStridePixels : BitVec 32)
    (out : Nat → BitVec 32) (scanline : Nat) : Nat → BitVec 32 :=
  ((ngNeogeoVideoBuildActiveSpriteList vramWords (BitVec.ofNat 32 scanline)).foldl
    (ngNeogeoVideoDrawSpriteScanline source vramWords
      (BitVec.ofNat 32 scanline * outStridePixels).toNat (BitVec.ofNat 32 scanline))
    (out, SpriteChain.initial)).1

/-- The rectangle filled with the background; the index is computed in 32 bits. -/
def fillBackground (background outStridePixels : BitVec 32) (outWidth outHeight : Nat)
    (out : Nat → BitVec 32) : Nat → BitVec 32 :=
  (List.range outHeight).foldl (fun out y =>
    (List.range outWidth).foldl (fun out x =>
      Function.update out (BitVec.ofNat 32 y * outStridePixels + BitVec.ofNat 32 x).toNat
        background) out) out

/-- `ng_neogeo_video_render_sprite_frame_argb_with_options`, on a buffer that is not null: the
buffer, or `none` for its return value 0. -/
def ngNeogeoVideoRenderSpriteFrameArgbWithOptions (source : SpriteSource)
    (vramWords : Option (Array (BitVec 16))) (vramWordCount : BitVec 32) (out : Nat → BitVec 32)
    (outWidth outHeight outStridePixels : BitVec 32) : Option (Nat → BitVec 32) :=
  match source.cRom, vramWords with
  | some _, some vramWords =>
    if vramWordCount < 0x8600 ∨ outWidth < 320 ∨ outHeight < 224 ∨ outStridePixels < outWidth then
      none
    else
      let background := ngNeogeoVideoPaletteArgb source.palette 0x0FFF
      let out := fillBackground background outStridePixels outWidth.toNat outHeight.toNat out
      some ((List.range 224).foldl (drawSprites source vramWords outStridePixels) out)
  | _, _ => none

end NeoRecomp
