import NeoRecomp.Runtime.Video

/-!
# The fix layer

The two renderers of the fix layer in `neogeo_video.c`: over the sprites of a frame, and alone.
-/

namespace NeoRecomp

/-- The graphics data of the fix layer. -/
structure FixSource where
  sRom : Option (Array (BitVec 8))
  sRomSize : BitVec 32
  palette : Palette

/-- `ng_neogeo_video_decode_fix_tile_line`: the 8 pixels, or `none` for its return value 0. -/
def ngNeogeoVideoDecodeFixTileLine (sRom : Option (Array (BitVec 8))) (sRomSize : BitVec 32)
    (tileIndex : BitVec 16) (y : BitVec 8) : Option (Nat → BitVec 8) :=
  match sRom with
  | none => none
  | some rom =>
    if 8 ≤ y then none
    else
      let tileOffset : BitVec 32 := tileIndex.setWidth 32 * 32
      if sRomSize < tileOffset ∨ sRomSize - tileOffset < 32 then none
      else
        let tile (i : Nat) : BitVec 8 := rom.getD (tileOffset.toNat + i) 0
        let pair (i : Nat) : BitVec 8 := tile ([0x10, 0x18, 0x00, 0x08].getD i 0 + y.toNat)
        some fun px => if px % 2 = 0 then pair (px / 2) &&& 0x0F else pair (px / 2) >>> 4

/-- The map word of a tile. -/
def fixMapWord (vramWords : Array (BitVec 16)) (tileX tileY : Nat) : BitVec 16 :=
  vramWord vramWords (0x7000 + tileX * 32 + tileY)

/-- The `pixels` of line `py` of a tile, blank where decoding fails. -/
def fixTileLine (source : FixSource) (vramWords : Array (BitVec 16)) (tileX tileY py : Nat) :
    Nat → BitVec 8 :=
  (ngNeogeoVideoDecodeFixTileLine source.sRom source.sRomSize
    (fixMapWord vramWords tileX tileY &&& 0x0FFF) (BitVec.ofNat 8 py)).getD fun _ => 0

/-- The `palette_base` of a tile. -/
def fixPaletteBase (vramWords : Array (BitVec 16)) (tileX tileY : Nat) : BitVec 16 :=
  (fixMapWord vramWords tileX tileY >>> 12) <<< 4

/-! ## Over a frame -/

/-- The innermost loop of `ng_neogeo_video_overlay_fix_layer_argb`. -/
def overlayPixel (palette : Palette) (dst : Nat) (paletteBase : BitVec 16)
    (pixels : Nat → BitVec 8) (out : Nat → BitVec 32) (px : Nat) : Nat → BitVec 32 :=
  let color := pixels px &&& 0x0F
  if color = 0 then out
  else
    Function.update out (dst + px)
      (ngNeogeoVideoPaletteArgb palette (paletteBase ||| color.setWidth 16))

/-- A line of a tile, which may lie above or below the frame. -/
def overlayLine (source : FixSource) (vramWords : Array (BitVec 16))
    (outHeight outStridePixels sourceYOffset : BitVec 32) (tileX tileY : Nat)
    (out : Nat → BitVec 32) (py : Nat) : Nat → BitVec 32 :=
  let sourceY := BitVec.ofNat 32 (tileY * 8 + py)
  if sourceY < sourceYOffset ∨ sourceYOffset + outHeight ≤ sourceY then out
  else
    let dst := ((sourceY - sourceYOffset) * outStridePixels).toNat + tileX * 8
    (List.range 8).foldl (overlayPixel source.palette dst (fixPaletteBase vramWords tileX tileY)
      (fixTileLine source vramWords tileX tileY py)) out

/-- `ng_neogeo_video_overlay_fix_layer_argb`, on a buffer that is not null: the buffer, or `none`
for its return value 0. -/
def ngNeogeoVideoOverlayFixLayerArgb (source : FixSource) (vramWords : Option (Array (BitVec 16)))
    (vramWordCount : BitVec 32) (out : Nat → BitVec 32)
    (outWidth outHeight outStridePixels sourceYOffset : BitVec 32) : Option (Nat → BitVec 32) :=
  match source.sRom, vramWords with
  | some _, some vramWords =>
    if vramWordCount < 0x7000 + 40 * 32 ∨ outWidth < 320 ∨ outHeight < 224 ∨
        outStridePixels < outWidth ∨ 256 < sourceYOffset ∨ 256 - sourceYOffset < outHeight then
      none
    else
      some <| (List.range 40).foldl (fun out tileX =>
        (List.range 32).foldl (fun out tileY =>
          (List.range 8).foldl (overlayLine source vramWords outHeight outStridePixels sourceYOffset
            tileX tileY) out) out) out
  | _, _ => none

def ngNeoFixVisibleYOffset : BitVec 32 := 16

/-- `ng_neogeo_video_render_frame_argb_with_options`, with its return value.  Where the overlay is
refused, the sprites have been drawn. -/
def ngNeogeoVideoRenderFrameArgbWithOptions (sRom : Option (Array (BitVec 8)))
    (sRomSize : BitVec 32) (source : SpriteSource) (vramWords : Option (Array (BitVec 16)))
    (vramWordCount : BitVec 32) (out : Nat → BitVec 32)
    (outWidth outHeight outStridePixels : BitVec 32) : Bool × (Nat → BitVec 32) :=
  match ngNeogeoVideoRenderSpriteFrameArgbWithOptions source vramWords vramWordCount out outWidth
    outHeight outStridePixels with
  | none => (false, out)
  | some sprites =>
    match ngNeogeoVideoOverlayFixLayerArgb ⟨sRom, sRomSize, source.palette⟩ vramWords vramWordCount
      sprites outWidth outHeight outStridePixels ngNeoFixVisibleYOffset with
    | none => (false, sprites)
    | some frame => (true, frame)

/-! ## Alone -/

/-- The innermost loop of `ng_neogeo_video_render_fix_layer_argb`. -/
def layerPixel (palette : Palette) (dst : Nat) (paletteBase : BitVec 16)
    (pixels : Nat → BitVec 8) (out : Nat → BitVec 32) (px : Nat) : Nat → BitVec 32 :=
  let color := pixels px &&& 0x0F
  Function.update out (dst + px)
    (if color = 0 then 0xFF000000
      else ngNeogeoVideoPaletteArgb palette (paletteBase ||| color.setWidth 16))

/-- A line of a tile. -/
def layerLine (source : FixSource) (vramWords : Array (BitVec 16)) (outStridePixels : BitVec 32)
    (tileX tileY : Nat) (out : Nat → BitVec 32) (py : Nat) : Nat → BitVec 32 :=
  let outY := BitVec.ofNat 32 (tileY * 8 + py)
  let dst := (outY * outStridePixels).toNat + tileX * 8
  (List.range 8).foldl (layerPixel source.palette dst (fixPaletteBase vramWords tileX tileY)
    (fixTileLine source vramWords tileX tileY py)) out

/-- `ng_neogeo_video_render_fix_layer_argb`, on a buffer that is not null: the buffer, or `none`
for its return value 0. -/
def ngNeogeoVideoRenderFixLayerArgb (source : FixSource) (vramWords : Option (Array (BitVec 16)))
    (vramWordCount : BitVec 32) (out : Nat → BitVec 32)
    (outWidth outHeight outStridePixels : BitVec 32) : Option (Nat → BitVec 32) :=
  match source.sRom, vramWords with
  | some _, some vramWords =>
    if vramWordCount < 0x7000 + 40 * 32 ∨ outWidth < 320 ∨ outHeight < 256 ∨
        outStridePixels < outWidth then
      none
    else
      let out := fillBackground 0xFF000000 outStridePixels outWidth.toNat outHeight.toNat out
      some <| (List.range 40).foldl (fun out tileX =>
        (List.range 32).foldl (fun out tileY =>
          (List.range 8).foldl (layerLine source vramWords outStridePixels tileX tileY) out) out)
        out
  | _, _ => none

end NeoRecomp
