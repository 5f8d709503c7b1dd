import NeoRecomp.Rom

/-!
# `.neo` images

The loaders of `p_rom.c` for the container format: a header of 0x1000 bytes with the sizes of six
regions, then the regions.  A file is given by its bytes; reading it and allocating the copies
succeed.
-/

namespace NeoRecomp

/-! ## The header -/

def neoHeaderSize : BitVec 32 := 0x1000
def neoHeaderPSize : Nat := 0x04
def neoHeaderSSize : Nat := 0x08
def neoHeaderMSize : Nat := 0x0C
def neoHeaderV1Size : Nat := 0x10
def neoHeaderV2Size : Nat := 0x14
def neoHeaderCSize : Nat := 0x18

/-- `NgNeoHeader`. -/
structure NgNeoHeader where
  pSize : BitVec 32
  sSize : BitVec 32
  mSize : BitVec 32
  v1Size : BitVec 32
  v2Size : BitVec 32
  cSize : BitVec 32

/-- `expected_size`, a sum in 64 bits. -/
def NgNeoHeader.expectedSize (header : NgNeoHeader) : BitVec 64 :=
  neoHeaderSize.setWidth 64 + header.pSize.setWidth 64 + header.sSize.setWidth 64 +
    header.mSize.setWidth 64 + header.v1Size.setWidth 64 + header.v2Size.setWidth 64 +
    header.cSize.setWidth 64

/-- `read_le32`, at an offset of the file. -/
def readLe32 (data : Array (BitVec 8)) (offset : Nat) : BitVec 32 :=
  (data.getD offset 0).setWidth 32 |||
    ((data.getD (offset + 1) 0).setWidth 32 <<< 8) |||
    ((data.getD (offset + 2) 0).setWidth 32 <<< 16) |||
    ((data.getD (offset + 3) 0).setWidth 32 <<< 24)

/-- `parse_neo_header`. -/
def parseNeoHeader (fileData : Array (BitVec 8)) (fileSize : BitVec 32) : Option NgNeoHeader :=
  -- 'N', 'E', 'O'
  if fileSize < neoHeaderSize ∨ fileData.getD 0 0 ≠ 0x4E ∨ fileData.getD 1 0 ≠ 0x45 ∨
      fileData.getD 2 0 ≠ 0x4F ∨ fileData.getD 3 0 ≠ 1 then none
  else
    let header : NgNeoHeader :=
      { pSize := readLe32 fileData neoHeaderPSize
        sSize := readLe32 fileData neoHeaderSSize
        mSize := readLe32 fileData neoHeaderMSize
        v1Size := readLe32 fileData neoHeaderV1Size
        v2Size := readLe32 fileData neoHeaderV2Size
        cSize := readLe32 fileData neoHeaderCSize }
    if header.pSize = 0 ∨ header.expectedSize ≠ fileSize.setWidth 64 then none else some header

/-! ## Regions -/

/-- `NgNeoRomRegion`.  `data` and `size` describe one buffer, which is null when it is empty. -/
structure NgNeoRomRegion where
  data : Array (BitVec 8)
  size : BitVec 32
  size_eq : data.size = size.toNat

/-- A cleared region. -/
def NgNeoRomRegion.empty : NgNeoRomRegion := ⟨#[], 0, rfl⟩

/-- A buffer of `size` bytes filled from the file at `cursor`. -/
def copyBytes (fileData : Array (BitVec 8)) (cursor : Nat) (size : BitVec 32) : Array (BitVec 8) :=
  Array.ofFn fun i : Fin size.toNat => fileData.getD (cursor + i.val) 0

/-- `copy_region`. -/
def copyRegion (fileData : Array (BitVec 8)) (cursor : Nat) (size : BitVec 32) : NgNeoRomRegion :=
  if size = 0 then .empty
  else ⟨copyBytes fileData cursor size, size, Array.size_ofFn⟩

/-- The loop of `byteswap_words`, with the turns that are left. -/
def byteswapTurns (size : BitVec 32) : Nat → BitVec 32 → Array (BitVec 8) → Array (BitVec 8)
  | 0, _, data => data
  | turns + 1, i, data =>
    if i + 1 < size then
      let tmp := data.getD i.toNat 0
      let data := data.setIfInBounds i.toNat (data.getD (i + 1).toNat 0)
      byteswapTurns size turns (i + 2) (data.setIfInBounds (i + 1).toNat tmp)
    else data

/-- `byteswap_words`. -/
def byteswapWords (data : Array (BitVec 8)) (size : BitVec 32) : Array (BitVec 8) :=
  byteswapTurns size size.toNat 0 data

theorem size_byteswapTurns (size : BitVec 32) (turns : Nat) (i : BitVec 32)
    (data : Array (BitVec 8)) : (byteswapTurns size turns i data).size = data.size := by
  induction turns generalizing i data with
  | zero => rfl
  | succ turns ih =>
    unfold byteswapTurns
    split
    · rw [ih, Array.size_setIfInBounds, Array.size_setIfInBounds]
    · rfl

theorem size_byteswapWords (data : Array (BitVec 8)) (size : BitVec 32) :
    (byteswapWords data size).size = data.size :=
  size_byteswapTurns size _ 0 data

/-! ## The loaders -/

/-- `NgNeoRomImage`. -/
structure NgNeoRomImage where
  p : NgNeoRomRegion
  s : NgNeoRomRegion
  m : NgNeoRomRegion
  v1 : NgNeoRomRegion
  v2 : NgNeoRomRegion
  c : NgNeoRomRegion

/-- The image after `memset`. -/
def NgNeoRomImage.empty : NgNeoRomImage := ⟨.empty, .empty, .empty, .empty, .empty, .empty⟩

/-- What `read_whole_file` gives for the size; the length of the file is cast to 32 bits. -/
def wholeFileSize (file : Array (BitVec 8)) : BitVec 32 := BitVec.ofNat 32 file.size

/-- `ng_neo_rom_image_load`: the returned flag and the image. -/
def ngNeoRomImageLoad (file : Array (BitVec 8)) : Bool × NgNeoRomImage :=
  match parseNeoHeader file (wholeFileSize file) with
  | none => (false, .empty)
  | some header =>
    let cursor := neoHeaderSize.toNat
    let p := copyRegion file cursor header.pSize
    let cursor := cursor + header.pSize.toNat
    let s := copyRegion file cursor header.sSize
    let cursor := cursor + header.sSize.toNat
    let m := copyRegion file cursor header.mSize
    let cursor := cursor + header.mSize.toNat
    let v1 := copyRegion file cursor header.v1Size
    let cursor := cursor + header.v1Size.toNat
    let v2 := copyRegion file cursor header.v2Size
    let cursor := cursor + header.v2Size.toNat
    let c := copyRegion file cursor header.cSize
    let p : NgNeoRomRegion :=
      ⟨byteswapWords p.data p.size, p.size, (size_byteswapWords p.data p.size).trans p.size_eq⟩
    (true, ⟨p, s, m, v1, v2, c⟩)

/-- `ng_program_rom_load_neo`: the loaded ROM, or `none` if the file is rejected. -/
def ngProgramRomLoadNeo (file : Array (BitVec 8)) : Option NgProgramRom :=
  match parseNeoHeader file (wholeFileSize file) with
  | none => none
  | some header =>
    let program := copyBytes file neoHeaderSize.toNat header.pSize
    some (ngProgramRomLoaded (byteswapWords program header.pSize) header.pSize
      ((size_byteswapWords program header.pSize).trans Array.size_ofFn))

end NeoRecomp
