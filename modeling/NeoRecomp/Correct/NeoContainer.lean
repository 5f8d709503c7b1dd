import NeoRecomp.NeoImage

/-!
# `.neo` images

Which files the two loaders accept, and what they take from them.
-/

namespace NeoRecomp

/-! ## Little-endian words -/

/-- The value of four bytes, the lowest first. -/
def littleEndian (file : Array (BitVec 8)) (offset : Nat) : Nat :=
  (file.getD offset 0).toNat + 2 ^ 8 * (file.getD (offset + 1) 0).toNat +
    2 ^ 16 * (file.getD (offset + 2) 0).toNat + 2 ^ 24 * (file.getD (offset + 3) 0).toNat

/-- A byte above lower bits. -/
theorem toNat_or_shiftLeft {low : BitVec 32} {shift : Nat} (byte : BitVec 8)
    (hlow : low.toNat < 2 ^ shift) (hshift : shift ≤ 24) :
    (low ||| (byte.setWidth 32 <<< shift)).toNat = low.toNat + 2 ^ shift * byte.toNat := by
  have hbyte := byte.isLt
  have hprod : byte.toNat * 2 ^ shift < 2 ^ 32 := by
    calc byte.toNat * 2 ^ shift < 2 ^ 8 * 2 ^ shift :=
          Nat.mul_lt_mul_of_pos_right hbyte (Nat.two_pow_pos shift)
      _ ≤ 2 ^ 8 * 2 ^ 24 := Nat.mul_le_mul_left _ (Nat.pow_le_pow_right (by decide) hshift)
      _ = 2 ^ 32 := by decide
  rw [BitVec.toNat_or, BitVec.toNat_shiftLeft, BitVec.toNat_setWidth,
    Nat.mod_eq_of_lt (by omega : byte.toNat < 2 ^ 32), Nat.shiftLeft_eq, Nat.mod_eq_of_lt hprod,
    Nat.or_comm, Nat.mul_comm, ← Nat.two_pow_add_eq_or_of_lt hlow, Nat.add_comm]

theorem readLe32_toNat (file : Array (BitVec 8)) (offset : Nat) :
    (readLe32 file offset).toNat = littleEndian file offset := by
  have h0 := (file.getD offset 0).isLt
  have h1 := (file.getD (offset + 1) 0).isLt
  have h2 := (file.getD (offset + 2) 0).isLt
  have hlow : ((file.getD offset 0).setWidth 32).toNat = (file.getD offset 0).toNat := by
    rw [BitVec.toNat_setWidth, Nat.mod_eq_of_lt (by omega)]
  have hone := toNat_or_shiftLeft (file.getD (offset + 1) 0)
    (by omega : ((file.getD offset 0).setWidth 32).toNat < 2 ^ 8) (by decide)
  have htwo := toNat_or_shiftLeft (file.getD (offset + 2) 0)
    (by omega : ((file.getD offset 0).setWidth 32 |||
      ((file.getD (offset + 1) 0).setWidth 32 <<< 8)).toNat < 2 ^ 16) (by decide)
  have hthree := toNat_or_shiftLeft (file.getD (offset + 3) 0)
    (by omega : ((file.getD offset 0).setWidth 32 |||
      ((file.getD (offset + 1) 0).setWidth 32 <<< 8) |||
      ((file.getD (offset + 2) 0).setWidth 32 <<< 16)).toNat < 2 ^ 24) (by decide)
  unfold readLe32 littleEndian
  omega

/-! ## The header -/

/-- The six sizes of a file. -/
structure NeoSizes where
  p : Nat
  s : Nat
  m : Nat
  v1 : Nat
  v2 : Nat
  c : Nat

/-- The sizes that the header of a file gives. -/
def neoSizes (file : Array (BitVec 8)) : NeoSizes where
  p := littleEndian file 0x04
  s := littleEndian file 0x08
  m := littleEndian file 0x0C
  v1 := littleEndian file 0x10
  v2 := littleEndian file 0x14
  c := littleEndian file 0x18

/-- A well-formed file: its header and the regions that it announces, and nothing else. -/
structure IsNeoImage (file : Array (BitVec 8)) : Prop where
  header : 0x1000 ≤ file.size
  magic : (file.toList.take 4) = [0x4E, 0x45, 0x4F, 1]
  program : (neoSizes file).p ≠ 0
  total : 0x1000 + (neoSizes file).p + (neoSizes file).s + (neoSizes file).m +
    (neoSizes file).v1 + (neoSizes file).v2 + (neoSizes file).c = file.size

theorem take_four {file : Array (BitVec 8)} (h : 0x1000 ≤ file.size) :
    file.toList.take 4 = [file.getD 0 0, file.getD 1 0, file.getD 2 0, file.getD 3 0] := by
  obtain ⟨bytes⟩ := file
  obtain _ | ⟨b0, _ | ⟨b1, _ | ⟨b2, _ | ⟨b3, rest⟩⟩⟩⟩ := bytes
  · simp at h
  · simp at h
  · simp at h
  · simp at h
  · rfl

/-- The header that `parse_neo_header` fills in. -/
def neoHeader (file : Array (BitVec 8)) : NgNeoHeader where
  pSize := readLe32 file neoHeaderPSize
  sSize := readLe32 file neoHeaderSSize
  mSize := readLe32 file neoHeaderMSize
  v1Size := readLe32 file neoHeaderV1Size
  v2Size := readLe32 file neoHeaderV2Size
  cSize := readLe32 file neoHeaderCSize

theorem wholeFileSize_toNat {file : Array (BitVec 8)} (h : file.size < 2 ^ 32) :
    (wholeFileSize file).toNat = file.size := by
  rw [wholeFileSize, BitVec.toNat_ofNat, Nat.mod_eq_of_lt h]

theorem toNat_add_setWidth {sum : BitVec 64} {n : Nat} (word : BitVec 32) (hsum : sum.toNat = n)
    (hn : n < 2 ^ 40) : (sum + word.setWidth 64).toNat = n + word.toNat := by
  have hword := word.isLt
  rw [BitVec.toNat_add, BitVec.toNat_setWidth, hsum,
    Nat.mod_eq_of_lt (by omega : word.toNat < 2 ^ 64), Nat.mod_eq_of_lt (by omega)]

/-- The sum of seven words does not leave 64 bits. -/
theorem expectedSize_toNat (header : NgNeoHeader) : header.expectedSize.toNat =
    0x1000 + header.pSize.toNat + header.sSize.toNat + header.mSize.toNat +
      header.v1Size.toNat + header.v2Size.toNat + header.cSize.toNat := by
  have hp := header.pSize.isLt
  have hs := header.sSize.isLt
  have hm := header.mSize.isLt
  have hv1 := header.v1Size.isLt
  have hv2 := header.v2Size.isLt
  have h0 : (neoHeaderSize.setWidth 64).toNat = 0x1000 := rfl
  have h1 := toNat_add_setWidth header.pSize h0 (by omega)
  have h2 := toNat_add_setWidth header.sSize h1 (by omega)
  have h3 := toNat_add_setWidth header.mSize h2 (by omega)
  have h4 := toNat_add_setWidth header.v1Size h3 (by omega)
  have h5 := toNat_add_setWidth header.v2Size h4 (by omega)
  exact toNat_add_setWidth header.cSize h5 (by omega)

theorem neoHeader_toNat (file : Array (BitVec 8)) :
    (neoHeader file).pSize.toNat = (neoSizes file).p ∧
      (neoHeader file).sSize.toNat = (neoSizes file).s ∧
      (neoHeader file).mSize.toNat = (neoSizes file).m ∧
      (neoHeader file).v1Size.toNat = (neoSizes file).v1 ∧
      (neoHeader file).v2Size.toNat = (neoSizes file).v2 ∧
      (neoHeader file).cSize.toNat = (neoSizes file).c :=
  ⟨readLe32_toNat file _, readLe32_toNat file _, readLe32_toNat file _, readLe32_toNat file _,
    readLe32_toNat file _, readLe32_toNat file _⟩

/-- `parse_neo_header` accepts the well-formed files and reads their sizes. -/
theorem parseNeoHeader_eq_some_iff {file : Array (BitVec 8)} (h : file.size < 2 ^ 32)
    {header : NgNeoHeader} : parseNeoHeader file (wholeFileSize file) = some header ↔
      IsNeoImage file ∧ header = neoHeader file := by
  have hsize : wholeFileSize file < neoHeaderSize ↔ ¬ 0x1000 ≤ file.size := by
    rw [BitVec.lt_def, wholeFileSize_toNat h, Nat.not_le]
    rfl
  obtain ⟨hp, hs, hm, hv1, hv2, hc⟩ := neoHeader_toNat file
  have hprogram : (neoHeader file).pSize = 0 ↔ (neoSizes file).p = 0 := by
    rw [← BitVec.toNat_inj, hp]
    rfl
  have htotal : (neoHeader file).expectedSize = (wholeFileSize file).setWidth 64 ↔
      0x1000 + (neoSizes file).p + (neoSizes file).s + (neoSizes file).m + (neoSizes file).v1 +
        (neoSizes file).v2 + (neoSizes file).c = file.size := by
    rw [← BitVec.toNat_inj, expectedSize_toNat, hp, hs, hm, hv1, hv2, hc, BitVec.toNat_setWidth,
      wholeFileSize_toNat h, Nat.mod_eq_of_lt (by omega)]
  by_cases hmagic : wholeFileSize file < neoHeaderSize ∨ file.getD 0 0 ≠ 0x4E ∨
      file.getD 1 0 ≠ 0x45 ∨ file.getD 2 0 ≠ 0x4F ∨ file.getD 3 0 ≠ 1
  · rw [parseNeoHeader, if_pos hmagic]
    refine ⟨fun hsome => absurd hsome.symm (Option.some_ne_none _), fun ⟨himage, _⟩ => ?_⟩
    have hbytes := (take_four himage.header).symm.trans himage.magic
    simp only [List.cons.injEq, and_true] at hbytes
    obtain ⟨h0, h1, h2, h3⟩ := hbytes
    obtain hlt | hne | hne | hne | hne := hmagic
    · exact absurd himage.header (hsize.mp hlt)
    · exact absurd h0 hne
    · exact absurd h1 hne
    · exact absurd h2 hne
    · exact absurd h3 hne
  · rw [parseNeoHeader, if_neg hmagic]
    change (if (neoHeader file).pSize = 0 ∨
      (neoHeader file).expectedSize ≠ (wholeFileSize file).setWidth 64 then none
      else some (neoHeader file)) = some header ↔ _
    simp only [not_or, not_not, hsize] at hmagic
    obtain ⟨hheader, h0, h1, h2, h3⟩ := hmagic
    have hbytes := take_four hheader
    rw [h0, h1, h2, h3] at hbytes
    by_cases hbad : (neoHeader file).pSize = 0 ∨
        (neoHeader file).expectedSize ≠ (wholeFileSize file).setWidth 64
    · rw [if_pos hbad]
      refine ⟨fun hsome => absurd hsome.symm (Option.some_ne_none _), fun ⟨himage, _⟩ => ?_⟩
      obtain hzero | hsum := hbad
      · exact absurd (hprogram.mp hzero) himage.program
      · exact absurd (htotal.mpr himage.total) hsum
    · rw [if_neg hbad, Option.some_inj]
      rw [not_or, not_not] at hbad
      have himage : IsNeoImage file :=
        ⟨hheader, hbytes, fun hzero => hbad.1 (hprogram.mpr hzero), htotal.mp hbad.2⟩
      exact ⟨fun hheader => ⟨himage, hheader.symm⟩, fun hheader => hheader.2.symm⟩

/-! ## Regions -/

/-- The bytes swapped in each pair; an odd last byte stays. -/
def swapWords {α : Type} : List α → List α
  | high :: low :: rest => low :: high :: swapWords rest
  | rest => rest

theorem toList_swap {data : Array (BitVec 8)} {before rest : List (BitVec 8)}
    {high low : BitVec 8} (h : data.toList = before ++ high :: low :: rest) :
    ((data.setIfInBounds before.length (data.getD (before.length + 1) 0)).setIfInBounds
      (before.length + 1) (data.getD before.length 0)).toList = before ++ low :: high :: rest := by
  obtain ⟨bytes⟩ := data
  have h : bytes = before ++ high :: low :: rest := h
  subst h
  simp [Array.getD_eq_getD_getElem?]

/-- The loop from an even index on; `before` is done. -/
theorem byteswapTurns_toList {size : BitVec 32} (turns : Nat) (i : BitVec 32)
    (data : Array (BitVec 8)) (before rest : List (BitVec 8))
    (hdata : data.toList = before ++ rest) (hi : before.length = i.toNat)
    (heven : i.toNat % 2 = 0) (hsize : data.size = size.toNat) (hturns : rest.length ≤ turns) :
    (byteswapTurns size turns i data).toList = before ++ swapWords rest := by
  have hlength : before.length + rest.length = size.toNat := by
    rw [← hsize, ← Array.length_toList, hdata, List.length_append]
  have hmax := size.isLt
  induction turns generalizing i data before rest with
  | zero =>
    rw [List.length_eq_zero_iff.mp (Nat.le_zero.mp hturns)] at hdata ⊢
    exact hdata
  | succ turns ih =>
    -- `i` is even and at most the size, so that `i + 1` does not wrap.
    have hone : (1 : BitVec 32).toNat = 1 := rfl
    have hnext : (i + 1).toNat = i.toNat + 1 := by
      rw [BitVec.toNat_add, hone, Nat.mod_eq_of_lt (by omega)]
    unfold byteswapTurns
    rcases rest with _ | ⟨high, _ | ⟨low, rest⟩⟩
    · -- no byte is left
      rw [if_neg (by rw [BitVec.lt_def, hnext]; simp at hlength; omega)]
      exact hdata
    · -- an odd byte stays
      rw [if_neg (by rw [BitVec.lt_def, hnext]; simp at hlength; omega)]
      exact hdata
    · rw [List.length_cons, List.length_cons] at hlength hturns
      rw [if_pos (by rw [BitVec.lt_def, hnext]; omega)]
      have hswap := toList_swap hdata
      rw [hi, ← hnext] at hswap
      have htwo : (i + 2).toNat = i.toNat + 2 := by
        have hvalue : (2 : BitVec 32).toNat = 2 := rfl
        rw [BitVec.toNat_add, hvalue, Nat.mod_eq_of_lt (by omega)]
      have hrest := ih (i + 2) _ (before ++ [low, high]) rest
        (hswap.trans (List.append_assoc before [low, high] rest).symm)
        (by rw [List.length_append, htwo, hi]; rfl) (by omega)
        (by rw [Array.size_setIfInBounds, Array.size_setIfInBounds, hsize]) (by omega)
        (by rw [List.length_append]; simp; omega)
      rw [List.append_assoc] at hrest
      exact hrest

theorem byteswapWords_toList {data : Array (BitVec 8)} {size : BitVec 32}
    (h : data.size = size.toNat) : (byteswapWords data size).toList = swapWords data.toList := by
  rw [byteswapWords, byteswapTurns_toList size.toNat 0 data [] data.toList rfl rfl rfl h
    (by rw [Array.length_toList, h])]
  rfl

/-- A copy is a slice of the file. -/
theorem copyBytes_toList {file : Array (BitVec 8)} {cursor : Nat} {size : BitVec 32}
    (h : cursor + size.toNat ≤ file.size) :
    (copyBytes file cursor size).toList = (file.toList.drop cursor).take size.toNat := by
  refine List.ext_getElem ?_ fun k hk hk' => ?_
  · rw [copyBytes, Array.length_toList, Array.size_ofFn, List.length_take, List.length_drop,
      Array.length_toList]
    omega
  · have hin : cursor + k < file.size := by
      rw [copyBytes, Array.length_toList, Array.size_ofFn] at hk
      omega
    simp [copyBytes, Array.getD, hin]

theorem copyRegion_data (file : Array (BitVec 8)) (cursor : Nat) (size : BitVec 32) :
    (copyRegion file cursor size).data = copyBytes file cursor size := by
  unfold copyRegion
  split_ifs with hzero
  · rw [hzero]
    rfl
  · rfl

theorem copyRegion_toList {file : Array (BitVec 8)} {cursor : Nat} {size : BitVec 32}
    (h : cursor + size.toNat ≤ file.size) :
    (copyRegion file cursor size).data.toList = (file.toList.drop cursor).take size.toNat := by
  rw [copyRegion_data, copyBytes_toList h]

theorem copyRegion_size (file : Array (BitVec 8)) (cursor : Nat) (size : BitVec 32) :
    (copyRegion file cursor size).size = size := by
  unfold copyRegion
  split_ifs with hzero
  · exact hzero.symm
  · rfl

/-! ## The loaders -/

/-- The regions of an image are the slices of the file behind its header, the program with its
bytes swapped. -/
def HoldsRegions (file : Array (BitVec 8)) (image : NgNeoRomImage) : Prop :=
  ∃ header program : List (BitVec 8),
    file.toList = header ++ program ++ image.s.data.toList ++ image.m.data.toList ++
      image.v1.data.toList ++ image.v2.data.toList ++ image.c.data.toList ∧
    image.p.data.toList = swapWords program ∧
    header.length = 0x1000 ∧ program.length = (neoSizes file).p ∧
    image.p.size.toNat = (neoSizes file).p ∧ image.s.size.toNat = (neoSizes file).s ∧
    image.m.size.toNat = (neoSizes file).m ∧ image.v1.size.toNat = (neoSizes file).v1 ∧
    image.v2.size.toNat = (neoSizes file).v2 ∧ image.c.size.toNat = (neoSizes file).c

theorem parseNeoHeader_of_not {file : Array (BitVec 8)} (h : file.size < 2 ^ 32)
    (himage : ¬ IsNeoImage file) : parseNeoHeader file (wholeFileSize file) = none := by
  cases hparse : parseNeoHeader file (wholeFileSize file) with
  | none => rfl
  | some header => exact absurd ((parseNeoHeader_eq_some_iff h).mp hparse).1 himage

theorem image_holdsRegions {file : Array (BitVec 8)} (h : file.size < 2 ^ 32)
    (himage : IsNeoImage file) : (ngNeoRomImageLoad file).1 = true ∧
      HoldsRegions file (ngNeoRomImageLoad file).2 := by
  have hparse := (parseNeoHeader_eq_some_iff h).mpr ⟨himage, rfl⟩
  obtain ⟨hp, hs, hm, hv1, hv2, hc⟩ := neoHeader_toNat file
  have htotal := himage.total
  rw [← hp, ← hs, ← hm, ← hv1, ← hv2, ← hc] at htotal
  unfold ngNeoRomImageLoad HoldsRegions
  rw [hparse]
  dsimp only
  have hcursor : neoHeaderSize.toNat = 0x1000 := rfl
  refine ⟨rfl, file.toList.take 0x1000, (file.toList.drop 0x1000).take (neoHeader file).pSize.toNat,
    ?_, ?_, ?_, ?_, ?_, ?_, ?_, ?_, ?_, ?_⟩
  · rw [hcursor, copyRegion_toList (by omega), copyRegion_toList (by omega),
      copyRegion_toList (by omega), copyRegion_toList (by omega), copyRegion_toList (by omega),
      ← List.take_add, ← List.take_add, ← List.take_add, ← List.take_add, ← List.take_add,
      ← List.take_add, htotal, ← Array.length_toList, List.take_length]
  · rw [byteswapWords_toList (copyRegion file _ _).size_eq, copyRegion_toList (by omega), hcursor]
  · rw [List.length_take, Array.length_toList]
    omega
  · rw [List.length_take, List.length_drop, Array.length_toList]
    omega
  · rw [copyRegion_size, hp]
  · rw [copyRegion_size, hs]
  · rw [copyRegion_size, hm]
  · rw [copyRegion_size, hv1]
  · rw [copyRegion_size, hv2]
  · rw [copyRegion_size, hc]

/-- The program ROM that `ng_program_rom_load_neo` gives is the image's P region. -/
theorem loadNeo_eq_image {file : Array (BitVec 8)} (h : file.size < 2 ^ 32)
    (himage : IsNeoImage file) : ∃ rom, ngProgramRomLoadNeo file = some rom ∧
      rom.data = (ngNeoRomImageLoad file).2.p.data ∧
      rom.size = (ngNeoRomImageLoad file).2.p.size := by
  have hparse := (parseNeoHeader_eq_some_iff h).mpr ⟨himage, rfl⟩
  unfold ngProgramRomLoadNeo ngNeoRomImageLoad
  rw [hparse]
  refine ⟨_, rfl, ?_, ?_⟩
  · dsimp only
    rw [copyRegion_size, copyRegion_data]
    rfl
  · exact (copyRegion_size _ _ _).symm

/-- Both loaders accept exactly the well-formed files below 4 GiB; an accepted image holds the
slices of the file, the program ROM is its P region, and a rejected image is empty. -/
theorem neo_loaders (file : Array (BitVec 8)) (h : file.size < 2 ^ 32) :
    ((ngNeoRomImageLoad file).1 = true ↔ IsNeoImage file) ∧
    (IsNeoImage file → HoldsRegions file (ngNeoRomImageLoad file).2) ∧
    ((ngProgramRomLoadNeo file).isSome = true ↔ IsNeoImage file) ∧
    (∀ rom, ngProgramRomLoadNeo file = some rom →
      rom.data = (ngNeoRomImageLoad file).2.p.data ∧
        rom.size = (ngNeoRomImageLoad file).2.p.size) ∧
    (¬ IsNeoImage file → ngNeoRomImageLoad file = (false, .empty)) := by
  by_cases himage : IsNeoImage file
  · obtain ⟨haccepted, hregions⟩ := image_holdsRegions h himage
    obtain ⟨rom, hrom, hdata, hsize⟩ := loadNeo_eq_image h himage
    refine ⟨iff_of_true haccepted himage, fun _ => hregions, iff_of_true ?_ himage, ?_,
      fun hnot => absurd himage hnot⟩
    · rw [hrom]
      rfl
    · intro rom' hrom'
      rw [hrom, Option.some_inj] at hrom'
      rw [← hrom']
      exact ⟨hdata, hsize⟩
  · have hparse := parseNeoHeader_of_not h himage
    have hrejected : ngNeoRomImageLoad file = (false, .empty) := by
      rw [ngNeoRomImageLoad, hparse]
    have hnone : ngProgramRomLoadNeo file = none := by
      rw [ngProgramRomLoadNeo, hparse]
    rw [hrejected, hnone]
    exact ⟨iff_of_false Bool.false_ne_true himage, fun hyes => absurd hyes himage,
      iff_of_false Bool.false_ne_true himage, fun rom hrom => absurd hrom.symm
        (Option.some_ne_none rom), fun _ => rfl⟩

/-- A file with a program of two bytes. -/
def twoByteNeo : Array (BitVec 8) :=
  List.toArray ([0x4E, 0x45, 0x4F, 1, 2] ++ (List.replicate 0xFFB 0 ++ [0x71, 0x4E]))

theorem twoByteNeo_size : twoByteNeo.size = 0x1002 := by
  simp only [twoByteNeo, List.size_toArray, List.length_append, List.length_replicate,
    List.length_cons, List.length_nil]

theorem twoByteNeo_zero {offset : Nat} (h : 5 ≤ offset) (hlt : offset < 0x1000) :
    twoByteNeo.getD offset 0 = 0 := by
  have hin : offset - [(0x4E : BitVec 8), 0x45, 0x4F, 1, 2].length < 0xFFB :=
    Nat.sub_lt_right_of_lt_add h hlt
  rw [Array.getD_eq_getD_getElem?, twoByteNeo, List.getElem?_toArray,
    List.getElem?_append_right h,
    List.getElem?_append_left (by rw [List.length_replicate]; exact hin),
    List.getElem?_replicate, if_pos hin]
  rfl

theorem littleEndian_twoByteNeo {offset : Nat} (h : 5 ≤ offset) (hlt : offset < 0x20) :
    littleEndian twoByteNeo offset = 0 := by
  unfold littleEndian
  rw [twoByteNeo_zero h (by omega), twoByteNeo_zero (by omega) (by omega),
    twoByteNeo_zero (by omega) (by omega), twoByteNeo_zero (by omega) (by omega)]
  rfl

theorem twoByteNeo_sizes : neoSizes twoByteNeo = ⟨2, 0, 0, 0, 0, 0⟩ := by
  have hp : littleEndian twoByteNeo 4 = 2 := by
    have hfirst : twoByteNeo.getD 4 0 = 2 := by
      rw [Array.getD_eq_getD_getElem?, twoByteNeo, List.getElem?_toArray]
      rfl
    rw [littleEndian, hfirst, twoByteNeo_zero (by decide) (by decide),
      twoByteNeo_zero (by decide) (by decide), twoByteNeo_zero (by decide) (by decide)]
    rfl
  rw [neoSizes, hp, littleEndian_twoByteNeo (by decide) (by decide),
    littleEndian_twoByteNeo (by decide) (by decide),
    littleEndian_twoByteNeo (by decide) (by decide),
    littleEndian_twoByteNeo (by decide) (by decide),
    littleEndian_twoByteNeo (by decide) (by decide)]

theorem twoByteNeo_isNeoImage : IsNeoImage twoByteNeo where
  header := by rw [twoByteNeo_size]; decide
  magic := rfl
  program := by rw [twoByteNeo_sizes]; decide
  total := by rw [twoByteNeo_sizes, twoByteNeo_size]; rfl

theorem neo_loaders_two_bytes : (ngProgramRomLoadNeo twoByteNeo).isSome = true :=
  (neo_loaders twoByteNeo (by rw [twoByteNeo_size]; decide)).2.2.1.mpr twoByteNeo_isNeoImage

end NeoRecomp
