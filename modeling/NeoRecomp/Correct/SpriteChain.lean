import Mathlib.Data.List.Range
import NeoRecomp.Runtime.Video

/-!
# Sprite chains

The active list of a line leaves sprites out, and drawing carries the chain over it.  No sprite of
a chain is left out before another of the same chain, so that each is drawn where the whole table
puts it.
-/

namespace NeoRecomp

section Chain
variable (vramWords : Array (BitVec 16)) (scanline : BitVec 32)

/-- The position of a sprite, from the whole table up to it. -/
def chainAt : Nat → SpriteChain
  | 0 => chainSprite vramWords .initial 0
  | sprite + 1 => chainSprite vramWords (chainAt sprite) (sprite + 1)

/-- A position that is shown in a line. -/
def shownOn (chain : SpriteChain) : Bool :=
  chain.rows ≠ 0 && ngNeogeoVideoSpriteOnScanline scanline chain.y chain.rows

/-- The sprites below `n` that are shown in a line. -/
def shownSprites (n : Nat) : List Nat :=
  (List.range n).filter fun sprite => shownOn scanline (chainAt vramWords sprite)

variable {vramWords scanline}

theorem chainSprite_of_sticky {chain : SpriteChain} {sprite : Nat}
    (h : isSticky vramWords sprite = true) :
    (chainSprite vramWords chain sprite).x = (chain.x + chain.zoomX.setWidth 16 + 1) &&& 0x01FF ∧
      (chainSprite vramWords chain sprite).y = chain.y ∧
      (chainSprite vramWords chain sprite).rows = chain.rows ∧
      (chainSprite vramWords chain sprite).zoomY = chain.zoomY := by
  unfold chainSprite
  rw [if_pos h]
  exact ⟨rfl, rfl, rfl, rfl⟩

/-- A sprite that starts a chain does not depend on the one before. -/
theorem chainSprite_of_head {chain chain' : SpriteChain} {sprite : Nat}
    (h : isSticky vramWords sprite = false) :
    chainSprite vramWords chain sprite = chainSprite vramWords chain' sprite := by
  have hn : ¬ isSticky vramWords sprite = true := by
    rw [h]
    exact Bool.false_ne_true
  unfold chainSprite
  rw [if_neg hn, if_neg hn]

variable (vramWords) in
/-- What `ng_neogeo_video_build_active_sprite_list` keeps of the chain. -/
theorem chainSprite_yRows (chain : SpriteChain) (sprite : Nat) :
    (chainSprite vramWords chain sprite).y =
        (if (vramWord vramWords (0x8200 + sprite) >>> 6) &&& 1 = 0 then
          ngNeogeoVideoSpriteY (vramWord vramWords (0x8200 + sprite)) else chain.y) ∧
      (chainSprite vramWords chain sprite).rows =
        (if (vramWord vramWords (0x8200 + sprite) >>> 6) &&& 1 = 0 then
          (vramWord vramWords (0x8200 + sprite) &&& 0x3F).setWidth 8 else chain.rows) := by
  unfold chainSprite isSticky
  by_cases h : (vramWord vramWords (0x8200 + sprite) >>> 6) &&& 1 = 0
  · rw [if_pos h, if_pos h, if_neg (by rw [decide_eq_true_eq]; exact not_not.mpr h)]
    exact ⟨rfl, rfl⟩
  · rw [if_neg h, if_neg h, if_pos (decide_eq_true h)]
    exact ⟨rfl, rfl⟩

/-! ## The active list -/

theorem shownOn_eq_false (chain : SpriteChain) :
    shownOn scanline chain = false ↔
      chain.rows = 0 ∨ ngNeogeoVideoSpriteOnScanline scanline chain.y chain.rows = false := by
  unfold shownOn
  rw [Bool.and_eq_false_iff, decide_eq_false_iff_not, not_not]

variable (vramWords scanline) in
theorem shownSprites_succ (n : Nat) :
    shownSprites vramWords scanline (n + 1) = shownSprites vramWords scanline n ++
      if shownOn scanline (chainAt vramWords n) then [n] else [] := by
  unfold shownSprites
  rw [List.range_succ, List.filter_append]
  cases h : shownOn scanline (chainAt vramWords n) <;> simp [h]

theorem shownSprites_mono {m n : Nat} (h : m ≤ n) :
    shownSprites vramWords scanline m <+: shownSprites vramWords scanline n := by
  induction n, h using Nat.le_induction with
  | base => exact List.prefix_rfl
  | succ n _ ih =>
    rw [shownSprites_succ]
    exact ih.trans (List.prefix_append _ _)

variable (vramWords scanline) in
/-- The loop from a sprite on, with the chain before it. -/
theorem activeTurns_eq (turns sprite : Nat) (before : SpriteChain)
    (hbefore : chainSprite vramWords before sprite = chainAt vramWords sprite)
    (hlen : (shownSprites vramWords scanline sprite).length < ngNeoSpritesPerScanline) :
    activeTurns vramWords scanline turns sprite before.y before.rows
        (shownSprites vramWords scanline sprite) =
      (shownSprites vramWords scanline (sprite + turns)).take ngNeoSpritesPerScanline := by
  induction turns generalizing sprite before with
  | zero =>
    rw [activeTurns, Nat.add_zero, List.take_of_length_le (Nat.le_of_lt hlen)]
  | succ turns ih =>
    obtain ⟨hy, hrows⟩ := chainSprite_yRows vramWords before sprite
    rw [hbefore] at hy hrows
    have hnext := ih (sprite + 1) (chainAt vramWords sprite) rfl
    have hsucc := shownSprites_succ vramWords scanline sprite
    rw [Nat.add_right_comm, Nat.add_assoc] at hnext
    simp only [activeTurns]
    rw [← hy, ← hrows]
    cases hshown : shownOn scanline (chainAt vramWords sprite) with
    | false =>
      rw [if_pos ((shownOn_eq_false _).mp hshown)]
      rw [hshown, if_neg Bool.false_ne_true, List.append_nil] at hsucc
      rw [hsucc] at hnext
      exact hnext hlen
    | true =>
      have hvisible := fun h => Bool.false_ne_true (((shownOn_eq_false _).mpr h).symm.trans hshown)
      rw [if_neg hvisible]
      rw [hshown, if_pos rfl] at hsucc
      rw [← hsucc]
      by_cases hfull :
          (shownSprites vramWords scanline (sprite + 1)).length = ngNeoSpritesPerScanline
      · rw [if_pos hfull, ← hfull]
        exact (List.prefix_iff_eq_take.mp (shownSprites_mono (by omega)))
      · rw [if_neg hfull]
        refine hnext ?_
        rw [hsucc, List.length_append, List.length_singleton] at hfull ⊢
        omega

variable (vramWords scanline) in
/-- The active list is the first 96 of the sprites that the whole table shows. -/
theorem activeSpriteList_eq :
    ngNeogeoVideoBuildActiveSpriteList vramWords scanline =
      (shownSprites vramWords scanline ngNeoSpriteDisplayLimit).take ngNeoSpritesPerScanline := by
  have h := activeTurns_eq vramWords scanline ngNeoSpriteDisplayLimit 0 SpriteChain.initial rfl
    (Nat.succ_pos 95)
  rw [Nat.zero_add] at h
  exact h

/-- The limit of a line cuts the table at a sprite. -/
theorem shownSprites_take (n limit : Nat) : ∃ m ≤ n,
    (shownSprites vramWords scanline n).take limit = shownSprites vramWords scanline m := by
  induction n with
  | zero => exact ⟨0, le_rfl, List.take_nil⟩
  | succ n ih =>
    by_cases hfull : limit ≤ (shownSprites vramWords scanline n).length
    · obtain ⟨m, hm, he⟩ := ih
      refine ⟨m, by omega, ?_⟩
      rw [shownSprites_succ, List.take_append_of_le_length hfull, he]
    · refine ⟨n + 1, le_rfl, List.take_of_length_le ?_⟩
      rw [shownSprites_succ, List.length_append]
      split
      · rw [List.length_singleton]
        omega
      · rw [List.length_nil]
        omega

/-- What stands before a sprite of the list. -/
theorem shownSprites_split {n sprite : Nat} {before after : List Nat}
    (h : shownSprites vramWords scanline n = before ++ sprite :: after) :
    before = shownSprites vramWords scanline sprite ∧
      shownOn scanline (chainAt vramWords sprite) = true := by
  induction n generalizing after with
  | zero => exact absurd h.symm (List.append_ne_nil_of_right_ne_nil _ (List.cons_ne_nil _ _))
  | succ n ih =>
    rw [shownSprites_succ] at h
    cases hshown : shownOn scanline (chainAt vramWords n) with
    | false =>
      rw [hshown, if_neg Bool.false_ne_true, List.append_nil] at h
      exact ih h
    | true =>
      rw [hshown, if_pos rfl] at h
      rcases List.eq_nil_or_concat after with hafter | ⟨after', last, hafter⟩
      · rw [hafter] at h
        obtain ⟨hbefore, hsprite⟩ := List.append_inj' h rfl
        rw [List.singleton_inj] at hsprite
        subst hsprite
        exact ⟨hbefore.symm, hshown⟩
      · rw [hafter, List.concat_eq_append, ← List.cons_append, ← List.append_assoc] at h
        exact ih (List.append_inj' h rfl).1

/-! ## Drawing -/

/-- A sprite that continues a chain is shown only if the one before it is. -/
theorem shownOn_of_sticky {sprite : Nat} (hsticky : isSticky vramWords (sprite + 1) = true) :
    shownOn scanline (chainAt vramWords (sprite + 1)) = shownOn scanline (chainAt vramWords sprite) := by
  obtain ⟨-, hy, hrows, -⟩ := @chainSprite_of_sticky _ (chainAt vramWords sprite) _ hsticky
  unfold shownOn
  rw [chainAt, hy, hrows]

variable (vramWords scanline) in
/-- A chain that places sprite `n` as the whole table does, if it is shown. -/
def ChainReady (n : Nat) (chain : SpriteChain) : Prop :=
  shownOn scanline (chainAt vramWords n) = true → chainSprite vramWords chain n = chainAt vramWords n

theorem chainReady_zero : ChainReady vramWords scanline 0 .initial := fun _ => rfl

/-- A sprite that is not shown leaves any chain ready: the next one starts a chain, or is not shown
either. -/
theorem chainReady_of_not_shown {n : Nat} (chain : SpriteChain)
    (hshown : shownOn scanline (chainAt vramWords n) = false) :
    ChainReady vramWords scanline (n + 1) chain := by
  intro hnext
  cases hsticky : isSticky vramWords (n + 1) with
  | false => exact chainSprite_of_head hsticky
  | true =>
    rw [shownOn_of_sticky hsticky, hshown] at hnext
    exact absurd hnext Bool.false_ne_true

theorem chainReady_of_eq (n : Nat) :
    ChainReady vramWords scanline (n + 1) (chainAt vramWords n) := fun _ => rfl

variable (vramWords scanline) in
/-- The shown sprites, each drawn where the whole table puts it. -/
def drawChained (source : SpriteSource) (dst : Nat) (sprites : List Nat) (out : Nat → BitVec 32) :
    Nat → BitVec 32 :=
  sprites.foldl (fun out sprite =>
    drawPlacedSprite source vramWords dst scanline sprite (chainAt vramWords sprite) out) out

variable (source : SpriteSource) (dst : Nat) (out : Nat → BitVec 32)

variable (vramWords scanline) in
/-- The chain carried over the shown sprites stays ready for the next. -/
theorem foldl_shownSprites (n : Nat) : ∃ chain, ChainReady vramWords scanline n chain ∧
    (shownSprites vramWords scanline n).foldl
        (ngNeogeoVideoDrawSpriteScanline source vramWords dst scanline) (out, .initial) =
      (drawChained vramWords scanline source dst (shownSprites vramWords scanline n) out, chain) := by
  induction n with
  | zero => exact ⟨.initial, chainReady_zero, rfl⟩
  | succ n ih =>
    obtain ⟨chain, hready, hfold⟩ := ih
    cases hshown : shownOn scanline (chainAt vramWords n) with
    | false =>
      refine ⟨chain, chainReady_of_not_shown chain hshown, ?_⟩
      rw [shownSprites_succ, hshown, if_neg Bool.false_ne_true, List.append_nil]
      exact hfold
    | true =>
      refine ⟨chainAt vramWords n, chainReady_of_eq n, ?_⟩
      unfold drawChained at hfold ⊢
      rw [shownSprites_succ, hshown, if_pos rfl, List.foldl_append, List.foldl_append, hfold,
        List.foldl_cons, List.foldl_nil, List.foldl_cons, List.foldl_nil,
        ngNeogeoVideoDrawSpriteScanline]
      dsimp only
      rw [hready hshown]

variable (vramWords scanline) in
/-- The list of a line is that of a shorter table. -/
theorem exists_activeSpriteList_eq : ∃ n ≤ ngNeoSpriteDisplayLimit,
    ngNeogeoVideoBuildActiveSpriteList vramWords scanline = shownSprites vramWords scanline n := by
  rw [activeSpriteList_eq]
  exact shownSprites_take ngNeoSpriteDisplayLimit ngNeoSpritesPerScanline

/-- Drawing up to an active sprite leaves the position that the whole table gives it. -/
theorem chain_of_active {before after : List Nat} {sprite : Nat}
    (h : ngNeogeoVideoBuildActiveSpriteList vramWords scanline = before ++ sprite :: after) :
    ((before ++ [sprite]).foldl
        (ngNeogeoVideoDrawSpriteScanline source vramWords dst scanline) (out, .initial)).2 =
      chainAt vramWords sprite := by
  obtain ⟨n, -, hn⟩ := exists_activeSpriteList_eq vramWords scanline
  obtain ⟨hbefore, hshown⟩ := shownSprites_split (hn.symm.trans h)
  obtain ⟨chain, hready, hfold⟩ := foldl_shownSprites vramWords scanline source dst out sprite
  rw [hbefore, List.foldl_append, hfold, List.foldl_cons, List.foldl_nil]
  exact hready hshown

/-- The sprite before an active one of the same chain is active, next to it in the list. -/
theorem active_before_sticky {before after : List Nat} {sprite : Nat}
    (hsticky : isSticky vramWords (sprite + 1) = true)
    (h : ngNeogeoVideoBuildActiveSpriteList vramWords scanline =
      before ++ (sprite + 1) :: after) : ∃ first, before = first ++ [sprite] := by
  obtain ⟨n, -, hn⟩ := exists_activeSpriteList_eq vramWords scanline
  obtain ⟨hbefore, hshown⟩ := shownSprites_split (hn.symm.trans h)
  rw [shownOn_of_sticky hsticky] at hshown
  rw [shownSprites_succ, hshown, if_pos rfl] at hbefore
  exact ⟨_, hbefore⟩

/-- The sprites of a line are drawn where the whole table puts them. -/
theorem drawSprites_eq (outStridePixels : BitVec 32) (line : Nat) :
    drawSprites source vramWords outStridePixels out line =
      drawChained vramWords (BitVec.ofNat 32 line) source
        (BitVec.ofNat 32 line * outStridePixels).toNat
        (ngNeogeoVideoBuildActiveSpriteList vramWords (BitVec.ofNat 32 line)) out := by
  obtain ⟨n, -, hn⟩ := exists_activeSpriteList_eq vramWords (BitVec.ofNat 32 line)
  obtain ⟨chain, -, hfold⟩ := foldl_shownSprites vramWords (BitVec.ofNat 32 line) source
    (BitVec.ofNat 32 line * outStridePixels).toNat out n
  unfold drawSprites
  rw [hn, hfold]

end Chain

/-! ## Columns -/

/-- The pixels of a tile line that a horizontal zoom keeps. -/
def keptPixels (zoomX : BitVec 8) : List Nat :=
  (List.range 16).filter
    ((ngNeogeoVideoHshrinkMasks.get (zoomX.setWidth 4).toFin).getMsbD ·)

/-- The columns of the kept pixels, on the ring of 512 columns. -/
def spriteColumns (chain : SpriteChain) : List Nat :=
  (List.range (chain.zoomX.toNat + 1)).map fun k => (chain.x.toNat + k) % 512

theorem keptPixels_length {zoomX : BitVec 8} (h : zoomX.toNat < 16) :
    (keptPixels zoomX).length = zoomX.toNat + 1 := by
  have hmasks : ∀ i : Fin 16, ((List.range 16).filter
      ((ngNeogeoVideoHshrinkMasks.get i).getMsbD ·)).length = i.val + 1 := by decide
  have hval : (zoomX.setWidth 4).toFin.val = zoomX.toNat := by
    rw [BitVec.val_toFin, BitVec.toNat_setWidth, Nat.mod_eq_of_lt h]
  rw [keptPixels, hmasks, hval]

theorem chainSprite_bounds (vramWords : Array (BitVec 16)) (chain : SpriteChain) (sprite : Nat) :
    (chainSprite vramWords chain sprite).x.toNat < 512 ∧
      (chainSprite vramWords chain sprite).zoomX.toNat < 16 := by
  have hx (w : BitVec 16) : (w &&& 0x01FF).toNat < 512 := by
    rw [BitVec.toNat_and]
    exact lt_of_le_of_lt Nat.and_le_right (by decide)
  have hzoom (w : BitVec 16) : ((w &&& 0x0F).setWidth 8).toNat < 16 := by
    rw [BitVec.toNat_setWidth, BitVec.toNat_and]
    exact lt_of_le_of_lt ((Nat.mod_le _ _).trans Nat.and_le_right) (by decide)
  unfold chainSprite
  cases isSticky vramWords sprite with
  | false => exact ⟨hx _, hzoom _⟩
  | true => exact ⟨hx _, hzoom _⟩

theorem chainAt_bounds (vramWords : Array (BitVec 16)) (sprite : Nat) :
    (chainAt vramWords sprite).x.toNat < 512 ∧ (chainAt vramWords sprite).zoomX.toNat < 16 := by
  cases sprite with
  | zero => exact chainSprite_bounds vramWords _ 0
  | succ sprite => exact chainSprite_bounds vramWords _ (sprite + 1)

/-- A sprite that continues a chain starts where the one before it ends. -/
theorem chainAt_sticky {vramWords : Array (BitVec 16)} {sprite : Nat}
    (h : isSticky vramWords (sprite + 1) = true) :
    (chainAt vramWords (sprite + 1)).x.toNat =
      ((chainAt vramWords sprite).x.toNat + ((chainAt vramWords sprite).zoomX.toNat + 1)) % 512 := by
  have hmask (w : BitVec 16) : (w &&& 0x01FF).toNat = w.toNat % 512 := by
    rw [BitVec.toNat_and]
    exact Nat.and_two_pow_sub_one_eq_mod w.toNat 9
  obtain ⟨hx, hzoom⟩ := chainAt_bounds vramWords sprite
  rw [chainAt, (chainSprite_of_sticky h).1, hmask, BitVec.toNat_add, BitVec.toNat_add,
    BitVec.toNat_setWidth]
  have hone : (1 : BitVec 16).toNat = 1 := rfl
  rw [hone]
  omega

/-- The columns of a sprite and of the one that continues its chain follow each other. -/
theorem spriteColumns_sticky {vramWords : Array (BitVec 16)} {sprite : Nat}
    (h : isSticky vramWords (sprite + 1) = true) :
    spriteColumns (chainAt vramWords sprite) ++ spriteColumns (chainAt vramWords (sprite + 1)) =
      (List.range (((chainAt vramWords sprite).zoomX.toNat + 1) +
        ((chainAt vramWords (sprite + 1)).zoomX.toNat + 1))).map
          fun k => ((chainAt vramWords sprite).x.toNat + k) % 512 := by
  unfold spriteColumns
  rw [chainAt_sticky h]
  generalize (chainAt vramWords sprite).zoomX.toNat + 1 = width
  generalize (chainAt vramWords (sprite + 1)).zoomX.toNat + 1 = width'
  rw [List.range_add, List.map_append, List.map_map, List.append_cancel_left_eq]
  refine List.map_congr_left fun k _ => ?_
  rw [Function.comp_apply, Nat.mod_add_mod, Nat.add_assoc]

section Pixels
variable {β : Type} (plot : BitVec 32 → BitVec 8 → β → β) (x : BitVec 16)
  (pixels : Nat → BitVec 8)

/-- A kept pixel and its column; the line shows the columns below 320. -/
def plotKept (out : β) (kept : Nat × Nat) : β :=
  let color := pixels kept.1 &&& 0x0F
  if kept.2 < 320 ∧ color ≠ 0 then plot (BitVec.ofNat 32 kept.2) color out else out

/-- `wrap_x` after `k` kept pixels. -/
def wrapAt (k : Nat) : BitVec 16 := if 0x01F0 < x then BitVec.ofNat 16 (x.toNat + k) else x

/-- `out_x` after `k` kept pixels. -/
def outAt (k : Nat) : BitVec 32 :=
  BitVec.ofNat 32 (if 0x01F0 < x then x.toNat + k - 512 else x.toNat + k)

variable {x}

theorem lt_iff_wraps : 0x01F0 < x ↔ 496 < x.toNat := BitVec.lt_def

theorem wrapAt_toNat (hx : x.toNat < 512) (hgt : 0x01F0 < x) {k : Nat} (hk : k < 16) :
    (wrapAt x k).toNat = x.toNat + k := by
  rw [wrapAt, if_pos hgt, BitVec.toNat_ofNat, Nat.mod_eq_of_lt (by omega)]

/-- A kept pixel is visible exactly if its column does not stand behind the left end of the ring. -/
theorem visible_iff (hx : x.toNat < 512) {k : Nat} (hk : k < 16) :
    (¬ 0x01F0 < x ∨ 0x0200 ≤ wrapAt x k) ↔ (496 < x.toNat → 512 ≤ x.toNat + k) := by
  by_cases hgt : 0x01F0 < x
  · have hle : 0x0200 ≤ wrapAt x k ↔ 512 ≤ x.toNat + k := by
      rw [BitVec.le_def, wrapAt_toNat hx hgt hk]
      rfl
    rw [hle, lt_iff_wraps]
    tauto
  · rw [lt_iff_wraps] at hgt ⊢
    tauto

/-- `out_x` is the column of a visible pixel. -/
theorem outAt_eq (hx : x.toNat < 512) {k : Nat} (hk : k < 16)
    (hvisible : 496 < x.toNat → 512 ≤ x.toNat + k) :
    outAt x k = BitVec.ofNat 32 ((x.toNat + k) % 512) := by
  unfold outAt
  by_cases hgt : 0x01F0 < x
  · rw [if_pos hgt]
    rw [lt_iff_wraps] at hgt
    have := hvisible hgt
    exact congrArg (BitVec.ofNat 32) (by omega)
  · rw [if_neg hgt]
    rw [lt_iff_wraps] at hgt
    exact congrArg (BitVec.ofNat 32) (by omega)

/-- A kept pixel is written exactly if the loop writes it. -/
theorem plotKept_eq (hx : x.toNat < 512) {k : Nat} (hk : k < 16) (px : Nat) (out : β) :
    plotKept plot pixels out (px, (x.toNat + k) % 512) =
      if ¬ 0x01F0 < x ∨ 0x0200 ≤ wrapAt x k then
        (if outAt x k < 320 ∧ pixels px &&& 0x0F ≠ 0 then plot (outAt x k) (pixels px &&& 0x0F) out
          else out)
      else out := by
  unfold plotKept
  by_cases hvisible : 496 < x.toNat → 512 ≤ x.toNat + k
  · have hlt : BitVec.ofNat 32 ((x.toNat + k) % 512) < 320 ↔ (x.toNat + k) % 512 < 320 := by
      rw [BitVec.lt_def, BitVec.toNat_ofNat, Nat.mod_eq_of_lt (by omega)]
      rfl
    rw [if_pos ((visible_iff hx hk).mpr hvisible), outAt_eq hx hk hvisible]
    simp only [hlt]
  · have hcolumn : ¬ (x.toNat + k) % 512 < 320 := by omega
    rw [if_neg fun h => hvisible ((visible_iff hx hk).mp h), if_neg fun h => hcolumn h.1]

theorem wrapAt_succ (k : Nat) :
    (if 0x01F0 < x then wrapAt x k + 1 else wrapAt x k) = wrapAt x (k + 1) := by
  unfold wrapAt
  by_cases hgt : 0x01F0 < x
  · rw [if_pos hgt, if_pos hgt, if_pos hgt, ← Nat.add_assoc, BitVec.ofNat_add _ 1]
    rfl
  · rw [if_neg hgt, if_neg hgt, if_neg hgt]

theorem outAt_succ (hx : x.toNat < 512) {k : Nat} (hk : k < 16) :
    (if ¬ 0x01F0 < x ∨ 0x0200 ≤ wrapAt x k then outAt x k + 1 else outAt x k) =
      outAt x (k + 1) := by
  have hstep (m n : Nat) (h : n = m + 1) : BitVec.ofNat 32 m + 1 = BitVec.ofNat 32 n := by
    rw [h, BitVec.ofNat_add]
    rfl
  simp only [visible_iff hx hk]
  unfold outAt
  by_cases hgt : 0x01F0 < x
  · rw [if_pos hgt, if_pos hgt]
    rw [lt_iff_wraps] at hgt
    by_cases hvisible : 512 ≤ x.toNat + k
    · rw [if_pos fun _ => hvisible]
      exact hstep _ _ (by omega)
    · rw [if_neg fun h => hvisible (h hgt)]
      exact congrArg (BitVec.ofNat 32) (by omega)
  · rw [if_neg hgt, if_neg hgt]
    rw [lt_iff_wraps] at hgt
    rw [if_pos fun h => absurd h hgt]
    exact hstep _ _ rfl

/-- The loop ends early only when no pixel is left to keep. -/
theorem filter_getMsbD_eq_nil {mask : BitVec 16} {px : Nat} (h : mask <<< px = 0) (turns : Nat) :
    (List.range' px turns).filter (mask.getMsbD ·) = [] := by
  rw [List.filter_eq_nil_iff]
  intro i hi
  have hle := (List.mem_range'_1.mp hi).1
  have hbit := congrArg (BitVec.getMsbD · (i - px)) h
  rw [BitVec.getMsbD_shiftLeft, Nat.sub_add_cancel hle] at hbit
  rw [hbit]
  exact fun h => Bool.false_ne_true ((BitVec.getMsbD_zero).symm.trans h)

theorem kept_iff (mask : BitVec 16) (px : Nat) :
    (mask <<< px) &&& 0x8000 ≠ 0 ↔ mask.getMsbD px = true := by
  have htop : (0x8000 : BitVec 16) = BitVec.twoPow 16 15 := rfl
  have hbit : (mask <<< px).getLsbD 15 = mask.getMsbD px := by
    rw [← Nat.zero_add px, ← BitVec.getMsbD_shiftLeft, BitVec.getMsbD_eq_getLsbD, Nat.zero_add]
    rfl
  rw [htop, BitVec.and_twoPow, hbit]
  cases mask.getMsbD px <;> decide

variable (x) in
/-- The loop from a pixel on, behind `k` kept pixels. -/
theorem pixelTurns_eq (hx : x.toNat < 512) (mask : BitVec 16) (turns px k : Nat) (out : β)
    (hpx : px + turns = 16) (hk : k ≤ px) :
    pixelTurns plot x pixels turns px (mask <<< px) (wrapAt x k) (outAt x k) out =
      (((List.range' px turns).filter (mask.getMsbD ·)).zipIdx k).foldl
        (fun out kept => plotKept plot pixels out (kept.1, (x.toNat + kept.2) % 512)) out := by
  induction turns generalizing px k out with
  | zero => rfl
  | succ turns ih =>
    have hnext (k : Nat) (hk : k ≤ px + 1) (out : β) :
        (if (mask <<< px) <<< 1 = 0 then out
          else pixelTurns plot x pixels turns (px + 1) ((mask <<< px) <<< 1) (wrapAt x k)
            (outAt x k) out) =
          (((List.range' (px + 1) turns).filter (mask.getMsbD ·)).zipIdx k).foldl
            (fun out kept => plotKept plot pixels out (kept.1, (x.toNat + kept.2) % 512)) out := by
      rw [← BitVec.shiftLeft_add]
      by_cases hend : mask <<< (px + 1) = 0
      · rw [if_pos hend, filter_getMsbD_eq_nil hend]
        rfl
      · rw [if_neg hend]
        exact ih (px + 1) k out (by omega) hk
    unfold pixelTurns
    dsimp only
    rw [List.range'_succ]
    by_cases hkept : mask.getMsbD px = true
    · simp only [kept_iff, hkept, true_and]
      rw [wrapAt_succ, outAt_succ hx (by omega), hnext (k + 1) (by omega),
        List.filter_cons_of_pos hkept, List.zipIdx_cons, List.foldl_cons,
        plotKept_eq plot pixels hx (by omega)]
    · simp only [kept_iff, hkept, Bool.false_eq_true, false_and, if_false]
      rw [hnext k (by omega), List.filter_cons_of_neg hkept]

/-- The pixels that the loop keeps go to the columns of the sprite one by one. -/
theorem drawPixels_eq {chain : SpriteChain} (hx : chain.x.toNat < 512)
    (hzoom : chain.zoomX.toNat < 16) (out : β) :
    drawPixels plot chain.x chain.zoomX pixels out =
      ((keptPixels chain.zoomX).zip (spriteColumns chain)).foldl (plotKept plot pixels) out := by
  have hwrap : wrapAt chain.x 0 = chain.x := by
    unfold wrapAt
    rw [Nat.add_zero, BitVec.ofNat_toNat, BitVec.setWidth_eq, ite_self]
  have hout : outAt chain.x 0 = if chain.x ≤ 0x01F0 then chain.x.setWidth 32 else 0 := by
    unfold outAt
    by_cases hle : chain.x ≤ 0x01F0
    · rw [if_pos hle, if_neg (BitVec.not_lt.mpr hle), Nat.add_zero, BitVec.ofNat_toNat]
    · have hzero : chain.x.toNat + 0 - 512 = 0 := by omega
      rw [if_neg hle, if_pos (BitVec.not_le.mp hle), hzero]
      rfl
  unfold drawPixels
  rw [← hout]
  have h := pixelTurns_eq plot chain.x pixels hx
    (ngNeogeoVideoHshrinkMasks.get (chain.zoomX.setWidth 4).toFin) 16 0 0 out rfl le_rfl
  rw [hwrap, BitVec.shiftLeft_zero, ← List.range_eq_range'] at h
  have hcolumns : (keptPixels chain.zoomX).zip (spriteColumns chain) =
      ((keptPixels chain.zoomX).zipIdx 0).map
        fun kept => (kept.1, (chain.x.toNat + kept.2) % 512) := by
    rw [spriteColumns, List.zip_map_right, ← keptPixels_length hzoom, List.range_eq_range',
      ← List.zipIdx_eq_zip_range']
    rfl
  rw [h, hcolumns, List.foldl_map]
  rfl

end Pixels

/-- Every active sprite is drawn where the whole table puts it; the sprites of a chain stand side
by side, each as wide as the pixels that it keeps. -/
theorem SpriteChain.active_sprites_on_table (vramWords : Array (BitVec 16)) :
    (∀ (source : SpriteSource) (dst : Nat) (scanline : BitVec 32) (out : Nat → BitVec 32)
      (before after : List Nat) (sprite : Nat),
      ngNeogeoVideoBuildActiveSpriteList vramWords scanline = before ++ sprite :: after →
        ((before ++ [sprite]).foldl (ngNeogeoVideoDrawSpriteScanline source vramWords dst scanline)
          (out, .initial)).2 = chainAt vramWords sprite) ∧
    (∀ (source : SpriteSource) (outStridePixels : BitVec 32) (out : Nat → BitVec 32) (line : Nat),
      drawSprites source vramWords outStridePixels out line =
        drawChained vramWords (BitVec.ofNat 32 line) source
          (BitVec.ofNat 32 line * outStridePixels).toNat
          (ngNeogeoVideoBuildActiveSpriteList vramWords (BitVec.ofNat 32 line)) out) ∧
    (∀ sprite, isSticky vramWords (sprite + 1) = true →
      spriteColumns (chainAt vramWords sprite) ++ spriteColumns (chainAt vramWords (sprite + 1)) =
          (List.range (((chainAt vramWords sprite).zoomX.toNat + 1) +
            ((chainAt vramWords (sprite + 1)).zoomX.toNat + 1))).map
              (fun k => ((chainAt vramWords sprite).x.toNat + k) % 512) ∧
        ∀ (scanline : BitVec 32) (before after : List Nat),
          ngNeogeoVideoBuildActiveSpriteList vramWords scanline =
              before ++ (sprite + 1) :: after →
            ∃ first, before = first ++ [sprite]) ∧
    (∀ sprite, (keptPixels (chainAt vramWords sprite).zoomX).length =
        (chainAt vramWords sprite).zoomX.toNat + 1 ∧
      ∀ (β : Type) (plot : BitVec 32 → BitVec 8 → β → β) (pixels : Nat → BitVec 8) (out : β),
        drawPixels plot (chainAt vramWords sprite).x (chainAt vramWords sprite).zoomX pixels out =
          ((keptPixels (chainAt vramWords sprite).zoomX).zip
            (spriteColumns (chainAt vramWords sprite))).foldl (plotKept plot pixels) out) := by
  refine ⟨?_, ?_, ?_, ?_⟩
  · intro source dst scanline out before after sprite h
    exact chain_of_active source dst out h
  · intro source outStridePixels out line
    exact drawSprites_eq source out outStridePixels line
  · intro sprite h
    exact ⟨spriteColumns_sticky h, fun scanline before after => active_before_sticky h⟩
  · intro sprite
    obtain ⟨hx, hzoom⟩ := chainAt_bounds vramWords sprite
    exact ⟨keptPixels_length hzoom, fun β plot pixels out => drawPixels_eq plot pixels hx hzoom out⟩

end NeoRecomp
