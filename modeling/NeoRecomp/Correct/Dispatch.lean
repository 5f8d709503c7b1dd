import NeoRecomp.Emit.Program
import NeoRecomp.Spec.Ram

/-!
# What a dispatch reaches

The dispatch switch is keyed by the 24-bit address with later duplicates left out, so it reaches the
first candidate of an address.  The sharded dispatch reaches the same one as long as the number of
shards is computed without a wrap.
-/

namespace NeoRecomp

variable {d : NgFunctionDiscovery} {i : Nat} {addr : BitVec 32}

/-- Candidate `i` is the first one at the 24-bit address `addr`. -/
structure FirstAt (d : NgFunctionDiscovery) (addr : BitVec 32) (i : Nat) : Prop where
  lt : i < d.count
  addr_eq : addr24 (d.addrAt i) = addr
  first : ∀ j < i, addr24 (d.addrAt j) ≠ addr

theorem addrAt_eq {c : Candidate} (h : d.candidates[i]? = some c) : d.addrAt i = c.addr := by
  rw [NgFunctionDiscovery.addrAt, h]

theorem FirstAt.unique {i j : Nat} (hi : FirstAt d addr i) (hj : FirstAt d addr j) : i = j := by
  rcases Nat.lt_trichotomy i j with h | h | h
  · exact (hj.first i h hi.addr_eq).elim
  · exact h
  · exact (hi.first j h hj.addr_eq).elim

/-- An address that some candidate has, one has first. -/
theorem exists_firstAt (h : i < d.count) : ∃ j ≤ i, FirstAt d (addr24 (d.addrAt i)) j := by
  have hex : ∃ j, addr24 (d.addrAt j) = addr24 (d.addrAt i) := ⟨i, rfl⟩
  have hle : Nat.find hex ≤ i := Nat.find_min' hex rfl
  exact ⟨Nat.find hex, hle, by omega, Nat.find_spec hex, fun j hj => Nat.find_min hex hj⟩

theorem dispatchCaseEmitted_eq_false (h : i < d.count) :
    dispatchCaseEmitted d i = false ↔ FirstAt d (addr24 (d.addrAt i)) i := by
  unfold dispatchCaseEmitted
  rw [List.any_eq_false]
  constructor
  · intro hall
    refine ⟨h, rfl, fun j hj heq => ?_⟩
    have hjc : j < d.candidates.length := by unfold NgFunctionDiscovery.count at h; omega
    have hmem : d.candidates[j] ∈ d.candidates.take i :=
      List.mem_take_iff_getElem.mpr ⟨j, by omega, rfl⟩
    apply hall _ hmem
    rw [addrAt_eq (List.getElem?_eq_getElem hjc)] at heq
    exact beq_iff_eq.mpr heq
  · intro hfirst c hc
    obtain ⟨j, hj, rfl⟩ := List.mem_take_iff_getElem.mp hc
    have := hfirst.first j (by omega)
    rw [addrAt_eq (List.getElem?_eq_getElem (by omega))] at this
    simpa using this

theorem mem_dispatchCases {start stop : Nat} (hs : stop ≤ d.count) :
    (addr, i) ∈ dispatchCases d start stop ↔ start ≤ i ∧ i < stop ∧ FirstAt d addr i := by
  unfold dispatchCases
  simp only [List.mem_map, List.mem_filter, List.mem_range'_1, Bool.not_eq_eq_eq_not, Bool.not_true,
    Prod.mk.injEq]
  constructor
  · rintro ⟨j, ⟨⟨hlo, hhi⟩, hem⟩, rfl, rfl⟩
    have hj : j < stop := by omega
    exact ⟨hlo, hj, (dispatchCaseEmitted_eq_false (by omega)).mp hem⟩
  · rintro ⟨hlo, hhi, hf⟩
    refine ⟨i, ⟨⟨hlo, by omega⟩, ?_⟩, hf.addr_eq, rfl⟩
    rw [dispatchCaseEmitted_eq_false hf.lt, hf.addr_eq]
    exact hf

/-- A switch without duplicate cases picks the case of the address. -/
theorem switchOn_eq_some {α : Type} {cases : List (BitVec 32 × α)} {x : α}
    (hu : ∀ y, (addr, y) ∈ cases → y = x) (h : (addr, x) ∈ cases) :
    switchOn cases addr = some x := by
  unfold switchOn
  cases hfind : cases.find? fun c => c.1 == addr with
  | none => exact (by simpa using List.find?_eq_none.mp hfind _ h : False).elim
  | some c =>
    obtain ⟨a, y⟩ := c
    obtain rfl : a = addr := by simpa using List.find?_some hfind
    rw [Option.map_some, hu y (List.mem_of_find?_eq_some hfind)]

theorem switchOn_eq_none {α : Type} {cases : List (BitVec 32 × α)}
    (h : ∀ y, (addr, y) ∉ cases) : switchOn cases addr = none := by
  unfold switchOn
  rw [Option.map_eq_none_iff, List.find?_eq_none]
  rintro ⟨a, y⟩ hmem heq
  obtain rfl : a = addr := by simpa using heq
  exact h y hmem

theorem switchOn_dispatchCases {start stop : Nat} (hs : stop ≤ d.count) (hlo : start ≤ i)
    (hhi : i < stop) (h : FirstAt d addr i) : switchOn (dispatchCases d start stop) addr = some i := by
  apply switchOn_eq_some
  · intro j hj
    exact ((mem_dispatchCases hs).mp hj).2.2.unique h
  · exact (mem_dispatchCases hs).mpr ⟨hlo, hhi, h⟩

/-! ## The single switch -/

theorem generatedStep_of_firstAt (h : FirstAt d (addr24 addr) i) :
    generatedStep d addr = .function i := by
  unfold generatedStep
  dsimp only
  rw [switchOn_dispatchCases (le_refl _) (Nat.zero_le _) h.lt h]

theorem generatedStep_of_none (h : ∀ i, ¬ FirstAt d (addr24 addr) i) :
    generatedStep d addr = .byAddress (addr24 addr) := by
  unfold generatedStep
  dsimp only
  rw [switchOn_eq_none fun j hj => h j ((mem_dispatchCases (le_refl _)).mp hj).2.2]

/-! ## Shards -/

theorem ShardRoute.le_trans (a b c : ShardRoute) (hab : a.le b = true) (hbc : b.le c = true) :
    a.le c = true := by
  unfold ShardRoute.le at *
  split_ifs at * <;> simp_all <;> omega

theorem ShardRoute.le_total (a b : ShardRoute) : (a.le b || b.le a) = true := by
  unfold ShardRoute.le
  by_cases h : a.addr = b.addr
  · simp [h]
    omega
  · have hne : a.addr.toNat ≠ b.addr.toNat := fun heq => h (BitVec.eq_of_toNat_eq heq)
    have h' : b.addr ≠ a.addr := fun heq => h heq.symm
    simp [h, h']
    omega

theorem ShardRoute.addr_le {a b : ShardRoute} (h : a.le b = true) : a.addr.toNat ≤ b.addr.toNat := by
  unfold ShardRoute.le at h
  split_ifs at h with hne
  · have := of_decide_eq_true h
    omega
  · rw [not_not.mp hne]

variable {perShard : BitVec 32}

theorem shardRoutes_sorted (d : NgFunctionDiscovery) (perShard : BitVec 32) :
    ((shardRoutes d perShard).map fun r => r.addr.toNat).Pairwise (· ≤ ·) := by
  rw [List.pairwise_map]
  exact (List.pairwise_mergeSort ShardRoute.le_trans ShardRoute.le_total _).imp ShardRoute.addr_le

theorem mem_shardRoutes (hp : perShard ≠ 0) {r : ShardRoute} :
    r ∈ shardRoutes d perShard ↔
      ∃ i, FirstAt d r.addr i ∧ r.shard = BitVec.ofNat 32 i / perShard := by
  unfold shardRoutes
  rw [List.mem_mergeSort, List.mem_map]
  constructor
  · rintro ⟨⟨a, i⟩, hmem, rfl⟩
    rw [if_neg hp]
    exact ⟨i, ((mem_dispatchCases (le_refl _)).mp hmem).2.2, rfl⟩
  · rintro ⟨i, hf, hshard⟩
    refine ⟨(r.addr, i), (mem_dispatchCases (le_refl _)).mpr ⟨Nat.zero_le _, hf.lt, hf⟩, ?_⟩
    rw [if_neg hp, ← hshard]

/-- The binary search finds the route of an address that has one. -/
theorem findRoute_of_firstAt (hp : perShard ≠ 0) (h : FirstAt d addr i) :
    findRoute (shardRoutes d perShard) addr =
      some { addr, shard := BitVec.ofNat 32 i / perShard } := by
  have hs := shardRoutes_sorted d perShard
  have hmem : addr.toNat ∈ (shardRoutes d perShard).map fun r => r.addr.toNat :=
    List.mem_map.mpr ⟨⟨addr, _⟩, (mem_shardRoutes hp).mpr ⟨i, h, rfl⟩, rfl⟩
  have hget := (lowerBound_spec hs addr.toNat).getElem?_eq_some hs hmem
  rw [List.getElem?_map, Option.map_eq_some_iff] at hget
  obtain ⟨r, hr, haddr⟩ := hget
  obtain ⟨j, hj, hshard⟩ := (mem_shardRoutes hp).mp (List.mem_of_getElem? hr)
  obtain rfl : r.addr = addr := BitVec.eq_of_toNat_eq haddr
  obtain rfl := hj.unique h
  unfold findRoute
  dsimp only
  rw [hr, ← hshard]

theorem functionsPerShard_ne_zero (requested : BitVec 32) : functionsPerShard requested ≠ 0 := by
  unfold functionsPerShard
  split_ifs with h
  · decide
  · exact h

theorem count_lt (d : NgFunctionDiscovery) : d.count < 2 ^ 32 := by
  have := d.count_le
  unfold ngFunctionDiscoveryMaxCandidates at this
  unfold NgFunctionDiscovery.count
  omega

theorem toNat_pos {x : BitVec 32} (h : x ≠ 0) : 0 < x.toNat := by
  rcases Nat.eq_zero_or_pos x.toNat with h' | h'
  · exact (h (BitVec.eq_of_toNat_eq h')).elim
  · exact h'

theorem shard_toNat (hi : i < d.count) :
    (BitVec.ofNat 32 i / perShard).toNat = i / perShard.toNat := by
  have := count_lt d
  rw [BitVec.toNat_udiv, BitVec.toNat_ofNat, Nat.mod_eq_of_lt (by omega)]

/-- Without a wrap the number of shards is the quotient rounded up. -/
theorem shardCount_toNat (hc : d.count ≠ 0)
    (hw : d.count + perShard.toNat ≤ 2 ^ 32) :
    (shardCount d perShard).toNat = (d.count + perShard.toNat - 1) / perShard.toNat := by
  unfold shardCount
  rw [if_neg hc, BitVec.toNat_udiv]
  congr 1
  have hcount := count_lt d
  rw [BitVec.toNat_sub, BitVec.toNat_add, BitVec.toNat_ofNat, Nat.mod_eq_of_lt hcount]
  show (2 ^ 32 - 1 + (d.count + perShard.toNat) % 2 ^ 32) % 2 ^ 32 = _
  omega

/-- When the sum wraps, no shard is left. -/
theorem shardCount_of_wrap (hc : d.count ≠ 0) (hw : 2 ^ 32 < d.count + perShard.toNat) :
    (shardCount d perShard).toNat = 0 := by
  unfold shardCount
  rw [if_neg hc, BitVec.toNat_udiv]
  apply Nat.div_eq_of_lt
  have hcount := d.count_le
  unfold ngFunctionDiscoveryMaxCandidates at hcount
  have hlt := perShard.isLt
  rw [BitVec.toNat_sub, BitVec.toNat_add, BitVec.toNat_ofNat, Nat.mod_eq_of_lt (count_lt d)]
  show (2 ^ 32 - 1 + (d.count + perShard.toNat) % 2 ^ 32) % 2 ^ 32 < _
  unfold NgFunctionDiscovery.count at *
  omega

/-- The shard of an index covers it. -/
theorem shardRange_covers (hp : perShard ≠ 0) (hi : i < d.count) :
    (shardRange d perShard (BitVec.ofNat 32 i / perShard)).1 ≤ i ∧
      i < min (shardRange d perShard (BitVec.ofNat 32 i / perShard)).2 d.count := by
  have hpos := toNat_pos hp
  have hcount := count_lt d
  have hle := Nat.div_mul_le_self i perShard.toNat
  have hstart : (BitVec.ofNat 32 i / perShard * perShard).toNat =
      i / perShard.toNat * perShard.toNat := by
    rw [BitVec.toNat_mul, shard_toNat hi]
    apply Nat.mod_eq_of_lt
    omega
  have hlt : i < i / perShard.toNat * perShard.toNat + perShard.toNat := by
    have := Nat.div_add_mod i perShard.toNat
    have := Nat.mod_lt i hpos
    rw [Nat.mul_comm]
    omega
  unfold shardRange
  dsimp only
  rw [hstart]
  refine ⟨hle, ?_⟩
  rw [Nat.lt_min]
  refine ⟨?_, hi⟩
  split_ifs with h
  · exact hi
  · rw [BitVec.toNat_add, hstart] at h ⊢
    have hp32 := perShard.isLt
    by_cases hwrap : i / perShard.toNat * perShard.toNat + perShard.toNat < 2 ^ 32
    · rw [Nat.mod_eq_of_lt hwrap]
      exact hlt
    · omega

theorem shardStep_of_firstAt (hp : perShard ≠ 0) (h : FirstAt d (addr24 addr) i) :
    shardStep d perShard (BitVec.ofNat 32 i / perShard) addr = .function i := by
  obtain ⟨hlo, hhi⟩ := shardRange_covers hp h.lt
  unfold shardStep
  dsimp only
  rw [switchOn_dispatchCases (min_le_right _ _) hlo hhi h]

/-- A dispatched address with a candidate goes through its route to its shard, if the shard exists. -/
theorem shardedStep_of_firstAt {requested : BitVec 32} (h : FirstAt d (addr24 addr) i) :
    shardedStep d requested addr =
      if i / (functionsPerShard requested).toNat <
          (shardCount d (functionsPerShard requested)).toNat then .function i
      else .byAddress (addr24 addr) := by
  have hp := functionsPerShard_ne_zero requested
  have h24 : FirstAt d (addr24 (addr24 addr)) i := by rw [addr24_addr24]; exact h
  unfold shardedStep
  dsimp only
  rw [findRoute_of_firstAt hp h]
  simp only [shard_toNat h.lt, true_and, shardStep_of_firstAt hp h24]

theorem shardedStep_of_none {requested : BitVec 32} (h : ∀ i, ¬ FirstAt d (addr24 addr) i) :
    shardedStep d requested addr = .byAddress (addr24 addr) := by
  unfold shardedStep
  dsimp only
  split
  · next r hr =>
    -- A route of this address would belong to a candidate.
    have hmem := List.mem_of_getElem? hr
    obtain ⟨i, hi, -⟩ := (mem_shardRoutes (functionsPerShard_ne_zero requested)).mp hmem
    have hne : r.addr ≠ addr24 addr := fun heq => h i (heq ▸ hi)
    rw [if_neg fun hc => hne hc.1]
  · rfl

/-- The sharded program steps to the same function as the single switch, and falls to
`ng_call_by_address` for the same addresses, exactly when the sum in the shard count does not
wrap. -/
theorem shardedStep_eq_iff (d : NgFunctionDiscovery) (requested : BitVec 32) :
    (∀ addr, shardedStep d requested addr = generatedStep d addr) ↔
      d.count = 0 ∨ d.count + (functionsPerShard requested).toNat ≤ 2 ^ 32 := by
  constructor
  · intro hall
    by_contra hcon
    rw [not_or, Nat.not_le] at hcon
    obtain ⟨hc, hw⟩ := hcon
    -- The first candidate is a case of the switch but has no shard.
    have h0 : FirstAt d (addr24 (d.addrAt 0)) 0 := ⟨by omega, rfl, by omega⟩
    have := hall (d.addrAt 0)
    rw [shardedStep_of_firstAt h0, generatedStep_of_firstAt h0, shardCount_of_wrap hc hw,
      if_neg (Nat.not_lt_zero _)] at this
    cases this
  · intro hw addr
    by_cases hex : ∃ i, FirstAt d (addr24 addr) i
    · obtain ⟨i, hi⟩ := hex
      have hc : d.count ≠ 0 := by have := hi.lt; omega
      have hpos := toNat_pos (functionsPerShard_ne_zero requested)
      rw [shardedStep_of_firstAt hi, generatedStep_of_firstAt hi, shardCount_toNat hc (by omega),
        if_pos]
      rw [Nat.lt_div_iff_mul_lt hpos]
      have := Nat.div_mul_le_self i (functionsPerShard requested).toNat
      have := hi.lt
      omega
    · have hnone : ∀ i, ¬ FirstAt d (addr24 addr) i := fun i hi => hex ⟨i, hi⟩
      rw [shardedStep_of_none hnone, generatedStep_of_none hnone]

/-- Two candidates and the largest shard size: the sum is `2 ^ 32`. -/
theorem shardedStep_loses_all :
    shardedStep { candidates := [{ addr := 0 }, { addr := 2 }] } 0xFFFFFFFF 0 = .byAddress 0 ∧
      generatedStep { candidates := [{ addr := 0 }, { addr := 2 }] } 0 = .function 0 := by
  have h0 : FirstAt { candidates := [{ addr := 0 }, { addr := 2 }] } (addr24 0) 0 :=
    ⟨by decide, by decide, by omega⟩
  constructor
  · rw [shardedStep_of_firstAt h0]
    decide
  · exact generatedStep_of_firstAt h0

/-! ## Banks -/

/-- Dispatching the address of a candidate steps to the function of the first candidate at the same
24-bit address; the switch is keyed by the address alone and does not look at the active bank.  So
the function of a candidate is reached, from any address, exactly when no earlier candidate has its
address. -/
theorem dispatch_reaches_first (d : NgFunctionDiscovery) (i : Nat) (hi : i < d.count) :
    (∃ j ≤ i, FirstAt d (addr24 (d.addrAt i)) j ∧ generatedStep d (d.addrAt i) = .function j) ∧
      ((∃ addr, generatedStep d addr = .function i) ↔
        ∀ k < i, addr24 (d.addrAt k) ≠ addr24 (d.addrAt i)) := by
  constructor
  · obtain ⟨j, hj, hfirst⟩ := exists_firstAt hi
    exact ⟨j, hj, hfirst, generatedStep_of_firstAt hfirst⟩
  · constructor
    · rintro ⟨addr, haddr⟩
      by_cases hex : ∃ j, FirstAt d (addr24 addr) j
      · obtain ⟨j, hj⟩ := hex
        rw [generatedStep_of_firstAt hj] at haddr
        cases haddr
        rw [hj.addr_eq]
        exact hj.first
      · rw [generatedStep_of_none fun j hj => hex ⟨j, hj⟩] at haddr
        cases haddr
    · intro hfirst
      exact ⟨d.addrAt i, generatedStep_of_firstAt ⟨hi, rfl, hfirst⟩⟩

/-- Four fixed bytes and two banks of one instruction: NOP in bank 0, RTS in bank 1. -/
def twoBankRom : NgProgramRom where
  data := #[0x4E, 0x71, 0x4E, 0x75, 0x4E, 0x71, 0x4E, 0x75]
  size := 8
  size_eq := rfl
  fixedSize := 4
  bankWindowBase := 0x10
  bankWindowSize := 2
  bankCount := 2
  bankOffsets i := if i = 0 then 4 else 6
  bankSizes _ := 2
  bankConfigured i := i < 2
  addressMapEnabled := true

/-- The window address, discovered in both banks. -/
def twoBankDiscovery : NgFunctionDiscovery :=
  ngFunctionDiscoveryAdd
    (ngFunctionDiscoveryAdd ngFunctionDiscoveryInit (ngProgramRomSelectBank twoBankRom 0) 0x10)
    (ngProgramRomSelectBank twoBankRom 1) 0x10

theorem dispatch_reaches_first_twoBank :
    (1 < twoBankDiscovery.count) ∧
      ∃ j ≤ 1, FirstAt twoBankDiscovery (addr24 (twoBankDiscovery.addrAt 1)) j ∧
        generatedStep twoBankDiscovery (twoBankDiscovery.addrAt 1) = .function j := by
  have h : 1 < twoBankDiscovery.count := by decide +kernel
  exact ⟨h, (dispatch_reaches_first twoBankDiscovery 1 h).1⟩

/-- The function of the bank 1 candidate is never stepped to: its address goes to bank 0. -/
theorem dispatch_misses_second_bank :
    ngFunctionDiscoveryBankAt twoBankDiscovery 1 = 1 ∧
      generatedStep twoBankDiscovery (twoBankDiscovery.addrAt 1) = .function 0 ∧
      candidateBody Ram twoBankRom twoBankDiscovery 0 ≠
        candidateBody Ram twoBankRom twoBankDiscovery 1 := by
  decide +kernel

end NeoRecomp
