import Mathlib.Data.Finset.Card
import Mathlib.Data.List.Basic
import Mathlib.Data.Nat.Find
import NeoRecomp.Lib.FirstVisits
import NeoRecomp.Lib.Ring

/-!
# Counting in a table with open addressing

A table of `N` slots counts keys.  A key is looked for from the slot its hash names on, one slot
after the other and around the end, up to the first slot that is empty or holds it.  Keys are never
removed, so the table counts the first `N` distinct keys exactly, whatever the hash.
-/

namespace Probing

open FirstVisits

variable {α : Type} [DecidableEq α]

/-! ## Distinct items in the order of their first occurrence -/

/-- The items without repetitions, each where it occurs first. -/
def firsts (items : List α) : List α := firstVisits id [] items

theorem mem_firsts {items : List α} {item : α} : item ∈ firsts items ↔ item ∈ items := by
  constructor
  · exact mem_of_mem_firstVisits
  · intro h
    obtain h | ⟨first, hf, heq⟩ := @exists_firstVisit _ _ _ id [] _ _ h
    · cases h
    · rwa [← show first = item from heq]

theorem nodup_firsts (items : List α) : (firsts items).Nodup := by
  have h := @nodup_firstVisits _ _ _ id [] items List.nodup_nil
  rwa [List.nil_append, List.map_id] at h

theorem firstVisits_concat (seen items : List α) (item : α) :
    firstVisits id seen (items ++ [item]) =
      firstVisits id seen items ++ if item ∈ seen ∨ item ∈ items then [] else [item] := by
  induction items generalizing seen with
  | nil => by_cases h : item ∈ seen <;> simp [firstVisits, h]
  | cons first rest ih =>
    rw [List.cons_append]
    by_cases h : first ∈ seen
    · rw [firstVisits_of_seen h, firstVisits_of_seen h, ih]
      by_cases he : item = first <;> simp [he, h]
    · rw [firstVisits_of_new h, firstVisits_of_new h, ih, List.cons_append]
      simp only [id_eq, List.mem_append, List.mem_cons, List.not_mem_nil, or_false, or_assoc]

theorem firsts_concat (items : List α) (item : α) :
    firsts (items ++ [item]) = firsts items ++ if item ∈ items then [] else [item] := by
  simpa [firsts] using firstVisits_concat [] items item

/-! ## The table -/

/-- `key i` is meaningful where `count i` is not 0. -/
structure ProbeTable (α : Type) where
  key : Nat → α
  count : Nat → Nat
  unique : Nat
  overflow : Bool

namespace ProbeTable

variable (N : Nat) (hash : α → Nat)

/-- The slots in the order a key looks at them. -/
def probeOrder (start : Nat) : List Nat := (List.range N).map fun p => (start + p) % N

/-- The slot where the search for a key ends. -/
def find (t : ProbeTable α) (k : α) : Option Nat :=
  (probeOrder N (hash k)).find? fun i => t.count i = 0 ∨ t.key i = k

/-- Count one occurrence of a key where its search has ended. -/
def settle (t : ProbeTable α) (k : α) : Option Nat → ProbeTable α
  | none => { t with overflow := true }
  | some i =>
    if t.count i = 0 then
      { t with
        key := Function.update t.key i k
        count := Function.update t.count i 1
        unique := t.unique + 1 }
    else { t with count := Function.update t.count i (t.count i + 1) }

/-- Count one occurrence of a key. -/
def note (t : ProbeTable α) (k : α) : ProbeTable α := t.settle k (t.find N hash k)

def empty (k : α) : ProbeTable α := ⟨fun _ => k, fun _ => 0, 0, false⟩

/-- The slots in use. -/
def occupied (t : ProbeTable α) : Finset Nat := (Finset.range N).filter fun i => t.count i ≠ 0

/-- The keys the table has room for. -/
def kept (ds : List α) : List α := (firsts ds).take N

/-- The table has counted `ds`. -/
structure Counts (t : ProbeTable α) (ds : List α) : Prop where
  /-- Every kept key has a slot with its count, behind occupied slots only. -/
  slot : ∀ k ∈ kept N ds, ∃ p < N, t.key ((hash k + p) % N) = k ∧
    t.count ((hash k + p) % N) = ds.count k ∧ ∀ q < p, t.count ((hash k + q) % N) ≠ 0
  used : ∀ i < N, t.count i ≠ 0 → t.key i ∈ kept N ds
  inj : ∀ i < N, ∀ j < N, t.count i ≠ 0 → t.count j ≠ 0 → t.key i = t.key j → i = j
  unique : t.unique = (kept N ds).length
  overflow : t.overflow = true ↔ N < (firsts ds).length

variable {N} {hash} {t : ProbeTable α} {ds : List α}

/-! ### Searching -/

/-- A search that finds the first slot that may stop it. -/
theorem find_eq_some {k : α} {p : Nat} (hp : p < N)
    (hstop : t.count ((hash k + p) % N) = 0 ∨ t.key ((hash k + p) % N) = k)
    (hpass : ∀ q < p, t.count ((hash k + q) % N) ≠ 0 ∧ t.key ((hash k + q) % N) ≠ k) :
    t.find N hash k = some ((hash k + p) % N) := by
  rw [find, List.find?_eq_some_iff_getElem]
  refine ⟨by simpa using hstop, p, by simpa [probeOrder] using hp, by simp [probeOrder], ?_⟩
  intro q hq
  simpa [probeOrder] using hpass q hq

theorem find_eq_none {k : α}
    (h : ∀ i < N, t.count i ≠ 0 ∧ t.key i ≠ k) : t.find N hash k = none := by
  rw [find, List.find?_eq_none]
  intro i hi
  obtain ⟨p, hp, rfl⟩ := List.mem_map.mp hi
  have hN : 0 < N := Nat.pos_of_ne_zero fun h0 => by simp [h0] at hp
  simpa using h _ (Nat.mod_lt _ hN)

/-- Every slot is looked at. -/
theorem exists_probe (start : Nat) {i : Nat} (hi : i < N) : ∃ p < N, (start + p) % N = i := by
  have hN : 0 < N := by omega
  refine ⟨(i + (N - start % N)) % N, Nat.mod_lt _ hN, ?_⟩
  have hs := Nat.mod_lt start hN
  have hdiv := Nat.mod_add_div start N
  have hsum : start + (i + (N - start % N)) = i + N * (start / N + 1) := by
    rw [Nat.mul_succ]
    omega
  rw [Nat.add_mod_mod, hsum, Nat.add_mul_mod_self_left, Nat.mod_eq_of_lt hi]

/-- The table holds as many keys as it has occupied slots. -/
theorem Counts.card_occupied (h : Counts N hash t ds) :
    (t.occupied N).card = (kept N ds).length := by
  have hnodup : (kept N ds).Nodup := (nodup_firsts ds).sublist (List.take_sublist _ _)
  rw [← List.toFinset_card_of_nodup hnodup]
  refine Finset.card_bij (fun i _ => t.key i) ?_ ?_ ?_
  · intro i hi
    rw [occupied, Finset.mem_filter, Finset.mem_range] at hi
    exact List.mem_toFinset.mpr (h.used i hi.1 hi.2)
  · intro i hi j hj hkey
    rw [occupied, Finset.mem_filter, Finset.mem_range] at hi hj
    exact h.inj i hi.1 j hj.1 hi.2 hj.2 hkey
  · intro k hk
    obtain ⟨p, hp, hkey, hcount, -⟩ := h.slot k (List.mem_toFinset.mp hk)
    refine ⟨_, ?_, hkey⟩
    rw [occupied, Finset.mem_filter, Finset.mem_range, hcount]
    refine ⟨Nat.mod_lt _ (by omega), ?_⟩
    have hmem : k ∈ ds := mem_firsts.mp (List.mem_of_mem_take (List.mem_toFinset.mp hk))
    exact (List.count_pos_iff.mpr hmem).ne'

/-- A table with all its keys has no empty slot. -/
theorem Counts.full (h : Counts N hash t ds) (hfull : N ≤ (kept N ds).length) {i : Nat}
    (hi : i < N) : t.count i ≠ 0 := by
  have hcard : (t.occupied N).card = (Finset.range N).card := by
    have := Finset.card_filter_le (Finset.range N) fun i => t.count i ≠ 0
    rw [← occupied] at this
    have := h.card_occupied
    rw [Finset.card_range] at *
    omega
  have hall := Finset.eq_of_subset_of_card_le (Finset.filter_subset _ _) hcard.ge
  exact (Finset.mem_filter.mp (hall.ge (Finset.mem_range.mpr hi))).2

/-- A table without all its keys has an empty slot. -/
theorem Counts.exists_empty (h : Counts N hash t ds) (hroom : (kept N ds).length < N) :
    ∃ i < N, t.count i = 0 := by
  by_contra hno
  push Not at hno
  have hall : t.occupied N = Finset.range N :=
    Finset.filter_true_of_mem fun i hi => hno i (Finset.mem_range.mp hi)
  have hcard := h.card_occupied
  rw [hall, Finset.card_range] at hcard
  omega

/-! ### Counting -/

theorem counts_empty (hash : α → Nat) (k : α) : Counts N hash (empty k) [] where
  slot k hk := by simp [kept, firsts, firstVisits] at hk
  used i _ hi := absurd rfl hi
  inj i _ j _ hi := absurd rfl hi
  unique := by simp [kept, firsts, firstVisits, empty]
  overflow := by simp [firsts, firstVisits, empty]

/-- A kept key that comes again. -/
theorem Counts.again (h : Counts N hash t ds) {k : α} (hk : k ∈ kept N ds) :
    Counts N hash (t.note N hash k) (ds ++ [k]) := by
  obtain ⟨p, hp, hkey, hcount, hpass⟩ := h.slot k hk
  have hmem : k ∈ ds := mem_firsts.mp (List.mem_of_mem_take hk)
  have hpos : t.count ((hash k + p) % N) ≠ 0 := by
    rw [hcount]
    exact (List.count_pos_iff.mpr hmem).ne'
  have hN : 0 < N := by omega
  have hfind : t.find N hash k = some ((hash k + p) % N) := by
    refine find_eq_some hp (.inr hkey) fun q hq => ⟨hpass q hq, fun heq => ?_⟩
    -- An earlier slot with the key would be the same slot.
    have hsame := h.inj _ (Nat.mod_lt _ hN) _ (Nat.mod_lt _ hN) (hpass q hq) hpos
      (heq.trans hkey.symm)
    have := NeoRecomp.ring_index_injective (by omega) hp hsame
    omega
  have hkept : kept N (ds ++ [k]) = kept N ds := by
    rw [kept, firsts_concat, if_pos hmem, List.append_nil, kept]
  have hnote : t.note N hash k = { t with
      count := Function.update t.count ((hash k + p) % N) (t.count ((hash k + p) % N) + 1) } := by
    rw [note, hfind]
    exact if_neg hpos
  rw [hnote]
  -- Slots are in use as before.
  have hused (i : Nat) :
      Function.update t.count ((hash k + p) % N) (t.count ((hash k + p) % N) + 1) i ≠ 0 ↔
        t.count i ≠ 0 := by
    by_cases hi : i = (hash k + p) % N
    · subst hi
      rw [Function.update_self]
      exact ⟨fun _ => hpos, fun _ => Nat.succ_ne_zero _⟩
    · rw [Function.update_of_ne hi]
  constructor
  · intro k' hk'
    rw [hkept] at hk'
    obtain ⟨p', hp', hkey', hcount', hpass'⟩ := h.slot k' hk'
    refine ⟨p', hp', hkey', ?_, fun q hq => (hused _).mpr (hpass' q hq)⟩
    show Function.update _ _ _ _ = _
    rw [List.count_append, List.count_singleton]
    by_cases hi : (hash k' + p') % N = (hash k + p) % N
    · have hkk : k = k' := by rw [← hkey, ← hkey', hi]
      rw [hi, Function.update_self, hcount, ← hkk, beq_self_eq_true, if_pos rfl]
    · have hkk : k ≠ k' := by
        rintro rfl
        apply hi
        apply h.inj _ (Nat.mod_lt _ hN) _ (Nat.mod_lt _ hN) _ hpos (hkey'.trans hkey.symm)
        rwa [hcount', ← hcount]
      rw [Function.update_of_ne hi, hcount', if_neg (by simpa using hkk), Nat.add_zero]
  · intro i hi hc
    rw [hkept]
    exact h.used i hi ((hused i).mp hc)
  · intro i hi j hj hci hcj heq
    exact h.inj i hi j hj ((hused i).mp hci) ((hused j).mp hcj) heq
  · rw [hkept]
    exact h.unique
  · rw [firsts_concat, if_pos hmem, List.append_nil]
    exact h.overflow

/-- With room left every key that came is kept. -/
theorem mem_kept_of_room (hroom : (kept N ds).length < N) {k : α} (hk : k ∈ ds) :
    k ∈ kept N ds := by
  have hlen : (firsts ds).length ≤ N := by
    rw [kept, List.length_take] at hroom
    omega
  rw [kept, List.take_of_length_le hlen]
  exact mem_firsts.mpr hk

/-- A new key, as long as there is room. -/
theorem Counts.fresh (h : Counts N hash t ds) {k : α} (hk : k ∉ kept N ds)
    (hroom : (kept N ds).length < N) : Counts N hash (t.note N hash k) (ds ++ [k]) := by
  have hN : 0 < N := by omega
  have hnew : k ∉ ds := fun hmem => hk (mem_kept_of_room hroom hmem)
  have hkept : kept N (ds ++ [k]) = kept N ds ++ [k] := by
    have hlen : (firsts ds).length < N := by
      rw [kept, List.length_take] at hroom
      omega
    rw [kept, firsts_concat, if_neg hnew, kept, List.take_of_length_le hlen.le,
      List.take_of_length_le (by simp; omega)]
  -- The first empty slot on the way of the key.
  obtain ⟨p, hp, hempty, hpass⟩ : ∃ p < N, t.count ((hash k + p) % N) = 0 ∧
      ∀ q < p, t.count ((hash k + q) % N) ≠ 0 := by
    obtain ⟨i, hi, hci⟩ := h.exists_empty hroom
    obtain ⟨p, hp, hpi⟩ := exists_probe (hash k) hi
    have hex : ∃ p, t.count ((hash k + p) % N) = 0 := ⟨p, hpi ▸ hci⟩
    classical
    refine ⟨Nat.find hex, lt_of_le_of_lt (Nat.find_min' hex (hpi ▸ hci)) hp, Nat.find_spec hex, ?_⟩
    exact fun q hq => Nat.find_min hex hq
  have hother {i : Nat} (hi : i < N) (hc : t.count i ≠ 0) : t.key i ≠ k :=
    fun heq => hk (heq ▸ h.used i hi hc)
  have hne {i : Nat} (hc : t.count i ≠ 0) : i ≠ (hash k + p) % N :=
    fun heq => hc (heq ▸ hempty)
  have hfind : t.find N hash k = some ((hash k + p) % N) :=
    find_eq_some hp (.inl hempty) fun q hq =>
      ⟨hpass q hq, hother (Nat.mod_lt _ hN) (hpass q hq)⟩
  have hnote : t.note N hash k = { t with
      key := Function.update t.key ((hash k + p) % N) k
      count := Function.update t.count ((hash k + p) % N) 1
      unique := t.unique + 1 } := by
    rw [note, hfind]
    exact if_pos hempty
  have hcount0 : ds.count k = 0 := List.count_eq_zero.mpr hnew
  rw [hnote]
  have hstill {i : Nat} (hc : t.count i ≠ 0) :
      Function.update t.count ((hash k + p) % N) 1 i ≠ 0 := by
    rwa [Function.update_of_ne (hne hc)]
  constructor
  · intro k' hk'
    rw [hkept, List.mem_append, List.mem_singleton] at hk'
    rw [List.count_append, List.count_singleton]
    rcases hk' with hk' | rfl
    · obtain ⟨p', hp', hkey', hcount', hpass'⟩ := h.slot k' hk'
      have hmem : k' ∈ ds := mem_firsts.mp (List.mem_of_mem_take hk')
      have hc' : t.count ((hash k' + p') % N) ≠ 0 := by
        rw [hcount']
        exact (List.count_pos_iff.mpr hmem).ne'
      have hkk : k ≠ k' := fun heq => hnew (heq ▸ hmem)
      refine ⟨p', hp', ?_, ?_, fun q hq => hstill (hpass' q hq)⟩
      · show Function.update _ _ _ _ = _
        rw [Function.update_of_ne (hne hc'), hkey']
      · show Function.update _ _ _ _ = _
        rw [Function.update_of_ne (hne hc'), hcount', if_neg (by simpa using hkk), Nat.add_zero]
    · refine ⟨p, hp, Function.update_self .., ?_, fun q hq => hstill (hpass q hq)⟩
      show Function.update _ _ _ _ = _
      rw [Function.update_self, hcount0, beq_self_eq_true, if_pos rfl]
  · intro i hi hc
    rw [hkept, List.mem_append, List.mem_singleton]
    dsimp only at hc ⊢
    by_cases heq : i = (hash k + p) % N
    · right
      rw [heq, Function.update_self]
    · left
      rw [Function.update_of_ne heq] at hc ⊢
      exact h.used i hi hc
  · intro i hi j hj hci hcj hij
    dsimp only at hci hcj hij
    by_cases hi0 : i = (hash k + p) % N <;> by_cases hj0 : j = (hash k + p) % N
    · rw [hi0, hj0]
    · rw [Function.update_of_ne hj0] at hcj hij
      rw [hi0, Function.update_self] at hij
      exact absurd hij.symm (hother hj hcj)
    · rw [Function.update_of_ne hi0] at hci hij
      rw [hj0, Function.update_self] at hij
      exact absurd hij (hother hi hci)
    · rw [Function.update_of_ne hi0] at hci hij
      rw [Function.update_of_ne hj0] at hcj hij
      exact h.inj i hi j hj hci hcj hij
  · rw [hkept, List.length_append, List.length_singleton, ← h.unique]
  · have hlen : (firsts ds).length < N := by
      rw [kept, List.length_take] at hroom
      omega
    rw [firsts_concat, if_neg hnew, List.length_append, List.length_singleton]
    constructor
    · intro hov
      have := h.overflow.mp hov
      omega
    · omega

/-- A new key without room is only noticed. -/
theorem Counts.dropped (h : Counts N hash t ds) {k : α} (hk : k ∉ kept N ds)
    (hfull : N ≤ (kept N ds).length) : Counts N hash (t.note N hash k) (ds ++ [k]) := by
  have hfind : t.find N hash k = none := find_eq_none fun i hi =>
    ⟨h.full hfull hi, fun heq => hk (heq ▸ h.used i hi (h.full hfull hi))⟩
  have hnote : t.note N hash k = { t with overflow := true } := by
    rw [note, hfind]
    rfl
  have hlen : N ≤ (firsts ds).length := by
    rw [kept, List.length_take] at hfull
    omega
  have hkept : kept N (ds ++ [k]) = kept N ds := by
    rw [kept, firsts_concat, List.take_append_of_le_length hlen, kept]
  rw [hnote]
  constructor
  · intro k' hk'
    rw [hkept] at hk'
    have hkk : k ≠ k' := fun heq => hk (heq ▸ hk')
    rw [List.count_append, List.count_singleton, if_neg (by simpa using hkk), Nat.add_zero]
    exact h.slot k' hk'
  · intro i hi hc
    rw [hkept]
    exact h.used i hi hc
  · exact h.inj
  · rw [hkept]
    exact h.unique
  · refine iff_of_true rfl ?_
    rw [firsts_concat]
    by_cases hmem : k ∈ ds
    · -- It came before, so it is among the distinct keys that are not kept.
      by_contra hle
      apply hk
      rw [kept, List.take_of_length_le]
      · exact mem_firsts.mpr hmem
      · rw [if_pos hmem, List.append_nil] at hle
        omega
    · rw [if_neg hmem, List.length_append, List.length_singleton]
      omega

/-- A slot in use counts its key. -/
theorem Counts.count_eq (h : Counts N hash t ds) {i : Nat} (hi : i < N) (hc : t.count i ≠ 0) :
    t.count i = ds.count (t.key i) := by
  obtain ⟨p, hp, hkey, hcount, -⟩ := h.slot _ (h.used i hi hc)
  have hmem := mem_firsts.mp (List.mem_of_mem_take (h.used i hi hc))
  have hsame : (hash (t.key i) + p) % N = i := by
    refine h.inj _ (Nat.mod_lt _ (by omega)) i hi ?_ hc hkey
    rw [hcount]
    exact (List.count_pos_iff.mpr hmem).ne'
  rwa [hsame] at hcount

theorem Counts.count_le (h : Counts N hash t ds) {i : Nat} (hi : i < N) :
    t.count i ≤ ds.length := by
  by_cases hc : t.count i = 0
  · rw [hc]
    exact Nat.zero_le _
  · rw [h.count_eq hi hc]
    exact List.count_le_length

theorem Counts.note (h : Counts N hash t ds) (k : α) :
    Counts N hash (t.note N hash k) (ds ++ [k]) := by
  by_cases hk : k ∈ kept N ds
  · exact h.again hk
  · by_cases hroom : (kept N ds).length < N
    · exact h.fresh hk hroom
    · exact h.dropped hk (by omega)

end ProbeTable

end Probing
