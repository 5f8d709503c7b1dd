import Mathlib.Data.BitVec
import Mathlib.Data.List.OfFn

/-!
# Objects in host memory

How a C object is laid out in bytes: integers with their low byte first, arrays at the size of
their element, and the members of a structure each at the next multiple of its alignment.
-/

namespace NeoRecomp

universe u v

variable {α : Type u} {β : Type v} {σ : Type u}

/-! ## Integers -/

/-- The `k` low bytes of a number, lowest first. -/
def storeUint : Nat → Nat → List (BitVec 8)
  | 0, _ => []
  | k + 1, n => BitVec.ofNat 8 n :: storeUint k (n / 256)

-- Bytes past the end of the memory read as zero.
def fetchUint : Nat → List (BitVec 8) → Nat
  | 0, _ => 0
  | _ + 1, [] => 0
  | k + 1, b :: bytes => b.toNat + 256 * fetchUint k bytes

theorem length_storeUint (k n : Nat) : (storeUint k n).length = k := by
  induction k generalizing n with
  | zero => rfl
  | succ k ih => simp [storeUint, ih]

theorem fetchUint_storeUint (k n : Nat) (rest : List (BitVec 8)) :
    fetchUint k (storeUint k n ++ rest) = n % 256 ^ k := by
  induction k generalizing n with
  | zero => simp [fetchUint, Nat.mod_one]
  | succ k ih =>
    show (BitVec.ofNat 8 n).toNat + 256 * fetchUint k (storeUint k (n / 256) ++ rest) = _
    have hsplit : n % 256 ^ (k + 1) = n % 256 + 256 * (n / 256 % 256 ^ k) := by
      rw [Nat.pow_succ', Nat.mod_mul]
    rw [ih, BitVec.toNat_ofNat, hsplit]

/-! ## Layouts -/

/-- How the values of a type are kept in memory. -/
structure Layout (α : Type u) where
  size : Nat
  align : Nat
  store : α → List (BitVec 8)
  fetch : List (BitVec 8) → α
  length_store : ∀ a, (store a).length = size
  fetch_store : ∀ a rest, fetch (store a ++ rest) = a

theorem ofNat_fetchUint (k : Nat) (x : BitVec (8 * k)) (rest : List (BitVec 8)) :
    BitVec.ofNat (8 * k) (fetchUint k (storeUint k x.toNat ++ rest)) = x := by
  have hpow : 256 ^ k = 2 ^ (8 * k) := by rw [Nat.pow_mul]
  rw [fetchUint_storeUint, hpow, Nat.mod_eq_of_lt x.isLt, BitVec.ofNat_toNat, BitVec.setWidth_eq]

/-- An unsigned integer of `k` bytes. -/
def Layout.uint (k : Nat) : Layout (BitVec (8 * k)) where
  size := k
  align := k
  store x := storeUint k x.toNat
  fetch bytes := BitVec.ofNat (8 * k) (fetchUint k bytes)
  length_store x := length_storeUint k x.toNat
  fetch_store := ofNat_fetchUint k

def Layout.u8 : Layout (BitVec 8) := Layout.uint 1

def Layout.u16 : Layout (BitVec 16) := Layout.uint 2

def Layout.u32 : Layout (BitVec 32) := Layout.uint 4

def Layout.u64 : Layout (BitVec 64) := Layout.uint 8

/-! ## Arrays -/

/-- In a sequence of pieces of one length, the piece `i` starts at `i` times that length. -/
theorem drop_flatten_uniform {pieces : List (List α)} {k : Nat}
    (hk : ∀ p ∈ pieces, p.length = k) (rest : List α) (i : Nat) (hi : i < pieces.length) :
    ∃ tail, (pieces.flatten ++ rest).drop (i * k) = pieces[i] ++ tail := by
  induction pieces generalizing i with
  | nil => simp at hi
  | cons p pieces ih =>
    have hp : p.length = k := hk p List.mem_cons_self
    cases i with
    | zero => exact ⟨pieces.flatten ++ rest, by simp⟩
    | succ i =>
      have hi' : i < pieces.length := by simpa using hi
      obtain ⟨tail, ht⟩ := ih (fun q hq => hk q (List.mem_cons_of_mem _ hq)) i hi'
      refine ⟨tail, ?_⟩
      rw [List.flatten_cons, List.append_assoc, Nat.succ_mul, Nat.add_comm, ← hp,
        List.drop_length_add_append, hp]
      exact ht

namespace Layout

def storeArray {n : Nat} (l : Layout α) (f : Fin n → α) : List (BitVec 8) :=
  (List.ofFn fun i => l.store (f i)).flatten

theorem length_storeArray {n : Nat} (l : Layout α) (f : Fin n → α) :
    (l.storeArray f).length = n * l.size := by
  unfold storeArray
  rw [List.length_flatten, List.map_ofFn]
  have hsizes : List.ofFn (List.length ∘ fun i => l.store (f i)) = List.replicate n l.size := by
    rw [← List.ofFn_const]
    congr 1
    funext i
    exact l.length_store (f i)
  rw [hsizes, List.sum_replicate_nat]

theorem fetch_storeArray {n : Nat} (l : Layout α) (f : Fin n → α) (rest : List (BitVec 8)) :
    (fun i : Fin n => l.fetch ((l.storeArray f ++ rest).drop (i * l.size))) = f := by
  funext i
  have hk : ∀ p ∈ List.ofFn fun i => l.store (f i), p.length = l.size := by
    intro p hp
    obtain ⟨j, rfl⟩ := (List.mem_ofFn' _ _).mp hp
    exact l.length_store (f j)
  obtain ⟨tail, ht⟩ := drop_flatten_uniform hk rest i (by simp)
  unfold storeArray
  rw [ht, List.getElem_ofFn, l.fetch_store]

/-- `n` objects one after the other. -/
def array (n : Nat) (l : Layout α) : Layout (Fin n → α) where
  size := n * l.size
  align := l.align
  store := l.storeArray
  fetch bytes i := l.fetch (bytes.drop (i * l.size))
  length_store := l.length_storeArray
  fetch_store := l.fetch_storeArray

theorem fetch_store_map (l : Layout α) {toβ : α → β} {ofβ : β → α} (h : ∀ b, toβ (ofβ b) = b) (b : β)
    (rest : List (BitVec 8)) : toβ (l.fetch (l.store (ofβ b) ++ rest)) = b := by
  rw [l.fetch_store, h]

/-- The same bytes read as another type. -/
def map (l : Layout α) (toβ : α → β) (ofβ : β → α) (h : ∀ b, toβ (ofβ b) = b) : Layout β where
  size := l.size
  align := l.align
  store b := l.store (ofβ b)
  fetch bytes := toβ (l.fetch bytes)
  length_store b := l.length_store (ofβ b)
  fetch_store := l.fetch_store_map h

theorem ofFin_toFin_apply {w : Nat} (f : BitVec w → α) :
    (fun i : BitVec w => f (BitVec.ofFin i.toFin)) = f := rfl

/-- `2 ^ w` objects with a `w`-bit index. -/
def memory (w : Nat) (l : Layout α) : Layout (BitVec w → α) :=
  (array (2 ^ w) l).map (fun f i => f i.toFin) (fun f i => f (BitVec.ofFin i)) ofFin_toFin_apply

end Layout

/-! ## Structures -/

/-- The bytes left free before an object of the given alignment. -/
def padding (offset align : Nat) : Nat := (align - offset % align) % align

/-- The first members of a structure `σ`.  Fetching them gives the constructor of `σ` applied to
them, which is a function `α` of the members still missing. -/
structure Members (σ : Type u) (α : Type v) where
  stop : Nat
  align : Nat
  store : σ → List (BitVec 8)
  fetch : List (BitVec 8) → α
  value : σ → α
  length_store : ∀ s, (store s).length = stop
  fetch_store : ∀ s rest, fetch (store s ++ rest) = value s

namespace Members

def start (mk : α) : Members σ α where
  stop := 0
  align := 1
  store _ := []
  fetch _ := mk
  value _ := mk
  length_store _ := rfl
  fetch_store _ _ := rfl

section Next

variable (m : Members σ (β → α)) (l : Layout β) (get : σ → β)

def gap : Nat := padding m.stop l.align

def storeNext (s : σ) : List (BitVec 8) :=
  m.store s ++ (List.replicate (m.gap l) 0 ++ l.store (get s))

theorem length_storeNext (s : σ) :
    (m.storeNext l get s).length = m.stop + m.gap l + l.size := by
  simp [storeNext, m.length_store, l.length_store, Nat.add_assoc]

-- The members before are read from the same bytes, the new one from behind the gap.
theorem fetch_storeNext (s : σ) (rest : List (BitVec 8)) :
    m.fetch (m.storeNext l get s ++ rest)
        (l.fetch ((m.storeNext l get s ++ rest).drop (m.stop + m.gap l))) =
      m.value s (get s) := by
  have hbytes : m.storeNext l get s ++ rest =
      m.store s ++ (List.replicate (m.gap l) 0 ++ (l.store (get s) ++ rest)) := by
    simp [storeNext]
  have hbehind : (m.storeNext l get s ++ rest).drop (m.stop + m.gap l) =
      l.store (get s) ++ rest := by
    rw [hbytes, ← m.length_store s, List.drop_length_add_append]
    apply List.drop_left'
    simp
  rw [hbehind, l.fetch_store, hbytes, m.fetch_store]

/-- The next member, at the next multiple of its alignment. -/
def next : Members σ α where
  stop := m.stop + m.gap l + l.size
  align := max m.align l.align
  store := m.storeNext l get
  fetch bytes := m.fetch bytes (l.fetch (bytes.drop (m.stop + m.gap l)))
  value s := m.value s (get s)
  length_store := m.length_storeNext l get
  fetch_store := m.fetch_storeNext l get

end Next

variable (m : Members σ σ)

def storeAll (s : σ) : List (BitVec 8) :=
  m.store s ++ List.replicate (padding m.stop m.align) 0

theorem length_storeAll (s : σ) :
    (m.storeAll s).length = m.stop + padding m.stop m.align := by
  simp [storeAll, m.length_store]

theorem fetch_storeAll (h : ∀ s, m.value s = s) (s : σ) (rest : List (BitVec 8)) :
    m.fetch (m.storeAll s ++ rest) = s := by
  unfold storeAll
  rw [List.append_assoc, m.fetch_store, h]

end Members

/-- A structure with all its members, padded to a multiple of its own alignment. -/
def Layout.struct (m : Members σ σ) (h : ∀ s, m.value s = s) : Layout σ where
  size := m.stop + padding m.stop m.align
  align := m.align
  store := m.storeAll
  fetch := m.fetch
  length_store := m.length_storeAll
  fetch_store := m.fetch_storeAll h

end NeoRecomp
