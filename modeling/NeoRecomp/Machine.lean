import Mathlib.Data.BitVec

/-!
# The machine emitted code runs on

The emitter prints C.  Its text is embedded here by its meaning: a statement list is an action of
`Gen`, which reads and writes the CPU record `g_ng_m68k`, calls the functions of
`generated_abi.h`, and ends by falling through, by a `goto` or by `return`.
-/

namespace NeoRecomp

/-- There are registers to index, so numerals name them. -/
instance registers_neZero : NeZero 8 := ⟨by decide⟩

/-- `NgM68kState`. -/
structure NgM68kState where
  d : Fin 8 → BitVec 32
  a : Fin 8 → BitVec 32
  pc : BitVec 32
  sr : BitVec 16
  usp : BitVec 32
  ssp : BitVec 32

/-- Index of `g_ng_m68k.d[reg]` and `g_ng_m68k.a[reg]`; validated records only hold registers
below 8. -/
def regIndex (reg : BitVec 8) : Fin 8 := Fin.ofNat 8 reg.toNat

def NgM68kState.setD (g : NgM68kState) (r : Fin 8) (v : BitVec 32) : NgM68kState :=
  { g with d := Function.update g.d r v }

def NgM68kState.setA (g : NgM68kState) (r : Fin 8) (v : BitVec 32) : NgM68kState :=
  { g with a := Function.update g.a r v }

def NgM68kState.setSr (g : NgM68kState) (v : BitVec 16) : NgM68kState := { g with sr := v }

def NgM68kState.setPc (g : NgM68kState) (v : BitVec 32) : NgM68kState := { g with pc := v }

/-- The functions of `generated_abi.h`, over an arbitrary device state `β`. -/
class GeneratedAbi (β : Type) where
  read8 : BitVec 32 → β → BitVec 8 × β
  read16 : BitVec 32 → β → BitVec 16 × β
  read32 : BitVec 32 → β → BitVec 32 × β
  write8 : BitVec 32 → BitVec 8 → β → β
  write16 : BitVec 32 → BitVec 16 → β → β
  write32 : BitVec 32 → BitVec 32 → β → β
  instructionHook : BitVec 32 → β → β
  cycleHook : BitVec 32 → BitVec 32 → β → β
  shouldYield : BitVec 32 → β → Bool × β
  resetDevices : β → β
  stopUntilInterrupt : BitVec 16 → β → β
  takeReset : β → Option (BitVec 32 × BitVec 32) × β
  takeInterrupt : BitVec 8 → β → Option (BitVec 8 × BitVec 8) × β

/-- What a run leaves behind outside the CPU: bus accesses, dispatches and misses, in order. -/
inductive Event
  | read (bytes : Nat) (addr : BitVec 32)
  | write (bytes : Nat) (addr value : BitVec 32)
  | dispatch (addr : BitVec 32)
  | miss (addr : BitVec 32)
  | instruction (addr : BitVec 32)
  deriving DecidableEq, Repr

/-- The addresses dispatched so far. -/
def dispatches (log : List Event) : List (BitVec 32) :=
  log.filterMap fun e => match e with
    | .dispatch a => some a
    | _ => none

/-- CPU record, device state, the local `ng_trace_sr` of the running function and the events so
far, oldest first. -/
structure Machine (β : Type) where
  cpu : NgM68kState
  bus : β
  traceSr : BitVec 16
  log : List Event

/-- How emitted code leaves straight-line execution. -/
inductive Exit
  | goto (label : BitVec 32)
  | ret
  deriving DecidableEq, Repr

/-- Result of running emitted code. -/
inductive Outcome (β α : Type)
  | next (value : α) (m : Machine β)
  | exit (e : Exit) (m : Machine β)

/-- Emitted code with a result. -/
def Gen (β α : Type) : Type := Machine β → Outcome β α

namespace Gen

variable {β α γ : Type}

protected def bind (x : Gen β α) (f : α → Gen β γ) : Gen β γ := fun m =>
  match x m with
  | .next a m' => f a m'
  | .exit e m' => .exit e m'

instance : Monad (Gen β) where
  pure a := fun m => .next a m
  bind := Gen.bind

@[simp] theorem pure_apply (a : α) (m : Machine β) : (pure a : Gen β α) m = .next a m := rfl

theorem bind_apply (x : Gen β α) (f : α → Gen β γ) (m : Machine β) :
    (x >>= f) m = match x m with
      | .next a m' => f a m'
      | .exit e m' => .exit e m' := rfl

instance : LawfulMonad (Gen β) := LawfulMonad.mk' _
  (by
    intro α x; funext m
    change (match x m with | .next a m' => _ | .exit e m' => _) = _
    cases x m <;> rfl)
  (by intros; rfl)
  (by
    intro α γ δ x f g; funext m
    simp only [bind_apply]
    cases x m <;> rfl)

/-- `return;` -/
def ret : Gen β α := fun m => .exit .ret m

/-- `goto ng_label_XXXXXX;`: labels are named by the low 24 bits of the address. -/
def goto (target : BitVec 32) : Gen β α := fun m => .exit (.goto (target &&& 0x00FFFFFF)) m

def getCpu : Gen β NgM68kState := fun m => .next m.cpu m

def modifyCpu (f : NgM68kState → NgM68kState) : Gen β Unit := fun m =>
  .next () { m with cpu := f m.cpu }

def getTraceSr : Gen β (BitVec 16) := fun m => .next m.traceSr m

/-- `ng_trace_sr = g_ng_m68k.sr;` -/
def sampleTraceSr : Gen β Unit := fun m => .next () { m with traceSr := m.cpu.sr }

def event (e : Event) : Gen β Unit := fun m => .next () { m with log := m.log ++ [e] }

/-- `NG_GENERATED_DISPATCH(addr)`; the callee keeps the low 24 bits. -/
def dispatch (addr : BitVec 32) : Gen β Unit := event (.dispatch (addr &&& 0x00FFFFFF))

/-- `ng_log_dispatch_miss(addr)`. -/
def logDispatchMiss (addr : BitVec 32) : Gen β Unit := event (.miss addr)

section Abi
variable [GeneratedAbi β]

/-- A call of an ABI function that returns a value. -/
def call (f : β → α × β) : Gen β α := fun m =>
  .next (f m.bus).1 { m with bus := (f m.bus).2 }

def read8 (addr : BitVec 32) : Gen β (BitVec 8) := do
  event (.read 1 addr)
  call (GeneratedAbi.read8 addr)

def read16 (addr : BitVec 32) : Gen β (BitVec 16) := do
  event (.read 2 addr)
  call (GeneratedAbi.read16 addr)

def read32 (addr : BitVec 32) : Gen β (BitVec 32) := do
  event (.read 4 addr)
  call (GeneratedAbi.read32 addr)

def write8 (addr : BitVec 32) (v : BitVec 8) : Gen β Unit := do
  event (.write 1 addr (v.setWidth 32))
  call fun b => ((), GeneratedAbi.write8 addr v b)

def write16 (addr : BitVec 32) (v : BitVec 16) : Gen β Unit := do
  event (.write 2 addr (v.setWidth 32))
  call fun b => ((), GeneratedAbi.write16 addr v b)

def write32 (addr : BitVec 32) (v : BitVec 32) : Gen β Unit := do
  event (.write 4 addr v)
  call fun b => ((), GeneratedAbi.write32 addr v b)

end Abi

end Gen

end NeoRecomp
