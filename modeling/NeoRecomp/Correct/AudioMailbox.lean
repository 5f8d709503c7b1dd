import NeoRecomp.Lib.Mailbox
import NeoRecomp.Runtime.Audio

/-!
# The sound command mailbox

The 68000 leaves a command byte for the Z80 and marks it pending.  A pending command becomes an NMI
once the sound program has enabled NMIs, and the program reads or clears the byte through port 0.
Whatever program runs on the Z80, the audio object is a mailbox with a doorbell.
-/

namespace NeoRecomp

/-! ## The events of the code -/

/-- Ports whose low five bits enable NMIs. -/
def armsNmi (portAddr : BitVec 16) : Bool :=
  8 ≤ (portAddr &&& 0x001F).toNat && (portAddr &&& 0x001F).toNat ≤ 11

namespace NgNeoAudio

variable {χ : Type} (chip : Ym2610Chip χ)

/-- What a port read is for the mailbox. -/
def portReadEvents (audio : NgNeoAudio χ) (portAddr : BitVec 16) : List (MailEvent (BitVec 8)) :=
  if portAddr &&& 0x000F = 0 then [.take (audio.ngAudioPortRead chip portAddr).1] else []

/-- What a port write is for the mailbox. -/
def portWriteEvents (portAddr : BitVec 16) : List (MailEvent (BitVec 8)) :=
  if armsNmi portAddr then [.arm true]
  else if portAddr &&& 0x001F = 0x18 then [.arm false]
  else if portAddr &&& 0x000F = 0 then [.clear]
  else []

/-- The events of the callbacks of one Z80 instruction. -/
def z80Events : Z80Run → NgNeoAudio χ → List (MailEvent (BitVec 8))
  | .done _, _ => []
  | .readByte cpu addr next, audio =>
    let audio := { audio with cpu := cpu }
    z80Events (next (audio.ngAudioDebugReadZ80 addr)) audio
  | .writeByte cpu addr value next, audio =>
    let audio := { audio with cpu := cpu }
    z80Events next (audio.ngAudioDebugWriteZ80 addr value)
  | .portIn cpu addr next, audio =>
    let audio := { audio with cpu := cpu }
    let read := audio.ngAudioPortRead chip addr
    audio.portReadEvents chip addr ++ z80Events (next read.1) read.2
  | .portOut cpu addr value next, audio =>
    let audio := { audio with cpu := cpu }
    portWriteEvents addr ++ z80Events next (audio.ngAudioPortWrite chip addr value)

/-- The ring of `ng_audio_step_z80`. -/
def ringEvents (audio : NgNeoAudio χ) : List (MailEvent (BitVec 8)) :=
  if audio.nmiPending ≠ 0 ∧ audio.nmiEnabled ≠ 0 ∧ audio.cpu.nmiPending = false then [.ring] else []

variable (z80Step : Z80 → Z80Run)

def stepEvents (audio : NgNeoAudio χ) : List (MailEvent (BitVec 8)) :=
  let ready := audio.raiseNmi.followIrq
  audio.ringEvents ++ ready.z80Events chip (z80Step ready.cpu)

def turnEvents (start : BitVec 64) (cycles : BitVec 32) :
    Nat → NgNeoAudio χ → List (MailEvent (BitVec 8))
  | 0, _ => []
  | turns + 1, audio =>
    if (audio.cpu.cyc - start).setWidth 32 < cycles then
      audio.stepEvents chip z80Step ++
        turnEvents start cycles turns (audio.ngAudioStepZ80 chip z80Step)
    else []

def beyondCreditEvents (audio : NgNeoAudio χ) (cycles : BitVec 32) :
    List (MailEvent (BitVec 8)) :=
  turnEvents chip z80Step audio.cpu.cyc cycles (cycles * 2 + 1024).toNat audio

def advanceEvents (audio : NgNeoAudio χ) (cycles : BitVec 32) : List (MailEvent (BitVec 8)) :=
  if cycles = 0 then []
  else if audio.z80CycleCredit ≠ 0 then
    if cycles ≤ audio.z80CycleCredit then []
    else
      beyondCreditEvents chip z80Step { audio with z80CycleCredit := 0 }
        (cycles - audio.z80CycleCredit)
  else beyondCreditEvents chip z80Step audio cycles

end NgNeoAudio

section Runs
variable {χ : Type} (chip : Ym2610Chip χ) (z80Step : Z80 → Z80Run)

/-- The events of an operation of the host, which can use the ports itself. -/
def AudioOp.events (op : AudioOp) (audio : NgNeoAudio χ) : List (MailEvent (BitVec 8)) :=
  match op with
  | .writeCommand command => [.post command]
  | .portRead portAddr => audio.portReadEvents chip portAddr
  | .portWrite portAddr _ => NgNeoAudio.portWriteEvents portAddr
  | .readZ80 _ | .writeZ80 _ _ => []
  | .advanceZ80Cycles cycles => audio.advanceEvents chip z80Step cycles

/-- The command an operation gives the Z80. -/
def AudioOp.commands : AudioOp → List (BitVec 8)
  | .writeCommand command => [command]
  | _ => []

def NgNeoAudio.runEvents (audio : NgNeoAudio χ) : List AudioOp → List (MailEvent (BitVec 8))
  | [] => []
  | op :: ops =>
    op.events chip z80Step audio ++ (op.step chip z80Step audio).2.runEvents ops

end Runs

/-! ## The fields behind the mailbox -/

structure AudioMail where
  latch : BitVec 8
  pending : BitVec 8
  enabled : BitVec 8
  acks : BitVec 32
  reads : BitVec 32
  clears : BitVec 32
  services : BitVec 32
  deriving DecidableEq

def AudioCore.mail (core : AudioCore) : AudioMail where
  latch := core.commandLatch
  pending := core.nmiPending
  enabled := core.nmiEnabled
  acks := core.commandAckCount
  reads := core.commandReadCount
  clears := core.commandClearCount
  services := core.nmiServiceCount

/-- The fields show a mailbox. -/
structure AudioMail.Shows (mail : AudioMail) (box : Mailbox (BitVec 8)) : Prop where
  latch : mail.latch = box.latch
  waiting : mail.pending ≠ 0 ↔ box.waiting = true
  armed : mail.enabled ≠ 0 ↔ box.armed = true

/-- Code in which the given events happened and the host gave the given commands: the mailbox it
shows went through the events, and they were counted. -/
structure AudioMail.Went (commands : List (BitVec 8)) (es : List (MailEvent (BitVec 8)))
    (mail mail' : AudioMail) : Prop where
  box : ∀ box, mail.Shows box → ∃ box', box.run 0 es = some box' ∧ mail'.Shows box'
  commands : posts es = commands
  acks : mail'.acks = mail.acks + BitVec.ofNat 32 (takes es + NeoRecomp.clears es)
  reads : mail'.reads = mail.reads + BitVec.ofNat 32 (takes es)
  clears : mail'.clears = mail.clears + BitVec.ofNat 32 (NeoRecomp.clears es)
  services : mail'.services = mail.services + BitVec.ofNat 32 (rings es)

namespace AudioMail.Went

variable {ws ws' : List (BitVec 8)} {es es' : List (MailEvent (BitVec 8))} {a b c : AudioMail}

theorem nothing (h : b = a) : AudioMail.Went [] [] a b := by
  subst h
  refine ⟨fun box hs => ⟨box, rfl, hs⟩, rfl, ?_, ?_, ?_, ?_⟩
  all_goals exact (BitVec.add_zero _).symm

theorem trans (h : AudioMail.Went ws es a b) (h' : AudioMail.Went ws' es' b c) :
    AudioMail.Went (ws ++ ws') (es ++ es') a c := by
  refine ⟨fun box hs => ?_, ?_, ?_, ?_, ?_, ?_⟩
  · obtain ⟨mid, hrun, hmid⟩ := h.box box hs
    obtain ⟨last, hrun', hlast⟩ := h'.box mid hmid
    exact ⟨last, by rw [Mailbox.run_append hrun, hrun'], hlast⟩
  · rw [posts_append, h.commands, h'.commands]
  · rw [h'.acks, h.acks, takes_append, clears_append, BitVec.add_assoc, ← BitVec.ofNat_add]
    congr 2
    omega
  · rw [h'.reads, h.reads, takes_append, BitVec.add_assoc, ← BitVec.ofNat_add]
  · rw [h'.clears, h.clears, clears_append, BitVec.add_assoc, ← BitVec.ofNat_add]
  · rw [h'.services, h.services, rings_append, BitVec.add_assoc, ← BitVec.ofNat_add]

/-- Events behind code that leaves the fields. -/
theorem behind (h : AudioMail.Went ws es b c) (hab : b = a) : AudioMail.Went ws es a c :=
  hab ▸ h

end AudioMail.Went

/-! ## Ports -/

section Ports
variable {χ : Type} (chip : Ym2610Chip χ) (audio : NgNeoAudio χ)

theorem ymRead_mail (port : BitVec 8) :
    (audio.ngAudioYmRead chip port).2.mail = audio.mail := by
  unfold NgNeoAudio.ngAudioYmRead
  dsimp only
  split <;> rfl

theorem refreshAdpcmA_mail (core : AudioCore) :
    (NgNeoAudio.ngAudioRefreshLastAdpcmAEvent core).mail = core.mail := by
  unfold NgNeoAudio.ngAudioRefreshLastAdpcmAEvent
  dsimp only
  split <;> rfl

theorem refreshAdpcmB_mail (core : AudioCore) :
    (NgNeoAudio.ngAudioRefreshLastAdpcmBEvent core).mail = core.mail := by
  unfold NgNeoAudio.ngAudioRefreshLastAdpcmBEvent
  dsimp only
  split <;> rfl

theorem trackYmDataWrite_mail (core : AudioCore) (port address data : BitVec 8) :
    (NgNeoAudio.ngAudioTrackYmDataWrite core port address data).mail = core.mail := by
  unfold NgNeoAudio.ngAudioTrackYmDataWrite
  split
  · unfold NgNeoAudio.trackAdpcmA
    dsimp only
    rw [refreshAdpcmA_mail]
    split <;> rfl
  · split
    · unfold NgNeoAudio.trackAdpcmB
      dsimp only
      rw [refreshAdpcmB_mail]
      split <;> rfl
    · rfl

theorem ymWrite_mail (port data : BitVec 8) :
    (audio.ngAudioYmWrite chip port data).mail = audio.mail := by
  unfold NgNeoAudio.ngAudioYmWrite
  dsimp only
  split
  · rfl
  · exact trackYmDataWrite_mail _ _ _ _

theorem portRead_went (portAddr : BitVec 16) :
    AudioMail.Went [] (audio.portReadEvents chip portAddr) audio.mail
      (audio.ngAudioPortRead chip portAddr).2.mail := by
  unfold NgNeoAudio.portReadEvents
  by_cases h : portAddr &&& 0x000F = 0
  · have hread : audio.ngAudioPortRead chip portAddr = (audio.commandLatch,
        { audio with
          commandAckCount := audio.commandAckCount + 1
          commandReadCount := audio.commandReadCount + 1
          nmiPending := 0 }) := by
      unfold NgNeoAudio.ngAudioPortRead
      rw [h]
      rfl
    rw [if_pos h, hread]
    refine ⟨fun box hs => ⟨{ box with waiting := false }, ?_, hs.latch, ?_, hs.armed⟩, rfl, rfl,
      rfl, ?_, ?_⟩
    · rw [Mailbox.run_single]
      exact if_pos hs.latch
    · simp [AudioCore.mail]
    · exact (BitVec.add_zero _).symm
    · exact (BitVec.add_zero _).symm
  · rw [if_neg h]
    apply AudioMail.Went.nothing
    unfold NgNeoAudio.ngAudioPortRead
    dsimp only
    split
    case h_1 h0 => exact absurd (BitVec.eq_of_toNat_eq h0) h
    case h_2 | h_3 | h_4 | h_5 => exact ymRead_mail chip audio _
    all_goals rfl

theorem AudioMail.armed (mail : AudioMail) {on : Bool} {enabled : BitVec 8}
    (hon : enabled ≠ 0 ↔ on = true) :
    AudioMail.Went [] [.arm on] mail { mail with enabled := enabled } := by
  refine ⟨fun box hs => ⟨{ box with armed := on }, rfl, hs.latch, hs.waiting, hon⟩, rfl, ?_, ?_,
    ?_, ?_⟩
  all_goals exact (BitVec.add_zero _).symm

-- The byte goes, but a pending command stays pending.
theorem AudioMail.cleared (mail : AudioMail) :
    AudioMail.Went [] [.clear] mail
      { mail with latch := 0, acks := mail.acks + 1, clears := mail.clears + 1 } := by
  refine ⟨fun box hs => ⟨{ box with latch := 0 }, rfl, rfl, hs.waiting, hs.armed⟩, rfl, rfl, ?_,
    rfl, ?_⟩
  all_goals exact (BitVec.add_zero _).symm

theorem portWrite_went (portAddr : BitVec 16) (value : BitVec 8) :
    AudioMail.Went [] (NgNeoAudio.portWriteEvents portAddr) audio.mail
      (audio.ngAudioPortWrite chip portAddr value).mail := by
  unfold NgNeoAudio.ngAudioPortWrite
  split
  all_goals unfold NgNeoAudio.portWriteEvents
  -- the four ports that enable NMIs, and the one that disables them
  case h_1 h | h_2 h | h_3 h | h_4 h =>
    rw [if_pos (by rw [armsNmi, h]; rfl)]
    exact audio.mail.armed (by simp)
  case h_5 h =>
    rw [if_neg (by rw [armsNmi, h]; decide), if_pos (BitVec.eq_of_toNat_eq h)]
    exact audio.mail.armed (by simp)
  -- every other port: its low four bits decide
  case h_6 h8 h9 h10 h11 h24 =>
    have harm : ¬ armsNmi portAddr = true := by
      have h8' : (portAddr &&& 0x001F).toNat ≠ 8 := h8
      have h9' : (portAddr &&& 0x001F).toNat ≠ 9 := h9
      have h10' : (portAddr &&& 0x001F).toNat ≠ 10 := h10
      have h11' : (portAddr &&& 0x001F).toNat ≠ 11 := h11
      rw [armsNmi, Bool.and_eq_true, decide_eq_true_eq, decide_eq_true_eq]
      omega
    have hoff : ¬ portAddr &&& 0x001F = 0x18 := fun h => h24 (by rw [h]; rfl)
    rw [if_neg harm, if_neg hoff]
    by_cases h : portAddr &&& 0x000F = 0
    · rw [if_pos h, h]
      exact audio.mail.cleared
    · rw [if_neg h]
      apply AudioMail.Went.nothing
      split
      case h_1 h0 => exact absurd (BitVec.eq_of_toNat_eq h0) h
      case h_2 | h_3 | h_4 | h_5 => exact ymWrite_mail chip audio _ _
      all_goals rfl

end Ports

/-! ## Runs -/

section Stepping
variable {χ : Type} (chip : Ym2610Chip χ) (z80Step : Z80 → Z80Run)

theorem debugWrite_mail (audio : NgNeoAudio χ) (addr : BitVec 16) (value : BitVec 8) :
    (audio.ngAudioDebugWriteZ80 addr value).mail = audio.mail := by
  unfold NgNeoAudio.ngAudioDebugWriteZ80
  split <;> rfl

-- Along the callbacks of one instruction.
theorem runZ80_went (run : Z80Run) (audio : NgNeoAudio χ) :
    AudioMail.Went [] (NgNeoAudio.z80Events chip run audio) audio.mail
      (NgNeoAudio.runZ80 chip run audio).mail := by
  induction run generalizing audio with
  | done cpu => exact .nothing rfl
  | readByte cpu addr next ih => exact ih _ { audio with cpu := cpu }
  | writeByte cpu addr value next ih =>
    exact (ih _).behind (debugWrite_mail { audio with cpu := cpu } addr value)
  | portIn cpu addr next ih =>
    exact (portRead_went chip { audio with cpu := cpu } addr).trans (ih _ _)
  | portOut cpu addr value next ih =>
    exact (portWrite_went chip { audio with cpu := cpu } addr value).trans (ih _)

theorem raiseNmi_went (audio : NgNeoAudio χ) :
    AudioMail.Went [] audio.ringEvents audio.mail audio.raiseNmi.mail := by
  unfold NgNeoAudio.ringEvents NgNeoAudio.raiseNmi
  split
  case isTrue h =>
    refine ⟨fun box hs => ⟨{ box with waiting := false }, ?_, hs.latch, ?_, hs.armed⟩, rfl, ?_, ?_,
      ?_, rfl⟩
    · rw [Mailbox.run_single]
      exact if_pos ⟨hs.waiting.mp h.1, hs.armed.mp h.2.1⟩
    · simp [AudioCore.mail]
    all_goals exact (BitVec.add_zero _).symm
  case isFalse => exact .nothing rfl

theorem followIrq_mail (audio : NgNeoAudio χ) : audio.followIrq.mail = audio.mail := by
  unfold NgNeoAudio.followIrq
  split
  · split <;> rfl
  · rfl

theorem stepZ80_went (audio : NgNeoAudio χ) :
    AudioMail.Went [] (audio.stepEvents chip z80Step) audio.mail
      (audio.ngAudioStepZ80 chip z80Step).mail := by
  -- the NMI comes first; the interrupt line is no part of the mailbox
  have hready : AudioMail.Went [] audio.ringEvents audio.mail audio.raiseNmi.followIrq.mail := by
    rw [followIrq_mail]
    exact raiseNmi_went audio
  have hrun := hready.trans (runZ80_went chip (z80Step audio.raiseNmi.followIrq.cpu) _)
  unfold NgNeoAudio.ngAudioStepZ80
  dsimp only
  split <;> exact hrun

theorem advanceTurns_went (start : BitVec 64) (cycles : BitVec 32) (turns : Nat)
    (audio : NgNeoAudio χ) :
    AudioMail.Went [] (NgNeoAudio.turnEvents chip z80Step start cycles turns audio) audio.mail
      (audio.advanceTurns chip z80Step start cycles turns).mail := by
  induction turns generalizing audio with
  | zero => exact .nothing rfl
  | succ turns ih =>
    unfold NgNeoAudio.turnEvents NgNeoAudio.advanceTurns
    split
    · exact (stepZ80_went chip z80Step audio).trans (ih _)
    · exact .nothing rfl

theorem advanceBeyondCredit_went (audio : NgNeoAudio χ) (cycles : BitVec 32) :
    AudioMail.Went [] (audio.beyondCreditEvents chip z80Step cycles) audio.mail
      (audio.advanceBeyondCredit chip z80Step cycles).mail := by
  have hturns := advanceTurns_went chip z80Step audio.cpu.cyc cycles (cycles * 2 + 1024).toNat audio
  unfold NgNeoAudio.beyondCreditEvents NgNeoAudio.advanceBeyondCredit
  dsimp only
  -- before the object behind the loop is compared
  generalize audio.advanceTurns chip z80Step audio.cpu.cyc cycles (cycles * 2 + 1024).toNat = after
    at hturns ⊢
  split <;> exact hturns

theorem advanceZ80Cycles_went (audio : NgNeoAudio χ) (cycles : BitVec 32) :
    AudioMail.Went [] (audio.advanceEvents chip z80Step cycles) audio.mail
      (audio.ngNeogeoAudioAdvanceZ80Cycles chip z80Step cycles).mail := by
  unfold NgNeoAudio.advanceEvents NgNeoAudio.ngNeogeoAudioAdvanceZ80Cycles
  split
  · exact .nothing rfl
  · split
    · split
      · exact .nothing rfl
      · exact advanceBeyondCredit_went chip z80Step { audio with z80CycleCredit := 0 } _
    · exact advanceBeyondCredit_went chip z80Step audio cycles

theorem writeCommand_went (audio : NgNeoAudio χ) (command : BitVec 8) :
    AudioMail.Went [command] [.post command] audio.mail
      (audio.ngNeogeoAudioWriteCommand command).mail := by
  refine ⟨fun box hs => ⟨{ box with latch := command, waiting := true }, rfl, rfl, ?_, hs.armed⟩,
    rfl, ?_, ?_, ?_, ?_⟩
  · exact ⟨fun _ => rfl, fun _ => (by decide : (1 : BitVec 8) ≠ 0)⟩
  all_goals exact (BitVec.add_zero _).symm

theorem AudioOp.went (op : AudioOp) (audio : NgNeoAudio χ) :
    AudioMail.Went op.commands (op.events chip z80Step audio) audio.mail
      (op.step chip z80Step audio).2.mail := by
  cases op with
  | writeCommand command => exact writeCommand_went audio command
  | portRead portAddr => exact portRead_went chip audio portAddr
  | portWrite portAddr value => exact portWrite_went chip audio portAddr value
  | readZ80 addr => exact .nothing rfl
  | writeZ80 addr value => exact .nothing (debugWrite_mail audio addr value)
  | advanceZ80Cycles cycles => exact advanceZ80Cycles_went chip z80Step audio cycles

theorem runOps_went (ops : List AudioOp) (audio : NgNeoAudio χ) :
    AudioMail.Went (ops.flatMap AudioOp.commands) (audio.runEvents chip z80Step ops) audio.mail
      (audio.runOps chip z80Step ops).2.mail := by
  induction ops generalizing audio with
  | nil => exact .nothing rfl
  | cons op ops ih =>
    rw [List.flatMap_cons]
    exact (op.went chip z80Step audio).trans (ih _)

/-- From a reset on, whatever the sound program does: the events are those of a mailbox that the
fields show, the host's commands are what is posted, and the counters are the events' counts.  An
NMI takes a command of its own, and a read sees the last command or the `0` of a clear behind it. -/
theorem NgNeoAudio.runOps_mailbox (audio : NgNeoAudio χ) (ops : List AudioOp) :
    let start := audio.ngNeogeoAudioReset chip
    let events := start.runEvents chip z80Step ops
    let final := (start.runOps chip z80Step ops).2
    (∃ box : Mailbox (BitVec 8), Mailbox.run 0 ⟨0, false, false⟩ events = some box ∧
      final.mail.Shows box ∧
      rings events + box.waitingCount ≤ (ops.flatMap AudioOp.commands).length) ∧
    posts events = ops.flatMap AudioOp.commands ∧
    final.commandReadCount = BitVec.ofNat 32 (takes events) ∧
    final.commandClearCount = BitVec.ofNat 32 (clears events) ∧
    final.commandAckCount = BitVec.ofNat 32 (takes events + clears events) ∧
    final.nmiServiceCount = BitVec.ofNat 32 (rings events) ∧
    (∀ before between later, events = before ++ .ring :: (between ++ .ring :: later) →
      posts between ≠ []) ∧
    ∀ before seen later, events = before ++ .take seen :: later → seen = lastWord 0 0 before := by
  intro start events final
  have hwent : AudioMail.Went _ events start.mail final.mail := runOps_went chip z80Step ops start
  have hshows : start.mail.Shows ⟨0, false, false⟩ := by
    refine ⟨rfl, ?_, ?_⟩
    all_goals exact ⟨fun h => absurd rfl h, fun h => Bool.noConfusion h⟩
  obtain ⟨box, hrun, hbox⟩ := hwent.box _ hshows
  have hrings := Mailbox.rings_le_posts hrun
  -- the mailbox of a reset has nothing waiting
  rw [hwent.commands] at hrings
  refine ⟨⟨box, hrun, hbox, hrings⟩, hwent.commands, hwent.reads.trans (BitVec.zero_add _),
    hwent.clears.trans (BitVec.zero_add _), hwent.acks.trans (BitVec.zero_add _),
    hwent.services.trans (BitVec.zero_add _), ?_, ?_⟩
  · intro before between later heq
    rw [heq] at hrun
    exact Mailbox.post_between_rings hrun
  · intro before seen later heq
    rw [heq] at hrun
    exact Mailbox.take_sees hrun

end Stepping

end NeoRecomp
