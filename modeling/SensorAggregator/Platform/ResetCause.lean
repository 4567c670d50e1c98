import Mathlib.Data.List.Find
import Mathlib.Data.List.ReduceOption
import SensorAggregator.Base.Machine
import SensorAggregator.Base.Word
import SensorAggregator.Drivers.Slcr

/-!
# The reset cause

Models `reset_cause_capture` of `system/reset_cause.c`. The hardware sets reason bits at a reset and
clears none, so that what a capture answers depends on what the captures before it have cleared.
-/

namespace SensorAggregator.Platform

open Base Base.Word Drivers
open Drivers.Slcr (rebootStatusOffset PadModify)

/-- `reset_cause_t`, `reset_cause.h:15–24`. -/
inductive ResetCause where
  | unknown
  | powerOn
  | swdt
  | cpuWdt
  | psSrst
  | debug
  | software
  deriving DecidableEq, Repr

/-- `reset_cause_name`, `reset_cause.c:71–83`. -/
def ResetCause.name : ResetCause → List Char
  | .powerOn => "power-on".toList
  | .swdt => "WATCHDOG (SWDT)".toList
  | .cpuWdt => "CPU private watchdog".toList
  | .psSrst => "PS reset button".toList
  | .debug => "debugger".toList
  | .software => "software (SLCR)".toList
  | .unknown => "unknown".toList

/-- `REBOOT_SWDT_RST`, `reset_cause.c:11`. -/
def rebootSwdtRst : UInt32 := (1 : UInt32) <<< 16

/-- `REBOOT_AWDT0_RST`, `reset_cause.c:12`. -/
def rebootAwdt0Rst : UInt32 := (1 : UInt32) <<< 17

/-- `REBOOT_AWDT1_RST`, `reset_cause.c:13`. -/
def rebootAwdt1Rst : UInt32 := (1 : UInt32) <<< 18

/-- `REBOOT_SLC_RST`, `reset_cause.c:14`. -/
def rebootSlcRst : UInt32 := (1 : UInt32) <<< 19

/-- `REBOOT_DBG_RST`, `reset_cause.c:15`. -/
def rebootDbgRst : UInt32 := (1 : UInt32) <<< 20

/-- `REBOOT_SRST_B`, `reset_cause.c:16`. -/
def rebootSrstB : UInt32 := (1 : UInt32) <<< 21

/-- `REBOOT_POR`, `reset_cause.c:17`. -/
def rebootPor : UInt32 := (1 : UInt32) <<< 22

/-- `REBOOT_REASON_MASK`, `reset_cause.c:18`. -/
def rebootReasonMask : UInt32 := 0x007F0000

/-- What `s_cause` is assigned, `reset_cause.c:27–54`. -/
def causeOf (status : UInt32) : ResetCause :=
  if status &&& rebootSwdtRst ≠ 0 then .swdt
  else if status &&& (rebootAwdt0Rst ||| rebootAwdt1Rst) ≠ 0 then .cpuWdt
  else if status &&& rebootPor ≠ 0 then .powerOn
  else if status &&& rebootSrstB ≠ 0 then .psSrst
  else if status &&& rebootDbgRst ≠ 0 then .debug
  else if status &&& rebootSlcRst ≠ 0 then .software
  else .unknown

/-- The registers and `s_cause`, `reset_cause.c:20`. -/
structure Ps where
  slcr : Slcr
  cause : ResetCause

namespace Ps

/-- `REBOOT_STATUS`. -/
def status (ps : Ps) : UInt32 := ps.slcr.regs rebootStatusOffset

/-- `reset_cause_capture`, `reset_cause.c:22–64`. -/
def resetCauseCapture (ps : Ps) : Ps × ResetCause :=
  let status := ps.slcr.read rebootStatusOffset
  let cause := causeOf status
  let slcr := ps.slcr.modify rebootStatusOffset rebootReasonMask 0
  (⟨slcr, cause⟩, cause)

/-- `reset_cause_get`, `reset_cause.c:66–69`. -/
def resetCauseGet (ps : Ps) : ResetCause := ps.cause

end Ps

/-- The reasons of one reset: some of the bits 22:16 of `REBOOT_STATUS`. -/
structure Reasons where
  bits : UInt32
  bits_ne_zero : bits ≠ 0
  within : ∀ i < 32, bit bits i = true → 16 ≤ i ∧ i ≤ 22

/-- What happens to the registers: a reset of the hardware, the start-up code that initialises the
statics, and the calls of the firmware. -/
inductive Event where
  | reset (reasons : Reasons)
  | start
  | capture
  | modify (call : PadModify)

/-- What an event does, and what a capture answers. A reset adds its reasons whether the registers
are locked or not. -/
def exec (ps : Ps) : Event → Ps × Option ResetCause
  | .reset reasons =>
    ({ ps with slcr := ps.slcr.set rebootStatusOffset (ps.status ||| reasons.bits) }, none)
  | .start => ({ ps with cause := .unknown }, none)
  | .capture =>
    let after := ps.resetCauseCapture
    (after.1, some after.2)
  | .modify call => ({ ps with slcr := call.run ps.slcr }, none)

/-- One run of the firmware, with calls for pads before and after the capture. -/
structure Boot where
  before : List PadModify
  after : List PadModify

/-- What happens in a boot. -/
def Boot.events (boot : Boot) : List Event :=
  .start :: boot.before.map .modify ++ .capture :: boot.after.map .modify

/-- A reset and the boots until the next one. -/
structure Cycle where
  reasons : Reasons
  first : Boot
  further : List Boot

/-- What happens in a cycle. -/
def Cycle.events (cycle : Cycle) : List Event :=
  .reset cycle.reasons :: (cycle.first :: cycle.further).flatMap Boot.events

/-- The bits that stand for a cause. -/
def ResetCause.reasonBits : ResetCause → List ℕ
  | unknown => []
  | powerOn => [22]
  | swdt => [16]
  | cpuWdt => [17, 18]
  | psSrst => [21]
  | debug => [20]
  | software => [19]

/-- The causes that have bits, the one to report first in front. -/
def ResetCause.byPriority : List ResetCause := [swdt, cpuWdt, powerOn, psSrst, debug, software]

/-- The first cause in the order of priority that one of the bits stands for. -/
def highest (bits : UInt32) : ResetCause :=
  (ResetCause.byPriority.find? fun cause ↦ cause.reasonBits.any (bit bits)).getD .unknown

/-- The causes captured, without the registers: the reasons since the last capture are pending, and
a capture answers for all of them. -/
def pendingExec (pending : UInt32) : Event → UInt32 × Option ResetCause
  | .reset reasons => (pending ||| reasons.bits, none)
  | .start => (pending, none)
  | .capture => (0, some (highest pending))
  | .modify _ => (pending, none)

private theorem bit_rebootReasonMask {i : ℕ} : bit rebootReasonMask i = true ↔ 16 ≤ i ∧ i ≤ 22 := by
  have hword : ∀ i < 32, bit rebootReasonMask i = true ↔ 16 ≤ i ∧ i ≤ 22 := by decide
  constructor
  · exact fun h ↦ (hword i (lt_of_bit h)).mp h
  · exact fun h ↦ (hword i (by omega)).mpr h

private theorem Reasons.and_complement (reasons : Reasons) :
    reasons.bits &&& ~~~rebootReasonMask = 0 :=
  and_complement_eq_zero_iff.mpr fun i hi ↦
    bit_rebootReasonMask.mpr (reasons.within i (lt_of_bit hi) hi)

private theorem and_rebootReasonMask_eq_zero {status : UInt32}
    (h : ∀ i, 16 ≤ i → i ≤ 22 → bit status i = false) : status &&& rebootReasonMask = 0 := by
  by_contra hne
  obtain ⟨i, hmask, hstatus⟩ := and_ne_zero_iff.mp hne
  obtain ⟨hlow, hhigh⟩ := bit_rebootReasonMask.mp hmask
  rw [h i hlow hhigh] at hstatus
  cases hstatus

private theorem getD_find?_cons {α : Type*} (p : α → Bool) (a default : α) (rest : List α) :
    ((a :: rest).find? p).getD default = if p a then a else (rest.find? p).getD default := by
  rw [List.find?_cons]
  cases p a with
  | true => rfl
  | false => rfl

/-- The tests of the code are made in the order of priority. -/
theorem causeOf_eq_highest (status : UInt32) : causeOf status = highest status := by
  have hswdt := and_ne_zero_iff_any status rebootSwdtRst [16] (by decide)
  have hcpuWdt := and_ne_zero_iff_any status (rebootAwdt0Rst ||| rebootAwdt1Rst) [17, 18]
    (by decide)
  have hpor := and_ne_zero_iff_any status rebootPor [22] (by decide)
  have hsrst := and_ne_zero_iff_any status rebootSrstB [21] (by decide)
  have hdebug := and_ne_zero_iff_any status rebootDbgRst [20] (by decide)
  have hslc := and_ne_zero_iff_any status rebootSlcRst [19] (by decide)
  simp only [causeOf, hswdt, hcpuWdt, hpor, hsrst, hdebug, hslc, highest, ResetCause.byPriority,
    getD_find?_cons, ResetCause.reasonBits]
  rfl

private theorem highest_and_mask (status : UInt32) :
    highest (status &&& rebootReasonMask) = highest status := by
  have hmask : ∀ cause ∈ ResetCause.byPriority, ∀ i ∈ cause.reasonBits,
      bit rebootReasonMask i = true := by
    decide
  rw [highest, highest]
  congr 1
  apply List.find?_congr
  intro cause hcause
  apply Bool.eq_iff_iff.mpr
  rw [List.any_eq_true, List.any_eq_true]
  apply exists_congr
  intro i
  apply and_congr_right
  intro hi
  rw [bit_and, hmask cause hcause i hi, Bool.and_true]

private theorem highest_zero : highest 0 = .unknown := by decide

/-- Every reset has a cause. -/
theorem highest_ne_unknown (reasons : Reasons) : highest reasons.bits ≠ .unknown := by
  have hcovered : ∀ i < 32, bit rebootReasonMask i = true →
      ∃ cause ∈ ResetCause.byPriority, i ∈ cause.reasonBits := by
    decide
  have hknown : .unknown ∉ ResetCause.byPriority := by decide
  obtain ⟨i, hi⟩ := ne_zero_iff.mp reasons.bits_ne_zero
  have hmask := and_complement_eq_zero_iff.mp reasons.and_complement i hi
  obtain ⟨cause, hcause, hbit⟩ := hcovered i (lt_of_bit hi) hmask
  have hfound : (ResetCause.byPriority.find? fun cause ↦
      cause.reasonBits.any (bit reasons.bits)).isSome = true :=
    List.find?_isSome.mpr ⟨cause, hcause, List.any_eq_true.mpr ⟨i, hbit, hi⟩⟩
  obtain ⟨first, hfirst⟩ := Option.isSome_iff_exists.mp hfound
  rw [highest, hfirst, Option.getD_some]
  rintro rfl
  exact hknown (List.mem_of_find?_eq_some hfirst)

private theorem ordinary_rebootStatus : Slcr.Ordinary rebootStatusOffset := by decide

/-- A capture answers for the bits it finds and clears them, whatever the lock. -/
theorem resetCauseCapture_eq (ps : Ps) :
    ps.resetCauseCapture =
      (⟨ps.slcr.set rebootStatusOffset (ps.status &&& ~~~rebootReasonMask), highest ps.status⟩,
        highest ps.status) := by
  rw [Ps.resetCauseCapture, Slcr.modify_eq _ ordinary_rebootStatus,
    Slcr.read_of_ordinary _ ordinary_rebootStatus, causeOf_eq_highest, UInt32.or_zero]
  rfl

/-- What becomes of `REBOOT_STATUS`. -/
def Event.onStatus (value : UInt32) : Event → UInt32
  | reset reasons => value ||| reasons.bits
  | start => value
  | capture => value &&& ~~~rebootReasonMask
  | modify _ => value

/-- What becomes of another register. -/
def Event.onRegister (register value : UInt32) : Event → UInt32
  | modify call => if call.offset = register then call.word value else value
  | _ => value

private theorem status_exec (ps : Ps) (e : Event) :
    (exec ps e).1.status = e.onStatus ps.status := by
  cases e with
  | reset reasons => exact ps.slcr.regs_set_self ..
  | start => rfl
  | capture =>
    show ps.resetCauseCapture.1.status = _
    rw [resetCauseCapture_eq]
    exact ps.slcr.regs_set_self ..
  | modify call =>
    have hne : rebootStatusOffset ≠ call.offset := (call.offset_ne (by decide)).symm
    show (call.run ps.slcr).regs rebootStatusOffset = _
    rw [call.run_eq]
    exact ps.slcr.regs_set_of_ne hne _

private theorem regs_exec (ps : Ps) (e : Event) {register : UInt32}
    (h : register ≠ rebootStatusOffset) :
    (exec ps e).1.slcr.regs register = e.onRegister register (ps.slcr.regs register) := by
  cases e with
  | reset reasons => exact ps.slcr.regs_set_of_ne h _
  | start => rfl
  | capture =>
    show ps.resetCauseCapture.1.slcr.regs register = _
    rw [resetCauseCapture_eq]
    exact ps.slcr.regs_set_of_ne h _
  | modify call =>
    show (call.run ps.slcr).regs register = _
    rw [call.run_eq, Event.onRegister]
    split
    · next heq => rw [← heq, Slcr.regs_set_self]
    · next hne => exact ps.slcr.regs_set_of_ne (Ne.symm hne) _

private theorem locked_exec (ps : Ps) (e : Event) : (exec ps e).1.slcr.locked = ps.slcr.locked := by
  cases e with
  | reset reasons => exact ps.slcr.locked_set ..
  | start => rfl
  | capture =>
    show ps.resetCauseCapture.1.slcr.locked = _
    rw [resetCauseCapture_eq, Slcr.locked_set]
  | modify call =>
    show (call.run ps.slcr).locked = _
    rw [call.run_eq, Slcr.locked_set]

private theorem status_exec_and_complement (ps : Ps) (e : Event) :
    (exec ps e).1.status &&& ~~~rebootReasonMask = ps.status &&& ~~~rebootReasonMask := by
  rw [status_exec]
  cases e with
  | reset reasons => exact or_and_complement_of_within reasons.and_complement
  | start => rfl
  | capture => exact and_complement_and_complement _ _
  | modify call => rfl

/-- No event changes a bit of `REBOOT_STATUS` outside 22:16. -/
theorem bit_status_exec (ps : Ps) (e : Event) {i : ℕ} (hi : ¬(16 ≤ i ∧ i ≤ 22)) :
    bit (exec ps e).1.status i = bit ps.status i := by
  have hmask : bit rebootReasonMask i = false := by
    rw [← Bool.not_eq_true, bit_rebootReasonMask]
    exact hi
  have hbit := congrArg (bit · i) (status_exec_and_complement ps e)
  by_cases hword : i < 32
  · simpa [hmask, hword] using hbit
  · rw [Bool.eq_iff_iff]
    exact ⟨fun h ↦ absurd (lt_of_bit h) hword, fun h ↦ absurd (lt_of_bit h) hword⟩

/-- The reason bits of the register are those pending, and the code answers accordingly. -/
theorem exec_refines (ps : Ps) (pending : UInt32) (e : Event)
    (h : ps.status &&& rebootReasonMask = pending) :
    (exec ps e).1.status &&& rebootReasonMask = (pendingExec pending e).1 ∧
      (exec ps e).2 = (pendingExec pending e).2 := by
  subst h
  rw [status_exec]
  cases e with
  | reset reasons => exact ⟨or_and_of_within reasons.and_complement, rfl⟩
  | start => exact ⟨rfl, rfl⟩
  | capture =>
    refine ⟨and_complement_and_self _ _, ?_⟩
    show some ps.resetCauseCapture.2 = some (highest _)
    rw [resetCauseCapture_eq, highest_and_mask]
  | modify call => exact ⟨rfl, rfl⟩

/-- What the captures among some events answer, in order. -/
def answers (ps : Ps) (events : List Event) : List ResetCause :=
  (Machine.trace exec ps events).2.reduceOption

/-- What they answer for pending reasons. -/
def pendingAnswers (pending : UInt32) (events : List Event) : List ResetCause :=
  (Machine.trace pendingExec pending events).2.reduceOption

private theorem answers_eq {ps : Ps} {pending : UInt32}
    (h : ps.status &&& rebootReasonMask = pending)
    (events : List Event) : answers ps events = pendingAnswers pending events := by
  have hsame := Machine.trace_simulation
    (R := fun (ps : Ps) pending ↦ ps.status &&& rebootReasonMask = pending) exec_refines h events
  rw [answers, pendingAnswers, hsame.2]

/-- From some pending reasons events give answers, and leave reasons pending. -/
structure Leads (pending : UInt32) (events : List Event) (given : List ResetCause)
    (left : UInt32) : Prop where
  pending_eq : (Machine.trace pendingExec pending events).1 = left
  answers_eq : pendingAnswers pending events = given

/-- Answers are given one part of the events after the other. -/
theorem Leads.append {pending between left : UInt32} {events events' : List Event}
    {first second : List ResetCause} (h : Leads pending events first between)
    (h' : Leads between events' second left) :
    Leads pending (events ++ events') (first ++ second) left := by
  obtain ⟨rfl, rfl⟩ := h
  obtain ⟨rfl, rfl⟩ := h'
  constructor
  · rw [Machine.trace_append]
  · rw [pendingAnswers, Machine.trace_append, List.reduceOption_append]
    rfl

private theorem leads_modify (pending : UInt32) (calls : List PadModify) :
    Leads pending (calls.map .modify) [] pending := by
  induction calls with
  | nil => exact ⟨rfl, rfl⟩
  | cons call calls ih => exact ⟨ih.pending_eq, ih.answers_eq⟩

/-- A boot answers once, for all that is pending, and leaves nothing. -/
theorem leads_boot (pending : UInt32) (boot : Boot) :
    Leads pending boot.events [highest pending] 0 := by
  have hbefore := leads_modify pending boot.before
  have hafter := leads_modify 0 boot.after
  have hstart : Leads pending (.start :: boot.before.map .modify) [] pending :=
    ⟨hbefore.pending_eq, hbefore.answers_eq⟩
  have hcapture : Leads pending (.capture :: boot.after.map .modify) [highest pending] 0 :=
    ⟨hafter.pending_eq, congrArg (highest pending :: ·) hafter.answers_eq⟩
  exact hstart.append hcapture

private theorem leads_boots (boots : List Boot) :
    Leads 0 (boots.flatMap Boot.events) (List.replicate boots.length .unknown) 0 := by
  induction boots with
  | nil => exact ⟨rfl, rfl⟩
  | cons boot boots ih =>
    have hboot := leads_boot 0 boot
    rw [highest_zero] at hboot
    exact hboot.append ih

/-- What the boots after a reset are to answer: the first one for this reset, the others that they
know of none. -/
def Cycle.answers (cycle : Cycle) : List ResetCause :=
  highest cycle.reasons.bits :: List.replicate cycle.further.length .unknown

/-- The boots after a reset answer for it and leave nothing. -/
theorem leads_cycle (cycle : Cycle) : Leads 0 cycle.events cycle.answers 0 := by
  have hboots := (leads_boot cycle.reasons.bits cycle.first).append (leads_boots cycle.further)
  have hreset : (0 : UInt32) ||| cycle.reasons.bits = cycle.reasons.bits := UInt32.zero_or
  constructor
  · show (Machine.trace pendingExec (0 ||| cycle.reasons.bits) _).1 = 0
    rw [hreset]
    exact hboots.pending_eq
  · show pendingAnswers (0 ||| cycle.reasons.bits) _ = _
    rw [hreset]
    exact hboots.answers_eq

/-- No reset is reported by the boots after another one. -/
theorem leads_cycles (cycles : List Cycle) :
    Leads 0 (cycles.flatMap Cycle.events) (cycles.flatMap Cycle.answers) 0 := by
  induction cycles with
  | nil => exact ⟨rfl, rfl⟩
  | cons cycle cycles ih => exact (leads_cycle cycle).append ih

/-- The calls for the pad of a register, in order. -/
def padCalls (register : UInt32) (events : List Event) : List PadModify :=
  events.filterMap fun
    | .modify call => if call.offset = register then some call else none
    | _ => none

/-- A register but `REBOOT_STATUS` is what the calls for it have made of it. -/
theorem regs_trace (ps : Ps) {register : UInt32} (h : register ≠ rebootStatusOffset)
    (events : List Event) :
    (Machine.trace exec ps events).1.slcr.regs register =
      (padCalls register events).foldl (fun value call ↦ call.word value)
        (ps.slcr.regs register) := by
  induction events generalizing ps with
  | nil => rfl
  | cons e events ih =>
    have hstep := regs_exec ps e h
    show (Machine.trace exec (exec ps e).1 events).1.slcr.regs register = _
    rw [ih, hstep]
    cases e with
    | reset reasons => rfl
    | start => rfl
    | capture => rfl
    | modify call =>
      rw [Event.onRegister, padCalls, padCalls, List.filterMap_cons]
      split
      · next heq => simp only [if_pos heq, List.foldl_cons]
      · next hne => simp only [if_neg hne]

private theorem trace_modify (ps : Ps) (calls : List PadModify) :
    (Machine.trace exec ps (calls.map .modify)).1.status = ps.status ∧
      (Machine.trace exec ps (calls.map .modify)).1.cause = ps.cause := by
  induction calls generalizing ps with
  | nil => exact ⟨rfl, rfl⟩
  | cons call calls ih =>
    have hstep := ih (exec ps (.modify call)).1
    rw [status_exec] at hstep
    exact hstep

/-- `reset_cause_get` answers for the rest of a boot what its capture answered. -/
theorem resetCauseGet_boot (ps : Ps) (boot : Boot) :
    (Machine.trace exec ps boot.events).1.resetCauseGet = highest ps.status := by
  let booted := (Machine.trace exec ps (.start :: boot.before.map .modify)).1
  have hbooted : booted.status = ps.status := (trace_modify _ boot.before).1
  have hcause := (trace_modify booted.resetCauseCapture.1 boot.after).2
  rw [Boot.events, Machine.trace_append, ← hbooted]
  refine hcause.trans ?_
  rw [resetCauseCapture_eq]

/-- A reset is reported once, by the first boot after it, and by its cause of the highest priority,
which is never the unknown one. This holds whatever state the lock is found in. A boot that has
captured keeps its answer for `reset_cause_get`. No capture changes a bit of `REBOOT_STATUS` outside
22:16, no other register changes but by the calls for it, such as those of `gpio_mio_set_pullup`,
and every call leaves the lock as it was. -/
theorem capture_once (ps : Ps) (h : ∀ i, 16 ≤ i → i ≤ 22 → bit ps.status i = false) :
    (∀ cycles : List Cycle,
      answers ps (cycles.flatMap Cycle.events) = cycles.flatMap Cycle.answers) ∧
    (∀ reasons : Reasons, highest reasons.bits ≠ .unknown) ∧
    ∀ events : List Event,
      let now := (Machine.trace exec ps events).1
      (∀ e, (exec now e).1.slcr.locked = now.slcr.locked) ∧
        (∀ boot : Boot,
          (Machine.trace exec now boot.events).1.resetCauseGet = highest now.status) ∧
        (∀ i, ¬(16 ≤ i ∧ i ≤ 22) →
          bit (exec now .capture).1.status i = bit now.status i) ∧
        (∀ (pin : UInt32) (enable : Bool) (h : pin < 54),
          now.slcr.gpioMioSetPullup pin enable =
            (exec now (.modify (.pullup pin enable h))).1.slcr) ∧
        ∀ register ≠ rebootStatusOffset, now.slcr.regs register =
          (padCalls register events).foldl (fun value call ↦ call.word value)
            (ps.slcr.regs register) := by
  refine ⟨?_, highest_ne_unknown, ?_⟩
  · intro cycles
    rw [answers_eq (and_rebootReasonMask_eq_zero h)]
    exact (leads_cycles cycles).answers_eq
  · intro events now
    exact ⟨locked_exec now, resetCauseGet_boot now, fun i hi ↦ bit_status_exec now .capture hi,
      fun _ enable h ↦ Slcr.PadModify.gpioMioSetPullup_eq now.slcr enable h,
      fun register hregister ↦ regs_trace ps hregister events⟩

/-- A boot that takes the pull-up off the pad of BTN4. -/
def pullupBoot : Boot := ⟨[], [.pullup 50 false (by decide)]⟩

/-- The watchdog expires while the power comes up, and after two boots the button is pressed. -/
def twoResets : List Cycle :=
  [⟨⟨0x00410000, by decide, by decide⟩, pullupBoot, [pullupBoot]⟩,
    ⟨⟨0x00200000, by decide, by decide⟩, pullupBoot, []⟩]

/-- Only the first boot after the watchdog's reset reports it. -/
theorem capture_once_two_resets :
    answers ⟨⟨fun _ ↦ 0x8000160D, true⟩, .unknown⟩ (twoResets.flatMap Cycle.events) =
      [.swdt, .unknown, .psSrst] := by
  rw [(capture_once ⟨⟨fun _ ↦ 0x8000160D, true⟩, .unknown⟩ (by decide)).1]
  decide

end SensorAggregator.Platform
