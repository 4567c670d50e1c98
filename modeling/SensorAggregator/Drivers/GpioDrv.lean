import Mathlib.Data.List.ReduceOption
import Mathlib.Logic.Function.Basic
import SensorAggregator.Base.Debounce

/-!
# The button driver

Models the buttons of `drivers/gpio_drv.c` and `drivers/gpio_drv.h`. What the Xilinx driver answers
is an argument, the level of each MIO pin at a scan among it; the set-up of the pads is left out.
The LED is in `GpioLed`. `GPIO_DRV_DEBOUNCE_SCANS` is an argument.
-/

namespace SensorAggregator.Drivers

open Base.Debounce

/-- `gpio_drv_status_t`, `gpio_drv.h:30–35`. -/
inductive GpioDrvStatus where
  | ok
  | errLookup
  | errInit
  deriving DecidableEq, Repr

/-- `gpio_btn_id_t`, `gpio_drv.h:37–42`, without the count. -/
inductive GpioBtnId where
  | btn4
  | btn5
  deriving DecidableEq, Repr

/-- The buttons in the order of their numbers, `0U .. GPIO_BTN_COUNT - 1`. -/
def GpioBtnId.all : List GpioBtnId := [btn4, btn5]

/-- `gpio_btn_hw_t`, `gpio_drv.c:16–20`. -/
structure GpioBtnHw where
  mioPin : UInt32
  activeHigh : Bool

/-- `gpio_btn_state_t`, `gpio_drv.c:22–27`. -/
structure GpioBtnState where
  isDown : Bool
  mismatchScans : UInt8
  pressLatched : Bool
  deriving DecidableEq, Repr

/-- `GPIO_DRV_DEBOUNCE_SCANS`, `gpio_drv.h:28`. -/
def gpioDrvDebounceScans : UInt32 := 3

/-- `s_btn_hw`, `gpio_drv.c:33–37`, with the values of `board_zybo.h:80–82`. -/
def sBtnHw : GpioBtnId → GpioBtnHw
  | .btn4 => ⟨50, true⟩
  | .btn5 => ⟨51, true⟩

/-- `gpio_btn_read_raw`, `gpio_drv.c:44–49`, with what `XGpioPs_ReadPin` answers for each pin. -/
def gpioBtnReadRaw (readPin : UInt32 → UInt32) (btn : GpioBtnId) : Bool :=
  let pinLevel := readPin (sBtnHw btn).mioPin
  if (sBtnHw btn).activeHigh then pinLevel != 0 else pinLevel == 0

/-- What `XGpioPs_LookupConfig` and `XGpioPs_CfgInitialize` answer. -/
structure GpioSetup where
  configFound : Bool
  initialised : Bool

namespace GpioBtnState

/-- What `gpio_drv_init` seeds a button with, `gpio_drv.c:96–98`. -/
def seed (rawDown : Bool) : GpioBtnState := ⟨rawDown, 0, false⟩

/-- The body of the loop of `gpio_drv_btn_scan`, `gpio_drv.c:131–151`. -/
def scan (debounceScans : UInt32) (state : GpioBtnState) (rawDown : Bool) : GpioBtnState :=
  if rawDown = state.isDown then { state with mismatchScans := 0 }
  else
    let state := { state with mismatchScans := state.mismatchScans + 1 }
    if debounceScans ≤ state.mismatchScans.toUInt32 then
      { isDown := rawDown
        mismatchScans := 0
        pressLatched := if rawDown then true else state.pressLatched }
    else state

end GpioBtnState

/-- `s_gpio_ready` and `s_btn_state`, `gpio_drv.c:40–42`. -/
structure GpioDrv where
  ready : Bool
  btnState : GpioBtnId → GpioBtnState

/-- A call from `ui_task`. -/
inductive GpioCall where
  | scan (readPin : UInt32 → UInt32)
  | takePress (btn : GpioBtnId)

namespace GpioDrv

/-- Before `gpio_drv_init`. -/
def boot : GpioDrv := ⟨false, fun _ ↦ .seed false⟩

/-- A loop over the buttons. -/
def forEachBtn (body : GpioBtnId → GpioBtnState → GpioBtnState)
    (btnState : GpioBtnId → GpioBtnState) : GpioBtnId → GpioBtnState :=
  GpioBtnId.all.foldl (fun btnState btn ↦ Function.update btnState btn (body btn (btnState btn)))
    btnState

/-- `gpio_drv_init`, `gpio_drv.c:57–102`. -/
def init (gpio : GpioDrv) (setup : GpioSetup) (readPin : UInt32 → UInt32) :
    GpioDrv × GpioDrvStatus :=
  let gpio := { gpio with ready := false }
  if !setup.configFound then (gpio, .errLookup)
  else if !setup.initialised then (gpio, .errInit)
  else
    ({ ready := true
       btnState := forEachBtn (fun btn _ ↦ .seed (gpioBtnReadRaw readPin btn)) gpio.btnState }, .ok)

/-- `gpio_drv_btn_scan`, `gpio_drv.c:120–153`. -/
def btnScan (debounceScans : UInt32) (gpio : GpioDrv) (readPin : UInt32 → UInt32) : GpioDrv :=
  if !gpio.ready then gpio
  else
    { gpio with
      btnState := forEachBtn
        (fun btn state ↦ state.scan debounceScans (gpioBtnReadRaw readPin btn)) gpio.btnState }

/-- `gpio_drv_btn_is_down`, `gpio_drv.c:155–163`. -/
def btnIsDown (gpio : GpioDrv) (btn : GpioBtnId) : Bool := (gpio.btnState btn).isDown

/-- `gpio_drv_btn_take_press`, `gpio_drv.c:165–183`. -/
def btnTakePress (gpio : GpioDrv) (btn : GpioBtnId) : GpioDrv × Bool :=
  ({ gpio with
      btnState := Function.update gpio.btnState btn
        { gpio.btnState btn with pressLatched := false } },
    (gpio.btnState btn).pressLatched)

/-- What a call leaves behind. -/
def call (debounceScans : UInt32) (gpio : GpioDrv) : GpioCall → GpioDrv
  | .scan readPin => gpio.btnScan debounceScans readPin
  | .takePress btn => (gpio.btnTakePress btn).1

/-- Calls one after the other. -/
def after (debounceScans : UInt32) (gpio : GpioDrv) (calls : List GpioCall) : GpioDrv :=
  calls.foldl (call debounceScans) gpio

private theorem forEachBtn_apply (body : GpioBtnId → GpioBtnState → GpioBtnState)
    (btnState : GpioBtnId → GpioBtnState) (btn : GpioBtnId) :
    forEachBtn body btnState btn = body btn (btnState btn) := by
  cases btn <;> rfl

/-- A scan reads each button alone. -/
theorem btnState_scan {gpio : GpioDrv} (hready : gpio.ready = true) (debounceScans : UInt32)
    (readPin : UInt32 → UInt32) (btn : GpioBtnId) :
    (gpio.btnScan debounceScans readPin).btnState btn =
      (gpio.btnState btn).scan debounceScans (gpioBtnReadRaw readPin btn) := by
  simp only [btnScan, hready, Bool.not_true, Bool.false_eq_true, if_false, forEachBtn_apply]

/-- A take clears the latch of its button. -/
theorem btnState_take_self (gpio : GpioDrv) (btn : GpioBtnId) :
    (gpio.btnTakePress btn).1.btnState btn = { gpio.btnState btn with pressLatched := false } :=
  Function.update_self btn _ _

/-- A take leaves the other button as it is. -/
theorem btnState_take_of_ne (gpio : GpioDrv) {btn taken : GpioBtnId} (hne : btn ≠ taken) :
    (gpio.btnTakePress taken).1.btnState btn = gpio.btnState btn :=
  Function.update_of_ne hne _ _

end GpioDrv

/-- What a call is to one button: a reading, or a take, or nothing. -/
def GpioCall.view (btn : GpioBtnId) : GpioCall → Option (Option Bool)
  | .scan readPin => some (some (gpioBtnReadRaw readPin btn))
  | .takePress taken => if taken = btn then some none else none

/-- The calls as one button sees them. -/
def btnView (btn : GpioBtnId) (calls : List GpioCall) : List (Option Bool) :=
  calls.filterMap (GpioCall.view btn)

/-- The raw readings of one button. -/
def btnReadings (btn : GpioBtnId) (calls : List GpioCall) : List Bool :=
  (btnView btn calls).reduceOption

/-- What a button does with what it sees. -/
def GpioBtnState.seen (debounceScans : UInt32) (state : GpioBtnState) :
    Option Bool → GpioBtnState
  | some rawDown => state.scan debounceScans rawDown
  | none => { state with pressLatched := false }

variable {debounceScans : UInt32} {gpio : GpioDrv} {btn : GpioBtnId} {state : GpioBtnState}
  {s : Integrator} {calls : List GpioCall}

namespace GpioDrv

/-- No call stops the driver. -/
theorem ready_call (c : GpioCall) : (gpio.call debounceScans c).ready = gpio.ready := by
  cases c with
  | scan readPin =>
    rw [call, btnScan]
    split <;> rfl
  | takePress taken => rfl

/-- The last call comes last. -/
theorem after_concat (debounceScans : UInt32) (gpio : GpioDrv) (calls : List GpioCall)
    (c : GpioCall) :
    gpio.after debounceScans (calls ++ [c]) =
      (gpio.after debounceScans calls).call debounceScans c := by
  rw [after, List.foldl_append]
  rfl

/-- No calls stop the driver. -/
theorem ready_after (debounceScans : UInt32) (calls : List GpioCall) :
    (gpio.after debounceScans calls).ready = gpio.ready := by
  induction calls using List.reverseRecOn with
  | nil => rfl
  | append_singleton calls c ih => rw [after_concat, ready_call, ih]

private theorem btnState_call (hready : gpio.ready = true) (c : GpioCall) (btn : GpioBtnId) :
    (gpio.call debounceScans c).btnState btn =
      ((c.view btn).toList).foldl (.seen debounceScans) (gpio.btnState btn) := by
  cases c with
  | scan readPin => exact btnState_scan hready debounceScans readPin btn
  | takePress taken =>
    rw [call, GpioCall.view]
    by_cases hbtn : taken = btn
    · rw [if_pos hbtn, hbtn]
      exact gpio.btnState_take_self btn
    · rw [if_neg hbtn]
      exact gpio.btnState_take_of_ne (Ne.symm hbtn)

private theorem btnState_after (hready : gpio.ready = true) (calls : List GpioCall)
    (btn : GpioBtnId) :
    (gpio.after debounceScans calls).btnState btn =
      (btnView btn calls).foldl (.seen debounceScans) (gpio.btnState btn) := by
  induction calls generalizing gpio with
  | nil => rfl
  | cons c calls ih =>
    have hready' : (gpio.call debounceScans c).ready = true := (ready_call c).trans hready
    rw [after, List.foldl_cons, ← after, ih hready', btnState_call hready, ← List.foldl_append,
      btnView, btnView, List.filterMap_cons]
    cases c.view btn <;> rfl

end GpioDrv

/-- The button's state is the integrator's. -/
structure Follows (state : GpioBtnState) (s : Integrator) : Prop where
  level : state.isDown = s.level
  count : state.mismatchScans.toNat = s.count

/-- A scan is one reading, and the count does not wrap. -/
theorem Follows.scan (h : Follows state s) (hlt : debounceScans < 256)
    (hcount : s.count < debounceScans.toNat) (rawDown : Bool) :
    Follows (state.scan debounceScans rawDown) (s.read debounceScans.toNat rawDown) := by
  have hlt : debounceScans.toNat < 256 := UInt32.lt_iff_toNat_lt.mp hlt
  have hnext : (state.mismatchScans + 1).toNat = s.count + 1 := by
    rw [UInt8.toNat_add, h.count, UInt8.toNat_one, Nat.mod_eq_of_lt]
    omega
  have hreached : debounceScans ≤ (state.mismatchScans + 1).toUInt32 ↔
      debounceScans.toNat ≤ s.count + 1 := by
    rw [UInt32.le_iff_toNat_le, UInt8.toNat_toUInt32, hnext]
  unfold GpioBtnState.scan Integrator.read
  rw [h.level]
  split
  · exact ⟨rfl, rfl⟩
  · simp only [hreached]
    split
    · exact ⟨rfl, rfl⟩
    · exact ⟨rfl, hnext⟩

private theorem follows_foldl (hpos : 0 < debounceScans) (hlt : debounceScans < 256) (seed : Bool)
    (view : List (Option Bool)) :
    Follows (view.foldl (.seen debounceScans) (.seed seed))
      (Integrator.run debounceScans.toNat seed view.reduceOption) := by
  have hscans : 0 < debounceScans.toNat := UInt32.lt_iff_toNat_lt.mp hpos
  induction view using List.reverseRecOn with
  | nil => exact ⟨rfl, rfl⟩
  | append_singleton view seen ih =>
    rw [List.foldl_append, List.reduceOption_append]
    cases seen with
    | none =>
      rw [List.reduceOption_singleton, Option.toList_none, List.append_nil]
      exact ⟨ih.level, ih.count⟩
    | some rawDown =>
      rw [List.reduceOption_singleton, Option.toList_some, Integrator.run_concat]
      exact ih.scan hlt (tracks_run hscans seed _).count_lt rawDown

/-- After a successful `gpio_drv_init` the driver is ready and each button has its level. -/
theorem GpioDrv.init_ok (gpio : GpioDrv) (seed : UInt32 → UInt32) (btn : GpioBtnId) :
    (gpio.init ⟨true, true⟩ seed).1.ready = true ∧
      (gpio.init ⟨true, true⟩ seed).1.btnState btn = .seed (gpioBtnReadRaw seed btn) :=
  ⟨rfl, forEachBtn_apply (fun btn _ ↦ .seed (gpioBtnReadRaw seed btn)) gpio.btnState btn⟩

/-- From a successful `gpio_drv_init` on, each button is its own integrator. -/
theorem follows_after (hpos : 0 < debounceScans) (hlt : debounceScans < 256) (gpio : GpioDrv)
    (seed : UInt32 → UInt32) (calls : List GpioCall) (btn : GpioBtnId) :
    Follows (((gpio.init ⟨true, true⟩ seed).1.after debounceScans calls).btnState btn)
      (Integrator.run debounceScans.toNat (gpioBtnReadRaw seed btn) (btnReadings btn calls)) := by
  obtain ⟨hready, hseed⟩ := gpio.init_ok seed btn
  rw [GpioDrv.btnState_after hready, hseed]
  exact follows_foldl hpos hlt _ _

/-- The debouncer computes exactly its filter. After any calls, a button's level is that of its
most recent run of `debounceScans` equal raw readings, or the seed if there was none; the count
stays below that and does not wrap; and what else the scans read has no influence on it. -/
theorem debounced_level (hpos : 0 < debounceScans) (hlt : debounceScans < 256) (gpio : GpioDrv)
    (seed : UInt32 → UInt32) (calls : List GpioCall) (btn : GpioBtnId) :
    let after := (gpio.init ⟨true, true⟩ seed).1.after debounceScans calls
    Settled debounceScans.toNat (gpioBtnReadRaw seed btn) (btnReadings btn calls)
        (after.btnIsDown btn) ∧
      (after.btnState btn).mismatchScans.toNat < debounceScans.toNat ∧
      ((after.btnState btn).mismatchScans + 1).toNat =
        (after.btnState btn).mismatchScans.toNat + 1 ∧
      ∀ gpio' seed' calls', gpioBtnReadRaw seed' btn = gpioBtnReadRaw seed btn →
        btnView btn calls' = btnView btn calls →
        ((GpioDrv.init gpio' ⟨true, true⟩ seed').1.after debounceScans calls').btnState btn =
          after.btnState btn := by
  intro after
  have hfollows : Follows (after.btnState btn) _ := follows_after hpos hlt gpio seed calls btn
  have hscans : 0 < debounceScans.toNat := UInt32.lt_iff_toNat_lt.mp hpos
  have htracks := tracks_run hscans (gpioBtnReadRaw seed btn) (btnReadings btn calls)
  have hcount := htracks.count_lt
  rw [← hfollows.count] at hcount
  have hlt : debounceScans.toNat < 256 := UInt32.lt_iff_toNat_lt.mp hlt
  refine ⟨?_, hcount, ?_, ?_⟩
  · rw [GpioDrv.btnIsDown, hfollows.level]
    exact htracks.settled
  · rw [UInt8.toNat_add, UInt8.toNat_one, Nat.mod_eq_of_lt]
    omega
  · intro gpio' seed' calls' hseed hview
    obtain ⟨hready, hstart⟩ := gpio.init_ok seed btn
    obtain ⟨hready', hstart'⟩ := gpio'.init_ok seed' btn
    rw [GpioDrv.btnState_after hready', GpioDrv.btnState_after hready, hstart', hstart, hseed,
      hview]

/-- Three scans with BTN4 held press it, and leave BTN5 alone. -/
theorem debounced_level_three_scans :
    let calls := List.replicate 3 (GpioCall.scan fun mioPin ↦ if mioPin = 50 then 1 else 0)
    let after := (GpioDrv.boot.init ⟨true, true⟩ fun _ ↦ 0).1.after gpioDrvDebounceScans calls
    after.btnIsDown .btn4 = true ∧ after.btnIsDown .btn5 = false ∧
      Settled 3 false (btnReadings .btn4 calls) (after.btnIsDown .btn4) :=
  ⟨by decide, by decide,
    (debounced_level (show (0 : UInt32) < gpioDrvDebounceScans by decide) (by decide) .boot
      (fun _ ↦ 0) _ .btn4).1⟩

end SensorAggregator.Drivers
