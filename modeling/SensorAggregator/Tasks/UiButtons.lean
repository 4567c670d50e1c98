import SensorAggregator.Base.Machine
import SensorAggregator.Drivers.GpioDrv
import SensorAggregator.Tasks.Ui

/-!
# Press events

`gpio_drv_btn_take_press` reports that a button was pressed since it was last asked about it, and
`ui_task` asks about each button after every scan, `task_ui.c:118–130`. So each debounced press is
one message.
-/

namespace SensorAggregator.Tasks

open Base Base.Debounce Drivers

variable {debounceScans : UInt32} {gpio : GpioDrv} {btn : GpioBtnId} {calls : List GpioCall}

/-- The last scan took the button's level from released to pressed. -/
def Rises (debounceScans : UInt32) (gpio : GpioDrv) (btn : GpioBtnId) (calls : List GpioCall)
    (readPin : UInt32 → UInt32) : Prop :=
  (gpio.after debounceScans calls).btnIsDown btn = false ∧
    (gpio.after debounceScans (calls ++ [.scan readPin])).btnIsDown btn = true

/-- Some scan since the last take of the button, or since the start, was such a scan. -/
def PressedSince (debounceScans : UInt32) (gpio : GpioDrv) (btn : GpioBtnId)
    (calls : List GpioCall) : Prop :=
  ∃ before readPin rest, calls = before ++ .scan readPin :: rest ∧ .takePress btn ∉ rest ∧
    Rises debounceScans gpio btn before readPin

private theorem pressedSince_concat (c : GpioCall) :
    PressedSince debounceScans gpio btn (calls ++ [c]) ↔
      (c ≠ .takePress btn ∧ PressedSince debounceScans gpio btn calls) ∨
        ∃ readPin, c = .scan readPin ∧ Rises debounceScans gpio btn calls readPin := by
  constructor
  · rintro ⟨before, readPin, rest, heq, hnot, hrises⟩
    rcases List.eq_nil_or_concat rest with rfl | ⟨rest, last, rfl⟩
    · obtain ⟨rfl, hlast⟩ := List.append_inj' heq rfl
      exact .inr ⟨readPin, List.singleton_inj.mp hlast, hrises⟩
    · rw [List.concat_eq_append] at heq hnot
      rw [← List.cons_append, ← List.append_assoc] at heq
      obtain ⟨hcalls, hlast⟩ := List.append_inj' heq rfl
      obtain rfl := List.singleton_inj.mp hlast
      rw [List.mem_append, not_or, List.mem_singleton] at hnot
      exact .inl ⟨Ne.symm hnot.2, before, readPin, rest, hcalls, hnot.1, hrises⟩
  · rintro (⟨hne, before, readPin, rest, rfl, hnot, hrises⟩ | ⟨readPin, rfl, hrises⟩)
    · refine ⟨before, readPin, rest ++ [c], ?_, ?_, hrises⟩
      · rw [List.append_assoc, List.cons_append]
      · rw [List.mem_append, not_or, List.mem_singleton]
        exact ⟨hnot, Ne.symm hne⟩
    · exact ⟨calls, readPin, [], rfl, List.not_mem_nil, hrises⟩

/-- A scan of one button latches a press and keeps one that is latched. -/
theorem pressLatched_scan (debounceScans : UInt32) (state : GpioBtnState) (rawDown : Bool) :
    (state.scan debounceScans rawDown).pressLatched = true ↔
      state.pressLatched = true ∨
        (state.isDown = false ∧ (state.scan debounceScans rawDown).isDown = true) := by
  unfold GpioBtnState.scan
  split
  · next hlevel => simp
  · next hlevel =>
    simp only
    split
    · cases rawDown <;> cases hdown : state.isDown <;> simp_all
    · simp

private theorem pressLatched_iff (hready : gpio.ready = true)
    (hstart : (gpio.btnState btn).pressLatched = false) (calls : List GpioCall) :
    ((gpio.after debounceScans calls).btnState btn).pressLatched = true ↔
      PressedSince debounceScans gpio btn calls := by
  induction calls using List.reverseRecOn with
  | nil =>
    rw [GpioDrv.after, List.foldl_nil, hstart]
    constructor
    · intro h
      cases h
    · rintro ⟨before, readPin, rest, heq, -⟩
      simp at heq
  | append_singleton calls c ih =>
    have hready' := (GpioDrv.ready_after debounceScans calls).trans hready
    rw [pressedSince_concat, ← ih, GpioDrv.after_concat]
    cases c with
    | scan readPin =>
      have hlatch := pressLatched_scan debounceScans
        ((gpio.after debounceScans calls).btnState btn) (gpioBtnReadRaw readPin btn)
      rw [← GpioDrv.btnState_scan hready'] at hlatch
      refine hlatch.trans (or_congr ?_ ?_)
      · exact (and_iff_right (by simp)).symm
      · constructor
        · intro hrises
          exact ⟨readPin, rfl, hrises.1, by rw [GpioDrv.after_concat]; exact hrises.2⟩
        · rintro ⟨readPin', hsame, hlow, hhigh⟩
          obtain rfl := GpioCall.scan.inj hsame
          rw [GpioDrv.after_concat] at hhigh
          exact ⟨hlow, hhigh⟩
    | takePress taken =>
      by_cases hbtn : taken = btn
      · rw [hbtn, GpioDrv.call, GpioDrv.btnState_take_self]
        simp
      · rw [GpioDrv.call, GpioDrv.btnState_take_of_ne _ (Ne.symm hbtn)]
        simp [hbtn]

/-- One pass of `ui_task` over the buttons, `task_ui.c:118–130`: the messages it hands to `ui_send`
for BTN4 and for BTN5. -/
def uiButtons (debounceScans : UInt32) (gpio : GpioDrv) (readPin : UInt32 → UInt32) :
    GpioDrv × Option ConsumerMsg × Option ConsumerMsg :=
  let gpio := gpio.btnScan debounceScans readPin
  let (gpio, press4) := gpio.btnTakePress .btn4
  let (gpio, press5) := gpio.btnTakePress .btn5
  (gpio, if press4 then some ⟨.report, '\x00'⟩ else none,
    if press5 then some ⟨.streamToggle, '\x00'⟩ else none)

/-- The calls of as many passes as there are scans. -/
def uiCalls (scans : List (UInt32 → UInt32)) : List GpioCall :=
  scans.flatMap fun readPin ↦ [.scan readPin, .takePress .btn4, .takePress .btn5]

/-- The driver after the passes of `ui_task`. -/
def uiPasses (debounceScans : UInt32) (gpio : GpioDrv) (scans : List (UInt32 → UInt32)) : GpioDrv :=
  (Machine.trace (uiButtons debounceScans) gpio scans).1

/-- Pass `i`, counted from 0, is a debounced press of the button. -/
def pressedAt (debounceScans : UInt32) (gpio : GpioDrv) (btn : GpioBtnId)
    (scans : List (UInt32 → UInt32)) (i : ℕ) : Bool :=
  !(uiPasses debounceScans gpio (scans.take i)).btnIsDown btn &&
    (uiPasses debounceScans gpio (scans.take (i + 1))).btnIsDown btn

/-- The number of debounced presses of the button. -/
def presses (debounceScans : UInt32) (gpio : GpioDrv) (btn : GpioBtnId)
    (scans : List (UInt32 → UInt32)) : ℕ :=
  (List.range scans.length).countP (pressedAt debounceScans gpio btn scans)

variable {scans : List (UInt32 → UInt32)}

/-- The passes make these calls. -/
theorem uiPasses_eq (gpio : GpioDrv) (scans : List (UInt32 → UInt32)) :
    uiPasses debounceScans gpio scans = gpio.after debounceScans (uiCalls scans) := by
  induction scans generalizing gpio with
  | nil => rfl
  | cons readPin scans ih => exact ih (uiButtons debounceScans gpio readPin).1

private theorem btnReadings_uiCalls (btn : GpioBtnId) (scans : List (UInt32 → UInt32)) :
    btnReadings btn (uiCalls scans) = scans.map fun readPin ↦ gpioBtnReadRaw readPin btn := by
  induction scans with
  | nil => rfl
  | cons readPin scans ih =>
    rw [List.map_cons, ← ih]
    cases btn <;> rfl

/-- A pass leaves no press untaken. -/
theorem pressLatched_uiButtons (gpio : GpioDrv) (readPin : UInt32 → UInt32) (btn : GpioBtnId) :
    ((uiButtons debounceScans gpio readPin).1.btnState btn).pressLatched = false := by
  cases btn <;> rfl

/-- Before each pass no press is latched. -/
theorem pressLatched_uiPasses (hstart : (gpio.btnState btn).pressLatched = false)
    (scans : List (UInt32 → UInt32)) :
    ((uiPasses debounceScans gpio scans).btnState btn).pressLatched = false := by
  induction scans using List.reverseRecOn with
  | nil => exact hstart
  | append_singleton scans readPin _ =>
    rw [uiPasses, Machine.trace_concat]
    exact pressLatched_uiButtons _ readPin btn

private theorem press_of_pass (hready : gpio.ready = true) (readPin : UInt32 → UInt32)
    (hstart : (gpio.btnState btn).pressLatched = false) :
    ((gpio.btnScan debounceScans readPin).btnState btn).pressLatched =
      (!gpio.btnIsDown btn && (uiButtons debounceScans gpio readPin).1.btnIsDown btn) := by
  have hlatch := pressLatched_scan debounceScans (gpio.btnState btn)
    (gpioBtnReadRaw readPin btn)
  rw [← GpioDrv.btnState_scan hready, hstart] at hlatch
  have hlevel : (uiButtons debounceScans gpio readPin).1.btnIsDown btn =
      ((gpio.btnScan debounceScans readPin).btnState btn).isDown := by
    cases btn <;> rfl
  rw [Bool.eq_iff_iff, hlatch, hlevel, GpioDrv.btnIsDown]
  simp

/-- The message a button sends. -/
def btnMsg : GpioBtnId → ConsumerMsg
  | .btn4 => ⟨.report, '\x00'⟩
  | .btn5 => ⟨.streamToggle, '\x00'⟩

/-- What a pass hands to `ui_send` for a button. -/
def sentFor (btn : GpioBtnId) (sent : Option ConsumerMsg × Option ConsumerMsg) :
    Option ConsumerMsg :=
  match btn with
  | .btn4 => sent.1
  | .btn5 => sent.2

/-- A pass sends for a button exactly when its scan is a press. -/
theorem sentFor_uiButtons (debounceScans : UInt32) (hready : gpio.ready = true)
    (readPin : UInt32 → UInt32) (hstart : (gpio.btnState btn).pressLatched = false) :
    sentFor btn (uiButtons debounceScans gpio readPin).2 =
      if !gpio.btnIsDown btn && (uiButtons debounceScans gpio readPin).1.btnIsDown btn then
        some (btnMsg btn)
      else none := by
  rw [← press_of_pass hready readPin hstart]
  cases btn <;> rfl

/-- What comes later does not change which passes were presses. -/
theorem presses_concat (gpio : GpioDrv) (btn : GpioBtnId) (scans : List (UInt32 → UInt32))
    (readPin : UInt32 → UInt32) :
    presses debounceScans gpio btn (scans ++ [readPin]) =
      presses debounceScans gpio btn scans +
        if pressedAt debounceScans gpio btn (scans ++ [readPin]) scans.length then 1 else 0 := by
  rw [presses, List.length_append, List.length_singleton, List.range_succ, List.countP_append,
    List.countP_singleton]
  congr 1
  apply List.countP_congr
  intro i hi
  have hlt : i < scans.length := List.mem_range.mp hi
  rw [pressedAt, pressedAt, List.take_append_of_le_length (Nat.le_of_lt hlt),
    List.take_append_of_le_length hlt]

/-- Over all passes, a button sends its message as often as it was pressed. -/
theorem sentFor_eq_presses (hready : gpio.ready = true)
    (hstart : (gpio.btnState btn).pressLatched = false) (scans : List (UInt32 → UInt32)) :
    (Machine.trace (uiButtons debounceScans) gpio scans).2.filterMap (sentFor btn) =
      List.replicate (presses debounceScans gpio btn scans) (btnMsg btn) := by
  induction scans using List.reverseRecOn with
  | nil => rfl
  | append_singleton scans readPin ih =>
    have hready' : (uiPasses debounceScans gpio scans).ready = true := by
      rw [uiPasses_eq, GpioDrv.ready_after, hready]
    have hsent := sentFor_uiButtons debounceScans hready' readPin
      (pressLatched_uiPasses hstart scans)
    have hpressed : pressedAt debounceScans gpio btn (scans ++ [readPin]) scans.length =
        (!(uiPasses debounceScans gpio scans).btnIsDown btn &&
          (uiButtons debounceScans (uiPasses debounceScans gpio scans) readPin).1.btnIsDown
            btn) := by
      rw [pressedAt, List.take_left, ← List.length_singleton (a := readPin), ← List.length_append,
        List.take_length]
      simp only [uiPasses, Machine.trace_concat]
    rw [Machine.trace_concat, List.filterMap_append, ih, presses_concat, hpressed,
      List.replicate_add, ← uiPasses, List.filterMap_cons, hsent]
    cases !(uiPasses debounceScans gpio scans).btnIsDown btn && _ <;> rfl

/-- Before pass `n` a button's level is the integrator's. -/
theorem btnIsDown_uiPasses (hpos : 0 < debounceScans) (hlt : debounceScans < 256)
    (gpio : GpioDrv) (seed : UInt32 → UInt32) (btn : GpioBtnId) (scans : List (UInt32 → UInt32))
    (n : ℕ) :
    (uiPasses debounceScans (gpio.init ⟨true, true⟩ seed).1 (scans.take n)).btnIsDown btn =
      (Integrator.run debounceScans.toNat (gpioBtnReadRaw seed btn)
        ((scans.map fun readPin ↦ gpioBtnReadRaw readPin btn).take n)).level := by
  have hfollows := follows_after hpos hlt gpio seed (uiCalls (scans.take n)) btn
  rw [btnReadings_uiCalls, List.map_take] at hfollows
  rw [uiPasses_eq, GpioDrv.btnIsDown, hfollows.level]

/-- A press is a rise of the integrator. -/
theorem rise_of_pressedAt (hpos : 0 < debounceScans) (hlt : debounceScans < 256) (gpio : GpioDrv)
    (seed : UInt32 → UInt32) {i : ℕ}
    (hpressed : pressedAt debounceScans (gpio.init ⟨true, true⟩ seed).1 btn scans i = true) :
    let readings := scans.map fun readPin ↦ gpioBtnReadRaw readPin btn
    (Integrator.run debounceScans.toNat (gpioBtnReadRaw seed btn) (readings.take i)).level =
        false ∧
      (Integrator.run debounceScans.toNat (gpioBtnReadRaw seed btn)
        (readings.take (i + 1))).level = true := by
  have hlevel := btnIsDown_uiPasses hpos hlt gpio seed btn scans
  rw [pressedAt, hlevel, hlevel, Bool.and_eq_true, Bool.not_eq_true'] at hpressed
  exact hpressed

/-- Press events are neither missed nor repeated. However scans and takes are interleaved, a take
answers true if and only if its button was pressed since it was last taken, and does not affect
the other one. In the loop of `ui_task` each debounced press is one message, of BTN4 a report and
of BTN5 a stream toggle; a button held through boot sends none before it was released for
`debounceScans` scans and pressed again, and none is repeated before that. -/
theorem presses_sent_once (hpos : 0 < debounceScans) (hlt : debounceScans < 256) (gpio : GpioDrv)
    (seed : UInt32 → UInt32) :
    let booted := (gpio.init ⟨true, true⟩ seed).1
    (∀ btn calls, ((booted.after debounceScans calls).btnTakePress btn).2 = true ↔
        PressedSince debounceScans booted btn calls) ∧
      (∀ btn taken calls, btn ≠ taken →
        ((booted.after debounceScans calls).btnTakePress taken).1.btnState btn =
          (booted.after debounceScans calls).btnState btn) ∧
      ∀ scans,
        let sent := (Machine.trace (uiButtons debounceScans) booted scans).2
        sent.filterMap (·.1) =
            List.replicate (presses debounceScans booted .btn4 scans) ⟨.report, '\x00'⟩ ∧
          sent.filterMap (·.2) =
            List.replicate (presses debounceScans booted .btn5 scans) ⟨.streamToggle, '\x00'⟩ ∧
          ∀ btn i, i < scans.length → pressedAt debounceScans booted btn scans i = true →
            let readings := scans.map fun readPin ↦ gpioBtnReadRaw readPin btn
            (gpioBtnReadRaw seed btn = true →
              Repressed debounceScans.toNat (readings.take (i + 1))) ∧
            ∀ j < i, pressedAt debounceScans booted btn scans j = true →
              Repressed debounceScans.toNat ((readings.take (i + 1)).drop (j + 1)) := by
  intro booted
  have hscans : 0 < debounceScans.toNat := UInt32.lt_iff_toNat_lt.mp hpos
  have hready : booted.ready = true := (gpio.init_ok seed .btn4).1
  have hstart (btn : GpioBtnId) : (booted.btnState btn).pressLatched = false := by
    rw [(gpio.init_ok seed btn).2]
    rfl
  refine ⟨fun btn ↦ pressLatched_iff hready (hstart btn),
    fun btn taken calls hne ↦ GpioDrv.btnState_take_of_ne _ hne, fun scans ↦
      ⟨sentFor_eq_presses hready (hstart .btn4) scans,
        sentFor_eq_presses hready (hstart .btn5) scans, ?_⟩⟩
  intro btn i hi hpressed readings
  have hi' : i < readings.length := by
    rw [List.length_map]
    exact hi
  obtain ⟨hlow, hhigh⟩ := rise_of_pressedAt hpos hlt gpio seed hpressed
  constructor
  · intro hheld
    exact release_between (k := 0) hscans (by rw [hheld]; rfl) (Nat.zero_le i) hi' hlow hhigh
  · intro j hj hpressed'
    obtain ⟨hlow', hhigh'⟩ := rise_of_pressedAt hpos hlt gpio seed hpressed'
    exact repressed_of_rises hscans hj hi' hlow' hhigh' hlow hhigh

-- The raw levels of a scan with BTN4 held or not.
private def btn4Held (held : Bool) (mioPin : UInt32) : UInt32 :=
  if held && mioPin == 50 then 1 else 0

/-- BTN4 is held through boot, released, and held again: one report. -/
theorem presses_sent_once_again :
    let booted := (GpioDrv.boot.init ⟨true, true⟩ (btn4Held true)).1
    let scans := [true, true, false, false, false, true, true, true, true].map btn4Held
    ((Machine.trace (uiButtons gpioDrvDebounceScans) booted scans).2.filterMap (·.1) =
        [⟨.report, '\x00'⟩]) ∧
      Repressed 3 [true, true, false, false, false, true, true, true] := by
  obtain ⟨-, -, hpasses⟩ := presses_sent_once (show (0 : UInt32) < gpioDrvDebounceScans by decide)
    (by decide) .boot (btn4Held true)
  obtain ⟨hsent, -, hagain⟩ :=
    hpasses ([true, true, false, false, false, true, true, true, true].map btn4Held)
  exact ⟨hsent.trans (by decide), (hagain .btn4 7 (by decide) (by decide)).1 (by decide)⟩

end SensorAggregator.Tasks
