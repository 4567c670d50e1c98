import SensorAggregator.Base.Component
import SensorAggregator.Drivers.UartDrv
import SensorAggregator.System.Commands
import SensorAggregator.Tasks.UiButtons

/-!
# From the user's inputs to the messages

The system next to the two drivers that `ui_task` reads: the buttons, as `gpio_drv.c` scans and
debounces them, and the receive FIFO, as `uart_drv.c` takes characters from it. So what the user
does, pin levels and bytes on the line, is followed to the messages that the consumer handles and
to the switches that those flip.
-/

namespace SensorAggregator.System

open Base Base.Debounce Datalog Drivers Tasks

/-- The system and the drivers. `rxChar` is the answer of `uart_drv_try_get_char` that `ui_task`
has not acted on yet: a character, or that there is none. -/
structure Wired where
  system : State
  gpio : GpioDrv
  uart : UartDrv
  rxChar : Option (Option UInt8)

/-- A step of the system that reads no input, of the UART or of its driver, or of `ui_task` where it
reads one. -/
inductive WiredAction where
  | system (a : Action)
  | uart (a : RxAction)
  | scan (readPin : UInt32 → UInt32)
  | takePress (btn : GpioBtnId)
  | handleKey

/-- The steps of `ui_task` that act on what a driver answers. -/
def Action.readsInput : Action → Bool
  | .uiWake | .uiPress4 _ | .uiPress5 _ | .uiKey _ | .uiKeysDone => true
  | _ => false

/-- The accesses of `uart_drv_try_get_char`; the others are events of the UART. -/
def byDriver : RxAction → Bool
  | .latch _ | .receive _ => false
  | .call | .count | .clear | .take => true

/-- `ui_task` asks about a button, `task_ui.c:118–126`. -/
def askPress : GpioBtnId → Bool → Action
  | .btn4, pressed => .uiPress4 pressed
  | .btn5, pressed => .uiPress5 pressed

/-- `ui_task` goes on with what `uart_drv_try_get_char` answered, `task_ui.c:132–135`. -/
def answerKey : Option UInt8 → Action
  | some byte => .uiKey (.ofUInt8 byte)
  | none => .uiKeysDone

section messages

variable {b : Board} {as : List Action} {s₀ s : State} {a : Action}

/-- All but the producer's doorbells. -/
def fromUi (msgs : List ConsumerMsg) : List ConsumerMsg := msgs.filter (·.id ≠ .dataReady)

/-- The messages that a step of the UI hands to `ui_send`. -/
def offeredUi (cfg : AppConfig) (a : Action) : List ConsumerMsg :=
  if a.task = some .ui then offered cfg a else []

private theorem countP_fromUi {id : ConsumerMsgId} (hid : id ≠ .dataReady)
    (msgs : List ConsumerMsg) :
    (fromUi msgs).countP (·.id = id) = msgs.countP (·.id = id) := by
  rw [fromUi, List.countP_filter]
  apply List.countP_congr
  intro msg _
  by_cases hmsg : msg.id = id
  · simp [hmsg, hid]
  · simp [hmsg]

private theorem fromUi_offered (cfg : AppConfig) (h : a.task = some .ui) :
    fromUi (offered cfg a) = offered cfg a := by
  apply List.filter_eq_self.mpr
  intro msg hmsg
  apply decide_eq_true
  cases a with
  | uiPress4 pressed | uiPress5 pressed =>
    cases pressed with
    | false => cases hmsg
    | true =>
      rw [List.mem_singleton.mp hmsg]
      exact ConsumerMsgId.noConfusion
  | uiKey key => exact uiHandleKey_id (Option.mem_toList.mp hmsg)
  | producerRing => cases h
  | _ => cases hmsg

private theorem fromUi_offered_other (cfg : AppConfig) (h : a.task ≠ some .ui) :
    fromUi (offered cfg a) = [] := by
  cases a with
  | uiPress4 | uiPress5 | uiKey => exact absurd rfl h
  | _ => rfl

private theorem offeredUi_eq (cfg : AppConfig) (s : State) (a : Action) :
    offeredUi cfg a = fromUi (accepted cfg s a) ++ refusedUi cfg s a := by
  unfold offeredUi accepted refusedUi
  by_cases htask : a.task = some .ui
  · by_cases hroom : s.queue.length < cfg.consumerQueueLen.toNat
    · simp [htask, hroom, fromUi_offered]
    · simp [htask, hroom, Nat.not_lt.mp hroom, fromUi]
  · simp only [htask, false_and, if_false, List.append_nil]
    split
    · exact (fromUi_offered_other cfg htask).symm
    · rfl

private theorem fromUi_next (ha : s.enabled a = true) :
    (fromUi s.pendingMsgs ++ offeredUi b.cfg a).Perm
      ((fromUi (handled s a) ++ refusedUi b.cfg s a) ++ fromUi (s.next b a).pendingMsgs) := by
  have hline := congrArg fromUi (pendingMsgs_next (b := b) ha)
  simp only [fromUi, List.filter_append] at hline
  rw [offeredUi_eq b.cfg s, ← List.append_assoc]
  simp only [fromUi, hline]
  rw [List.append_assoc, List.append_assoc]
  exact List.perm_append_comm.append_left _

/-- So in every run all that the UI offered was handled or refused, or is pending. -/
theorem fromUi_run (hs₀ : Starts b.cfg s₀) (hrun : Machine.run (step b) s₀ as = some s) :
    (Machine.emitted (step b) (fun _ ↦ offeredUi b.cfg) s₀ as).Perm
      (fromUi (handledMsgs b s₀ as ++ s.pendingMsgs) ++
        Machine.emitted (step b) (refusedUi b.cfg) s₀ as) := by
  have hstock := Machine.stock_emitted (fun s ↦ fromUi s.pendingMsgs) (fun _ ↦ offeredUi b.cfg)
    (fun s a ↦ fromUi (handled s a) ++ refusedUi b.cfg s a) (I := fun _ ↦ True) trivial
    (fun _ _ _ _ _ ↦ trivial) ?_ hrun
  · rw [pendingMsgs_start hs₀] at hstock
    refine hstock.trans (((Machine.emitted_append_perm _ _ _ _).append_right _).trans ?_)
    simp only [fromUi, handledMsgs, List.filter_append, Machine.filter_emitted, List.append_assoc]
    exact List.perm_append_comm.append_left _
  · intro s a t _ hstep
    obtain ⟨-, ha, rfl⟩ := step_eq_some.mp hstep
    exact fromUi_next ha

end messages

namespace Wired

/-- After a successful `gpio_drv_init` that read the pins `seed`. -/
def boot (s₀ : State) (gpio : GpioDrv) (seed : UInt32 → UInt32) (uart : UartDrv) : Wired :=
  ⟨s₀, (gpio.init ⟨true, true⟩ seed).1, uart, none⟩

/-- `ui_task` is in `uart_drv_try_get_char`. -/
def gettingChar (w : Wired) : Bool :=
  !w.system.halted && w.system.ui.pc == .keys && w.rxChar.isNone

/-- `uart_drv_try_get_char` answers when it has read the FIFO, or at once if the driver is not
ready. -/
def rxAnswer (w : Wired) : RxAction → Option (Option UInt8)
  | .take => some w.uart.rxFifo.head?
  | .call => if w.uart.ready then w.rxChar else some none
  | _ => w.rxChar

/-- One step. -/
def step (b : Board) (depth : ℕ) (w : Wired) : WiredAction → Option Wired
  | .system a =>
    if a.readsInput then none
    else (System.step b w.system a).map fun s ↦ { w with system := s }
  | .uart a =>
    if byDriver a && !w.gettingChar then none
    else (w.uart.step depth a).map fun uart ↦ { w with uart := uart, rxChar := w.rxAnswer a }
  | .scan readPin =>
    (System.step b w.system .uiWake).map fun s ↦
      { w with system := s, gpio := w.gpio.btnScan gpioDrvDebounceScans readPin }
  | .takePress btn =>
    let (gpio, pressed) := w.gpio.btnTakePress btn
    (System.step b w.system (askPress btn pressed)).map fun s ↦
      { w with system := s, gpio := gpio }
  | .handleKey =>
    match w.rxChar with
    | none => none
    | some answer =>
      (System.step b w.system (answerKey answer)).map fun s ↦
        { w with system := s, rxChar := none }

/-- The steps of the system in a step of all. -/
def systemActs (w : Wired) : WiredAction → List Action
  | .system a => [a]
  | .uart _ => []
  | .scan _ => [.uiWake]
  | .takePress btn => [askPress btn (w.gpio.btnTakePress btn).2]
  | .handleKey => (w.rxChar.map answerKey).toList

/-- The steps of the UART and its driver. -/
def uartActs : WiredAction → List RxAction
  | .uart a => [a]
  | _ => []

/-- The bytes received. -/
def receivedBytes : WiredAction → List UInt8
  | .uart (.receive byte) => [byte]
  | _ => []

/-- The pin levels that `gpio_drv_btn_scan` reads. -/
def scans : WiredAction → List (UInt32 → UInt32)
  | .scan readPin => [readPin]
  | _ => []

/-- The message that a byte sends, if it sends one. -/
def keyMsg (cfg : AppConfig) (byte : UInt8) : Option ConsumerMsg := uiHandleKey cfg (.ofUInt8 byte)

/-- The message of a press that `ui_task` has not asked about yet. -/
def latchedMsg (w : Wired) (btn : GpioBtnId) : List ConsumerMsg :=
  if (w.gpio.btnState btn).pressLatched then [btnMsg btn] else []

/-- The messages of the bytes that `ui_task` has not acted on yet. -/
def unreadMsgs (cfg : AppConfig) (w : Wired) : List ConsumerMsg :=
  (w.rxChar.join.toList ++ w.uart.rxFifo).filterMap (keyMsg cfg)

/-- The messages of the inputs that wait in the drivers. -/
def waiting (cfg : AppConfig) (w : Wired) : List ConsumerMsg :=
  w.unreadMsgs cfg ++ (w.latchedMsg .btn4 ++ w.latchedMsg .btn5)

/-- The byte that the FIFO takes in. -/
def keptBytes (depth : ℕ) (w : Wired) : WiredAction → List UInt8
  | .uart a => w.uart.kept depth a
  | _ => []

/-- The message of a scan that debounces a press. -/
def fromBtn (btn : GpioBtnId) (w : Wired) : WiredAction → List ConsumerMsg
  | .scan readPin =>
    if !w.gpio.btnIsDown btn && (w.gpio.btnScan gpioDrvDebounceScans readPin).btnIsDown btn then
      [btnMsg btn]
    else []
  | _ => []

section steps

variable {b : Board} {depth : ℕ} {w w' : Wired} {a : WiredAction}

/-- What a step is. -/
theorem step_cases (h : w.step b depth a = some w') :
    (∃ act s, a = .system act ∧ act.readsInput = false ∧ System.step b w.system act = some s ∧
        w' = { w with system := s }) ∨
      (∃ act uart, a = .uart act ∧ (byDriver act = true → w.gettingChar = true) ∧
        w.uart.step depth act = some uart ∧
        w' = { w with uart := uart, rxChar := w.rxAnswer act }) ∨
      (∃ readPin s, a = .scan readPin ∧ System.step b w.system .uiWake = some s ∧
        w' = { w with
          system := s
          gpio := w.gpio.btnScan gpioDrvDebounceScans readPin }) ∨
      (∃ btn s, a = .takePress btn ∧
        System.step b w.system (askPress btn (w.gpio.btnTakePress btn).2) = some s ∧
        w' = { w with system := s, gpio := (w.gpio.btnTakePress btn).1 }) ∨
      ∃ answer s, a = .handleKey ∧ w.rxChar = some answer ∧
        System.step b w.system (answerKey answer) = some s ∧
        w' = { w with system := s, rxChar := none } := by
  cases a with
  | system act =>
    rw [step] at h
    split at h
    · cases h
    · next hreads =>
      obtain ⟨s, hs, rfl⟩ := Option.map_eq_some_iff.mp h
      exact .inl ⟨act, s, rfl, Bool.eq_false_iff.mpr hreads, hs, rfl⟩
  | uart act =>
    rw [step] at h
    split at h
    · cases h
    · next hguard =>
      obtain ⟨uart, huart, rfl⟩ := Option.map_eq_some_iff.mp h
      refine .inr (.inl ⟨act, uart, rfl, ?_, huart, rfl⟩)
      intro hby
      simpa [hby] using hguard
  | scan readPin =>
    obtain ⟨s, hs, rfl⟩ := Option.map_eq_some_iff.mp h
    exact .inr (.inr (.inl ⟨readPin, s, rfl, hs, rfl⟩))
  | takePress btn =>
    obtain ⟨s, hs, rfl⟩ := Option.map_eq_some_iff.mp h
    exact .inr (.inr (.inr (.inl ⟨btn, s, rfl, hs, rfl⟩)))
  | handleKey =>
    rw [step] at h
    split at h
    · cases h
    · next answer hanswer =>
      obtain ⟨s, hs, rfl⟩ := Option.map_eq_some_iff.mp h
      exact .inr (.inr (.inr (.inr ⟨answer, s, rfl, hanswer, hs, rfl⟩)))

end steps

/-- The system in it. -/
def systemPart (b : Board) (depth : ℕ) : Machine.Component (step b depth) (System.step b) where
  part := system
  acts := systemActs
  follows {w a w'} h := by
    rcases step_cases h with ⟨act, s, rfl, -, hs, rfl⟩ | ⟨act, uart, rfl, -, -, rfl⟩ |
      ⟨readPin, s, rfl, hs, rfl⟩ | ⟨btn, s, rfl, hs, rfl⟩ | ⟨answer, s, rfl, hanswer, hs, rfl⟩
    · simp [systemActs, hs]
    · rfl
    · simp [systemActs, hs]
    · simp [systemActs, hs]
    · simp [systemActs, hanswer, hs]

/-- The UART in it. -/
def uartPart (b : Board) (depth : ℕ) : Machine.Component (step b depth) (UartDrv.step depth) where
  part := uart
  acts _ := uartActs
  follows {w a w'} h := by
    rcases step_cases h with ⟨act, s, rfl, -, -, rfl⟩ | ⟨act, uart, rfl, -, huart, rfl⟩ |
      ⟨readPin, s, rfl, -, rfl⟩ | ⟨btn, s, rfl, -, rfl⟩ | ⟨answer, s, rfl, -, -, rfl⟩
    · rfl
    · simp [uartActs, huart]
    · rfl
    · rfl
    · rfl

section inputs

variable {b : Board} {depth : ℕ} {w w' : Wired} {a : WiredAction} {btn : GpioBtnId}

/-- A press waits only until `ui_task` asks about its button. -/
structure Taken (w : Wired) : Prop where
  ready : w.gpio.ready = true
  latched : ∀ btn, (w.gpio.btnState btn).pressLatched = true →
    w.system.ui.pc = .press4 ∨ btn = .btn5 ∧ w.system.ui.pc = .press5

private theorem Taken.clear (h : Taken w) (h4 : w.system.ui.pc ≠ .press4)
    (h5 : w.system.ui.pc ≠ .press5)
    (btn : GpioBtnId) : (w.gpio.btnState btn).pressLatched = false := by
  apply Bool.eq_false_iff.mpr
  intro hlatched
  rcases h.latched btn hlatched with hpc | ⟨-, hpc⟩
  · exact h4 hpc
  · exact h5 hpc

private theorem pc_of_not_readsInput {act : Action} {s t : State} (hreads : act.readsInput = false)
    (h : System.step b s act = some t) :
    t.ui = s.ui ∨ s.ui.pc ≠ .press4 ∧ s.ui.pc ≠ .press5 := by
  obtain ⟨-, ha, rfl⟩ := step_eq_some.mp h
  by_cases htask : act.task = some .ui
  · right
    cases act with
    | uiWake | uiPress4 | uiPress5 | uiKey | uiKeysDone => cases hreads
    | checkinTest client | checkinRead client | checkinStore client =>
      cases htask
      rw [State.enabled, State.atCheckin, beq_iff_eq] at ha
      simp [ha]
    | _ => cases htask
  · exact .inl (s.next_ui b htask)

private theorem pc_askPress {pressed : Bool} {s t : State}
    (h : System.step b s (askPress btn pressed) = some t) :
    btn = .btn4 ∧ s.ui.pc = .press4 ∧ t.ui.pc = .press5 ∨
      btn = .btn5 ∧ s.ui.pc = .press5 ∧ t.ui.pc = .keys := by
  obtain ⟨-, ha, rfl⟩ := step_eq_some.mp h
  cases btn with
  | btn4 => exact .inl ⟨rfl, beq_iff_eq.mp ha, s.pc_uiSend b.cfg _ _⟩
  | btn5 => exact .inr ⟨rfl, beq_iff_eq.mp ha, s.pc_uiSend b.cfg _ _⟩

private theorem pc_answerKey {answer : Option UInt8} {s t : State}
    (h : System.step b s (answerKey answer) = some t) : s.ui.pc = .keys := by
  obtain ⟨-, ha, rfl⟩ := step_eq_some.mp h
  cases answer with
  | none => exact beq_iff_eq.mp ha
  | some byte => exact beq_iff_eq.mp ha

/-- Every step keeps it so. -/
theorem Taken.next (h : Taken w) (hstep : w.step b depth a = some w') : Taken w' := by
  rcases step_cases hstep with ⟨act, s, rfl, hreads, hs, rfl⟩ | ⟨act, uart, rfl, -, -, rfl⟩ |
    ⟨readPin, s, rfl, hs, rfl⟩ | ⟨btn, s, rfl, hs, rfl⟩ | ⟨answer, s, rfl, hanswer, hs, rfl⟩
  · refine ⟨h.ready, fun btn hlatched ↦ ?_⟩
    rcases pc_of_not_readsInput hreads hs with hui | ⟨h4, h5⟩
    · simp only [hui]
      exact h.latched btn hlatched
    · rw [h.clear h4 h5] at hlatched
      cases hlatched
  · exact ⟨h.ready, h.latched⟩
  · obtain ⟨-, -, rfl⟩ := step_eq_some.mp hs
    exact ⟨(GpioDrv.ready_call (.scan readPin)).trans h.ready, fun _ _ ↦ .inl rfl⟩
  · refine ⟨h.ready, fun other hlatched ↦ ?_⟩
    have hne : other ≠ btn := by
      rintro rfl
      simp [GpioDrv.btnState_take_self] at hlatched
    rw [GpioDrv.btnState_take_of_ne _ hne] at hlatched
    rcases pc_askPress hs with ⟨rfl, hpc, hpc'⟩ | ⟨rfl, hpc, hpc'⟩
    · cases other with
      | btn4 => exact absurd rfl hne
      | btn5 => exact .inr ⟨rfl, hpc'⟩
    · rcases h.latched other hlatched with hpc4 | ⟨rfl, -⟩
      · rw [hpc] at hpc4
        cases hpc4
      · exact absurd rfl hne
  · refine ⟨h.ready, fun btn hlatched ↦ ?_⟩
    have hpc := pc_answerKey hs
    rw [h.clear (by simp [hpc]) (by simp [hpc])] at hlatched
    cases hlatched

private theorem taken_boot (s₀ : State) (gpio : GpioDrv) (seed : UInt32 → UInt32) (uart : UartDrv) :
    Taken (boot s₀ gpio seed uart) where
  ready := (gpio.init_ok seed .btn4).1
  latched btn hlatched := by
    rw [boot, (gpio.init_ok seed btn).2] at hlatched
    cases hlatched

private theorem offeredUi_of_not_readsInput (cfg : AppConfig) {act : Action}
    (hreads : act.readsInput = false) : offeredUi cfg act = [] := by
  unfold offeredUi
  split
  · cases act with
    | uiWake | uiPress4 | uiPress5 | uiKey | uiKeysDone => cases hreads
    | producerRing => contradiction
    | _ => rfl
  · rfl

private theorem offeredUi_askPress (cfg : AppConfig) (btn : GpioBtnId) (pressed : Bool) :
    offeredUi cfg (askPress btn pressed) = if pressed then [btnMsg btn] else [] := by
  cases btn <;> rfl

private theorem offeredUi_answerKey (cfg : AppConfig) (answer : Option UInt8) :
    offeredUi cfg (answerKey answer) = answer.toList.filterMap (keyMsg cfg) := by
  cases answer with
  | none => rfl
  | some byte =>
    rw [Option.toList_some, List.filterMap_cons, List.filterMap_nil, keyMsg]
    change (uiHandleKey cfg (Char.ofUInt8 byte)).toList = _
    cases uiHandleKey cfg (Char.ofUInt8 byte) <;> rfl

private theorem unread_uart {act : RxAction} {uart : UartDrv}
    (hguard : byDriver act = true → w.gettingChar = true)
    (h : w.uart.step depth act = some uart) :
    w.rxChar.join.toList ++ w.uart.rxFifo ++ w.uart.kept depth act =
      (w.rxAnswer act).join.toList ++ uart.rxFifo := by
  have hnone : byDriver act = true → w.rxChar = none := by
    intro hby
    have hgetting := hguard hby
    rw [gettingChar, Bool.and_eq_true, Option.isNone_iff_eq_none] at hgetting
    exact hgetting.2
  rcases UartDrv.step_cases h with ⟨bits, rfl, rfl⟩ | ⟨byte, rfl, rfl⟩ | ⟨rfl, hpc, rfl⟩ |
    ⟨found, rfl, hpc, rfl⟩ | ⟨found, rfl, hpc, rfl⟩ | ⟨rfl, hpc, rfl⟩
  · simp [UartDrv.kept, rxAnswer]
  · rw [UartDrv.kept, UartDrv.receive]
    split <;> simp [rxAnswer]
  · simp only [UartDrv.kept, rxAnswer, hnone rfl]
    split <;> simp
  · simp only [UartDrv.kept, rxAnswer]
    split <;> simp
  · simp [UartDrv.kept, rxAnswer]
  · simp only [UartDrv.kept, rxAnswer, hnone rfl]
    cases w.uart.rxFifo <;> simp

private theorem latchedMsg_scan (h : Taken w) (hpc : w.system.ui.pc = .delay)
    (readPin : UInt32 → UInt32) (s : State) (btn : GpioBtnId) :
    latchedMsg { w with
      system := s
      gpio := w.gpio.btnScan gpioDrvDebounceScans readPin } btn =
        fromBtn btn w (.scan readPin) := by
  have hclear := h.clear (by simp [hpc]) (by simp [hpc]) btn
  have hlatch := pressLatched_scan gpioDrvDebounceScans (w.gpio.btnState btn)
    (gpioBtnReadRaw readPin btn)
  rw [← GpioDrv.btnState_scan h.ready, hclear] at hlatch
  have hpressed : ((w.gpio.btnScan gpioDrvDebounceScans readPin).btnState btn).pressLatched =
      (!w.gpio.btnIsDown btn &&
        (w.gpio.btnScan gpioDrvDebounceScans readPin).btnIsDown btn) := by
    rw [Bool.eq_iff_iff, hlatch]
    simp [GpioDrv.btnIsDown]
  simp only [latchedMsg, fromBtn, hpressed]

private theorem latchedMsg_take (w : Wired) (s : State) (btn other : GpioBtnId) :
    latchedMsg { w with system := s, gpio := (w.gpio.btnTakePress btn).1 } other =
      if other = btn then [] else w.latchedMsg other := by
  unfold latchedMsg
  by_cases hbtn : other = btn
  · simp [hbtn, GpioDrv.btnState_take_self]
  · simp only [GpioDrv.btnState_take_of_ne _ hbtn, hbtn, if_false]

/-- In every step what waits in the drivers, with what the user puts in, is offered to `ui_send` or
still waits. -/
theorem waiting_next (cfg : AppConfig) (h : Taken w) (hstep : w.step b depth a = some w') :
    (w.waiting cfg ++
        ((w.keptBytes depth a).filterMap (keyMsg cfg) ++
          (fromBtn .btn4 w a ++ fromBtn .btn5 w a))).Perm
      ((w.systemActs a).flatMap (offeredUi cfg) ++ w'.waiting cfg) := by
  rcases step_cases hstep with ⟨act, s, rfl, hreads, hs, rfl⟩ |
    ⟨act, uart, rfl, hguard, huart, rfl⟩ | ⟨readPin, s, rfl, hs, rfl⟩ | ⟨btn, s, rfl, hs, rfl⟩ |
    ⟨answer, s, rfl, hanswer, hs, rfl⟩
  · rw [systemActs, List.flatMap_singleton, offeredUi_of_not_readsInput cfg hreads]
    exact .of_eq (List.append_nil _)
  · have hline := congrArg (List.filterMap (keyMsg cfg)) (unread_uart hguard huart)
    rw [List.filterMap_append] at hline
    simp only [waiting, unreadMsgs, keptBytes, fromBtn, systemActs, List.flatMap_nil,
      List.nil_append, List.append_nil]
    rw [← hline, List.append_assoc, List.append_assoc (List.filterMap _ (_ ++ _))]
    exact List.perm_append_comm.append_left _
  · have hpc : w.system.ui.pc = .delay := beq_iff_eq.mp (step_eq_some.mp hs).2.1
    have hclear (btn : GpioBtnId) : w.latchedMsg btn = [] := by
      rw [latchedMsg, h.clear (by simp [hpc]) (by simp [hpc])]
      rfl
    rw [waiting, waiting, latchedMsg_scan h hpc, latchedMsg_scan h hpc, hclear, hclear]
    simp [systemActs, offeredUi, offered, keptBytes, unreadMsgs]
  · rw [waiting, waiting, latchedMsg_take, latchedMsg_take, systemActs, List.flatMap_singleton,
      offeredUi_askPress]
    change (_ ++ (w.latchedMsg .btn4 ++ w.latchedMsg .btn5) ++ _).Perm (w.latchedMsg btn ++ _)
    rw [List.perm_iff_count]
    intro msg
    cases btn <;> simp [keptBytes, fromBtn, unreadMsgs] <;> omega
  · rw [systemActs, hanswer, Option.map_some, Option.toList_some, List.flatMap_singleton,
      offeredUi_answerKey]
    simp [waiting, unreadMsgs, latchedMsg, keptBytes, fromBtn, hanswer]

end inputs

/-- The messages that the consumer handles in a run. -/
def handledIn (b : Board) (depth : ℕ) (w₀ : Wired) (as : List WiredAction) : List ConsumerMsg :=
  handledMsgs b w₀.system ((systemPart b depth).actions w₀ as)

/-- The messages of the UI that find the queue full. -/
def refusedIn (b : Board) (depth : ℕ) (w₀ : Wired) (as : List WiredAction) : List ConsumerMsg :=
  Machine.emitted (System.step b) (refusedUi b.cfg) w₀.system ((systemPart b depth).actions w₀ as)

/-- The bytes that are in the FIFO at the start, and those that it takes in. -/
def takenIn (depth : ℕ) (uart : UartDrv) (as : List WiredAction) : List UInt8 :=
  uart.rxFifo ++
    Machine.emitted (UartDrv.step depth) (UartDrv.kept depth) uart (as.flatMap uartActs)

/-- How often a button is pressed, debounced, after `gpio_drv_init` has read the pins `seed`. -/
def pressed (gpio : GpioDrv) (seed : UInt32 → UInt32) (btn : GpioBtnId) (as : List WiredAction) :
    ℕ :=
  presses gpioDrvDebounceScans (gpio.init ⟨true, true⟩ seed).1 btn (as.flatMap scans)

/-- A message for each of the presses. -/
def pressMsgs (gpio : GpioDrv) (seed : UInt32 → UInt32) (as : List WiredAction) :
    List ConsumerMsg :=
  List.replicate (pressed gpio seed .btn4 as) (btnMsg .btn4) ++
    List.replicate (pressed gpio seed .btn5 as) (btnMsg .btn5)

/-- The characters in the FIFO at the start, and all that are received. -/
def typed (uart : UartDrv) (as : List WiredAction) : List Char :=
  (uart.rxFifo ++ as.flatMap receivedBytes).map Char.ofUInt8

/-- Nothing that the user did is under way, and the diagnostics show no loss. -/
structure Quiet (cfg : AppConfig) (w : Wired) : Prop where
  pending : fromUi w.system.pendingMsgs = []
  waiting : w.waiting cfg = []
  droppedMsgs : w.system.ui.droppedMsgs = 0
  rxOverrun : w.uart.errCounters.rxOverrun = 0
  latched : Word.bit w.uart.isr LineError.overrun.bitNumber = false

section runs

variable {b : Board} {depth : ℕ} {s₀ : State} {gpio : GpioDrv} {seed : UInt32 → UInt32}
  {uart : UartDrv} {w : Wired} {as : List WiredAction}

/-- All along a run a button's state is the integrator of what the scans read. -/
theorem follows_run (hrun : Machine.run (step b depth) (boot s₀ gpio seed uart) as = some w)
    (btn : GpioBtnId) :
    Follows (w.gpio.btnState btn) (Integrator.run gpioDrvDebounceScans.toNat
      (gpioBtnReadRaw seed btn)
      ((as.flatMap scans).map fun readPin ↦ gpioBtnReadRaw readPin btn)) := by
  refine Machine.run_induction (P := fun as (w : Wired) ↦ Follows (w.gpio.btnState btn)
    (Integrator.run gpioDrvDebounceScans.toNat (gpioBtnReadRaw seed btn)
      ((as.flatMap scans).map fun readPin ↦ gpioBtnReadRaw readPin btn))) ?_ ?_ hrun
  · rw [boot, (gpio.init_ok seed btn).2]
    exact ⟨rfl, rfl⟩
  · intro as w a w' hrun ih hstep
    have htaken := Machine.run_invariant (taken_boot s₀ gpio seed uart)
      (fun _ _ _ h hstep ↦ h.next hstep) hrun
    rw [List.flatMap_append, List.flatMap_singleton, List.map_append]
    rcases step_cases hstep with ⟨act, s, rfl, -, -, rfl⟩ | ⟨act, uart', rfl, -, -, rfl⟩ |
      ⟨readPin, s, rfl, -, rfl⟩ | ⟨taken, s, rfl, -, rfl⟩ | ⟨answer, s, rfl, -, -, rfl⟩
    · exact (List.append_nil _).symm ▸ ih
    · exact (List.append_nil _).symm ▸ ih
    · simp only [scans, List.map_singleton, Integrator.run_concat]
      rw [GpioDrv.btnState_scan htaken.ready]
      exact ih.scan (by decide) (tracks_run (by decide) _ _).count_lt _
    · simp only [scans, List.map_nil, List.append_nil]
      by_cases hbtn : btn = taken
      · rw [hbtn] at ih ⊢
        simp only [GpioDrv.btnState_take_self]
        exact ⟨ih.level, ih.count⟩
      · simp only [GpioDrv.btnState_take_of_ne _ hbtn]
        exact ih
    · exact (List.append_nil _).symm ▸ ih

private theorem pressedAt_scan
    (hrun : Machine.run (step b depth) (boot s₀ gpio seed uart) as = some w)
    (readPin : UInt32 → UInt32) (btn : GpioBtnId) :
    pressedAt gpioDrvDebounceScans (gpio.init ⟨true, true⟩ seed).1 btn
        (as.flatMap scans ++ [readPin]) (as.flatMap scans).length =
      (!w.gpio.btnIsDown btn &&
        (w.gpio.btnScan gpioDrvDebounceScans readPin).btnIsDown btn) := by
  have htaken := Machine.run_invariant (taken_boot s₀ gpio seed uart)
    (fun _ _ _ h hstep ↦ h.next hstep) hrun
  have hbefore := follows_run hrun btn
  have hafter : Follows ((w.gpio.btnState btn).scan gpioDrvDebounceScans _) _ :=
    hbefore.scan (by decide) (tracks_run (by decide) _ _).count_lt (gpioBtnReadRaw readPin btn)
  rw [← GpioDrv.btnState_scan htaken.ready, ← Integrator.run_concat] at hafter
  have hlevel := @btnIsDown_uiPasses gpioDrvDebounceScans (by decide) (by decide) gpio seed btn
    (as.flatMap scans ++ [readPin])
  rw [pressedAt, hlevel, hlevel, GpioDrv.btnIsDown, GpioDrv.btnIsDown, hbefore.level, hafter.level,
    List.map_append, List.map_singleton, List.take_left' (List.length_map _),
    List.take_of_length_le (by rw [List.length_append, List.length_map, List.length_singleton])]

/-- So each press of a button puts its message in. -/
theorem fromBtn_run (hrun : Machine.run (step b depth) (boot s₀ gpio seed uart) as = some w)
    (btn : GpioBtnId) :
    Machine.emitted (step b depth) (fromBtn btn) (boot s₀ gpio seed uart) as =
      List.replicate (pressed gpio seed btn as) (btnMsg btn) := by
  refine Machine.run_induction (P := fun as _ ↦
    Machine.emitted (step b depth) (fromBtn btn) (boot s₀ gpio seed uart) as =
      List.replicate (pressed gpio seed btn as) (btnMsg btn)) rfl ?_ hrun
  intro as w a w' hrun ih hstep
  rw [Machine.emitted_concat _ hrun hstep, ih, pressed, pressed, List.flatMap_append,
    List.flatMap_singleton]
  cases a with
  | scan readPin =>
    rw [scans, presses_concat, pressedAt_scan hrun, List.replicate_add, fromBtn]
    congr 1
    split <;> rfl
  | _ => simp [fromBtn, scans]

/-- The UART emits its bytes in its own steps. -/
theorem emitted_kept (w : Wired) (a : WiredAction) (w' : Wired)
    (hstep : w.step b depth a = some w') :
    Machine.emitted (UartDrv.step depth) (UartDrv.kept depth) w.uart (uartActs a) =
      w.keptBytes depth a := by
  cases a with
  | uart act =>
    have hrun := (uartPart b depth).follows hstep
    obtain ⟨uart, hnext, -⟩ := Option.bind_eq_some_iff.mp hrun
    have huart : w.uart.step depth act = some uart := hnext
    simp [uartActs, keptBytes, Machine.emitted, huart]
  | _ => rfl

/-- What the user put in was handled or refused, or is pending or waits in a driver. -/
theorem inputs_run (hs₀ : Starts b.cfg s₀)
    (hrun : Machine.run (step b depth) (boot s₀ gpio seed uart) as = some w) :
    ((takenIn depth uart as).filterMap (keyMsg b.cfg) ++ pressMsgs gpio seed as).Perm
      (fromUi (handledIn b depth (boot s₀ gpio seed uart) as ++ w.system.pendingMsgs) ++
        refusedIn b depth (boot s₀ gpio seed uart) as ++ w.waiting b.cfg) := by
  have hacts : (uartPart b depth).actions (boot s₀ gpio seed uart) as = as.flatMap uartActs :=
    Machine.emitted_of_actions uartActs hrun
  have hbytes := (uartPart b depth).emitted_actions (f := UartDrv.kept depth)
    (g := keptBytes depth) emitted_kept hrun
  have hoffered := (systemPart b depth).emitted_actions (f := fun _ ↦ offeredUi b.cfg)
    (g := fun w a ↦ (w.systemActs a).flatMap (offeredUi b.cfg))
    (fun _ _ _ hstep ↦ Machine.emitted_of_actions _ ((systemPart b depth).follows hstep)) hrun
  have hstock := Machine.stock_emitted (waiting b.cfg)
    (fun w a ↦ (w.keptBytes depth a).filterMap (keyMsg b.cfg) ++
      (fromBtn .btn4 w a ++ fromBtn .btn5 w a))
    (fun w a ↦ (w.systemActs a).flatMap (offeredUi b.cfg)) (taken_boot s₀ gpio seed uart)
    (fun _ _ _ h hstep ↦ h.next hstep) (fun _ _ _ h hstep ↦ waiting_next b.cfg h hstep) hrun
  have hput := @Machine.emitted_append_perm _ _ _ (step b depth)
    (fun w a ↦ (w.keptBytes depth a).filterMap (keyMsg b.cfg))
    (fun w a ↦ fromBtn .btn4 w a ++ fromBtn .btn5 w a) (boot s₀ gpio seed uart) as
  have hpresses := @Machine.emitted_append_perm _ _ _ (step b depth) (fromBtn .btn4)
    (fromBtn .btn5) (boot s₀ gpio seed uart) as
  have hclear (btn : GpioBtnId) : (boot s₀ gpio seed uart).latchedMsg btn = [] := by
    rw [latchedMsg, boot, (gpio.init_ok seed btn).2]
    rfl
  have hstart : (boot s₀ gpio seed uart).waiting b.cfg = uart.rxFifo.filterMap (keyMsg b.cfg) := by
    rw [waiting, hclear, hclear]
    exact List.append_nil _
  rw [fromBtn_run hrun, fromBtn_run hrun, ← pressMsgs] at hpresses
  rw [← Machine.filterMap_emitted, ← hbytes, hacts] at hput
  rw [hstart, ← hoffered] at hstock
  rw [takenIn, List.filterMap_append, List.append_assoc]
  refine (((hput.trans (hpresses.append_left _)).symm.append_left _).trans hstock).trans ?_
  exact (fromUi_run hs₀ ((systemPart b depth).run_actions hrun)).append_right _

/-- Whatever the user does, and however it falls between the steps of the tasks: every byte that the
FIFO took in and that has a message, and every debounced press, is one message, which the consumer
has handled or has yet to, which `s_dropped_msgs` counts, or which waits in a driver; and no other
message comes from the UI. -/
theorem inputs_accounted (hs₀ : Starts b.cfg s₀)
    (hrun : Machine.run (step b depth) (boot s₀ gpio seed uart) as = some w) :
    ((takenIn depth uart as).filterMap (keyMsg b.cfg) ++ pressMsgs gpio seed as).Perm
        (fromUi (handledIn b depth (boot s₀ gpio seed uart) as ++ w.system.pendingMsgs) ++
          refusedIn b depth (boot s₀ gpio seed uart) as ++ w.waiting b.cfg) ∧
      w.system.ui.droppedMsgs =
        UInt32.ofNat (refusedIn b depth (boot s₀ gpio seed uart) as).length :=
  ⟨inputs_run hs₀ hrun, droppedMsgs_run hs₀ ((systemPart b depth).run_actions hrun)⟩

-- The levels of the pins with BTN5 up or down.
private def btn5Pins (down : Bool) (mioPin : UInt32) : UInt32 :=
  if down && mioPin == 51 then 1 else 0

-- A call of `uart_drv_try_get_char` that finds no line error, and what `ui_task` makes of its
-- answer.
private def getKey : List WiredAction :=
  [.uart .call, .uart .count, .uart .take, .handleKey]

-- A pass of `ui_task` that reads as many characters.
private def uiPass (down : Bool) (chars : ℕ) : List WiredAction :=
  [.scan (btn5Pins down), .takePress .btn4, .takePress .btn5] ++
    (List.replicate (chars + 1) getKey).flatten ++
    [.system (.checkinTest .ui), .system (.checkinRead .ui), .system (.checkinStore .ui)]

-- Two keys are typed; the third scan with BTN5 down is its press, and a third key comes in.
private def typedRun : List WiredAction :=
  [.uart (.receive 0x73), .uart (.receive 0x46)] ++ uiPass false 2 ++ uiPass true 0 ++
    uiPass true 0 ++ [.scan (btn5Pins true), .uart (.receive 0x70)]

-- The UART after its start, with nothing received.
private def silentUart : UartDrv := ⟨true, ⟨0, 0, 0⟩, 0, [], .idle⟩

/-- Where the two keys are pending, the press and the third key wait. -/
theorem inputs_accounted_typed :
    ∃ w, Machine.run (step ⟨appConfig, true, 2000⟩ 64)
        (boot (powerOn appConfig) .boot (btn5Pins false) silentUart) typedRun = some w ∧
      w.system.pendingMsgs = [⟨.streamToggle, 's'⟩, ⟨.rateToggle, 'F'⟩] ∧
      ((takenIn 64 silentUart typedRun).filterMap (keyMsg appConfig) ++
        pressMsgs .boot (btn5Pins false) typedRun).Perm
          [⟨.streamToggle, 's'⟩, ⟨.rateToggle, 'F'⟩, ⟨.pauseToggle, 'p'⟩,
            ⟨.streamToggle, '\x00'⟩] := by
  have hrun : (Machine.run (step ⟨appConfig, true, 2000⟩ 64)
      (boot (powerOn appConfig) .boot (btn5Pins false) silentUart) typedRun).any (fun w ↦
        w.system.pendingMsgs == [⟨.streamToggle, 's'⟩, ⟨.rateToggle, 'F'⟩] &&
          w.waiting appConfig == [⟨.pauseToggle, 'p'⟩, ⟨.streamToggle, '\x00'⟩]) = true := by
    decide +kernel
  obtain ⟨w, hw, hcheck⟩ := (Option.any_eq_true _ _).mp hrun
  rw [Bool.and_eq_true, beq_iff_eq, beq_iff_eq] at hcheck
  obtain ⟨hpending, hwaiting⟩ := hcheck
  obtain ⟨hperm, -⟩ := inputs_accounted (starts_powerOn (by decide +kernel)) hw
  have hhandled : handledIn ⟨appConfig, true, 2000⟩ 64
      (boot (powerOn appConfig) .boot (btn5Pins false) silentUart) typedRun = [] := by
    decide +kernel
  have hrefused : refusedIn ⟨appConfig, true, 2000⟩ 64
      (boot (powerOn appConfig) .boot (btn5Pins false) silentUart) typedRun = [] := by
    decide +kernel
  rw [hhandled, hrefused, hpending] at hperm
  refine ⟨w, hw, hpending, hperm.trans ?_⟩
  rw [hwaiting]
  exact .of_eq rfl

private theorem countP_keyMsg (cfg : AppConfig) {id : ConsumerMsgId} {keys : List Char}
    (hkeys : ∀ key, (uiHandleKey cfg key).any (·.id = id) = decide (key ∈ keys))
    (bytes : List UInt8) :
    (bytes.filterMap (keyMsg cfg)).countP (·.id = id) =
      (bytes.map Char.ofUInt8).countP (· ∈ keys) := by
  rw [List.countP_filterMap, List.countP_map]
  apply List.countP_congr
  intro byte _
  have hkey := hkeys (Char.ofUInt8 byte)
  unfold keyMsg
  cases hmsg : uiHandleKey cfg (Char.ofUInt8 byte) with
  | none => simpa [hmsg] using hkey
  | some msg => simpa [hmsg] using hkey

/-- Each switch has its two keys. -/
theorem uiHandleKey_toggles (cfg : AppConfig) (key : Char) :
    (uiHandleKey cfg key).any (·.id = .streamToggle) = decide (key ∈ ['s', 'S']) ∧
      (uiHandleKey cfg key).any (·.id = .rateToggle) = decide (key ∈ ['f', 'F']) ∧
      (uiHandleKey cfg key).any (·.id = .pauseToggle) = decide (key ∈ ['p', 'P']) := by
  unfold uiHandleKey
  split
  all_goals try split
  all_goals simp_all

private theorem countP_pressMsgs (gpio : GpioDrv) (seed : UInt32 → UInt32) (as : List WiredAction)
    (id : ConsumerMsgId) :
    (pressMsgs gpio seed as).countP (·.id = id) =
      (if (btnMsg .btn4).id = id then pressed gpio seed .btn4 as else 0) +
        if (btnMsg .btn5).id = id then pressed gpio seed .btn5 as else 0 := by
  simp only [pressMsgs, List.countP_append, List.countP_replicate, decide_eq_true_eq]

private theorem takenIn_quiet {setup : UartSetup} {latched : UInt32}
    (hinit : (uart.init setup latched).2 = .ok)
    (hrun : Machine.run (step b depth) (boot s₀ gpio seed (uart.init setup latched).1) as = some w)
    (hquiet : Quiet b.cfg w)
    (hoverruns : UartDrv.risesSince depth .overrun uart setup latched (as.flatMap uartActs) <
      2 ^ 32) :
    (takenIn depth (uart.init setup latched).1 as).map Char.ofUInt8 =
      typed (uart.init setup latched).1 as := by
  have hacts : (uartPart b depth).actions (boot s₀ gpio seed (uart.init setup latched).1) as =
      as.flatMap uartActs := Machine.emitted_of_actions uartActs hrun
  have huart := (uartPart b depth).run_actions hrun
  rw [hacts] at huart
  have hkept := UartDrv.kept_of_counter hinit huart hoverruns hquiet.rxOverrun hquiet.latched
  have hreceived := Machine.emitted_of_actions (UartDrv.received (uart.init setup latched).1) huart
  have hbytes : (fun a ↦ (uartActs a).flatMap (UartDrv.received (uart.init setup latched).1)) =
      receivedBytes := by
    funext a
    cases a with
    | uart act => cases act <;> rfl
    | _ => rfl
  rw [List.flatMap_assoc, hbytes] at hreceived
  rw [takenIn, typed, hkept, ← hreceived]
  rfl

private theorem countP_handledIn {setup : UartSetup} {latched : UInt32} (hs₀ : Starts b.cfg s₀)
    (hinit : (uart.init setup latched).2 = .ok)
    (hrun : Machine.run (step b depth) (boot s₀ gpio seed (uart.init setup latched).1) as = some w)
    (hquiet : Quiet b.cfg w)
    (hrefused : (refusedIn b depth (boot s₀ gpio seed (uart.init setup latched).1) as).length <
      2 ^ 32)
    (hoverruns : UartDrv.risesSince depth .overrun uart setup latched (as.flatMap uartActs) <
      2 ^ 32)
    {id : ConsumerMsgId} {keys : List Char} (hid : id ≠ .dataReady)
    (hkeys : ∀ key, (uiHandleKey b.cfg key).any (·.id = id) = decide (key ∈ keys)) :
    (handledIn b depth (boot s₀ gpio seed (uart.init setup latched).1) as).countP (·.id = id) =
      (typed (uart.init setup latched).1 as).countP (· ∈ keys) +
        (pressMsgs gpio seed as).countP (·.id = id) := by
  have hperm := inputs_run hs₀ hrun
  have hdropped := droppedMsgs_run hs₀ ((systemPart b depth).run_actions hrun)
  have hnone := List.length_eq_zero_iff.mp
    (Counter.eq_zero_of_ofNat hrefused (hdropped.symm.trans hquiet.droppedMsgs))
  rw [hnone, hquiet.waiting, List.append_nil, List.append_nil, fromUi, List.filter_append,
    ← fromUi, ← fromUi, hquiet.pending, List.append_nil] at hperm
  have hcount := hperm.countP_eq (·.id = id)
  rw [countP_fromUi hid, List.countP_append, countP_keyMsg b.cfg hkeys,
    takenIn_quiet hinit hrun hquiet hoverruns] at hcount
  exact hcount.symm

/-- Where nothing is under way and the diagnostics show no loss, the switches are what the user has
made them: BTN5 and the keys `s` and `S` switch the stream, `f` and `F` its rate and `p` and `P` the
pause, each time and in any order with all that the tasks do. -/
theorem switches_show_inputs {setup : UartSetup} {latched : UInt32} (hs₀ : Starts b.cfg s₀)
    (hinit : (uart.init setup latched).2 = .ok)
    (hrun : Machine.run (step b depth) (boot s₀ gpio seed (uart.init setup latched).1) as = some w)
    (hquiet : Quiet b.cfg w)
    (hrefused : (refusedIn b depth (boot s₀ gpio seed (uart.init setup latched).1) as).length <
      2 ^ 32)
    (hoverruns : UartDrv.risesSince depth .overrun uart setup latched (as.flatMap uartActs) <
      2 ^ 32) :
    let typed := typed (uart.init setup latched).1 as
    w.system.consumer.state.streamEnabled =
        !(typed.countP (· ∈ ['s', 'S']) + pressed gpio seed .btn5 as).bodd ∧
      w.system.consumer.state.streamSlow = (typed.countP (· ∈ ['f', 'F'])).bodd ∧
      w.system.consumer.state.drainPaused = (typed.countP (· ∈ ['p', 'P'])).bodd := by
  intro typed
  have hhandled (id : ConsumerMsgId) (keys : List Char) (hid : id ≠ .dataReady) :=
    @countP_handledIn _ _ _ gpio seed _ _ _ _ _ hs₀ hinit hrun hquiet hrefused hoverruns id keys hid
  have hsystem := (systemPart b depth).run_actions hrun
  have hswitch (part : State → Bool) (id : ConsumerMsgId)
      (flips : ∀ (s : State) a, part (s.next b a) = (part s ^^ (handledOf id s a).length.bodd)) :
      part w.system = (part s₀ ^^ ((handledIn b depth (boot s₀ gpio seed
        (uart.init setup latched).1) as).countP (·.id = id)).bodd) :=
    switch_parity part flips hsystem
  have hstream := hswitch (·.consumer.state.streamEnabled) .streamToggle fun _ _ ↦ switches_next.1
  have hslow := hswitch (·.consumer.state.streamSlow) .rateToggle fun _ _ ↦ switches_next.2.1
  have hpaused := hswitch (·.consumer.state.drainPaused) .pauseToggle fun _ _ ↦ switches_next.2.2
  rw [hhandled .streamToggle _ (by decide) fun key ↦ (uiHandleKey_toggles b.cfg key).1] at hstream
  rw [hhandled .rateToggle _ (by decide) fun key ↦ (uiHandleKey_toggles b.cfg key).2.1] at hslow
  rw [hhandled .pauseToggle _ (by decide) fun key ↦ (uiHandleKey_toggles b.cfg key).2.2] at hpaused
  obtain ⟨_, _, _, _, _, rfl⟩ := hs₀
  refine ⟨hstream.trans ?_, hslow.trans ?_, hpaused.trans ?_⟩
  · simp [countP_pressMsgs, btnMsg, State.boot, Consumer.boot, typed]
  · simp [countP_pressMsgs, btnMsg, State.boot, Consumer.boot, typed]
  · simp [countP_pressMsgs, btnMsg, State.boot, Consumer.boot, typed]

-- The consumer handles a message, and its read misses the mutex.
private def handlePass : List WiredAction :=
  [.consumerReceive, .consumerDepth, .consumerHandle none, .consumerDrain, .consumerRead none,
    .consumerStallTick, .consumerStall, .checkinTest .consumer, .checkinRead .consumer,
    .checkinStore .consumer].map .system

-- The press is sent, too, and the consumer handles all three.
private def quietRun : List WiredAction :=
  [.uart (.receive 0x73), .uart (.receive 0x46)] ++ uiPass false 2 ++ uiPass true 0 ++
    uiPass true 0 ++ uiPass true 0 ++ .system .consumerStart ::
    (handlePass ++ handlePass ++ handlePass)

/-- A key has switched the stream off and the button on again, and another key has made it slow. -/
theorem switches_show_inputs_quiet :
    ∃ w, Machine.run (step ⟨appConfig, true, 2000⟩ 64)
        (boot (powerOn appConfig) .boot (btn5Pins false)
          (silentUart.init ⟨true, true, true⟩ 0).1) quietRun = some w ∧
      w.system.consumer.state.streamEnabled = true ∧ w.system.consumer.state.streamSlow = true := by
  have hrun : (Machine.run (step ⟨appConfig, true, 2000⟩ 64)
      (boot (powerOn appConfig) .boot (btn5Pins false)
        (silentUart.init ⟨true, true, true⟩ 0).1) quietRun).any (fun w ↦
          (fromUi w.system.pendingMsgs).isEmpty && (w.waiting appConfig).isEmpty &&
            w.system.ui.droppedMsgs == 0 && w.uart.errCounters.rxOverrun == 0 &&
              !Word.bit w.uart.isr LineError.overrun.bitNumber) = true := by
    decide +kernel
  obtain ⟨w, hw, hcheck⟩ := (Option.any_eq_true _ _).mp hrun
  simp only [Bool.and_eq_true, List.isEmpty_iff, beq_iff_eq, Bool.not_eq_true'] at hcheck
  obtain ⟨⟨⟨⟨hpending, hwaiting⟩, hdropped⟩, hoverrun⟩, hlatched⟩ := hcheck
  obtain ⟨hstream, hslow, -⟩ := switches_show_inputs (starts_powerOn (by decide +kernel))
    (by decide) hw ⟨hpending, hwaiting, hdropped, hoverrun, hlatched⟩ (by decide +kernel)
    (by decide +kernel)
  exact ⟨w, hw, hstream.trans (by decide +kernel), hslow.trans (by decide +kernel)⟩

end runs

end Wired
end SensorAggregator.System
