import SensorAggregator.Base.Counter
import SensorAggregator.Base.Emission
import SensorAggregator.Base.Word

/-!
# The receiving side of the console UART

Models `uart_drv_init` and `uart_drv_try_get_char` of `drivers/uart_drv.c` next to the two
registers of the UART that they use. The UART works on its own: between any two accesses of the
driver it may latch status bits and receive bytes. The status register is write-one-to-clear, and
a byte that finds the receive FIFO full is lost and latches the overrun bit.
-/

namespace SensorAggregator.Drivers

open Base Base.Word

/-- `uart_drv_status_t`, `uart_drv.h:27–33`. -/
inductive UartDrvStatus where
  | ok
  | errLookup
  | errInit
  | errFormat
  deriving DecidableEq, Repr

/-- The receive line errors. -/
inductive LineError where
  | overrun
  | framing
  | parity
  deriving DecidableEq, Repr

/-- `XUARTPS_IXR_OVER`, `XUARTPS_IXR_FRAMING` and `XUARTPS_IXR_PARITY` are the bits of these
numbers. -/
def LineError.bitNumber : LineError → ℕ
  | .overrun => 5
  | .framing => 6
  | .parity => 7

/-- The bit of an error. -/
def LineError.mask : LineError → UInt32
  | .overrun => 0x20
  | .framing => 0x40
  | .parity => 0x80

/-- `UART_RX_LINE_ERR_MASK`, `uart_drv.c:19`. -/
def uartRxLineErrMask : UInt32 :=
  LineError.overrun.mask ||| LineError.framing.mask ||| LineError.parity.mask

/-- `uart_drv_err_counters_t`, `uart_drv.h:39–44`. -/
structure UartErrCounters where
  rxOverrun : UInt32
  rxFraming : UInt32
  rxParity : UInt32

/-- The counter of an error. -/
def UartErrCounters.get (counters : UartErrCounters) : LineError → UInt32
  | .overrun => counters.rxOverrun
  | .framing => counters.rxFraming
  | .parity => counters.rxParity

/-- The increments of `uart_collect_line_errors`, `uart_drv.c:35–46`. -/
def UartErrCounters.collect (counters : UartErrCounters) (pending : UInt32) : UartErrCounters where
  rxOverrun :=
    if pending &&& LineError.overrun.mask ≠ 0 then counters.rxOverrun + 1 else counters.rxOverrun
  rxFraming :=
    if pending &&& LineError.framing.mask ≠ 0 then counters.rxFraming + 1 else counters.rxFraming
  rxParity :=
    if pending &&& LineError.parity.mask ≠ 0 then counters.rxParity + 1 else counters.rxParity

/-- Where the receiving task is in `uart_drv_try_get_char`, with `pending` of
`uart_collect_line_errors`. -/
inductive RxPc where
  | idle
  | count (pending : UInt32)
  | clear (pending : UInt32)
  | take
  deriving DecidableEq, Repr

/-- The driver's state, the status register `XUARTPS_ISR` and the receive FIFO. -/
structure UartDrv where
  ready : Bool
  errCounters : UartErrCounters
  isr : UInt32
  rxFifo : List UInt8
  pc : RxPc

/-- What the Xilinx driver answers in `uart_drv_init`, `uart_drv.c:58,76,94`. -/
structure UartSetup where
  configFound : Bool
  initialised : Bool
  formatAccepted : Bool

/-- What the UART does by itself, and the steps of a call of `uart_drv_try_get_char`. -/
inductive RxAction where
  | latch (bits : UInt32)
  | receive (byte : UInt8)
  | call
  | count
  | clear
  | take

namespace UartDrv

/-- `uart_drv_init`, `uart_drv.c:51–110`. `latched` is what the UART latches between the read of
the status register and the write that clears what was read, `uart_drv.c:105`. -/
def init (uart : UartDrv) (setup : UartSetup) (latched : UInt32) : UartDrv × UartDrvStatus :=
  let uart := { uart with ready := false }
  if !setup.configFound then (uart, .errLookup)
  else if !setup.initialised then (uart, .errInit)
  else if !setup.formatAccepted then (uart, .errFormat)
  else
    ({ uart with
        ready := true
        errCounters := ⟨0, 0, 0⟩
        isr := (uart.isr ||| latched) &&& ~~~uart.isr
        pc := .idle }, .ok)

/-- The UART receives a byte into a FIFO of `depth` bytes. -/
def receive (depth : ℕ) (uart : UartDrv) (byte : UInt8) : UartDrv :=
  if uart.rxFifo.length < depth then { uart with rxFifo := uart.rxFifo ++ [byte] }
  else { uart with isr := uart.isr ||| LineError.overrun.mask }

/-- A step of the UART, or of `uart_drv_try_get_char`, `uart_drv.c:26–49,138–154`. -/
def step (depth : ℕ) (uart : UartDrv) : RxAction → Option UartDrv
  | .latch bits => some { uart with isr := uart.isr ||| bits }
  | .receive byte => some (uart.receive depth byte)
  | .call =>
    match uart.pc with
    | .idle =>
      some (if uart.ready then { uart with pc := .count (uart.isr &&& uartRxLineErrMask) }
        else uart)
    | _ => none
  | .count =>
    match uart.pc with
    | .count pending =>
      some (if pending = 0 then { uart with pc := .take }
        else { uart with errCounters := uart.errCounters.collect pending, pc := .clear pending })
    | _ => none
  | .clear =>
    match uart.pc with
    | .clear pending => some { uart with isr := uart.isr &&& ~~~pending, pc := .take }
    | _ => none
  | .take =>
    match uart.pc with
    | .take => some { uart with rxFifo := uart.rxFifo.tail, pc := .idle }
    | _ => none

/-- The byte that a call returns. -/
def returned (uart : UartDrv) : RxAction → List UInt8
  | .take => uart.rxFifo.head?.toList
  | _ => []

/-- The byte that the UART receives. -/
def received (_ : UartDrv) : RxAction → List UInt8
  | .receive byte => [byte]
  | _ => []

/-- The byte that the FIFO takes in. -/
def kept (depth : ℕ) (uart : UartDrv) : RxAction → List UInt8
  | .receive byte => if uart.rxFifo.length < depth then [byte] else []
  | _ => []

/-- The status bits that a step sets. -/
def setBits (depth : ℕ) (uart : UartDrv) : RxAction → UInt32
  | .latch bits => bits
  | .receive _ => if uart.rxFifo.length < depth then 0 else LineError.overrun.mask
  | _ => 0

/-- An error is latched that was not before. -/
def rises (depth : ℕ) (error : LineError) (uart : UartDrv) (a : RxAction) : List Unit :=
  if bit (uart.setBits depth a) error.bitNumber && !bit uart.isr error.bitNumber then [()] else []

/-- The status bits that are counted already and about to be cleared. -/
def inHand (uart : UartDrv) : UInt32 :=
  match uart.pc with
  | .clear pending => pending
  | _ => 0

/-- An error is latched and not counted yet. -/
def uncounted (error : LineError) (uart : UartDrv) : ℕ :=
  if bit uart.isr error.bitNumber && !bit uart.inHand error.bitNumber then 1 else 0

variable {depth : ℕ} {error : LineError} {uart s t : UartDrv} {a : RxAction} {as : List RxAction}

private theorem bitNumber_lt (error : LineError) : error.bitNumber < 32 := by
  cases error <;> decide

private theorem bit_mask (error : LineError) (i : ℕ) :
    bit error.mask i = decide (i = error.bitNumber) := by
  have hall : ∀ i < 32, bit error.mask i = decide (i = error.bitNumber) := by
    cases error <;> decide
  by_cases hi : i < 32
  · exact hall i hi
  · have hfalse : bit error.mask i = false := Bool.eq_false_iff.mpr fun h ↦ hi (lt_of_bit h)
    have hne : i ≠ error.bitNumber := by
      cases error <;> simp only [LineError.bitNumber] <;> omega
    rw [hfalse, decide_eq_false hne]

/-- An error that was found pending is counted once, any other is not. -/
theorem get_collect (counters : UartErrCounters) (pending : UInt32) (error : LineError) :
    (counters.collect pending).get error =
      if bit pending error.bitNumber then counters.get error + 1 else counters.get error := by
  have htest : ∀ error : LineError,
      pending &&& error.mask ≠ 0 ↔ bit pending error.bitNumber = true := by
    intro error
    rw [and_ne_zero_iff]
    simp only [bit_mask, decide_eq_true_eq, exists_eq_left]
  cases error
  · simp only [UartErrCounters.collect, UartErrCounters.get, htest]
  · simp only [UartErrCounters.collect, UartErrCounters.get, htest]
  · simp only [UartErrCounters.collect, UartErrCounters.get, htest]

/-- What a step is. -/
theorem step_cases (h : s.step depth a = some t) :
    (∃ bits, a = .latch bits ∧ t = { s with isr := s.isr ||| bits }) ∨
      (∃ byte, a = .receive byte ∧ t = s.receive depth byte) ∨
      (a = .call ∧ s.pc = .idle ∧
        t = if s.ready then { s with pc := .count (s.isr &&& uartRxLineErrMask) } else s) ∨
      (∃ pending, a = .count ∧ s.pc = .count pending ∧
        t = if pending = 0 then { s with pc := .take }
          else { s with errCounters := s.errCounters.collect pending, pc := .clear pending }) ∨
      (∃ pending, a = .clear ∧ s.pc = .clear pending ∧
        t = { s with isr := s.isr &&& ~~~pending, pc := .take }) ∨
      (a = .take ∧ s.pc = .take ∧ t = { s with rxFifo := s.rxFifo.tail, pc := .idle }) := by
  cases a with
  | latch bits => exact .inl ⟨bits, rfl, (Option.some.inj h).symm⟩
  | receive byte => exact .inr (.inl ⟨byte, rfl, (Option.some.inj h).symm⟩)
  | call | count | clear | take =>
    rw [step] at h
    split at h
    · next hpc => simp [hpc, ← Option.some.inj h]
    · cases h

private theorem receive_same (byte : UInt8) :
    (s.receive depth byte).pc = s.pc ∧ (s.receive depth byte).errCounters = s.errCounters ∧
      (s.receive depth byte).ready = s.ready ∧
      (s.receive depth byte).isr = s.isr ||| s.setBits depth (.receive byte) := by
  unfold receive setBits
  split
  · exact ⟨rfl, rfl, rfl, UInt32.or_zero.symm⟩
  · exact ⟨rfl, rfl, rfl, rfl⟩

/-- What was found pending are errors, and they stay latched until they are cleared. -/
def PendingLatched (uart : UartDrv) : Prop :=
  ∀ pending, uart.pc = .count pending ∨ uart.pc = .clear pending →
    ∀ i, bit pending i = true → bit uart.isr i = true ∧ bit uartRxLineErrMask i = true

private theorem PendingLatched.set (h : PendingLatched s) {bits : UInt32} (hpc : t.pc = s.pc)
    (hisr : t.isr = s.isr ||| bits) : PendingLatched t := by
  intro pending hpending i hi
  rw [hpc] at hpending
  obtain ⟨hlatched, hmask⟩ := h pending hpending i hi
  rw [hisr, bit_or, hlatched]
  exact ⟨rfl, hmask⟩

/-- Every step keeps it. -/
theorem PendingLatched.next (h : PendingLatched s) (hstep : s.step depth a = some t) :
    PendingLatched t := by
  rcases step_cases hstep with ⟨bits, rfl, rfl⟩ | ⟨byte, rfl, rfl⟩ | ⟨rfl, hpc, rfl⟩ |
    ⟨found, rfl, hpc, rfl⟩ | ⟨found, rfl, hpc, rfl⟩ | ⟨rfl, hpc, rfl⟩
  · exact h.set rfl rfl
  · exact h.set (receive_same byte).1 (receive_same byte).2.2.2
  · split
    · rintro pending (hpending | hpending) i hi
      · obtain rfl := RxPc.count.inj hpending
        rw [bit_and, Bool.and_eq_true] at hi
        exact hi
      · cases hpending
    · exact h
  · split
    · rintro pending (hpending | hpending) <;> cases hpending
    · rintro pending (hpending | hpending) i hi
      · cases hpending
      · obtain rfl := RxPc.clear.inj hpending
        exact h found (.inl hpc) i hi
  · rintro pending (hpending | hpending) <;> cases hpending
  · rintro pending (hpending | hpending) <;> cases hpending

private theorem counted_set (h : PendingLatched s) (hpc : t.pc = s.pc)
    (hcounters : t.errCounters = s.errCounters) (hisr : t.isr = s.isr ||| s.setBits depth a) :
    t.errCounters.get error + UInt32.ofNat (t.uncounted error) =
      s.errCounters.get error + UInt32.ofNat (s.uncounted error) +
        UInt32.ofNat (s.rises depth error a).length := by
  have hhand : t.inHand = s.inHand := by rw [inHand, inHand, hpc]
  have hlatched : bit s.inHand error.bitNumber = true → bit s.isr error.bitNumber = true := by
    intro hi
    unfold inHand at hi
    split at hi
    · next pending hpc => exact (h pending (.inr hpc) _ hi).1
    · rw [bit_zero] at hi
      cases hi
  rw [hcounters, UInt32.add_assoc, ← UInt32.ofNat_add]
  congr 2
  unfold uncounted rises
  rw [hhand, hisr, bit_or]
  cases hisr : bit s.isr error.bitNumber <;>
    cases hset : bit (s.setBits depth a) error.bitNumber <;>
    cases hin : bit s.inHand error.bitNumber <;> simp_all

private theorem rises_of_unset (h : s.setBits depth a = 0) : s.rises depth error a = [] := by
  unfold rises
  rw [h, bit_zero]
  rfl

/-- In every step a counter goes up exactly for what is no longer uncounted. -/
theorem counted_step (h : PendingLatched s) (hstep : s.step depth a = some t) :
    t.errCounters.get error + UInt32.ofNat (t.uncounted error) =
      s.errCounters.get error + UInt32.ofNat (s.uncounted error) +
        UInt32.ofNat (s.rises depth error a).length := by
  rcases step_cases hstep with ⟨bits, rfl, rfl⟩ | ⟨byte, rfl, rfl⟩ | ⟨rfl, hpc, rfl⟩ |
    ⟨found, rfl, hpc, rfl⟩ | ⟨found, rfl, hpc, rfl⟩ | ⟨rfl, hpc, rfl⟩
  · exact counted_set h rfl rfl rfl
  · obtain ⟨hpc, hcounters, -, hisr⟩ := @receive_same depth s byte
    exact counted_set h hpc hcounters hisr
  · rw [rises_of_unset rfl]
    split
    · simp [uncounted, inHand, hpc]
    · simp
  · rw [rises_of_unset rfl]
    split
    · simp [uncounted, inHand, hpc]
    · have hlatched := h found (.inl hpc) error.bitNumber
      rw [get_collect]
      cases hfound : bit found error.bitNumber with
      | false => simp [uncounted, inHand, hpc, hfound]
      | true => simp [uncounted, inHand, hpc, hfound, (hlatched hfound).1]
  · rw [rises_of_unset rfl]
    cases hfound : bit found error.bitNumber with
    | false => simp [uncounted, inHand, hpc, hfound, bitNumber_lt]
    | true => simp [uncounted, inHand, hpc, hfound]
  · rw [rises_of_unset rfl]
    simp [uncounted, inHand, hpc]

/-- What `uart_drv_init` leaves behind when it succeeds. -/
theorem init_ok {setup : UartSetup} {latched : UInt32} (h : (uart.init setup latched).2 = .ok) :
    (uart.init setup latched).1 =
      { uart with
        ready := true
        errCounters := ⟨0, 0, 0⟩
        isr := (uart.isr ||| latched) &&& ~~~uart.isr
        pc := .idle } := by
  obtain ⟨configFound, initialised, formatAccepted⟩ := setup
  cases configFound with
  | false => cases h
  | true =>
    cases initialised with
    | false => cases h
    | true =>
      cases formatAccepted with
      | false => cases h
      | true => rfl

/-- Nothing is pending then. -/
theorem pendingLatched_init {setup : UartSetup} {latched : UInt32}
    (h : (uart.init setup latched).2 = .ok) : PendingLatched (uart.init setup latched).1 := by
  rw [init_ok h]
  rintro pending (hpending | hpending) <;> cases hpending

/-- An error is latched anew while the driver clears the ones from before. -/
def risesInInit (error : LineError) (uart : UartDrv) (latched : UInt32) : ℕ :=
  if bit latched error.bitNumber && !bit uart.isr error.bitNumber then 1 else 0

/-- How often an error was latched since the status register was read in `uart_drv_init`. -/
def risesSince (depth : ℕ) (error : LineError) (uart : UartDrv) (setup : UartSetup)
    (latched : UInt32) (as : List RxAction) : ℕ :=
  risesInInit error uart latched +
    (Machine.emitted (step depth) (rises depth error) (uart.init setup latched).1 as).length

/-- Every time an error is latched it is counted, or about to be. -/
theorem counted_run {setup : UartSetup} {latched : UInt32}
    (hinit : (uart.init setup latched).2 = .ok)
    (hrun : Machine.run (step depth) (uart.init setup latched).1 as = some t)
    (error : LineError) :
    t.errCounters.get error + UInt32.ofNat (t.uncounted error) =
      UInt32.ofNat (risesSince depth error uart setup latched as) := by
  have hcount := Machine.counter_emitted
    (fun uart ↦ uart.errCounters.get error + UInt32.ofNat (uart.uncounted error))
    (I := PendingLatched) (f := rises depth error) (pendingLatched_init hinit)
    (fun _ _ _ h hstep ↦ h.next hstep) (fun _ _ _ h hstep ↦ counted_step h hstep) hrun
  have hstart : (uart.init setup latched).1.errCounters.get error +
      UInt32.ofNat ((uart.init setup latched).1.uncounted error) =
        UInt32.ofNat (risesInInit error uart latched) := by
    have hzero : (⟨0, 0, 0⟩ : UartErrCounters).get error = 0 := by
      cases error <;> rfl
    rw [init_ok hinit, hzero, UInt32.zero_add]
    cases hold : bit uart.isr error.bitNumber with
    | false => simp [uncounted, inHand, risesInInit, hold, bitNumber_lt]
    | true => simp [uncounted, inHand, risesInInit, hold]
  rw [hcount, hstart, ← UInt32.ofNat_add, risesSince]

/-- The status bits after a step: the driver clears none but errors that it has counted. -/
theorem bit_isr_next (h : PendingLatched s) (hstep : s.step depth a = some t) {i : ℕ}
    (hi : bit uartRxLineErrMask i = false) :
    bit t.isr i = (bit s.isr i || [s.setBits depth a].any (bit · i)) := by
  rw [List.any_cons, List.any_nil, Bool.or_false]
  rcases step_cases hstep with ⟨bits, rfl, rfl⟩ | ⟨byte, rfl, rfl⟩ | ⟨rfl, hpc, rfl⟩ |
    ⟨found, rfl, hpc, rfl⟩ | ⟨found, rfl, hpc, rfl⟩ | ⟨rfl, hpc, rfl⟩
  · exact bit_or _ _ _
  · rw [(receive_same byte).2.2.2, bit_or]
  · split <;> simp [setBits]
  · split <;> simp [setBits]
  · have hfound : bit found i = false := by
      apply Bool.eq_false_iff.mpr
      intro hset
      have hmask := (h found (.inr hpc) i hset).2
      rw [hi] at hmask
      cases hmask
    cases hold : bit s.isr i with
    | false => simp [setBits, hold]
    | true => simp [setBits, hold, hfound, lt_of_bit hold]
  · simp [setBits]

/-- The bytes in the receive FIFO, with those that come in, come out in order. -/
theorem rxFifo_run (hrun : Machine.run (step depth) s as = some t) :
    s.rxFifo ++ Machine.emitted (step depth) (kept depth) s as =
      Machine.emitted (step depth) returned s as ++ t.rxFifo := by
  refine Machine.line_emitted (I := fun _ ↦ True) trivial (fun _ _ _ _ _ ↦ trivial) ?_ hrun
  intro s a t _ hstep
  rcases step_cases hstep with ⟨bits, rfl, rfl⟩ | ⟨byte, rfl, rfl⟩ | ⟨rfl, hpc, rfl⟩ |
    ⟨found, rfl, hpc, rfl⟩ | ⟨found, rfl, hpc, rfl⟩ | ⟨rfl, hpc, rfl⟩
  · exact List.append_nil _
  · rw [kept, receive]
    split
    · rfl
    · exact List.append_nil _
  · split <;> exact List.append_nil _
  · split <;> exact List.append_nil _
  · exact List.append_nil _
  · cases hfifo : s.rxFifo with
    | nil => simp [kept, returned, hfifo]
    | cons byte rest => simp [kept, returned, hfifo]

private theorem unset_of_rises (hclear : bit s.isr error.bitNumber = false)
    (hnone : s.rises depth error a = []) : bit (s.setBits depth a) error.bitNumber = false := by
  unfold rises at hnone
  rw [hclear] at hnone
  split at hnone
  · cases hnone
  · next h => simpa using h

private theorem kept_of_unset (h : bit (s.setBits depth a) LineError.overrun.bitNumber = false) :
    s.kept depth a = s.received a := by
  cases a with
  | receive byte =>
    rw [setBits] at h
    rw [kept, received]
    split
    · rfl
    · next hfull =>
      rw [if_neg hfull] at h
      exact absurd h (by decide)
  | _ => rfl

private theorem clear_next (hstep : s.step depth a = some t) {i : ℕ} (hclear : bit s.isr i = false)
    (hset : bit (s.setBits depth a) i = false) : bit t.isr i = false := by
  rcases step_cases hstep with ⟨bits, rfl, rfl⟩ | ⟨byte, rfl, rfl⟩ | ⟨rfl, hpc, rfl⟩ |
    ⟨found, rfl, hpc, rfl⟩ | ⟨found, rfl, hpc, rfl⟩ | ⟨rfl, hpc, rfl⟩
  · rw [bit_or, hclear]
    exact hset
  · rw [(receive_same byte).2.2.2, bit_or, hclear]
    exact hset
  · split <;> exact hclear
  · split <;> exact hclear
  · rw [bit_and, hclear]
    rfl
  · exact hclear

/-- As long as no overrun is latched, the FIFO takes in every byte. -/
theorem kept_run (hrun : Machine.run (step depth) s as = some t)
    (hstart : bit s.isr LineError.overrun.bitNumber = false)
    (hnone : Machine.emitted (step depth) (rises depth .overrun) s as = []) :
    bit t.isr LineError.overrun.bitNumber = false ∧
      Machine.emitted (step depth) received s as =
        Machine.emitted (step depth) (kept depth) s as := by
  revert hnone
  refine Machine.run_induction (P := fun as (t : UartDrv) ↦
    Machine.emitted (step depth) (rises depth .overrun) s as = [] →
      bit t.isr LineError.overrun.bitNumber = false ∧
        Machine.emitted (step depth) received s as =
          Machine.emitted (step depth) (kept depth) s as) ?_ ?_ hrun
  · intro _
    exact ⟨hstart, rfl⟩
  · intro as t a u hrun ih hstep hnone
    rw [Machine.emitted_concat _ hrun hstep, List.append_eq_nil_iff] at hnone
    obtain ⟨hclear, hsame⟩ := ih hnone.1
    have hset := unset_of_rises hclear hnone.2
    rw [Machine.emitted_concat _ hrun hstep, Machine.emitted_concat _ hrun hstep, hsame,
      kept_of_unset hset]
    exact ⟨clear_next hstep hclear hset, rfl⟩

private theorem clear_init {setup : UartSetup} {latched : UInt32}
    (hinit : (uart.init setup latched).2 = .ok) (h : risesInInit error uart latched = 0) :
    bit (uart.init setup latched).1.isr error.bitNumber = false := by
  rw [init_ok hinit, bit_and, bit_or, bit_complement]
  unfold risesInInit at h
  cases hold : bit uart.isr error.bitNumber with
  | true => simp
  | false =>
    rw [hold] at h
    cases hlatched : bit latched error.bitNumber with
    | true => simp [hlatched] at h
    | false => rfl

/-- However the UART's events fall between the accesses of the driver, each time an error is latched
it is counted once, or still latched to be counted; and the driver clears no other status bit. -/
theorem line_errors_counted_once {setup : UartSetup} {latched : UInt32}
    (hinit : (uart.init setup latched).2 = .ok)
    (hrun : Machine.run (step depth) (uart.init setup latched).1 as = some t) :
    (∀ error, t.errCounters.get error + UInt32.ofNat (t.uncounted error) =
        UInt32.ofNat (risesSince depth error uart setup latched as)) ∧
      ∀ i, bit uartRxLineErrMask i = false →
        bit t.isr i = (bit (uart.init setup latched).1.isr i ||
          (Machine.emitted (step depth) (fun s a ↦ [s.setBits depth a])
            (uart.init setup latched).1 as).any (bit · i)) := by
  refine ⟨counted_run hinit hrun, fun i hi ↦ ?_⟩
  exact Machine.latch_emitted (fun uart ↦ bit uart.isr i) (I := PendingLatched)
    (pendingLatched_init hinit) (fun _ _ _ h hstep ↦ h.next hstep)
    (fun _ _ _ h hstep ↦ bit_isr_next h hstep hi) hrun

-- A UART with an old overrun.
private def noisyUart : UartDrv := ⟨false, ⟨9, 9, 9⟩, 0x20, [], .idle⟩

-- A byte is read while a parity error is latched between the read of the status register and the
-- count, and the framing error again before it is cleared.
private def noisyRun : List RxAction :=
  [.receive 65, .call, .latch 0x80, .count, .latch 0x40, .clear, .take]

/-- The framing error of the start is counted, and the parity error still latched. -/
theorem line_errors_counted_once_noisy :
    ∃ t, Machine.run (step 1) (noisyUart.init ⟨true, true, true⟩ 0x40).1 noisyRun = some t ∧
      t.errCounters.rxFraming + UInt32.ofNat (t.uncounted .framing) = 1 ∧
      t.errCounters.rxParity + UInt32.ofNat (t.uncounted .parity) = 1 := by
  have hrun : (Machine.run (step 1) (noisyUart.init ⟨true, true, true⟩ 0x40).1 noisyRun).any
      (fun _ ↦ true) = true := by decide +kernel
  obtain ⟨t, ht, -⟩ := (Option.any_eq_true _ _).mp hrun
  obtain ⟨hcounted, -⟩ := line_errors_counted_once (by decide) ht
  exact ⟨t, ht, (hcounted .framing).trans (by decide +kernel),
    (hcounted .parity).trans (by decide +kernel)⟩

/-- If the counter of overruns is at zero and none is latched, the FIFO took in every byte. -/
theorem kept_of_counter {setup : UartSetup} {latched : UInt32}
    (hinit : (uart.init setup latched).2 = .ok)
    (hrun : Machine.run (step depth) (uart.init setup latched).1 as = some t)
    (hfew : risesSince depth .overrun uart setup latched as < 2 ^ 32)
    (hcounter : t.errCounters.rxOverrun = 0)
    (hclear : bit t.isr LineError.overrun.bitNumber = false) :
    Machine.emitted (step depth) (kept depth) (uart.init setup latched).1 as =
      Machine.emitted (step depth) received (uart.init setup latched).1 as := by
  have hcounted := counted_run hinit hrun .overrun
  have huncounted : t.uncounted .overrun = 0 := by simp [uncounted, hclear]
  rw [huncounted, show t.errCounters.get .overrun = 0 from hcounter] at hcounted
  have hzero := Counter.eq_zero_of_ofNat hfew hcounted.symm
  have hnone := List.length_eq_zero_iff.mp (Nat.add_eq_zero_iff.mp hzero).2
  have hstart := clear_init hinit (Nat.add_eq_zero_iff.mp hzero).1
  exact (kept_run hrun hstart hnone).2.symm

/-- The calls return the bytes that the FIFO took in, each once and in order. If the counter of
overruns is at zero, having counted fewer than `2 ^ 32`, and none is latched, these are all the
bytes that were received. -/
theorem received_in_order {setup : UartSetup} {latched : UInt32}
    (hinit : (uart.init setup latched).2 = .ok)
    (hrun : Machine.run (step depth) (uart.init setup latched).1 as = some t) :
    let start := (uart.init setup latched).1
    let took := Machine.emitted (step depth) (kept depth) start as
    start.rxFifo ++ took = Machine.emitted (step depth) returned start as ++ t.rxFifo ∧
      (risesSince depth .overrun uart setup latched as < 2 ^ 32 →
        t.errCounters.rxOverrun = 0 → bit t.isr LineError.overrun.bitNumber = false →
        took = Machine.emitted (step depth) received start as) :=
  ⟨rxFifo_run hrun, kept_of_counter hinit hrun⟩

/-- The byte is returned, and nothing was lost. -/
theorem received_in_order_noisy :
    ∃ t, Machine.run (step 1) (noisyUart.init ⟨true, true, true⟩ 0x40).1 noisyRun = some t ∧
      [65] = Machine.emitted (step 1) returned (noisyUart.init ⟨true, true, true⟩ 0x40).1
        noisyRun ++ t.rxFifo := by
  have hrun : (Machine.run (step 1) (noisyUart.init ⟨true, true, true⟩ 0x40).1 noisyRun).any
      (fun t ↦ t.errCounters.rxOverrun == 0 && !bit t.isr LineError.overrun.bitNumber) = true := by
    decide +kernel
  obtain ⟨t, ht, hcheck⟩ := (Option.any_eq_true _ _).mp hrun
  rw [Bool.and_eq_true, beq_iff_eq, Bool.not_eq_true'] at hcheck
  obtain ⟨hline, hall⟩ := received_in_order (by decide) ht
  have hreceived := hall (by decide +kernel) hcheck.1 hcheck.2
  refine ⟨t, ht, ?_⟩
  rw [← hline, hreceived]
  decide +kernel

end UartDrv
end SensorAggregator.Drivers
