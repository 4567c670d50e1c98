import Mathlib.Data.Nat.Bits
import SensorAggregator.Drivers.GpioDrv

/-!
# The LED driver

Models the LED of `drivers/gpio_drv.c`: the level last written to its pin, next to the copy that
`gpio_drv_led_toggle` works from.
-/

namespace SensorAggregator.Drivers

/-- `s_gpio_ready`, `s_led_on` and the level of LD4's pin, `gpio_drv.c:40–41`. -/
structure GpioLed where
  ready : Bool
  ledOn : Bool
  pinLevel : UInt32

namespace GpioLed

/-- Before `gpio_drv_init`. -/
def boot : GpioLed := ⟨false, false, 0⟩

/-- `gpio_drv_init`, `gpio_drv.c:57–83`. -/
def init (led : GpioLed) (setup : GpioSetup) : GpioLed :=
  if !setup.configFound || !setup.initialised then { led with ready := false }
  else ⟨true, false, 0⟩

/-- `gpio_drv_led_set`, `gpio_drv.c:104–113`. -/
def ledSet (led : GpioLed) (on : Bool) : GpioLed :=
  if !led.ready then led else { led with pinLevel := if on then 1 else 0, ledOn := on }

/-- `gpio_drv_led_toggle`, `gpio_drv.c:115–118`. -/
def ledToggle (led : GpioLed) : GpioLed := led.ledSet (!led.ledOn)

/-- A LED that is on or off as its pin says. -/
def Shows (led : GpioLed) (on : Bool) : Prop :=
  led.ready = true ∧ led.ledOn = on ∧ led.pinLevel = if on then 1 else 0

/-- A toggle turns it over. -/
theorem Shows.toggle {led : GpioLed} {on : Bool} (h : led.Shows on) : led.ledToggle.Shows !on := by
  obtain ⟨hready, rfl, -⟩ := h
  have hset : led.ledToggle = { led with
      pinLevel := if !led.ledOn then 1 else 0
      ledOn := !led.ledOn } := by
    rw [ledToggle, ledSet, hready]
    rfl
  rw [hset]
  exact ⟨hready, rfl, rfl⟩

/-- After `n` toggles it shows their parity. -/
theorem Shows.iterate {led : GpioLed} {on : Bool} (h : led.Shows on) (n : ℕ) :
    (ledToggle^[n] led).Shows (on ^^ n.bodd) := by
  induction n with
  | zero => simpa using h
  | succ n ih =>
    rw [Function.iterate_succ_apply', Nat.bodd_succ, Bool.xor_not]
    exact ih.toggle

end GpioLed
end SensorAggregator.Drivers
