import Mathlib.Data.Nat.Notation
import Mathlib.Logic.Function.Basic

/-!
# The system-level control registers

Models `drivers/slcr.c` and `drivers/slcr.h`, and how `drivers/gpio_drv.c` sets up a pad with them.
The hardware is what the lock makes of it: a write to a locked register file changes nothing, except
through the registers that lock and unlock.
-/

namespace SensorAggregator.Drivers

/-- The registers by offset, and the lock. -/
structure Slcr where
  regs : UInt32 → UInt32
  locked : Bool

namespace Slcr

/-- `SLCR_LOCK_OFFSET`, `slcr.c:11`. -/
def lockOffset : UInt32 := 0x004

/-- `SLCR_UNLOCK_OFFSET`, `slcr.c:12`. -/
def unlockOffset : UInt32 := 0x008

/-- `SLCR_LOCKSTA_OFFSET`, `slcr.c:13`. -/
def lockstaOffset : UInt32 := 0x00C

/-- `SLCR_LOCK_KEY`, `slcr.c:14`. -/
def lockKey : UInt32 := 0x767B

/-- `SLCR_UNLOCK_KEY`, `slcr.c:15`. -/
def unlockKey : UInt32 := 0xDF0D

/-- `SLCR_LOCKSTA_LOCKED_MASK`, `slcr.c:16`. -/
def lockstaLockedMask : UInt32 := 0x1

/-- `SLCR_REBOOT_STATUS_OFFSET`, `slcr.h:19`. -/
def rebootStatusOffset : UInt32 := 0x258

/-- `SLCR_MIO_PIN_OFFSET`, `slcr.h:16`. -/
def mioPinOffset (pin : UInt32) : UInt32 := 0x700 + 4 * pin

/-- `SLCR_MIO_PIN_PULLUP_MASK`, `slcr.h:17`. -/
def mioPinPullupMask : UInt32 := 0x00001000

/-- The registers with one value replaced. -/
def set (slcr : Slcr) (register value : UInt32) : Slcr :=
  { slcr with regs := Function.update slcr.regs register value }

/-- `Xil_In32` of a register. -/
def in32 (slcr : Slcr) (offset : UInt32) : UInt32 :=
  if offset = lockstaOffset then if slcr.locked then lockstaLockedMask else 0
  else slcr.regs offset

/-- `Xil_Out32` to a register. -/
def out32 (slcr : Slcr) (offset value : UInt32) : Slcr :=
  if offset = lockOffset then { slcr with locked := slcr.locked || value == lockKey }
  else if offset = unlockOffset then { slcr with locked := slcr.locked && value != unlockKey }
  else if offset = lockstaOffset ∨ slcr.locked then slcr
  else slcr.set offset value

/-- `slcr_read`, `slcr.c:18–21`. -/
def read (slcr : Slcr) (offset : UInt32) : UInt32 := slcr.in32 offset

/-- `slcr_modify`, `slcr.c:23–41`. -/
def modify (slcr : Slcr) (offset clearMask setMask : UInt32) : Slcr :=
  let wasLocked := slcr.in32 lockstaOffset &&& lockstaLockedMask != 0
  let slcr := if wasLocked then slcr.out32 unlockOffset unlockKey else slcr
  let value := slcr.in32 offset
  let value := (value &&& ~~~clearMask) ||| setMask
  let slcr := slcr.out32 offset value
  if wasLocked then slcr.out32 lockOffset lockKey else slcr

/-- `gpio_mio_set_pullup`, `gpio_drv.c:51–55`. -/
def gpioMioSetPullup (slcr : Slcr) (pin : UInt32) (enable : Bool) : Slcr :=
  slcr.modify (mioPinOffset pin) mioPinPullupMask (if enable then mioPinPullupMask else 0)

/-- None of the registers of the lock. -/
def Ordinary (offset : UInt32) : Prop :=
  offset ≠ lockOffset ∧ offset ≠ unlockOffset ∧ offset ≠ lockstaOffset

instance (offset : UInt32) : Decidable (Ordinary offset) := inferInstanceAs (Decidable (_ ∧ _))

variable {register : UInt32}

/-- A register has the value it was set to. -/
@[simp] theorem regs_set_self (slcr : Slcr) (register value : UInt32) :
    (slcr.set register value).regs register = value := Function.update_self ..

/-- The other registers keep their values. -/
theorem regs_set_of_ne (slcr : Slcr) {other : UInt32} (h : other ≠ register) (value : UInt32) :
    (slcr.set register value).regs other = slcr.regs other := Function.update_of_ne h ..

/-- Setting a register leaves the lock alone. -/
@[simp] theorem locked_set (slcr : Slcr) (register value : UInt32) :
    (slcr.set register value).locked = slcr.locked := rfl

/-- An ordinary register is read as it is. -/
theorem read_of_ordinary (slcr : Slcr) (h : Ordinary register) :
    slcr.read register = slcr.regs register := if_neg h.2.2

private theorem wasLocked_eq (slcr : Slcr) :
    (slcr.in32 lockstaOffset &&& lockstaLockedMask != 0) = slcr.locked := by
  rw [in32, if_pos rfl]
  cases slcr.locked with
  | true => decide
  | false => decide

private theorem out32_of_unlocked {slcr : Slcr} (h : Ordinary register)
    (hlock : slcr.locked = false)
    (value : UInt32) :
    slcr.out32 register value = slcr.set register value := by
  have hopen : ¬ (register = lockstaOffset ∨ slcr.locked = true) := by
    simp [h.2.2, hlock]
  rw [out32, if_neg h.1, if_neg h.2.1, if_neg hopen]

/-- Whether locked or not, the register is modified, nothing else is, and the lock is put back. -/
theorem modify_eq (slcr : Slcr) (h : Ordinary register) (clearMask setMask : UInt32) :
    slcr.modify register clearMask setMask =
      slcr.set register ((slcr.regs register &&& ~~~clearMask) ||| setMask) := by
  have hlock : ∀ regs, (Slcr.mk regs true).out32 unlockOffset unlockKey = ⟨regs, false⟩ :=
    fun _ ↦ rfl
  have hrelock : ∀ regs, (Slcr.mk regs false).out32 lockOffset lockKey = ⟨regs, true⟩ :=
    fun _ ↦ rfl
  obtain ⟨regs, locked⟩ := slcr
  have hread : ∀ locked, (Slcr.mk regs locked).in32 register = regs register :=
    fun locked ↦ read_of_ordinary ⟨regs, locked⟩ h
  rw [modify, wasLocked_eq]
  cases locked with
  | true =>
    simp only [if_true]
    rw [hlock, hread, out32_of_unlocked h rfl]
    exact hrelock _
  | false =>
    simp only [Bool.false_eq_true, if_false]
    rw [hread, out32_of_unlocked h rfl]

/-- A call of `slcr_modify` for the pad of an MIO pin. -/
structure PadModify where
  pin : UInt32
  clearMask : UInt32
  setMask : UInt32
  pin_lt : pin < 54

namespace PadModify

/-- The pad's register. -/
def offset (call : PadModify) : UInt32 := mioPinOffset call.pin

/-- The call. -/
def run (call : PadModify) (slcr : Slcr) : Slcr :=
  slcr.modify call.offset call.clearMask call.setMask

/-- What the call makes of its register's value. -/
def word (call : PadModify) (value : UInt32) : UInt32 :=
  (value &&& ~~~call.clearMask) ||| call.setMask

/-- The call that `gpio_mio_set_pullup` makes. -/
def pullup (pin : UInt32) (enable : Bool) (h : pin < 54) : PadModify :=
  ⟨pin, mioPinPullupMask, if enable then mioPinPullupMask else 0, h⟩

/-- `gpio_mio_set_pullup` makes a call for its pin's pad. -/
theorem gpioMioSetPullup_eq (slcr : Slcr) {pin : UInt32} (enable : Bool) (h : pin < 54) :
    slcr.gpioMioSetPullup pin enable = (pullup pin enable h).run slcr := rfl

private theorem le_offset (call : PadModify) : 0x700 ≤ call.offset.toNat := by
  have hlt : call.pin.toNat < 54 := UInt32.lt_iff_toNat_lt.mp call.pin_lt
  have hfour : (4 : UInt32).toNat = 4 := rfl
  have hbase : (0x700 : UInt32).toNat = 0x700 := rfl
  rw [offset, mioPinOffset, UInt32.toNat_add, UInt32.toNat_mul, hfour, hbase,
    Nat.mod_eq_of_lt (a := 4 * _) (by omega), Nat.mod_eq_of_lt (by omega)]
  omega

/-- A pad is no register in front of the pads. -/
theorem offset_ne (call : PadModify) {register : UInt32} (h : register.toNat < 0x700) :
    call.offset ≠ register := by
  rintro rfl
  exact absurd call.le_offset (Nat.not_le_of_gt h)

/-- No pad is a register of the lock. -/
theorem ordinary (call : PadModify) : Ordinary call.offset :=
  ⟨call.offset_ne (by decide), call.offset_ne (by decide), call.offset_ne (by decide)⟩

/-- A call changes its pad. -/
theorem run_eq (call : PadModify) (slcr : Slcr) :
    call.run slcr = slcr.set call.offset (call.word (slcr.regs call.offset)) :=
  slcr.modify_eq call.ordinary call.clearMask call.setMask

end PadModify

end Slcr
end SensorAggregator.Drivers
