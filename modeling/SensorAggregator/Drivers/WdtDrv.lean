import Mathlib.Algebra.Order.Field.Rat
import Mathlib.Data.Rat.Cast.Order
import Mathlib.Order.Bounds.Basic
import Mathlib.Tactic.FieldSimp
import Mathlib.Tactic.Linarith
import Mathlib.Tactic.Positivity

/-!
# The system watchdog's driver

Models `drivers/wdt_drv.c` and `drivers/wdt_drv.h`. What the Xilinx driver answers is an argument,
and what it is asked to do is recorded in order.
-/

namespace SensorAggregator.Drivers

/-- `wdt_drv_status_t`, `wdt_drv.h:18–24`. -/
inductive WdtDrvStatus where
  | ok
  | errLookup
  | errInit
  | errRange
  deriving DecidableEq, Repr

/-- The values of the CCR's prescaler field, `XWDTPS_CCR_PSCALE_*`. -/
inductive WdtCcrPscale where
  | pscale0008
  | pscale0064
  | pscale0512
  | pscale4096
  deriving DecidableEq, Repr

/-- What a value of the field divides the watchdog's clock by. -/
def WdtCcrPscale.division : WdtCcrPscale → ℕ
  | pscale0008 => 8
  | pscale0064 => 64
  | pscale0512 => 512
  | pscale4096 => 4096

/-- The calls into the Xilinx driver that change the watchdog; one constructor for each control
and signal they are made for. -/
inductive XWdtPsCall where
  | stop
  | setClkPrescale (ccrValue : WdtCcrPscale)
  | setCounterReset (crv : UInt32)
  | enableResetOutput
  | disableIrqOutput
  | start
  | restartWdt
  deriving DecidableEq, Repr

/-- What `XWdtPs_LookupConfig` and `XWdtPs_CfgInitialize` answer, and the clock of the entry
found. -/
structure WdtSetup where
  configFound : Bool
  initialised : Bool
  clockHz : UInt32

/-- `wdt_prescaler_t`, `wdt_drv.c:23–27`. -/
structure WdtPrescaler where
  ccrValue : WdtCcrPscale
  divider : UInt32
  deriving DecidableEq, Repr

/-- `s_prescalers`, `wdt_drv.c:29–35`. -/
def sPrescalers : List WdtPrescaler :=
  [⟨.pscale0008, 8⟩, ⟨.pscale0064, 64⟩, ⟨.pscale0512, 512⟩, ⟨.pscale4096, 4096⟩]

/-- `WDT_CRV_MAX`, `wdt_drv.c:20`. -/
def wdtCrvMax : UInt64 := 0xFFF

/-- `counts`, `wdt_drv.c:84`. -/
def wdtCounts (timeoutMs : UInt32) (clockHz : UInt64) (divider : UInt32) : UInt64 :=
  timeoutMs.toUInt64 * clockHz / (1000 * divider.toUInt64)

/-- `crv`, `wdt_drv.c:85`. -/
def wdtCrv (timeoutMs : UInt32) (clockHz : UInt64) (divider : UInt32) : UInt64 :=
  wdtCounts timeoutMs clockHz divider >>> 12

/-- What `s_timeout_ms` is assigned, before the conversion to 32 bits, `wdt_drv.c:103`. -/
def wdtProgrammedMs (crv clockHz : UInt64) (divider : UInt32) : UInt64 :=
  ((crv + 1) <<< 12) * divider.toUInt64 * 1000 / clockHz

/-- The statics of `wdt_drv.c:37–40` but the Xilinx instance, and the calls made on that. -/
structure WdtDrv where
  ready : Bool
  running : Bool
  timeoutMs : UInt32
  calls : List XWdtPsCall

namespace WdtDrv

/-- Before `wdt_drv_init`. -/
def boot : WdtDrv := ⟨false, false, 0, []⟩

/-- A CRV that fits is programmed, `wdt_drv.c:97–105`. -/
def program (wdt : WdtDrv) (crv clockHz : UInt64) (p : WdtPrescaler) : WdtDrv :=
  { wdt with
    calls := wdt.calls ++ [.setClkPrescale p.ccrValue, .setCounterReset crv.toUInt32,
      .enableResetOutput, .disableIrqOutput]
    timeoutMs := (wdtProgrammedMs crv clockHz p.divider).toUInt32
    ready := true }

/-- The loop over the prescalers, `wdt_drv.c:81–109`. -/
def search (wdt : WdtDrv) (timeoutMs : UInt32) (clockHz : UInt64) :
    List WdtPrescaler → WdtDrv × WdtDrvStatus
  | [] => (wdt, .errRange)
  | p :: rest =>
    let crv := wdtCrv timeoutMs clockHz p.divider
    if wdtCrvMax < crv then wdt.search timeoutMs clockHz rest
    else (wdt.program crv clockHz p, .ok)

/-- `wdt_drv_init`, `wdt_drv.c:42–110`. -/
def init (wdt : WdtDrv) (setup : WdtSetup) (timeoutMs : UInt32) : WdtDrv × WdtDrvStatus :=
  let wdt := { wdt with ready := false }
  if timeoutMs = 0 then (wdt, .errRange)
  else if !setup.configFound then (wdt, .errLookup)
  else if !setup.initialised then (wdt, .errInit)
  else
    let clockHz := setup.clockHz.toUInt64
    if clockHz = 0 then (wdt, .errInit)
    else
      let wdt : WdtDrv := { wdt with calls := wdt.calls ++ [.stop] }
      wdt.search timeoutMs clockHz sPrescalers

/-- `wdt_drv_start`, `wdt_drv.c:112–124`. -/
def start (wdt : WdtDrv) : WdtDrv :=
  if !wdt.ready then wdt
  else { wdt with calls := wdt.calls ++ [.start, .restartWdt], running := true }

/-- `wdt_drv_kick`, `wdt_drv.c:126–132`. -/
def kick (wdt : WdtDrv) : WdtDrv :=
  if wdt.running then { wdt with calls := wdt.calls ++ [.restartWdt] } else wdt

/-- `wdt_drv_is_running`, `wdt_drv.c:134–137`. -/
def isRunning (wdt : WdtDrv) : Bool := wdt.running

/-- `wdt_drv_timeout_ms`, `wdt_drv.c:139–142`. -/
def reportedTimeoutMs (wdt : WdtDrv) : UInt32 := if wdt.running then wdt.timeoutMs else 0

end WdtDrv

/-- The time until the SWDT expires, in seconds, with `crv` in its CCR and its clock divided:
`crv + 1` blocks of 4096 prescaled clock periods, `wdt_drv.c:15–19`. -/
def hardwareTimeout (crv divider clockHz : ℕ) : ℚ := (crv + 1) * 4096 * divider / clockHz

/-- The time of one block. -/
def reloadBlock (divider clockHz : ℕ) : ℚ := 4096 * divider / clockHz

/-- The CRV that a divider asks for is one the field can hold. -/
def Fits (timeoutMs clockHz divider : ℕ) : Prop :=
  timeoutMs * clockHz / (1000 * divider) / 4096 ≤ 0xFFF

instance (timeoutMs clockHz divider : ℕ) : Decidable (Fits timeoutMs clockHz divider) :=
  inferInstanceAs (Decidable (_ ≤ _))

/-- Each intermediate value of `wdt_drv_init` for one prescaler is the true one. The last five are
computed for a prescaler that fits only. -/
structure NoOverflow (timeoutMs clockHz divider : UInt32) : Prop where
  product : (timeoutMs.toUInt64 * clockHz.toUInt64).toNat = timeoutMs.toNat * clockHz.toNat
  scale : (1000 * divider.toUInt64).toNat = 1000 * divider.toNat
  counts : (wdtCounts timeoutMs clockHz.toUInt64 divider).toNat =
    timeoutMs.toNat * clockHz.toNat / (1000 * divider.toNat)
  crv : (wdtCrv timeoutMs clockHz.toUInt64 divider).toNat =
    timeoutMs.toNat * clockHz.toNat / (1000 * divider.toNat) / 4096
  fits : ∀ crv, crv = wdtCrv timeoutMs clockHz.toUInt64 divider → crv ≤ wdtCrvMax →
    crv.toUInt32.toNat = crv.toNat ∧ (crv + 1).toNat = crv.toNat + 1 ∧
      ((crv + 1) <<< 12).toNat = (crv.toNat + 1) * 4096 ∧
      (((crv + 1) <<< 12) * divider.toUInt64).toNat = (crv.toNat + 1) * 4096 * divider.toNat ∧
      (((crv + 1) <<< 12) * divider.toUInt64 * 1000).toNat =
        (crv.toNat + 1) * 4096 * divider.toNat * 1000

variable {timeoutMs clockHz divider : UInt32}

/-- No divider is larger than the last one. -/
theorem divider_le {p : WdtPrescaler} (hp : p ∈ sPrescalers) :
    0 < p.divider.toNat ∧ p.divider.toNat ≤ 4096 := by
  revert p
  decide

/-- The table gives each value of the field with its division. -/
theorem divider_eq {p : WdtPrescaler} (hp : p ∈ sPrescalers) :
    p.divider.toNat = p.ccrValue.division := by
  revert p
  decide

private theorem toNat_product (timeoutMs clockHz : UInt32) :
    (timeoutMs.toUInt64 * clockHz.toUInt64).toNat = timeoutMs.toNat * clockHz.toNat := by
  have hms := timeoutMs.toNat_lt
  have hhz := clockHz.toNat_lt
  have hlt : timeoutMs.toNat * clockHz.toNat < 2 ^ 32 * 2 ^ 32 := Nat.mul_lt_mul'' hms hhz
  rw [UInt64.toNat_mul, UInt32.toNat_toUInt64, UInt32.toNat_toUInt64, Nat.mod_eq_of_lt]
  omega

/-- Nothing overflows for any prescaler. -/
theorem noOverflow {p : WdtPrescaler} (hp : p ∈ sPrescalers) (timeoutMs clockHz : UInt32) :
    NoOverflow timeoutMs clockHz p.divider := by
  obtain ⟨hpos, hle⟩ := divider_le hp
  have hproduct := toNat_product timeoutMs clockHz
  have hthousand : (1000 : UInt64).toNat = 1000 := rfl
  have hscale : (1000 * p.divider.toUInt64).toNat = 1000 * p.divider.toNat := by
    rw [UInt64.toNat_mul, UInt32.toNat_toUInt64, hthousand, Nat.mod_eq_of_lt]
    omega
  have hcounts : (wdtCounts timeoutMs clockHz.toUInt64 p.divider).toNat =
      timeoutMs.toNat * clockHz.toNat / (1000 * p.divider.toNat) := by
    rw [wdtCounts, UInt64.toNat_div, hproduct, hscale]
  have hcrv : (wdtCrv timeoutMs clockHz.toUInt64 p.divider).toNat =
      timeoutMs.toNat * clockHz.toNat / (1000 * p.divider.toNat) / 4096 := by
    rw [wdtCrv, UInt64.toNat_shiftRight, hcounts, Nat.shiftRight_eq_div_pow]
    rfl
  refine ⟨hproduct, hscale, hcounts, hcrv, ?_⟩
  rintro crv - hmax
  have hmax : crv.toNat ≤ 4095 := UInt64.le_iff_toNat_le.mp hmax
  have hnarrow : crv.toUInt32.toNat = crv.toNat := by
    rw [UInt64.toNat_toUInt32, Nat.mod_eq_of_lt]
    omega
  have hnext : (crv + 1).toNat = crv.toNat + 1 := by
    rw [UInt64.toNat_add, UInt64.toNat_one, Nat.mod_eq_of_lt]
    omega
  have hblocks : ((crv + 1) <<< 12).toNat = (crv.toNat + 1) * 4096 := by
    have hshift : (12 : UInt64).toNat % 64 = 12 := rfl
    rw [UInt64.toNat_shiftLeft, hnext, hshift, Nat.shiftLeft_eq, Nat.mod_eq_of_lt]
    omega
  have hle : (crv.toNat + 1) * 4096 * p.divider.toNat ≤ 4096 * 4096 * 4096 := by
    gcongr
    omega
  have hticks : (((crv + 1) <<< 12) * p.divider.toUInt64).toNat =
      (crv.toNat + 1) * 4096 * p.divider.toNat := by
    rw [UInt64.toNat_mul, UInt32.toNat_toUInt64, hblocks, Nat.mod_eq_of_lt]
    omega
  have hmillis : (((crv + 1) <<< 12) * p.divider.toUInt64 * 1000).toNat =
      (crv.toNat + 1) * 4096 * p.divider.toNat * 1000 := by
    rw [UInt64.toNat_mul, hticks, hthousand, Nat.mod_eq_of_lt]
    omega
  exact ⟨hnarrow, hnext, hblocks, hticks, hmillis⟩

/-- Dividing down and adding one block ends above what was divided, by no more than that block. -/
theorem lt_succ_mul_le (n : ℕ) {m : ℕ} (hm : 0 < m) :
    n < (n / m + 1) * m ∧ (n / m + 1) * m ≤ n + m := by
  have hlt := Nat.lt_mul_div_succ n hm
  have hle := Nat.div_mul_le_self n m
  rw [Nat.mul_comm] at hlt
  rw [Nat.succ_mul]
  exact ⟨by rw [← Nat.succ_mul]; exact hlt, by omega⟩

/-- The CRV that the code computes makes the watchdog wait longer than requested, and by no more
than a block. -/
theorem hardwareTimeout_bounds (timeoutMs : ℕ) {clockHz divider : ℕ} (hhz : 0 < clockHz)
    (hdivider : 0 < divider) :
    let crv := timeoutMs * clockHz / (1000 * divider) / 4096
    (timeoutMs : ℚ) / 1000 < hardwareTimeout crv divider clockHz ∧
      hardwareTimeout crv divider clockHz ≤ timeoutMs / 1000 + reloadBlock divider clockHz := by
  intro crv
  have hm : 0 < 1000 * divider * 4096 := by positivity
  obtain ⟨hlt, hle⟩ := lt_succ_mul_le (timeoutMs * clockHz) hm
  rw [← Nat.div_div_eq_div_mul] at hlt hle
  have hlt : (timeoutMs * clockHz : ℚ) < (crv + 1) * (1000 * divider * 4096) := by
    exact_mod_cast hlt
  have hle : ((crv + 1) * (1000 * divider * 4096) : ℚ) ≤
      timeoutMs * clockHz + 1000 * divider * 4096 := by
    exact_mod_cast hle
  have hhz : (0 : ℚ) < clockHz := by exact_mod_cast hhz
  constructor
  · rw [hardwareTimeout, div_lt_div_iff₀ (by norm_num) hhz]
    linarith
  · have hrequested : (timeoutMs : ℚ) / 1000 = timeoutMs * clockHz / 1000 / clockHz := by
      field_simp
    rw [hardwareTimeout, reloadBlock, hrequested, ← add_div]
    gcongr
    linarith

private theorem wdtCrvMax_lt_iff {p : WdtPrescaler} (hp : p ∈ sPrescalers)
    (timeoutMs clockHz : UInt32) :
    wdtCrvMax < wdtCrv timeoutMs clockHz.toUInt64 p.divider ↔
      ¬ Fits timeoutMs.toNat clockHz.toNat p.divider.toNat := by
  rw [UInt64.lt_iff_toNat_lt, (noOverflow hp timeoutMs clockHz).crv, Fits, Nat.not_le]
  rfl

/-- A CRV that fits passes the check. -/
theorem wdtCrv_le_max {p : WdtPrescaler} (hp : p ∈ sPrescalers)
    (hfits : Fits timeoutMs.toNat clockHz.toNat p.divider.toNat) :
    wdtCrv timeoutMs clockHz.toUInt64 p.divider ≤ wdtCrvMax := by
  apply UInt64.not_lt.mp
  exact fun hlt ↦ (wdtCrvMax_lt_iff hp timeoutMs clockHz).mp hlt hfits

namespace WdtDrv

variable {wdt : WdtDrv}

/-- The loop programs the first prescaler that fits. -/
theorem search_eq (ps : List WdtPrescaler) (hps : ∀ p ∈ ps, p ∈ sPrescalers) :
    wdt.search timeoutMs clockHz.toUInt64 ps =
      match ps.find? fun p ↦ decide (Fits timeoutMs.toNat clockHz.toNat p.divider.toNat) with
      | none => (wdt, .errRange)
      | some p =>
        (wdt.program (wdtCrv timeoutMs clockHz.toUInt64 p.divider) clockHz.toUInt64 p, .ok) := by
  induction ps with
  | nil => rfl
  | cons p rest ih =>
    have hmax := wdtCrvMax_lt_iff (hps p List.mem_cons_self) timeoutMs clockHz
    rw [search, List.find?_cons]
    by_cases hfits : Fits timeoutMs.toNat clockHz.toNat p.divider.toNat
    · rw [if_neg fun hlt ↦ hmax.mp hlt hfits, decide_eq_true hfits]
    · rw [if_pos (hmax.mpr hfits), decide_eq_false hfits]
      exact ih fun p' hp' ↦ hps p' (List.mem_cons_of_mem p hp')

/-- Where lookup and initialisation succeed, `wdt_drv_init` comes to its loop. -/
theorem init_eq_search (wdt : WdtDrv) (hms : timeoutMs ≠ 0) (hhz : clockHz ≠ 0) :
    wdt.init ⟨true, true, clockHz⟩ timeoutMs =
      search { wdt with ready := false, calls := wdt.calls ++ [.stop] } timeoutMs
        clockHz.toUInt64 sPrescalers := by
  have hhz' : clockHz.toUInt64 ≠ 0 := by
    intro hzero
    apply hhz
    apply UInt32.toNat_inj.mp
    rw [← UInt32.toNat_toUInt64, hzero]
    rfl
  simp only [init, if_neg hms, Bool.not_true, Bool.false_eq_true, if_false, if_neg hhz']

end WdtDrv

/-- The first prescaler that fits has the smallest divider of those that do. -/
theorem isLeast_of_find? {p : WdtPrescaler} {fits : ℕ → Prop} [DecidablePred fits]
    (h : sPrescalers.find? (fun p ↦ decide (fits p.divider.toNat)) = some p) :
    IsLeast {d | d ∈ [8, 64, 512, 4096] ∧ fits d} p.divider.toNat := by
  obtain ⟨hfits, before, after, hsplit, hbefore⟩ := List.find?_eq_some_iff_append.mp h
  have hsorted : (before ++ p :: after).Pairwise fun p p' ↦ p.divider.toNat ≤ p'.divider.toNat := by
    rw [← hsplit]
    decide
  have hmap : sPrescalers.map (·.divider.toNat) = [8, 64, 512, 4096] := rfl
  constructor
  · rw [← hmap]
    exact ⟨List.mem_map_of_mem (List.mem_of_find?_eq_some h), of_decide_eq_true hfits⟩
  · rintro d ⟨hd, hfits'⟩
    rw [← hmap] at hd
    obtain ⟨p', hp', rfl⟩ := List.mem_map.mp hd
    rw [hsplit] at hp'
    rcases List.mem_append.mp hp' with hmem | hmem
    · simpa [hfits'] using hbefore p' hmem
    · rcases List.mem_cons.mp hmem with rfl | hmem
      · exact Nat.le_refl _
      · exact List.rel_of_pairwise_cons (List.pairwise_append.mp hsorted).2.1 hmem

private theorem not_fits_of_find? {fits : ℕ → Prop} [DecidablePred fits]
    (h : sPrescalers.find? (fun p ↦ decide (fits p.divider.toNat)) = none) :
    ¬ ∃ d ∈ [8, 64, 512, 4096], fits d := by
  rintro ⟨d, hd, hfits⟩
  have hmap : sPrescalers.map (·.divider.toNat) = [8, 64, 512, 4096] := rfl
  rw [← hmap] at hd
  obtain ⟨p, hp, rfl⟩ := List.mem_map.mp hd
  exact List.find?_eq_none.mp h p hp (decide_eq_true hfits)

/-- The CRV written for a prescaler that fits is in its field, and makes the watchdog wait longer
than requested, by no more than a block. -/
theorem programmed_bounds {p : WdtPrescaler} (hp : p ∈ sPrescalers) (timeoutMs : UInt32)
    (hhz : clockHz ≠ 0) (hfits : Fits timeoutMs.toNat clockHz.toNat p.divider.toNat) :
    let crv := (wdtCrv timeoutMs clockHz.toUInt64 p.divider).toUInt32
    crv ≤ 0xFFF ∧
      (timeoutMs.toNat : ℚ) / 1000 < hardwareTimeout crv.toNat p.divider.toNat clockHz.toNat ∧
      hardwareTimeout crv.toNat p.divider.toNat clockHz.toNat ≤
        timeoutMs.toNat / 1000 + reloadBlock p.divider.toNat clockHz.toNat := by
  intro crv
  have hpos : 0 < clockHz.toNat := Nat.pos_of_ne_zero fun hzero ↦ hhz (UInt32.toNat_inj.mp hzero)
  have hexact := noOverflow hp timeoutMs clockHz
  have hle := wdtCrv_le_max hp hfits
  have hcrv := (hexact.fits _ rfl hle).1
  have hbounds := hardwareTimeout_bounds timeoutMs.toNat hpos (divider_le hp).1
  rw [← hexact.crv, ← hcrv] at hbounds
  refine ⟨?_, hbounds⟩
  rw [UInt32.le_iff_toNat_le, hcrv]
  exact UInt64.le_iff_toNat_le.mp hle

/-- `wdt_drv_init` programs a correct timeout. For every timeout and clock nothing overflows, and
the call succeeds if and only if some divider fits. It then programs the smallest one that does,
and the watchdog waits longer than requested, by no more than one reload block. Otherwise no
control value is written, and `wdt_drv_start` does nothing. -/
theorem init_programs_timeout (wdt : WdtDrv) {timeoutMs clockHz : UInt32} (hms : timeoutMs ≠ 0)
    (hhz : clockHz ≠ 0) :
    let after := wdt.init ⟨true, true, clockHz⟩ timeoutMs
    let fits := Fits timeoutMs.toNat clockHz.toNat
    (∀ p ∈ sPrescalers, NoOverflow timeoutMs clockHz p.divider) ∧
      (after.2 = .ok ↔ ∃ d ∈ [8, 64, 512, 4096], fits d) ∧
      (after.2 = .ok → ∃ (pscale : WdtCcrPscale) (crv : UInt32),
        IsLeast {d | d ∈ [8, 64, 512, 4096] ∧ fits d} pscale.division ∧ crv ≤ 0xFFF ∧
          after.1.calls = wdt.calls ++ [.stop, .setClkPrescale pscale, .setCounterReset crv,
            .enableResetOutput, .disableIrqOutput] ∧
          (timeoutMs.toNat : ℚ) / 1000 <
            hardwareTimeout crv.toNat pscale.division clockHz.toNat ∧
          hardwareTimeout crv.toNat pscale.division clockHz.toNat ≤
            timeoutMs.toNat / 1000 + reloadBlock pscale.division clockHz.toNat) ∧
      (after.2 ≠ .ok → after.2 = .errRange ∧ after.1.calls = wdt.calls ++ [.stop] ∧
        after.1.start = after.1) := by
  intro after fits
  refine ⟨fun p hp ↦ noOverflow hp timeoutMs clockHz, ?_⟩
  have hafter : after = _ := wdt.init_eq_search hms hhz
  rw [WdtDrv.search_eq sPrescalers fun p hp ↦ hp] at hafter
  cases hfind : sPrescalers.find? fun p ↦ decide (fits p.divider.toNat) with
  | none =>
    have hnone := not_fits_of_find? hfind
    have hne : WdtDrvStatus.errRange ≠ .ok := by decide
    rw [hfind] at hafter
    rw [hafter]
    exact ⟨⟨fun h ↦ absurd h hne, fun h ↦ absurd h hnone⟩, fun h ↦ absurd h hne,
      fun _ ↦ ⟨rfl, rfl, rfl⟩⟩
  | some p =>
    have hp := List.mem_of_find?_eq_some hfind
    have hleast := isLeast_of_find? hfind
    obtain ⟨hcrv, hbounds⟩ := programmed_bounds hp timeoutMs hhz hleast.1.2
    rw [divider_eq hp] at hleast hbounds
    rw [hfind] at hafter
    rw [hafter]
    refine ⟨⟨fun _ ↦ ⟨_, hleast.1.1, hleast.1.2⟩, fun _ ↦ rfl⟩, fun _ ↦ ?_, fun h ↦ absurd rfl h⟩
    exact ⟨p.ccrValue, _, hleast, hcrv, List.append_assoc wdt.calls [.stop] _, hbounds⟩

/-- Two seconds at 111 111 115 Hz are programmed with the second divider, and 49 days at 4 GHz are
out of reach. -/
theorem init_programs_timeout_two_seconds :
    (WdtDrv.boot.init ⟨true, true, 111111115⟩ 2000).1.calls = [.stop, .setClkPrescale .pscale0064,
        .setCounterReset 847, .enableResetOutput, .disableIrqOutput] ∧
      (∃ pscale : WdtCcrPscale,
        IsLeast {d | d ∈ [8, 64, 512, 4096] ∧ Fits 2000 111111115 d} pscale.division) ∧
      (WdtDrv.boot.init ⟨true, true, 4294967295⟩ 4294967295).1.calls = [.stop] := by
  obtain ⟨-, hok, hprogram, -⟩ := init_programs_timeout .boot
    (show (2000 : UInt32) ≠ 0 by decide) (show (111111115 : UInt32) ≠ 0 by decide)
  obtain ⟨-, -, -, hrange⟩ := init_programs_timeout .boot
    (show (4294967295 : UInt32) ≠ 0 by decide) (show (4294967295 : UInt32) ≠ 0 by decide)
  obtain ⟨pscale, -, hleast, -⟩ := hprogram (hok.mpr ⟨64, by decide, by decide⟩)
  exact ⟨by decide, ⟨pscale, hleast⟩, (hrange (by decide)).2.1⟩

end SensorAggregator.Drivers
