import Mathlib.Tactic.Ring
import SensorAggregator.Drivers.WdtDrv

/-!
# The timeout that the watchdog's driver reports

`wdt_drv_init` works out the timeout it has programmed in 64 bits and keeps the low 32 of them for
`wdt_drv_timeout_ms`. What it reports is the truth as long as the milliseconds fit.
-/

namespace SensorAggregator.Drivers

/-- The whole milliseconds until the SWDT expires, with `crv` in its CCR and its clock divided. -/
def programmedMs (crv divider clockHz : ℕ) : ℕ := (crv + 1) * 4096 * divider * 1000 / clockHz

/-- A block of the smallest divider that fits ends after the time asked for and before
`2 ^ 32` milliseconds. Times are in thousandths of a clock period. -/
def ReportFits (timeoutMs clockHz : ℕ) : Prop :=
  ∃ d, IsLeast {d | d ∈ [8, 64, 512, 4096] ∧ Fits timeoutMs clockHz d} d ∧
    ∃ k, timeoutMs * clockHz < k * (1000 * d * 4096) ∧ k * (1000 * d * 4096) < 2 ^ 32 * clockHz

variable {timeoutMs clockHz : UInt32}

private theorem exists_multiple_iff {m : ℕ} (hm : 0 < m) (n bound : ℕ) :
    (∃ k, n < k * m ∧ k * m < bound) ↔ (n / m + 1) * m < bound := by
  constructor
  · rintro ⟨k, hlow, hhigh⟩
    have hk : n / m + 1 ≤ k := Nat.div_lt_of_lt_mul (by rw [Nat.mul_comm]; exact hlow)
    exact Nat.lt_of_le_of_lt (Nat.mul_le_mul_right m hk) hhigh
  · exact fun hbound ↦ ⟨n / m + 1, (lt_succ_mul_le n hm).1, hbound⟩

private theorem reportFits_iff {t hz d : ℕ} (hd : 0 < d)
    (hleast : IsLeast {d | d ∈ [8, 64, 512, 4096] ∧ Fits t hz d} d) :
    ReportFits t hz ↔ (t * hz / (1000 * d) / 4096 + 1) * (1000 * d * 4096) < 2 ^ 32 * hz := by
  rw [Nat.div_div_eq_div_mul, ← exists_multiple_iff (by omega)]
  constructor
  · rintro ⟨d', hleast', hk⟩
    cases hleast.unique hleast'
    exact hk
  · exact fun hk ↦ ⟨d, hleast, hk⟩

/-- With a clock above 16 kHz the longest timeout that can be programmed fits. -/
theorem reportFits_of_clock_gt {t hz : ℕ} (hhz : 16000 < hz)
    (hfits : ∃ d ∈ [8, 64, 512, 4096], Fits t hz d) : ReportFits t hz := by
  have hset : ∃ d, d ∈ [8, 64, 512, 4096] ∧ Fits t hz d := hfits
  have hleast : IsLeast {d | d ∈ [8, 64, 512, 4096] ∧ Fits t hz d} (Nat.find hset) :=
    ⟨Nat.find_spec hset, fun d hd ↦ Nat.find_min' hset hd⟩
  obtain ⟨hmem, hcrv⟩ := hleast.1
  have hd : 0 < Nat.find hset ∧ Nat.find hset ≤ 4096 := by
    have hall : ∀ d ∈ [8, 64, 512, 4096], 0 < d ∧ d ≤ 4096 := by decide
    exact hall _ hmem
  rw [reportFits_iff hd.1 hleast]
  have hblocks : (t * hz / (1000 * Nat.find hset) / 4096 + 1) * (1000 * Nat.find hset * 4096) ≤
      4096 * (1000 * 4096 * 4096) := by
    gcongr
    · exact Nat.succ_le_succ hcrv
    · exact hd.2
  omega

private theorem le_programmedMs {t hz d : ℕ} (hhz : 0 < hz) (hd : 0 < d) :
    t ≤ programmedMs (t * hz / (1000 * d) / 4096) d hz := by
  have hlt := (lt_succ_mul_le (t * hz) (show 0 < 1000 * d * 4096 by omega)).1
  rw [programmedMs, Nat.le_div_iff_mul_le hhz, Nat.div_div_eq_div_mul]
  linarith

private theorem programmedMs_lt_iff {crv d hz : ℕ} (hhz : 0 < hz) :
    programmedMs crv d hz < 2 ^ 32 ↔ (crv + 1) * (1000 * d * 4096) < 2 ^ 32 * hz := by
  have hticks : (crv + 1) * 4096 * d * 1000 = (crv + 1) * (1000 * d * 4096) := by ring
  rw [programmedMs, Nat.div_lt_iff_lt_mul hhz, hticks]

private theorem toNat_wdtProgrammedMs {p : WdtPrescaler} (hp : p ∈ sPrescalers)
    (hfits : Fits timeoutMs.toNat clockHz.toNat p.divider.toNat) :
    let crv := wdtCrv timeoutMs clockHz.toUInt64 p.divider
    crv.toUInt32.toNat = crv.toNat ∧
      (wdtProgrammedMs crv clockHz.toUInt64 p.divider).toNat =
        programmedMs crv.toNat p.divider.toNat clockHz.toNat := by
  intro crv
  obtain ⟨hnarrow, -, -, -, hmillis⟩ :=
    (noOverflow hp timeoutMs clockHz).fits crv rfl (wdtCrv_le_max hp hfits)
  refine ⟨hnarrow, ?_⟩
  rw [wdtProgrammedMs, UInt64.toNat_div, hmillis, UInt32.toNat_toUInt64, programmedMs]

namespace WdtDrv

variable {wdt : WdtDrv} {setup : WdtSetup}

private theorem init_guards (h : (wdt.init setup timeoutMs).2 = .ok) :
    timeoutMs ≠ 0 ∧ setup.clockHz ≠ 0 ∧ setup = ⟨true, true, setup.clockHz⟩ := by
  obtain ⟨configFound, initialised, clockHz⟩ := setup
  unfold init at h
  simp only at h
  split at h
  · cases h
  next hms =>
  cases configFound
  · cases h
  cases initialised
  · cases h
  refine ⟨hms, ?_, rfl⟩
  rintro rfl
  cases h

/-- A call that succeeds has programmed the first prescaler that fits. -/
theorem init_ok (h : (wdt.init setup timeoutMs).2 = .ok) :
    ∃ p ∈ sPrescalers,
      IsLeast {d | d ∈ [8, 64, 512, 4096] ∧ Fits timeoutMs.toNat setup.clockHz.toNat d}
        p.divider.toNat ∧
      (wdt.init setup timeoutMs).1 =
        program { wdt with ready := false, calls := wdt.calls ++ [.stop] }
          (wdtCrv timeoutMs setup.clockHz.toUInt64 p.divider) setup.clockHz.toUInt64 p := by
  obtain ⟨hms, hhz, hsetup⟩ := init_guards h
  have hsearch := init_eq_search wdt hms hhz
  rw [← hsetup, search_eq sPrescalers fun p hp ↦ hp] at hsearch
  rw [hsearch] at h ⊢
  cases hfind : sPrescalers.find? fun p ↦
      decide (Fits timeoutMs.toNat setup.clockHz.toNat p.divider.toNat) with
  | none =>
    rw [hfind] at h
    cases h
  | some p => exact ⟨p, List.mem_of_find?_eq_some hfind, isLeast_of_find? hfind, rfl⟩

private theorem reportedTimeoutMs_start_program (wdt : WdtDrv) (crv clockHz : UInt64)
    (p : WdtPrescaler) :
    (wdt.program crv clockHz p).start.reportedTimeoutMs =
      (wdtProgrammedMs crv clockHz p.divider).toUInt32 := rfl

end WdtDrv

/-- After `wdt_drv_init` has succeeded and `wdt_drv_start`, `wdt_drv_timeout_ms` answers the whole
milliseconds of the timeout programmed, and so no fewer than requested, if and only if a block ends
after the request and before `2 ^ 32` milliseconds. -/
theorem reportedTimeoutMs_iff (wdt : WdtDrv) (setup : WdtSetup) (timeoutMs : UInt32)
    (h : (wdt.init setup timeoutMs).2 = .ok) :
    let after := (wdt.init setup timeoutMs).1
    let reported := after.start.reportedTimeoutMs
    ∃ (pscale : WdtCcrPscale) (crv : UInt32),
      after.calls = wdt.calls ++ [.stop, .setClkPrescale pscale, .setCounterReset crv,
        .enableResetOutput, .disableIrqOutput] ∧
      ((reported.toNat = programmedMs crv.toNat pscale.division setup.clockHz.toNat ∧
        timeoutMs ≤ reported) ↔ ReportFits timeoutMs.toNat setup.clockHz.toNat) := by
  intro after reported
  obtain ⟨-, hhz, -⟩ := WdtDrv.init_guards h
  obtain ⟨p, hp, hleast, hafter⟩ := WdtDrv.init_ok h
  have hpos : 0 < setup.clockHz.toNat :=
    Nat.pos_of_ne_zero fun hzero ↦ hhz (UInt32.toNat_inj.mp hzero)
  have hd := (divider_le hp).1
  obtain ⟨hnarrow, hmillis⟩ := toNat_wdtProgrammedMs hp hleast.1.2
  have hcrv := (noOverflow hp timeoutMs setup.clockHz).crv
  have hkept : reported = _ := congrArg (fun wdt : WdtDrv ↦ wdt.start.reportedTimeoutMs) hafter
  rw [WdtDrv.reportedTimeoutMs_start_program] at hkept
  have hreported : reported.toNat =
      programmedMs (wdtCrv timeoutMs setup.clockHz.toUInt64 p.divider).toNat p.divider.toNat
        setup.clockHz.toNat % 2 ^ 32 := by
    rw [hkept, UInt64.toNat_toUInt32, hmillis]
  have hcalls : after.calls = _ := congrArg WdtDrv.calls hafter
  refine ⟨p.ccrValue, _, hcalls.trans (List.append_assoc wdt.calls [.stop] _), ?_⟩
  rw [← divider_eq hp, reportFits_iff hd hleast, ← programmedMs_lt_iff hpos, ← hcrv, hnarrow,
    hreported, UInt32.le_iff_toNat_le, hreported]
  constructor
  · rintro ⟨heq, -⟩
    rw [← heq]
    exact Nat.mod_lt _ (by decide)
  · intro hlt
    rw [Nat.mod_eq_of_lt hlt, hcrv]
    exact ⟨rfl, le_programmedMs hpos hd⟩

/-- Two seconds at 111 111 115 Hz are reported as programmed. -/
theorem reportedTimeoutMs_iff_two_seconds :
    ∃ (pscale : WdtCcrPscale) (crv : UInt32),
      (WdtDrv.boot.init ⟨true, true, 111111115⟩ 2000).1.calls = [.stop,
        .setClkPrescale pscale, .setCounterReset crv, .enableResetOutput, .disableIrqOutput] ∧
      (WdtDrv.boot.init ⟨true, true, 111111115⟩ 2000).1.start.reportedTimeoutMs.toNat =
        programmedMs crv.toNat pscale.division 111111115 := by
  obtain ⟨pscale, crv, hcalls, hiff⟩ :=
    reportedTimeoutMs_iff .boot ⟨true, true, 111111115⟩ 2000 (by decide)
  have hfits : ReportFits 2000 111111115 :=
    reportFits_of_clock_gt (by decide) ⟨64, by decide, by decide⟩
  exact ⟨pscale, crv, hcalls, (hiff.mpr hfits).1⟩

/-- The longest timeout at 16 kHz is `2 ^ 32` milliseconds, and reported as none. -/
theorem reportedTimeoutMs_wraps :
    let after := WdtDrv.boot.init ⟨true, true, 16000⟩ 4294967295
    let programmed := programmedMs 0xFFF WdtCcrPscale.pscale4096.division 16000
    after.2 = .ok ∧
      after.1.calls = [.stop, .setClkPrescale .pscale4096, .setCounterReset 0xFFF,
        .enableResetOutput, .disableIrqOutput] ∧
      programmed = 4294967296 ∧
      after.1.start.reportedTimeoutMs = 0 ∧
      ¬ (after.1.start.reportedTimeoutMs.toNat = programmed ∧
        4294967295 ≤ after.1.start.reportedTimeoutMs) := by
  decide

end SensorAggregator.Drivers
