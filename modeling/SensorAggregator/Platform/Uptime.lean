import SensorAggregator.Base.Counter
import SensorAggregator.Base.Ticks

/-!
# Time since boot

Models `uptime_init`, `uptime_us` and `uptime_ms` of `system/uptime.c`. What `XTime_GetTime` answers
is the argument `counts`, and `COUNTS_PER_SECOND` of the generated headers is `countsPerSec`.
-/

namespace SensorAggregator.Platform

open Base

/-- `USEC_PER_SEC`, `uptime.c:19`. -/
def usecPerSec : UInt64 := 1000000

/-- `uptime_init`, `uptime.c:28–48`, which reads `counts` after its sleep. -/
def uptimeInit (counts : UInt64) : Bool := counts != 0

/-- `uptime_us`, `uptime.c:50–67`. -/
def uptimeUs (counts countsPerSec : UInt64) : UInt64 :=
  let wholeSec := counts / countsPerSec
  let remCounts := counts % countsPerSec
  wholeSec * usecPerSec + remCounts * usecPerSec / countsPerSec

/-- `uptime_ms`, `uptime.c:69–72`. -/
def uptimeMs (counts countsPerSec : UInt64) : UInt32 :=
  (uptimeUs counts countsPerSec / 1000).toUInt32

/-- Each intermediate value of `uptime_us` is the true one. -/
structure UptimeExact (counts countsPerSec : UInt64) : Prop where
  whole : (counts / countsPerSec * usecPerSec).toNat =
    counts.toNat / countsPerSec.toNat * 1000000
  rest : (counts % countsPerSec * usecPerSec).toNat =
    counts.toNat % countsPerSec.toNat * 1000000
  sum : (uptimeUs counts countsPerSec).toNat =
    counts.toNat / countsPerSec.toNat * 1000000 +
      counts.toNat % countsPerSec.toNat * 1000000 / countsPerSec.toNat

variable {countsPerSec : UInt64}

/-- The whole seconds do not overflow because the count did not, nor the rest because it is less
than a second. -/
theorem uptimeExact (hlo : 1000000 ≤ countsPerSec.toNat) (hhi : countsPerSec.toNat < 2 ^ 29)
    (counts : UInt64) : UptimeExact counts countsPerSec := by
  have hcounts := counts.toNat_lt
  have hpos : 0 < countsPerSec.toNat := by omega
  have hunit : usecPerSec.toNat = 1000000 := rfl
  have hmod : counts.toNat % countsPerSec.toNat < countsPerSec.toNat := Nat.mod_lt _ hpos
  have hrest : (counts % countsPerSec * usecPerSec).toNat =
      counts.toNat % countsPerSec.toNat * 1000000 := by
    rw [UInt64.toNat_mul, UInt64.toNat_mod, hunit, Nat.mod_eq_of_lt]
    omega
  have hsplit := Ticks.div_mul_add_mod_mul_div hpos counts.toNat 1000000
  have htotal : counts.toNat / countsPerSec.toNat * 1000000 +
      counts.toNat % countsPerSec.toNat * 1000000 / countsPerSec.toNat < 2 ^ 64 := by
    rw [hsplit]
    exact Nat.lt_of_le_of_lt (Ticks.mul_div_le hlo _) hcounts
  have hwhole : (counts / countsPerSec * usecPerSec).toNat =
      counts.toNat / countsPerSec.toNat * 1000000 := by
    rw [UInt64.toNat_mul, UInt64.toNat_div, hunit, Nat.mod_eq_of_lt]
    exact Nat.lt_of_le_of_lt (Nat.le_add_right _ _) htotal
  refine ⟨hwhole, hrest, ?_⟩
  rw [uptimeUs, UInt64.toNat_add, UInt64.toNat_div, hwhole, hrest, Nat.mod_eq_of_lt htotal]

private theorem toNat_uptimeUs (hlo : 1000000 ≤ countsPerSec.toNat)
    (hhi : countsPerSec.toNat < 2 ^ 29)
    (counts : UInt64) : (uptimeUs counts countsPerSec).toNat =
      counts.toNat * 1000000 / countsPerSec.toNat := by
  rw [(uptimeExact hlo hhi counts).sum]
  exact Ticks.div_mul_add_mod_mul_div (by omega) counts.toNat 1000000

private theorem uptimeMs_eq_ofNat (hlo : 1000000 ≤ countsPerSec.toNat)
    (hhi : countsPerSec.toNat < 2 ^ 29) (counts : UInt64) :
    uptimeMs counts countsPerSec = UInt32.ofNat (Ticks.ms countsPerSec.toNat counts.toNat) := by
  have hthousand : (1000 : UInt64).toNat = 1000 := rfl
  apply UInt32.toNat_inj.mp
  have hms := Ticks.div_div_eq_ms countsPerSec.toNat counts.toNat 1000000
    (show 0 < 1000 by decide) rfl
  rw [uptimeMs, UInt64.toNat_toUInt32, UInt64.toNat_div, toNat_uptimeUs hlo hhi, hthousand, hms,
    UInt32.toNat_ofNat']

/-- The clock is exact at every frequency from 1 MHz to `2 ^ 29` Hz. Nothing overflows and nothing
is lost by taking the whole seconds first, so the clock does not go back, two readings are apart by
the time between them to less than a microsecond, and the wrapping milliseconds give every
difference that 32 bits hold. -/
theorem uptime_exact (countsPerSec : UInt64) (hlo : 1000000 ≤ countsPerSec.toNat)
    (hhi : countsPerSec.toNat < 2 ^ 29) :
    let ms := fun counts : UInt64 ↦ counts.toNat * 1000 / countsPerSec.toNat
    (∀ counts : UInt64, UptimeExact counts countsPerSec ∧
      (uptimeUs counts countsPerSec).toNat = counts.toNat * 1000000 / countsPerSec.toNat ∧
      (uptimeMs counts countsPerSec).toNat = ms counts % 2 ^ 32) ∧
    ∀ m n : UInt64,
      (m ≤ n → uptimeUs m countsPerSec ≤ uptimeUs n countsPerSec) ∧
      |((uptimeUs n countsPerSec).toNat - (uptimeUs m countsPerSec).toNat : ℚ) -
        (n.toNat - m.toNat) * 1000000 / countsPerSec.toNat| < 1 ∧
      (ms m ≤ ms n → ms n - ms m < 2 ^ 32 →
        (uptimeMs n countsPerSec - uptimeMs m countsPerSec).toNat = ms n - ms m) := by
  intro ms
  have hus := toNat_uptimeUs hlo hhi
  have hms := uptimeMs_eq_ofNat hlo hhi
  refine ⟨fun counts ↦ ⟨uptimeExact hlo hhi counts, hus counts, ?_⟩, fun m n ↦ ⟨?_, ?_, ?_⟩⟩
  · rw [hms, UInt32.toNat_ofNat', Ticks.ms]
  · intro hle
    rw [UInt64.le_iff_toNat_le, hus, hus]
    exact Nat.div_le_div_right (Nat.mul_le_mul_right _ (UInt64.le_iff_toNat_le.mp hle))
  · have hclose := Ticks.abs_div_sub_div_lt_one countsPerSec.toNat (m.toNat * 1000000)
      (n.toNat * 1000000)
    rw [hus, hus, sub_mul]
    exact_mod_cast hclose
  · intro hle hlt
    rw [hms, hms]
    exact Counter.toNat_ofNat_sub hle hlt

/-- The last 1000 seconds that the counter holds, at 325 MHz. -/
theorem uptime_exact_325_mhz :
    (uptimeUs 18446744073709551615 325000000).toNat =
        18446744073709551615 * 1000000 / 325000000 ∧
      (uptimeMs 18446744073709551615 325000000 -
        uptimeMs 18446743748709551615 325000000).toNat = 1000000 := by
  have hexact := uptime_exact 325000000 (by decide) (by decide)
  have hpair := hexact.2 18446743748709551615 18446744073709551615
  have hdifference := hpair.2.2 (by decide) (by decide)
  exact ⟨(hexact.1 18446744073709551615).2.1, hdifference.trans (by decide)⟩

end SensorAggregator.Platform
