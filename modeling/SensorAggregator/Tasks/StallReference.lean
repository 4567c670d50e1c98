import Mathlib.Order.Bounds.Basic
import SensorAggregator.Base.Counter
import SensorAggregator.Tasks.Consumer

/-!
# The stall check decides as a reference on unbounded time

`consumer_check_stall` remembers the last count it saw change, when that was, and whether it has
warned since, all in wrapping 32-bit words, `task_consumer.c:445–472`. `StallPasses` runs it
against true ticks and true sample counts. It warns exactly when a stall lasts long enough and
was not warned of before, as long as the passes do not come too far apart for the words.
-/

namespace SensorAggregator.Tasks

open Base

/-- Two states agree on what `consumer_check_stall` keeps. -/
structure SameStall (state state' : ConsumerState) : Prop where
  stallReported : state'.stallReported = state.stallReported
  lastProducerSamples : state'.lastProducerSamples = state.lastProducerSamples
  lastProgressTick : state'.lastProgressTick = state.lastProgressTick

/-- The passes of `consumer_task` over its loop, in true ticks and true counts. Number 0 is the
start of the task, `task_consumer.c:492`, and `state i` is `s_state` as pass `i + 1` finds it:
what else the passes do to it is left open. -/
structure StallPasses (cfg : AppConfig) where
  tick : ℕ → ℕ
  count : ℕ → ℕ
  state : ℕ → ConsumerState
  count_zero : count 0 = 0
  start_reported : (state 0).stallReported = false
  start_samples : (state 0).lastProducerSamples = 0
  start_tick : (state 0).lastProgressTick = UInt32.ofNat (tick 0)
  kept : ∀ i, SameStall (consumerCheckStall cfg (state i) (UInt32.ofNat (tick (i + 1)))
    (UInt32.ofNat (count (i + 1)))).1 (state (i + 1))
  tick_le : ∀ i, tick i ≤ tick (i + 1)
  tick_gap : ∀ i, tick (i + 1) < tick i + (2 ^ 32 - cfg.stallTicks.toNat)
  count_le : ∀ i, count i ≤ count (i + 1)
  count_gap : ∀ i, count (i + 1) < count i + 2 ^ 32

namespace StallPasses

/-- What `s_state` is at each pass of a task that only checks for stalls. -/
def stateOf (cfg : AppConfig) (tick count : ℕ → ℕ) : ℕ → ConsumerState
  | 0 => (Consumer.boot.start (UInt32.ofNat (tick 0))).state
  | i + 1 =>
    (consumerCheckStall cfg (stateOf cfg tick count i) (UInt32.ofNat (tick (i + 1)))
      (UInt32.ofNat (count (i + 1)))).1

/-- Any ticks and counts that do not leap too far are those of some passes. -/
def ofCounts (cfg : AppConfig) (tick count : ℕ → ℕ) (count_zero : count 0 = 0)
    (tick_le : ∀ i, tick i ≤ tick (i + 1))
    (tick_gap : ∀ i, tick (i + 1) < tick i + (2 ^ 32 - cfg.stallTicks.toNat))
    (count_le : ∀ i, count i ≤ count (i + 1))
    (count_gap : ∀ i, count (i + 1) < count i + 2 ^ 32) : StallPasses cfg where
  tick := tick
  count := count
  state := stateOf cfg tick count
  count_zero := count_zero
  start_reported := rfl
  start_samples := rfl
  start_tick := rfl
  kept _ := ⟨rfl, rfl, rfl⟩
  tick_le := tick_le
  tick_gap := tick_gap
  count_le := count_le
  count_gap := count_gap

/-- A producer that never samples, looked at every 600 ticks. -/
def silent : StallPasses appConfig :=
  ofCounts appConfig (fun i ↦ 600 * i) (fun _ ↦ 0) rfl (fun i ↦ by omega)
    (fun i ↦ by
      have hticks : appConfig.stallTicks.toNat = 1000 := by decide
      omega)
    (fun _ ↦ Nat.le_refl 0) (fun _ ↦ by omega)

variable {cfg : AppConfig} (p : StallPasses cfg)

/-- The call of `consumer_check_stall` in pass `i + 1`. -/
def check (i : ℕ) : ConsumerState × Bool :=
  consumerCheckStall cfg (p.state i) (UInt32.ofNat (p.tick (i + 1)))
    (UInt32.ofNat (p.count (i + 1)))

/-- Pass `i` prints the warning. The start of the task is no pass and prints none. -/
def Warns : ℕ → Prop
  | 0 => False
  | i + 1 => (p.check i).2 = true

instance (i : ℕ) : Decidable (p.Warns i) :=
  match i with
  | 0 => inferInstanceAs (Decidable False)
  | i + 1 => inferInstanceAs (Decidable ((p.check i).2 = true))

/-- Pass `i` sees a count it has not seen before; the start of the task counts as one that does. -/
def Observes (i : ℕ) : Prop := i = 0 ∨ p.count i ≠ p.count (i - 1)

/-- The last pass up to `i` that saw a changed count, or the start. -/
def reference : ℕ → ℕ
  | 0 => 0
  | i + 1 => if p.count (i + 1) = p.count i then reference i else i + 1

/-- The reference point is the last pass that saw a changed count, or the start. -/
theorem isGreatest_reference (i : ℕ) :
    IsGreatest {k | k ≤ i ∧ p.Observes k} (p.reference i) := by
  induction i with
  | zero => exact ⟨⟨Nat.le_refl 0, .inl rfl⟩, fun k hk ↦ hk.1⟩
  | succ i ih =>
    unfold reference
    split
    · next hsame =>
      refine ⟨⟨Nat.le_succ_of_le ih.1.1, ih.1.2⟩, ?_⟩
      rintro k ⟨hk, hobserves⟩
      rcases Nat.lt_or_eq_of_le hk with hlt | rfl
      · exact ih.2 ⟨Nat.le_of_lt_succ hlt, hobserves⟩
      · rcases hobserves with hzero | hne
        · cases hzero
        · exact absurd hsame hne
    · next hchanged => exact ⟨⟨Nat.le_refl _, .inr hchanged⟩, fun k hk ↦ hk.1⟩

/-- Nothing was sampled between the reference point and the pass. -/
theorem count_reference (i : ℕ) : p.count (p.reference i) = p.count i := by
  induction i with
  | zero => rfl
  | succ i ih =>
    unfold reference
    split
    · next hsame => rw [ih, hsame]
    · rfl

/-- What the three words mean after pass `i`. -/
structure Tracks (i : ℕ) : Prop where
  samples : (p.state i).lastProducerSamples = UInt32.ofNat (p.count i)
  tick : (p.state i).lastProgressTick = UInt32.ofNat (p.tick (p.reference i))
  reported : (p.state i).stallReported = true ↔ ∃ k, p.reference i < k ∧ k ≤ i ∧ p.Warns k
  fresh : (p.state i).stallReported = false → p.reference i < i →
    p.tick i - p.tick (p.reference i) < cfg.stallTicks.toNat

variable {p} {i : ℕ}

private theorem tracks_zero : p.Tracks 0 where
  samples := by rw [p.start_samples, p.count_zero]; rfl
  tick := p.start_tick
  reported := by
    rw [p.start_reported]
    constructor
    · intro h
      cases h
    · rintro ⟨k, hlt, hle, -⟩
      exact absurd (Nat.lt_of_lt_of_le hlt hle) (Nat.not_lt_zero _)
  fresh := fun _ hlt ↦ absurd hlt (Nat.not_lt_zero _)

/-- A changed count is seen as one. -/
theorem Tracks.changed_iff (h : p.Tracks i) :
    UInt32.ofNat (p.count (i + 1)) ≠ (p.state i).lastProducerSamples ↔
      p.count (i + 1) ≠ p.count i := by
  have hle := p.count_le i
  have hgap := p.count_gap i
  rw [h.samples, ne_eq, Counter.ofNat_eq_ofNat_iff]
  omega

private theorem Tracks.elapsed (h : p.Tracks i) (hreported : (p.state i).stallReported = false) :
    (UInt32.ofNat (p.tick (i + 1)) - (p.state i).lastProgressTick).toNat =
      p.tick (i + 1) - p.tick (p.reference i) := by
  have hgap := p.tick_gap i
  have hle : p.reference i ≤ i := (p.isGreatest_reference i).1.1
  have hmono := monotone_nat_of_le_succ p.tick_le
  have href : p.tick (p.reference i) ≤ p.tick i := hmono hle
  have hnow : p.tick i ≤ p.tick (i + 1) := p.tick_le i
  rw [h.tick, Counter.toNat_ofNat_sub (href.trans hnow)]
  rcases Nat.lt_or_eq_of_le hle with hlt | heq
  · have hfresh := h.fresh hreported hlt
    omega
  · rw [heq]
    omega

private theorem Tracks.check_changed (h : p.Tracks i) (hne : p.count (i + 1) ≠ p.count i) :
    p.check i =
      ({ p.state i with
          lastProducerSamples := UInt32.ofNat (p.count (i + 1))
          lastProgressTick := UInt32.ofNat (p.tick (i + 1))
          stallReported := false }, false) :=
  if_pos (h.changed_iff.mpr hne)

private theorem Tracks.check_same (h : p.Tracks i) (heq : p.count (i + 1) = p.count i) :
    p.check i =
      if (p.state i).stallReported = false ∧
          cfg.stallTicks.toNat ≤ p.tick (i + 1) - p.tick (p.reference i) then
        ({ p.state i with stallReported := true }, true)
      else (p.state i, false) := by
  have hsame : ¬ UInt32.ofNat (p.count (i + 1)) ≠ (p.state i).lastProducerSamples :=
    fun hne ↦ h.changed_iff.mp hne heq
  rw [check, consumerCheckStall, if_neg hsame]
  cases hreported : (p.state i).stallReported with
  | true => simp
  | false =>
    rw [← h.elapsed hreported]
    simp [UInt32.le_iff_toNat_le]

/-- A pass warns when nothing was sampled since the reference point, the stall is long enough, and
no pass since then has warned. -/
theorem Tracks.warns_iff (h : p.Tracks i) :
    p.Warns (i + 1) ↔
      p.count (i + 1) = p.count (p.reference i) ∧
        cfg.stallTicks.toNat ≤ p.tick (i + 1) - p.tick (p.reference i) ∧
        ∀ k, p.reference i < k → k ≤ i → ¬ p.Warns k := by
  have hreported : (p.state i).stallReported = false ↔
      ∀ k, p.reference i < k → k ≤ i → ¬ p.Warns k := by
    rw [← Bool.not_eq_true, h.reported]
    push Not
    rfl
  rw [p.count_reference, ← hreported, Warns]
  by_cases heq : p.count (i + 1) = p.count i
  · rw [h.check_same heq]
    split
    · next hwarn => simp [heq, hwarn]
    · next hquiet =>
      simp only [Bool.false_eq_true, heq, true_and, false_iff]
      exact fun hwarn ↦ hquiet hwarn.symm
  · rw [h.check_changed heq]
    simp [heq]

/-- Each pass leaves the words meaning what they should. -/
theorem Tracks.next (h : p.Tracks i) : p.Tracks (i + 1) := by
  have hkept : SameStall (p.check i).1 (p.state (i + 1)) := p.kept i
  by_cases heq : p.count (i + 1) = p.count i
  · have href : p.reference (i + 1) = p.reference i := if_pos heq
    have hwarns : p.Warns (i + 1) ↔ (p.check i).2 = true := Iff.rfl
    rw [h.check_same heq] at hkept hwarns
    split at hkept
    · next hwarn =>
      rw [if_pos hwarn] at hwarns
      exact {
        samples := by rw [hkept.lastProducerSamples, heq]; exact h.samples
        tick := by rw [hkept.lastProgressTick, href]; exact h.tick
        reported := by
          rw [hkept.stallReported, href]
          refine ⟨fun _ ↦ ⟨i + 1, ?_, Nat.le_refl _, hwarns.mpr rfl⟩, fun _ ↦ rfl⟩
          exact Nat.lt_succ_of_le (p.isGreatest_reference i).1.1
        fresh := by
          intro hreported
          rw [hkept.stallReported] at hreported
          cases hreported }
    · next hquiet =>
      rw [if_neg hquiet] at hwarns
      exact {
        samples := by rw [hkept.lastProducerSamples, heq]; exact h.samples
        tick := by rw [hkept.lastProgressTick, href]; exact h.tick
        reported := by
          rw [hkept.stallReported, href, h.reported]
          refine exists_congr fun k ↦ and_congr_right fun _ ↦ ?_
          constructor
          · exact fun ⟨hle, hk⟩ ↦ ⟨Nat.le_succ_of_le hle, hk⟩
          · rintro ⟨hle, hk⟩
            refine ⟨?_, hk⟩
            rcases Nat.lt_or_eq_of_le hle with hlt | rfl
            · exact Nat.le_of_lt_succ hlt
            · cases hwarns.mp hk
        fresh := by
          intro hreported _
          rw [hkept.stallReported] at hreported
          rw [href]
          exact Nat.lt_of_not_le fun hlong ↦ hquiet ⟨hreported, hlong⟩ }
  · have href : p.reference (i + 1) = i + 1 := if_neg heq
    rw [h.check_changed heq] at hkept
    exact {
      samples := hkept.lastProducerSamples
      tick := by rw [hkept.lastProgressTick, href]
      reported := by
        rw [hkept.stallReported, href]
        constructor
        · intro hreported
          cases hreported
        · rintro ⟨k, hlt, hle, -⟩
          exact absurd hlt (Nat.not_lt_of_le hle)
      fresh := fun _ hlt ↦ absurd hlt (by rw [href]; exact Nat.lt_irrefl _) }

/-- The words track the passes all along. -/
theorem tracks (p : StallPasses cfg) (i : ℕ) : p.Tracks i := by
  induction i with
  | zero => exact tracks_zero
  | succ i ih => exact ih.next

private theorem not_warns_of_observes (hobserves : p.Observes i) : ¬ p.Warns i := by
  intro hwarns
  cases i with
  | zero => exact hwarns
  | succ i =>
    have hsame := ((p.tracks i).warns_iff.mp hwarns).1
    rw [p.count_reference] at hsame
    rcases hobserves with hzero | hne
    · cases hzero
    · exact hne hsame

/-- Between two warnings some pass sees a new sample. -/
theorem exists_observes_of_warns {k : ℕ} (hlt : i < k) (hi : p.Warns i) (hk : p.Warns k) :
    ∃ m, i < m ∧ m < k ∧ p.count m ≠ p.count (m - 1) := by
  obtain ⟨j, rfl⟩ := Nat.exists_eq_succ_of_ne_zero (Nat.ne_zero_of_lt hlt)
  obtain ⟨-, -, hquiet⟩ := (p.tracks j).warns_iff.mp hk
  have href : i < p.reference j := by
    by_contra hle
    rcases Nat.lt_or_eq_of_le (Nat.le_of_not_lt hle) with href | rfl
    · exact hquiet i href (Nat.le_of_lt_succ hlt) hi
    · exact not_warns_of_observes (p.isGreatest_reference j).1.2 hi
  obtain ⟨hle, hobserves⟩ := (p.isGreatest_reference j).1
  refine ⟨p.reference j, href, Nat.lt_succ_of_le hle, ?_⟩
  rcases hobserves with hzero | hne
  · omega
  · exact hne

/-- After a pass that saw a new sample, a stall that is long enough is warned of. -/
theorem exists_warns_of_stall {m k : ℕ} (hm : p.Observes m) (hlt : m < k)
    (hsame : p.count k = p.count m) (hlong : cfg.stallTicks.toNat ≤ p.tick k - p.tick m) :
    ∃ j, m < j ∧ j ≤ k ∧ p.Warns j := by
  obtain ⟨n, rfl⟩ := Nat.exists_eq_succ_of_ne_zero (Nat.ne_zero_of_lt hlt)
  have hsame' : p.count (n + 1) = p.count m := hsame
  have hmono := monotone_nat_of_le_succ p.count_le
  have hle : m ≤ n := Nat.le_of_lt_succ hlt
  obtain ⟨⟨hrefle, hobserves⟩, hgreatest⟩ := p.isGreatest_reference n
  have href : p.reference n = m := by
    apply Nat.le_antisymm _ (hgreatest ⟨hle, hm⟩)
    by_contra hlater
    rcases hobserves with hzero | hne
    · omega
    · have h₁ : p.count m ≤ p.count (p.reference n - 1) := hmono (by omega)
      have h₂ : p.count (p.reference n - 1) ≤ p.count (p.reference n) := hmono (Nat.sub_le _ _)
      have h₃ : p.count (p.reference n) ≤ p.count (n + 1) := hmono (Nat.le_succ_of_le hrefle)
      omega
  by_cases hwarned : ∃ j, m < j ∧ j ≤ n ∧ p.Warns j
  · obtain ⟨j, hj, hjn, hwarns⟩ := hwarned
    exact ⟨j, hj, Nat.le_succ_of_le hjn, hwarns⟩
  · refine ⟨n + 1, hlt, Nat.le_refl _, (p.tracks n).warns_iff.mpr ?_⟩
    rw [href]
    exact ⟨hsame', hlong, fun j hj hjn hwarns ↦ hwarned ⟨j, hj, hjn, hwarns⟩⟩

end StallPasses

/-- Stall detection is sound and warns once per stall. A pass warns exactly when no sample was
taken since the last earlier pass that saw a changed count, or since the start of the task, when
that was at least `stallTicks` true ticks ago, and when no pass since then has warned. So between
two warnings some pass saw a new sample, and every pass that sees one arms the next warning. -/
theorem stall_warns_as_reference {cfg : AppConfig} (p : StallPasses cfg) (i : ℕ) :
    (p.Warns (i + 1) ↔
      p.count (i + 1) = p.count (p.reference i) ∧
        cfg.stallTicks.toNat ≤ p.tick (i + 1) - p.tick (p.reference i) ∧
        ∀ k, p.reference i < k → k ≤ i → ¬ p.Warns k) ∧
      IsGreatest {k | k ≤ i ∧ p.Observes k} (p.reference i) ∧
      (∀ k, i < k → p.Warns i → p.Warns k → ∃ m, i < m ∧ m < k ∧ p.count m ≠ p.count (m - 1)) ∧
      ∀ k, p.Observes i → i < k → p.count k = p.count i →
        cfg.stallTicks.toNat ≤ p.tick k - p.tick i → ∃ j, i < j ∧ j ≤ k ∧ p.Warns j :=
  ⟨(p.tracks i).warns_iff, p.isGreatest_reference i,
    fun _ hlt hi hk ↦ StallPasses.exists_observes_of_warns hlt hi hk,
    fun _ hm hlt hsame hlong ↦ StallPasses.exists_warns_of_stall hm hlt hsame hlong⟩

/-- After 1200 ticks without a sample the second pass warns, and none before it has. -/
theorem stall_warns_as_reference_silent :
    StallPasses.silent.Warns 2 ∧ ¬ StallPasses.silent.Warns 1 ∧
      ∃ j, 0 < j ∧ j ≤ 2 ∧ StallPasses.silent.Warns j := by
  have hticks : appConfig.stallTicks.toNat = 1000 := by decide
  refine ⟨(stall_warns_as_reference StallPasses.silent 1).1.mpr ⟨rfl, ?_, ?_⟩, by decide, ?_⟩
  · rw [hticks]
    decide
  · intro k hlt hle
    have hk : k = 1 := by omega
    rw [hk]
    decide
  · refine (stall_warns_as_reference StallPasses.silent 0).2.2.2 2 (.inl rfl) (by decide) rfl ?_
    rw [hticks]
    decide

end SensorAggregator.Tasks
