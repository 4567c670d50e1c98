import Mathlib.Data.List.Chain
import SensorAggregator.Base.Counter
import SensorAggregator.Base.Machine
import SensorAggregator.Base.Ticks
import SensorAggregator.Tasks.Watchdog

/-!
# The supervisor decides as a reference on unbounded time

`Supervisor` runs the code of `task_watchdog.c` against a tick count that never wraps and keeps,
for each pass, when it happened and when every client had last checked in. `Pass.expected` is
what a supervisor with unbounded arithmetic would do at that pass. The two agree as long as no
pass comes so late that a client's silence could have wrapped since the one before.
-/

namespace SensorAggregator.Tasks

open Base

/-- One pass of the supervisor, in true ticks. -/
structure Pass where
  tick : ℕ
  last : WdogClient → ℕ
  output : PassOutput

/-- The supervisor, its clients, the true tick count, the true tick of every client's last
check-in, and the passes so far. -/
structure Supervisor where
  clients : WdogClient → WdogClientState
  wdog : Wdog
  tick : ℕ
  last : WdogClient → ℕ
  history : List Pass

/-- What happens around the supervisor. A check-in may store a tick count read some time ago. -/
inductive SupervisorAction where
  | tick
  | checkin (client : WdogClient) (tick : ℕ)
  | pass
  | injectHang (client : WdogClient)

namespace Supervisor

/-- Tick 0, before the first check-in and the first pass. -/
def boot (cfg : AppConfig) : Supervisor where
  clients := wdogClients cfg
  wdog := .boot
  tick := 0
  last _ := 0
  history := []

/-- `task_watchdog_checkin` stores a tick count it has read. -/
def checkin (w : Supervisor) (client : WdogClient) (tick : ℕ) : Supervisor :=
  { w with
    clients := wdogStoreCheckin w.clients client (UInt32.ofNat tick)
    last := Function.update w.last client tick }

/-- `task_watchdog_inject_hang`. -/
def injectHang (w : Supervisor) (client : WdogClient) : Supervisor :=
  { w with clients := taskWatchdogInjectHang w.clients client }

/-- One pass of `wdog_task`, on the wrapped tick count. -/
def pass (cfg : AppConfig) (running : Bool) (timeoutMs : UInt32) (w : Supervisor) : Supervisor :=
  let (wdog, output) := w.wdog.pass cfg running timeoutMs (UInt32.ofNat w.tick) w.clients
  { w with wdog := wdog, history := w.history ++ [⟨w.tick, w.last, output⟩] }

/-- One step. A client's tick counts are its own readings, so they never go back. -/
def step (cfg : AppConfig) (running : Bool) (timeoutMs : UInt32) (w : Supervisor) :
    SupervisorAction → Option Supervisor
  | .tick => some { w with tick := w.tick + 1 }
  | .checkin client tick =>
    if w.last client ≤ tick ∧ tick ≤ w.tick then some (w.checkin client tick) else none
  | .pass => some (w.pass cfg running timeoutMs)
  | .injectHang client => some (w.injectHang client)

/-- The tick of the last pass, or tick 0. -/
def lastPass (w : Supervisor) : ℕ := (w.history.getLast?.map (·.tick)).getD 0

end Supervisor

namespace Pass

/-- True silence of a client at a pass, in whole milliseconds. -/
def silenceMs (cfg : AppConfig) (p : Pass) (client : WdogClient) : ℕ :=
  Ticks.ms cfg.tickRateHz.toNat (p.tick - p.last client)

/-- Every client checked in within its limit. -/
def OnTime (cfg : AppConfig) (p : Pass) : Prop :=
  ∀ client : WdogClient, p.silenceMs cfg client ≤ (client.limitMs cfg).toNat

/-- The lowest-numbered late client. -/
def firstLate (cfg : AppConfig) (p : Pass) : Option WdogClient :=
  WdogClient.all.find? fun client ↦ (client.limitMs cfg).toNat < p.silenceMs cfg client

/-- Nobody is late exactly when everybody is on time. -/
theorem firstLate_eq_none {cfg : AppConfig} {p : Pass} : p.firstLate cfg = none ↔ p.OnTime cfg := by
  simp only [firstLate, List.find?_eq_none, WdogClient.mem_all, true_imp_iff, decide_eq_true_eq,
    Nat.not_lt]
  rfl

instance (cfg : AppConfig) (p : Pass) : Decidable (p.OnTime cfg) :=
  decidable_of_iff _ firstLate_eq_none

/-- What a supervisor on unbounded time does at a pass, after the passes `earlier`. -/
def expected (cfg : AppConfig) (running : Bool) (timeoutMs : UInt32) (earlier : List Pass)
    (p : Pass) : PassOutput :=
  if ∀ q ∈ earlier, q.OnTime cfg then
    match p.firstLate cfg with
    | none => ⟨running, []⟩
    | some client =>
      ⟨false, wdogReportLate client.name (UInt32.ofNat (p.silenceMs cfg client)) running timeoutMs⟩
  else ⟨false, []⟩

end Pass

/-- From one pass at tick `t` to the next at `t'` no silence within its limit can grow past
`2 ^ 32` ticks or `2 ^ 32` ms. -/
def Close (cfg : AppConfig) (t t' : ℕ) : Prop :=
  ∀ client : WdogClient,
    let silence := Ticks.horizon cfg.tickRateHz.toNat (client.limitMs cfg).toNat + (t' - t)
    silence < 2 ^ 32 ∧ Ticks.ms cfg.tickRateHz.toNat silence < 2 ^ 32

instance (cfg : AppConfig) (t t' : ℕ) : Decidable (Close cfg t t') :=
  decidable_of_iff (∀ client ∈ WdogClient.all,
    Ticks.horizon cfg.tickRateHz.toNat (client.limitMs cfg).toNat + (t' - t) < 2 ^ 32 ∧
      Ticks.ms cfg.tickRateHz.toNat
        (Ticks.horizon cfg.tickRateHz.toNat (client.limitMs cfg).toNat + (t' - t)) < 2 ^ 32)
    ⟨fun h client ↦ h client client.mem_all, fun h client _ ↦ h client⟩

/-- Tick 0 and all passes follow each other closely enough. -/
def Spaced (cfg : AppConfig) (history : List Pass) : Prop :=
  (0 :: history.map (·.tick)).IsChain (Close cfg)

instance (cfg : AppConfig) (history : List Pass) : Decidable (Spaced cfg history) :=
  inferInstanceAs (Decidable (List.IsChain (Close cfg) _))

/-- The spacing of a longer history is that of its last pass after the others. -/
theorem spaced_concat {cfg : AppConfig} {history : List Pass} {p : Pass} :
    Spaced cfg (history ++ [p]) ↔
      Spaced cfg history ∧ Close cfg ((history.getLast?.map (·.tick)).getD 0) p.tick := by
  rw [Spaced, Spaced, List.map_append, ← List.cons_append, List.isChain_append]
  simp only [List.map_cons, List.map_nil, List.IsChain.singleton, true_and, List.head?_cons,
    Option.mem_def, Option.some_inj, forall_eq']
  rw [List.getLast?_cons, List.getLast?_map]
  simp

/-- `wdog_ticks_to_ms` is exact while its result fits. -/
theorem toNat_wdogTicksToMs {cfg : AppConfig} {now last : ℕ} (hle : last ≤ now)
    (hticks : now - last < 2 ^ 32) (hms : Ticks.ms cfg.tickRateHz.toNat (now - last) < 2 ^ 32) :
    (wdogTicksToMs cfg (UInt32.ofNat now - UInt32.ofNat last)).toNat =
      Ticks.ms cfg.tickRateHz.toNat (now - last) := by
  have hsub := Counter.toNat_ofNat_sub hle hticks
  rw [wdogTicksToMs, UInt64.toNat_toUInt32, UInt64.toNat_div, UInt64.toNat_mul,
    UInt32.toNat_toUInt64, UInt32.toNat_toUInt64, hsub,
    Nat.mod_eq_of_lt (a := (now - last) * UInt64.toNat 1000)
      (by rw [show UInt64.toNat 1000 = 1000 from rfl]; omega)]
  exact Nat.mod_eq_of_lt hms

section Scan

variable {cfg : AppConfig} {nowTick : UInt32} {clients : WdogClient → WdogClientState}

/-- `silence_ms` in `task_watchdog.c:111`. -/
def codeSilenceMs (cfg : AppConfig) (nowTick : UInt32) (clients : WdogClient → WdogClientState)
    (client : WdogClient) : UInt32 :=
  wdogTicksToMs cfg (nowTick - (clients client).lastCheckinTick)

private theorem toNat_worst_visit (scan : PassScan) (idx client : WdogClient) :
    ((scan.visit cfg nowTick clients idx).worstSilenceMs client).toNat =
      if idx = client then
        max (scan.worstSilenceMs client).toNat (codeSilenceMs cfg nowTick clients client).toNat
      else (scan.worstSilenceMs client).toNat := by
  unfold PassScan.visit codeSilenceMs
  simp only
  by_cases hidx : idx = client
  · subst hidx
    rw [if_pos rfl]
    split
    · next h =>
      rw [UInt32.lt_iff_toNat_lt] at h
      rw [Function.update_self, Nat.max_eq_right h.le]
    · next h =>
      rw [UInt32.lt_iff_toNat_lt] at h
      rw [Nat.max_eq_left (Nat.le_of_not_lt h)]
  · rw [if_neg hidx]
    split
    · rw [Function.update_of_ne (Ne.symm hidx)]
    · rfl

private theorem late_visit (scan : PassScan) (idx : WdogClient) :
    (scan.visit cfg nowTick clients idx).late =
      scan.late.or (if (clients idx).limitMs < codeSilenceMs cfg nowTick clients idx then
        some (idx, codeSilenceMs cfg nowTick clients idx) else none) := by
  unfold PassScan.visit codeSilenceMs
  cases hlate : scan.late with
  | none => simp
  | some late => simp

private theorem toNat_worst_foldl (l : List WdogClient) (scan : PassScan) (client : WdogClient) :
    ((l.foldl (PassScan.visit cfg nowTick clients) scan).worstSilenceMs client).toNat =
      if client ∈ l then
        max (scan.worstSilenceMs client).toNat (codeSilenceMs cfg nowTick clients client).toNat
      else (scan.worstSilenceMs client).toNat := by
  induction l generalizing scan with
  | nil => simp
  | cons idx l ih =>
    rw [List.foldl_cons, ih, toNat_worst_visit]
    by_cases hidx : idx = client
    · subst hidx
      simp
    · simp [hidx, Ne.symm hidx]

private theorem late_foldl (l : List WdogClient) (scan : PassScan) :
    (l.foldl (PassScan.visit cfg nowTick clients) scan).late =
      scan.late.or ((l.find? fun idx ↦
        (clients idx).limitMs < codeSilenceMs cfg nowTick clients idx).map fun idx ↦
          (idx, codeSilenceMs cfg nowTick clients idx)) := by
  induction l generalizing scan with
  | nil => simp
  | cons idx l ih =>
    rw [List.foldl_cons, ih, late_visit, List.find?_cons, Option.or_assoc]
    by_cases hlate : (clients idx).limitMs < codeSilenceMs cfg nowTick clients idx
    · simp [hlate]
    · simp [hlate]

private theorem toNat_worst_scan (w : Wdog) (client : WdogClient) :
    ((w.scan cfg nowTick clients).worstSilenceMs client).toNat =
      max (w.worstSilenceMs client).toNat (codeSilenceMs cfg nowTick clients client).toNat := by
  rw [Wdog.scan, toNat_worst_foldl, if_pos client.mem_all]

private theorem late_scan (w : Wdog) :
    (w.scan cfg nowTick clients).late =
      (WdogClient.all.find? fun idx ↦
        (clients idx).limitMs < codeSilenceMs cfg nowTick clients idx).map fun idx ↦
          (idx, codeSilenceMs cfg nowTick clients idx) := by
  rw [Wdog.scan, late_foldl, Option.none_or]

end Scan

namespace Supervisor

variable {cfg : AppConfig} {running : Bool} {timeoutMs : UInt32} {w w' : Supervisor}

/-- The clients are as the reference sees them, every pass did what the reference does, and,
while the supervisor still kicks, nobody was late at the last pass. -/
structure Follows (cfg : AppConfig) (running : Bool) (timeoutMs : UInt32) (w : Supervisor) :
    Prop where
  last_le : ∀ client, w.last client ≤ w.tick
  lastPass_le : w.lastPass ≤ w.tick
  client : ∀ client, (w.clients client).name = client.name ∧
    (w.clients client).limitMs = client.limitMs cfg ∧
    (w.clients client).lastCheckinTick = UInt32.ofNat (w.last client)
  kicking : w.wdog.kicking = true ↔ ∀ p ∈ w.history, p.OnTime cfg
  recent : w.wdog.kicking = true → ∀ client,
    w.lastPass - w.last client ≤ Ticks.horizon cfg.tickRateHz.toNat (client.limitMs cfg).toNat
  output : ∀ (i : ℕ) (p : Pass), w.history[i]? = some p →
    p.output = p.expected cfg running timeoutMs (w.history.take i) ∧
      ((∀ q ∈ w.history.take i, q.OnTime cfg) → ∀ client, p.silenceMs cfg client < 2 ^ 32)
  kicks : w.wdog.kicks = UInt32.ofNat (w.history.countP (·.output.kicked))
  worst : (∀ p ∈ w.history.dropLast, p.OnTime cfg) → ∀ client,
    (w.wdog.worstSilenceMs client).toNat =
      (w.history.map (·.silenceMs cfg client)).foldl max 0

private theorem follows_boot (cfg : AppConfig) (running : Bool) (timeoutMs : UInt32) :
    Follows cfg running timeoutMs (boot cfg) where
  last_le _ := Nat.le_refl 0
  lastPass_le := Nat.le_refl 0
  client _ := ⟨rfl, rfl, rfl⟩
  kicking := by simp [boot, Wdog.boot]
  recent _ _ := by simp [boot, lastPass]
  output i p h := by simp [boot] at h
  kicks := rfl
  worst _ _ := rfl

/-- Before anybody was late the code's silence is the true one. -/
theorem Follows.silence_exact (h : Follows cfg running timeoutMs w) (hk : w.wdog.kicking = true)
    (hclose : Close cfg w.lastPass w.tick) (client : WdogClient) :
    (codeSilenceMs cfg (UInt32.ofNat w.tick) w.clients client).toNat =
      Ticks.ms cfg.tickRateHz.toNat (w.tick - w.last client) := by
  obtain ⟨hticks, hms⟩ := hclose client
  have hrecent := h.recent hk client
  have hlast := h.lastPass_le
  have hle : w.tick - w.last client ≤
      Ticks.horizon cfg.tickRateHz.toNat (client.limitMs cfg).toNat + (w.tick - w.lastPass) := by
    omega
  rw [codeSilenceMs, (h.client client).2.2]
  apply toNat_wdogTicksToMs (h.last_le client)
  · exact Nat.lt_of_le_of_lt hle hticks
  · exact Nat.lt_of_le_of_lt (Ticks.ms_mono hle) hms

private theorem find_congr {f g : WdogClient → Bool} (h : ∀ client, f client = g client) :
    WdogClient.all.find? f = WdogClient.all.find? g := by
  rw [show f = g from funext h]

/-- Before anybody was late the code finds the same late client as the reference. -/
theorem Follows.late_exact (h : Follows cfg running timeoutMs w) (hk : w.wdog.kicking = true)
    (hclose : Close cfg w.lastPass w.tick) (output : PassOutput) :
    (w.wdog.scan cfg (UInt32.ofNat w.tick) w.clients).late =
      ((Pass.mk w.tick w.last output).firstLate cfg).map fun client ↦
        (client, UInt32.ofNat ((Pass.mk w.tick w.last output).silenceMs cfg client)) := by
  have hsilence : ∀ client, codeSilenceMs cfg (UInt32.ofNat w.tick) w.clients client =
      UInt32.ofNat ((Pass.mk w.tick w.last output).silenceMs cfg client) := by
    intro client
    rw [Pass.silenceMs, ← h.silence_exact hk hclose client, UInt32.ofNat_toNat]
  have hfind : (WdogClient.all.find? fun idx ↦
      (w.clients idx).limitMs < codeSilenceMs cfg (UInt32.ofNat w.tick) w.clients idx) =
        (Pass.mk w.tick w.last output).firstLate cfg := by
    apply find_congr
    intro client
    rw [decide_eq_decide, UInt32.lt_iff_toNat_lt, h.silence_exact hk hclose client,
      (h.client client).2.1]
    rfl
  rw [late_scan, hfind]
  simp only [hsilence]

private theorem lastPass_concat (p : Pass) (l : List Pass) :
    ((l ++ [p]).getLast?.map (·.tick)).getD 0 = p.tick := by
  simp

/-- A pass is the last one at its own tick. -/
theorem lastPass_pass (cfg : AppConfig) (running : Bool) (timeoutMs : UInt32) (w : Supervisor) :
    (w.pass cfg running timeoutMs).lastPass = w.tick := lastPass_concat _ _

private theorem forall_concat {P : Pass → Prop} {l : List Pass} {p : Pass} :
    (∀ q ∈ l ++ [p], P q) ↔ (∀ q ∈ l, P q) ∧ P p := by
  simp only [List.mem_append, List.mem_singleton, or_imp, forall_and, forall_eq]

private theorem pass_of_stopped (hk : w.wdog.kicking = false) :
    w.wdog.pass cfg running timeoutMs (UInt32.ofNat w.tick) w.clients =
      ({ w.wdog with
          worstSilenceMs := (w.wdog.scan cfg (UInt32.ofNat w.tick) w.clients).worstSilenceMs },
        ⟨false, []⟩) := by
  simp only [Wdog.pass, hk, Bool.not_false, if_true]

private theorem pass_of_onTime (hk : w.wdog.kicking = true)
    (hlate : (w.wdog.scan cfg (UInt32.ofNat w.tick) w.clients).late = none) :
    w.wdog.pass cfg running timeoutMs (UInt32.ofNat w.tick) w.clients =
      ({ w.wdog with
          worstSilenceMs := (w.wdog.scan cfg (UInt32.ofNat w.tick) w.clients).worstSilenceMs
          kicks := w.wdog.kicks + if running then 1 else 0 },
        ⟨running, []⟩) := by
  simp only [Wdog.pass, hk, hlate, Bool.not_true, Bool.false_eq_true, if_false]
  cases running with
  | true => rfl
  | false => simp

private theorem pass_of_late (hk : w.wdog.kicking = true) {client : WdogClient} {silenceMs : UInt32}
    (hlate : (w.wdog.scan cfg (UInt32.ofNat w.tick) w.clients).late = some (client, silenceMs)) :
    w.wdog.pass cfg running timeoutMs (UInt32.ofNat w.tick) w.clients =
      ({ w.wdog with
          worstSilenceMs := (w.wdog.scan cfg (UInt32.ofNat w.tick) w.clients).worstSilenceMs
          kicking := false },
        ⟨false, wdogReportLate (w.clients client).name silenceMs running timeoutMs⟩) := by
  simp only [Wdog.pass, hk, hlate, Bool.not_true, Bool.false_eq_true, if_false]

/-- What one pass does, compared with the reference. -/
structure PassFollows (cfg : AppConfig) (running : Bool) (timeoutMs : UInt32) (w : Supervisor)
    (wdog : Wdog) (p : Pass) : Prop where
  output : p.output = p.expected cfg running timeoutMs w.history
  kicking : wdog.kicking = true ↔ w.wdog.kicking = true ∧ p.OnTime cfg
  kicks : wdog.kicks = w.wdog.kicks + if p.output.kicked then 1 else 0
  worst : w.wdog.kicking = true → ∀ client,
    (wdog.worstSilenceMs client).toNat =
      max (w.wdog.worstSilenceMs client).toNat (p.silenceMs cfg client)
  silence_lt : w.wdog.kicking = true → ∀ client, p.silenceMs cfg client < 2 ^ 32

/-- One pass does what the reference does. -/
theorem Follows.passFollows (h : Follows cfg running timeoutMs w)
    (hclose : Close cfg w.lastPass w.tick) :
    PassFollows cfg running timeoutMs w
      (w.wdog.pass cfg running timeoutMs (UInt32.ofNat w.tick) w.clients).1
      ⟨w.tick, w.last, (w.wdog.pass cfg running timeoutMs (UInt32.ofNat w.tick) w.clients).2⟩ := by
  cases hk : w.wdog.kicking with
  | false =>
    have hlate : ¬ ∀ q ∈ w.history, q.OnTime cfg := by
      rw [← h.kicking, hk]
      exact Bool.false_ne_true
    rw [pass_of_stopped hk]
    refine ⟨?_, ?_, ?_, ?_, ?_⟩
    · rw [Pass.expected, if_neg hlate]
    · simp [hk]
    · simp
    · intro hk'
      cases hk.symm.trans hk'
    · intro hk'
      cases hk.symm.trans hk'
  | true =>
    have honTime := h.kicking.mp hk
    have hworst : ∀ output client,
        ((w.wdog.scan cfg (UInt32.ofNat w.tick) w.clients).worstSilenceMs client).toNat =
          max (w.wdog.worstSilenceMs client).toNat
            ((Pass.mk w.tick w.last output).silenceMs cfg client) := by
      intro output client
      rw [toNat_worst_scan, h.silence_exact hk hclose client]
      rfl
    have hlt : ∀ output client, (Pass.mk w.tick w.last output).silenceMs cfg client < 2 ^ 32 := by
      intro output client
      rw [Pass.silenceMs, ← h.silence_exact hk hclose client]
      exact UInt32.toNat_lt _
    have hlate := h.late_exact hk hclose ⟨false, []⟩
    cases hfirst : (Pass.mk w.tick w.last ⟨false, []⟩).firstLate cfg with
    | none =>
      have hnone : ∀ output, (Pass.mk w.tick w.last output).firstLate cfg = none := fun _ ↦ hfirst
      rw [hfirst, Option.map_none] at hlate
      rw [pass_of_onTime hk hlate]
      refine ⟨?_, ?_, rfl, fun _ ↦ hworst _, fun _ ↦ hlt _⟩
      · rw [Pass.expected, if_pos honTime, hnone]
      · rw [← Pass.firstLate_eq_none, hnone]
        simp only [hk, true_and]
    | some client =>
      have hsome : ∀ output, (Pass.mk w.tick w.last output).firstLate cfg = some client :=
        fun _ ↦ hfirst
      rw [hfirst, Option.map_some] at hlate
      rw [pass_of_late hk hlate]
      refine ⟨?_, ?_, ?_, fun _ ↦ hworst _, fun _ ↦ hlt _⟩
      · rw [Pass.expected, if_pos honTime, hsome]
        simp only [(h.client client).1]
        rfl
      · rw [← Pass.firstLate_eq_none, hsome]
        simp
      · simp

/-- A pass leaves the supervisor ready for the next. -/
theorem Follows.pass (h : Follows cfg running timeoutMs w)
    (hspaced : Spaced cfg (w.pass cfg running timeoutMs).history) :
    Follows cfg running timeoutMs (w.pass cfg running timeoutMs) := by
  have hclose : Close cfg w.lastPass w.tick := (spaced_concat.mp hspaced).2
  have hpass := h.passFollows hclose
  unfold Supervisor.pass
  generalize w.wdog.pass cfg running timeoutMs (UInt32.ofNat w.tick) w.clients = result at hpass ⊢
  have hlast : ((w.history ++ [(⟨w.tick, w.last, result.2⟩ : Pass)]).getLast?.map
      (·.tick)).getD 0 = w.tick := lastPass_concat _ _
  refine ⟨h.last_le, ?_, h.client, ?_, ?_, ?_, ?_, ?_⟩
  · exact hlast.le
  · rw [hpass.kicking, h.kicking, forall_concat]
  · intro hk client
    have honTime := (hpass.kicking.mp hk).2 client
    unfold lastPass
    rw [hlast]
    have hrate : 0 < cfg.tickRateHz.toNat := UInt32.lt_iff_toNat_lt.mp cfg.tickRateHz_pos
    exact (Ticks.ms_le_iff hrate).mp honTime
  · intro i p hp
    rcases Nat.lt_or_ge i w.history.length with hi | hi
    · rw [List.getElem?_append_left hi] at hp
      rw [List.take_append_of_le_length hi.le]
      exact h.output i p hp
    · have hi' : i = w.history.length := by
        have := (List.getElem?_eq_some_iff.mp hp).1
        simp only [List.length_append, List.length_singleton] at this
        omega
      subst hi'
      rw [List.getElem?_concat_length, Option.some_inj] at hp
      subst hp
      rw [List.take_left]
      exact ⟨hpass.output, fun honTime ↦ hpass.silence_lt (h.kicking.mpr honTime)⟩
  · rw [hpass.kicks, h.kicks, List.countP_append, UInt32.ofNat_add, List.countP_singleton]
    simp only [apply_ite UInt32.ofNat]
    rfl
  · intro honTime client
    rw [List.dropLast_concat] at honTime
    rw [hpass.worst (h.kicking.mpr honTime), List.map_append, List.foldl_append,
      h.worst (fun p hp ↦ honTime p (List.dropLast_subset _ hp))]
    rfl

/-- Every step keeps the supervisor with the reference, as long as its passes stay close. -/
theorem Follows.step (h : Follows cfg running timeoutMs w) {a : SupervisorAction}
    (hs : Supervisor.step cfg running timeoutMs w a = some w') (hspaced : Spaced cfg w'.history) :
    Follows cfg running timeoutMs w' := by
  cases a with
  | tick =>
    cases hs
    exact { h with
      last_le := fun client ↦ (h.last_le client).trans (Nat.le_succ _)
      lastPass_le := h.lastPass_le.trans (Nat.le_succ _) }
  | checkin client tick =>
    simp only [Supervisor.step] at hs
    split at hs
    · next hle =>
      cases hs
      refine { h with last_le := ?_, client := ?_, recent := ?_ }
      · intro client'
        by_cases hc : client' = client
        · subst hc
          simpa [checkin] using hle.2
        · simpa [checkin, hc] using h.last_le client'
      · intro client'
        by_cases hc : client' = client
        · subst hc
          have hcl := h.client client'
          simp [checkin, wdogStoreCheckin, hcl.1, hcl.2.1]
        · simpa [checkin, wdogStoreCheckin, hc] using h.client client'
      · intro hk client'
        have hrecent := h.recent hk client'
        by_cases hc : client' = client
        · subst hc
          simp only [checkin, Function.update_self]
          exact (Nat.sub_le_sub_left hle.1 _).trans hrecent
        · simp only [checkin, Function.update_of_ne hc]
          exact hrecent
    · cases hs
  | pass =>
    cases hs
    exact h.pass hspaced
  | injectHang client =>
    cases hs
    refine { h with client := ?_ }
    intro client'
    by_cases hc : client' = client
    · subst hc
      simpa [injectHang, taskWatchdogInjectHang] using h.client client'
    · simpa [injectHang, taskWatchdogInjectHang, hc] using h.client client'

/-- In every run with close passes the supervisor follows the reference. -/
theorem follows_of_run {as : List SupervisorAction}
    (h : Machine.run (Supervisor.step cfg running timeoutMs) (boot cfg) as = some w)
    (hspaced : Spaced cfg w.history) : Follows cfg running timeoutMs w := by
  refine Machine.run_induction
    (P := fun _ w ↦ Spaced cfg w.history → Follows cfg running timeoutMs w) ?_ ?_ h hspaced
  · intro _
    exact follows_boot cfg running timeoutMs
  · intro as w a w' _ ih hs hspaced'
    refine (ih ?_).step hs hspaced'
    cases a with
    | tick | injectHang =>
      cases hs
      exact hspaced'
    | checkin client tick =>
      simp only [Supervisor.step] at hs
      split at hs
      · cases hs
        exact hspaced'
      · cases hs
    | pass =>
      cases hs
      exact (spaced_concat.mp hspaced').1

private theorem mem_take_iff {l : List Pass} {i : ℕ} {P : Pass → Prop} :
    (∀ q ∈ l.take i, P q) ↔ ∀ j < i, ∀ q, l[j]? = some q → P q := by
  constructor
  · intro h j hj q hq
    exact h q (List.mem_of_getElem? (by rwa [List.getElem?_take_of_lt hj]))
  · intro h q hq
    obtain ⟨j, hj⟩ := List.mem_iff_getElem?.mp hq
    rw [List.getElem?_take] at hj
    split at hj
    · next hlt => exact h j hlt q hj
    · cases hj

/-- A pass kicks if the SWDT runs and nobody was late at it or before, and only then. -/
theorem Follows.kicked_iff (h : Follows cfg running timeoutMs w) {i : ℕ} {p : Pass}
    (hp : w.history[i]? = some p) :
    p.output.kicked = true ↔
      running = true ∧ ∀ j ≤ i, ∀ q : Pass, w.history[j]? = some q → q.OnTime cfg := by
  have hsplit : (∀ j ≤ i, ∀ q : Pass, w.history[j]? = some q → q.OnTime cfg) ↔
      (∀ q ∈ w.history.take i, q.OnTime cfg) ∧ p.OnTime cfg := by
    rw [mem_take_iff]
    constructor
    · intro hall
      exact ⟨fun j hj ↦ hall j hj.le, hall i (Nat.le_refl i) p hp⟩
    · rintro ⟨hbefore, hnow⟩ j hj q hq
      rcases Nat.lt_or_eq_of_le hj with hj | rfl
      · exact hbefore j hj q hq
      · cases hp.symm.trans hq
        exact hnow
  rw [(h.output i p hp).1, Pass.expected, hsplit, ← Pass.firstLate_eq_none]
  split
  · next hearlier =>
    cases p.firstLate cfg with
    | none => simpa using fun _ ↦ hearlier
    | some client => simp
  · next hearlier => simp [hearlier]

end Supervisor
end SensorAggregator.Tasks
