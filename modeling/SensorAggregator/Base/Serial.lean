import Mathlib.Data.List.GetD
import SensorAggregator.Base.Machine
import SensorAggregator.Base.Monitor

/-!
# Calls under one mutex are serialisable

If the code of every call satisfies `Program.Enters`, every interleaving answers as the calls
that obtained the mutex would, one at a time, in the order they obtained it; a call that gave up
answers for that and leaves the shared state alone.
-/

namespace Base.Monitor

universe u

variable {T S C F R : Type u}

section Serial

variable {p : Program S C F R} {exec : S → C → S × R} {giveUp : C → R} {s₀ : S}

/-- The answer `r` is the one `acquired`, executed in order, gives at `ticket`; without a ticket
it is the one for giving up. -/
def Answered (exec : S → C → S × R) (giveUp : C → R) (s₀ : S) (acquired : List C)
    (ticket : Option ℕ) (c : C) (r : R) : Prop :=
  match ticket with
  | none => r = giveUp c
  | some k => acquired[k]? = some c ∧ (Machine.trace exec s₀ acquired).2[k]? = some r

private theorem Answered.concat {acquired : List C} {ticket : Option ℕ} {c : C} {r : R}
    (h : Answered exec giveUp s₀ acquired ticket c r) (c' : C) :
    Answered exec giveUp s₀ (acquired ++ [c']) ticket c r := by
  cases ticket with
  | none => exact h
  | some k =>
    obtain ⟨hc, hr⟩ := h
    obtain ⟨hk, _⟩ := List.getElem?_eq_some_iff.mp hc
    refine ⟨by rw [List.getElem?_append_left hk, hc], ?_⟩
    rw [Machine.trace_concat, List.getElem?_append_left (by rwa [Machine.length_trace]), hr]

/-- What remains to be done of one call. -/
def Pending (p : Program S C F R) (exec : S → C → S × R) (giveUp : C → R) (s₀ : S)
    (m : State T S C F R) (a : Activation C F) : Prop :=
  match a.phase with
  | .before => p.Enters exec giveUp a.call a.frame
  | .inside k => ∃ r, Answered exec giveUp s₀ m.acquired (some k) a.call r ∧
      p.Finishes a.call a.frame m.shared (Machine.trace exec s₀ m.acquired).1 r
  | .after ticket => ∃ r, Answered exec giveUp s₀ m.acquired ticket a.call r ∧
      p.Returns a.call a.frame r

/-- Every call is on its way to the answer of the serial execution, and the mutex is held
exactly while some call is between obtaining it and giving it back. -/
structure Serial (p : Program S C F R) (exec : S → C → S × R) (giveUp : C → R) (s₀ : S)
    (m : State T S C F R) : Prop where
  shared : m.holder = none → m.shared = (Machine.trace exec s₀ m.acquired).1
  pending : ∀ t a, m.active t = some a → Pending p exec giveUp s₀ m a
  holder : ∀ t, m.holder = some t ↔ ∃ a k, m.active t = some a ∧ a.phase = .inside k
  returned : ∀ e ∈ m.returned, Answered exec giveUp s₀ m.acquired e.ticket e.call e.reply

private theorem serial_init (p : Program S C F R) (exec : S → C → S × R) (giveUp : C → R) (s₀ : S) :
    Serial p exec giveUp s₀ (State.init s₀ : State T S C F R) where
  shared _ := rfl
  pending t a h := by cases h
  holder t := by simp [State.init]
  returned e h := by cases h

private theorem Serial.eq_of_inside {m : State T S C F R} (h : Serial p exec giveUp s₀ m) {t u : T}
    {a : Activation C F} {k : ℕ} (ht : m.holder = some t) (ha : m.active u = some a)
    (hk : a.phase = .inside k) : u = t := by
  have hu := (h.holder u).mpr ⟨a, k, ha, hk⟩
  exact Option.some_inj.mp (hu.symm.trans ht)

private theorem Pending.of_outside {m m' : State T S C F R} {a : Activation C F}
    (h : Pending p exec giveUp s₀ m a) (hout : ∀ k, a.phase ≠ .inside k)
    (hans : ∀ ticket c r, Answered exec giveUp s₀ m.acquired ticket c r →
      Answered exec giveUp s₀ m'.acquired ticket c r) : Pending p exec giveUp s₀ m' a := by
  unfold Pending at h ⊢
  cases hph : a.phase with
  | before => simpa only [hph] using h
  | inside k => exact absurd hph (hout k)
  | after ticket =>
    simp only [hph] at h ⊢
    obtain ⟨r, hr, hret⟩ := h
    exact ⟨r, hans _ _ _ hr, hret⟩

private theorem Pending.lock {m : State T S C F R} {a : Activation C F} {taken timedOut : F}
    (h : Pending p exec giveUp s₀ m a) (hcode : p.code a.call a.frame = .lock taken timedOut) :
    a.phase = .before ∧
      (∀ s, p.Finishes a.call taken s (exec s a.call).1 (exec s a.call).2) ∧
      p.Returns a.call timedOut (giveUp a.call) := by
  unfold Pending at h
  split at h
  · next hph =>
    have hinv := h.inv
    rw [hcode] at hinv
    exact ⟨hph, hinv⟩
  · obtain ⟨r, _, hfin⟩ := h
    have hinv := hfin.inv
    rw [hcode] at hinv
    exact hinv.elim
  · obtain ⟨r, _, hret⟩ := h
    have hinv := hret.inv
    rw [hcode] at hinv
    exact hinv.elim

private theorem Pending.access {m : State T S C F R} {a : Activation C F} {run : S → S × F}
    (h : Pending p exec giveUp s₀ m a) (hcode : p.code a.call a.frame = .access run) :
    ∃ k r, a.phase = .inside k ∧ Answered exec giveUp s₀ m.acquired (some k) a.call r ∧
      p.Finishes a.call (run m.shared).2 (run m.shared).1
        (Machine.trace exec s₀ m.acquired).1 r := by
  unfold Pending at h
  split at h
  · have hinv := h.inv
    rw [hcode] at hinv
    exact hinv.elim
  · next k hph =>
    obtain ⟨r, hr, hfin⟩ := h
    have hinv := hfin.inv
    rw [hcode] at hinv
    exact ⟨k, r, hph, hr, hinv⟩
  · obtain ⟨r, _, hret⟩ := h
    have hinv := hret.inv
    rw [hcode] at hinv
    exact hinv.elim

private theorem Pending.internal {m : State T S C F R} {a : Activation C F} {next : F}
    (h : Pending p exec giveUp s₀ m a) (hcode : p.code a.call a.frame = .internal next) :
    Pending p exec giveUp s₀ m { a with frame := next } := by
  unfold Pending at h ⊢
  split at h
  · next hph =>
    have hinv := h.inv
    rw [hcode] at hinv
    simpa only [hph] using hinv
  · next k hph =>
    obtain ⟨r, hr, hfin⟩ := h
    have hinv := hfin.inv
    rw [hcode] at hinv
    simp only [hph]
    exact ⟨r, hr, hinv⟩
  · next ticket hph =>
    obtain ⟨r, hr, hret⟩ := h
    have hinv := hret.inv
    rw [hcode] at hinv
    simp only [hph]
    exact ⟨r, hr, hinv⟩

private theorem Pending.unlock {m : State T S C F R} {a : Activation C F} {next : F}
    (h : Pending p exec giveUp s₀ m a) (hcode : p.code a.call a.frame = .unlock next) :
    m.shared = (Machine.trace exec s₀ m.acquired).1 ∧
      ∃ k r, a.phase = .inside k ∧ Answered exec giveUp s₀ m.acquired (some k) a.call r ∧
        p.Returns a.call next r := by
  unfold Pending at h
  split at h
  · have hinv := h.inv
    rw [hcode] at hinv
    exact hinv.elim
  · next k hph =>
    obtain ⟨r, hr, hfin⟩ := h
    have hinv := hfin.inv
    rw [hcode] at hinv
    exact ⟨hinv.1, k, r, hph, hr, hinv.2⟩
  · obtain ⟨r, _, hret⟩ := h
    have hinv := hret.inv
    rw [hcode] at hinv
    exact hinv.elim

private theorem Pending.ret {m : State T S C F R} {a : Activation C F} {reply : R}
    (h : Pending p exec giveUp s₀ m a) (hcode : p.code a.call a.frame = .ret reply) :
    (∀ k, a.phase ≠ .inside k) ∧
      Answered exec giveUp s₀ m.acquired a.phase.ticket a.call reply := by
  unfold Pending at h
  split at h
  · next hph =>
    have hinv := h.inv
    rw [hcode] at hinv
    rw [hph]
    exact ⟨nofun, hinv⟩
  · obtain ⟨r, _, hfin⟩ := h
    have hinv := hfin.inv
    rw [hcode] at hinv
    exact hinv.elim
  · next ticket hph =>
    obtain ⟨r, hr, hret⟩ := h
    have hinv := hret.inv
    rw [hcode] at hinv
    rw [hph, show reply = r from hinv]
    exact ⟨nofun, hr⟩

variable [DecidableEq T]

private theorem Serial.set {m : State T S C F R} (h : Serial p exec giveUp s₀ m) {t : T}
    {new : Option (Activation C F)}
    (hp : ∀ a, new = some a → Pending p exec giveUp s₀ m a)
    (hin : m.holder = some t ↔ ∃ a k, new = some a ∧ a.phase = .inside k) :
    Serial p exec giveUp s₀ { m with active := Function.update m.active t new } where
  shared := h.shared
  pending u a ha := by
    by_cases hu : u = t
    · subst hu
      simp only [Function.update_self] at ha
      exact hp a ha
    · simp only [Function.update_of_ne hu] at ha
      exact h.pending u a ha
  holder u := by
    by_cases hu : u = t
    · subst hu
      simpa only [Function.update_self] using hin
    · simpa only [Function.update_of_ne hu] using h.holder u
  returned := h.returned

private theorem Serial.call {m : State T S C F R} (h : Serial p exec giveUp s₀ m)
    (hp : ∀ c, p.Enters exec giveUp c (p.start c)) {t : T} (ht : m.active t = none) (c : C) :
    Serial p exec giveUp s₀
      { m with active := Function.update m.active t (some ⟨c, p.start c, .before⟩) } := by
  apply h.set
  · intro a ha
    cases ha
    exact hp c
  · rw [h.holder t, ht]
    simp

private theorem Serial.take {m : State T S C F R} (h : Serial p exec giveUp s₀ m) {t : T}
    {a : Activation C F} {taken timedOut : F} (ha : m.active t = some a)
    (hcode : p.code a.call a.frame = .lock taken timedOut) (hfree : m.holder = none) :
    Serial p exec giveUp s₀
      { m with
        holder := some t
        acquired := m.acquired ++ [a.call]
        active := Function.update m.active t
          (some { a with frame := taken, phase := .inside m.acquired.length }) } := by
  have hnone : ∀ u b k, m.active u = some b → b.phase ≠ .inside k := by
    intro u b k hb hk
    have hu := (h.holder u).mpr ⟨b, k, hb, hk⟩
    rw [hfree] at hu
    cases hu
  obtain ⟨_, henter, _⟩ := (h.pending t a ha).lock hcode
  refine ⟨nofun, ?_, ?_, fun e he ↦ (h.returned e he).concat _⟩
  · intro u b hb
    by_cases hu : u = t
    · subst hu
      simp only [Function.update_self, Option.some_inj] at hb
      subst hb
      refine ⟨(exec m.shared a.call).2, ⟨List.getElem?_concat_length, ?_⟩, ?_⟩
      · rw [Machine.trace_concat, ← h.shared hfree, ← Machine.length_trace exec s₀ m.acquired]
        exact List.getElem?_concat_length
      · rw [Machine.trace_concat, ← h.shared hfree]
        exact henter m.shared
    · simp only [Function.update_of_ne hu] at hb
      exact (h.pending u b hb).of_outside (fun k ↦ hnone u b k hb) fun _ _ _ hr ↦ hr.concat _
  · intro u
    by_cases hu : u = t
    · subst hu
      simp only [Function.update_self, true_iff]
      exact ⟨_, _, rfl, rfl⟩
    · simp only [Function.update_of_ne hu]
      constructor
      · intro he
        exact absurd (Option.some_inj.mp he).symm hu
      · rintro ⟨b, k, hb, hk⟩
        exact absurd hk (hnone u b k hb)

private theorem Serial.timeOut {m : State T S C F R} (h : Serial p exec giveUp s₀ m) {t : T}
    {a : Activation C F} {taken timedOut : F} (ha : m.active t = some a)
    (hcode : p.code a.call a.frame = .lock taken timedOut) :
    Serial p exec giveUp s₀
      { m with
        active := Function.update m.active t
          (some { a with frame := timedOut, phase := .after none }) } := by
  obtain ⟨hbefore, _, hret⟩ := (h.pending t a ha).lock hcode
  apply h.set
  · intro b hb
    cases hb
    exact ⟨_, rfl, hret⟩
  · rw [h.holder t, ha]
    simp [hbefore]

private theorem Serial.access {m : State T S C F R} (h : Serial p exec giveUp s₀ m) {t : T}
    {a : Activation C F} {run : S → S × F} (ha : m.active t = some a)
    (hcode : p.code a.call a.frame = .access run) :
    Serial p exec giveUp s₀
      { m with
        shared := (run m.shared).1
        active := Function.update m.active t (some { a with frame := (run m.shared).2 }) } := by
  obtain ⟨k, r, hin, hr, hfin⟩ := (h.pending t a ha).access hcode
  have ht := (h.holder t).mpr ⟨a, k, ha, hin⟩
  refine ⟨?_, ?_, ?_, h.returned⟩
  · intro hn
    cases ht.symm.trans hn
  · intro u b hb
    by_cases hu : u = t
    · subst hu
      simp only [Function.update_self, Option.some_inj] at hb
      subst hb
      unfold Pending
      simp only [hin]
      exact ⟨r, hr, hfin⟩
    · simp only [Function.update_of_ne hu] at hb
      exact (h.pending u b hb).of_outside (fun _ hk ↦ hu (h.eq_of_inside ht hb hk))
        fun _ _ _ ↦ id
  · intro u
    by_cases hu : u = t
    · subst hu
      simp only [Function.update_self, ht, true_iff]
      exact ⟨_, k, rfl, hin⟩
    · simpa only [Function.update_of_ne hu] using h.holder u

private theorem Serial.internal {m : State T S C F R} (h : Serial p exec giveUp s₀ m) {t : T}
    {a : Activation C F} {next : F} (ha : m.active t = some a)
    (hcode : p.code a.call a.frame = .internal next) :
    Serial p exec giveUp s₀
      { m with active := Function.update m.active t (some { a with frame := next }) } := by
  apply h.set
  · intro b hb
    cases hb
    exact (h.pending t a ha).internal hcode
  · rw [h.holder t, ha]
    simp

private theorem Serial.unlock {m : State T S C F R} (h : Serial p exec giveUp s₀ m) {t : T}
    {a : Activation C F} {next : F} (ha : m.active t = some a)
    (hcode : p.code a.call a.frame = .unlock next) :
    Serial p exec giveUp s₀
      { m with
        holder := none
        active := Function.update m.active t
          (some { a with frame := next, phase := .after a.phase.ticket }) } := by
  obtain ⟨hshared, k, r, hin, hr, hret⟩ := (h.pending t a ha).unlock hcode
  have ht := (h.holder t).mpr ⟨a, k, ha, hin⟩
  refine ⟨fun _ ↦ hshared, ?_, ?_, h.returned⟩
  · intro u b hb
    by_cases hu : u = t
    · subst hu
      simp only [Function.update_self, Option.some_inj] at hb
      subst hb
      simp only [hin, Phase.ticket]
      exact ⟨r, hr, hret⟩
    · simp only [Function.update_of_ne hu] at hb
      exact h.pending u b hb
  · intro u
    by_cases hu : u = t
    · subst hu
      simp
    · simp only [Function.update_of_ne hu, ← h.holder u, ht, Option.some_inj, false_iff,
        reduceCtorEq]
      exact fun he ↦ hu he.symm

private theorem Serial.ret {m : State T S C F R} (h : Serial p exec giveUp s₀ m) {t : T}
    {a : Activation C F} {reply : R} (ha : m.active t = some a)
    (hcode : p.code a.call a.frame = .ret reply) :
    Serial p exec giveUp s₀
      { m with
        active := Function.update m.active t none
        returned := m.returned ++ [⟨t, a.call, a.phase.ticket, reply⟩] } := by
  obtain ⟨hout, hans⟩ := (h.pending t a ha).ret hcode
  have hset : Serial p exec giveUp s₀ { m with active := Function.update m.active t none } := by
    apply h.set
    · intro b hb
      cases hb
    · rw [h.holder t, ha]
      simpa using hout
  refine ⟨hset.shared, hset.pending, hset.holder, ?_⟩
  intro e he
  rcases List.mem_append.mp he with he | he
  · exact h.returned e he
  · rw [List.mem_singleton.mp he]
    exact hans

/-- Every instruction of every thread keeps the calls on their way to the serial answers. -/
theorem Serial.step (hp : ∀ c, p.Enters exec giveUp c (p.start c)) {m m' : State T S C F R}
    (h : Serial p exec giveUp s₀ m) {act : Action T C} (hs : step p m act = some m') :
    Serial p exec giveUp s₀ m' := by
  cases steps_of_step hs with
  | call c ht => exact h.call hp ht c
  | take ha hcode hfree => exact h.take ha hcode hfree
  | timeOut ha hcode => exact h.timeOut ha hcode
  | access ha hcode => exact h.access ha hcode
  | internal ha hcode => exact h.internal ha hcode
  | unlock ha hcode => exact h.unlock ha hcode
  | ret ha hcode => exact h.ret ha hcode

/-- Serialisability: every interleaving of calls whose code enters, works and leaves under the
mutex answers as their execution one at a time, in the order the mutex was obtained. -/
theorem serial_run (hp : ∀ c, p.Enters exec giveUp c (p.start c)) {acts : List (Action T C)}
    {m : State T S C F R} (h : Machine.run (step p) (State.init s₀) acts = some m) :
    Serial p exec giveUp s₀ m :=
  Machine.run_invariant (serial_init p exec giveUp s₀) (fun _ _ _ hi hs ↦ hi.step hp hs) h

/-- Only a call inside the mutex changes the shared state. -/
theorem Serial.shared_eq_or_inside {m m' : State T S C F R}
    (h : Serial p exec giveUp s₀ m) {act : Action T C} (hs : Monitor.step p m act = some m') :
    m'.shared = m.shared ∨ ∃ t, act = .step t ∧ m.holder = some t := by
  cases steps_of_step hs with
  | @access t a run ha hcode =>
    obtain ⟨k, _, hin, _⟩ := (h.pending t a ha).access hcode
    exact .inr ⟨t, rfl, (h.holder t).mpr ⟨a, k, ha, hin⟩⟩
  | call | take | timeOut | internal | unlock | ret => exact .inl rfl

end Serial

section Tickets

/-- The places given to calls that have returned. -/
def State.served (m : State T S C F R) : List ℕ := m.returned.filterMap (·.ticket)

/-- Each place in the order of acquisition belongs to one call, in progress or returned. -/
structure Tickets (m : State T S C F R) : Prop where
  served : m.served.Nodup
  served_lt : ∀ k ∈ m.served, k < m.acquired.length
  active_lt : ∀ t a k, m.active t = some a → a.phase.ticket = some k →
    k < m.acquired.length ∧ k ∉ m.served
  active : ∀ t u a b k, m.active t = some a → m.active u = some b →
    a.phase.ticket = some k → b.phase.ticket = some k → t = u
  covered : ∀ k < m.acquired.length,
    k ∈ m.served ∨ ∃ t a, m.active t = some a ∧ a.phase.ticket = some k

private theorem tickets_init (s₀ : S) : Tickets (State.init s₀ : State T S C F R) where
  served := List.nodup_nil
  served_lt k h := by cases h
  active_lt t a k h := by cases h
  active t u a b k h := by cases h
  covered k h := absurd h (Nat.not_lt_zero k)

variable [DecidableEq T] {p : Program S C F R}

private theorem Tickets.set {m : State T S C F R} (h : Tickets m) {t : T}
    {new : Activation C F}
    (hnew : new.phase.ticket = (m.active t).bind (·.phase.ticket)) (s : S) (holder : Option T) :
    Tickets { m with
      shared := s, holder := holder, active := Function.update m.active t (some new) } := by
  have hold : ∀ u a k, Function.update m.active t (some new) u = some a →
      a.phase.ticket = some k → ∃ b, m.active u = some b ∧ b.phase.ticket = some k := by
    intro u a k ha hk
    by_cases hu : u = t
    · subst hu
      rw [Function.update_self, Option.some_inj] at ha
      subst ha
      exact Option.bind_eq_some_iff.mp (hnew.symm.trans hk)
    · rw [Function.update_of_ne hu] at ha
      exact ⟨a, ha, hk⟩
  refine ⟨h.served, h.served_lt, ?_, ?_, ?_⟩
  · intro u a k ha hk
    obtain ⟨b, hb, hbk⟩ := hold u a k ha hk
    exact h.active_lt u b k hb hbk
  · intro u v a b k ha hb hak hbk
    obtain ⟨a', ha', hak'⟩ := hold u a k ha hak
    obtain ⟨b', hb', hbk'⟩ := hold v b k hb hbk
    exact h.active u v a' b' k ha' hb' hak' hbk'
  · intro k hk
    rcases h.covered k hk with hserved | ⟨u, a, ha, hak⟩
    · exact .inl hserved
    · by_cases hu : u = t
      · subst hu
        refine .inr ⟨u, new, Function.update_self .., ?_⟩
        rw [hnew, ha]
        exact hak
      · exact .inr ⟨u, a, (Function.update_of_ne hu _ _).trans ha, hak⟩

private theorem Tickets.take {m : State T S C F R} (h : Tickets m) {t : T} {a new : Activation C F}
    (ha : m.active t = some a) (hfresh : a.phase.ticket = none)
    (hnew : new.phase.ticket = some m.acquired.length) (c : C) :
    Tickets { m with
      holder := some t, acquired := m.acquired ++ [c]
      active := Function.update m.active t (some new) } := by
  have hlt : ∀ k < m.acquired.length, k < (m.acquired ++ [c]).length := by
    intro k hk
    rw [List.length_append]
    exact Nat.lt_of_lt_of_le hk (Nat.le_add_right _ _)
  have hold : ∀ u b k, Function.update m.active t (some new) u = some b → b.phase.ticket = some k →
      (u = t ∧ k = m.acquired.length) ∨ m.active u = some b := by
    intro u b k hb hk
    by_cases hu : u = t
    · subst hu
      rw [Function.update_self, Option.some_inj] at hb
      subst hb
      exact .inl ⟨rfl, (Option.some_inj.mp (hnew.symm.trans hk)).symm⟩
    · rw [Function.update_of_ne hu] at hb
      exact .inr hb
  refine ⟨h.served, fun k hk ↦ hlt k (h.served_lt k hk), ?_, ?_, ?_⟩
  · intro u b k hb hk
    rcases hold u b k hb hk with ⟨rfl, rfl⟩ | hb'
    · refine ⟨by simp, fun hs ↦ ?_⟩
      exact Nat.lt_irrefl _ (h.served_lt _ hs)
    · exact ⟨hlt k (h.active_lt u b k hb' hk).1, (h.active_lt u b k hb' hk).2⟩
  · intro u v b b' k hb hb' hk hk'
    rcases hold u b k hb hk with ⟨rfl, rfl⟩ | hu
    · rcases hold v b' _ hb' hk' with ⟨rfl, _⟩ | hv
      · rfl
      · exact absurd (h.active_lt v b' _ hv hk').1 (Nat.lt_irrefl _)
    · rcases hold v b' k hb' hk' with ⟨rfl, rfl⟩ | hv
      · exact absurd (h.active_lt u b _ hu hk).1 (Nat.lt_irrefl _)
      · exact h.active u v b b' k hu hv hk hk'
  · intro k hk
    rw [List.length_append, List.length_singleton] at hk
    by_cases hlast : k = m.acquired.length
    · exact .inr ⟨t, new, Function.update_self .., by rw [hnew, hlast]⟩
    · rcases h.covered k (by omega) with hserved | ⟨u, b, hb, hbk⟩
      · exact .inl hserved
      · have hu : u ≠ t := by
          rintro rfl
          cases ha.symm.trans hb
          rw [hfresh] at hbk
          cases hbk
        exact .inr ⟨u, b, (Function.update_of_ne hu _ _).trans hb, hbk⟩

private theorem Tickets.ret {m : State T S C F R} (h : Tickets m) {t : T} {a : Activation C F}
    (ha : m.active t = some a) (reply : R) :
    Tickets { m with
      active := Function.update m.active t none
      returned := m.returned ++ [⟨t, a.call, a.phase.ticket, reply⟩] } := by
  have hserved : ∀ k, k ∈ State.served { m with
      active := Function.update m.active t none
      returned := m.returned ++ [⟨t, a.call, a.phase.ticket, reply⟩] } ↔
        k ∈ m.served ∨ a.phase.ticket = some k := by
    intro k
    cases a.phase.ticket <;> simp [State.served, eq_comm]
  have hold : ∀ u b, Function.update m.active t none u = some b → u ≠ t ∧ m.active u = some b := by
    intro u b hb
    by_cases hu : u = t
    · subst hu
      rw [Function.update_self] at hb
      cases hb
    · rw [Function.update_of_ne hu] at hb
      exact ⟨hu, hb⟩
  refine ⟨?_, ?_, ?_, ?_, ?_⟩
  · simp only [State.served, List.filterMap_append]
    cases hk : a.phase.ticket with
    | none =>
      rw [List.filterMap_cons_none rfl, List.filterMap_nil, List.append_nil]
      exact h.served
    | some k =>
      apply List.nodup_append.mpr
      refine ⟨h.served, by simp, ?_⟩
      rintro i hi j hj rfl
      rw [List.mem_singleton.mp hj] at hi
      exact (h.active_lt t a k ha hk).2 hi
  · intro k hk
    rcases (hserved k).mp hk with hk | hk
    · exact h.served_lt k hk
    · exact (h.active_lt t a k ha hk).1
  · intro u b k hb hk
    obtain ⟨hu, hb⟩ := hold u b hb
    refine ⟨(h.active_lt u b k hb hk).1, fun hs ↦ ?_⟩
    rcases (hserved k).mp hs with hs | hs
    · exact (h.active_lt u b k hb hk).2 hs
    · exact hu (h.active u t b a k hb ha hk hs)
  · intro u v b b' k hb hb' hk hk'
    exact h.active u v b b' k (hold u b hb).2 (hold v b' hb').2 hk hk'
  · intro k hk
    rcases h.covered k hk with hs | ⟨u, b, hb, hbk⟩
    · exact .inl ((hserved k).mpr (.inl hs))
    · by_cases hu : u = t
      · subst hu
        cases ha.symm.trans hb
        exact .inl ((hserved k).mpr (.inr hbk))
      · exact .inr ⟨u, b, (Function.update_of_ne hu _ _).trans hb, hbk⟩

/-- Every instruction keeps the places apart. -/
theorem Tickets.step {exec : S → C → S × R} {giveUp : C → R} {s₀ : S}
    {m m' : State T S C F R} (h : Tickets m) (hserial : Serial p exec giveUp s₀ m)
    {act : Action T C} (hs : step p m act = some m') : Tickets m' := by
  cases steps_of_step hs with
  | call c ht => exact h.set (by rw [ht]; rfl) m.shared m.holder
  | @take t a _ _ ha hcode hfree =>
    have hbefore := ((hserial.pending t a ha).lock hcode).1
    exact h.take ha (by rw [hbefore]; rfl) rfl a.call
  | @timeOut t a _ _ ha hcode =>
    have hbefore := ((hserial.pending t a ha).lock hcode).1
    exact h.set (by rw [ha, Option.bind_some, hbefore]; rfl) m.shared m.holder
  | @access _ _ run ha _ => exact h.set (by rw [ha]; rfl) (run m.shared).1 m.holder
  | internal ha _ => exact h.set (by rw [ha]; rfl) m.shared m.holder
  | unlock ha _ => exact h.set (by rw [ha]; rfl) m.shared none
  | @ret _ _ reply ha _ => exact h.ret ha reply

/-- In every run each place in the order of acquisition belongs to one call. -/
theorem tickets_run {exec : S → C → S × R} {giveUp : C → R} {s₀ : S}
    (hp : ∀ c, p.Enters exec giveUp c (p.start c)) {acts : List (Action T C)}
    {m : State T S C F R} (h : Machine.run (Monitor.step p) (State.init s₀) acts = some m) :
    Tickets m :=
  (Machine.run_invariant (I := fun m ↦ Serial p exec giveUp s₀ m ∧ Tickets m)
    ⟨serial_init p exec giveUp s₀, tickets_init s₀⟩
    (fun _ _ _ hi hs ↦ ⟨hi.1.step hp hs, hi.2.step hi.1 hs⟩) h).2

end Tickets
end Base.Monitor
