import Mathlib.Data.List.Perm.Basic
import Mathlib.Data.List.Range

/-!
# A numbered stream through a lossy queue

Items are numbered 1, 2, 3, ... as they are issued. Each is refused, or queued, or queued after
evicting the oldest queued item; queued items are taken in batches and finished one by one. The
invariant `Exact` says that every number is in exactly one place and that what is delivered stays
in order; the rest counts what is missing from the delivered numbers alone.
-/

namespace Base

/-- Where the numbers `1 .. issued` are, and how many were refused since one was queued. -/
structure Delivery where
  issued : ℕ
  done : List ℕ
  held : List ℕ
  queued : List ℕ
  evicted : List ℕ
  refused : List ℕ
  streak : ℕ

namespace Delivery

/-- Nothing issued yet. -/
def empty : Delivery := ⟨0, [], [], [], [], [], 0⟩

/-- What is delivered or on its way, in order. -/
def pipeline (d : Delivery) : List ℕ := d.done ++ (d.held ++ d.queued)

/-- The next item is refused. -/
def refuse (d : Delivery) : Delivery :=
  { d with issued := d.issued + 1, refused := d.refused ++ [d.issued + 1], streak := d.streak + 1 }

/-- The next item is queued; a full queue evicts its oldest item first. -/
def store (d : Delivery) (full : Bool) : Delivery :=
  { d with
    issued := d.issued + 1
    queued := (if full then d.queued.tail else d.queued) ++ [d.issued + 1]
    evicted := if full then d.evicted ++ d.queued.head?.toList else d.evicted
    streak := 0 }

/-- Up to `n` queued items are taken. -/
def take (d : Delivery) (n : ℕ) : Delivery :=
  { d with held := d.held ++ d.queued.take n, queued := d.queued.drop n }

/-- The oldest taken item is finished. -/
def finish (d : Delivery) : Delivery :=
  { d with done := d.done ++ d.held.head?.toList, held := d.held.tail }

/-- Every number is in one place, and the delivered ones are in order. -/
structure Exact (d : Delivery) : Prop where
  increasing : d.pipeline.Pairwise (· < ·)
  partition : (d.pipeline ++ (d.evicted ++ d.refused)).Perm (List.range' 1 d.issued)
  streak : d.issued = d.pipeline.getLast?.getD 0 + d.streak

/-- The empty stream is exact. -/
theorem exact_empty : Exact empty := ⟨.nil, .nil, rfl⟩

variable {d : Delivery}

/-- Only issued numbers are anywhere. -/
theorem Exact.mem_bounds (h : Exact d) {n : ℕ}
    (hn : n ∈ d.pipeline ++ (d.evicted ++ d.refused)) : 0 < n ∧ n ≤ d.issued := by
  have hmem := h.partition.mem_iff.mp hn
  rw [List.mem_range'_1] at hmem
  omega

/-- Every issued number is somewhere. -/
theorem Exact.issued_eq (h : Exact d) :
    d.issued = d.pipeline.length + d.evicted.length + d.refused.length := by
  have hlen := h.partition.length_eq
  simp only [List.length_append, List.length_range'] at hlen
  omega

private theorem partition_concat {l : List ℕ} {n : ℕ} (h : l.Perm (List.range' 1 n)) :
    (l ++ [n + 1]).Perm (List.range' 1 (n + 1)) := by
  rw [List.range'_1_concat, Nat.add_comm 1 n]
  exact h.append_right _

/-- Refusing keeps the books. -/
theorem Exact.refuse (h : Exact d) : Exact d.refuse := by
  refine ⟨h.increasing, ?_, ?_⟩
  · have hp := partition_concat h.partition
    rw [List.append_assoc, List.append_assoc] at hp
    exact hp
  · have hs := h.streak
    simp only [Delivery.refuse, pipeline] at hs ⊢
    omega

/-- Queuing keeps the books, with and without an eviction. -/
theorem Exact.store (h : Exact d) (full : Bool) : Exact (d.store full) := by
  have hp := partition_concat h.partition
  have hlt : ∀ n ∈ d.pipeline, n < d.issued + 1 := fun n hn ↦
    Nat.lt_succ_of_le (h.mem_bounds (List.mem_append_left _ hn)).2
  have hsub : (d.done ++ (d.held ++ if full then d.queued.tail else d.queued)).Sublist
      d.pipeline := by
    refine (List.Sublist.refl _).append ((List.Sublist.refl _).append ?_)
    split
    · exact List.tail_sublist _
    · exact List.Sublist.refl _
  refine ⟨?_, ?_, ?_⟩
  · have heq : (d.store full).pipeline =
        (d.done ++ (d.held ++ if full then d.queued.tail else d.queued)) ++ [d.issued + 1] := by
      simp only [Delivery.store, pipeline, List.append_assoc]
    rw [heq, List.pairwise_append]
    refine ⟨h.increasing.sublist hsub, List.pairwise_singleton _ _, ?_⟩
    intro n hn m hm
    rw [List.mem_singleton.mp hm]
    exact hlt n (hsub.subset hn)
  · refine List.Perm.trans ?_ hp
    rw [List.perm_iff_count]
    intro n
    cases full with
    | false =>
      simp only [Delivery.store, pipeline, Bool.false_eq_true, if_false, List.count_append]
      omega
    | true =>
      cases hq : d.queued with
      | nil =>
        simp only [Delivery.store, pipeline, hq, if_true, List.tail_nil, List.head?_nil,
          Option.toList_none, List.count_append, List.count_nil]
        omega
      | cons m ms =>
        simp only [Delivery.store, pipeline, hq, if_true, List.tail_cons, List.head?_cons,
          Option.toList_some, List.count_append, List.count_cons, List.count_nil]
        omega
  · simp [Delivery.store, pipeline, List.getLast?_append]

/-- Taking a batch keeps the books. -/
theorem Exact.take (h : Exact d) (n : ℕ) : Exact (d.take n) := by
  have heq : (d.take n).pipeline = d.pipeline := by
    simp only [Delivery.take, pipeline, List.append_assoc, List.take_append_drop]
  exact ⟨heq ▸ h.increasing, by rw [heq]; exact h.partition, by rw [heq]; exact h.streak⟩

/-- Finishing an item keeps the books. -/
theorem Exact.finish (h : Exact d) : Exact d.finish := by
  have heq : d.finish.pipeline = d.pipeline := by
    cases hh : d.held <;> simp [Delivery.finish, pipeline, hh]
  exact ⟨heq ▸ h.increasing, by rw [heq]; exact h.partition, by rw [heq]; exact h.streak⟩

/-- No number is delivered twice. -/
theorem Exact.nodup (h : Exact d) : d.pipeline.Nodup :=
  h.increasing.imp fun hlt ↦ Nat.ne_of_lt hlt

/-- What is lost among the first `k` items is known from the last finished item and the number
of finished ones alone. -/
theorem Exact.lost_upTo (h : Exact d) {k : ℕ} (hk : d.done.getLast? = some k) :
    d.done.length + (d.evicted ++ d.refused).countP (· ≤ k) = k := by
  obtain ⟨before, hbefore⟩ := List.getLast?_eq_some_iff.mp hk
  have hle : k ≤ d.issued := (h.mem_bounds (by simp [pipeline, hbefore])).2
  obtain ⟨hinc, _, hlater⟩ := List.pairwise_append.mp h.increasing
  have hdone : d.done.countP (· ≤ k) = d.done.length := by
    rw [hbefore, List.pairwise_append] at hinc
    rw [List.countP_eq_length, hbefore]
    intro n hn
    rcases List.mem_append.mp hn with hn | hn
    · exact decide_eq_true (hinc.2.2 n hn k (List.mem_singleton_self k)).le
    · exact decide_eq_true (List.mem_singleton.mp hn).le
  have hrest : (d.held ++ d.queued).countP (· ≤ k) = 0 := by
    rw [List.countP_eq_zero]
    intro n hn
    have hlt := hlater k (by simp [hbefore]) n hn
    simpa using hlt
  have hrange : (List.range' 1 d.issued).countP (· ≤ k) = k := by
    obtain ⟨m, hm⟩ := Nat.exists_eq_add_of_le hle
    have hsplit : List.range' 1 d.issued = List.range' 1 k ++ List.range' (1 + k) m := by
      rw [hm, List.range'_append_1]
    rw [hsplit, List.countP_append, List.countP_eq_length.mpr, List.countP_eq_zero.mpr,
      List.length_range', Nat.add_zero]
    · intro n hn
      rw [List.mem_range'_1] at hn
      simp only [decide_eq_true_eq]
      omega
    · intro n hn
      rw [List.mem_range'_1] at hn
      simp only [decide_eq_true_eq]
      omega
  have hcount := h.partition.countP_eq (· ≤ k)
  rw [List.countP_append, pipeline, List.countP_append, hdone, hrest, hrange] at hcount
  omega

/-- The lost numbers up to `k` may be counted on either side. -/
theorem Exact.countP_lost (h : Exact d) (k : ℕ) :
    (d.evicted ++ d.refused).countP (· ≤ k) =
      (List.range' 1 k).countP (· ∈ d.evicted ++ d.refused) := by
  have hnodup : (d.evicted ++ d.refused).Nodup :=
    (List.nodup_append.mp (h.partition.nodup_iff.mpr (List.nodup_range' 1))).2.1
  rw [List.countP_eq_length_filter, List.countP_eq_length_filter]
  apply List.Perm.length_eq
  rw [List.perm_ext_iff_of_nodup (hnodup.filter _) ((List.nodup_range' 1).filter _)]
  intro n
  simp only [List.mem_filter, List.mem_range'_1, decide_eq_true_eq]
  constructor
  · rintro ⟨hn, hle⟩
    have hpos := (h.mem_bounds (List.mem_append_right _ hn)).1
    exact ⟨by omega, hn⟩
  · rintro ⟨hle, hn⟩
    exact ⟨hn, by omega⟩

/-- Once everything queued is finished, what is lost is what the last finished item shows, and
the refusals since. -/
theorem Exact.lost_drained (h : Exact d) (hheld : d.held = []) (hqueued : d.queued = []) :
    d.done.length + (d.evicted.length + d.refused.length) =
      d.done.getLast?.getD 0 + d.streak := by
  have hi := h.issued_eq
  have hs := h.streak
  simp only [pipeline, hheld, hqueued, List.append_nil] at hi hs
  omega

end Delivery
end Base
