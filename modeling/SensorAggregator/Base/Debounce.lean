import Mathlib.Data.List.Induction
import Mathlib.Order.Bounds.Basic

/-!
# Debouncing a stream of bits

An integrator keeps a level, and takes over a reading once it has seen it a number of times in a
row against its level. The level is then that of the most recent run of equal readings of that
length, or the seed as long as there was none.
-/

namespace Base.Debounce

/-- The level, and how many readings in a row were against it. -/
structure Integrator where
  level : Bool
  count : ℕ

namespace Integrator

/-- One reading. -/
def read (scans : ℕ) (s : Integrator) (r : Bool) : Integrator :=
  if r = s.level then { s with count := 0 }
  else if scans ≤ s.count + 1 then ⟨r, 0⟩
  else { s with count := s.count + 1 }

/-- All readings, from a seed on. -/
def run (scans : ℕ) (seed : Bool) (rs : List Bool) : Integrator :=
  rs.foldl (read scans) ⟨seed, 0⟩

/-- The last reading is read last. -/
theorem run_concat (scans : ℕ) (seed : Bool) (rs : List Bool) (r : Bool) :
    run scans seed (rs ++ [r]) = (run scans seed rs).read scans r := by
  rw [run, List.foldl_append]
  rfl

end Integrator

/-- Where a run of `scans` equal readings ends, counted in readings. -/
def runEnds (scans : ℕ) (rs : List Bool) : Set ℕ :=
  {n | n ≤ rs.length ∧ ∃ level, List.replicate scans level <:+ rs.take n}

/-- The level of the most recent run of `scans` equal readings, or the seed if there is none. -/
def Settled (scans : ℕ) (seed : Bool) (rs : List Bool) (level : Bool) : Prop :=
  (∃ n, IsGreatest (runEnds scans rs) n ∧ List.replicate scans level <:+ rs.take n) ∨
    (runEnds scans rs = ∅ ∧ level = seed)

/-- The readings end with a high run, and a low one came before. -/
def Repressed (scans : ℕ) (rs : List Bool) : Prop :=
  ∃ pre mid, rs = pre ++ List.replicate scans false ++ mid ++ List.replicate scans true

variable {scans n : ℕ} {seed level r : Bool} {rs : List Bool}

private theorem replicate_suffix_concat :
    List.replicate (n + 1) level <:+ rs ++ [r] ↔ level = r ∧ List.replicate n level <:+ rs := by
  rw [List.suffix_concat_iff, List.replicate_succ']
  constructor
  · rintro (hnil | ⟨t, heq, hsuffix⟩)
    · simp at hnil
    · obtain ⟨rfl, hlast⟩ := List.append_inj' heq rfl
      exact ⟨List.singleton_inj.mp hlast, hsuffix⟩
  · rintro ⟨rfl, hsuffix⟩
    exact .inr ⟨_, rfl, hsuffix⟩

private theorem replicate_suffix_of_le {m : ℕ} (hle : m ≤ n) (h : List.replicate n level <:+ rs) :
    List.replicate m level <:+ rs := by
  apply List.IsSuffix.trans _ h
  rw [List.suffix_replicate_iff, List.length_replicate]
  exact ⟨hle, rfl⟩

private theorem mem_runEnds_concat (hle : n ≤ rs.length) :
    n ∈ runEnds scans (rs ++ [r]) ↔ n ∈ runEnds scans rs := by
  have hle' : n ≤ (rs ++ [r]).length := by
    rw [List.length_append]
    omega
  change n ≤ (rs ++ [r]).length ∧ _ ↔ n ≤ rs.length ∧ _
  rw [List.take_append_of_le_length hle, and_iff_right hle, and_iff_right hle']

private theorem settled_of_suffix (h : List.replicate scans level <:+ rs) :
    Settled scans seed rs level := by
  refine .inl ⟨rs.length, ⟨⟨Nat.le_refl _, level, ?_⟩, fun n hn ↦ hn.1⟩, ?_⟩
  · rwa [List.take_length]
  · rwa [List.take_length]

/-- A reading that ends no run changes nothing. -/
theorem Settled.concat (h : Settled scans seed rs level)
    (hnone : ∀ level', ¬ List.replicate scans level' <:+ rs ++ [r]) :
    Settled scans seed (rs ++ [r]) level := by
  have hends : runEnds scans (rs ++ [r]) = runEnds scans rs := by
    ext n
    by_cases hle : n ≤ rs.length
    · exact mem_runEnds_concat hle
    · constructor
      · rintro ⟨-, level', hsuffix⟩
        rw [List.take_of_length_le (by simp; omega)] at hsuffix
        exact absurd hsuffix (hnone level')
      · rintro ⟨hle', -⟩
        exact absurd hle' hle
  rcases h with ⟨n, hgreatest, hsuffix⟩ | ⟨hempty, hseed⟩
  · refine .inl ⟨n, by rwa [hends], ?_⟩
    rwa [List.take_append_of_le_length hgreatest.1.1]
  · exact .inr ⟨by rwa [hends], hseed⟩

/-- What the level and the count of an integrator say about the readings so far. -/
structure Tracks (scans : ℕ) (seed : Bool) (rs : List Bool) (s : Integrator) : Prop where
  count_lt : s.count < scans
  against : List.replicate s.count (!s.level) <:+ rs
  longest : ¬ List.replicate (s.count + 1) (!s.level) <:+ rs
  settled : Settled scans seed rs s.level

private theorem tracks_nil (hscans : 0 < scans) : Tracks scans seed [] ⟨seed, 0⟩ where
  count_lt := hscans
  against := List.nil_suffix
  longest := by simp
  settled := by
    refine .inr ⟨?_, rfl⟩
    apply Set.eq_empty_of_forall_notMem
    rintro n ⟨-, level, hrun⟩
    rw [List.take_nil, List.suffix_nil, List.replicate_eq_nil_iff] at hrun
    omega

private theorem not_suffix_of_level : ¬ List.replicate 1 (!r) <:+ rs ++ [r] := by
  rw [replicate_suffix_concat]
  rintro ⟨hne, -⟩
  exact absurd hne (by simp)

private theorem level_eq_of_suffix (hscans : 0 < scans)
    (h : List.replicate scans level <:+ rs ++ [r]) :
    level = r := by
  obtain ⟨k, rfl⟩ := Nat.exists_eq_succ_of_ne_zero (Nat.ne_of_gt hscans)
  exact (replicate_suffix_concat.mp h).1

/-- One more reading. -/
theorem Tracks.read {s : Integrator} (h : Tracks scans seed rs s) (r : Bool) :
    Tracks scans seed (rs ++ [r]) (s.read scans r) := by
  have hscans : 0 < scans := Nat.lt_of_le_of_lt (Nat.zero_le _) h.count_lt
  unfold Integrator.read
  split
  · next hlevel =>
    exact {
      count_lt := hscans
      against := List.nil_suffix
      longest := by
        rw [← hlevel]
        exact not_suffix_of_level
      settled := by
        by_cases hrun : List.replicate scans r <:+ rs ++ [r]
        · rw [← hlevel]
          exact settled_of_suffix hrun
        · apply h.settled.concat
          intro level' hrun'
          rw [level_eq_of_suffix hscans hrun'] at hrun'
          exact hrun hrun' }
  · next hlevel =>
    have hr : (!s.level) = r := by
      cases r <;> cases hs : s.level <;> simp_all
    have hagainst : List.replicate (s.count + 1) r <:+ rs ++ [r] := by
      rw [replicate_suffix_concat, ← hr]
      exact ⟨rfl, h.against⟩
    split
    · next hflip =>
      have hcount : s.count + 1 = scans := Nat.le_antisymm h.count_lt hflip
      rw [hcount] at hagainst
      exact {
        count_lt := hscans
        against := List.nil_suffix
        longest := not_suffix_of_level
        settled := settled_of_suffix hagainst }
    · next hwait =>
      have hlongest : ¬ List.replicate (s.count + 1 + 1) (!s.level) <:+ rs ++ [r] := by
        rw [replicate_suffix_concat]
        exact fun hrun ↦ h.longest hrun.2
      exact {
        count_lt := Nat.lt_of_not_le hwait
        against := by
          rw [hr]
          exact hagainst
        longest := hlongest
        settled := by
          apply h.settled.concat
          intro level' hrun
          have hlevel' : level' = !s.level := (level_eq_of_suffix hscans hrun).trans hr.symm
          rw [hlevel'] at hrun
          exact hlongest (replicate_suffix_of_le (Nat.lt_of_not_le hwait) hrun) }

/-- An integrator computes the filter. -/
theorem tracks_run (hscans : 0 < scans) (seed : Bool) (rs : List Bool) :
    Tracks scans seed rs (Integrator.run scans seed rs) := by
  induction rs using List.reverseRecOn with
  | nil => exact tracks_nil hscans
  | append_singleton rs r ih =>
    rw [Integrator.run_concat]
    exact ih.read r

/-- The level rises with the last reading of a run, and the count starts over. -/
theorem run_of_rise (hscans : 0 < scans) (hlow : (Integrator.run scans seed rs).level = false)
    (hhigh : (Integrator.run scans seed (rs ++ [r])).level = true) :
    Integrator.run scans seed (rs ++ [r]) = ⟨true, 0⟩ ∧
      List.replicate scans true <:+ rs ++ [r] := by
  have htracks := tracks_run hscans seed rs
  rw [Integrator.run_concat] at hhigh ⊢
  generalize Integrator.run scans seed rs = s at hlow hhigh htracks
  unfold Integrator.read at hhigh ⊢
  split at hhigh
  · exact absurd (hlow.symm.trans hhigh) Bool.false_ne_true
  · next hlevel =>
    split at hhigh
    · next hflip =>
      have hr : r = true := hhigh
      have hcount : s.count + 1 = scans := Nat.le_antisymm htracks.count_lt hflip
      rw [if_neg hlevel, if_pos hflip, hr, ← hcount]
      refine ⟨rfl, replicate_suffix_concat.mpr ⟨rfl, ?_⟩⟩
      have hagainst := htracks.against
      rwa [hlow] at hagainst
    · exact absurd (hlow.symm.trans hhigh) Bool.false_ne_true

/-- Two runs of different levels do not overlap. -/
theorem repressed_of_suffix (hscans : 0 < scans) {pre post : List Bool}
    (h : List.replicate scans true <:+ pre ++ List.replicate scans false ++ post) :
    Repressed scans (pre ++ List.replicate scans false ++ post) := by
  obtain ⟨k, rfl⟩ := Nat.exists_eq_succ_of_ne_zero (Nat.ne_of_gt hscans)
  rcases List.suffix_or_suffix_of_suffix h (List.suffix_append _ post) with hsuffix | hsuffix
  · obtain ⟨mid, rfl⟩ := hsuffix
    exact ⟨pre, mid, (List.append_assoc _ _ _).symm⟩
  · obtain ⟨front, hfront⟩ := hsuffix
    rcases List.eq_nil_or_concat front with rfl | ⟨front, last, rfl⟩
    · refine ⟨pre, [], ?_⟩
      rw [List.append_nil, ← hfront, List.nil_append]
    -- the reading where the two would overlap is of both levels
    · obtain ⟨before, hbefore⟩ := h
      have htrue : last = true := by
        apply List.eq_of_mem_replicate (n := k + 1)
        rw [← hfront]
        simp
      have hfalse : before ++ front ++ [last] = pre ++ List.replicate k false ++ [false] := by
        apply (List.append_left_inj post).mp
        rw [List.append_assoc pre, ← List.replicate_succ', ← hbefore, ← hfront]
        simp only [List.append_assoc, List.concat_eq_append]
      have hlast := (List.append_inj' hfalse rfl).2
      rw [htrue] at hlast
      cases hlast

private theorem release_before_rise (hscans : 0 < scans)
    (hlow : (Integrator.run scans true rs).level = false)
    (hhigh : (Integrator.run scans true (rs ++ [r])).level = true) :
    Repressed scans (rs ++ [r]) := by
  have hrun := (run_of_rise hscans hlow hhigh).2
  rcases (tracks_run hscans true rs).settled with ⟨n, -, hsuffix⟩ | ⟨-, hseed⟩
  · rw [hlow] at hsuffix
    obtain ⟨pre, hpre⟩ := hsuffix
    have hsplit : rs ++ [r] = pre ++ List.replicate scans false ++ (rs.drop n ++ [r]) := by
      rw [hpre, ← List.append_assoc, List.take_append_drop]
    rw [hsplit] at hrun ⊢
    exact repressed_of_suffix hscans hrun
  · rw [hlow] at hseed
    exact absurd hseed Bool.false_ne_true

/-- Once the level is high and nothing has been read against it, it rises again only after it was
low for a whole run. -/
theorem release_between (hscans : 0 < scans) {k j : ℕ}
    (hstart : Integrator.run scans seed (rs.take k) = ⟨true, 0⟩) (hkj : k ≤ j)
    (hj : j < rs.length) (hlow : (Integrator.run scans seed (rs.take j)).level = false)
    (hhigh : (Integrator.run scans seed (rs.take (j + 1))).level = true) :
    Repressed scans ((rs.take (j + 1)).drop k) := by
  have hfrom (n : ℕ) (hn : k ≤ n) : Integrator.run scans seed (rs.take n) =
      Integrator.run scans true ((rs.take n).drop k) := by
    have htake : (rs.take n).take k = rs.take k := by
      rw [List.take_take, Nat.min_eq_left hn]
    calc
      Integrator.run scans seed (rs.take n)
        = Integrator.run scans seed ((rs.take n).take k ++ (rs.take n).drop k) := by
          rw [List.take_append_drop]
      _ = ((rs.take n).drop k).foldl (Integrator.read scans) ⟨true, 0⟩ := by
          rw [htake, Integrator.run, List.foldl_append, ← Integrator.run, hstart]
  have hlast : (rs.take (j + 1)).drop k = (rs.take j).drop k ++ [rs[j]] := by
    rw [List.take_add_one, List.getElem?_eq_getElem hj, Option.toList_some,
      List.drop_append_of_le_length]
    rw [List.length_take]
    omega
  rw [hfrom j hkj] at hlow
  rw [hfrom (j + 1) (Nat.le_succ_of_le hkj), hlast] at hhigh
  rw [hlast]
  exact release_before_rise hscans hlow hhigh

/-- Between two rises of the level it was low for a whole run. -/
theorem repressed_of_rises (hscans : 0 < scans) {i j : ℕ} (hij : i < j) (hj : j < rs.length)
    (hlow : (Integrator.run scans seed (rs.take i)).level = false)
    (hhigh : (Integrator.run scans seed (rs.take (i + 1))).level = true)
    (hlow' : (Integrator.run scans seed (rs.take j)).level = false)
    (hhigh' : (Integrator.run scans seed (rs.take (j + 1))).level = true) :
    Repressed scans ((rs.take (j + 1)).drop (i + 1)) := by
  have hi : i < rs.length := Nat.lt_trans hij hj
  have htake : rs.take (i + 1) = rs.take i ++ [rs[i]] := by
    rw [List.take_add_one, List.getElem?_eq_getElem hi, Option.toList_some]
  rw [htake] at hhigh
  have hrestart := (run_of_rise hscans hlow hhigh).1
  rw [← htake] at hrestart
  exact release_between hscans hrestart hij hj hlow' hhigh'

end Base.Debounce
