/-
**A rollout as the API server reports it.**

A counter that is zero is left out of the status and read as not known, so a Deployment that is
scaled to zero is never complete.
-/

import Wicket.RuntimeCycle

namespace Wicket

open UInt32

/-! ### Reported counters -/

/-- The counters of a Deployment.  Those of the replicas are 32-bit numbers with a sign. -/
structure DeploymentCounts where
  generation : ℕ
  observedGeneration : ℕ
  desired : ℕ
  updated : ℕ
  available : ℕ
  ready : ℕ
  generation_pos : 0 < generation
  desired_lt : desired < 2 ^ 31
  updated_lt : updated < 2 ^ 31
  available_lt : available < 2 ^ 31
  ready_lt : ready < 2 ^ 31

/-- A counter of a status is left out when it is zero. -/
def omitZero (n : ℕ) : Option ℤ := if n = 0 then none else some n

namespace DeploymentCounts

def Converged (c : DeploymentCounts) : Prop :=
  c.generation ≤ c.observedGeneration ∧ c.desired ≤ c.updated ∧
    (c.desired = 0 ∨ 1 ≤ c.available ∧ 1 ≤ c.ready)

structure ReportedBy (c : DeploymentCounts) (deploy : KubeObject) : Prop where
  generation : numberAt deploy [.field "metadata", .field "generation"] = some (c.generation : ℤ)
  desired : numberAt deploy [.field "spec", .field "replicas"] = some (c.desired : ℤ)
  observedGeneration : numberAt deploy (statusPath "observedGeneration") =
    omitZero c.observedGeneration
  updated : numberAt deploy (statusPath "updatedReplicas") = omitZero c.updated
  available : numberAt deploy (statusPath "availableReplicas") = omitZero c.available
  ready : numberAt deploy (statusPath "readyReplicas") = omitZero c.ready

end DeploymentCounts

/-! ### The check -/

theorem omitZero_bind_unsigned (n : ℕ) :
    (omitZero n).bind unsigned = if n = 0 then none else some (ofNat n) := by
  rw [omitZero]
  split
  · rfl
  · rw [Option.bind_some, unsigned, if_pos (Int.natCast_nonneg n), Int.toNat_natCast]

theorem ofNat_le_ofNat_iff {m n : ℕ} (hm : m < 2 ^ 31) (hn : n < 2 ^ 31) :
    ofNat m ≤ ofNat n ↔ m ≤ n := by
  have hsize : 2 ^ 31 < size := by decide
  rw [le_iff_toNat_le, toNat_ofNat_of_lt' (hm.trans hsize), toNat_ofNat_of_lt' (hn.trans hsize)]

theorem isRolloutConverged_of_known {obs : ObservedRuntimeState} {generation observed : ℤ}
    {updated available desired ready : UInt32}
    (hgeneration : obs.deployGeneration = some generation)
    (hobserved : obs.deployObservedGeneration = some observed)
    (hupdated : obs.updatedReplicas = some updated)
    (havailable : obs.availableReplicas = some available)
    (hdesired : obs.desiredReplicas = some desired) (hready : obs.readyReplicas = some ready) :
    isRolloutConverged obs = true ↔
      generation ≤ observed ∧ desired ≤ updated ∧ (desired = 0 ∨ 1 ≤ available ∧ 1 ≤ ready) := by
  rw [isRolloutConverged, hgeneration, hobserved, hupdated, havailable, hdesired, hready]
  grind

theorem isRolloutConverged_known {obs : ObservedRuntimeState} (h : isRolloutConverged obs = true) :
    obs.deployObservedGeneration ≠ none ∧ obs.updatedReplicas ≠ none ∧
      obs.availableReplicas ≠ none ∧ obs.readyReplicas ≠ none := by
  rw [isRolloutConverged] at h
  split at h
  · simp [*]
  · cases h

section Reported

variable {c : DeploymentCounts} {deploy : KubeObject} (h : c.ReportedBy deploy)
  (cm : Option KubeObject)

include h

/-- **What the check says about a reported Deployment**: its rollout is complete, and no counter is
zero. -/
theorem isRolloutConverged_reported :
    isRolloutConverged (observedFrom cm (some deploy)) = true ↔
      c.Converged ∧ c.updated ≠ 0 ∧ c.available ≠ 0 ∧ c.ready ≠ 0 := by
  have hgeneration : (observedFrom cm (some deploy)).deployGeneration = some (c.generation : ℤ) :=
    h.generation
  have hobserved : (observedFrom cm (some deploy)).deployObservedGeneration =
      omitZero c.observedGeneration := h.observedGeneration
  have hdesired : (observedFrom cm (some deploy)).desiredReplicas = some (ofNat c.desired) := by
    show some (((numberAt deploy _).bind unsigned).getD 1) = _
    rw [h.desired, Option.bind_some, unsigned, if_pos (Int.natCast_nonneg _)]
    rfl
  have hreplicas : ∀ {name : String} {n : ℕ}, numberAt deploy (statusPath name) = omitZero n →
      (numberAt deploy (statusPath name)).bind unsigned =
        if n = 0 then none else some (ofNat n) := by
    intro name n hn
    rw [hn, omitZero_bind_unsigned]
  have hupdated : (observedFrom cm (some deploy)).updatedReplicas = _ := hreplicas h.updated
  have havailable : (observedFrom cm (some deploy)).availableReplicas = _ :=
    hreplicas h.available
  have hready : (observedFrom cm (some deploy)).readyReplicas = _ := hreplicas h.ready
  -- with all counters known the check is the definition
  have hknown : c.observedGeneration ≠ 0 → c.updated ≠ 0 → c.available ≠ 0 → c.ready ≠ 0 →
      (isRolloutConverged (observedFrom cm (some deploy)) = true ↔ c.Converged) := by
    intro hog hup hav hre
    rw [omitZero, if_neg hog] at hobserved
    rw [if_neg hup] at hupdated
    rw [if_neg hav] at havailable
    rw [if_neg hre] at hready
    have hzero : ofNat c.desired = 0 ↔ c.desired = 0 := by
      have hle := @ofNat_le_ofNat_iff c.desired 0 c.desired_lt (by decide)
      rw [Nat.le_zero] at hle
      rw [← hle]
      exact UInt32.le_zero_iff.symm
    rw [isRolloutConverged_of_known hgeneration hobserved hupdated havailable hdesired hready,
      ofNat_le_ofNat_iff c.desired_lt c.updated_lt, hzero, Int.ofNat_le]
    exact and_congr_right fun _ => and_congr_right fun _ => or_congr_right
      (and_congr (ofNat_le_ofNat_iff (by decide) c.available_lt)
        (ofNat_le_ofNat_iff (by decide) c.ready_lt))
  constructor
  · intro hconverged
    obtain ⟨hog, hup, hav, hre⟩ := isRolloutConverged_known hconverged
    have hog' : c.observedGeneration ≠ 0 := by
      intro hzero
      exact hog (by rw [hobserved, omitZero, if_pos hzero])
    have hup' : c.updated ≠ 0 := by
      intro hzero
      exact hup (by rw [hupdated, if_pos hzero])
    have hav' : c.available ≠ 0 := by
      intro hzero
      exact hav (by rw [havailable, if_pos hzero])
    have hre' : c.ready ≠ 0 := by
      intro hzero
      exact hre (by rw [hready, if_pos hzero])
    exact ⟨(hknown hog' hup' hav' hre').1 hconverged, hup', hav', hre'⟩
  · intro hall
    obtain ⟨hconverged, hup, hav, hre⟩ := hall
    have hpos := c.generation_pos
    have hog : c.observedGeneration ≠ 0 := by
      have hreached := hconverged.1
      omega
    exact (hknown hog hup hav hre).2 hconverged

/-- **When the check is right about a reported Deployment**: unless the Deployment is complete with
no replicas desired, and one of its counters is zero. -/
theorem rollout_exact_iff :
    (isRolloutConverged (observedFrom cm (some deploy)) = true ↔ c.Converged) ↔
      ¬(c.Converged ∧ c.desired = 0 ∧ (c.updated = 0 ∨ c.available = 0 ∨ c.ready = 0)) := by
  rw [isRolloutConverged_reported h cm]
  constructor
  · intro hexact hwrong
    obtain ⟨hconverged, -, hzero⟩ := hwrong
    obtain ⟨-, hup, hav, hre⟩ := hexact.2 hconverged
    omega
  · intro hright
    refine ⟨fun hall => hall.1, ?_⟩
    intro hconverged
    refine ⟨hconverged, ?_⟩
    obtain ⟨-, hupdated, hserving⟩ := id hconverged
    by_cases hdesired : c.desired = 0
    · have hzero : ¬(c.updated = 0 ∨ c.available = 0 ∨ c.ready = 0) :=
        fun hz => hright ⟨hconverged, hdesired, hz⟩
      omega
    · omega

end Reported

def threeReplicas : DeploymentCounts where
  generation := 2
  observedGeneration := 2
  desired := 3
  updated := 3
  available := 3
  ready := 3
  generation_pos := by decide
  desired_lt := by decide
  updated_lt := by decide
  available_lt := by decide
  ready_lt := by decide

theorem threeReplicas_exact :
    isRolloutConverged (observedFrom none (some scaledDeployment)) = true ↔
      threeReplicas.Converged := by
  have hreported : threeReplicas.ReportedBy scaledDeployment :=
    ⟨rfl, rfl, rfl, rfl, rfl, rfl⟩
  refine (rollout_exact_iff hreported none).2 ?_
  intro h
  exact absurd h.2.1 (by decide)

def scaledToZero : DeploymentCounts where
  generation := 3
  observedGeneration := 3
  desired := 0
  updated := 0
  available := 0
  ready := 0
  generation_pos := by decide
  desired_lt := by decide
  updated_lt := by decide
  available_lt := by decide
  ready_lt := by decide

def scaledToZeroDeployment : KubeObject := objectOf
  [([.field "metadata", .field "generation"], .number 3),
    ([.field "spec", .field "replicas"], .number 0),
    (statusPath "observedGeneration", .number 3)]

theorem scaledToZero_not_converged :
    scaledToZero.ReportedBy scaledToZeroDeployment ∧ scaledToZero.Converged ∧
      isRolloutConverged (observedFrom none (some scaledToZeroDeployment)) = false :=
  ⟨⟨rfl, rfl, rfl, rfl, rfl, rfl⟩, ⟨by decide, by decide, .inl rfl⟩, rfl⟩

end Wicket
