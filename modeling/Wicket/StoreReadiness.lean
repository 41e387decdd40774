/-
**When the store is ready.**

The phase is one of the fields a replacement of all contents puts in place, so a replacement may
take readiness back, or bring readiness nobody has earned.
-/

import Wicket.SharedStore

namespace Wicket

open List StoreOp SharedStore

/-! ### The phase -/

def StoreOp.phaseStep (phase : StorePhase) : StoreOp → StorePhase
  | .write (.markListed rc) =>
    match phase with
    | .Warming listed =>
      if ResourceClass.all.all fun c => c ∈ insert rc listed then .Ready
      else .Warming (insert rc listed)
    | .Ready => .Ready
  | .write .markReady => .Ready
  | .write _ => phase
  | .replaceAll new => new.phase

theorem phase_run (s : SharedStore) (op : StoreOp) :
    (op.run s).inner.phase = op.phaseStep s.inner.phase := by
  cases op with
  | replaceAll new => rfl
  | write w =>
    cases w with
    | markListed rc =>
      simp only [run, StoreWrite.apply, markListed, phaseStep]
      cases hphase : s.inner.phase with
      | Ready => exact hphase
      | Warming listed => rfl
    | _ => rfl

theorem phase_foldl_run (ops : List StoreOp) (s : SharedStore) :
    (ops.foldl run s).inner.phase = ops.foldl phaseStep s.inner.phase := by
  induction ops generalizing s with
  | nil => rfl
  | cons op ops ih => rw [foldl_cons, foldl_cons, ih, phase_run]

def SharedStore.IsReady (s : SharedStore) : Prop := ∃ snapshot, s.plannerSnapshot = .Ready snapshot

theorem SharedStore.isReady_iff {s : SharedStore} : s.IsReady ↔ s.inner.phase = .Ready := by
  rw [SharedStore.IsReady, plannerSnapshot, StoreInner.isComplete]
  cases s.inner.phase <;> simp

theorem SharedStore.IsReady.of_phase {s s' : SharedStore} (h : s.IsReady)
    (hphase : s'.inner.phase = s.inner.phase) : s'.IsReady :=
  isReady_iff.2 (hphase.trans (isReady_iff.1 h))

/-! ### The calls that make a phase ready -/

def Lists (ops : List StoreOp) (rc : ResourceClass) : Prop := .write (.markListed rc) ∈ ops

def Readies (ops : List StoreOp) : Prop := .write .markReady ∈ ops

def Marked (ops : List StoreOp) : Prop := Readies ops ∨ ∀ rc, Lists ops rc

def StoreOp.IsWrite : StoreOp → Prop
  | .write _ => True
  | .replaceAll _ => False

def StorePhase.HasListed : StorePhase → ResourceClass → Prop
  | .Warming listed, rc => rc ∈ listed
  | .Ready, _ => True

/-- The writes make the phase ready: it is, they say so, or they mark a class as listed and leave
none out that the phase does not have. -/
def ReadyFrom (phase : StorePhase) (ops : List StoreOp) : Prop :=
  phase = .Ready ∨ Readies ops ∨ (∃ rc, Lists ops rc) ∧ ∀ rc, phase.HasListed rc ∨ Lists ops rc

theorem mem_resourceClass_all (rc : ResourceClass) : rc ∈ ResourceClass.all := by
  cases rc <;> decide

theorem all_listed_iff {listed : Finset ResourceClass} :
    (ResourceClass.all.all fun c => c ∈ listed) = true ↔ ∀ rc, rc ∈ listed := by
  simp only [all_eq_true, decide_eq_true_eq]
  exact ⟨fun h rc => h rc (mem_resourceClass_all rc), fun h rc _ => h rc⟩

variable {op : StoreOp} {ops : List StoreOp}

@[simp] theorem lists_cons {rc : ResourceClass} :
    Lists (op :: ops) rc ↔ op = .write (.markListed rc) ∨ Lists ops rc := by
  rw [Lists, mem_cons, eq_comm, Lists]

@[simp] theorem readies_cons : Readies (op :: ops) ↔ op = .write .markReady ∨ Readies ops := by
  rw [Readies, mem_cons, eq_comm, Readies]

section Mark

variable {listed : Finset ResourceClass} {rc : ResourceClass} {ops : List StoreOp}

theorem readyFrom_markListed_last (hall : ∀ c, c ∈ insert rc listed) :
    ReadyFrom (.Warming listed) (.write (.markListed rc) :: ops) := by
  refine .inr (.inr ⟨⟨rc, by simp⟩, fun c => ?_⟩)
  rcases Finset.mem_insert.1 (hall c) with rfl | hc
  · exact .inr (by simp)
  · exact .inl hc

theorem readyFrom_markListed (hnot : ¬∀ c, c ∈ insert rc listed) :
    ReadyFrom (.Warming listed) (.write (.markListed rc) :: ops) ↔
      ReadyFrom (.Warming (insert rc listed)) ops := by
  simp only [ReadyFrom, reduceCtorEq, false_or, readies_cons, lists_cons, write.injEq,
    StoreWrite.markListed.injEq, StorePhase.HasListed, Finset.mem_insert]
  refine or_congr_right ⟨?_, ?_⟩
  · rintro ⟨-, hcover⟩
    have hcover' : ∀ c, (c = rc ∨ c ∈ listed) ∨ Lists ops c := by
      intro c
      rcases hcover c with hc | rfl | hc
      · exact .inl (.inr hc)
      · exact .inl (.inl rfl)
      · exact .inr hc
    refine ⟨?_, hcover'⟩
    by_contra hnone
    push Not at hnone
    refine hnot fun c => ?_
    rcases hcover' c with hc | hc
    · exact Finset.mem_insert.2 hc
    · exact absurd hc (hnone c)
  · rintro ⟨-, hcover⟩
    refine ⟨⟨rc, .inl rfl⟩, fun c => ?_⟩
    rcases hcover c with (rfl | hc) | hc
    · exact .inr (.inl rfl)
    · exact .inl hc
    · exact .inr (.inr hc)

end Mark

theorem readyFrom_cons {phase : StorePhase} (hop : op.IsWrite) :
    ReadyFrom phase (op :: ops) ↔ ReadyFrom (op.phaseStep phase) ops := by
  cases op with
  | replaceAll new => exact absurd hop id
  | write w =>
    cases w with
    | markReady => simp [ReadyFrom, phaseStep]
    | markListed rc =>
      cases phase with
      | Ready => simp [ReadyFrom, phaseStep]
      | Warming listed =>
        simp only [phaseStep]
        split
        · rename_i hall
          exact iff_of_true (readyFrom_markListed_last (all_listed_iff.1 hall)) (.inl rfl)
        · rename_i hnot
          exact readyFrom_markListed fun hall => hnot (all_listed_iff.2 hall)
    | _ => simp [ReadyFrom, phaseStep]

theorem foldl_phaseStep_ready (hops : ∀ op ∈ ops, op.IsWrite) (phase : StorePhase) :
    ops.foldl phaseStep phase = .Ready ↔ ReadyFrom phase ops := by
  induction ops generalizing phase with
  | nil => simp [ReadyFrom, Readies, Lists]
  | cons op ops ih =>
    obtain ⟨hop, hrest⟩ := forall_mem_cons.1 hops
    rw [foldl_cons, ih hrest, readyFrom_cons hop]

/-! ### Runs with replacements -/

def sinceReplace (ops : List StoreOp) : StorePhase × List StoreOp :=
  ops.foldl (fun acc op =>
    match op with
    | .write w => (acc.1, acc.2 ++ [.write w])
    | .replaceAll new => (new.phase, [])) (.Warming ∅, [])

/-- The writes since the last replacement have made its phase ready. -/
def ReadyAfter (ops : List StoreOp) : Prop := ReadyFrom (sinceReplace ops).1 (sinceReplace ops).2

theorem sinceReplace_concat_write (ops : List StoreOp) (w : StoreWrite) :
    sinceReplace (ops ++ [.write w]) =
      ((sinceReplace ops).1, (sinceReplace ops).2 ++ [.write w]) := by
  rw [sinceReplace, foldl_append]
  rfl

theorem sinceReplace_concat_replace (ops : List StoreOp) (new : StoreInner) :
    sinceReplace (ops ++ [.replaceAll new]) = (new.phase, []) := by
  rw [sinceReplace, foldl_append]
  rfl

theorem sinceReplace_cases (ops : List StoreOp) :
    (∀ op ∈ (sinceReplace ops).2, op.IsWrite) ∧
      ((sinceReplace ops = (.Warming ∅, ops)) ∨
        ∃ pre new, ops = pre ++ .replaceAll new :: (sinceReplace ops).2 ∧
          (sinceReplace ops).1 = new.phase) := by
  induction ops using reverseRecOn with
  | nil => exact ⟨by simp [sinceReplace], Or.inl rfl⟩
  | append_singleton ops op ih =>
    obtain ⟨hwrites, hsplit⟩ := ih
    cases op with
    | write w =>
      rw [sinceReplace_concat_write]
      refine ⟨?_, ?_⟩
      · intro op hop
        rcases mem_append.1 hop with hop | hop
        · exact hwrites op hop
        · obtain rfl := mem_singleton.1 hop
          trivial
      · rcases hsplit with hnone | ⟨pre, new, hops, hphase⟩
        · left
          rw [hnone]
        · refine Or.inr ⟨pre, new, ?_, hphase⟩
          nth_rewrite 1 [hops]
          simp
    | replaceAll new =>
      rw [sinceReplace_concat_replace]
      exact ⟨by simp, Or.inr ⟨ops, new, rfl, rfl⟩⟩

theorem isReady_iff_readyAfter (ops : List StoreOp) :
    (ops.foldl run {}).IsReady ↔ ReadyAfter ops := by
  obtain ⟨hwrites, hsplit⟩ := sinceReplace_cases ops
  have hphase : ops.foldl phaseStep (.Warming ∅) =
      (sinceReplace ops).2.foldl phaseStep (sinceReplace ops).1 := by
    rcases hsplit with hnone | ⟨pre, new, hops, hnew⟩
    · rw [hnone]
    · nth_rewrite 1 [hops]
      rw [foldl_append, foldl_cons, hnew]
      rfl
  rw [isReady_iff, phase_foldl_run]
  rw [hphase, foldl_phaseStep_ready hwrites]
  rfl

/-! ### Sound readiness -/

/-- The store is ready only after the calls that make for it, and once ready stays ready. -/
structure ReadinessSound (ops : List StoreOp) : Prop where
  marked : ∀ pre, pre <+: ops → (pre.foldl StoreOp.run {}).IsReady → Marked pre
  permanent : ∀ pre pre', pre <+: pre' → pre' <+: ops →
    (pre.foldl StoreOp.run {}).IsReady → (pre'.foldl StoreOp.run {}).IsReady

/-- The phases that replacements put in place become ready only after the calls that make for it,
and those that take the place of a ready one are ready. -/
structure ReplacesSoundly (ops : List StoreOp) : Prop where
  earned : ∀ pre new mid rest, ops = pre ++ .replaceAll new :: (mid ++ rest) →
    (∀ op ∈ mid, op.IsWrite) → ReadyFrom new.phase mid → Marked (pre ++ mid)
  keeps : ∀ pre new rest, ops = pre ++ .replaceAll new :: rest → ReadyAfter pre → new.phase = .Ready

theorem marked_replace_iff {pre mid : List StoreOp} {new : StoreInner} :
    Marked (pre ++ .replaceAll new :: mid) ↔ Marked (pre ++ mid) := by
  simp [Marked, Readies, Lists]

theorem ReadyFrom.marked (h : ReadyFrom (.Warming ∅) ops) : Marked ops := by
  rcases h with h | h | ⟨-, hall⟩
  · cases h
  · exact Or.inl h
  · right
    intro rc
    rcases hall rc with hrc | hrc
    · simp [StorePhase.HasListed] at hrc
    · exact hrc

theorem ReadyFrom.append {phase : StorePhase} (h : ReadyFrom phase ops) (op : StoreOp) :
    ReadyFrom phase (ops ++ [op]) := by
  rcases h with h | h | ⟨⟨rc, hrc⟩, hall⟩
  · exact Or.inl h
  · exact Or.inr (Or.inl (mem_append_left _ h))
  · refine Or.inr (Or.inr ⟨⟨rc, mem_append_left _ hrc⟩, fun c => ?_⟩)
    exact (hall c).imp id fun hc => mem_append_left _ hc

/-- **Readiness is sound in a run exactly when its replacements are**: none becomes ready unless all
classes are marked, and none takes readiness back. -/
theorem readinessSound_iff (ops : List StoreOp) : ReadinessSound ops ↔ ReplacesSoundly ops := by
  constructor
  · rintro ⟨hmarked, hpermanent⟩
    refine ⟨?_, ?_⟩
    · rintro pre new mid rest rfl hmid hready
      have hpre : pre ++ .replaceAll new :: mid <+: pre ++ .replaceAll new :: (mid ++ rest) :=
        ⟨rest, by simp⟩
      refine marked_replace_iff.1 (hmarked _ hpre ?_)
      -- the phase of the replacement is what the run starts from afresh
      rw [SharedStore.isReady_iff, phase_foldl_run, List.foldl_append, List.foldl_cons]
      exact (foldl_phaseStep_ready hmid new.phase).2 hready
    · rintro pre new rest rfl hready
      have hlast := hpermanent pre (pre ++ [.replaceAll new]) ⟨_, rfl⟩ ⟨rest, by simp⟩
        ((isReady_iff_readyAfter pre).2 hready)
      rwa [SharedStore.isReady_iff, phase_foldl_run, List.foldl_append] at hlast
  · rintro ⟨hearned, hkeeps⟩
    refine ⟨?_, ?_⟩
    · rintro pre ⟨rest, rfl⟩ hready
      obtain ⟨hwrites, hsplit⟩ := sinceReplace_cases pre
      have hafter := (isReady_iff_readyAfter pre).1 hready
      rcases hsplit with hnone | ⟨front, new, hpre, hphase⟩
      · rw [ReadyAfter, hnone] at hafter
        exact hafter.marked
      · rw [ReadyAfter, hphase] at hafter
        have hsound := hearned front new (sinceReplace pre).2 rest
          (by nth_rewrite 1 [hpre]; simp) hwrites hafter
        rw [hpre]
        exact marked_replace_iff.2 hsound
    · -- step by step, from the shorter run to the longer one
      rintro pre pre' ⟨later, rfl⟩ hstart hready
      induction later using List.reverseRecOn with
      | nil => simpa using hready
      | append_singleton later op ih =>
        rw [← List.append_assoc] at hstart ⊢
        have hbefore := ih ((List.prefix_append _ _).trans hstart)
        rw [isReady_iff_readyAfter] at hbefore ⊢
        cases op with
        | write w =>
          rw [ReadyAfter, sinceReplace_concat_write]
          exact hbefore.append _
        | replaceAll new =>
          obtain ⟨rest, hrest⟩ := hstart
          rw [ReadyAfter, sinceReplace_concat_replace]
          exact Or.inl (hkeeps _ new rest (by rw [← hrest]; simp) hbefore)

theorem replacesSoundly_of_writes (h : ∀ op ∈ ops, op.IsWrite) : ReplacesSoundly ops := by
  refine ⟨?_, ?_⟩
  · rintro pre new mid rest rfl
    exact absurd (h (.replaceAll new) (by simp)) id
  · rintro pre new rest rfl
    exact absurd (h (.replaceAll new) (by simp)) id

theorem marked_writes_sound :
    ReadinessSound [.write (.markListed .Gateways), .write .markReady,
      .write (.removeGateway "shop/front")] := by
  refine (readinessSound_iff _).2 (replacesSoundly_of_writes fun op hop => ?_)
  simp only [List.mem_cons, List.not_mem_nil, or_false] at hop
  rcases hop with rfl | rfl | rfl <;> trivial

/-- A replacement with the default contents after `mark_ready`: the store is not ready any more.
And one with contents that say they are ready, in a new store: it is ready without any mark. -/
theorem replaced_not_sound :
    ¬ReadinessSound [.write .markReady, .replaceAll {}] ∧
      ¬ReadinessSound [.replaceAll { phase := .Ready }] := by
  constructor
  · rintro ⟨-, hpermanent⟩
    have hready := hpermanent [.write .markReady] [.write .markReady, .replaceAll {}]
      ⟨_, rfl⟩ ⟨[], rfl⟩ (SharedStore.isReady_iff.2 rfl)
    cases SharedStore.isReady_iff.1 hready
  · rintro ⟨hmarked, -⟩
    rcases hmarked [.replaceAll { phase := .Ready }] ⟨[], rfl⟩ (SharedStore.isReady_iff.2 rfl) with
      hready | hlists
    · simp [Readies] at hready
    · simpa [Lists] using hlists .Gateways

end Wicket
