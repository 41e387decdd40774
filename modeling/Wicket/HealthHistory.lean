/-
**What the health of a backend remembers.**

The time is recorded only when a healthy backend becomes unhealthy, so the cooldown runs from the
first of a row of failures.  What is recorded is an invariant of the history of calls.
-/

import Wicket.NextServer

namespace Wicket

open List UInt64

/-! ### The recorded state -/

/-- The health of a backend, and the number of failures since the last success. -/
structure HealthRecord extends BackendHealth where
  consecutiveFailures : UInt64
  deriving DecidableEq

namespace HealthRecord

def new : HealthRecord := ⟨BackendHealth.new, 0⟩

def recordSuccess (_record : HealthRecord) : HealthRecord := ⟨⟨true, 0⟩, 0⟩

def recordFailure (record : HealthRecord) (now : UInt64) : HealthRecord where
  healthy := false
  -- only the failure that makes the backend unhealthy stores its time
  unhealthySince := if record.healthy then now else record.unhealthySince
  consecutiveFailures := record.consecutiveFailures + 1

end HealthRecord

/-! ### Histories -/

/-- A call on a backend, with the clock value it reads. -/
inductive HealthCall
  | recordSuccess
  | recordFailure (now : UInt64)
  | isEligible (now : UInt64)
  deriving DecidableEq

def HealthCall.clock : HealthCall → Option UInt64
  | .recordSuccess => none
  | .recordFailure now => some now
  | .isEligible now => some now

/-- The clock values of a history do not decrease. -/
def ClockRuns (calls : List HealthCall) : Prop :=
  (calls.filterMap HealthCall.clock).Pairwise (· ≤ ·)

namespace HealthRecord

variable (cooldown : UInt64)

def call (record : HealthRecord) : HealthCall → HealthRecord × Option Bool
  | .recordSuccess => (record.recordSuccess, none)
  | .recordFailure now => (record.recordFailure now, none)
  | .isEligible now => (record, some (record.isEligible cooldown now))

def after (record : HealthRecord) (calls : List HealthCall) : HealthRecord :=
  calls.foldl (fun record c => (record.call cooldown c).1) record

def replies (record : HealthRecord) : List HealthCall → List (Option Bool)
  | [] => []
  | c :: calls => (record.call cooldown c).2 :: replies (record.call cooldown c).1 calls

variable {cooldown}

theorem getElem?_replies (record : HealthRecord) (calls : List HealthCall) (i : ℕ) :
    (record.replies cooldown calls)[i]? =
      calls[i]?.map fun c => ((record.after cooldown (calls.take i)).call cooldown c).2 := by
  induction calls generalizing record i with
  | nil => rfl
  | cons c calls ih =>
    cases i with
    | zero => rfl
    | succ i =>
      rw [replies, getElem?_cons_succ, getElem?_cons_succ, ih]
      rfl

end HealthRecord

/-- The times of the failures since the last success, after one more call. -/
def failuresAfter (failures : List UInt64) : HealthCall → List UInt64
  | .recordSuccess => []
  | .recordFailure now => failures ++ [now]
  | .isEligible _ => failures

/-- The times of the failures since the last success, in order: there are none when the last
outcome is a success. -/
def failuresSince (calls : List HealthCall) : List UInt64 := calls.foldl failuresAfter []

/-! ### What the record says about the history -/

namespace HealthRecord

/-- The record keeps of the failures whether there are any, the time of the first, and how many. -/
structure Tracks (record : HealthRecord) (failures : List UInt64) : Prop where
  healthy : record.healthy = failures.isEmpty
  since : record.unhealthySince = failures.head?.getD 0
  count : record.consecutiveFailures = UInt64.ofNat failures.length

theorem tracks_new : Tracks new [] := ⟨rfl, rfl, rfl⟩

variable {record : HealthRecord} {failures : List UInt64}

theorem Tracks.call {cooldown : UInt64} (h : record.Tracks failures) (c : HealthCall) :
    (record.call cooldown c).1.Tracks (failuresAfter failures c) := by
  cases c with
  | recordSuccess => exact tracks_new
  | isEligible now => exact h
  | recordFailure now =>
    refine ⟨?_, ?_, ?_⟩
    · show false = (failures ++ [now]).isEmpty
      simp
    · show (if record.healthy then now else record.unhealthySince) = _
      rw [h.healthy, h.since]
      cases failures with
      | nil => rfl
      | cons first failures => rfl
    · show record.consecutiveFailures + 1 = ofNat (failures ++ [now]).length
      rw [h.count, length_append, length_singleton, ofNat_add]
      rfl

theorem Tracks.after {cooldown : UInt64} (h : record.Tracks failures) (calls : List HealthCall) :
    (record.after cooldown calls).Tracks (calls.foldl failuresAfter failures) := by
  induction calls generalizing record failures with
  | nil => exact h
  | cons c calls ih => exact ih (h.call c)

theorem tracks_after (cooldown : UInt64) (calls : List HealthCall) :
    (new.after cooldown calls).Tracks (failuresSince calls) := tracks_new.after calls

/-- **A backend is not eligible** while the first failure since the last success is less than the
cooldown ago. -/
theorem Tracks.isEligible_eq_false (h : record.Tracks failures) (cooldown now : UInt64) :
    record.isEligible cooldown now = false ↔
      ∃ first, failures.head? = some first ∧ first ≠ 0 ∧
        now.toNat - first.toNat < cooldownMillis cooldown := by
  cases failures with
  | nil =>
    have hhealthy : record.healthy = true := h.healthy
    simp [BackendHealth.isEligible, hhealthy]
  | cons first failures =>
    have hhealthy : record.healthy = false := h.healthy
    have hsince : record.unhealthySince = first := h.since
    rw [BackendHealth.isEligible, hhealthy, hsince]
    simp

end HealthRecord

/-! ### The times of the failures -/

theorem failuresAfter_sublist {failures clocks : List UInt64} (h : failures.Sublist clocks)
    (c : HealthCall) : (failuresAfter failures c).Sublist (clocks ++ c.clock.toList) := by
  cases c with
  | recordSuccess => exact nil_sublist _
  | recordFailure now => exact h.append (List.Sublist.refl [now])
  | isEligible now => exact h.trans (sublist_append_left _ _)

theorem failuresSince_sublist (calls : List HealthCall) :
    (failuresSince calls).Sublist (calls.filterMap HealthCall.clock) := by
  induction calls using reverseRecOn with
  | nil => exact List.Sublist.refl []
  | append_singleton calls c ih =>
    have hstep := failuresAfter_sublist ih c
    rw [failuresSince, foldl_append, foldl_cons, foldl_nil, filterMap_append]
    cases c with
    | recordSuccess => exact nil_sublist _
    | recordFailure now => exact hstep
    | isEligible now => exact hstep

theorem ClockRuns.first_le_last {calls : List HealthCall} (h : ClockRuns calls) {i : ℕ}
    {first last : UInt64} (hfirst : (failuresSince (calls.take i)).head? = some first)
    (hlast : (failuresSince (calls.take i)).getLast? = some last) : first ≤ last := by
  have hsub := (failuresSince_sublist (calls.take i)).trans
    ((take_sublist i calls).filterMap HealthCall.clock)
  have hsorted := h.sublist hsub
  cases hrow : failuresSince (calls.take i) with
  | nil =>
    rw [hrow] at hfirst
    cases hfirst
  | cons a row =>
    rw [hrow] at hfirst hlast hsorted
    obtain rfl := Option.some.inj hfirst
    rcases mem_cons.1 (mem_of_getLast? hlast) with hsame | hmem
    · rw [hsame]
      exact UInt64.le_refl _
    · exact rel_of_pairwise_cons hsorted hmem

/-! ### The cooldown -/

def CoolingDown (cooldown : UInt64) (calls : List HealthCall) (now : UInt64) : Prop :=
  ∃ last, (failuresSince calls).getLast? = some last ∧
    now.toNat - last.toNat < cooldown.toNat * 1000

/-- Every reply of `is_eligible` in the history is negative exactly while the backend is cooling
down. -/
def CoolsDown (cooldown : UInt64) (calls : List HealthCall) : Prop :=
  ∀ i now, calls[i]? = some (.isEligible now) →
    ((HealthRecord.new.replies cooldown calls)[i]? = some (some false) ↔
      CoolingDown cooldown (calls.take i) now)

theorem coolingDown_of_reply {cooldown : UInt64} {calls : List HealthCall} (h : ClockRuns calls)
    {i : ℕ} {first now : UInt64} (hfirst : (failuresSince (calls.take i)).head? = some first)
    (hsoon : now.toNat - first.toNat < cooldownMillis cooldown) :
    CoolingDown cooldown (calls.take i) now := by
  have hrow : failuresSince (calls.take i) ≠ [] := by
    intro hnil
    rw [hnil] at hfirst
    cases hfirst
  have hlast := getLast?_eq_some_getLast hrow
  have hle := le_iff_toNat_le.1 (h.first_le_last hfirst hlast)
  have hmillis : cooldownMillis cooldown ≤ cooldown.toNat * 1000 := Nat.mod_le _ _
  exact ⟨_, hlast, by omega⟩

/-- **The replies are about the last failure** exactly when, whenever that one is less than the
cooldown ago, so is the first failure since the last success, and its time is not zero. -/
theorem coolsDown_iff {cooldown : UInt64} {calls : List HealthCall} (hclock : ClockRuns calls) :
    CoolsDown cooldown calls ↔
      ∀ i now first, calls[i]? = some (.isEligible now) →
        (failuresSince (calls.take i)).head? = some first →
        CoolingDown cooldown (calls.take i) now →
          first ≠ 0 ∧ now.toNat - first.toNat < cooldownMillis cooldown := by
  have hreply : ∀ i now, calls[i]? = some (.isEligible now) →
      ((HealthRecord.new.replies cooldown calls)[i]? = some (some false) ↔
        ∃ first, (failuresSince (calls.take i)).head? = some first ∧ first ≠ 0 ∧
          now.toNat - first.toNat < cooldownMillis cooldown) := by
    intro i now hcall
    have htracks := HealthRecord.tracks_after cooldown (calls.take i)
    rw [← htracks.isEligible_eq_false cooldown now, HealthRecord.getElem?_replies, hcall,
      Option.map_some, Option.some.injEq, HealthRecord.call, Option.some.injEq]
  constructor
  · intro h i now first hcall hfirst hcooling
    obtain ⟨first', hfirst', hsoon⟩ := (hreply i now hcall).1 ((h i now hcall).2 hcooling)
    rw [hfirst] at hfirst'
    rwa [Option.some.inj hfirst']
  · intro h i now hcall
    rw [hreply i now hcall]
    constructor
    · intro hfalse
      obtain ⟨first, hfirst, -, hsoon⟩ := hfalse
      exact coolingDown_of_reply hclock hfirst hsoon
    · intro hcooling
      have hlast := hcooling.choose_spec.1
      have hrow := List.ne_nil_of_mem (List.mem_of_getLast? hlast)
      have hfirst := List.head?_eq_some_head hrow
      exact ⟨_, hfirst, h i now _ hcall hfirst hcooling⟩

def oneFailure : List HealthCall := [.recordFailure 1000, .isEligible 2000, .isEligible 31000]

theorem oneFailure_coolsDown : ClockRuns oneFailure ∧ CoolsDown 30 oneFailure := by
  have hclock : ClockRuns oneFailure := by unfold ClockRuns; decide
  refine ⟨hclock, (coolsDown_iff hclock).2 ?_⟩
  intro i now first hcall hfirst hcooling
  obtain ⟨last, hlast, hsoon⟩ := hcooling
  match i with
  | 1 | 2 =>
    cases hfirst
    cases hlast
    exact ⟨by decide, hsoon⟩
  | 0 | _ + 3 => cases hcall

def failedRetry : List HealthCall :=
  [.recordFailure 1000, .isEligible 2000, .isEligible 31000, .recordFailure 31500,
    .isEligible 31501]

/-- **A backend whose retry fails is not cooled down again**: it is eligible a millisecond later. -/
theorem failedRetry_not_coolsDown :
    ClockRuns failedRetry ∧
      HealthRecord.new.replies 30 failedRetry = [none, some false, some true, none, some true] ∧
      CoolingDown 30 (failedRetry.take 4) 31501 ∧ ¬CoolsDown 30 failedRetry := by
  have hreplies : HealthRecord.new.replies 30 failedRetry =
      [none, some false, some true, none, some true] := by decide
  have hcooling : CoolingDown 30 (failedRetry.take 4) 31501 := ⟨31500, rfl, by decide⟩
  refine ⟨by unfold ClockRuns; decide, hreplies, hcooling, ?_⟩
  intro h
  have hreply := (h 4 31501 rfl).2 hcooling
  rw [hreplies] at hreply
  cases hreply

end Wicket
