/-
**What an upstream learns from its connections.**

A report changes the first health record with the address, while a backend is chosen by position.
-/

import Wicket.HealthHistory
import Wicket.IpText
import Wicket.RoundRobin

namespace Wicket

open Option List

open Checked (UsizeWidth Run)
open Net (IpFormat)
open Check (updateFirst getElem?_updateFirst map_updateFirst)

/-! ### Records with labels -/

def StreamBackendAddr.text (fmt : IpFormat) : StreamBackendAddr → String
  | .Tcp addr => addr.text fmt
  | .Unix path => "unix:" ++ path

structure LabelledHealth extends HealthRecord where
  label : String
  deriving DecidableEq

structure UpstreamHealth (fmt : IpFormat) (up : Upstream) where
  slots : List LabelledHealth
  labels : slots.map LabelledHealth.label = up.servers.map (StreamBackendAddr.text fmt)

namespace UpstreamHealth

variable {fmt : IpFormat} {up : Upstream}

def new (fmt : IpFormat) (up : Upstream) : UpstreamHealth fmt up where
  slots := up.servers.map fun server => ⟨HealthRecord.new, server.text fmt⟩
  labels := by rw [List.map_map]; rfl

def report (h : UpstreamHealth fmt up) (endpoint : StreamBackendAddr)
    (record : HealthRecord → HealthRecord) : UpstreamHealth fmt up where
  slots := updateFirst (fun slot => slot.label == endpoint.text fmt)
    (fun slot => ⟨record slot.toHealthRecord, slot.label⟩) h.slots
  labels := by
    rw [← h.labels]
    apply map_updateFirst
    intro slot
    rfl

def reportSuccess (h : UpstreamHealth fmt up) (endpoint : StreamBackendAddr) :
    UpstreamHealth fmt up :=
  h.report endpoint HealthRecord.recordSuccess

def reportFailure (h : UpstreamHealth fmt up) (endpoint : StreamBackendAddr) (now : UInt64) :
    UpstreamHealth fmt up :=
  h.report endpoint fun record => record.recordFailure now

def state (h : UpstreamHealth fmt up) (counter : ℕ) : UpstreamState up where
  health := h.slots.map fun slot => slot.toBackendHealth
  counter := counter
  health_length := by
    have hlength := congrArg List.length h.labels
    rw [List.length_map, List.length_map] at hlength
    rw [List.length_map, hlength]

end UpstreamHealth

/-! ### Reports -/

inductive Report
  | success (endpoint : StreamBackendAddr)
  | failure (endpoint : StreamBackendAddr) (now : UInt64)
  deriving DecidableEq

def Report.endpoint : Report → StreamBackendAddr
  | .success endpoint => endpoint
  | .failure endpoint _ => endpoint

def Report.call : Report → HealthCall
  | .success _ => .recordSuccess
  | .failure _ now => .recordFailure now

def callsOn (p : StreamBackendAddr → Bool) (reports : List Report) : List HealthCall :=
  (reports.filter fun r => p r.endpoint).map Report.call

theorem callsOn_append_singleton (p : StreamBackendAddr → Bool) (rs : List Report) (r : Report) :
    callsOn p (rs ++ [r]) = callsOn p rs ++ if p r.endpoint then [r.call] else [] := by
  rw [callsOn, callsOn, filter_append, map_append, filter_singleton]
  cases p r.endpoint <;> rfl

/-- The record that reports on an address change: the first one with its label. -/
def Upstream.firstSlot (fmt : IpFormat) (up : Upstream) (endpoint : StreamBackendAddr) : Option ℕ :=
  up.servers.findIdx? fun server => server.text fmt == endpoint.text fmt

namespace UpstreamHealth

variable {fmt : IpFormat} {up : Upstream}

def apply (h : UpstreamHealth fmt up) : Report → UpstreamHealth fmt up
  | .success endpoint => h.reportSuccess endpoint
  | .failure endpoint now => h.reportFailure endpoint now

def reports (h : UpstreamHealth fmt up) (rs : List Report) : UpstreamHealth fmt up :=
  rs.foldl apply h

theorem apply_eq_report (h : UpstreamHealth fmt up) (r : Report) :
    h.apply r = h.report r.endpoint fun record => (record.call up.cooldown r.call).1 := by
  cases r with
  | success endpoint => rfl
  | failure endpoint now => rfl

theorem findIdx?_slots (h : UpstreamHealth fmt up) (endpoint : StreamBackendAddr) :
    (h.slots.findIdx? fun slot => slot.label == endpoint.text fmt) = up.firstSlot fmt endpoint := by
  have hlabels := congrArg (findIdx? fun label => label == endpoint.text fmt) h.labels
  rw [findIdx?_map, findIdx?_map] at hlabels
  exact hlabels

theorem slot_apply (h : UpstreamHealth fmt up) (r : Report) (i : ℕ) :
    (h.apply r).slots[i]? =
      if up.firstSlot fmt r.endpoint = some i then
        h.slots[i]?.map fun slot =>
          ⟨(slot.toHealthRecord.call up.cooldown r.call).1, slot.label⟩
      else h.slots[i]? := by
  rw [apply_eq_report, report, getElem?_updateFirst, findIdx?_slots]

end UpstreamHealth

theorem Upstream.firstSlot_congr {fmt : IpFormat} (up : Upstream) {a b : StreamBackendAddr}
    (h : a.text fmt = b.text fmt) : up.firstSlot fmt a = up.firstSlot fmt b := by
  rw [firstSlot, firstSlot, h]

theorem Upstream.firstSlot_eq_some {fmt : IpFormat} {up : Upstream} {endpoint : StreamBackendAddr}
    {i : ℕ} {server : StreamBackendAddr} (hserver : up.servers[i]? = some server)
    (h : up.firstSlot fmt endpoint = some i) : server.text fmt = endpoint.text fmt := by
  obtain ⟨hlt, heq, -⟩ := findIdx?_eq_some_iff_getElem.1 h
  rw [getElem?_eq_getElem hlt, some.injEq] at hserver
  rw [← hserver]
  exact eq_of_beq heq

namespace UpstreamHealth

variable {fmt : IpFormat} {up : Upstream}

/-- The record of a backend after reports: the first one with its label has seen all reports on this
label, any other none. -/
def recordAfter (fmt : IpFormat) (up : Upstream) (rs : List Report) (i : ℕ)
    (server : StreamBackendAddr) : HealthRecord :=
  if up.firstSlot fmt server = some i then
    HealthRecord.new.after up.cooldown (callsOn (fun s => s.text fmt == server.text fmt) rs)
  else HealthRecord.new

theorem slot_reports (rs : List Report) (i : ℕ) :
    ((new fmt up).reports rs).slots[i]? =
      up.servers[i]?.map fun server => ⟨recordAfter fmt up rs i server, server.text fmt⟩ := by
  -- the last report is the one that is applied last
  induction rs using reverseRecOn with
  | nil =>
    rw [reports, foldl_nil, new, getElem?_map]
    cases up.servers[i]? with
    | none => rfl
    | some server =>
      rw [map_some, map_some, recordAfter]
      split <;> rfl
  | append_singleton rs r ih =>
    have hfold : (new fmt up).reports (rs ++ [r]) = ((new fmt up).reports rs).apply r := by
      rw [reports, reports, foldl_append]
      rfl
    rw [hfold, slot_apply, ih]
    cases hserver : up.servers[i]? with
    | none => simp
    | some server =>
      rw [map_some, map_some, map_some]
      by_cases hhit : up.firstSlot fmt r.endpoint = some i
      · have htext := Upstream.firstSlot_eq_some hserver hhit
        have hfirst : up.firstSlot fmt server = some i :=
          (up.firstSlot_congr htext).trans hhit
        rw [if_pos hhit, recordAfter, if_pos hfirst, recordAfter, if_pos hfirst,
          callsOn_append_singleton, if_pos (beq_iff_eq.2 htext.symm), HealthRecord.after,
          HealthRecord.after, foldl_append]
        rfl
      · rw [if_neg hhit]
        by_cases hfirst : up.firstSlot fmt server = some i
        · have hother : (r.endpoint.text fmt == server.text fmt) = false := by
            rw [beq_eq_false_iff_ne]
            intro htext
            exact hhit ((up.firstSlot_congr htext).trans hfirst)
          rw [recordAfter, if_pos hfirst, recordAfter, if_pos hfirst,
            callsOn_append_singleton, hother, if_neg Bool.false_ne_true, append_nil]
        · rw [recordAfter, if_neg hfirst, recordAfter, if_neg hfirst]

def eligibleSlot (h : UpstreamHealth fmt up) (now : UInt64) (i : ℕ) : Bool :=
  h.slots[i]?.any fun slot => slot.toBackendHealth.isEligible up.cooldown now

theorem eligibleSlot_eq_false (rs : List Report) {now : UInt64} {i : ℕ}
    {server : StreamBackendAddr} (hserver : up.servers[i]? = some server) :
    ((new fmt up).reports rs).eligibleSlot now i = false ↔
      up.firstSlot fmt server = some i ∧ ∃ first,
        (failuresSince (callsOn (fun s => s.text fmt == server.text fmt) rs)).head? = some first ∧
          first ≠ 0 ∧ now.toNat - first.toNat < cooldownMillis up.cooldown := by
  rw [eligibleSlot, slot_reports, hserver, map_some, any_some, recordAfter]
  by_cases hfirst : up.firstSlot fmt server = some i
  · rw [if_pos hfirst, (HealthRecord.tracks_after _ _).isEligible_eq_false]
    exact (and_iff_right hfirst).symm
  · rw [if_neg hfirst]
    constructor
    · intro hnever
      cases hnever
    · intro h
      exact absurd h.1 hfirst

/-! ### Which backend is chosen -/

/-- Whatever the counter is, no server with the address is chosen at the given time. -/
def Avoids (w : UsizeWidth) (h : UpstreamHealth fmt up) (endpoint : StreamBackendAddr)
    (now : UInt64) : Prop :=
  ∀ counter, counter + up.servers.length ≤ w.limit → ∀ server after,
    (h.state counter).nextServer w (fun _ => now) = .value (server, after) →
      server.same endpoint = false

/-- The records as a connection finds them. -/
def serverCall (h : UpstreamHealth fmt up) (now : UInt64) : ServerCall up where
  health := (h.state 0).health
  now _ := now
  health_length := (h.state 0).health_length

theorem nextServer_state {w : UsizeWidth} (h : UpstreamHealth fmt up) {counter : ℕ} (now : UInt64)
    (hpos : 0 < up.servers.length) (hfit : counter + up.servers.length ≤ w.limit) :
    ∃ server, up.servers[Cyclic.pick (h.eligibleSlot now) up.servers.length counter]? =
        some server ∧
      (h.state counter).nextServer w (fun _ => now) =
        .value (server, (h.state counter).advance w) := by
  have hstays : StaysEligible (h.eligibleSlot now) [h.serverCall now] := by
    intro call hcall slot health hhealth i _
    obtain rfl := mem_singleton.1 hcall
    have hslot : h.slots[slot]?.map (fun slot => slot.toBackendHealth) = some health := by
      rw [← getElem?_map]
      exact hhealth
    obtain ⟨labelled, hlabelled, rfl⟩ := map_eq_some_iff.1 hslot
    rw [eligibleSlot, hlabelled]
    rfl
  have hpick : (h.state counter).slot (fun _ => now) = Cyclic.pick _ _ counter :=
    ServerCall.slot_eq_pick hstays counter
  have hplace := @UpstreamState.place_lt _ (h.state counter) hpos
    ((h.state counter).distance fun _ => now)
  have hnext := @UpstreamState.nextServer_eq _ _ (h.state counter) (fun _ => now) hpos hfit
  refine ⟨_, ?_, hnext⟩
  rw [← hpick]
  exact getElem?_eq_getElem hplace

/-- The reports on an address, however it is written. -/
def callsTo (endpoint : StreamBackendAddr) (rs : List Report) : List HealthCall :=
  callsOn (·.same endpoint) rs

/-- **An address that is cooling down is avoided** exactly when each of its places has the first
record with its label, and the first failure since the last success of this label is within the
cooldown. -/
theorem avoids_iff {w : UsizeWidth} (hlen : 2 * up.servers.length ≤ w.limit) (rs : List Report)
    {endpoint : StreamBackendAddr} {now : UInt64}
    (hother : ∃ i server, up.servers[i]? = some server ∧ server.same endpoint = false ∧
      ((new fmt up).reports rs).eligibleSlot now i = true) :
    (CoolingDown up.cooldown (callsTo endpoint rs) now →
        ((new fmt up).reports rs).Avoids w endpoint now) ↔
      (CoolingDown up.cooldown (callsTo endpoint rs) now →
        ∀ i server, up.servers[i]? = some server → server.same endpoint = true →
          up.firstSlot fmt server = some i ∧ ∃ first,
            (failuresSince (callsOn (fun s => s.text fmt == server.text fmt) rs)).head? =
                some first ∧
              first ≠ 0 ∧ now.toNat - first.toNat < cooldownMillis up.cooldown) := by
  refine forall_congr' ?_
  intro _
  obtain ⟨j, other, hj, -, hjeligible⟩ := hother
  have hjlt : j < up.servers.length := (List.getElem?_eq_some_iff.1 hj).1
  have hpos : 0 < up.servers.length := by omega
  constructor
  · intro havoids i server hi hsame
    have hilt : i < up.servers.length := (List.getElem?_eq_some_iff.1 hi).1
    rw [← eligibleSlot_eq_false rs hi, Bool.eq_false_iff]
    intro heligible
    -- from its own place on, an eligible address is chosen at once
    have hpick := Cyclic.pick_of_eligible hilt heligible
    obtain ⟨chosen, hchosen, hnext⟩ := nextServer_state ((new fmt up).reports rs) now hpos
      (show i + up.servers.length ≤ w.limit by omega)
    rw [hpick, hi, Option.some.injEq] at hchosen
    subst hchosen
    rw [havoids i (by omega) _ _ hnext] at hsame
    cases hsame
  · intro hcold counter hfit server after hchosen
    obtain ⟨chosen, hserver, hnext⟩ :=
      nextServer_state ((new fmt up).reports rs) now hpos hfit
    have heligible := Cyclic.eligible_pick hjlt hjeligible counter
    rw [hnext] at hchosen
    cases hchosen
    rw [Bool.eq_false_iff]
    intro hsame
    rw [(eligibleSlot_eq_false rs hserver).2 (hcold _ _ hserver hsame)] at heligible
    cases heligible

theorem secondFailed_avoided :
    ((new IpFormat.std threeBackends).reports [.failure (.Unix "/run/b") 1000]).Avoids .w64
      (.Unix "/run/b") 2000 := by
  refine (@avoids_iff .std threeBackends .w64 (by decide)
    [.failure (.Unix "/run/b") 1000] _ _ ⟨0, .Unix "/run/a", rfl, by decide, rfl⟩).2 ?_ ?_
  · intro _ i server hi hsame
    match i with
    | 0 | 2 =>
      cases hi
      exact absurd hsame (by decide)
    | _ + 3 => cases hi
    | 1 =>
      cases hi
      exact ⟨rfl, 1000, rfl, by decide, by decide⟩
  · exact ⟨1000, rfl, by decide⟩

def respelledBackend : Upstream where
  name := "db"
  servers := [.Unix "/run/a", .Unix "/run//a", .Unix "/run/b"]
  cooldown := 30

def repeatedBackend : Upstream where
  name := "db"
  servers := [.Unix "/run/a", .Unix "/run/a", .Unix "/run/b"]
  cooldown := 30

/-- **An address that is configured twice is chosen again right after its failure**, although the
other one is healthy: the failure is recorded at its first place only, and only under the text that
was reported. -/
theorem repeatedBackend_chosen :
    Upstream.fromConfig 30
        { name := "db", servers := ["unix:/run/a", "unix:/run/a", "unix:/run/b"] } =
      .ok ("db", repeatedBackend) ∧
    CoolingDown 30 (callsTo (.Unix "/run/a") [.failure (.Unix "/run/a") 1000]) 1001 ∧
    ((new IpFormat.std repeatedBackend).reports [.failure (.Unix "/run/a") 1000]).eligibleSlot
      1001 2 = true ∧
    (∃ after, (((new IpFormat.std repeatedBackend).reports
        [.failure (.Unix "/run/a") 1000]).state 0).nextServer .w64 (fun _ => 1001) =
      .value (.Unix "/run/a", after)) ∧
    ((new IpFormat.std respelledBackend).reports [.failure (.Unix "/run/a") 1000]).eligibleSlot
      1001 2 = true ∧
    (∃ after, (((new IpFormat.std respelledBackend).reports
        [.failure (.Unix "/run/a") 1000]).state 0).nextServer .w64 (fun _ => 1001) =
      .value (.Unix "/run//a", after)) ∧
    (StreamBackendAddr.Unix "/run//a").same (.Unix "/run/a") = true :=
  ⟨rfl, ⟨1000, by decide, by decide⟩, rfl, ⟨_, rfl⟩, rfl, ⟨_, rfl⟩, by decide⟩

end UpstreamHealth

end Wicket
