/-
**How the connections of an upstream are spread.**

While the same backends stay eligible, `n` connections in a row start once at each of the `n`
backends.  A backend behind one that is not eligible gets its connections too.
-/

import Mathlib.Data.List.Find
import Wicket.Cyclic
import Wicket.NextServer

namespace Wicket

open Nat List UpstreamState

open Checked (UsizeWidth Run value_bind)

/-! ### Connections one after the other -/

/-- What a connection finds: the health of each backend, and the clock at each distance. -/
structure ServerCall (up : Upstream) where
  health : List BackendHealth
  now : ℕ → UInt64
  health_length : health.length = up.servers.length

variable {up : Upstream}

def ServerCall.state (call : ServerCall up) (counter : ℕ) : UpstreamState up where
  health := call.health
  counter := counter
  health_length := call.health_length

def serveCalls (w : UsizeWidth) (counter : ℕ) : List (ServerCall up) → Run (List StreamBackendAddr)
  | [] => pure []
  | call :: calls => do
    let (server, state) ← (call.state counter).nextServer w call.now
    let servers ← serveCalls w state.counter calls
    pure (server :: servers)

def UpstreamState.slot (state : UpstreamState up) (now : ℕ → UInt64) : ℕ :=
  state.place (state.distance now)

def slotsTaken (counter : ℕ) : List (ServerCall up) → List ℕ
  | [] => []
  | call :: calls => (call.state counter).slot call.now :: slotsTaken (counter + 1) calls

/-- While the connections are made, whenever the clock is read, the same places are eligible. -/
def StaysEligible (eligible : ℕ → Bool) (calls : List (ServerCall up)) : Prop :=
  ∀ call ∈ calls, ∀ slot health, call.health[slot]? = some health →
    ∀ i < up.servers.length, health.isEligible up.cooldown (call.now i) = eligible slot

theorem StaysEligible.tail {eligible : ℕ → Bool} {call : ServerCall up}
    {calls : List (ServerCall up)} (h : StaysEligible eligible (call :: calls)) :
    StaysEligible eligible calls :=
  fun call' hcall' => h call' (mem_cons_of_mem _ hcall')

/-! ### Connections as searches -/

variable {eligible : ℕ → Bool} {calls : List (ServerCall up)}

theorem ServerCall.eligibleAt_eq {call : ServerCall up}
    (hstays : StaysEligible eligible (call :: calls)) (counter : ℕ) {i : ℕ}
    (hi : i < up.servers.length) :
    (call.state counter).eligibleAt call.now i = eligible ((counter + i) % up.servers.length) := by
  have hplace : (counter + i) % up.servers.length < call.health.length := by
    rw [call.health_length]
    exact mod_lt _ (by omega)
  have hhealth : call.health[(counter + i) % up.servers.length]? =
      some (call.health.get ⟨_, hplace⟩) := getElem?_eq_getElem hplace
  have hstay := hstays call mem_cons_self _ _ hhealth i hi
  show (call.health[(counter + i) % up.servers.length]?).any _ = _
  rw [hhealth, Option.any_some, hstay]

theorem ServerCall.slot_eq_pick {call : ServerCall up}
    (hstays : StaysEligible eligible (call :: calls)) (counter : ℕ) :
    (call.state counter).slot call.now = Cyclic.pick eligible up.servers.length counter := by
  have hfind : (range up.servers.length).find? ((call.state counter).eligibleAt call.now) =
      (range up.servers.length).find? fun i =>
        eligible ((counter + i) % up.servers.length) := by
    refine find?_congr ?_
    intro i hi
    exact call.eligibleAt_eq hstays counter (mem_range.1 hi)
  rw [slot, distance, hfind]
  rfl

theorem slotsTaken_eq (hstays : StaysEligible eligible calls) (counter : ℕ) :
    slotsTaken counter calls = (range calls.length).map fun j =>
      Cyclic.pick eligible up.servers.length (counter + j) := by
  induction calls generalizing counter with
  | nil => rfl
  | cons call calls ih =>
    have hshift : (fun j => Cyclic.pick eligible up.servers.length (counter + 1 + j)) =
        (fun j => Cyclic.pick eligible up.servers.length (counter + j)) ∘ succ := by
      funext j
      rw [Function.comp_apply, succ_eq_add_one, add_assoc, add_comm 1 j]
    rw [slotsTaken, ih hstays.tail, call.slot_eq_pick hstays, length_cons,
      range_succ_eq_map, map_cons, map_map, hshift]
    rfl

theorem serveCalls_eq {w : UsizeWidth} (hpos : 0 < up.servers.length) {counter : ℕ}
    (hfit : counter + calls.length + up.servers.length ≤ w.limit + 1) :
    ∃ servers, serveCalls w counter calls = .value servers ∧
      servers.map some = (slotsTaken counter calls).map fun slot => up.servers[slot]? := by
  induction calls generalizing counter with
  | nil => exact ⟨[], rfl, rfl⟩
  | cons call calls ih =>
    rw [length_cons] at hfit
    -- the counter is only used again when there is another connection
    have hcounter : serveCalls w ((call.state counter).advance w).counter calls =
        serveCalls w (counter + 1) calls := by
      cases calls with
      | nil => rfl
      | cons call' calls =>
        rw [length_cons] at hfit
        rw [show ((call.state counter).advance w).counter = (counter + 1) % w.limit from rfl,
          mod_eq_of_lt (by omega)]
    obtain ⟨servers, hservers, hslots⟩ := @ih (counter + 1) (by omega)
    have hplace := @UpstreamState.place_lt up (call.state counter) hpos
      ((call.state counter).distance call.now)
    have hnext := @UpstreamState.nextServer_eq up w (call.state counter) call.now hpos
      (by show counter + up.servers.length ≤ w.limit; omega)
    refine ⟨up.servers.get ⟨_, hplace⟩ :: servers, ?_, ?_⟩
    · rw [serveCalls, hnext, value_bind]
      dsimp only
      rw [hcounter, hservers, value_bind]
      rfl
    · rw [map_cons, slotsTaken, map_cons, hslots, slot, getElem?_eq_getElem hplace]
      rfl

/-! ### A window of connections -/

/-- **How often each backend is taken by `n` connections**: if it is eligible, once and once more
for every backend right before it that is not; if none is eligible, once. -/
theorem serveCalls_window {w : UsizeWidth} {up : Upstream} (hpos : 1 ≤ up.servers.length)
    {calls : List (ServerCall up)} (hlength : calls.length = up.servers.length) {counter : ℕ}
    (hwrap : ∀ j < up.servers.length, ∀ i < up.servers.length, counter + j + i < w.limit)
    {eligible : ℕ → Bool} (hstays : StaysEligible eligible calls) :
    (∃ servers, serveCalls w counter calls = .value servers ∧
      servers.map some = (slotsTaken counter calls).map fun slot => up.servers[slot]?) ∧
    ((∃ slot < up.servers.length, eligible slot = true) →
      (∀ slot ∈ slotsTaken counter calls, eligible slot = true) ∧
      ∀ slot < up.servers.length, eligible slot = true →
        (slotsTaken counter calls).count slot = 1 + Cyclic.gap eligible up.servers.length slot) ∧
    ((∀ slot < up.servers.length, eligible slot = false) →
      ∀ slot < up.servers.length, (slotsTaken counter calls).count slot = 1) := by
  have hlast := hwrap (up.servers.length - 1) (by omega) (up.servers.length - 1) (by omega)
  have htaken : slotsTaken counter calls = Cyclic.picks eligible up.servers.length counter := by
    rw [slotsTaken_eq hstays, hlength, Cyclic.picks]
  refine ⟨serveCalls_eq hpos (by omega), ?_, ?_⟩
  · intro h
    obtain ⟨slot, hslot, heligible⟩ := h
    rw [htaken]
    refine ⟨?_, fun slot' hslot' heligible' => Cyclic.count_pick hslot' heligible' counter⟩
    intro taken hmem
    obtain ⟨j, -, rfl⟩ := List.mem_map.1 hmem
    exact Cyclic.eligible_pick hslot heligible _
  · intro hnone slot hslot
    rw [htaken]
    exact Cyclic.count_pick_of_none hnone hslot counter

def threeBackends : Upstream where
  name := "db"
  servers := [.Unix "/run/a", .Unix "/run/b", .Unix "/run/c"]
  cooldown := 30

def secondUnhealthy : ServerCall threeBackends where
  health := [BackendHealth.new, ⟨false, 1000⟩, BackendHealth.new]
  now _ := 2000
  health_length := rfl

theorem secondUnhealthy_window :
    (slotsTaken 5 [secondUnhealthy, secondUnhealthy, secondUnhealthy]).count 0 = 1 ∧
    (slotsTaken 5 [secondUnhealthy, secondUnhealthy, secondUnhealthy]).count 2 = 2 := by
  have hwrap : ∀ j < 3, ∀ i < 3, 5 + j + i < UsizeWidth.w64.limit := by decide
  have hstays : StaysEligible (fun slot => slot != 1)
      [secondUnhealthy, secondUnhealthy, secondUnhealthy] := by
    intro call hcall slot health hhealth i _
    obtain rfl : call = secondUnhealthy := by simpa using hcall
    have hcooling : BackendHealth.isEligible ⟨false, 1000⟩ 30 2000 = false := by decide
    match slot with
    | 0 | 2 =>
      cases hhealth
      rfl
    | 1 =>
      cases hhealth
      exact hcooling
    | _ + 3 => cases hhealth
  obtain ⟨-, hsome, -⟩ := @serveCalls_window .w64 threeBackends (by decide) _ rfl 5 hwrap _ hstays
  obtain ⟨-, hcount⟩ := hsome ⟨0, by decide, rfl⟩
  exact ⟨hcount 0 (by decide) rfl, hcount 2 (by decide) rfl⟩

end Wicket
