/-
**Choosing a backend.**

A connection starts at the counter and takes the first backend that is healthy or has cooled down,
or else the one at the counter.
-/

import Wicket.Checked
import Wicket.HttpReload
import Wicket.StreamReload

namespace Wicket

open Checked (UsizeWidth Run add_value rem_value index_value value_bind)
open KeyMap List
open Text (CaseMapping)

/-! ### Health -/

structure BackendHealth where
  healthy : Bool
  /-- The time it was marked unhealthy, in milliseconds, or zero. -/
  unhealthySince : UInt64
  deriving DecidableEq

def BackendHealth.new : BackendHealth := ⟨true, 0⟩

def cooldownMillis (cooldown : UInt64) : ℕ := cooldown.toNat * 1000 % 2 ^ 64

def BackendHealth.isEligible (health : BackendHealth) (cooldown now : UInt64) : Bool :=
  health.healthy || health.unhealthySince == 0 ||
    decide (cooldownMillis cooldown ≤ now.toNat - health.unhealthySince.toNat)

/-! ### The choice -/

structure UpstreamState (up : Upstream) where
  health : List BackendHealth
  counter : ℕ
  health_length : health.length = up.servers.length

namespace UpstreamState

variable {up : Upstream}

def new (up : Upstream) : UpstreamState up where
  health := up.servers.map fun _ => BackendHealth.new
  counter := 0
  health_length := List.length_map _

def advance (w : UsizeWidth) (state : UpstreamState up) : UpstreamState up :=
  { state with counter := (state.counter + 1) % w.limit }

/-- The first pass: the first eligible backend at the given distances from the counter.  The clock
is read at each distance. -/
def selectEligible (w : UsizeWidth) (state : UpstreamState up) (now : ℕ → UInt64) :
    List ℕ → Run (Option StreamBackendAddr)
  | [] => pure none
  | i :: is => do
    let sum ← Checked.add w.limit state.counter i
    let idx ← Checked.rem sum up.servers.length
    let health ← Checked.index state.health idx
    if health.isEligible up.cooldown (now i) then
      let server ← Checked.index up.servers idx
      pure (some server)
    else selectEligible w state now is

def nextServer (w : UsizeWidth) (state : UpstreamState up) (now : ℕ → UInt64) :
    Run (StreamBackendAddr × UpstreamState up) := do
  let found ← state.selectEligible w now (List.range up.servers.length)
  match found with
  | some server => pure (server, state.advance w)
  | none =>
    let idx ← Checked.rem state.counter up.servers.length
    let server ← Checked.index up.servers idx
    pure (server, state.advance w)

/-! ### Which backend is chosen -/

def place (state : UpstreamState up) (i : ℕ) : ℕ := (state.counter + i) % up.servers.length

def eligibleAt (state : UpstreamState up) (now : ℕ → UInt64) (i : ℕ) : Bool :=
  (state.health[state.place i]?).any fun health => health.isEligible up.cooldown (now i)

/-- The distance of the chosen backend from the counter: the first one that is eligible, or none. -/
def distance (state : UpstreamState up) (now : ℕ → UInt64) : ℕ :=
  ((List.range up.servers.length).find? (state.eligibleAt now)).getD 0

section Choice

variable {w : UsizeWidth} {state : UpstreamState up} {now : ℕ → UInt64}

theorem place_lt (hpos : 0 < up.servers.length) (i : ℕ) : state.place i < up.servers.length :=
  Nat.mod_lt _ hpos

theorem selectEligible_eq (hpos : 0 < up.servers.length) {is : List ℕ}
    (hfit : ∀ i ∈ is, state.counter + i < w.limit) :
    state.selectEligible w now is =
      .value ((is.find? (state.eligibleAt now)).map fun i =>
        up.servers.get ⟨state.place i, place_lt hpos i⟩) := by
  induction is with
  | nil => rfl
  | cons i is ih =>
    have hplace : (state.counter + i) % up.servers.length < up.servers.length := place_lt hpos i
    have hhealth : (state.counter + i) % up.servers.length < state.health.length := by
      rw [state.health_length]
      exact hplace
    have heligible : state.eligibleAt now i =
        (state.health.get ⟨_, hhealth⟩).isEligible up.cooldown (now i) := by
      rw [eligibleAt, place, getElem?_eq_getElem hhealth]
      rfl
    rw [selectEligible, add_value (hfit i mem_cons_self), value_bind, rem_value _ hpos,
      value_bind, index_value hhealth, value_bind, find?_cons, heligible]
    cases (state.health.get ⟨_, hhealth⟩).isEligible up.cooldown (now i) with
    | true =>
      rw [if_pos rfl, index_value hplace, value_bind]
      rfl
    | false =>
      rw [if_neg Bool.false_ne_true, ih fun j hj => hfit j (mem_cons_of_mem _ hj)]

/-- **Which backend is chosen**: the first eligible one, or the one at the counter.  Nothing is
divided by zero, no index is outside, and no sum overflows. -/
theorem nextServer_eq (hpos : 0 < up.servers.length)
    (hfit : state.counter + up.servers.length ≤ w.limit) :
    state.nextServer w now =
      .value (up.servers.get ⟨state.place (state.distance now), place_lt hpos _⟩,
        state.advance w) := by
  have hsums : ∀ i ∈ range up.servers.length, state.counter + i < w.limit := by
    intro i hi
    have hlt := mem_range.1 hi
    omega
  rw [nextServer, selectEligible_eq hpos hsums, value_bind, distance]
  cases (range up.servers.length).find? (state.eligibleAt now) with
  | some i => rfl
  | none =>
    rw [rem_value _ hpos, value_bind, index_value (Nat.mod_lt _ hpos), value_bind]
    rfl

end Choice

end UpstreamState

/-! ### What the validator has established -/

theorem StreamProxy.servers_ne_nil {config : StreamConfig} (hvalid : config.Valid)
    {proxy : StreamProxy} (hproxy : StreamProxy.fromConfig config = .ok proxy) {name : String}
    {up : Upstream} (hup : proxy.upstreams.lookup name = some up) : 0 < up.servers.length := by
  have hrel := StreamProxy.rel_lookup_upstreams hproxy name
  rw [hup] at hrel
  cases hlast : lastWrite config.upstreamServers name with
  | none =>
    rw [hlast] at hrel
    cases hrel
  | some servers =>
    rw [hlast] at hrel
    obtain ⟨up', hsome, hparse⟩ := exists_of_rel_some hrel
    cases hsome
    obtain ⟨u, hu, heq⟩ := mem_map.1 (mem_of_lastWrite hlast)
    cases heq
    have hne := hvalid.servers u hu
    have hlen := (Check.compileAll_eq_ok.1 hparse).length_eq
    rw [← hlen]
    exact length_pos_iff.2 hne

/-- **Every upstream that is chosen is known and serves**, in a validated configuration that
compiles, whatever the counters, the health of the backends and the clock are. -/
theorem Config.chosen_upstreams_serve {config : Config} (hvalid : config.validate = .ok ()) :
    (∀ cm resolve router upstreams, Router.build cm config.routes = .ok router →
      buildUpstreams resolve config.upstreams = .ok upstreams →
      ∀ host path method headers m, router.matchRequest cm host path method headers = some m →
        (upstreams.lookup m.upstream).isSome = true) ∧
    (∀ stream ∈ config.streams, ∀ proxy, StreamProxy.fromConfig stream = .ok proxy →
      ∀ sni name, proxy.router.matchSni sni = some name →
        ∃ up, proxy.upstreams.lookup name = some up ∧
          ∀ (w : UsizeWidth) (state : UpstreamState up) now,
            state.counter + up.servers.length ≤ w.limit →
            ∃ server ∈ up.servers, state.nextServer w now = .value (server, state.advance w)) := by
  constructor
  · intro cm resolve router upstreams hrouter hupstreams host path method headers m hm
    rw [Option.isSome_iff_exists]
    exact exists_cluster_of_matchRequest hvalid hrouter hupstreams hm
  · intro stream hstream proxy hproxy sni name hname
    have hstreams := (Config.validate_eq_ok.1 hvalid).streams
    have hbuild := StreamProxy.build_of_fromConfig hproxy
    obtain ⟨u, hu, rfl⟩ := (hstreams.each stream hstream).exists_upstream hbuild hname
    obtain ⟨up, hup⟩ := Option.isSome_iff_exists.1 (StreamConfig.isSome_lookup_build hbuild hu)
    refine ⟨up, hup, ?_⟩
    intro w state now hfit
    have hpos := StreamProxy.servers_ne_nil (hstreams.each stream hstream) hproxy hup
    exact ⟨_, List.get_mem _ _, UpstreamState.nextServer_eq hpos hfit⟩

def repeatedStream : StreamConfig :=
  { oneStream "db" "10.0.0.1:5432" with
    upstreams := [{ name := "db", servers := ["10.0.0.1:5432"] },
      { name := "db", servers := ["10.0.0.2:5432", "10.0.0.3:5432"] }] }

def repeatedUpstream : Config :=
  { oneUpstream "api" ["10.0.0.1:80"] with streams := [repeatedStream] }

theorem repeatedUpstream_serves :
    ∃ proxy up, StreamProxy.fromConfig repeatedStream = .ok proxy ∧
      proxy.upstreams.lookup "db" = some up ∧
      ∀ now, ∃ server ∈ up.servers, (UpstreamState.new up).nextServer .w64 now =
        .value (server, (UpstreamState.new up).advance .w64) := by
  have hvalid : repeatedUpstream.validate = .ok () := rfl
  obtain ⟨proxy, hproxy⟩ : ∃ proxy, StreamProxy.fromConfig repeatedStream = .ok proxy := ⟨_, rfl⟩
  have hname : proxy.router.matchSni none = some "db" := by
    obtain ⟨upstreams, -, hpair⟩ := Check.map_eq_ok.1 (StreamProxy.build_of_fromConfig hproxy)
    rw [← (Prod.mk.inj hpair).1]
    rfl
  obtain ⟨up, hup, hserves⟩ := (Config.chosen_upstreams_serve hvalid).2 repeatedStream
    List.mem_cons_self proxy hproxy none "db" hname
  refine ⟨proxy, up, hproxy, hup, ?_⟩
  intro now
  -- the two backends that are configured last
  have hlen : up.servers.length = 2 := by
    have hrel := StreamProxy.rel_lookup_upstreams hproxy "db"
    rw [hup, show lastWrite repeatedStream.upstreamServers "db" =
      some ["10.0.0.2:5432", "10.0.0.3:5432"] from rfl] at hrel
    obtain ⟨up', hsome, hparse⟩ := exists_of_rel_some hrel
    cases hsome
    exact (Check.compileAll_eq_ok.1 hparse).length_eq.symm
  have hfit : 0 + 2 ≤ UsizeWidth.w64.limit := by decide
  refine hserves .w64 (UpstreamState.new up) now ?_
  rwa [hlen]

end Wicket
