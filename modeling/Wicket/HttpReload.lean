/-
**Reloading the HTTP proxy while it answers.**

A reload replaces the router and then the upstreams; a request loads the one when its headers are
read, and the other when a peer is chosen.
-/

import Wicket.RouteSelection
import Wicket.TwoSlots

namespace Wicket

open KeyMap
open Text (CaseMapping)
open Net (SocketAddr)
open TwoSlots (Access Memory Sees)
open Check

/-! ### Upstreams -/

/-- Why a reload fails. -/
inductive ProxyError
  | hostPattern (e : HostPatternError)
  | backend (text : String)
  deriving DecidableEq

/-- How backend texts are resolved; a text may stand for several addresses. -/
abbrev Resolver : Type := String → Option (List SocketAddr)

structure LoadBalancer where
  backends : List SocketAddr
  healthCheckFrequency : Option UInt64 := none
  deriving DecidableEq

def LoadBalancer.tryFromIter (resolve : Resolver) (backends : List String) :
    Except ProxyError LoadBalancer :=
  (compileAll (fun b => (resolve b).elim (.error (.backend b)) .ok) backends).map fun addrs =>
    { backends := addrs.flatten }

structure UpstreamCluster where
  lbRoundRobin : Option LoadBalancer
  lbKetama : Option LoadBalancer
  strategy : LoadBalanceStrategy
  deriving DecidableEq

def withoutScheme (backend : String) : String :=
  ((Text.stripPrefix backend "http://").or (Text.stripPrefix backend "https://")).getD backend

def UpstreamCluster.new (resolve : Resolver) (config : UpstreamConfig) :
    Except ProxyError UpstreamCluster :=
  match config.strategy with
  | .RoundRobin =>
    (LoadBalancer.tryFromIter resolve (config.backends.map withoutScheme)).map fun lb =>
      { lbRoundRobin :=
          some { lb with healthCheckFrequency := config.healthCheck.map (·.interval) }
        lbKetama := none
        strategy := .RoundRobin }
  | .ConsistentHash =>
    (LoadBalancer.tryFromIter resolve (config.backends.map withoutScheme)).map fun lb =>
      { lbRoundRobin := none
        lbKetama := some lb
        strategy := .ConsistentHash }

def UpstreamCluster.Selects (cluster : UpstreamCluster) (addr : SocketAddr) : Prop :=
  match cluster.strategy with
  | .RoundRobin => ∃ lb ∈ cluster.lbRoundRobin, addr ∈ lb.backends
  | .ConsistentHash => ∃ lb ∈ cluster.lbKetama, addr ∈ lb.backends

abbrev Upstreams : Type := HashMap String UpstreamCluster

def buildUpstreams (resolve : Resolver) (configs : Std.TreeMap String UpstreamConfig) :
    Except ProxyError Upstreams :=
  (compileAll (fun e : String × UpstreamConfig =>
    (UpstreamCluster.new resolve e.2).map fun cluster => (e.1, cluster)) configs.toList).map collect

def buildHttp (cm : CaseMapping) (resolve : Resolver) (config : Config) :
    Except ProxyError (Router × Upstreams) := do
  let router ← (Router.build cm config.routes).mapError .hostPattern
  let upstreams ← buildUpstreams resolve config.upstreams
  .ok (router, upstreams)

def applyReload (cm : CaseMapping) (resolve : Resolver) (config : Config) :
    List (Access Router Upstreams) × Except ProxyError Unit :=
  match buildHttp cm resolve config with
  | .error e => ([], .error e)
  | .ok (router, upstreams) => ([.storeFirst router, .storeSecond upstreams], .ok ())

/-! ### A request -/

inductive PeerAnswer
  | noRoute
  | undefinedUpstream
  | noBackend
  | peer (addr : SocketAddr)

/-- `upstream_peer`, on the upstreams it loads: any backend may be selected, or none when none is
healthy. -/
def MayAnswer (upstreams : Upstreams) (routeMatch : Option MatchedRoute) : PeerAnswer → Prop
  | .noRoute => routeMatch = none
  | .undefinedUpstream => ∃ m ∈ routeMatch, upstreams.lookup m.upstream = none
  | .noBackend => ∃ m ∈ routeMatch, (upstreams.lookup m.upstream).isSome = true
  | .peer addr => ∃ m ∈ routeMatch, ∃ cluster, upstreams.lookup m.upstream = some cluster ∧
      cluster.Selects addr

/-- The peer of a request could have been chosen by one of the builds, the one its router is from.
-/
structure AnsweredAlike (cm : CaseMapping) (req : Request) (builds : Router × Upstreams → Prop)
    (router : Router) (upstreams : Upstreams) : Prop where
  defined : ¬ MayAnswer upstreams (router.routeMatch cm req) .undefinedUpstream
  peer : ∀ addr, MayAnswer upstreams (router.routeMatch cm req) (.peer addr) →
    ∃ build, builds build ∧ build.1 = router ∧
      MayAnswer build.2 (router.routeMatch cm req) (.peer addr)

/-- The upstream is defined, and its backends are among those that `other` has for it. -/
def ServedWithin (upstreams other : Upstreams) (name : String) : Prop :=
  ∃ cluster, upstreams.lookup name = some cluster ∧
    ∀ addr, cluster.Selects addr →
      ∃ cluster', other.lookup name = some cluster' ∧ cluster'.Selects addr

/-! ### Within one configuration -/

section Build

variable {cm : CaseMapping} {resolve resolve' : Resolver} {config : Config}
  {upstreams : Upstreams} {m : MatchedRoute} {req : Request}
  {builds : Router × Upstreams → Prop}

theorem rel_lookup_buildUpstreams {configs : Std.TreeMap String UpstreamConfig}
    (h : buildUpstreams resolve configs = .ok upstreams) (name : String) :
    Option.Rel (fun c cluster => UpstreamCluster.new resolve c = .ok cluster) configs[name]?
      (upstreams.lookup name) := by
  obtain ⟨entries, hentries, rfl⟩ := map_eq_ok.1 h
  rw [← lookup_collect_toList, lookup_collect, lookup_collect]
  refine lastWrite_forall₂ ((compileAll_eq_ok.1 hentries).imp ?_) name
  intro e entry he
  obtain ⟨cluster, hcluster, rfl⟩ := map_eq_ok.1 he
  exact ⟨rfl, hcluster⟩

variable {build : Router × Upstreams}

theorem buildHttp_eq_ok (h : buildHttp cm resolve config = .ok build) :
    Router.build cm config.routes = .ok build.1 ∧
      buildUpstreams resolve config.upstreams = .ok build.2 := by
  obtain ⟨router, hrouter, h⟩ := bind_eq_ok.1 h
  obtain ⟨upstreams, hupstreams, h⟩ := bind_eq_ok.1 h
  cases h
  exact ⟨mapError_eq_ok.1 hrouter, hupstreams⟩

theorem exists_cluster_of_matchRequest {router : Router} (hvalid : config.validate = .ok ())
    (hrouter : Router.build cm config.routes = .ok router)
    (hupstreams : buildUpstreams resolve config.upstreams = .ok upstreams) {host : Option String}
    {path method : String} {headers : HashMap String String}
    (hm : router.matchRequest cm host path method headers = some m) :
    ∃ cluster, upstreams.lookup m.upstream = some cluster := by
  obtain ⟨before, route, after, hroutes, -, -, -, hname⟩ :=
    Router.exists_of_matchRequest hrouter hm
  have hroute := (Config.validate_eq_ok.1 hvalid).routes route (by simp [hroutes])
  obtain ⟨c, hc⟩ : ∃ c, config.upstreams[m.upstream]? = some c := by
    rw [hname]
    exact Option.isSome_iff_exists.1 (Std.TreeMap.isSome_getElem?_iff_mem.2 hroute.upstream)
  have hrel := rel_lookup_buildUpstreams hupstreams m.upstream
  rw [hc] at hrel
  obtain ⟨cluster, hcluster, -⟩ := exists_of_rel_some hrel
  exact ⟨cluster, hcluster⟩

theorem exists_cluster_of_routeMatch (hvalid : config.validate = .ok ())
    (h : buildHttp cm resolve config = .ok build) (hm : build.1.routeMatch cm req = some m) :
    ∃ cluster, build.2.lookup m.upstream = some cluster := by
  obtain ⟨hrouter, hupstreams⟩ := buildHttp_eq_ok h
  exact exists_cluster_of_matchRequest hvalid hrouter hupstreams hm

theorem answeredAlike_of_build (hvalid : config.validate = .ok ())
    (h : buildHttp cm resolve config = .ok build) (hbuild : builds build) (req : Request) :
    AnsweredAlike cm req builds build.1 build.2 where
  defined := by
    rintro ⟨m, hm, hnone⟩
    obtain ⟨cluster, hcluster⟩ := exists_cluster_of_routeMatch hvalid h hm
    rw [hnone] at hcluster
    cases hcluster
  peer := fun addr hpeer => ⟨build, hbuild, rfl, hpeer⟩

theorem applyReload_error {e : ProxyError} (h : (applyReload cm resolve config).2 = .error e)
    (memory : Memory Router Upstreams) :
    TwoSlots.run memory (applyReload cm resolve config).1 = memory := by
  rw [applyReload] at h ⊢
  split at h
  case h_1 => rfl
  case h_2 => cases h

/-! ### In the middle of a reload -/

theorem answeredAlike_mixed_iff {old new : Router × Upstreams} (hold : builds old)
    (honly : ∀ b, builds b → b.1 = old.1 → b = old) :
    AnsweredAlike cm req builds old.1 new.2 ↔
      ∀ m, old.1.routeMatch cm req = some m → ServedWithin new.2 old.2 m.upstream := by
  constructor
  · intro h m hm
    cases hcluster : new.2.lookup m.upstream with
    | none => exact absurd ⟨m, hm, hcluster⟩ h.defined
    | some cluster =>
      refine ⟨cluster, hcluster, ?_⟩
      intro addr haddr
      obtain ⟨b, hb, hrouter, m', hm', cluster', hcluster', haddr'⟩ :=
        h.peer addr ⟨m, hm, cluster, hcluster, haddr⟩
      obtain rfl := honly b hb hrouter
      obtain rfl : m = m' := Option.some.inj (hm.symm.trans hm')
      exact ⟨cluster', hcluster', haddr'⟩
  · intro h
    refine ⟨?_, ?_⟩
    · rintro ⟨m, hm, hnone⟩
      obtain ⟨cluster, hcluster, -⟩ := h m hm
      rw [hnone] at hcluster
      cases hcluster
    · rintro addr ⟨m, hm, cluster, hcluster, haddr⟩
      obtain ⟨cluster', hcluster', hsub⟩ := h m hm
      obtain rfl : cluster = cluster' := Option.some.inj (hcluster.symm.trans hcluster')
      exact ⟨old, hold, rfl, m, hm, hsub addr haddr⟩

/-- **A request is answered by one configuration in every interleaving** with a reload exactly when
the routes stay, or its upstreams have in the other configuration only backends of their own. -/
theorem httpReload_iff {old new : Config} (hold : old.validate = .ok ())
    (hnew : new.validate = .ok ()) {before : Router × Upstreams}
    (hbefore : buildHttp cm resolve old = .ok before) (req : Request) :
    ((∀ router upstreams,
        Sees before.1 before.2 (applyReload cm resolve' new).1 router upstreams →
          AnsweredAlike cm req (fun b => b = before ∨ buildHttp cm resolve' new = .ok b)
            router upstreams) ∧
      ∀ e, (applyReload cm resolve' new).2 = .error e →
        ∀ memory, TwoSlots.run memory (applyReload cm resolve' new).1 = memory) ↔
      ∀ after, buildHttp cm resolve' new = .ok after →
        before.1 = after.1 ∨
          (∀ m, before.1.routeMatch cm req = some m → ServedWithin after.2 before.2 m.upstream) ∧
          ∀ m, after.1.routeMatch cm req = some m → ServedWithin before.2 after.2 m.upstream := by
  have herror : ∀ e, (applyReload cm resolve' new).2 = .error e →
      ∀ memory, TwoSlots.run memory (applyReload cm resolve' new).1 = memory :=
    fun e he => applyReload_error he
  rw [and_iff_left herror]
  cases hafter : buildHttp cm resolve' new with
  | error e =>
    -- nothing is stored, and the request is answered as before
    have hstores : (applyReload cm resolve' new).1 = [] := by rw [applyReload, hafter]
    refine iff_of_true ?_ (by simp)
    intro router upstreams hsees
    rw [hstores, TwoSlots.sees_nil_iff] at hsees
    obtain ⟨rfl, rfl⟩ := hsees
    exact answeredAlike_of_build hold hbefore (.inl rfl) req
  | ok after =>
    have hstores : (applyReload cm resolve' new).1 =
        [.storeFirst after.1, .storeSecond after.2] := by rw [applyReload, hafter]
    have hpure : AnsweredAlike cm req (fun b => b = before ∨ after = b) before.1 before.2 :=
      answeredAlike_of_build hold hbefore (.inl rfl) req
    have hpure' : AnsweredAlike cm req (fun b => b = before ∨ after = b) after.1 after.2 :=
      answeredAlike_of_build hnew hafter (.inr rfl) req
    simp only [hstores, TwoSlots.forall_sees_stores_iff, Except.ok.injEq, forall_eq']
    rw [and_iff_right ⟨hpure, hpure'⟩]
    by_cases hrouter : before.1 = after.1
    · -- with the same routes, the upstreams alone say whose answer it is
      refine iff_of_true ⟨?_, ?_⟩ (.inl hrouter)
      · rw [hrouter]
        exact hpure'
      · rw [← hrouter]
        exact hpure
    · have honly : ∀ b, b = before ∨ after = b → b.1 = before.1 → b = before := by
        rintro b (rfl | rfl) hb
        · rfl
        · exact absurd hb.symm hrouter
      have honly' : ∀ b, b = before ∨ after = b → b.1 = after.1 → b = after := by
        rintro b (rfl | rfl) hb
        · exact absurd hb hrouter
        · rfl
      rw [or_iff_right hrouter, answeredAlike_mixed_iff (.inl rfl) honly,
        answeredAlike_mixed_iff (.inr rfl) honly']

end Build

/-! ### A changed backend list, and a renamed upstream -/

def literalResolver : Resolver := fun text => (Net.parseSocketAddr text).map ([·])

def oneUpstream (name : String) (backends : List String) : Config :=
  { Config.default with
    upstreams := Std.TreeMap.ofList [(name, ({ backends := backends } : UpstreamConfig))]
    routes := [{ upstream := name, matchRules := { pathPrefix := some "/" } }] }

theorem addedBackend_answeredAlike :
    ∃ before, buildHttp .ascii literalResolver (oneUpstream "api" ["10.0.0.1:80"]) = .ok before ∧
      ∀ router upstreams, Sees before.1 before.2 (applyReload .ascii literalResolver
          (oneUpstream "api" ["10.0.0.1:80", "10.0.0.2:80"])).1 router upstreams →
        AnsweredAlike .ascii (getRequest "shop.example.com" "/")
          (fun b => b = before ∨ buildHttp .ascii literalResolver
            (oneUpstream "api" ["10.0.0.1:80", "10.0.0.2:80"]) = .ok b) router upstreams := by
  have hold : (oneUpstream "api" ["10.0.0.1:80"]).validate = .ok () := rfl
  have hnew : (oneUpstream "api" ["10.0.0.1:80", "10.0.0.2:80"]).validate = .ok () := rfl
  obtain ⟨before, hbefore⟩ : ∃ before, buildHttp .ascii literalResolver
      (oneUpstream "api" ["10.0.0.1:80"]) = .ok before := ⟨_, rfl⟩
  refine ⟨before, hbefore, ((httpReload_iff hold hnew hbefore _).2 ?_).1⟩
  intro after hafter
  left
  -- both are built from the same routes
  have hroutes : Router.build .ascii (oneUpstream "api" ["10.0.0.1:80"]).routes = .ok after.1 :=
    (buildHttp_eq_ok hafter).1
  exact Except.ok.inj ((buildHttp_eq_ok hbefore).1.symm.trans hroutes)

/-- While the upstream is renamed, a request is routed to the new name and finds the old one. -/
theorem renamedUpstream_undefined :
    ∃ before after,
      (oneUpstream "api" ["10.0.0.1:80"]).validate = .ok () ∧
      (oneUpstream "api-v2" ["10.0.0.1:80"]).validate = .ok () ∧
      buildHttp .ascii literalResolver (oneUpstream "api" ["10.0.0.1:80"]) = .ok before ∧
      buildHttp .ascii literalResolver (oneUpstream "api-v2" ["10.0.0.1:80"]) = .ok after ∧
      Sees before.1 before.2
        (applyReload .ascii literalResolver (oneUpstream "api-v2" ["10.0.0.1:80"])).1
        after.1 before.2 ∧
      MayAnswer before.2 (after.1.routeMatch .ascii (getRequest "shop.example.com" "/"))
        .undefinedUpstream := by
  refine ⟨_, _, rfl, rfl, rfl, rfl, ?_, ?_⟩
  · exact TwoSlots.sees_stores_iff.2 ⟨.inr rfl, .inl rfl⟩
  · exact ⟨_, rfl, rfl⟩

end Wicket
