/-
**Reference grants and rendered addresses.**

The planner reports a reference that no ReferenceGrant permits, but keeps the route attached; the
generator resolves every reference of an accepted route.
-/

import Wicket.Attachment
import Wicket.GatewayRoutes

namespace Wicket

open KeyMap

/-- Some grant in the namespace of the Service allows the reference. -/
def Granted (s : PlannerSnapshot) (kind : RouteKind) (routeNs : String) (b : BackendRef) : Prop :=
  ∃ key g, s.referenceGrants.lookup key = some g ∧ g.grantNs = b.nsOr routeNs ∧
    g.allowsServiceReference gatewayApiGroup kind.asStr routeNs (some b.name) = true

theorem backendRefPermitted_iff {s : PlannerSnapshot} {kind : RouteKind} {routeNs : String}
    {b : BackendRef} :
    backendRefPermitted s kind.asStr routeNs b = true ↔ Granted s kind routeNs b := by
  simp only [backendRefPermitted, List.any_eq_true, PlannerSnapshot.mem_referenceGrantsInNamespace]
  constructor
  · rintro ⟨g, ⟨key, hkey, hns⟩, hallows⟩
    exact ⟨key, g, hkey, hns, hallows⟩
  · rintro ⟨key, g, hkey, hns, hallows⟩
    exact ⟨g, ⟨key, hkey, hns⟩, hallows⟩

/-! ### Where an address comes from -/

/-- The address is in the configuration because of this reference. -/
inductive AddressFrom (st : GatewayState) (c : Config) :
    RouteKind → String → BackendRef → String → Prop
  | http {r : HttpRule} {u : UpstreamConfig} {b : HTTPBackendRef} {addr : String}
      (hkept : keptRule st r.upstreamName = some r)
      (hu : c.upstreams[r.upstreamName]? = some u) (haddr : addr ∈ u.backends)
      (hb : b ∈ r.rule.backendRefs)
      (hresolved : addr ∈ resolveBackend st r.route.routeNs 80 b.backendRef) :
      AddressFrom st c .HTTPRoute r.route.routeNs b.backendRef addr
  | stream {r : StreamRef} {sc : StreamConfig} {addr : String} (hsc : sc ∈ c.streams)
      (hr : r ∈ streamRefs st) (hu : r.upstream st ∈ sc.upstreams) (haddr : addr ∈ r.servers st) :
      AddressFrom st c r.kind r.routeNs r.ref addr

/-- The reference is rendered for the Gateway: it has an address, and no later rule reuses the name
of the upstream, or the Gateway has a listener for streams. -/
inductive RendersRef (s : PlannerSnapshot) (gatewayNs gatewayName : String) :
    RouteKind → String → BackendRef → Prop
  | http {r : HttpRule} {b : HTTPBackendRef} (hr : s.RendersRule gatewayNs gatewayName r)
      (hlast : ∀ r', s.RendersRule gatewayNs gatewayName r' →
        r'.upstreamName = r.upstreamName → ¬r.Before r')
      (hb : b ∈ r.rule.backendRefs)
      (haddr : HasAddress s.serviceEndpoints r.route.routeNs b.backendRef) :
      RendersRef s gatewayNs gatewayName .HTTPRoute r.route.routeNs b.backendRef
  | tls {key : String} {route : TLSRoute} {b : BackendRef}
      (hserves : s.ServesTls gatewayNs gatewayName key route) (hb : b ∈ route.backendRefs)
      (hlistener : s.HasStreamListener gatewayNs gatewayName)
      (haddr : HasAddress s.serviceEndpoints route.routeNs b) :
      RendersRef s gatewayNs gatewayName .TLSRoute route.routeNs b
  | tcp {key : String} {route : TCPRoute} {b : BackendRef}
      (hserves : s.ServesTcp gatewayNs gatewayName key route) (hb : b ∈ route.backendRefs)
      (hlistener : s.HasStreamListener gatewayNs gatewayName)
      (haddr : HasAddress s.serviceEndpoints route.routeNs b) :
      RendersRef s gatewayNs gatewayName .TCPRoute route.routeNs b

section Rendering

variable {s : PlannerSnapshot} {gatewayNs gatewayName : String} {c : Config}
  {kind : RouteKind} {routeNs : String} {b : BackendRef}

theorem AddressFrom.renders (h : configFromSnapshot gatewayNs gatewayName s = .ok c) {addr : String}
    (hfrom : AddressFrom (configState gatewayNs gatewayName s) c kind routeNs b addr) :
    RendersRef s gatewayNs gatewayName kind routeNs b := by
  cases hfrom with
  | http hkept _ _ hb hresolved =>
    obtain ⟨hr, hlast⟩ := keptRule_configState.1 hkept
    exact .http hr hlast hb (exists_mem_resolveBackend.1 ⟨addr, hresolved⟩)
  | @stream r sc _ hsc hr _ haddr =>
    have hlistener := (hasStream_configState hr).1 (hasStream_of_mem h hsc)
    have haddress : HasAddress s.serviceEndpoints r.routeNs r.ref :=
      exists_mem_resolveBackend.1 ⟨addr, haddr⟩
    rcases mem_streamRefs_configState.1 hr with
      ⟨hkind, route, hserves, hns, hb⟩ | ⟨hkind, route, hserves, hns, hb⟩
    · rw [hkind, hns]
      exact .tls hserves hb hlistener (hns ▸ haddress)
    · rw [hkind, hns]
      exact .tcp hserves hb hlistener (hns ▸ haddress)

theorem exists_addressFrom_stream (h : configFromSnapshot gatewayNs gatewayName s = .ok c)
    {r : StreamRef} (hr : r ∈ streamRefs (configState gatewayNs gatewayName s))
    (hlistener : s.HasStreamListener gatewayNs gatewayName)
    (haddr : HasAddress s.serviceEndpoints r.routeNs r.ref) :
    ∃ addr, AddressFrom (configState gatewayNs gatewayName s) c r.kind r.routeNs r.ref addr := by
  obtain ⟨addr, hresolved⟩ :=
    (@exists_mem_resolveBackend (configState gatewayNs gatewayName s) _ _ _).2 haddr
  obtain ⟨sc, hsc, port, hparts⟩ :=
    exists_stream_of_hasStream h ((hasStream_configState hr).2 hlistener)
  refine ⟨addr, .stream hsc hr ?_ hresolved⟩
  rw [hparts.upstreams]
  exact List.mem_map.2 ⟨r, hr, rfl⟩

theorem exists_addressFrom_iff (h : configFromSnapshot gatewayNs gatewayName s = .ok c) :
    (∃ addr, AddressFrom (configState gatewayNs gatewayName s) c kind routeNs b addr) ↔
      RendersRef s gatewayNs gatewayName kind routeNs b := by
  constructor
  · rintro ⟨addr, hfrom⟩
    exact hfrom.renders h
  · intro hrenders
    cases hrenders with
    | @http r b hr hlast hb haddr =>
      have hkept := keptRule_configState.2 ⟨hr, hlast⟩
      obtain ⟨addr, hresolved⟩ :=
        (@exists_mem_resolveBackend (configState gatewayNs gatewayName s) _ _ _).2 haddr
      have hmem : addr ∈ r.backends (configState gatewayNs gatewayName s) :=
        List.mem_flatMap.2 ⟨b, hb, hresolved⟩
      exact ⟨addr, .http hkept (upstream_of_kept (isGenerated_of_eq_ok h) hkept) hmem hb hresolved⟩
    | @tls key route b hserves hb hlistener haddr =>
      exact exists_addressFrom_stream (r := ⟨.TLSRoute, key, route.routeNs, b⟩) h
        (mem_streamRefs_configState.2 (Or.inl ⟨rfl, route, hserves, rfl, hb⟩)) hlistener haddr
    | @tcp key route b hserves hb hlistener haddr =>
      exact exists_addressFrom_stream (r := ⟨.TCPRoute, key, route.routeNs, b⟩) h
        (mem_streamRefs_configState.2 (Or.inr ⟨rfl, route, hserves, rfl, hb⟩)) hlistener haddr

end Rendering

/-! ### Enforcement -/

/-- No address of a Service in another namespace gets in without a grant. -/
def GrantsEnforced (s : PlannerSnapshot) (gatewayNs gatewayName : String) (c : Config) : Prop :=
  ∀ kind routeNs b addr, AddressFrom (configState gatewayNs gatewayName s) c kind routeNs b addr →
    b.isCoreService = true → b.nsOr routeNs ≠ routeNs → Granted s kind routeNs b

/-- **Grants are enforced exactly when the planner's check permits every rendered reference to a
Service of a foreign namespace.** -/
theorem grantsEnforced_iff {s : PlannerSnapshot} {gatewayNs gatewayName : String} {c : Config}
    (h : configFromSnapshot gatewayNs gatewayName s = .ok c) :
    GrantsEnforced s gatewayNs gatewayName c ↔
      ∀ kind routeNs b, RendersRef s gatewayNs gatewayName kind routeNs b →
        b.isCoreService = true → b.nsOr routeNs ≠ routeNs →
          backendRefPermitted s kind.asStr routeNs b = true := by
  constructor
  · intro henforced kind routeNs b hrenders hcore hcross
    obtain ⟨addr, hfrom⟩ := (exists_addressFrom_iff h).2 hrenders
    exact backendRefPermitted_iff.2 (henforced kind routeNs b addr hfrom hcore hcross)
  · intro hpermitted kind routeNs b addr hfrom hcore hcross
    have hrenders := (exists_addressFrom_iff h).1 ⟨addr, hfrom⟩
    exact backendRefPermitted_iff.1 (hpermitted kind routeNs b hrenders hcore hcross)

def ledgerRule : HTTPRouteRule where
  backendRefs := [⟨{ name := "ledger", ns := some "bank", port := some 80 }⟩]

def ledgerRoute : HTTPRoute where
  metadata := { ns := some "team", name := some "web" }
  spec := { parentRefs := [{ name := "gw" }], rules := [ledgerRule] }
  status := some (acceptedFor "gw")

def ledgerSnapshot (grants : HashMap String ReferenceGrant) : PlannerSnapshot where
  gateways := collect [("team/gw",
    { metadata := { ns := some "team", name := some "gw" }
      spec :=
        { gatewayClassName := "wicket"
          listeners := [{ name := "http", port := 80, protocol := .HTTP }] } })]
  httpRoutes := collect [("team/web", ledgerRoute)]
  referenceGrants := grants

variable (grants : HashMap String ReferenceGrant)

theorem liveRules_ledgerSnapshot :
    liveRules (configState "team" "gw" (ledgerSnapshot grants)) =
      [⟨"team/web", ledgerRoute, 0, ledgerRule⟩] := by
  rfl

theorem exists_config_ledgerSnapshot :
    ∃ c, configFromSnapshot "team" "gw" (ledgerSnapshot grants) = .ok c := by
  refine exists_generateConfig.2 (splittable_of_timeouts ?_)
  rw [liveRules_ledgerSnapshot]
  decide

theorem ledgerRule_kept :
    keptRule (configState "team" "gw" (ledgerSnapshot grants))
      (HttpRule.upstreamName ⟨"team/web", ledgerRoute, 0, ledgerRule⟩) =
        some ⟨"team/web", ledgerRoute, 0, ledgerRule⟩ := by
  rw [keptRule, liveRules_ledgerSnapshot]
  decide

theorem ledgerSnapshot_not_enforced :
    ∃ c, configFromSnapshot "team" "gw" (ledgerSnapshot ∅) = .ok c ∧
      ¬GrantsEnforced (ledgerSnapshot ∅) "team" "gw" c := by
  obtain ⟨c, hc⟩ := exists_config_ledgerSnapshot ∅
  refine ⟨c, hc, fun henforced => ?_⟩
  obtain ⟨hr, hlast⟩ := keptRule_configState.1 (ledgerRule_kept ∅)
  have hrenders : RendersRef (ledgerSnapshot ∅) "team" "gw" .HTTPRoute "team"
      { name := "ledger", ns := some "bank", port := some 80 } :=
    .http hr hlast (List.mem_singleton.2 rfl) (by intro e he; cases he)
  obtain ⟨addr, hfrom⟩ := (exists_addressFrom_iff hc).2 hrenders
  obtain ⟨key, g, hkey, -, -⟩ := henforced _ _ _ _ hfrom (by decide) (by decide)
  cases hkey

def bankGrant : ReferenceGrant where
  metadata := { ns := some "bank", name := some "team-routes" }
  from_ := [{ group := gatewayApiGroup, kind := "HTTPRoute", ns := "team" }]
  to_ := [{ group := "", kind := "Service" }]

theorem ledgerSnapshot_enforced :
    ∃ c, configFromSnapshot "team" "gw"
        (ledgerSnapshot (collect [("bank/team-routes", bankGrant)])) = .ok c ∧
      GrantsEnforced (ledgerSnapshot (collect [("bank/team-routes", bankGrant)]))
        "team" "gw" c := by
  obtain ⟨c, hc⟩ :=
    exists_config_ledgerSnapshot (collect [("bank/team-routes", bankGrant)])
  refine ⟨c, hc, (grantsEnforced_iff hc).2 ?_⟩
  intro kind routeNs b hrenders _ _
  cases hrenders with
  | @http r b hr _ hb _ =>
    have hmem := mem_liveRules_configState.2 hr
    rw [liveRules_ledgerSnapshot, List.mem_singleton] at hmem
    subst hmem
    obtain rfl := List.mem_singleton.1 hb
    decide
  | tls hserves => exact absurd hserves.stored (by simp [ledgerSnapshot])
  | tcp hserves => exact absurd hserves.stored (by simp [ledgerSnapshot])

end Wicket
