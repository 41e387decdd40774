/-
**Rendered routes and attached routes.**

The configuration renders a route when some parent status is accepted and some parent reference
names the Gateway; the planner attaches it when such a reference selects a listener that admits it.
-/

import Wicket.Attachment
import Wicket.GatewayRoutes

namespace Wicket

open List Option

/-! ### Contributions -/

def GatewayState.route (st : GatewayState) (kind : RouteKind) (key : String) : Option Route :=
  match kind with
  | .HTTPRoute => (st.httpRoutes.lookup key).map Route.http
  | .TCPRoute => (st.tcpRoutes.lookup key).map Route.tcp
  | .TLSRoute => (st.tlsRoutes.lookup key).map Route.tls

inductive Contributes (st : GatewayState) (c : Config) : Route → Prop
  | httpRoute {r : HttpRule} {rc : RouteConfig} (hr : r ∈ liveRules st) (hrc : rc ∈ r.routes)
      (hmem : rc ∈ c.routes) : Contributes st c (.http r.route)
  | streamUpstream {r : StreamRef} {route : Route} {sc : StreamConfig} (hsc : sc ∈ c.streams)
      (hr : r ∈ streamRefs st) (hroute : st.route r.kind r.key = some route)
      (hmem : r.upstream st ∈ sc.upstreams) : Contributes st c route
  | sniRoute {key hostname : String} {route : TLSRoute} {b : BackendRef} {sc : StreamConfig}
      (hsc : sc ∈ c.streams) (hroute : st.tlsRoutes.lookup key = some route)
      (haccepted : tlsRouteIsAccepted route = true) (hhost : hostname ∈ route.spec.hostnames)
      (hb : b ∈ route.backendRefs)
      (hsni : sc.sniRoutes.lookup hostname = some (streamUpstreamName route.routeNs b.name)) :
      Contributes st c (.tls route)

/-- The route is accepted, names the Gateway, and has a rule with an address, or a backend while
there is a listener for streams. -/
inductive RendersFor (s : PlannerSnapshot) (gatewayNs gatewayName : String) : Route → Prop
  | http {r : HttpRule} (hr : s.RendersRule gatewayNs gatewayName r)
      (hemits : r.rule.emitsRoutes = true) : RendersFor s gatewayNs gatewayName (.http r.route)
  | tls {key : String} {route : TLSRoute} (hserves : s.ServesTls gatewayNs gatewayName key route)
      (hbackends : route.backendRefs ≠ [])
      (hlistener : s.HasStreamListener gatewayNs gatewayName) :
      RendersFor s gatewayNs gatewayName (.tls route)
  | tcp {key : String} {route : TCPRoute} (hserves : s.ServesTcp gatewayNs gatewayName key route)
      (hbackends : route.backendRefs ≠ [])
      (hlistener : s.HasStreamListener gatewayNs gatewayName) :
      RendersFor s gatewayNs gatewayName (.tcp route)

section Rendering

variable {s : PlannerSnapshot} {gatewayNs gatewayName : String} {c : Config}
  {r : StreamRef} {route : Route}

theorem rendersFor_of_streamRef (hr : r ∈ streamRefs (configState gatewayNs gatewayName s))
    (hroute : (configState gatewayNs gatewayName s).route r.kind r.key = some route)
    (hlistener : s.HasStreamListener gatewayNs gatewayName) :
    RendersFor s gatewayNs gatewayName route := by
  rcases mem_streamRefs_configState.1 hr with
    ⟨hkind, stored, hserves, -, hb⟩ | ⟨hkind, stored, hserves, -, hb⟩
  · have hlookup := (lookup_filter_iff_serves.2 hserves).1
    rw [hkind] at hroute
    obtain ⟨route', hlookup', rfl⟩ := map_eq_some_iff.1 hroute
    obtain rfl : stored = route' := some.inj (hlookup.symm.trans hlookup')
    exact .tls hserves (ne_nil_of_mem hb) hlistener
  · have hlookup := (lookup_filter_iff_serves.2 hserves).1
    rw [hkind] at hroute
    obtain ⟨route', hlookup', rfl⟩ := map_eq_some_iff.1 hroute
    obtain rfl : stored = route' := some.inj (hlookup.symm.trans hlookup')
    exact .tcp hserves (ne_nil_of_mem hb) hlistener

theorem contributes_of_streamRef (h : configFromSnapshot gatewayNs gatewayName s = .ok c)
    (hr : r ∈ streamRefs (configState gatewayNs gatewayName s))
    (hroute : (configState gatewayNs gatewayName s).route r.kind r.key = some route)
    (hlistener : s.HasStreamListener gatewayNs gatewayName) :
    Contributes (configState gatewayNs gatewayName s) c route := by
  obtain ⟨sc, hsc, port, hparts⟩ :=
    exists_stream_of_hasStream h ((hasStream_configState hr).2 hlistener)
  refine .streamUpstream hsc hr hroute ?_
  rw [hparts.upstreams]
  exact mem_map.2 ⟨r, hr, rfl⟩

theorem contributes_iff (h : configFromSnapshot gatewayNs gatewayName s = .ok c) :
    Contributes (configState gatewayNs gatewayName s) c route ↔
      RendersFor s gatewayNs gatewayName route := by
  constructor
  · intro hcontributes
    cases hcontributes with
    | httpRoute hr hrc _ =>
      exact .http (mem_liveRules_configState.1 hr) (HttpRule.routes_ne_nil.1 (ne_nil_of_mem hrc))
    | streamUpstream hsc hr hroute _ =>
      exact rendersFor_of_streamRef hr hroute
        ((hasStream_configState hr).1 (hasStream_of_mem h hsc))
    | @sniRoute key hostname route b sc hsc hroute haccepted _ hb _ =>
      have hserves := lookup_filter_iff_serves.1 ⟨hroute, haccepted⟩
      have hr : (⟨.TLSRoute, key, route.routeNs, b⟩ : StreamRef) ∈
          streamRefs (configState gatewayNs gatewayName s) :=
        mem_streamRefs_configState.2 (Or.inl ⟨rfl, route, hserves, rfl, hb⟩)
      exact .tls hserves (ne_nil_of_mem hb) ((hasStream_configState hr).1 (hasStream_of_mem h hsc))
  · intro hrenders
    cases hrenders with
    | @http r hr hemits =>
      obtain ⟨rc, hrc⟩ := exists_mem_of_ne_nil _ (HttpRule.routes_ne_nil.2 hemits)
      have hlive := mem_liveRules_configState.2 hr
      refine .httpRoute hlive hrc ?_
      rw [(isGenerated_of_eq_ok h).routes]
      exact mem_flatMap.2 ⟨r, hlive, hrc⟩
    | @tls key route hserves hbackends hlistener =>
      obtain ⟨b, hb⟩ := exists_mem_of_ne_nil _ hbackends
      refine contributes_of_streamRef (r := ⟨.TLSRoute, key, route.routeNs, b⟩) h
        (mem_streamRefs_configState.2 (Or.inl ⟨rfl, route, hserves, rfl, hb⟩)) ?_ hlistener
      exact map_eq_some_iff.2 ⟨route, (lookup_filter_iff_serves.2 hserves).1, rfl⟩
    | @tcp key route hserves hbackends hlistener =>
      obtain ⟨b, hb⟩ := exists_mem_of_ne_nil _ hbackends
      refine contributes_of_streamRef (r := ⟨.TCPRoute, key, route.routeNs, b⟩) h
        (mem_streamRefs_configState.2 (Or.inr ⟨rfl, route, hserves, rfl, hb⟩)) ?_ hlistener
      exact map_eq_some_iff.2 ⟨route, (lookup_filter_iff_serves.2 hserves).1, rfl⟩

end Rendering

/-! ### Attachment -/

structure RouteEvalContext.IsFor (ctx : RouteEvalContext) (route : Route) : Prop where
  kind : ctx.routeKind = route.kind
  ns : ctx.routeNamespace = route.metadata.planNs
  name : ctx.routeName = route.metadata.planName

/-- A stored route of that kind and name has a parent reference to the Gateway that selects a
listener which admits it. -/
def AdmittedByListener (input : AttachmentPlanInput) (gateway : Gateway) (route : Route) : Prop :=
  ∃ ctx, Evaluated input gateway ctx ∧ ctx.IsFor route ∧ ∃ l, ctx.Selects l ∧ ctx.Admits l

def AttachedInPlan (input : AttachmentPlanInput) (gateway : Gateway) (route : Route) : Prop :=
  ∃ plan, attachmentPlan input = .ok plan ∧ ∃ res ∈ plan.routeResults,
    res.routeKind = route.kind ∧ res.routeNamespace = route.metadata.planNs ∧
      res.routeName = route.metadata.planName ∧ res.AttachedTo gateway

variable {input : AttachmentPlanInput} {gateway : Gateway}

theorem gateway_of_evaluated {ctx : RouteEvalContext} (h : Evaluated input gateway ctx) :
    ctx.gateway = gateway := by
  cases h <;> rfl

theorem attachedInPlan_iff
    (h : input.snapshot.gateway input.gatewayNamespace input.gatewayName = some gateway)
    {route : Route} :
    AttachedInPlan input gateway route ↔ AdmittedByListener input gateway route := by
  obtain ⟨plan, hplan, hresults⟩ := exists_attachmentPlan h
  constructor
  · rintro ⟨plan', hplan', res, hres, hkind, hns, hname, hattached⟩
    obtain rfl : plan = plan' := Except.ok.inj (hplan.symm.trans hplan')
    obtain ⟨ctx, hctx, hmem⟩ := (hresults res).1 hres
    obtain ⟨hkind', hns', hname'⟩ := route_of_mem_evaluate hmem
    refine ⟨ctx, hctx, ⟨hkind'.symm.trans hkind, hns'.symm.trans hns, hname'.symm.trans hname⟩,
      exists_attached_iff.1 ⟨res, hmem, ?_⟩⟩
    rw [gateway_of_evaluated hctx]
    exact hattached
  · rintro ⟨ctx, hctx, hfor, hadmits⟩
    obtain ⟨res, hmem, hattached⟩ := exists_attached_iff.2 hadmits
    obtain ⟨hkind, hns, hname⟩ := route_of_mem_evaluate hmem
    refine ⟨plan, hplan, res, (hresults res).2 ⟨ctx, hctx, hmem⟩, hkind.trans hfor.kind,
      hns.trans hfor.ns, hname.trans hfor.name, ?_⟩
    rw [← gateway_of_evaluated hctx]
    exact hattached

/-- **Every route that contributes to a configuration is attached** exactly when every rendered
route is admitted by a listener. -/
theorem rendered_attached_iff {s : PlannerSnapshot} {gatewayNs gatewayName : String}
    {gateway : Gateway} {c : Config} (hgw : s.gateway gatewayNs gatewayName = some gateway)
    (h : configFromSnapshot gatewayNs gatewayName s = .ok c) (generation : ℤ) :
    (∀ route, Contributes (configState gatewayNs gatewayName s) c route →
        AttachedInPlan ⟨gatewayNs, gatewayName, generation, s⟩ gateway route) ↔
      ∀ route, RendersFor s gatewayNs gatewayName route →
        AdmittedByListener ⟨gatewayNs, gatewayName, generation, s⟩ gateway route := by
  refine forall_congr' fun route => ?_
  rw [contributes_iff h, attachedInPlan_iff hgw]

def infraGateway (allowedRoutes : Option AllowedRoutes) : Gateway where
  metadata := { ns := some "infra", name := some "gw" }
  spec :=
    { gatewayClassName := "wicket"
      listeners :=
        [{ name := "http", port := 80, protocol := .HTTP, allowedRoutes := allowedRoutes }] }

def teamRoute : HTTPRoute where
  metadata := { ns := some "team", name := some "web" }
  spec :=
    { parentRefs := [{ ns := some "infra", name := "gw" }, { name := "own" }]
      rules := [{ backendRefs := [⟨{ name := "web", port := some 80 }⟩] }] }
  status := some (acceptedFor "own")

def ownGateway : Gateway where
  metadata := { ns := some "team", name := some "own" }
  spec :=
    { gatewayClassName := "wicket"
      listeners := [{ name := "http", port := 80, protocol := .HTTP }] }

def infraSnapshot (allowedRoutes : Option AllowedRoutes) : PlannerSnapshot where
  gateways := KeyMap.collect [("infra/gw", infraGateway allowedRoutes), ("team/own", ownGateway)]
  httpRoutes := KeyMap.collect [("team/web", teamRoute)]

theorem liveRules_infraSnapshot (allowedRoutes : Option AllowedRoutes) :
    liveRules (configState "infra" "gw" (infraSnapshot allowedRoutes)) =
      [⟨"team/web", teamRoute, 0, { backendRefs := [⟨{ name := "web", port := some 80 }⟩] }⟩] := by
  rfl

theorem infraSnapshot_not_attached :
    ∃ c, (infraSnapshot none).gateway "infra" "gw" = some (infraGateway none) ∧
      configFromSnapshot "infra" "gw" (infraSnapshot none) = .ok c ∧
      Contributes (configState "infra" "gw" (infraSnapshot none)) c (.http teamRoute) ∧
      ¬AttachedInPlan ⟨"infra", "gw", 1, infraSnapshot none⟩ (infraGateway none)
        (.http teamRoute) := by
  have hlive := liveRules_infraSnapshot none
  obtain ⟨c, hc⟩ := exists_generateConfig.2
    (@splittable_of_timeouts (configState "infra" "gw" (infraSnapshot none))
      (by decide))
  refine ⟨c, rfl, hc, (contributes_iff hc).2 ?_, ?_⟩
  · have hr := mem_liveRules_configState.1 (hlive ▸ List.mem_singleton.2 rfl)
    exact .http hr (by decide)
  · intro hattached
    obtain ⟨ctx, hctx, -, hadmits⟩ := (attachedInPlan_iff rfl).1 hattached
    obtain ⟨res, hres, hstatus⟩ := exists_attached_iff.2 hadmits
    have hnone : ∀ res ∈ (planState ⟨"infra", "gw", 1, infraSnapshot none⟩
        (infraGateway none)).routeResults, res.status.isAttached = false := by decide
    have hmem := mem_planState.2 ⟨ctx, hctx, hres⟩
    exact absurd hstatus.status (by rw [hnone res hmem]; decide)

def allNamespaces : AllowedRoutes where
  namespaces := some { from_ := .All }

theorem infraSnapshot_attached :
    ∃ c, configFromSnapshot "infra" "gw" (infraSnapshot (some allNamespaces)) = .ok c ∧
      ∀ route, Contributes (configState "infra" "gw" (infraSnapshot (some allNamespaces))) c route →
        AttachedInPlan ⟨"infra", "gw", 1, infraSnapshot (some allNamespaces)⟩
          (infraGateway (some allNamespaces)) route := by
  have hlive := liveRules_infraSnapshot (some allNamespaces)
  obtain ⟨c, hc⟩ := exists_generateConfig.2 (splittable_of_timeouts (by rw [hlive]; decide))
  refine ⟨c, hc, (rendered_attached_iff rfl hc 1).2 ?_⟩
  intro route hrenders
  cases hrenders with
  | @http r hr _ =>
    have hmem := mem_liveRules_configState.2 hr
    rw [hlive, List.mem_singleton] at hmem
    subst hmem
    refine ⟨_, @Evaluated.http _ _ "team/web" _ { ns := some "infra", name := "gw" } rfl
      (by decide) (by decide), ⟨rfl, rfl, rfl⟩, _, ⟨List.mem_singleton.2 rfl, rfl⟩, ?_⟩
    exact ⟨rfl, rfl, rfl, fun _ => rfl⟩
  | tls hserves => exact absurd hserves.stored (by simp [infraSnapshot])
  | tcp hserves => exact absurd hserves.stored (by simp [infraSnapshot])

end Wicket
