/-
**References to a whole Gateway.**

The reconcilers do not plan a parent reference without a section name: a listener of the right
protocol and port is enough.  The planner evaluates it against every listener.
-/

import Wicket.PlanLookup

namespace Wicket

open Condition AttachmentStatus List

/-! ### What the planner finds -/

section Findings

variable (input : AttachmentPlanInput) (route : Route) (p : ParentReference)

/-- A result of the plan for this parent reference. -/
structure PlannedResult (gateway : Gateway) (res : RouteAttachmentResult) : Prop where
  stored : input.snapshot.gateway input.gatewayNamespace input.gatewayName = some gateway
  planned : ∃ plan, attachmentPlan input = .ok plan ∧ res ∈ plan.routeResults
  evaluated : res ∈ evaluateRouteAttachmentInner (route.evalContext input gateway p)

/-- The plan attaches the route to a listener through this reference. -/
def AttachesThrough : Prop :=
  ∃ gateway res, PlannedResult input route p gateway res ∧ res.AttachedTo gateway

/-- No result that attaches the route through the parent reference reports a reference that is not
permitted or a missing backend. -/
def ResolvedThrough : Prop :=
  ∀ gateway res, PlannedResult input route p gateway res → res.AttachedTo gateway →
    res.status.resolvedRefsReason = none

variable {input route p}

variable {gateway : Gateway} {key routeKindStr routeNs : String} {s : PlannerSnapshot}

theorem Route.evaluated (hstored : input.snapshot.route key route.kind = some route)
    (hp : p ∈ route.parentRefs) (htargets : input.Targets route p = true) :
    Evaluated input gateway (route.evalContext input gateway p) := by
  cases route with
  | http r =>
    obtain ⟨_, hr, ⟨⟩⟩ := Option.map_eq_some_iff.1 hstored
    exact .http hr hp htargets
  | tcp r =>
    obtain ⟨_, hr, ⟨⟩⟩ := Option.map_eq_some_iff.1 hstored
    exact .tcp hr hp htargets
  | tls r =>
    obtain ⟨_, hr, ⟨⟩⟩ := Option.map_eq_some_iff.1 hstored
    exact .tls hr hp htargets

theorem plannedResult_iff (hstored : input.snapshot.route key route.kind = some route)
    (hp : p ∈ route.parentRefs) (htargets : input.Targets route p = true)
    {res : RouteAttachmentResult} :
    PlannedResult input route p gateway res ↔
      input.snapshot.gateway input.gatewayNamespace input.gatewayName = some gateway ∧
        res ∈ evaluateRouteAttachmentInner (route.evalContext input gateway p) := by
  constructor
  · intro h
    exact ⟨h.stored, h.evaluated⟩
  · rintro ⟨hgw, hres⟩
    obtain ⟨plan, hplan, hresults⟩ := exists_attachmentPlan hgw
    exact ⟨hgw, ⟨plan, hplan, (hresults res).2 ⟨_, Route.evaluated hstored hp htargets, hres⟩⟩,
      hres⟩

def AdmittedThrough (input : AttachmentPlanInput) (route : Route) (p : ParentReference) : Prop :=
  ∃ gateway l, input.snapshot.gateway input.gatewayNamespace input.gatewayName = some gateway ∧
    (route.evalContext input gateway p).Selects l ∧ (route.evalContext input gateway p).Admits l

theorem Route.evalContext_gateway (gateway : Gateway) :
    (route.evalContext input gateway p).gateway = gateway := by
  cases route <;> rfl

theorem attachesThrough_iff {key : String}
    (hstored : input.snapshot.route key route.kind = some route) (hp : p ∈ route.parentRefs)
    (htargets : input.Targets route p = true) :
    AttachesThrough input route p ↔ AdmittedThrough input route p := by
  simp only [AttachesThrough, AdmittedThrough, plannedResult_iff hstored hp htargets]
  refine exists_congr fun gateway => ?_
  have hattached := @exists_attached_iff (route.evalContext input gateway p)
  rw [Route.evalContext_gateway] at hattached
  constructor
  · rintro ⟨res, ⟨hgw, hres⟩, hto⟩
    obtain ⟨l, hl⟩ := hattached.1 ⟨res, hres, hto⟩
    exact ⟨l, hgw, hl⟩
  · rintro ⟨l, hgw, hl⟩
    obtain ⟨res, hres, hto⟩ := hattached.2 ⟨l, hl⟩
    exact ⟨res, ⟨hgw, hres⟩, hto⟩

theorem resolvedRefsReason_of_unresolved {b : BackendRef} {status : AttachmentStatus}
    (h : unresolvedBackendRef s routeKindStr routeNs b = some status) :
    status.resolvedRefsReason ≠ none := by
  obtain ⟨-, ⟨-, -, rfl⟩ | ⟨-, -, rfl⟩⟩ := unresolvedBackendRef_cases h
  · simp [resolvedRefsReason]
  · simp [resolvedRefsReason]

theorem resolvedRefsReason_firstUnresolved {refs : List BackendRef} :
    ((firstUnresolvedBackendRefForKind s routeKindStr routeNs refs).getD
        .Attached).resolvedRefsReason = none ↔
      ∀ b ∈ refs, unresolvedBackendRef s routeKindStr routeNs b = none := by
  rw [← findSome?_eq_none_iff, firstUnresolvedBackendRefForKind]
  cases hfirst : refs.findSome? (unresolvedBackendRef s routeKindStr routeNs) with
  | none => simp [resolvedRefsReason]
  | some status =>
    obtain ⟨b, -, hb⟩ := exists_of_findSome?_eq_some hfirst
    simp [resolvedRefsReason_of_unresolved hb]

theorem resolvedThrough_iff (hstored : input.snapshot.route key route.kind = some route)
    (hp : p ∈ route.parentRefs) (htargets : input.Targets route p = true) :
    ResolvedThrough input route p ↔ (AdmittedThrough input route p → ∀ b ∈ route.backendRefs,
      unresolvedBackendRef input.snapshot route.kind.asStr route.metadata.planNs b = none) := by
  have hrefs : ∀ (gateway : Gateway) (l : Listener), (route.evalContext input gateway p).Admits l →
      (((route.evalContext input gateway p).checkListener l).resolvedRefsReason = none ↔
        ∀ b ∈ route.backendRefs,
          unresolvedBackendRef input.snapshot route.kind.asStr route.metadata.planNs b = none) := by
    intro gateway l hadmits
    rw [hadmits.checkListener, resolvedRefsReason_firstUnresolved]
    cases route <;> rfl
  simp only [ResolvedThrough, plannedResult_iff hstored hp htargets]
  constructor
  · rintro h ⟨gateway, l, hgw, hselects, hadmits⟩
    obtain ⟨hmem, hattached⟩ := mem_evaluate_attached.2 ⟨l, hselects, hadmits, rfl⟩
    refine (hrefs gateway l hadmits).1 (h gateway _ ⟨hgw, hmem⟩ ⟨hattached, l, ?_, rfl⟩)
    have hl := hselects.mem
    rwa [Route.evalContext_gateway] at hl
  · rintro h gateway res ⟨hgw, hres⟩ hto
    obtain ⟨l, hselects, hadmits, rfl⟩ := mem_evaluate_attached.1 ⟨hres, hto.status⟩
    exact (hrefs gateway l hadmits).2 (h ⟨gateway, l, hgw, hselects, hadmits⟩)

end Findings

/-! ### What the reconciler reports -/

/-- What the status says about a reference without a section is what the plan says. -/
structure WideRefSound (snapshot : PlannerSnapshot) (route : Route) (p : ParentReference)
    (gateway : Gateway) (status : RouteStatus) : Prop where
  accepted : status.Reports p "Accepted" "True" →
    AttachesThrough (attachmentPlanInput snapshot gateway.cacheKey) route p
  resolved : route.kind = .HTTPRoute → status.Reports p "ResolvedRefs" "True" →
    ResolvedThrough (attachmentPlanInput snapshot gateway.cacheKey) route p

/-- All that the reconciler looks at: the protocol and the port of a listener. -/
def HasCompatibleListener (route : Route) (p : ParentReference) (gateway : Gateway) : Prop :=
  ∃ l ∈ gateway.spec.listeners, route.kind.reconciler.compat l.protocol = true ∧
    (p.port.all fun port => l.port == port) = true

theorem gatewayWide_accepted {compat : ProtocolType → Bool} {reason message : String}
    {gateway : Gateway} {port : Option UInt16} :
    (gatewayWideConditionFromSpec compat reason message gateway port).status = "True" ↔
      ∃ l ∈ gateway.spec.listeners, compat l.protocol = true ∧
        (port.all fun p => l.port == p) = true := by
  rw [gatewayWideConditionFromSpec]
  split
  · rename_i hany
    simpa [accepted, new, any_eq_true] using hany
  · rename_i hany
    simpa [new, any_eq_true] using hany

theorem RouteKind.reports_accepted (kind : RouteKind) (generation : Option ℤ) {e : Condition}
    (htype : e.type = "Accepted") :
    (∃ c ∈ kind.reconciler.conditions generation e none, c.type = "Accepted" ∧ c.status = "True") ↔
      e.status = "True" := by
  have hstream : (∃ c ∈ streamRouteConditions e, c.type = "Accepted" ∧ c.status = "True") ↔
      e.status = "True" := by
    rw [streamRouteConditions]
    split <;> simp_all [resolvedRefs, new]
  cases kind with
  | HTTPRoute =>
    simp [RouteKind.reconciler, httpReconciler, withObservedGeneration, resolvedRefs, new, htype]
  | TCPRoute | TLSRoute => exact hstream

theorem httpReconciler_reports_resolved (generation : Option ℤ) (e : Condition) :
    ∃ c ∈ httpReconciler.conditions generation e none,
      c.type = "ResolvedRefs" ∧ c.status = "True" :=
  ⟨_, mem_cons_of_mem _ (mem_singleton.2 rfl), rfl, rfl⟩

theorem ManagedParent.targets {api : ClusterApi} {route : Route} {p : ParentReference}
    {gateway : Gateway} (h : ManagedParent api route p gateway) {key : String}
    (hkeyed : route.metadata.KeyedBy key) (snapshot : PlannerSnapshot) :
    (attachmentPlanInput snapshot gateway.cacheKey).Targets route p = true := by
  obtain ⟨ns, name, hns, -, -⟩ := hkeyed
  have hgroup : (p.group == "" || p.group == gatewayApiGroup) = true := by
    simpa using h.group
  simp [AttachmentPlanInput.Targets, parentRefTargetsGateway, attachmentPlanInput,
    Gateway.cacheKey, ObjectMeta.planNs, h.ns, h.name, h.kind, hgroup, hns]

/-- **What is reported for a whole Gateway is what the planner finds** exactly when a listener of
its protocol admits the route, and the backends of an admitted HTTPRoute are resolved. -/
theorem wideRefSound_iff {api : ClusterApi} {s s' : SharedStore} {snapshot : PlannerSnapshot}
    {route : Route} {key : String} {p : ParentReference} {gateway : Gateway} {o : RouteOutcome}
    {status : RouteStatus} (hready : s.plannerSnapshot = .Ready snapshot)
    (hstored : s.inner.Stores key route) (hkeyed : route.metadata.KeyedBy key)
    (hp : p ∈ route.parentRefs) (hwide : p.sectionName = none)
    (hparent : ManagedParent api route p gateway)
    (hrec : reconcileRoute api s route = .ok (s', o)) (hstatus : o.status = some status) :
    WideRefSound snapshot route p gateway status ↔
      (HasCompatibleListener route p gateway →
        AdmittedThrough (attachmentPlanInput snapshot gateway.cacheKey) route p) ∧
      (route.kind = .HTTPRoute →
        AdmittedThrough (attachmentPlanInput snapshot gateway.cacheKey) route p →
        ∀ b ∈ route.backendRefs,
          unresolvedBackendRef snapshot route.kind.asStr route.metadata.planNs b = none) := by
  have hroute : (attachmentPlanInput snapshot gateway.cacheKey).snapshot.route key route.kind =
      some route := by
    rw [SharedStore.plannerSnapshot] at hready
    split at hready
    · cases hready
    · cases hready
      cases route <;> exact Option.map_eq_some_iff.2 ⟨_, hstored, rfl⟩
  have htargets := hparent.targets hkeyed snapshot
  -- the conditions of the parent reference do not depend on the store
  rw [reconcileRoute_eq] at hrec
  obtain ⟨_, hout, hpair⟩ := Check.map_eq_ok.1 hrec
  cases hpair
  obtain ⟨c, hc, rfl⟩ := RouteReconciler.hasConditions_of_outcome hout hstatus
  have hcp : c p = (gatewayWideConditionFromSpec route.kind.reconciler.compat
      route.kind.reconciler.gatewayWideReason route.kind.reconciler.gatewayWideMessage gateway
      p.port, none) := by
    have heq := hc p hp
    rw [hparent.parentConditions, RouteReconciler.managedConditions, hwide] at heq
    exact (Except.ok.inj heq).symm
  have haccepted : (route.kind.reconciler.statusOf route c).Reports p "Accepted" "True" ↔
      HasCompatibleListener route p gateway := by
    rw [RouteReconciler.reports_statusOf hp, hcp, RouteKind.reports_accepted, gatewayWide_accepted]
    · rfl
    · rw [gatewayWideConditionFromSpec]
      split <;> rfl
  have hresolved : route.kind = .HTTPRoute →
      (route.kind.reconciler.statusOf route c).Reports p "ResolvedRefs" "True" := by
    intro hkind
    rw [RouteReconciler.reports_statusOf hp, hcp, hkind]
    exact httpReconciler_reports_resolved _ _
  constructor
  · intro h
    refine ⟨fun hlistener => ?_, fun hkind => ?_⟩
    · exact (attachesThrough_iff hroute hp htargets).1 (h.accepted (haccepted.2 hlistener))
    · exact (resolvedThrough_iff hroute hp htargets).1 (h.resolved hkind (hresolved hkind))
  · rintro ⟨hadmitted, hbackends⟩
    refine ⟨fun h => ?_, fun hkind _ => ?_⟩
    · exact (attachesThrough_iff hroute hp htargets).2 (hadmitted (haccepted.1 h))
    · exact (resolvedThrough_iff hroute hp htargets).2 (hbackends hkind)

def sharedGateway (allowedRoutes : Option AllowedRoutes) : Gateway where
  metadata := { ns := some "infra", name := some "shared" }
  spec :=
    { gatewayClassName := "wicket"
      listeners :=
        [{ name := "http", port := 80, protocol := .HTTP, allowedRoutes := allowedRoutes }] }

def sharedRef : ParentReference := { ns := some "infra", name := "shared" }

def visitorRoute : HTTPRoute where
  metadata := { ns := some "team", name := some "visitor" }
  spec :=
    { parentRefs := [sharedRef]
      rules := [{ backendRefs := [⟨{ name := "web", port := some 80 }⟩] }] }

def visitorStore (allowedRoutes : Option AllowedRoutes) : SharedStore where
  inner :=
    { gateways := KeyMap.collect [("infra/shared", sharedGateway allowedRoutes)]
      httpRoutes := KeyMap.collect [("team/visitor", visitorRoute)]
      servicePresence := {"team/web"}
      phase := .Ready }

def visitorApi (allowedRoutes : Option AllowedRoutes) : ClusterApi where
  gateway ns name :=
    if ns = "infra" ∧ name = "shared" then .found (sharedGateway allowedRoutes) else .notFound
  gatewayClass _ := .found
    { metadata := { ns := none, name := some "wicket" }, controllerName := wicketControllerName }

theorem visitor_managedParent (allowedRoutes : Option AllowedRoutes) :
    ManagedParent (visitorApi allowedRoutes) (.http visitorRoute) sharedRef
      (sharedGateway allowedRoutes) :=
  ⟨⟨rfl, _, rfl, rfl⟩, Or.inr rfl, rfl, rfl, rfl⟩

theorem visitorRoute_accepted_unattached :
    ∃ s' o status,
      reconcileRoute (visitorApi none) (visitorStore none) (.http visitorRoute) = .ok (s', o) ∧
      o.status = some status ∧ status.Reports sharedRef "Accepted" "True" ∧
      ¬WideRefSound (visitorStore none).snapshot (.http visitorRoute) sharedRef
        (sharedGateway none) status := by
  refine ⟨_, _, _, rfl, rfl, ?_, fun h => ?_⟩
  · exact ⟨_, List.mem_singleton.2 rfl, rfl, _, List.mem_cons_self, rfl, rfl⟩
  · have hattaches := h.accepted ⟨_, List.mem_singleton.2 rfl, rfl, _, List.mem_cons_self, rfl, rfl⟩
    obtain ⟨gateway, l, hgw, hselects, hadmits⟩ :=
      (@attachesThrough_iff _ _ _ "team/visitor" rfl (List.mem_singleton.2 rfl) rfl).1 hattaches
    cases hgw
    obtain rfl := List.mem_singleton.1 hselects.mem
    exact absurd hadmits.ns (by decide)

def openToAll : AllowedRoutes where
  namespaces := some { from_ := .All }

theorem visitorRoute_accepted_attached :
    ∃ s' o status,
      reconcileRoute (visitorApi (some openToAll)) (visitorStore (some openToAll))
        (.http visitorRoute) = .ok (s', o) ∧ o.status = some status ∧
      WideRefSound (visitorStore (some openToAll)).snapshot
        (.http visitorRoute) sharedRef (sharedGateway (some openToAll)) status := by
  have hstored : (visitorStore (some openToAll)).inner.Stores "team/visitor"
      (.http visitorRoute) := rfl
  refine ⟨_, _, _, rfl, rfl, (wideRefSound_iff rfl hstored ⟨"team", "visitor", rfl, rfl, rfl⟩
    (List.mem_singleton.2 rfl) rfl (visitor_managedParent (some openToAll)) rfl rfl).2
    ⟨fun _ => ?_, fun _ _ => ?_⟩⟩
  · exact ⟨_, _, rfl, ⟨List.mem_singleton.2 rfl, rfl⟩, rfl, rfl, rfl, fun _ => rfl⟩
  · decide

end Wicket
