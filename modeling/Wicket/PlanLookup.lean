/-
**Whose result a reconciler reads.**

The results of all kinds stand in one list, sorted by namespace, name and kind, and the first hit
for a namespace and a name is taken, whatever its kind.
-/

import Wicket.RouteReconcile

namespace Wicket

open List KeyMap RouteAttachmentResult PlannerSnapshot

/-! ### The results of one kind -/

def Route.evalContext (input : AttachmentPlanInput) (gateway : Gateway) :
    Route → ParentReference → RouteEvalContext
  | .http route => httpEvalContext input gateway route
  | .tcp route => tcpEvalContext input gateway route
  | .tls route => tlsEvalContext input gateway route

def PlannerSnapshot.route (s : PlannerSnapshot) (key : String) : RouteKind → Option Route
  | .HTTPRoute => (s.httpRoutes.lookup key).map .http
  | .TCPRoute => (s.tcpRoutes.lookup key).map .tcp
  | .TLSRoute => (s.tlsRoutes.lookup key).map .tls

def PlannerSnapshot.routesOf (s : PlannerSnapshot) (gatewayNs gatewayName : String) :
    RouteKind → List Route
  | .HTTPRoute => (s.httpRoutesForGateway gatewayNs gatewayName).map .http
  | .TCPRoute => (s.tcpRoutesForGateway gatewayNs gatewayName).map .tcp
  | .TLSRoute => (s.tlsRoutesForGateway gatewayNs gatewayName).map .tls

def AttachmentPlanInput.Targets (input : AttachmentPlanInput) (route : Route)
    (p : ParentReference) : Bool :=
  parentRefTargetsGateway route.metadata.planNs p input.gatewayNamespace input.gatewayName

def resultsOf (input : AttachmentPlanInput) (gateway : Gateway) (kind : RouteKind) :
    List RouteAttachmentResult :=
  (input.snapshot.routesOf input.gatewayNamespace input.gatewayName kind).flatMap fun route =>
    (route.parentRefs.filter (input.Targets route)).flatMap fun p =>
      evaluateRouteAttachmentInner (route.evalContext input gateway p)

theorem planState_routeResults (input : AttachmentPlanInput) (gateway : Gateway) :
    (planState input gateway).routeResults = resultsOf input gateway .HTTPRoute ++
      resultsOf input gateway .TCPRoute ++ resultsOf input gateway .TLSRoute := by
  simp only [planState, planRoutes_routeResults, resultsOf, routesOf, flatMap_map, nil_append]
  rfl

variable {kind kind' : RouteKind} {key sectionName : String} {input : AttachmentPlanInput}
  {s : PlannerSnapshot} {route : Route} {ns name : String} {port : Option UInt16}

theorem PlannerSnapshot.mem_routesOf {gatewayNs gatewayName : String} :
    route ∈ s.routesOf gatewayNs gatewayName kind ↔
      (∃ key, s.route key kind = some route) ∧ ∃ p ∈ route.parentRefs,
        parentRefTargetsGateway route.metadata.planNs p gatewayNs gatewayName = true := by
  cases kind
  all_goals
    simp only [routesOf, PlannerSnapshot.route, mem_map, httpRoutesForGateway,
      tcpRoutesForGateway, tlsRoutesForGateway, mem_routesForGateway, Option.map_eq_some_iff,
      routeReferencesGateway, any_eq_true]
    constructor
    · rintro ⟨r, ⟨⟨key, hkey⟩, hrefs⟩, rfl⟩
      exact ⟨⟨key, r, hkey, rfl⟩, hrefs⟩
    · rintro ⟨⟨key, r, hkey, rfl⟩, hrefs⟩
      exact ⟨r, ⟨⟨key, hkey⟩, hrefs⟩, rfl⟩

theorem PlannerSnapshot.kind_of_route (h : s.route key kind = some route) : route.kind = kind := by
  cases kind <;> obtain ⟨r, -, rfl⟩ := Option.map_eq_some_iff.1 h <;> rfl

/-! ### Evaluating a section name -/

def RouteEvalContext.sectionStatus (ctx : RouteEvalContext) (sectionName : String) :
    AttachmentStatus :=
  match ctx.gateway.spec.listeners.find? fun l => l.name == sectionName with
  | some l => if ctx.portMatches l then ctx.checkListener l else .NoMatchingParent
  | none => .NoMatchingParent

theorem evaluate_section {ctx : RouteEvalContext} (h : ctx.sectionName = some sectionName) :
    evaluateRouteAttachmentInner ctx =
      [ctx.result (some sectionName) (ctx.sectionStatus sectionName)] := by
  rw [evaluateRouteAttachmentInner, RouteEvalContext.sectionStatus, h]
  simp only
  cases hfind : ctx.gateway.spec.listeners.find? fun l => l.name == sectionName with
  | none => rfl
  | some l =>
    have hname : l.name = sectionName := by simpa using find?_some hfind
    cases hport : ctx.portMatches l <;> simp [hname, hport]

structure AnswersBy (input : AttachmentPlanInput) (kind : RouteKind) (ns name sectionName : String)
    (port : Option UInt16) (route : Route) (p : ParentReference) : Prop where
  stored : ∃ key, input.snapshot.route key kind = some route
  ns : route.metadata.planNs = ns
  name : route.metadata.planName = name
  ref : p ∈ route.parentRefs
  targets : input.Targets route p = true
  sectionName : p.sectionName = some sectionName
  port : p.port = port

def Answers (input : AttachmentPlanInput) (kind : RouteKind) (ns name sectionName : String)
    (port : Option UInt16) : Prop :=
  ∃ route p, AnswersBy input kind ns name sectionName port route p

section Lookup

variable {input : AttachmentPlanInput} {gateway : Gateway} {kind : RouteKind}
  {ns name sectionName : String} {port : Option UInt16} {r : RouteAttachmentResult}

theorem Route.evalContext_fields (input : AttachmentPlanInput) (gateway : Gateway) (route : Route)
    (p : ParentReference) :
    (route.evalContext input gateway p).sectionName = p.sectionName ∧
      (route.evalContext input gateway p).parentRefPort = p.port ∧
      (route.evalContext input gateway p).routeNamespace = route.metadata.planNs ∧
      (route.evalContext input gateway p).routeName = route.metadata.planName ∧
      (route.evalContext input gateway p).routeKind = route.kind := by
  cases route <;> exact ⟨rfl, rfl, rfl, rfl, rfl⟩

theorem mem_resultsOf_isFor :
    r ∈ resultsOf input gateway kind ∧ r.isFor ns name sectionName port = true ↔
      ∃ route p, AnswersBy input kind ns name sectionName port route p ∧
        r = (route.evalContext input gateway p).result (some sectionName)
          ((route.evalContext input gateway p).sectionStatus sectionName) := by
  simp only [resultsOf, mem_flatMap, mem_filter, mem_routesOf, isFor, Bool.and_eq_true, beq_iff_eq]
  constructor
  · rintro ⟨⟨route, ⟨hstored, -⟩, p, ⟨hp, htargets⟩, hr⟩, ⟨⟨hns, hname⟩, hsection⟩, hport⟩
    obtain ⟨fsection, fport, fns, fname, -⟩ := route.evalContext_fields input gateway p
    obtain ⟨listenerName, status, heq⟩ := eq_result_of_mem_evaluate hr
    rw [heq] at hns hname hsection hport
    refine ⟨route, p, ⟨hstored, fns.symm.trans hns, fname.symm.trans hname, hp, htargets,
      fsection.symm.trans hsection, fport.symm.trans hport⟩, ?_⟩
    rw [evaluate_section hsection] at hr
    exact mem_singleton.1 hr
  · rintro ⟨route, p, ⟨hstored, hns, hname, hp, htargets, hsection, hport⟩, rfl⟩
    obtain ⟨fsection, fport, fns, fname, -⟩ := route.evalContext_fields input gateway p
    refine ⟨⟨route, ⟨hstored, p, hp, htargets⟩, p, ⟨hp, htargets⟩, ?_⟩,
      ⟨⟨fns.trans hns, fname.trans hname⟩, fsection.trans hsection⟩, fport.trans hport⟩
    rw [evaluate_section (fsection.trans hsection)]
    exact mem_singleton.2 rfl

theorem fields_of_isFor (h : r ∈ resultsOf input gateway kind)
    (hfor : r.isFor ns name sectionName port = true) :
    r.routeKind = kind ∧ r.listenerName = some sectionName := by
  obtain ⟨route, p, hanswers, rfl⟩ := mem_resultsOf_isFor.1 ⟨h, hfor⟩
  obtain ⟨key, hkey⟩ := hanswers.stored
  obtain ⟨-, -, -, -, fkind⟩ := route.evalContext_fields input gateway p
  exact ⟨fkind.trans (kind_of_route hkey), rfl⟩

theorem cmp_of_isFor {kind' : RouteKind} {r' : RouteAttachmentResult}
    (h : r ∈ resultsOf input gateway kind) (hfor : r.isFor ns name sectionName port = true)
    (h' : r' ∈ resultsOf input gateway kind') (hfor' : r'.isFor ns name sectionName port = true)
    (hle : kind.ctorIdx ≤ kind'.ctorIdx) : (r.cmp r').isLE = true := by
  obtain ⟨hkind, hlistener⟩ := fields_of_isFor h hfor
  obtain ⟨hkind', hlistener'⟩ := fields_of_isFor h' hfor'
  simp only [isFor, Bool.and_eq_true, beq_iff_eq] at hfor hfor'
  obtain ⟨⟨⟨hns, hname⟩, -⟩, hport⟩ := hfor
  obtain ⟨⟨⟨hns', hname'⟩, -⟩, hport'⟩ := hfor'
  simp only [RouteAttachmentResult.cmp, hns, hns', hname, hname', hkind, hkind', hlistener,
    hlistener', hport, hport', Std.ReflCmp.compare_self, Ordering.eq_then, Ordering.then_eq]
  exact Nat.isLE_compare.2 hle

variable {plan : AttachmentPlan}

theorem mem_routeResults (hplan : attachmentPlan input = .ok plan)
    (hgw : input.snapshot.gateway input.gatewayNamespace input.gatewayName = some gateway) :
    r ∈ plan.routeResults ↔ ∃ kind, r ∈ resultsOf input gateway kind := by
  rw [attachmentPlan, hgw] at hplan
  cases hplan
  rw [mem_insertionSort, planState_routeResults, mem_append, mem_append]
  constructor
  · rintro ((h | h) | h) <;> exact ⟨_, h⟩
  · rintro ⟨kind, h⟩
    cases kind with
    | HTTPRoute => exact Or.inl (Or.inl h)
    | TCPRoute => exact Or.inl (Or.inr h)
    | TLSRoute => exact Or.inr h

/-- **A lookup takes HTTPRoutes before TCPRoutes before TLSRoutes.** -/
theorem resultForRouteParentRef_eq (hplan : attachmentPlan input = .ok plan)
    (hgw : input.snapshot.gateway input.gatewayNamespace input.gatewayName = some gateway) :
    plan.resultForRouteParentRef ns name sectionName port =
      (((resultsOf input gateway .HTTPRoute).find? (·.isFor ns name sectionName port)).or
        ((resultsOf input gateway .TCPRoute).find? (·.isFor ns name sectionName port))).or
        ((resultsOf input gateway .TLSRoute).find? (·.isFor ns name sectionName port)) := by
  rw [attachmentPlan, hgw] at hplan
  cases hplan
  rw [AttachmentPlan.resultForRouteParentRef, Check.find?_insertionSort, planState_routeResults,
    find?_append, find?_append]
  -- the results are collected in the order of the kinds, and hits differ in nothing else
  have hle : ∀ kind kind' : RouteKind, kind.ctorIdx ≤ kind'.ctorIdx →
      ∀ a ∈ (resultsOf input gateway kind).filter (·.isFor ns name sectionName port),
      ∀ b ∈ (resultsOf input gateway kind').filter (·.isFor ns name sectionName port),
        (a.cmp b).isLE = true := by
    intro kind kind' hkinds a ha b hb
    obtain ⟨ha, hfor⟩ := mem_filter.1 ha
    obtain ⟨hb, hfor'⟩ := mem_filter.1 hb
    exact cmp_of_isFor ha hfor hb hfor' hkinds
  have hkind := fun kind => pairwise_of_forall_mem_list (hle kind kind le_rfl)
  rw [planState_routeResults, filter_append, filter_append]
  refine pairwise_append.2 ⟨pairwise_append.2 ⟨hkind _, hkind _, ?_⟩, hkind _, ?_⟩
  · exact hle _ _ (by decide)
  · intro a ha b hb
    rcases mem_append.1 ha with ha | ha
    · exact hle _ _ (by decide) a ha b hb
    · exact hle _ _ (by decide) a ha b hb

theorem find?_resultsOf_eq_none :
    (resultsOf input gateway kind).find? (·.isFor ns name sectionName port) = none ↔
      ¬Answers input kind ns name sectionName port := by
  rw [find?_eq_none]
  constructor
  · rintro h ⟨route, p, hanswers⟩
    obtain ⟨hmem, hfor⟩ := mem_resultsOf_isFor.2 ⟨route, p, hanswers, rfl⟩
    exact h _ hmem hfor
  · intro h r hr hfor
    obtain ⟨route, p, hanswers, -⟩ := mem_resultsOf_isFor.1 ⟨hr, hfor⟩
    exact h ⟨route, p, hanswers⟩

theorem first_of_resultForRouteParentRef (hplan : attachmentPlan input = .ok plan)
    (hgw : input.snapshot.gateway input.gatewayNamespace input.gatewayName = some gateway)
    (hr : plan.resultForRouteParentRef ns name sectionName port = some r) :
    Answers input r.routeKind ns name sectionName port ∧
      ∀ kind, Answers input kind ns name sectionName port → r.routeKind.ctorIdx ≤ kind.ctorIdx := by
  have hfound : ∀ kind, (resultsOf input gateway kind).find? (·.isFor ns name sectionName port) =
      some r → r.routeKind = kind ∧ Answers input r.routeKind ns name sectionName port := by
    intro kind hfind
    have hmem := mem_of_find?_eq_some hfind
    have hfor : r.isFor ns name sectionName port = true := find?_some hfind
    obtain ⟨hkind, -⟩ := fields_of_isFor hmem hfor
    obtain ⟨route, p, hanswers, -⟩ := mem_resultsOf_isFor.1 ⟨hmem, hfor⟩
    exact ⟨hkind, route, p, hkind ▸ hanswers⟩
  rw [resultForRouteParentRef_eq hplan hgw, Option.or_eq_some_iff, Option.or_eq_some_iff] at hr
  rcases hr with (hhttp | ⟨hhttp, htcp⟩) | ⟨hnone, htls⟩
  · obtain ⟨hkind, hanswers⟩ := hfound _ hhttp
    exact ⟨hanswers, fun kind _ => by rw [hkind]; exact Nat.zero_le _⟩
  · obtain ⟨hkind, hanswers⟩ := hfound _ htcp
    refine ⟨hanswers, fun kind hkind' => ?_⟩
    rw [hkind]
    cases kind with
    | HTTPRoute => exact absurd hkind' (find?_resultsOf_eq_none.1 hhttp)
    | TCPRoute | TLSRoute => decide
  · obtain ⟨hkind, hanswers⟩ := hfound _ htls
    obtain ⟨hhttp, htcp⟩ := Option.or_eq_none_iff.1 hnone
    refine ⟨hanswers, fun kind hkind' => ?_⟩
    rw [hkind]
    cases kind with
    | HTTPRoute => exact absurd hkind' (find?_resultsOf_eq_none.1 hhttp)
    | TCPRoute => exact absurd hkind' (find?_resultsOf_eq_none.1 htcp)
    | TLSRoute => exact le_rfl

theorem resultForRouteParentRef_eq_own (hplan : attachmentPlan input = .ok plan)
    (hgw : input.snapshot.gateway input.gatewayNamespace input.gatewayName = some gateway)
    (hfirst : ∀ kind', Answers input kind' ns name sectionName port →
      Answers input kind ns name sectionName port ∧ kind.ctorIdx ≤ kind'.ctorIdx) :
    plan.resultForRouteParentRef ns name sectionName port =
      (resultsOf input gateway kind).find? (·.isFor ns name sectionName port) := by
  have hlower : ∀ kind', kind'.ctorIdx < kind.ctorIdx →
      (resultsOf input gateway kind').find? (·.isFor ns name sectionName port) = none :=
    fun kind' hlt => find?_resultsOf_eq_none.2 fun h => absurd (hfirst kind' h).2 (by omega)
  have hother : (resultsOf input gateway kind).find? (·.isFor ns name sectionName port) = none →
      ∀ kind', (resultsOf input gateway kind').find? (·.isFor ns name sectionName port) = none :=
    fun hnone kind' => find?_resultsOf_eq_none.2 fun h =>
      find?_resultsOf_eq_none.1 hnone (hfirst kind' h).1
  rw [resultForRouteParentRef_eq hplan hgw]
  cases hown : (resultsOf input gateway kind).find? (·.isFor ns name sectionName port) with
  | none => rw [hother hown, hother hown, hother hown]; rfl
  | some r =>
    cases kind with
    | HTTPRoute => rw [hown]; rfl
    | TCPRoute => rw [hlower .HTTPRoute (by decide), hown]; rfl
    | TLSRoute => rw [hlower .HTTPRoute (by decide), hlower .TCPRoute (by decide), hown]; rfl

end Lookup

/-! ### Routes of other kinds -/

def PlannerSnapshot.without (s : PlannerSnapshot) (key : String) : RouteKind → PlannerSnapshot
  | .HTTPRoute => { s with httpRoutes := s.httpRoutes.erase key }
  | .TCPRoute => { s with tcpRoutes := s.tcpRoutes.erase key }
  | .TLSRoute => { s with tlsRoutes := s.tlsRoutes.erase key }

def AttachmentPlanInput.onSnapshot (input : AttachmentPlanInput) (s : PlannerSnapshot) :
    AttachmentPlanInput :=
  { input with snapshot := s }

/-- What the reconciler reads is about a route of its kind, and its `Accepted` condition does not
depend on the presence of a route of another kind. -/
structure ReadsOwnKind (input : AttachmentPlanInput) (plan : AttachmentPlan) (route : Route)
    (sectionName : String) (port : Option UInt16) : Prop where
  kind : ∀ r, plan.resultForRouteParentRef (route.metadata.ns.getD "") (route.metadata.name.getD "")
    sectionName port = some r → r.routeKind = route.kind
  unaffected : ∀ key other, other.kind ≠ route.kind → other.metadata.ns = route.metadata.ns →
    other.metadata.name = route.metadata.name →
    input.snapshot.route key other.kind = some other →
    ∃ plan', attachmentPlan (input.onSnapshot (input.snapshot.without key other.kind)) = .ok plan' ∧
      ∀ gateway, (conditionFromPlan route.kind.reconciler.compat plan' gateway
          (route.metadata.ns.getD "") (route.metadata.name.getD "") sectionName port).1 =
        (conditionFromPlan route.kind.reconciler.compat plan gateway
          (route.metadata.ns.getD "") (route.metadata.name.getD "") sectionName port).1

theorem Route.evaluate_onSnapshot {s' : PlannerSnapshot} (h : input.snapshot.SamePolicies s')
    (gateway : Gateway) (route : Route) (p : ParentReference) :
    evaluateRouteAttachmentInner (route.evalContext (input.onSnapshot s') gateway p) =
      evaluateRouteAttachmentInner (route.evalContext input gateway p) := by
  cases route with
  | http r => exact @evaluate_congr (httpEvalContext input gateway r p) s' h
  | tcp r => exact @evaluate_congr (tcpEvalContext input gateway r p) s' h
  | tls r => exact @evaluate_congr (tlsEvalContext input gateway r p) s' h

theorem resultsOf_without (input : AttachmentPlanInput) (gateway : Gateway) (key : String)
    (h : kind' ≠ kind) :
    resultsOf (input.onSnapshot (input.snapshot.without key kind')) gateway kind =
      resultsOf input gateway kind := by
  have hroutes : (input.snapshot.without key kind').routesOf input.gatewayNamespace
      input.gatewayName kind = input.snapshot.routesOf input.gatewayNamespace input.gatewayName
        kind := by
    cases kind <;> cases kind' <;> first | rfl | exact absurd rfl h
  have hpolicies : input.snapshot.SamePolicies (input.snapshot.without key kind') := by
    cases kind' <;> exact ⟨fun _ => rfl, rfl, fun _ => rfl⟩
  simp only [resultsOf, Route.evaluate_onSnapshot hpolicies]
  exact congrArg (flatMap _) hroutes

theorem Answers.of_without
    (h : Answers (input.onSnapshot (input.snapshot.without key kind')) kind ns name sectionName
      port) : Answers input kind ns name sectionName port := by
  obtain ⟨route, p, ⟨key', hstored⟩, hns, hname, hp, htargets, hsection, hport⟩ := h
  refine ⟨route, p, ⟨⟨key', ?_⟩, hns, hname, hp, htargets, hsection, hport⟩⟩
  cases kind <;> cases kind' <;> first
    | exact hstored
    | obtain ⟨r, hr, rfl⟩ := Option.map_eq_some_iff.1 hstored
      exact Option.map_eq_some_iff.2 ⟨r, lookup_of_lookup_erase hr, rfl⟩

theorem Answers.without (gateway : Gateway) (hne : kind' ≠ kind)
    (h : Answers input kind ns name sectionName port) :
    Answers (input.onSnapshot (input.snapshot.without key kind')) kind ns name sectionName
      port := by
  revert h
  contrapose
  rw [← @find?_resultsOf_eq_none _ gateway, ← @find?_resultsOf_eq_none _ gateway,
    resultsOf_without input gateway key hne]
  exact id

theorem gateway_of_attachmentPlan {plan : AttachmentPlan} (h : attachmentPlan input = .ok plan) :
    ∃ gateway, input.snapshot.gateway input.gatewayNamespace input.gatewayName = some gateway := by
  rw [attachmentPlan] at h
  split at h
  · cases h
  · exact ⟨_, ‹_›⟩

/-- **A reconciler reads results of its own kind** exactly when its kind is the first that answers,
or none does. -/
theorem readsOwnKind_iff {input : AttachmentPlanInput} {plan : AttachmentPlan}
    (hplan : attachmentPlan input = .ok plan) (route : Route) (sectionName : String)
    (port : Option UInt16) :
    ReadsOwnKind input plan route sectionName port ↔
      ∀ kind, Answers input kind (route.metadata.ns.getD "") (route.metadata.name.getD "")
          sectionName port →
        Answers input route.kind (route.metadata.ns.getD "") (route.metadata.name.getD "")
          sectionName port ∧ route.kind.ctorIdx ≤ kind.ctorIdx := by
  obtain ⟨gateway, hgw⟩ := gateway_of_attachmentPlan hplan
  constructor
  · intro h kind hanswers
    cases hr : plan.resultForRouteParentRef (route.metadata.ns.getD "")
        (route.metadata.name.getD "") sectionName port with
    | none =>
      rw [resultForRouteParentRef_eq hplan hgw, Option.or_eq_none_iff, Option.or_eq_none_iff] at hr
      obtain ⟨⟨hhttp, htcp⟩, htls⟩ := hr
      have hnone : (resultsOf input gateway kind).find? (·.isFor (route.metadata.ns.getD "")
          (route.metadata.name.getD "") sectionName port) = none := by
        cases kind <;> assumption
      exact absurd hanswers (find?_resultsOf_eq_none.1 hnone)
    | some r =>
      obtain ⟨hfirst, hle⟩ := first_of_resultForRouteParentRef hplan hgw hr
      rw [h.kind r hr] at hfirst hle
      exact ⟨hfirst, hle kind hanswers⟩
  · intro h
    have hown := resultForRouteParentRef_eq_own hplan hgw h
    refine ⟨fun r hr => ?_, fun key other hother _ _ _ => ?_⟩
    · rw [hown] at hr
      have hfor : r.isFor _ _ sectionName port = true := List.find?_some hr
      exact (fields_of_isFor (List.mem_of_find?_eq_some hr) hfor).1
    · -- without the other route the kind of the route is still the first that answers
      have hgw' : (input.snapshot.without key other.kind).gateway input.gatewayNamespace
          input.gatewayName = some gateway := by
        cases other.kind <;> exact hgw
      obtain ⟨plan', hplan', -⟩ := @exists_attachmentPlan
        (input.onSnapshot (input.snapshot.without key other.kind)) _ hgw'
      have hown' := resultForRouteParentRef_eq_own hplan' hgw' fun kind hkind =>
        ⟨(h kind hkind.of_without).1.without gateway hother, (h kind hkind.of_without).2⟩
      refine ⟨plan', hplan', fun gateway' => ?_⟩
      rw [conditionFromPlan, conditionFromPlan, hown', resultsOf_without input gateway key hother,
        hown]

def edgeGateway : Gateway where
  metadata := { ns := some "infra", name := some "edge" }
  spec :=
    { gatewayClassName := "wicket"
      listeners := [{ name := "tcp", port := 9000, protocol := .TCP }] }

def edgeHttpRoute : HTTPRoute where
  metadata := { ns := some "infra", name := some "api" }
  spec := { parentRefs := [{ name := "edge", sectionName := some "tcp" }] }

def edgeTcpRoute : TCPRoute where
  metadata := { ns := some "infra", name := some "api" }
  spec := { parentRefs := [{ name := "edge", sectionName := some "tcp" }] }

def edgeInput : AttachmentPlanInput where
  gatewayNamespace := "infra"
  gatewayName := "edge"
  gatewayGeneration := 1
  snapshot :=
    { gateways := collect [("infra/edge", edgeGateway)]
      httpRoutes := collect [("infra/api", edgeHttpRoute)]
      tcpRoutes := collect [("infra/api", edgeTcpRoute)] }

theorem edgeTcpRoute_reads_other :
    ∃ plan plan', attachmentPlan edgeInput = .ok plan ∧
      attachmentPlan (edgeInput.onSnapshot (edgeInput.snapshot.without "infra/api" .HTTPRoute)) =
        .ok plan' ∧
      (conditionFromPlan tcpReconciler.compat plan edgeGateway "infra" "api" "tcp" none).1 =
        .new "Accepted" false "NotAllowedByListenerProtocol"
          "Route kind is not compatible with the listener protocol" ∧
      (conditionFromPlan tcpReconciler.compat plan' edgeGateway "infra" "api" "tcp" none).1 =
        .accepted ∧
      ¬ReadsOwnKind edgeInput plan (.tcp edgeTcpRoute) "tcp" none := by
  refine ⟨_, _, rfl, rfl, by decide, by decide, fun h => ?_⟩
  exact absurd (h.kind _ rfl) (by decide)

theorem edgeHttpRoute_reads_own :
    ∃ plan, attachmentPlan edgeInput = .ok plan ∧
      ReadsOwnKind edgeInput plan (.http edgeHttpRoute) "tcp" none := by
  refine ⟨_, rfl, (readsOwnKind_iff rfl (.http edgeHttpRoute) "tcp" none).2 ?_⟩
  intro kind _
  refine ⟨⟨.http edgeHttpRoute, { name := "edge", sectionName := some "tcp" }, ?_⟩, Nat.zero_le _⟩
  exact ⟨⟨"infra/api", rfl⟩, rfl, rfl, by decide, by decide, rfl, rfl⟩

end Wicket
