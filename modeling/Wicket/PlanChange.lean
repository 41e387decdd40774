/-
**When two snapshots have different plans.**

With the same Gateways, routes and labels the planner makes the same evaluations in the same order;
only the reported status may differ.
-/

import Wicket.Attachment

namespace Wicket

open List RouteEvalContext PlannerSnapshot

open KeyMap (HashMap)

structure PlannerSnapshot.SameObjects (s s' : PlannerSnapshot) : Prop where
  gateways : s'.gateways = s.gateways
  http : s'.httpRoutes = s.httpRoutes
  tcp : s'.tcpRoutes = s.tcpRoutes
  tls : s'.tlsRoutes = s.tlsRoutes
  labels : s'.namespaceLabels = s.namespaceLabels

/-! ### What is found about one reference -/

def BackendRef.serviceKey (b : BackendRef) (routeNs : String) : String :=
  GatewayState.key (b.nsOr routeNs) b.name

section Reference

variable {s : PlannerSnapshot} {routeKindStr routeNs : String} {b : BackendRef}

theorem unresolvedBackendRef_of_other (hother : b.isCoreService = false) :
    unresolvedBackendRef s routeKindStr routeNs b = none := by
  rw [unresolvedBackendRef, hother]
  rfl

theorem unresolvedBackendRef_of_stays (hcore : b.isCoreService = true)
    (hstays : b.nsOr routeNs = routeNs) :
    unresolvedBackendRef s routeKindStr routeNs b =
      if b.serviceKey routeNs ∈ s.servicePresence then none
      else some (.BackendNotFound routeNs (b.nsOr routeNs) b.name) := by
  rw [unresolvedBackendRef, hcore, beq_iff_eq.2 hstays, BackendRef.serviceKey]
  by_cases hmem : GatewayState.key (b.nsOr routeNs) b.name ∈ s.servicePresence <;> simp [hmem]

theorem unresolvedBackendRef_of_leaves (hcore : b.isCoreService = true)
    (hleaves : b.nsOr routeNs ≠ routeNs) :
    unresolvedBackendRef s routeKindStr routeNs b =
      if backendRefPermitted s routeKindStr routeNs b then none
      else some (.RefNotPermitted routeNs (b.nsOr routeNs) b.name) := by
  rw [unresolvedBackendRef, hcore, beq_eq_false_iff_ne.2 hleaves]
  cases backendRefPermitted s routeKindStr routeNs b <;> rfl

end Reference

/-! ### The places of an evaluation -/

namespace RouteEvalContext

def on (ctx : RouteEvalContext) (s : PlannerSnapshot) : RouteEvalContext :=
  { ctx with snapshot := s }

/-- The listeners an evaluation reports on, each with the name in its result; no listener when the
parent reference selects none. -/
def places (ctx : RouteEvalContext) : List (Option String × Option Listener) :=
  match ctx.sectionName with
  | some sn =>
    match ctx.gateway.spec.listeners.find? fun l => l.name == sn with
    | some l => if ctx.portMatches l then [(some l.name, some l)] else [(some sn, none)]
    | none => [(some sn, none)]
  | none =>
    if (ctx.gateway.spec.listeners.filter ctx.portMatches).isEmpty then [(none, none)]
    else (ctx.gateway.spec.listeners.filter ctx.portMatches).map fun l => (some l.name, some l)

def placeStatus (ctx : RouteEvalContext) : Option Listener → AttachmentStatus
  | none => .NoMatchingParent
  | some l => ctx.checkListener l

def unresolved (ctx : RouteEvalContext) : Option AttachmentStatus :=
  firstUnresolvedBackendRefForKind ctx.snapshot ctx.routeKind.asStr ctx.routeNamespace
    ctx.backendRefs

end RouteEvalContext

theorem evaluate_eq_places (ctx : RouteEvalContext) :
    evaluateRouteAttachmentInner ctx =
      ctx.places.map fun e => ctx.result e.1 (ctx.placeStatus e.2) := by
  rw [evaluateRouteAttachmentInner, places]
  cases ctx.sectionName with
  | some sn =>
    simp only
    cases ctx.gateway.spec.listeners.find? fun l => l.name == sn with
    | none => rfl
    | some l =>
      simp only
      cases ctx.portMatches l <;> rfl
  | none =>
    simp only
    split
    · rfl
    · rw [map_map]
      rfl

namespace RouteEvalContext

variable {ctx : RouteEvalContext} {s' : PlannerSnapshot} {l : Listener}

theorem mem_places {name : Option String} (h : (name, some l) ∈ ctx.places) : ctx.Selects l := by
  rw [places] at h
  cases hsection : ctx.sectionName with
  | some sn =>
    rw [hsection] at h
    simp only at h
    cases hfind : ctx.gateway.spec.listeners.find? fun l => l.name == sn with
    | none => simp [hfind] at h
    | some l' =>
      rw [hfind] at h
      simp only at h
      split at h
      · rename_i hport
        simp only [mem_singleton, Prod.mk.injEq, Option.some.injEq] at h
        obtain ⟨-, rfl⟩ := h
        exact ⟨by simpa [hsection] using hfind, hport⟩
      · simp at h
  | none =>
    rw [hsection] at h
    simp only at h
    split at h
    · simp at h
    · obtain ⟨l', hl', heq⟩ := mem_map.1 h
      obtain ⟨-, rfl⟩ := heq
      obtain ⟨hmem, hport⟩ := mem_filter.1 hl'
      exact ⟨by simpa [hsection] using hmem, hport⟩

theorem Selects.mem_places (h : ctx.Selects l) : (some l.name, some l) ∈ ctx.places := by
  rw [places]
  have hl := h.listener
  cases hsection : ctx.sectionName with
  | some sn =>
    rw [hsection] at hl
    simp [hl, h.port]
  | none =>
    have hmem : l ∈ ctx.gateway.spec.listeners.filter ctx.portMatches :=
      List.mem_filter.2 ⟨h.mem, h.port⟩
    simp only [List.isEmpty_iff, List.ne_nil_of_mem hmem, if_false]
    exact List.mem_map.2 ⟨l, hmem, rfl⟩

/-! ### The same evaluation on two snapshots -/

theorem admits_on (hlabels : s'.namespaceLabels = ctx.snapshot.namespaceLabels) :
    (ctx.on s').Admits l ↔ ctx.Admits l := by
  have hns : namespaceAllowed l.allowedRoutes ctx.gateway.gwNs ctx.routeNamespace
      s'.namespaceLabels = namespaceAllowed l.allowedRoutes ctx.gateway.gwNs ctx.routeNamespace
        ctx.snapshot.namespaceLabels := by
    rw [hlabels]
  constructor
  · rintro ⟨hprotocol, hnamespace, hkind, hhost⟩
    exact ⟨hprotocol, hns ▸ hnamespace, hkind, hhost⟩
  · rintro ⟨hprotocol, hnamespace, hkind, hhost⟩
    exact ⟨hprotocol, hns.symm ▸ hnamespace, hkind, hhost⟩

theorem checkListener_on_of_not_admits
    (hlabels : s'.namespaceLabels = ctx.snapshot.namespaceLabels) (h : ¬ctx.Admits l) :
    (ctx.on s').checkListener l = ctx.checkListener l := by
  by_contra hne
  have hprotocol : ctx.protocolCompat l.protocol = true := by
    by_contra hfalse
    exact hne (by simp [checkListener, on, hfalse])
  have hnamespace : namespaceAllowed l.allowedRoutes ctx.gateway.gwNs ctx.routeNamespace
      ctx.snapshot.namespaceLabels = true := by
    by_contra hfalse
    exact hne (by simp [checkListener, on, hlabels, hprotocol, hfalse])
  have hkind : kindAllowed l.allowedRoutes ctx.routeKind = true := by
    by_contra hfalse
    exact hne (by simp [checkListener, on, hlabels, hprotocol, hnamespace, hfalse])
  refine h ⟨hprotocol, hnamespace, hkind, fun hcheck => ?_⟩
  by_contra hfalse
  exact hne (by simp [checkListener, on, hlabels, hprotocol, hnamespace, hkind, hcheck, hfalse])

theorem checkListener_on_eq_iff (hlabels : s'.namespaceLabels = ctx.snapshot.namespaceLabels)
    (h : ctx.Admits l) :
    (ctx.on s').checkListener l = ctx.checkListener l ↔
      (ctx.on s').unresolved = ctx.unresolved := by
  rw [h.checkListener, ((admits_on hlabels).2 h).checkListener]
  -- a reference is never reported as attached
  have hne : ∀ ctx : RouteEvalContext, ctx.unresolved ≠ some .Attached := by
    intro ctx hattached
    obtain ⟨b, -, hb⟩ := exists_of_findSome?_eq_some hattached
    obtain ⟨-, ⟨-, -, hstatus⟩ | ⟨-, -, hstatus⟩⟩ := unresolvedBackendRef_cases hb
    · cases hstatus
    · cases hstatus
  change (ctx.on s').unresolved.getD .Attached = ctx.unresolved.getD .Attached ↔ _
  have hl := hne (ctx.on s')
  have hr := hne ctx
  generalize (ctx.on s').unresolved = first' at hl ⊢
  generalize ctx.unresolved = first at hr ⊢
  cases first' <;> cases first <;> simp_all [eq_comm]

theorem isAttached_placeStatus_on (hlabels : s'.namespaceLabels = ctx.snapshot.namespaceLabels)
    (l : Option Listener) :
    ((ctx.on s').placeStatus l).isAttached = (ctx.placeStatus l).isAttached := by
  cases l with
  | none => rfl
  | some l =>
    rw [Bool.eq_iff_iff, placeStatus, placeStatus, isAttached_checkListener,
      isAttached_checkListener, admits_on hlabels]

end RouteEvalContext

/-! ### The evaluations of a plan -/

def routeEvaluations {ρ : Type} (input : AttachmentPlanInput)
    (context : ρ → ParentReference → RouteEvalContext) (parentRefs : ρ → List ParentReference)
    (routes : List ρ) : List RouteEvalContext :=
  routes.flatMap fun route => ((parentRefs route).filter fun p =>
    parentRefTargetsGateway (context route p).routeNamespace p input.gatewayNamespace
      input.gatewayName).map (context route)

def planEvaluations (input : AttachmentPlanInput) (gateway : Gateway) : List RouteEvalContext :=
  routeEvaluations input (httpEvalContext input gateway) (fun r => r.spec.parentRefs)
    (input.snapshot.httpRoutesForGateway input.gatewayNamespace input.gatewayName) ++
  routeEvaluations input (tcpEvalContext input gateway) (fun r => r.spec.parentRefs)
    (input.snapshot.tcpRoutesForGateway input.gatewayNamespace input.gatewayName) ++
  routeEvaluations input (tlsEvalContext input gateway) (fun r => r.spec.parentRefs)
    (input.snapshot.tlsRoutesForGateway input.gatewayNamespace input.gatewayName)

def planEvaluation (st : PlanState) (ctx : RouteEvalContext) : PlanState where
  listenerAttached := (evaluateRouteAttachmentInner ctx).foldl (countResult ctx) st.listenerAttached
  routeResults := st.routeResults ++ evaluateRouteAttachmentInner ctx

def planStart (gateway : Gateway) : PlanState where
  listenerAttached := KeyMap.collect (gateway.spec.listeners.map fun l => (l.name, ∅))
  routeResults := []

variable {ρ : Type} {ctx : RouteEvalContext}

theorem planRoutes_eq_foldl (input : AttachmentPlanInput)
    (context : ρ → ParentReference → RouteEvalContext) (parentRefs : ρ → List ParentReference)
    (routes : List ρ) (st : PlanState) :
    planRoutes input context parentRefs routes st =
      (routeEvaluations input context parentRefs routes).foldl planEvaluation st := by
  have hrefs : ∀ route (refs : List ParentReference) (st : PlanState),
      refs.foldl (planParentRef input (context route)) st =
        ((refs.filter fun p => parentRefTargetsGateway (context route p).routeNamespace p
          input.gatewayNamespace input.gatewayName).map (context route)).foldl planEvaluation
            st := by
    intro route refs st
    rw [foldl_map, foldl_filter]
    congr 1
    funext st p
    rw [planParentRef]
    cases parentRefTargetsGateway (context route p).routeNamespace p input.gatewayNamespace
      input.gatewayName <;> rfl
  rw [planRoutes, routeEvaluations, foldl_flatMap]
  simp only [hrefs]

theorem planState_eq_foldl (input : AttachmentPlanInput) (gateway : Gateway) :
    planState input gateway =
      (planEvaluations input gateway).foldl planEvaluation (planStart gateway) := by
  simp only [planState, planRoutes_eq_foldl, planEvaluations, foldl_append]
  rfl

variable {input : AttachmentPlanInput}

theorem mem_routeEvaluations {context : ρ → ParentReference → RouteEvalContext}
    {parentRefs : ρ → List ParentReference} {routes : List ρ} :
    ctx ∈ routeEvaluations input context parentRefs routes ↔
      ∃ route ∈ routes, ∃ p ∈ parentRefs route, parentRefTargetsGateway
        (context route p).routeNamespace p input.gatewayNamespace input.gatewayName = true ∧
          ctx = context route p := by
  simp [routeEvaluations, and_assoc, eq_comm (b := ctx)]

theorem mem_planEvaluations {gateway : Gateway} :
    ctx ∈ planEvaluations input gateway ↔ Evaluated input gateway ctx := by
  simp only [planEvaluations, mem_append, mem_routeEvaluations]
  constructor
  · rintro ((⟨r, hr, p, hp, ht, rfl⟩ | ⟨r, hr, p, hp, ht, rfl⟩) | ⟨r, hr, p, hp, ht, rfl⟩) <;>
      obtain ⟨⟨key, hkey⟩, -⟩ := mem_routesForGateway.1 hr
    · exact .http hkey hp ht
    · exact .tcp hkey hp ht
    · exact .tls hkey hp ht
  · intro h
    cases h with
    | @http key r p hkey hp ht =>
      exact Or.inl (Or.inl ⟨r, mem_routesForGateway_of_targets hkey hp ht, p, hp, ht, rfl⟩)
    | @tcp key r p hkey hp ht =>
      exact Or.inl (Or.inr ⟨r, mem_routesForGateway_of_targets hkey hp ht, p, hp, ht, rfl⟩)
    | @tls key r p hkey hp ht =>
      exact Or.inr ⟨r, mem_routesForGateway_of_targets hkey hp ht, p, hp, ht, rfl⟩

def countEvaluations (attached : HashMap String (Finset String)) (ctxs : List RouteEvalContext) :
    HashMap String (Finset String) :=
  ctxs.foldl (fun attached ctx =>
    (evaluateRouteAttachmentInner ctx).foldl (countResult ctx) attached) attached

theorem foldl_planEvaluation (ctxs : List RouteEvalContext) (st : PlanState) :
    ctxs.foldl planEvaluation st =
      { listenerAttached := countEvaluations st.listenerAttached ctxs
        routeResults := st.routeResults ++ ctxs.flatMap evaluateRouteAttachmentInner } := by
  induction ctxs generalizing st with
  | nil => simp [countEvaluations]
  | cons ctx ctxs ih =>
    rw [foldl_cons, ih, planEvaluation, flatMap_cons, append_assoc]
    rfl

/-! ### Two snapshots -/

section TwoSnapshots

variable {input : AttachmentPlanInput} {s' : PlannerSnapshot} {gateway : Gateway}

theorem routeEvaluations_on {ρ : Type} (context context' : ρ → ParentReference → RouteEvalContext)
    (h : ∀ route p, context' route p = (context route p).on s')
    (parentRefs : ρ → List ParentReference) (routes : List ρ) :
    routeEvaluations { input with snapshot := s' } context' parentRefs routes =
      (routeEvaluations input context parentRefs routes).map fun ctx => ctx.on s' := by
  rw [routeEvaluations, routeEvaluations, map_flatMap]
  congr 1
  funext route
  rw [map_map, funext (h route)]
  rfl

theorem planEvaluations_on (h : input.snapshot.SameObjects s') :
    planEvaluations { input with snapshot := s' } gateway =
      (planEvaluations input gateway).map fun ctx => ctx.on s' := by
  simp only [planEvaluations, httpRoutesForGateway, tcpRoutesForGateway, tlsRoutesForGateway,
    h.http, h.tcp, h.tls, map_append]
  rw [routeEvaluations_on (httpEvalContext input gateway)
      (httpEvalContext { input with snapshot := s' } gateway) fun _ _ => rfl,
    routeEvaluations_on (tcpEvalContext input gateway)
      (tcpEvalContext { input with snapshot := s' } gateway) fun _ _ => rfl,
    routeEvaluations_on (tlsEvalContext input gateway)
      (tlsEvalContext { input with snapshot := s' } gateway) fun _ _ => rfl]

theorem snapshot_of_mem_planEvaluations {ctx : RouteEvalContext}
    (h : ctx ∈ planEvaluations input gateway) : ctx.snapshot = input.snapshot := by
  cases mem_planEvaluations.1 h <;> rfl

theorem evaluated_on (h : input.snapshot.SameObjects s') {ctx : RouteEvalContext} :
    Evaluated { input with snapshot := s' } gateway ctx ↔
      ∃ ctx₀, Evaluated input gateway ctx₀ ∧ ctx = ctx₀.on s' := by
  simp [← mem_planEvaluations, planEvaluations_on h, eq_comm (b := ctx)]

theorem countEvaluations_on (ctxs : List RouteEvalContext)
    (h : ∀ ctx ∈ ctxs, s'.namespaceLabels = ctx.snapshot.namespaceLabels)
    (attached : HashMap String (Finset String)) :
    countEvaluations attached (ctxs.map fun ctx => ctx.on s') = countEvaluations attached ctxs := by
  have hstep : ∀ ctx ∈ ctxs, ∀ attached : HashMap String (Finset String),
      (evaluateRouteAttachmentInner (ctx.on s')).foldl (countResult (ctx.on s')) attached =
        (evaluateRouteAttachmentInner ctx).foldl (countResult ctx) attached := by
    intro ctx hctx attached
    rw [evaluate_eq_places, evaluate_eq_places, foldl_map, foldl_map]
    refine foldl_ext _ _ attached fun attached e _ => ?_
    have hattached := isAttached_placeStatus_on (h ctx hctx) e.2
    simp only [countResult, result, hattached]
    rfl
  rw [countEvaluations, countEvaluations, foldl_map]
  exact foldl_ext _ _ attached fun attached ctx hctx => hstep ctx hctx attached

theorem places_on_iff {ctx : RouteEvalContext}
    (hlabels : s'.namespaceLabels = ctx.snapshot.namespaceLabels) :
    (∀ e ∈ ctx.places, (ctx.on s').placeStatus e.2 = ctx.placeStatus e.2) ↔
      ∀ l, ctx.Selects l → ctx.Admits l → (ctx.on s').unresolved = ctx.unresolved := by
  constructor
  · intro h l hselects hadmits
    exact (checkListener_on_eq_iff hlabels hadmits).1 (h _ hselects.mem_places)
  · rintro h ⟨name, l⟩ he
    cases l with
    | none => rfl
    | some l =>
      by_cases hadmits : ctx.Admits l
      · exact (checkListener_on_eq_iff hlabels hadmits).2 (h l (mem_places he) hadmits)
      · exact checkListener_on_of_not_admits hlabels hadmits

theorem cmp_result (ctx ctx₂ : RouteEvalContext) (name name₂ : Option String)
    (status status₂ status' status₂' : AttachmentStatus) :
    (ctx.result name status').cmp (ctx₂.result name₂ status₂') =
      (ctx.result name status).cmp (ctx₂.result name₂ status₂) := by
  simp only [RouteAttachmentResult.cmp, result]

/-- **Two snapshots with the same objects have the same plan exactly when every admitted route has
the same first unresolved reference in both.** -/
theorem attachmentPlan_eq_iff (h : input.snapshot.SameObjects s')
    (hgateway : input.snapshot.gateway input.gatewayNamespace input.gatewayName = some gateway) :
    attachmentPlan { input with snapshot := s' } = attachmentPlan input ↔
      ∀ ctx, Evaluated input gateway ctx → ∀ l, ctx.Selects l → ctx.Admits l →
        (ctx.on s').unresolved = ctx.unresolved := by
  have hlabels : ∀ ctx ∈ planEvaluations input gateway,
      s'.namespaceLabels = ctx.snapshot.namespaceLabels := by
    intro ctx hctx
    rw [snapshot_of_mem_planEvaluations hctx, h.labels]
  have hgateway' : s'.gateway input.gatewayNamespace input.gatewayName = some gateway := by
    rw [PlannerSnapshot.gateway, h.gateways]
    exact hgateway
  -- both lists of results come from one list of places
  let slots := (planEvaluations input gateway).flatMap fun ctx => ctx.places.map fun e => (ctx, e)
  let report := fun slot : RouteEvalContext × Option String × Option Listener =>
    slot.1.result slot.2.1 (slot.1.placeStatus slot.2.2)
  let report' := fun slot : RouteEvalContext × Option String × Option Listener =>
    slot.1.result slot.2.1 ((slot.1.on s').placeStatus slot.2.2)
  have hresults : (planEvaluations input gateway).flatMap evaluateRouteAttachmentInner =
      slots.map report := by
    simp only [slots, report, map_flatMap, map_map, funext evaluate_eq_places]
    rfl
  have hresults' : ((planEvaluations input gateway).map fun ctx => ctx.on s').flatMap
      evaluateRouteAttachmentInner = slots.map report' := by
    simp only [slots, report', map_flatMap, map_map, flatMap_map, evaluate_eq_places]
    rfl
  simp only [attachmentPlan, hgateway, hgateway', planState_eq_foldl, foldl_planEvaluation,
    planEvaluations_on h, countEvaluations_on _ hlabels, hresults, hresults', planStart,
    nil_append, Except.ok.injEq, AttachmentPlan.mk.injEq, true_and, and_true]
  have horder : ∀ a ∈ slots, ∀ b ∈ slots, ((report' a).cmp (report' b)).isLE = true ↔
      ((report a).cmp (report b)).isLE = true := by
    intro a _ b _
    rw [cmp_result]
  rw [Check.insertionSort_map_eq_iff horder]
  simp only [slots, report, report', mem_flatMap, mem_map, forall_exists_index, and_imp]
  constructor
  · intro hall ctx hctx
    have hmem := mem_planEvaluations.2 hctx
    refine (places_on_iff (hlabels ctx hmem)).1 fun e he => ?_
    exact congrArg RouteAttachmentResult.status (hall _ ctx hmem e he rfl)
  · rintro hall _ ctx hmem e he rfl
    have hplaces := (places_on_iff (hlabels ctx hmem)).2 (hall ctx (mem_planEvaluations.1 hmem))
    simp only [hplaces e he]

end TwoSnapshots

theorem attachmentPlan_eq_of_none {s' : PlannerSnapshot} (h : input.snapshot.SameObjects s')
    (hgateway : input.snapshot.gateway input.gatewayNamespace input.gatewayName = none) :
    attachmentPlan { input with snapshot := s' } = attachmentPlan input := by
  have hgateway' : s'.gateway input.gatewayNamespace input.gatewayName = none := by
    rw [PlannerSnapshot.gateway, h.gateways]
    exact hgateway
  simp only [attachmentPlan, hgateway, hgateway']

end Wicket
