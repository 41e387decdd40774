/-
**The reconcilers of the routes.**

For a parent reference with a section name the planner is asked, and without a result the listener
alone decides.  A reference to a whole Gateway is never planned.
-/

import Wicket.SharedStore

namespace Wicket

open KeyMap (HashMap)
open Check Except List

/-! ### Reading a plan -/

def AttachmentStatus.acceptedReason : AttachmentStatus → String
  | .Attached | .RefNotPermitted _ _ _ | .BackendNotFound _ _ _ => "Accepted"
  | .NoMatchingParent => "NoMatchingParent"
  | .NotAllowedByListenerProtocol => "NotAllowedByListenerProtocol"
  | .NotAllowedByListenerNamespacePolicy => "NotAllowedByListenerNamespacePolicy"
  | .NotAllowedByListenerKindPolicy => "NotAllowedByListenerKindPolicy"
  | .NoMatchingListenerHostname => "NoMatchingListenerHostname"

def AttachmentStatus.resolvedRefsReason : AttachmentStatus → Option String
  | .RefNotPermitted _ _ _ => some "RefNotPermitted"
  | .BackendNotFound _ _ _ => some "BackendNotFound"
  | _ => none

def attachmentStatusMessage : AttachmentStatus → String
  | .Attached | .RefNotPermitted _ _ _ | .BackendNotFound _ _ _ =>
    "Route is accepted by the listener"
  | .NoMatchingParent => "No listener matches the parentRef sectionName or port"
  | .NotAllowedByListenerProtocol => "Route kind is not compatible with the listener protocol"
  | .NotAllowedByListenerNamespacePolicy =>
    "Route namespace is not allowed by the listener AllowedRoutes namespace policy"
  | .NotAllowedByListenerKindPolicy => "Route kind is not in the listener AllowedRoutes kinds list"
  | .NoMatchingListenerHostname => "No route hostname intersects with the listener hostname"

def RouteAttachmentResult.isFor (routeNs routeName sectionName : String) (port : Option UInt16)
    (r : RouteAttachmentResult) : Bool :=
  r.routeNamespace == routeNs && r.routeName == routeName &&
    r.parentRefSectionName == some sectionName && r.parentRefPort == port

def AttachmentPlan.resultForRouteParentRef (plan : AttachmentPlan)
    (routeNs routeName sectionName : String) (port : Option UInt16) :
    Option RouteAttachmentResult :=
  plan.routeResults.find? (RouteAttachmentResult.isFor routeNs routeName sectionName port)

/-! ### Conditions from the Gateway alone -/

/-- When there is no result: the named listener must have a protocol for the kind, and the port if
there is one. -/
def onlyConditionFromSpec (compat : ProtocolType → Bool) (gateway : Gateway) (sectionName : String)
    (port : Option UInt16) : Condition :=
  match gateway.spec.listeners.find? fun l => l.name == sectionName with
  | some listener =>
    if !compat listener.protocol then
      .new "Accepted" false "NotAllowedByListenerProtocol"
        "Route kind is not compatible with the listener protocol"
    else if port.any fun p => listener.port != p then
      .new "Accepted" false "NoMatchingParent"
        "No listener matches the parentRef sectionName or port"
    else .accepted
  | none =>
    .new "Accepted" false "NoMatchingParent" "No listener matches the parentRef sectionName"

/-- The condition of a parent reference to a whole Gateway: some listener must have a protocol for
the kind, and the port if there is one. -/
def gatewayWideConditionFromSpec (compat : ProtocolType → Bool) (reason message : String)
    (gateway : Gateway) (port : Option UInt16) : Condition :=
  if gateway.spec.listeners.any fun l => compat l.protocol && port.all fun p => l.port == p then
    .accepted
  else .new "Accepted" false reason message

/-- What the plan says about a parent reference: the `Accepted` condition, and the `ResolvedRefs`
condition when it does not hold. -/
def conditionFromPlan (compat : ProtocolType → Bool) (plan : AttachmentPlan) (gateway : Gateway)
    (routeNs routeName sectionName : String) (port : Option UInt16) :
    Condition × Option Condition :=
  match plan.resultForRouteParentRef routeNs routeName sectionName port with
  | some r =>
    if r.status.isAttached then
      (.accepted, r.status.resolvedRefsReason.map fun reason =>
        .new "ResolvedRefs" false reason "Backend reference could not be resolved")
    else
      (.new "Accepted" false r.status.acceptedReason (attachmentStatusMessage r.status), none)
  | none => (onlyConditionFromSpec compat gateway sectionName port, none)

/-! ### The three kinds -/

structure RouteReconciler where
  compat : ProtocolType → Bool
  gatewayWideReason : String
  gatewayWideMessage : String
  conditions : Option ℤ → Condition → Option Condition → List Condition
  needsPatch : Option RouteStatus → RouteStatus → Bool

def httpReconciler : RouteReconciler where
  compat p := p == .HTTP || p == .HTTPS
  gatewayWideReason := "NoMatchingParent"
  gatewayWideMessage := "Gateway has no HTTP/HTTPS listener matching the parentRef port"
  conditions generation accepted resolvedRefs :=
    -- the references of a refused route count as resolved too
    [accepted.withObservedGeneration generation,
      (resolvedRefs.getD .resolvedRefs).withObservedGeneration generation]
  needsPatch existing status := existing != some status

/-- The conditions of a TCPRoute or TLSRoute: the references of an accepted one count as
resolved. -/
def streamRouteConditions (accepted : Condition) : List Condition :=
  if accepted.status == "True" then [accepted, .resolvedRefs] else [accepted]

def tcpReconciler : RouteReconciler where
  compat p := p == .TCP
  gatewayWideReason := "NoMatchingListener"
  gatewayWideMessage := "Gateway has no TCP listener matching the parentRef port"
  conditions _ accepted _ := streamRouteConditions accepted
  needsPatch _ _ := true

def tlsReconciler : RouteReconciler where
  compat p := p == .TLS
  gatewayWideReason := "NoMatchingListener"
  gatewayWideMessage := "Gateway has no TLS listener matching the parentRef port"
  conditions _ accepted _ := streamRouteConditions accepted
  needsPatch _ _ := true

def RouteKind.reconciler : RouteKind → RouteReconciler
  | .HTTPRoute => httpReconciler
  | .TCPRoute => tcpReconciler
  | .TLSRoute => tlsReconciler

/-! ### The API server -/

inductive ApiRead (α : Type)
  | found (a : α)
  | notFound
  | fault

structure ClusterApi where
  gateway : String → String → ApiRead Gateway
  gatewayClass : String → ApiRead GatewayClass
  patchStatus : Bool := true

/-- A reconcile was given up because of the API server. -/
inductive RouteError
  | KubeError
  deriving DecidableEq

/-! ### The loop over the parent references -/

def Gateway.cacheKey (gateway : Gateway) : String × String × ℤ :=
  (gateway.metadata.ns.getD "default", gateway.metadata.name.getD "",
    gateway.metadata.generation.getD 0)

def attachmentPlanInput (snapshot : PlannerSnapshot) (key : String × String × ℤ) :
    AttachmentPlanInput where
  gatewayNamespace := key.1
  gatewayName := key.2.1
  gatewayGeneration := key.2.2
  snapshot := snapshot

abbrev PlanCache : Type := HashMap (String × String × ℤ) AttachmentPlan

def invalidParentRef (message : String) : Condition :=
  .new "Accepted" false "InvalidParentRef" message

namespace RouteReconciler

variable (rec : RouteReconciler)

def plannerParentConditionsForSectionCached (snapshot : SnapshotResult PlannerSnapshot)
    (gateway : Gateway) (routeNs routeName sectionName : String) (port : Option UInt16)
    (cache : PlanCache) : (Condition × Option Condition) × PlanCache :=
  match snapshot with
  | .NotReady => ((onlyConditionFromSpec rec.compat gateway sectionName port, none), cache)
  | .Ready s =>
    match cache.lookup gateway.cacheKey with
    | some plan =>
      (conditionFromPlan rec.compat plan gateway routeNs routeName sectionName port, cache)
    | none =>
      match attachmentPlan (attachmentPlanInput s gateway.cacheKey) with
      | .ok plan =>
        (conditionFromPlan rec.compat plan gateway routeNs routeName sectionName port,
          cache.insert gateway.cacheKey plan)
      | .error _ => ((onlyConditionFromSpec rec.compat gateway sectionName port, none), cache)

/-- The conditions of a parent reference in a route of the given namespace and name.  The group and
the kind of the reference are not looked at. -/
def parentConditionsCached (api : ClusterApi) (snapshot : SnapshotResult PlannerSnapshot)
    (routeNs routeName : String) (p : ParentReference) (cache : PlanCache) :
    Except RouteError ((Condition × Option Condition) × PlanCache) :=
  match api.gateway (p.ns.getD routeNs) p.name with
  | .notFound => .ok ((invalidParentRef "Parent Gateway not found", none), cache)
  | .fault => .error .KubeError
  | .found gateway =>
    match api.gatewayClass gateway.spec.gatewayClassName with
    | .notFound => .ok ((invalidParentRef "Gateway is not managed by Wicket", none), cache)
    | .fault => .error .KubeError
    | .found gc =>
      if !gc.isWicketManaged then
        .ok ((invalidParentRef "Gateway is not managed by Wicket", none), cache)
      else
        match p.sectionName with
        | some sectionName =>
          .ok (rec.plannerParentConditionsForSectionCached snapshot gateway routeNs routeName
            sectionName p.port cache)
        | none =>
          .ok ((gatewayWideConditionFromSpec rec.compat rec.gatewayWideReason
            rec.gatewayWideMessage gateway p.port, none), cache)

structure ParentLoop where
  parentStatuses : List RouteParentStatus := []
  hasValidParent : Bool := false
  planCache : PlanCache := ∅

def buildRouteParentStatus (generation : Option ℤ) (p : ParentReference)
    (e : Condition × Option Condition) : RouteParentStatus where
  parentRef := p
  controllerName := wicketControllerName
  conditions := rec.conditions generation e.1 e.2

def reconcileParentRef (api : ClusterApi) (snapshot : SnapshotResult PlannerSnapshot)
    (metadata : ObjectMeta) (st : ParentLoop) (p : ParentReference) :
    Except RouteError ParentLoop :=
  (rec.parentConditionsCached api snapshot (metadata.ns.getD "") (metadata.name.getD "") p
    st.planCache).map fun e =>
      { parentStatuses := st.parentStatuses ++
          [rec.buildRouteParentStatus metadata.generation p e.1]
        hasValidParent := st.hasValidParent || e.1.1.status == "True"
        planCache := e.2 }

def parentStatuses (api : ClusterApi) (snapshot : SnapshotResult PlannerSnapshot)
    (metadata : ObjectMeta) (parentRefs : List ParentReference) :
    Except RouteError (RouteStatus × Bool) :=
  (parentRefs.foldlM (rec.reconcileParentRef api snapshot metadata) {}).map fun st =>
    (⟨st.parentStatuses⟩, st.hasValidParent)

end RouteReconciler

/-! ### The reconcilers -/

inductive RouteOutcome
  | deleted
  | accepted (status : RouteStatus)
  | rejected (status : RouteStatus)

def RouteOutcome.status : RouteOutcome → Option RouteStatus
  | .deleted => none
  | .accepted status | .rejected status => some status

def Route.status : Route → Option RouteStatus
  | .http route => route.status
  | .tcp route => route.status
  | .tls route => route.status

def Route.withStatus (status : RouteStatus) : Route → Route
  | .http route => .http { route with status := some status }
  | .tcp route => .tcp { route with status := some status }
  | .tls route => .tls { route with status := some status }

def SharedStore.upsertRoute (s : SharedStore) (key : String) : Route → SharedStore
  | .http route => s.upsertHttpRoute key route
  | .tcp route => s.upsertTcpRoute key route
  | .tls route => s.upsertTlsRoute key route

def SharedStore.removeRoute (s : SharedStore) (key : String) : RouteKind → SharedStore
  | .HTTPRoute => s.removeHttpRoute key
  | .TCPRoute => s.removeTcpRoute key
  | .TLSRoute => s.removeTlsRoute key

def Route.key (route : Route) : String :=
  GatewayState.key (route.metadata.ns.getD "") (route.metadata.name.getD "")

def RouteOutcome.apply (route : Route) (s : SharedStore) : RouteOutcome → SharedStore
  | .deleted | .rejected _ => s.removeRoute route.key route.kind
  | .accepted status => s.upsertRoute route.key (route.withStatus status)

namespace RouteReconciler

/-- What comes of a reconcile on a snapshot.  When the status cannot be written, the reconcile is
given up before it changes the store. -/
def outcome (rec : RouteReconciler) (api : ClusterApi) (snapshot : SnapshotResult PlannerSnapshot)
    (route : Route) : Except RouteError RouteOutcome :=
  if route.metadata.deletionTimestamp.isSome then .ok .deleted
  else
    match rec.parentStatuses api snapshot route.metadata route.parentRefs with
    | .error e => .error e
    | .ok (status, hasValidParent) =>
      if rec.needsPatch route.status status && !api.patchStatus then .error .KubeError
      else if hasValidParent then .ok (.accepted status)
      else .ok (.rejected status)

/-- A reconcile during which nobody else writes the store: the new store, and what came of it. -/
def reconcile (rec : RouteReconciler) (api : ClusterApi) (s : SharedStore) (route : Route) :
    Except RouteError (SharedStore × RouteOutcome) :=
  (rec.outcome api s.plannerSnapshot route).map fun o => (o.apply route s, o)

end RouteReconciler

def reconcileHttproute (api : ClusterApi) (s : SharedStore) (route : HTTPRoute) :
    Except RouteError (SharedStore × RouteOutcome) :=
  httpReconciler.reconcile api s (.http route)

def reconcileTcproute (api : ClusterApi) (s : SharedStore) (route : TCPRoute) :
    Except RouteError (SharedStore × RouteOutcome) :=
  tcpReconciler.reconcile api s (.tcp route)

def reconcileTlsroute (api : ClusterApi) (s : SharedStore) (route : TLSRoute) :
    Except RouteError (SharedStore × RouteOutcome) :=
  tlsReconciler.reconcile api s (.tls route)

def reconcileRoute (api : ClusterApi) (s : SharedStore) : Route →
    Except RouteError (SharedStore × RouteOutcome)
  | .http route => reconcileHttproute api s route
  | .tcp route => reconcileTcproute api s route
  | .tls route => reconcileTlsroute api s route

/-! ### One parent reference on its own -/

namespace RouteReconciler

variable (rec : RouteReconciler) (api : ClusterApi) (snapshot : SnapshotResult PlannerSnapshot)

def sectionConditions (gateway : Gateway) (routeNs routeName sectionName : String)
    (port : Option UInt16) : Condition × Option Condition :=
  match snapshot with
  | .NotReady => (onlyConditionFromSpec rec.compat gateway sectionName port, none)
  | .Ready s =>
    match attachmentPlan (attachmentPlanInput s gateway.cacheKey) with
    | .ok plan => conditionFromPlan rec.compat plan gateway routeNs routeName sectionName port
    | .error _ => (onlyConditionFromSpec rec.compat gateway sectionName port, none)

def managedConditions (gateway : Gateway) (routeNs routeName : String) (p : ParentReference) :
    Condition × Option Condition :=
  match p.sectionName with
  | some sectionName =>
    rec.sectionConditions snapshot gateway routeNs routeName sectionName p.port
  | none => (gatewayWideConditionFromSpec rec.compat rec.gatewayWideReason rec.gatewayWideMessage
      gateway p.port, none)

def parentConditions (routeNs routeName : String) (p : ParentReference) :
    Except RouteError (Condition × Option Condition) :=
  match api.gateway (p.ns.getD routeNs) p.name with
  | .notFound => .ok (invalidParentRef "Parent Gateway not found", none)
  | .fault => .error .KubeError
  | .found gateway =>
    match api.gatewayClass gateway.spec.gatewayClassName with
    | .notFound => .ok (invalidParentRef "Gateway is not managed by Wicket", none)
    | .fault => .error .KubeError
    | .found gc =>
      if !gc.isWicketManaged then
        .ok (invalidParentRef "Gateway is not managed by Wicket", none)
      else .ok (rec.managedConditions snapshot gateway routeNs routeName p)

def CacheValid (cache : PlanCache) : Prop :=
  ∀ s, snapshot = .Ready s → ∀ key plan, cache.lookup key = some plan →
    attachmentPlan (attachmentPlanInput s key) = .ok plan

variable {api snapshot}

variable {cache : PlanCache} {route : Route}

theorem CacheValid.insert {s : PlannerSnapshot} (h : CacheValid (.Ready s) cache)
    {key : String × String × ℤ} {plan : AttachmentPlan}
    (hplan : attachmentPlan (attachmentPlanInput s key) = .ok plan) :
    CacheValid (.Ready s) (cache.insert key plan) := by
  rintro s' ⟨⟩ key' plan' hlookup
  rcases KeyMap.lookup_insert_cases hlookup with ⟨rfl, rfl⟩ | hlookup
  · exact hplan
  · exact h s rfl key' plan' hlookup

theorem sectionCached_spec (gateway : Gateway) (routeNs routeName sectionName : String)
    (port : Option UInt16) (h : CacheValid snapshot cache) :
    ∃ cache', rec.plannerParentConditionsForSectionCached snapshot gateway routeNs routeName
        sectionName port cache =
      (rec.sectionConditions snapshot gateway routeNs routeName sectionName port, cache') ∧
      CacheValid snapshot cache' := by
  cases snapshot with
  | NotReady => exact ⟨cache, rfl, h⟩
  | Ready s =>
    simp only [plannerParentConditionsForSectionCached, sectionConditions]
    cases hcached : cache.lookup gateway.cacheKey with
    | some plan => exact ⟨cache, by simp only [h s rfl _ _ hcached], h⟩
    | none =>
      cases hplan : attachmentPlan (attachmentPlanInput s gateway.cacheKey) with
      | ok plan => exact ⟨_, rfl, h.insert hplan⟩
      | error e => exact ⟨cache, rfl, h⟩

theorem parentConditionsCached_spec (api : ClusterApi) (routeNs routeName : String)
    (p : ParentReference) (h : CacheValid snapshot cache) :
    ∃ cache', CacheValid snapshot cache' ∧
      rec.parentConditionsCached api snapshot routeNs routeName p cache =
        (rec.parentConditions api snapshot routeNs routeName p).map fun e => (e, cache') := by
  simp only [parentConditionsCached, parentConditions]
  cases api.gateway (p.ns.getD routeNs) p.name with
  | notFound => exact ⟨cache, h, rfl⟩
  | fault => exact ⟨cache, h, rfl⟩
  | found gateway =>
    simp only
    cases api.gatewayClass gateway.spec.gatewayClassName with
    | notFound => exact ⟨cache, h, rfl⟩
    | fault => exact ⟨cache, h, rfl⟩
    | found gc =>
      cases hmanaged : gc.isWicketManaged with
      | false => exact ⟨cache, h, by simp [hmanaged, Except.map]⟩
      | true =>
        cases hsection : p.sectionName with
        | none =>
          exact ⟨cache, h, by simp [hmanaged, managedConditions, hsection, Except.map]⟩
        | some sectionName =>
          obtain ⟨cache', heq, hvalid⟩ := sectionCached_spec rec gateway routeNs routeName
            sectionName p.port h
          exact ⟨cache', hvalid, by simp [hmanaged, managedConditions, hsection, heq, Except.map]⟩

def allConditions (rec : RouteReconciler) (api : ClusterApi)
    (snapshot : SnapshotResult PlannerSnapshot) (metadata : ObjectMeta)
    (parentRefs : List ParentReference) :
    Except RouteError (List (ParentReference × Condition × Option Condition)) :=
  compileAll (fun p => (rec.parentConditions api snapshot (metadata.ns.getD "")
    (metadata.name.getD "") p).map (Prod.mk p)) parentRefs

theorem foldlM_reconcileParentRef (api : ClusterApi) (metadata : ObjectMeta)
    (refs : List ParentReference) {st : ParentLoop} (h : CacheValid snapshot st.planCache) :
    ∃ cache', refs.foldlM (rec.reconcileParentRef api snapshot metadata) st =
      (rec.allConditions api snapshot metadata refs).map fun es =>
        { parentStatuses := st.parentStatuses ++
            es.map fun e => rec.buildRouteParentStatus metadata.generation e.1 e.2
          hasValidParent := st.hasValidParent || es.any fun e => e.2.1.status == "True"
          planCache := cache' } := by
  -- the plans that are kept stay plans of the snapshot from round to round
  induction refs generalizing st with
  | nil => exact ⟨st.planCache, by simp [allConditions, compileAll, Except.map, pure, Except.pure]⟩
  | cons p refs ih =>
    obtain ⟨cache₁, hvalid, heq⟩ := parentConditionsCached_spec rec api (metadata.ns.getD "")
      (metadata.name.getD "") p h
    rw [foldlM_cons, reconcileParentRef, heq, allConditions, compileAll]
    cases rec.parentConditions api snapshot (metadata.ns.getD "") (metadata.name.getD "") p with
    | error e => exact ⟨∅, rfl⟩
    | ok c =>
      obtain ⟨cache₂, hrest⟩ := @ih
        { parentStatuses := st.parentStatuses ++
            [rec.buildRouteParentStatus metadata.generation p c]
          hasValidParent := st.hasValidParent || c.1.status == "True"
          planCache := cache₁ } hvalid
      refine ⟨cache₂, ?_⟩
      refine Eq.trans hrest ?_
      rw [allConditions]
      cases compileAll (fun p => (rec.parentConditions api snapshot (metadata.ns.getD "")
        (metadata.name.getD "") p).map (Prod.mk p)) refs with
      | error e => simp [Except.map, bind, Except.bind]
      | ok es => simp [Except.map, bind, Except.bind, Bool.or_assoc]

/-- **The plans that are kept during a reconcile change nothing**: every parent reference gets the
conditions it would get alone. -/
theorem parentStatuses_eq {metadata : ObjectMeta} {refs : List ParentReference} :
    rec.parentStatuses api snapshot metadata refs =
      (rec.allConditions api snapshot metadata refs).map fun es =>
        (⟨es.map fun e => rec.buildRouteParentStatus metadata.generation e.1 e.2⟩,
          es.any fun e => e.2.1.status == "True") := by
  have hempty : CacheValid snapshot ({} : ParentLoop).planCache := by
    intro s _ key plan hlookup
    simp at hlookup
  obtain ⟨cache', heq⟩ := foldlM_reconcileParentRef rec api metadata refs hempty
  rw [parentStatuses, heq]
  cases rec.allConditions api snapshot metadata refs with
  | error e => rfl
  | ok es => simp [Except.map]

/-! ### What a reconcile writes -/

def statusOf (route : Route) (c : ParentReference → Condition × Option Condition) : RouteStatus :=
  ⟨route.parentRefs.map fun p =>
    rec.buildRouteParentStatus route.metadata.generation p (c p)⟩

def HasConditions (api : ClusterApi) (snapshot : SnapshotResult PlannerSnapshot) (route : Route)
    (c : ParentReference → Condition × Option Condition) : Prop :=
  ∀ p ∈ route.parentRefs, rec.parentConditions api snapshot (route.metadata.ns.getD "")
    (route.metadata.name.getD "") p = .ok (c p)

variable {rec}

variable {c : ParentReference → Condition × Option Condition} {o : RouteOutcome}

theorem HasConditions.parentStatuses (h : rec.HasConditions api snapshot route c) :
    rec.parentStatuses api snapshot route.metadata route.parentRefs =
      .ok (rec.statusOf route c, route.parentRefs.any fun p => (c p).1.status == "True") := by
  have hall : rec.allConditions api snapshot route.metadata route.parentRefs =
      .ok (route.parentRefs.map fun p => (p, c p)) := by
    refine compileAll_eq_ok.2 ?_
    rw [forall₂_map_right_iff, forall₂_same]
    intro p hp
    rw [h p hp]
    rfl
  rw [parentStatuses_eq, hall]
  simp [Except.map, statusOf, any_map, Function.comp_def]

theorem HasConditions.outcome (h : rec.HasConditions api snapshot route c)
    (hlive : route.metadata.deletionTimestamp = none) (hpatch : api.patchStatus = true) :
    rec.outcome api snapshot route =
      .ok (if route.parentRefs.any fun p => (c p).1.status == "True" then
        .accepted (rec.statusOf route c) else .rejected (rec.statusOf route c)) := by
  rw [RouteReconciler.outcome, h.parentStatuses]
  cases route.parentRefs.any fun p => (c p).1.status == "True" <;> simp [hlive, hpatch]

theorem hasConditions_of_parentStatuses {e : RouteStatus × Bool}
    (h : rec.parentStatuses api snapshot route.metadata route.parentRefs = .ok e) :
    ∃ c, rec.HasConditions api snapshot route c ∧
      e = (rec.statusOf route c, route.parentRefs.any fun p => (c p).1.status == "True") := by
  have hok : ∀ p ∈ route.parentRefs, ∃ e, rec.parentConditions api snapshot
      (route.metadata.ns.getD "") (route.metadata.name.getD "") p = .ok e := by
    have hall := h
    rw [parentStatuses_eq] at hall
    obtain ⟨es, hes, -⟩ := map_eq_ok.1 hall
    intro p hp
    obtain ⟨_, -, hpe⟩ := exists_mem_of_compileAll hes hp
    obtain ⟨e, he, -⟩ := map_eq_ok.1 hpe
    exact ⟨e, he⟩
  have : Nonempty (Condition × Option Condition) := ⟨(.accepted, none)⟩
  choose! c hc using hok
  have hconditions : rec.HasConditions api snapshot route c := hc
  refine ⟨c, hconditions, ?_⟩
  rw [hconditions.parentStatuses] at h
  exact (ok.inj h).symm

theorem outcome_cases (h : rec.outcome api snapshot route = .ok o) :
    route.metadata.deletionTimestamp.isSome = true ∧ o = .deleted ∨
      route.metadata.deletionTimestamp = none ∧ ∃ c, rec.HasConditions api snapshot route c ∧
        o = if route.parentRefs.any fun p => (c p).1.status == "True" then
          .accepted (rec.statusOf route c) else .rejected (rec.statusOf route c) := by
  rw [RouteReconciler.outcome] at h
  split at h
  · rename_i hdeleted
    exact Or.inl ⟨hdeleted, (ok.inj h).symm⟩
  · rename_i hlive
    refine Or.inr ⟨by simpa using hlive, ?_⟩
    split at h
    · cases h
    · rename_i status hasValidParent hstatuses
      obtain ⟨c, hc, heq⟩ := hasConditions_of_parentStatuses hstatuses
      cases heq
      refine ⟨c, hc, ?_⟩
      split at h
      · cases h
      · split at h
        · rename_i hany
          rw [if_pos hany]
          exact (ok.inj h).symm
        · rename_i hany
          rw [if_neg hany]
          exact (ok.inj h).symm

theorem hasConditions_of_outcome {status : RouteStatus}
    (h : rec.outcome api snapshot route = .ok o) (hstatus : o.status = some status) :
    ∃ c, rec.HasConditions api snapshot route c ∧ status = rec.statusOf route c := by
  rcases outcome_cases h with ⟨-, rfl⟩ | ⟨-, c, hc, rfl⟩
  · cases hstatus
  · refine ⟨c, hc, ?_⟩
    split at hstatus <;> exact (Option.some.inj hstatus).symm

end RouteReconciler

theorem reconcileRoute_eq (api : ClusterApi) (s : SharedStore) (route : Route) :
    reconcileRoute api s route = route.kind.reconciler.reconcile api s route := by
  cases route <;> rfl

structure FollowedParent (api : ClusterApi) (route : Route) (p : ParentReference)
    (gateway : Gateway) : Prop where
  found : api.gateway (p.ns.getD (route.metadata.ns.getD "")) p.name = .found gateway
  managed : ∃ gc, api.gatewayClass gateway.spec.gatewayClassName = .found gc ∧
    gc.isWicketManaged = true

structure ManagedParent (api : ClusterApi) (route : Route) (p : ParentReference)
    (gateway : Gateway) : Prop extends FollowedParent api route p gateway where
  group : p.group = "" ∨ p.group = gatewayApiGroup
  kind : p.kind = "Gateway"
  /-- The API server returns the Gateway that was asked for. -/
  ns : gateway.metadata.ns = some (p.ns.getD (route.metadata.ns.getD ""))
  name : gateway.metadata.name = some p.name

variable {route : Route} {p : ParentReference}

theorem FollowedParent.parentConditions {api : ClusterApi} {gateway : Gateway}
    (h : FollowedParent api route p gateway) (rec : RouteReconciler)
    (snapshot : SnapshotResult PlannerSnapshot) :
    rec.parentConditions api snapshot (route.metadata.ns.getD "") (route.metadata.name.getD "") p =
      .ok (rec.managedConditions snapshot gateway (route.metadata.ns.getD "")
        (route.metadata.name.getD "") p) := by
  obtain ⟨gc, hgc, hmanaged⟩ := h.managed
  simp [RouteReconciler.parentConditions, h.found, hgc, hmanaged]

def RouteStatus.Reports (status : RouteStatus) (p : ParentReference) (type value : String) : Prop :=
  ∃ ps ∈ status.parents, ps.parentRef = p ∧ ∃ c ∈ ps.conditions, c.type = type ∧ c.status = value

theorem RouteReconciler.reports_statusOf {rec : RouteReconciler}
    {c : ParentReference → Condition × Option Condition} (hp : p ∈ route.parentRefs)
    {type value : String} :
    (rec.statusOf route c).Reports p type value ↔
      ∃ cond ∈ rec.conditions route.metadata.generation (c p).1 (c p).2,
        cond.type = type ∧ cond.status = value := by
  constructor
  · rintro ⟨ps, hps, rfl, hcond⟩
    obtain ⟨q, -, rfl⟩ := mem_map.1 hps
    exact hcond
  · intro hcond
    exact ⟨_, mem_map.2 ⟨p, hp, rfl⟩, rfl, hcond⟩

end Wicket
