/-
**The feedback of a verdict into the store.**

What the planner answers decides whether the route is in the store the next time.  A route that is
not there is judged by the listener alone, one in an older version by that version.
-/

import Wicket.PlanAnswer

namespace Wicket

open GatewayState PlannerSnapshot ObjectMeta StoreWrite

open Option RouteReconciler HTTPRoute Route AList AttachmentStatus Condition RouteEvalContext

open KeyMap (HashMap)

/-! ### Successive reconciles -/

def RouteStatus.acceptedCondition (status : RouteStatus) (p : ParentReference) : Option Condition :=
  (status.parents.find? fun ps => ps.parentRef == p).bind fun ps =>
    ps.conditions.find? fun c => c.type == "Accepted"

structure RouteRun where
  store : SharedStore
  route : HTTPRoute

namespace RouteRun

variable (api : ClusterApi)

def written (x : RouteRun) : Option RouteStatus :=
  match reconcileHttproute api x.store x.route with
  | .ok (_, o) => o.status
  | .error _ => none

def next (x : RouteRun) : RouteRun :=
  match reconcileHttproute api x.store x.route with
  | .ok (s, o) => ⟨s, { x.route with status := o.status.or x.route.status }⟩
  | .error _ => x

def Member (x : RouteRun) : Prop :=
  (x.store.inner.httpRoutes.lookup (Route.http x.route).key).isSome = true

end RouteRun

/-- The API server answers every read of a reconcile of the route, and takes its status. -/
structure ServesRoute (api : ClusterApi) (route : Route) : Prop where
  gateway : ∀ p ∈ route.parentRefs,
    api.gateway (p.ns.getD (route.metadata.ns.getD "")) p.name ≠ .fault
  gatewayClass : ∀ p ∈ route.parentRefs, ∀ gateway,
    api.gateway (p.ns.getD (route.metadata.ns.getD "")) p.name = .found gateway →
      api.gatewayClass gateway.spec.gatewayClassName ≠ .fault
  patch : api.patchStatus = true

/-! ### What the planner says about the route itself -/

structure PlannedRef (api : ClusterApi) (snapshot : PlannerSnapshot) (route : HTTPRoute)
    (p : ParentReference) (sectionName : String) (gateway stored : Gateway) : Prop where
  ref : p ∈ route.spec.parentRefs
  sectionName : p.sectionName = some sectionName
  parent : ManagedParent api (.http route) p gateway
  stored : snapshot.gateway gateway.cacheKey.1 gateway.cacheKey.2.1 = some stored

def Verdict (snapshot : PlannerSnapshot) (route : HTTPRoute) (p : ParentReference)
    (sectionName : String) (gateway : Gateway) (v : AttachmentStatus) : Prop :=
  ∃ plan, attachmentPlan (attachmentPlanInput snapshot gateway.cacheKey) = .ok plan ∧
    ∃ res ∈ plan.routeResults, res.routeKind = .HTTPRoute ∧
      res.isFor (route.metadata.ns.getD "") (route.metadata.name.getD "") sectionName p.port =
        true ∧ res.status = v

def SharedStore.snapshotWith (s : SharedStore) (route : HTTPRoute) : PlannerSnapshot :=
  (s.upsertHttpRoute (Route.http route).key route).snapshot

def SharedStore.snapshotWithout (s : SharedStore) (route : HTTPRoute) : PlannerSnapshot :=
  (s.removeHttpRoute (Route.http route).key).snapshot

structure FollowsPlanner (api : ClusterApi) (s : SharedStore) (route : HTTPRoute) : Prop where
  verdict : ∀ p sectionName gateway stored,
    PlannedRef api s.snapshot route p sectionName gateway stored →
    ∃ v, Verdict (s.snapshotWith route) route p sectionName gateway v ∧
      ((RouteRun.mk s route).written api).bind (·.acceptedCondition p) =
        some (v.acceptedCondition.withObservedGeneration route.metadata.generation)
  sameCondition : ∀ n p sectionName gateway stored,
    PlannedRef api s.snapshot route p sectionName gateway stored →
    (((RouteRun.next api)^[n] ⟨s, route⟩).written api).bind (·.acceptedCondition p) =
      ((RouteRun.mk s route).written api).bind (·.acceptedCondition p)
  /-- Every further reconcile leaves the route in the store, or out of it, as the first does. -/
  sameMembership : ∀ n, ((RouteRun.next api)^[n + 1] ⟨s, route⟩).Member ↔
    ((RouteRun.mk s route).next api).Member

/-! ### Who answers -/

def HTTPRoute.ownContext (route : HTTPRoute) (snapshot : PlannerSnapshot) (gateway stored : Gateway)
    (p : ParentReference) : RouteEvalContext :=
  httpEvalContext (attachmentPlanInput snapshot gateway.cacheKey) stored route p

def HTTPRoute.answeredBy (route : HTTPRoute) (snapshot : PlannerSnapshot) (gateway stored : Gateway)
    (p : ParentReference) : Option RouteEvalContext :=
  answering (attachmentPlanInput snapshot gateway.cacheKey) stored (route.metadata.ns.getD "")
    (route.metadata.name.getD "") p

/-- What is read for the parent reference agrees with the route itself. -/
def RefAgrees (snapshot : PlannerSnapshot) (route : HTTPRoute) (p : ParentReference)
    (sectionName : String) (gateway stored : Gateway) : Prop :=
  match route.answeredBy snapshot gateway stored p with
  | some ctx => ∀ l, (route.ownContext snapshot gateway stored p).Selects l →
      (route.ownContext snapshot gateway stored p).AgreesAt ctx l
  | none => SpecAgrees gateway (route.ownContext snapshot gateway stored p) sectionName

def SpecAccepts (gateway : Gateway) (sectionName : String) (port : Option UInt16) : Prop :=
  ∃ l, (gateway.spec.listeners.find? fun l => l.name == sectionName) = some l ∧
    httpReconciler.compat l.protocol = true ∧ (port.all fun p => l.port == p) = true

def SectionAccepted (snapshot : PlannerSnapshot) (route : HTTPRoute) (p : ParentReference)
    (sectionName : String) (gateway : Gateway) : Prop :=
  match snapshot.gateway gateway.cacheKey.1 gateway.cacheKey.2.1 with
  | none => SpecAccepts gateway sectionName p.port
  | some stored =>
    match route.answeredBy snapshot gateway stored p with
    | some ctx => ∃ l, ctx.Selects l ∧ ctx.Admits l
    | none => SpecAccepts gateway sectionName p.port

def RefAccepted (api : ClusterApi) (snapshot : PlannerSnapshot) (route : HTTPRoute)
    (p : ParentReference) : Prop :=
  ∃ gateway, FollowedParent api (.http route) p gateway ∧ match p.sectionName with
    | some sectionName => SectionAccepted snapshot route p sectionName gateway
    | none => HasCompatibleListener (.http route) p gateway

def SomeAccepted (api : ClusterApi) (snapshot : PlannerSnapshot) (route : HTTPRoute) : Prop :=
  ∃ p ∈ route.spec.parentRefs, RefAccepted api snapshot route p

/-! ### The condition that is read -/

def HTTPRoute.readCondition (route : HTTPRoute) (snapshot : PlannerSnapshot) (p : ParentReference)
    (sectionName : String) (gateway : Gateway) : Condition :=
  match snapshot.gateway gateway.cacheKey.1 gateway.cacheKey.2.1 with
  | none => onlyConditionFromSpec httpReconciler.compat gateway sectionName p.port
  | some stored =>
    match route.answeredBy snapshot gateway stored p with
    | some ctx => (ctx.sectionStatus sectionName).acceptedCondition
    | none => onlyConditionFromSpec httpReconciler.compat gateway sectionName p.port

section Reading

variable {snapshot : PlannerSnapshot} {route : HTTPRoute} {p : ParentReference}
  {sectionName : String} {gateway stored : Gateway}

theorem sectionConditions_fst (hkeyed : snapshot.KeyedRoutes)
    (hsection : p.sectionName = some sectionName) :
    (httpReconciler.sectionConditions (.Ready snapshot) gateway (route.metadata.ns.getD "")
      (route.metadata.name.getD "") sectionName p.port).1 =
      route.readCondition snapshot p sectionName gateway := by
  rw [sectionConditions, readCondition]
  cases hgw : snapshot.gateway gateway.cacheKey.1 gateway.cacheKey.2.1 with
  | none =>
    have hplan : attachmentPlan (attachmentPlanInput snapshot gateway.cacheKey) =
        .error (.MissingField "gateway (not found in snapshot)") := by
      rw [attachmentPlan]
      simp only [attachmentPlanInput, hgw]
    simp only [hplan]
  | some stored =>
    obtain ⟨plan, hplan, -⟩ := @exists_attachmentPlan
      (attachmentPlanInput snapshot gateway.cacheKey) _ hgw
    simp only [hplan, conditionFromPlan_fst, answeredBy]
    rw [@resultForRouteParentRef_keyed (attachmentPlanInput snapshot gateway.cacheKey) _ _ _ _ _ _
      hplan hgw hkeyed hsection]
    cases answering (attachmentPlanInput snapshot gateway.cacheKey) stored
      (route.metadata.ns.getD "") (route.metadata.name.getD "") p <;> rfl

theorem sameRef_of_answeredBy (hns : route.metadata.ns.isSome = true) {ctx : RouteEvalContext}
    (h : route.answeredBy snapshot gateway stored p = some ctx) :
    (route.ownContext snapshot gateway stored p).SameRef ctx := by
  obtain ⟨route', hplanNs, rfl⟩ := exists_of_answering h
  obtain ⟨hsection, hport, hns', -, -⟩ := route'.evalContext_fields
    (attachmentPlanInput snapshot gateway.cacheKey) stored p
  refine ⟨evalContext_gateway stored, hsection, hport, ?_, ?_⟩
  · obtain ⟨ns, hns⟩ := isSome_iff_exists.1 hns
    rw [hns', hplanNs, hns]
    simp [ownContext, httpEvalContext, planNs, hns]
  · cases route' <;> exact fun _ => rfl

theorem readCondition_eq_iff (hns : route.metadata.ns.isSome = true)
    (hsection : p.sectionName = some sectionName)
    (hgw : snapshot.gateway gateway.cacheKey.1 gateway.cacheKey.2.1 = some stored) :
    route.readCondition snapshot p sectionName gateway =
        ((route.ownContext snapshot gateway stored p).sectionStatus sectionName).acceptedCondition ↔
      RefAgrees snapshot route p sectionName gateway stored := by
  rw [readCondition, hgw, RefAgrees]
  simp only
  cases hanswer : route.answeredBy snapshot gateway stored p with
  | some ctx => exact (sameRef_of_answeredBy hns hanswer).acceptedCondition_eq_iff hsection
  | none =>
    exact @onlyConditionFromSpec_eq_iff gateway (route.ownContext snapshot gateway stored p)
      sectionName hsection

theorem onlyConditionFromSpec_accepted {port : Option UInt16} :
    (onlyConditionFromSpec httpReconciler.compat gateway sectionName port).status = "True" ↔
      SpecAccepts gateway sectionName port := by
  rw [onlyConditionFromSpec, SpecAccepts]
  cases gateway.spec.listeners.find? fun l => l.name == sectionName with
  | none => simp [new]
  | some l =>
    have hport : (port.any fun p => l.port != p) = !(port.all fun p => l.port == p) := by
      cases port <;> simp [bne]
    simp only [hport]
    cases hcompat : httpReconciler.compat l.protocol <;>
      cases hall : (port.all fun p => l.port == p) <;>
      simp [new, accepted, hcompat, hall]

theorem readCondition_accepted (hsection : p.sectionName = some sectionName) :
    (route.readCondition snapshot p sectionName gateway).status = "True" ↔
      SectionAccepted snapshot route p sectionName gateway := by
  rw [readCondition, SectionAccepted]
  cases snapshot.gateway gateway.cacheKey.1 gateway.cacheKey.2.1 with
  | none => exact onlyConditionFromSpec_accepted
  | some stored =>
    simp only
    cases hanswer : route.answeredBy snapshot gateway stored p with
    | none => exact onlyConditionFromSpec_accepted
    | some ctx =>
      obtain ⟨route', -, rfl⟩ := exists_of_answering hanswer
      obtain ⟨hsection', -⟩ := route'.evalContext_fields
        (attachmentPlanInput snapshot gateway.cacheKey) stored p
      rw [acceptedCondition_status]
      exact (sectionReason (hsection'.trans hsection)).2.2

end Reading

/-! ### Stores that differ in the route only -/

/-- The second snapshot has the Gateways and policies of the first, and under the key the same
routes, up to the status of the HTTPRoute. -/
structure PlannerSnapshot.Like (key : String) (t t' : PlannerSnapshot) : Prop where
  gateway : ∀ ns name, t'.gateway ns name = t.gateway ns name
  policies : t.SamePolicies t'
  tcp : t'.tcpRoutes.lookup key = t.tcpRoutes.lookup key
  tls : t'.tlsRoutes.lookup key = t.tlsRoutes.lookup key
  http : (t'.httpRoutes.lookup key).map (fun r => (r.metadata, r.spec)) =
    (t.httpRoutes.lookup key).map fun r => (r.metadata, r.spec)

theorem RouteEvalContext.sectionStatus_congr {ctx : RouteEvalContext} {s' : PlannerSnapshot}
    (h : ctx.snapshot.SamePolicies s') (sectionName : String) :
    sectionStatus { ctx with snapshot := s' } sectionName = ctx.sectionStatus sectionName := by
  have hcheck := funext (checkListener_congr h)
  simp only [sectionStatus, hcheck]
  rfl

theorem Route.answer_onSnapshot (input : AttachmentPlanInput) (s' : PlannerSnapshot)
    (gateway : Gateway) (ns name : String) (p : ParentReference) (route : Route) :
    route.answer (input.onSnapshot s') gateway ns name p =
      (route.answer input gateway ns name p).map fun ctx => { ctx with snapshot := s' } := by
  simp only [answer]
  have htargets : (input.onSnapshot s').Targets route = input.Targets route := rfl
  rw [htargets]
  split
  · cases route <;> rfl
  · rfl

theorem PlannerSnapshot.Like.answering {input : AttachmentPlanInput} {s' : PlannerSnapshot}
    {ns name : String} (h : input.snapshot.Like (key ns name) s') (gateway : Gateway)
    (p : ParentReference) :
    Wicket.answering (input.onSnapshot s') gateway ns name p =
      (Wicket.answering input gateway ns name p).map fun ctx => { ctx with snapshot := s' } := by
  have hkind : ∀ kind, (s'.route (key ns name) kind).bind
      (answer (input.onSnapshot s') gateway ns name p) =
      ((input.snapshot.route (key ns name) kind).bind
        (answer input gateway ns name p)).map fun ctx => { ctx with snapshot := s' } := by
    intro kind
    rw [map_bind, funext (answer_onSnapshot input s' gateway ns name p)]
    cases kind with
    | TCPRoute => rw [route, h.tcp]; rfl
    | TLSRoute => rw [route, h.tls]; rfl
    | HTTPRoute =>
      have hhttp := h.http
      simp only [route]
      cases h' : s'.httpRoutes.lookup (key ns name) with
      | none =>
        rw [h'] at hhttp
        rw [map_eq_none_iff.1 hhttp.symm]
        rfl
      | some r' =>
        rw [h'] at hhttp
        obtain ⟨r, hr, hsame⟩ := map_eq_some_iff.1 hhttp.symm
        rw [hr]
        -- the status of a route is not looked at
        obtain ⟨hmeta, hspec⟩ := Prod.mk.inj hsame
        obtain ⟨metadata, spec, status⟩ := r
        subst hmeta hspec
        rfl
  rw [Wicket.answering, Wicket.answering, map_or, map_or]
  simp only [AttachmentPlanInput.onSnapshot] at hkind ⊢
  rw [hkind, hkind, hkind]

variable {t t' : PlannerSnapshot} {route : HTTPRoute}

theorem PlannerSnapshot.Like.readCondition
    (h : t.Like (GatewayState.key (route.metadata.ns.getD "") (route.metadata.name.getD "")) t')
    (p : ParentReference) (sectionName : String) (gateway : Gateway) :
    route.readCondition t' p sectionName gateway = route.readCondition t p sectionName gateway := by
  rw [HTTPRoute.readCondition, HTTPRoute.readCondition, h.gateway]
  cases t.gateway gateway.cacheKey.1 gateway.cacheKey.2.1 with
  | none => rfl
  | some stored =>
    have hanswer := @PlannerSnapshot.Like.answering (attachmentPlanInput t gateway.cacheKey) t'
      _ _ h stored p
    have hanswered : route.answeredBy t' gateway stored p =
        (route.answeredBy t gateway stored p).map fun ctx => { ctx with snapshot := t' } :=
      hanswer
    simp only [hanswered]
    cases hctx : route.answeredBy t gateway stored p with
    | none => rfl
    | some ctx =>
      obtain ⟨route', -, rfl⟩ := exists_of_answering hctx
      refine congrArg acceptedCondition (sectionStatus_congr ?_ sectionName)
      cases route' <;> exact h.policies

theorem PlannerSnapshot.Like.someAccepted
    (h : t.Like (key (route.metadata.ns.getD "") (route.metadata.name.getD "")) t')
    (api : ClusterApi) : SomeAccepted api t' route ↔ SomeAccepted api t route := by
  refine exists_congr fun p => and_congr_right fun _ => exists_congr fun gateway =>
    and_congr_right fun _ => ?_
  cases hsection : p.sectionName with
  | none => exact Iff.rfl
  | some sectionName =>
    exact (readCondition_accepted hsection).symm.trans
      ((by rw [h.readCondition] : _ ↔ _).trans (readCondition_accepted hsection))

/-! ### One reconcile -/

section Step

variable {api : ClusterApi} {snapshot : PlannerSnapshot} {route : HTTPRoute}

structure ReadsAs (api : ClusterApi) (snapshot : PlannerSnapshot) (route : HTTPRoute)
    (p : ParentReference) (e : Condition × Option Condition) : Prop where
  read : ∀ sectionName gateway, p.sectionName = some sectionName →
    FollowedParent api (.http route) p gateway →
      e.1 = route.readCondition snapshot p sectionName gateway
  accepted : e.1.status = "True" ↔ RefAccepted api snapshot route p
  type : e.1.type = "Accepted"

structure Condition.Plain (c : Condition) : Prop where
  type : c.type = "Accepted"
  observedGeneration : c.observedGeneration = none

theorem onlyConditionFromSpec_plain (compat : ProtocolType → Bool) (gateway : Gateway)
    (sectionName : String) (port : Option UInt16) :
    (onlyConditionFromSpec compat gateway sectionName port).Plain := by
  rw [onlyConditionFromSpec]
  split
  · split
    · exact ⟨rfl, rfl⟩
    · split <;> exact ⟨rfl, rfl⟩
  · exact ⟨rfl, rfl⟩

theorem AttachmentStatus.acceptedCondition_plain (v : AttachmentStatus) :
    v.acceptedCondition.Plain := by
  rw [acceptedCondition]
  split <;> exact ⟨rfl, rfl⟩

theorem HTTPRoute.readCondition_plain (snapshot : PlannerSnapshot) (p : ParentReference)
    (sectionName : String) (gateway : Gateway) :
    (route.readCondition snapshot p sectionName gateway).Plain := by
  rw [readCondition]
  split
  · exact onlyConditionFromSpec_plain _ _ _ _
  · split
    · exact acceptedCondition_plain _
    · exact onlyConditionFromSpec_plain _ _ _ _

theorem Condition.Plain.inj {c c' : Condition} (h : c.Plain) (h' : c'.Plain) {generation : Option ℤ}
    (heq : c.withObservedGeneration generation = c'.withObservedGeneration generation) :
    c = c' := by
  obtain ⟨type, status, _, reason, message⟩ := c
  obtain ⟨type', status', _, reason', message'⟩ := c'
  obtain ⟨rfl, rfl⟩ := h
  obtain ⟨rfl, rfl⟩ := h'
  simp only [withObservedGeneration, mk.injEq, true_and] at heq ⊢
  exact heq

variable {p : ParentReference}

theorem FollowedParent.unique {r : Route} {gateway gateway' : Gateway}
    (h : FollowedParent api r p gateway) (h' : FollowedParent api r p gateway') :
    gateway' = gateway := by
  have heq := h'.found.symm.trans h.found
  cases heq
  rfl

theorem FollowedParent.readsAs (hkeyed : snapshot.KeyedRoutes) {gateway : Gateway}
    (h : FollowedParent api (.http route) p gateway) :
    ReadsAs api snapshot route p (httpReconciler.managedConditions (.Ready snapshot) gateway
      (route.metadata.ns.getD "") (route.metadata.name.getD "") p) := by
  have hunique : RefAccepted api snapshot route p ↔ match p.sectionName with
      | some sectionName => SectionAccepted snapshot route p sectionName gateway
      | none => HasCompatibleListener (.http route) p gateway := by
    constructor
    · rintro ⟨gateway', h', hacc⟩
      rwa [h.unique h'] at hacc
    · exact fun hacc => ⟨gateway, h, hacc⟩
  cases hsection : p.sectionName with
  | none =>
    simp only [hsection] at hunique
    simp only [managedConditions, hsection]
    refine ⟨fun _ _ hsome => by simp [hsection] at hsome, ?_, ?_⟩
    · rw [hunique]
      exact gatewayWide_accepted
    · rw [gatewayWideConditionFromSpec]
      split <;> rfl
  | some sectionName =>
    simp only [hsection] at hunique
    simp only [managedConditions, hsection]
    have hread := @sectionConditions_fst _ route p sectionName gateway hkeyed hsection
    refine ⟨fun sectionName' gateway' hsome h' => ?_, ?_, ?_⟩
    · rw [hsection] at hsome
      cases hsome
      rw [h.unique h']
      exact hread
    · rw [hread, hunique]
      exact readCondition_accepted hsection
    · rw [hread]
      exact (readCondition_plain snapshot p sectionName gateway).type

theorem readsAs_invalid (h : ∀ gateway, ¬FollowedParent api (.http route) p gateway)
    (message : String) :
    ReadsAs api snapshot route p (invalidParentRef message, none) where
  read _ gateway _ hfollowed := absurd hfollowed (h gateway)
  accepted := by
    constructor
    · intro hstatus
      simp [invalidParentRef, new] at hstatus
    · rintro ⟨gateway, hfollowed, -⟩
      exact absurd hfollowed (h gateway)
  type := rfl

theorem exists_readsAs (hserves : ServesRoute api (.http route)) (hkeyed : snapshot.KeyedRoutes)
    (hp : p ∈ route.spec.parentRefs) :
    ∃ e, httpReconciler.parentConditions api (.Ready snapshot) (route.metadata.ns.getD "")
        (route.metadata.name.getD "") p = .ok e ∧ ReadsAs api snapshot route p e := by
  cases hgw : api.gateway (p.ns.getD (route.metadata.ns.getD "")) p.name with
  | fault => exact absurd hgw (hserves.gateway p hp)
  | notFound =>
    refine ⟨_, by rw [parentConditions, hgw], readsAs_invalid ?_ _⟩
    intro gateway h
    cases hgw.symm.trans h.found
  | found gateway =>
    have hmanaged : ∀ gateway', FollowedParent api (.http route) p gateway' →
        ∃ gc, api.gatewayClass gateway.spec.gatewayClassName = .found gc ∧
          gc.isWicketManaged = true := by
      intro gateway' h
      cases hgw.symm.trans h.found
      exact h.managed
    cases hgc : api.gatewayClass gateway.spec.gatewayClassName with
    | fault => exact absurd hgc (hserves.gatewayClass p hp gateway hgw)
    | notFound =>
      refine ⟨_, by simp only [parentConditions, hgw, hgc],
        readsAs_invalid ?_ "Gateway is not managed by Wicket"⟩
      intro gateway' h
      obtain ⟨gc, hfound, -⟩ := hmanaged gateway' h
      cases hgc.symm.trans hfound
    | found gc =>
      cases hwicket : gc.isWicketManaged with
      | true =>
        have hfollowed : FollowedParent api (.http route) p gateway := ⟨hgw, gc, hgc, hwicket⟩
        exact ⟨_, hfollowed.parentConditions _ _, hfollowed.readsAs hkeyed⟩
      | false =>
        refine ⟨_, by simp [parentConditions, hgw, hgc, hwicket],
          readsAs_invalid ?_ "Gateway is not managed by Wicket"⟩
        intro gateway' h
        obtain ⟨gc', hfound, hwicket'⟩ := hmanaged gateway' h
        cases hgc.symm.trans hfound
        rw [hwicket] at hwicket'
        cases hwicket'

theorem acceptedCondition_statusOf {c : ParentReference → Condition × Option Condition}
    (hp : p ∈ route.spec.parentRefs) (htype : (c p).1.type = "Accepted") :
    (httpReconciler.statusOf (.http route) c).acceptedCondition p =
      some ((c p).1.withObservedGeneration route.metadata.generation) := by
  have hfind : (httpReconciler.statusOf (.http route) c).parents.find? (fun ps =>
      ps.parentRef == p) = some (httpReconciler.buildRouteParentStatus route.metadata.generation p
        (c p)) := by
    simp only [statusOf, List.find?_map]
    cases hq : (http route).parentRefs.find? ((fun ps : RouteParentStatus =>
        ps.parentRef == p) ∘ fun p => httpReconciler.buildRouteParentStatus
          (http route).metadata.generation p (c p)) with
    | none => exact absurd (List.find?_eq_none.1 hq p hp) (by
        simp [buildRouteParentStatus])
    | some q =>
      have heq : q = p := by
        simpa [buildRouteParentStatus] using List.find?_some hq
      rw [heq]
      rfl
  rw [RouteStatus.acceptedCondition, hfind]
  simp [buildRouteParentStatus, httpReconciler, withObservedGeneration, htype]

theorem RouteRun.step {x : RouteRun} (hserves : ServesRoute api (.http x.route))
    (hlive : x.route.metadata.deletionTimestamp = none)
    (hready : x.store.plannerSnapshot = .Ready snapshot) (hkeyed : snapshot.KeyedRoutes) :
    ∃ status, x.written api = some status ∧
      (∀ p sectionName gateway, p ∈ x.route.spec.parentRefs → p.sectionName = some sectionName →
        FollowedParent api (.http x.route) p gateway → status.acceptedCondition p =
          some ((x.route.readCondition snapshot p sectionName gateway).withObservedGeneration
            x.route.metadata.generation)) ∧
      (SomeAccepted api snapshot x.route ∧ x.next api =
          ⟨x.store.upsertHttpRoute (http x.route).key
            { x.route with status := some status }, { x.route with status := some status }⟩ ∨
        ¬SomeAccepted api snapshot x.route ∧ x.next api =
          ⟨x.store.removeHttpRoute (http x.route).key,
            { x.route with status := some status }⟩) := by
  have hexists : ∀ p ∈ x.route.spec.parentRefs, ∃ e, httpReconciler.parentConditions api
      (.Ready snapshot) (x.route.metadata.ns.getD "") (x.route.metadata.name.getD "") p = .ok e ∧
        ReadsAs api snapshot x.route p e := fun p hp => exists_readsAs hserves hkeyed hp
  have : Nonempty (Condition × Option Condition) := ⟨(.accepted, none)⟩
  choose! c hc hreads using hexists
  have hconditions :
      httpReconciler.HasConditions api x.store.plannerSnapshot (.http x.route) c := by
    rw [hready]
    exact hc
  have houtcome := hconditions.outcome hlive hserves.patch
  have hany : ((http x.route).parentRefs.any fun p => (c p).1.status == "True") = true ↔
      SomeAccepted api snapshot x.route := by
    rw [List.any_eq_true]
    refine exists_congr fun p => and_congr_right fun hp => ?_
    rw [beq_iff_eq]
    exact (hreads p hp).accepted
  refine ⟨httpReconciler.statusOf (.http x.route) c, ?_, ?_, ?_⟩
  · rw [RouteRun.written, reconcileHttproute, reconcile, houtcome]
    cases (http x.route).parentRefs.any fun p => (c p).1.status == "True" <;> rfl
  · intro p sectionName gateway hp hsection hfollowed
    rw [acceptedCondition_statusOf hp (hreads p hp).type,
      (hreads p hp).read sectionName gateway hsection hfollowed]
  · rw [← hany, RouteRun.next, reconcileHttproute, reconcile, houtcome]
    cases (http x.route).parentRefs.any fun p => (c p).1.status == "True" with
    | true => exact Or.inl ⟨rfl, rfl⟩
    | false => exact Or.inr ⟨by simp, rfl⟩

end Step

/-! ### All reconciles -/

structure RouteRun.Along (s : SharedStore) (route : HTTPRoute) (x : RouteRun) : Prop where
  metadata : x.route.metadata = route.metadata
  spec : x.route.spec = route.spec
  gateways : x.store.inner.gateways = s.inner.gateways
  tcpRoutes : x.store.inner.tcpRoutes = s.inner.tcpRoutes
  tlsRoutes : x.store.inner.tlsRoutes = s.inner.tlsRoutes
  servicePresence : x.store.inner.servicePresence = s.inner.servicePresence
  referenceGrants : x.store.inner.referenceGrants = s.inner.referenceGrants
  namespaceLabels : x.store.inner.namespaceLabels = s.inner.namespaceLabels
  phase : x.store.inner.phase = s.inner.phase
  keyed : x.store.inner.Keyed

section Run

variable {api : ClusterApi} {s : SharedStore} {route : HTTPRoute}

theorem StoreInner.Keyed.snapshot {inner : StoreInner} (h : inner.Keyed) :
    inner.toPlannerSnapshot.KeyedRoutes := by
  intro kind key r hr
  refine h key r ?_
  cases kind <;> obtain ⟨r', hr', rfl⟩ := map_eq_some_iff.1 hr <;> exact hr'

namespace RouteRun.Along

theorem start (hkeyed : s.inner.Keyed) : (RouteRun.mk s route).Along s route :=
  ⟨rfl, rfl, rfl, rfl, rfl, rfl, rfl, rfl, rfl, hkeyed⟩

variable {x : RouteRun}

theorem like (h : x.Along s route) {key : String} {routes : HashMap String HTTPRoute}
    (http : (x.store.inner.httpRoutes.lookup key).map (fun r => (r.metadata, r.spec)) =
      (routes.lookup key).map fun r => (r.metadata, r.spec)) :
    { s.snapshot with httpRoutes := routes }.Like key x.store.snapshot where
  gateway ns name := congrArg (lookup (GatewayState.key ns name)) h.gateways
  policies := ⟨fun ns => congrArg (lookup ns) h.namespaceLabels, h.servicePresence,
    fun key => congrArg (lookup key) h.referenceGrants⟩
  tcp := congrArg (lookup key) h.tcpRoutes
  tls := congrArg (lookup key) h.tlsRoutes
  http := http

theorem member_iff (h : x.Along s route) :
    x.Member ↔ (x.store.inner.httpRoutes.lookup (http route).key).isSome = true := by
  rw [RouteRun.Member, Route.key, Route.metadata, h.metadata]
  rfl

theorem plannerSnapshot (h : x.Along s route) (hready : s.inner.isComplete = true) :
    x.store.plannerSnapshot = .Ready x.store.snapshot := by
  have hcomplete : x.store.inner.isComplete = true := by
    rw [StoreInner.isComplete, h.phase]
    exact hready
  simp [SharedStore.plannerSnapshot, hcomplete]

variable {route' : HTTPRoute} (hmeta : route'.metadata = route.metadata)
  (hspec : route'.spec = route.spec)

include hmeta hspec

theorem upsert (h : x.Along s route) (hkey : route.metadata.KeyedBy (http route).key) :
    (RouteRun.mk (x.store.upsertHttpRoute (http route).key route') route').Along s route where
  __ := h
  metadata := hmeta
  spec := hspec
  keyed := keyed_apply (w := .upsertHttpRoute (http route).key route') h.keyed
    (by rw [StoreWrite.Keyed, hmeta]; exact hkey)

theorem remove (h : x.Along s route) :
    (RouteRun.mk (x.store.removeHttpRoute (http route).key) route').Along s route where
  __ := h
  metadata := hmeta
  spec := hspec
  keyed := keyed_apply (w := .removeHttpRoute (http route).key) h.keyed trivial

end RouteRun.Along

variable {route' : HTTPRoute} {p : ParentReference} {gateway stored : Gateway}
  {sectionName : String}

theorem FollowedParent.congr (hmeta : route'.metadata = route.metadata) :
    FollowedParent api (.http route') p gateway ↔ FollowedParent api (.http route) p gateway := by
  constructor
  · rintro ⟨hfound, hmanaged⟩
    exact ⟨by simpa only [Route.metadata, hmeta] using hfound, hmanaged⟩
  · rintro ⟨hfound, hmanaged⟩
    exact ⟨by simpa only [Route.metadata, hmeta] using hfound, hmanaged⟩

theorem someAccepted_congr (hmeta : route'.metadata = route.metadata)
    (hspec : route'.spec = route.spec) (t : PlannerSnapshot) :
    SomeAccepted api t route' ↔ SomeAccepted api t route := by
  obtain ⟨metadata, spec, status⟩ := route
  subst hmeta hspec
  exact exists_congr fun p => and_congr_right fun _ => exists_congr fun gateway =>
    and_congr (FollowedParent.congr rfl) Iff.rfl

theorem ServesRoute.congr (h : ServesRoute api (.http route))
    (hmeta : route'.metadata = route.metadata) (hspec : route'.spec = route.spec) :
    ServesRoute api (.http route') := by
  obtain ⟨metadata, spec, status⟩ := route
  subst hmeta hspec
  exact ⟨h.gateway, h.gatewayClass, h.patch⟩

open RouteRun.Along in
theorem RouteRun.Along.step {x : RouteRun} (h : x.Along s route)
    (hready : s.inner.isComplete = true) (hkey : route.metadata.KeyedBy (http route).key)
    (hlive : route.metadata.deletionTimestamp = none) (hserves : ServesRoute api (.http route)) :
    (∀ p sectionName gateway, p ∈ route.spec.parentRefs → p.sectionName = some sectionName →
      FollowedParent api (.http route) p gateway → (x.written api).bind (·.acceptedCondition p) =
        some ((route.readCondition x.store.snapshot p sectionName gateway).withObservedGeneration
          route.metadata.generation)) ∧
    (x.next api).Along s route ∧
    (SomeAccepted api x.store.snapshot route ∧ (x.next api).Member ∧
        (s.snapshotWith route).Like (http route).key (x.next api).store.snapshot ∨
      ¬SomeAccepted api x.store.snapshot route ∧ ¬(x.next api).Member ∧
        (s.snapshotWithout route).Like (http route).key (x.next api).store.snapshot) := by
  have hlive' : x.route.metadata.deletionTimestamp = none := by rw [h.metadata]; exact hlive
  have hkey' : (Route.http x.route).key = (Route.http route).key := by
    simp only [Route.key, Route.metadata, h.metadata]
  obtain ⟨status, hwritten, hconditions, hnext⟩ := RouteRun.step
    (hserves.congr h.metadata h.spec) hlive' (h.plannerSnapshot hready) h.keyed.snapshot
  rw [hkey', someAccepted_congr h.metadata h.spec] at hnext
  refine ⟨?_, ?_⟩
  · intro p sectionName gateway hp hsection hfollowed
    rw [hwritten, bind_some, hconditions p sectionName gateway (by rwa [h.spec]) hsection
      ((FollowedParent.congr h.metadata).2 hfollowed)]
    simp only [readCondition, answeredBy, h.metadata]
  · rcases hnext with ⟨hacc, hnext⟩ | ⟨hacc, hnext⟩
    · have halong := @upsert _ _ _ { x.route with status := some status } h.metadata h.spec h hkey
      have hlookup := congrArg (Option.map fun r => (r.metadata, r.spec)) <|
        @lookup_insert _ _ _ (http route).key { x.route with status := some status }
          x.store.inner.httpRoutes
      rw [hnext]
      refine ⟨halong, Or.inl ⟨hacc, halong.member_iff.2 ?_, halong.like (hlookup.trans ?_)⟩⟩
      · exact isSome_map.symm.trans (congrArg isSome hlookup)
      · refine Eq.trans ?_ (congrArg (Option.map _) (lookup_insert s.inner.httpRoutes)).symm
        simp [h.metadata, h.spec]
    · have halong := @remove _ _ _ { x.route with status := some status } h.metadata h.spec h
      have hlookup := lookup_erase (http route).key x.store.inner.httpRoutes
      rw [hnext]
      refine ⟨halong, Or.inr ⟨hacc, mt halong.member_iff.1 ?_,
        halong.like (congrArg (Option.map _) (hlookup.trans ?_))⟩⟩
      · exact fun hsome => by cases hsome.symm.trans (congrArg isSome hlookup)
      · exact (lookup_erase _ s.inner.httpRoutes).symm

/-! ### The verdict on the route itself -/

theorem ownStatus_congr {t t' : PlannerSnapshot} (h : t.SamePolicies t') (gateway stored : Gateway)
    (p : ParentReference) (sectionName : String) :
    (route.ownContext t' gateway stored p).sectionStatus sectionName =
      (route.ownContext t gateway stored p).sectionStatus sectionName :=
  @RouteEvalContext.sectionStatus_congr (route.ownContext t gateway stored p) t' h sectionName

theorem answer_snapshotWith (hkey : route.metadata.KeyedBy (http route).key)
    (hplanned : PlannedRef api s.snapshot route p sectionName gateway stored) :
    AnswersBy (attachmentPlanInput (s.snapshotWith route) gateway.cacheKey) .HTTPRoute
      (route.metadata.ns.getD "") (route.metadata.name.getD "") sectionName p.port (.http route)
      p := by
  have htargets := hplanned.parent.targets hkey (s.snapshotWith route)
  obtain ⟨ns, name, hns, hname, -⟩ := hkey
  refine ⟨⟨(http route).key, ?_⟩, ?_, ?_, hplanned.ref, htargets, hplanned.sectionName, rfl⟩
  · exact map_eq_some_iff.2 ⟨route, lookup_insert s.inner.httpRoutes, rfl⟩
  · simp [Route.metadata, planNs, hns]
  · simp [Route.metadata, planName, hname]

theorem snapshotWith_keyed (hkeyed : s.inner.Keyed)
    (hkey : route.metadata.KeyedBy (Route.http route).key) :
    (s.snapshotWith route).KeyedRoutes :=
  (keyed_apply (w := .upsertHttpRoute (http route).key route) hkeyed hkey).snapshot

theorem ownStatus_snapshotWith (gateway stored : Gateway) (p : ParentReference)
    (sectionName : String) :
    (route.ownContext (s.snapshotWith route) gateway stored p).sectionStatus sectionName =
      (route.ownContext s.snapshot gateway stored p).sectionStatus sectionName :=
  ownStatus_congr ⟨fun _ => rfl, rfl, fun _ => rfl⟩ gateway stored p sectionName

theorem readCondition_snapshotWith (hkeyed : s.inner.Keyed)
    (hkey : route.metadata.KeyedBy (http route).key)
    (hplanned : PlannedRef api s.snapshot route p sectionName gateway stored) :
    route.readCondition (s.snapshotWith route) p sectionName gateway =
      ((route.ownContext s.snapshot gateway stored p).sectionStatus
        sectionName).acceptedCondition := by
  have hgw : (s.snapshotWith route).gateway gateway.cacheKey.1 gateway.cacheKey.2.1 = some stored :=
    hplanned.stored
  have hanswer : route.answeredBy (s.snapshotWith route) gateway stored p =
      some (route.ownContext (s.snapshotWith route) gateway stored p) := by
    exact or_eq_some_iff.2 (Or.inl (or_eq_some_iff.2 (Or.inl
      ((answer_snapshotWith hkey hplanned).eq_answer (snapshotWith_keyed hkeyed hkey)
        hplanned.sectionName))))
  rw [readCondition, hgw]
  simp only [hanswer, ownStatus_snapshotWith]

theorem verdict_iff (hkeyed : s.inner.Keyed) (hkey : route.metadata.KeyedBy (http route).key)
    (hplanned : PlannedRef api s.snapshot route p sectionName gateway stored)
    {v : AttachmentStatus} :
    Verdict (s.snapshotWith route) route p sectionName gateway v ↔
      v = (route.ownContext s.snapshot gateway stored p).sectionStatus sectionName := by
  have hgw : (s.snapshotWith route).gateway gateway.cacheKey.1 gateway.cacheKey.2.1 = some stored :=
    hplanned.stored
  have hown := answer_snapshotWith hkey hplanned
  have hanswer := fun route' q (hanswers : AnswersBy (attachmentPlanInput (s.snapshotWith route)
      gateway.cacheKey) .HTTPRoute (route.metadata.ns.getD "") (route.metadata.name.getD "")
      sectionName p.port route' q) => @AnswersBy.eq_answer _ stored _ _ _ p _ _ _ hanswers
        (snapshotWith_keyed hkeyed hkey) hplanned.sectionName
  constructor
  · rintro ⟨plan, hplan, res, hres, hkind, hfor, rfl⟩
    obtain ⟨kind, hmem⟩ := (mem_routeResults hplan hgw).1 hres
    obtain ⟨hkind', -⟩ := fields_of_isFor hmem hfor
    obtain rfl : kind = .HTTPRoute := hkind'.symm.trans hkind
    obtain ⟨route', q, hanswers, rfl⟩ := mem_resultsOf_isFor.1 ⟨hmem, hfor⟩
    -- under the key there is one HTTPRoute, the route itself
    have hctx := (hanswer route' q hanswers).symm.trans (hanswer _ p hown)
    rw [some.inj hctx]
    rfl
  · rintro rfl
    obtain ⟨plan, hplan, -⟩ := @exists_attachmentPlan
      (attachmentPlanInput (s.snapshotWith route) gateway.cacheKey) _ hgw
    obtain ⟨hmem, hfor⟩ := (@mem_resultsOf_isFor _ stored _ _ _ _ _ _).2
      ⟨.http route, p, hown, rfl⟩
    exact ⟨plan, hplan, _, (mem_routeResults hplan hgw).2 ⟨_, hmem⟩, rfl, hfor, rfl⟩

/-- Who answers for the planned references agrees with the route, in the store as it is, and again
when the first reconcile takes the route out. -/
structure FeedbackAgrees (api : ClusterApi) (s : SharedStore) (route : HTTPRoute) : Prop where
  now : ∀ p sectionName gateway stored,
    PlannedRef api s.snapshot route p sectionName gateway stored →
      RefAgrees s.snapshot route p sectionName gateway stored
  kept : SomeAccepted api s.snapshot route →
    SomeAccepted api (s.snapshotWith route) route
  removed : ¬SomeAccepted api s.snapshot route →
    ¬SomeAccepted api (s.snapshotWithout route) route ∧ ∀ p sectionName gateway stored,
      PlannedRef api s.snapshot route p sectionName gateway stored →
        RefAgrees (s.snapshotWithout route) route p sectionName gateway stored

/-- What is assumed of the reconciles. -/
structure ReconcileSetting (api : ClusterApi) (s : SharedStore) (route : HTTPRoute) : Prop where
  ready : s.inner.isComplete = true
  keyed : s.inner.Keyed
  key : route.metadata.KeyedBy (Route.http route).key
  live : route.metadata.deletionTimestamp = none
  serves : ServesRoute api (.http route)

namespace ReconcileSetting

variable (h : ReconcileSetting api s route)

include h

section Planned

variable {p : ParentReference} {sectionName : String} {gateway stored : Gateway}
  (hplanned : PlannedRef api s.snapshot route p sectionName gateway stored)

include hplanned

theorem written {x : RouteRun} (hx : x.Along s route) :
    (x.written api).bind (·.acceptedCondition p) =
      some ((route.readCondition x.store.snapshot p sectionName gateway).withObservedGeneration
        route.metadata.generation) :=
  (hx.step h.ready h.key h.live h.serves).1 p sectionName gateway hplanned.ref
    hplanned.sectionName hplanned.parent.toFollowedParent

theorem written_eq_iff {x y : RouteRun} (hx : x.Along s route) (hy : y.Along s route) :
    (x.written api).bind (·.acceptedCondition p) = (y.written api).bind (·.acceptedCondition p) ↔
      route.readCondition x.store.snapshot p sectionName gateway =
        route.readCondition y.store.snapshot p sectionName gateway := by
  rw [h.written hplanned hx, h.written hplanned hy, some.injEq]
  constructor
  · exact (readCondition_plain _ p sectionName gateway).inj
      (readCondition_plain _ p sectionName gateway)
  · intro heq
    rw [heq]

theorem readCondition_iff {t : PlannerSnapshot}
    (ht : t = s.snapshot ∨ t = s.snapshotWithout route) :
    route.readCondition t p sectionName gateway =
        ((route.ownContext s.snapshot gateway stored p).sectionStatus
          sectionName).acceptedCondition ↔
      RefAgrees t route p sectionName gateway stored := by
  obtain ⟨ns, name, hns, -, -⟩ := h.key
  have hread := @readCondition_eq_iff t route p sectionName gateway stored (by rw [hns]; rfl)
    hplanned.sectionName
  rcases ht with rfl | rfl
  · exact hread hplanned.stored
  · rw [← @ownStatus_congr route s.snapshot (s.snapshotWithout route)
      ⟨fun _ => rfl, rfl, fun _ => rfl⟩]
    exact hread hplanned.stored

theorem verdict_written_iff :
    (∃ v, Verdict (s.snapshotWith route) route p sectionName gateway v ∧
        ((RouteRun.mk s route).written api).bind (·.acceptedCondition p) =
          some (v.acceptedCondition.withObservedGeneration route.metadata.generation)) ↔
      RefAgrees s.snapshot route p sectionName gateway stored := by
  rw [h.written hplanned (.start h.keyed), ← h.readCondition_iff hplanned (.inl rfl)]
  simp only [verdict_iff h.keyed h.key hplanned, exists_eq_left, some.injEq]
  constructor
  · exact (readCondition_plain _ p sectionName gateway).inj (acceptedCondition_plain _)
  · intro heq
    rw [heq]

end Planned

theorem run (hagrees : FeedbackAgrees api s route) (n : ℕ) :
    ((RouteRun.next api)^[n + 1] ⟨s, route⟩).Along s route ∧
      (SomeAccepted api s.snapshot route ∧ ((RouteRun.next api)^[n + 1] ⟨s, route⟩).Member ∧
          (s.snapshotWith route).Like (http route).key
            ((RouteRun.next api)^[n + 1] ⟨s, route⟩).store.snapshot ∨
        ¬SomeAccepted api s.snapshot route ∧ ¬((RouteRun.next api)^[n + 1] ⟨s, route⟩).Member ∧
          (s.snapshotWithout route).Like (http route).key
            ((RouteRun.next api)^[n + 1] ⟨s, route⟩).store.snapshot) := by
  -- the verdict that was fed back decides like the one it came from
  induction n with
  | zero => exact ((RouteRun.Along.start h.keyed).step h.ready h.key h.live h.serves).2
  | succ n ih =>
    obtain ⟨halong, hstate⟩ := ih
    obtain ⟨-, halong', hnext⟩ := halong.step h.ready h.key h.live h.serves
    rw [Function.iterate_succ_apply']
    refine ⟨halong', ?_⟩
    rcases hstate with ⟨hacc, -, hlike⟩ | ⟨hacc, -, hlike⟩
    · have hagain := (hlike.someAccepted api).2 (hagrees.kept hacc)
      rcases hnext with ⟨-, hnext⟩ | ⟨hnot, -⟩
      · exact Or.inl ⟨hacc, hnext⟩
      · exact absurd hagain hnot
    · have hagain := mt (hlike.someAccepted api).1 (hagrees.removed hacc).1
      rcases hnext with ⟨hyes, -⟩ | ⟨-, hnext⟩
      · exact absurd hyes hagain
      · exact Or.inr ⟨hacc, hnext⟩

theorem followsPlanner (hagrees : FeedbackAgrees api s route) : FollowsPlanner api s route where
  verdict p sectionName gateway stored hplanned :=
    (h.verdict_written_iff hplanned).2 (hagrees.now p sectionName gateway stored hplanned)
  sameCondition n p sectionName gateway stored hplanned := by
    cases n with
    | zero => rfl
    | succ n =>
      have hnow := (h.readCondition_iff hplanned (.inl rfl)).2
        (hagrees.now p sectionName gateway stored hplanned)
      obtain ⟨halong, hstate⟩ := h.run hagrees n
      refine (h.written_eq_iff hplanned halong (.start h.keyed)).2 (Eq.trans ?_ hnow.symm)
      rcases hstate with ⟨-, -, hlike⟩ | ⟨hacc, -, hlike⟩
      · rw [hlike.readCondition]
        exact readCondition_snapshotWith h.keyed h.key hplanned
      · rw [hlike.readCondition]
        exact (h.readCondition_iff hplanned (.inr rfl)).2
          ((hagrees.removed hacc).2 p sectionName gateway stored hplanned)
  sameMembership n := by
    obtain ⟨-, hstate⟩ := h.run hagrees n
    obtain ⟨-, hfirst⟩ := h.run hagrees 0
    rcases hstate with ⟨hacc, hmember, -⟩ | ⟨hacc, hmember, -⟩
    · rcases hfirst with ⟨-, hmember', -⟩ | ⟨hnot, -⟩
      · exact iff_of_true hmember hmember'
      · exact absurd hacc hnot
    · rcases hfirst with ⟨hyes, -⟩ | ⟨-, hmember', -⟩
      · exact absurd hyes hacc
      · exact iff_of_false hmember hmember'

theorem feedbackAgrees (hfollows : FollowsPlanner api s route) : FeedbackAgrees api s route := by
  have hnow := fun p sectionName gateway stored hplanned =>
    (h.verdict_written_iff hplanned).1 (hfollows.verdict p sectionName gateway stored hplanned)
  have hstart : (RouteRun.mk s route).Along s route := .start h.keyed
  obtain ⟨-, halong, hfirst⟩ := hstart.step h.ready h.key h.live h.serves
  obtain ⟨-, -, hsecond⟩ := halong.step h.ready h.key h.live h.serves
  have hmember := hfollows.sameMembership 1
  refine ⟨hnow, fun hacc => ?_, fun hacc => ?_⟩
  · rcases hfirst with ⟨-, hmember', hlike⟩ | ⟨hnot, -⟩
    · rcases hsecond with ⟨hacc', -⟩ | ⟨-, hnot, -⟩
      · exact (hlike.someAccepted api).1 hacc'
      · exact absurd (hmember.2 hmember') hnot
    · exact absurd hacc hnot
  · rcases hfirst with ⟨hyes, -⟩ | ⟨-, hmember', hlike⟩
    · exact absurd hyes hacc
    · refine ⟨fun hyes => ?_, fun p sectionName gateway stored hplanned => ?_⟩
      · rcases hsecond with ⟨-, hmember'', -⟩ | ⟨hnot, -⟩
        · exact hmember' (hmember.1 hmember'')
        · exact hnot ((hlike.someAccepted api).2 hyes)
      · have hsame := (h.written_eq_iff hplanned halong hstart).1
          (hfollows.sameCondition 1 p sectionName gateway stored hplanned)
        rw [hlike.readCondition] at hsame
        refine (h.readCondition_iff hplanned (.inr rfl)).1 (hsame.trans ?_)
        exact (h.readCondition_iff hplanned (.inl rfl)).2
          (hnow p sectionName gateway stored hplanned)

end ReconcileSetting

/-- **A route follows the planner exactly when who answers for it agrees with it**, in the store as
it is and as the first reconcile leaves it. -/
theorem followsPlanner_iff (h : ReconcileSetting api s route) :
    FollowsPlanner api s route ↔ FeedbackAgrees api s route :=
  ⟨h.feedbackAgrees, h.followsPlanner⟩

end Run

def guestRef : ParentReference :=
  { ns := some "infra", name := "shared", sectionName := some "http" }

def guestRoute : HTTPRoute where
  metadata := { ns := some "team", name := some "guest" }
  spec := { parentRefs := [guestRef] }

def guestStore (allowedRoutes : Option AllowedRoutes) : SharedStore where
  inner :=
    { gateways := KeyMap.collect [("infra/shared", sharedGateway allowedRoutes)]
      phase := .Ready }

variable (allowedRoutes : Option AllowedRoutes)

theorem guest_setting :
    ReconcileSetting (visitorApi allowedRoutes) (guestStore allowedRoutes) guestRoute where
  ready := rfl
  keyed := by
    intro key route hstored
    cases route <;> cases hstored
  key := ⟨"team", "guest", rfl, rfl, rfl⟩
  live := rfl
  serves := by
    have hfound : (visitorApi allowedRoutes).gateway "infra" "shared" =
        .found (sharedGateway allowedRoutes) := rfl
    refine ⟨fun p hp => ?_, fun p hp gateway _ => by rintro ⟨⟩, rfl⟩
    obtain rfl := List.mem_singleton.1 hp
    intro hfault
    cases hfound.symm.trans hfault

theorem guest_planned :
    PlannedRef (visitorApi allowedRoutes) (guestStore allowedRoutes).snapshot
      guestRoute guestRef "http" (sharedGateway allowedRoutes) (sharedGateway allowedRoutes) where
  ref := List.mem_singleton.2 rfl
  sectionName := rfl
  parent := ⟨⟨rfl, _, rfl, rfl⟩, Or.inr rfl, rfl, rfl, rfl⟩
  stored := rfl

/-- The planner refuses the route for its namespace; the first reconcile stores it, and the second
takes it out again. -/
theorem guestRoute_not_followsPlanner :
    ReconcileSetting (visitorApi none) (guestStore none) guestRoute ∧
      ((RouteRun.next (visitorApi none))^[1] ⟨guestStore none, guestRoute⟩).Member ∧
      ¬((RouteRun.next (visitorApi none))^[2] ⟨guestStore none, guestRoute⟩).Member ∧
      ¬FollowsPlanner (visitorApi none) (guestStore none) guestRoute := by
  have hremoved : (((RouteRun.next (visitorApi none))^[2]
      ⟨guestStore none, guestRoute⟩).store.inner.httpRoutes.lookup "team/guest").isSome =
        false := rfl
  refine ⟨guest_setting none, rfl, fun hmember => ?_, fun hfollows => ?_⟩
  · exact absurd (hremoved.symm.trans hmember) (by decide)
  · have hagrees := (guest_setting none).feedbackAgrees hfollows
    -- nobody answers yet, and the listener alone accepts the route
    obtain ⟨la, hla, -, -, haccepted⟩ := hagrees.now _ _ _ _ (guest_planned none)
    cases hla
    obtain ⟨l, hselects, hadmits⟩ := haccepted rfl rfl
    obtain rfl := List.mem_singleton.1 hselects.mem
    exact absurd hadmits.ns (by decide)

theorem guestRoute_followsPlanner :
    FollowsPlanner (visitorApi (some openToAll)) (guestStore (some openToAll)) guestRoute := by
  have hfollowed := (guest_planned (some openToAll)).parent.toFollowedParent
  have hnow : SomeAccepted (visitorApi (some openToAll))
      (guestStore (some openToAll)).snapshot guestRoute := by
    have haccepts : SpecAccepts (sharedGateway (some openToAll)) "http" none := ⟨_, rfl, rfl, rfl⟩
    exact ⟨guestRef, List.mem_singleton.2 rfl, _, hfollowed, haccepts⟩
  refine (followsPlanner_iff (guest_setting (some openToAll))).2 ⟨?_, fun _ => ?_, fun hnot => ?_⟩
  · intro p sectionName gateway stored hplanned
    obtain rfl := List.mem_singleton.1 hplanned.ref
    cases hplanned.sectionName
    cases hplanned.parent.toFollowedParent.unique hfollowed
    cases hplanned.stored
    have hspec : SpecAgrees (sharedGateway (some openToAll)) (guestRoute.ownContext
        (guestStore (some openToAll)).snapshot (sharedGateway (some openToAll))
        (sharedGateway (some openToAll)) guestRef) "http" :=
      ⟨_, rfl, fun hprotocol => (by cases hprotocol), fun _ hport => (by cases hport), fun _ _ =>
        ⟨_, ⟨rfl, rfl⟩, rfl, rfl, rfl, fun _ => rfl⟩⟩
    exact hspec
  · have hadmits : ∃ l, (guestRoute.ownContext ((guestStore (some openToAll)).snapshotWith
        guestRoute) (sharedGateway (some openToAll)) (sharedGateway (some openToAll))
        guestRef).Selects l ∧ (guestRoute.ownContext ((guestStore (some openToAll)).snapshotWith
        guestRoute) (sharedGateway (some openToAll)) (sharedGateway (some openToAll))
        guestRef).Admits l := ⟨_, ⟨rfl, rfl⟩, rfl, rfl, rfl, fun _ => rfl⟩
    exact ⟨guestRef, List.mem_singleton.2 rfl, _, hfollowed, hadmits⟩
  · exact absurd hnow hnot

end Wicket
