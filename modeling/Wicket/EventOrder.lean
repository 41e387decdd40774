/-
**The order of two events: a new route, and the endpoints of its Service.**

An EndpointSlice is dropped when no stored route refers to its Service, and nothing brings a dropped
event back.
-/

import Wicket.Endpoints
import Wicket.PlanChange
import Wicket.PlanFrame
import Wicket.StoreReadiness

namespace Wicket

open KeyMap SharedStore RouteReconciler StoreInner AList

/-! ### The event of an EndpointSlice -/

/-- Whether a stored route refers to the Service, once the store is ready. -/
def SharedStore.isServiceReferenced (s : SharedStore) (ns name : String) : Option Bool :=
  if !s.inner.isComplete then none
  else some (decide (GatewayState.key ns name ∈ s.inner.serviceRefIndex))

structure ApiRoutes where
  http : Option (List HTTPRoute) := none
  tcp : Option (List TCPRoute) := none
  tls : Option (List TLSRoute) := none

def refersByName (routeNs : Option String) (backendRefs : List BackendRef) (ns name : String) :
    Bool :=
  backendRefs.any fun b => b.nsOr (routeNs.getD "") == ns && b.name == name

def ApiRoutes.isServiceReferenced (routes : ApiRoutes) (ns name : String) : Bool :=
  ((routes.http.getD []).any fun r => refersByName r.metadata.ns r.backendRefs ns name) ||
    ((routes.tcp.getD []).any fun r => refersByName r.metadata.ns r.backendRefs ns name) ||
    (routes.tls.getD []).any fun r => refersByName r.metadata.ns r.backendRefs ns name

/-- Whether a route refers to the Service: by the index, or else by the search. -/
def isServiceReferenced (s : SharedStore) (routes : ApiRoutes) (ns name : String) : Bool :=
  (s.isServiceReferenced ns name).getD (routes.isServiceReferenced ns name)

structure SliceApi where
  routes : ApiRoutes := {}
  slices : String → String → Option (List EndpointSlice)

def SharedStore.reconcileEndpointSlice (api : SliceApi) (s : SharedStore) (slice : EndpointSlice) :
    SharedStore :=
  { s with inner := { s.inner with
    serviceEndpoints := Wicket.reconcileEndpointSlice slice (fun ns name =>
      { referenced := Wicket.isServiceReferenced s api.routes ns name
        slices := api.slices ns name })
      s.inner.serviceEndpoints } }

structure EndpointSlice.Of (slice : EndpointSlice) (ns name : String) : Prop where
  ns : slice.ns = some ns
  serviceName : slice.serviceName = some name
  named : name ≠ ""

def storeEntry (ns name : String) (slices : List EndpointSlice)
    (endpoints : HashMap String ServiceEndpoints) : HashMap String ServiceEndpoints :=
  match storedEntry ns name slices with
  | some entry => endpoints.insert (GatewayState.key ns name) entry
  | none => endpoints.erase (GatewayState.key ns name)

def SharedStore.withEndpoints (s : SharedStore) (endpoints : HashMap String ServiceEndpoints) :
    SharedStore :=
  { s with inner := { s.inner with serviceEndpoints := endpoints } }

section Event

variable {api : SliceApi} {s : SharedStore} {slice : EndpointSlice} {ns name : String}
  {slices : List EndpointSlice}

theorem isServiceReferenced_of_ready (hready : s.IsReady) (routes : ApiRoutes) :
    isServiceReferenced s routes ns name =
      decide (GatewayState.key ns name ∈ s.inner.serviceRefIndex) := by
  have hcomplete : s.inner.isComplete = true := by
    rw [isComplete, SharedStore.isReady_iff.1 hready]
  rw [isServiceReferenced, SharedStore.isServiceReferenced, hcomplete]
  rfl

theorem reconcileEndpointSlice_of_ready (hready : s.IsReady) (hslice : slice.Of ns name)
    (hlist : api.slices ns name = some slices) :
    s.reconcileEndpointSlice api slice =
      if GatewayState.key ns name ∈ s.inner.serviceRefIndex then
        s.withEndpoints (storeEntry ns name slices s.inner.serviceEndpoints)
      else s := by
  have hname : (name == "") = false := beq_eq_false_iff_ne.2 hslice.named
  simp only [SharedStore.reconcileEndpointSlice, Wicket.reconcileEndpointSlice, hslice.ns,
    hslice.serviceName, Option.getD_some, isServiceReferenced_of_ready hready, hlist, hname,
    Bool.false_eq_true, if_false]
  by_cases hmem : GatewayState.key ns name ∈ s.inner.serviceRefIndex
  · simp only [hmem, decide_true, Bool.not_true, Bool.false_eq_true, if_false, if_true]
    rfl
  · simp [hmem]

theorem lookup_storeEntry (endpoints : HashMap String ServiceEndpoints) (key : String) :
    (storeEntry ns name slices endpoints).lookup key =
      if key = GatewayState.key ns name then storedEntry ns name slices
      else endpoints.lookup key := by
  rw [storeEntry]
  split
  · rename_i entry hentry
    split
    · rename_i hkey
      rw [hkey, lookup_insert, hentry]
    · rename_i hkey
      exact lookup_insert_ne hkey
  · rename_i hentry
    split
    · rename_i hkey
      rw [hkey, lookup_erase, hentry]
    · rename_i hkey
      exact lookup_erase_ne hkey

end Event

/-! ### The verdict on a route -/

def PlannerSnapshot.withEndpoints (s : PlannerSnapshot)
    (endpoints : HashMap String ServiceEndpoints) : PlannerSnapshot :=
  { s with serviceEndpoints := endpoints }

theorem attachmentPlan_endpoints (s : PlannerSnapshot)
    (endpoints : HashMap String ServiceEndpoints) (key : String × String × ℤ) :
    attachmentPlan (attachmentPlanInput (s.withEndpoints endpoints) key) =
      attachmentPlan (attachmentPlanInput s key) := by
  have hsame : (attachmentPlanInput s key).snapshot.SameObjects (s.withEndpoints endpoints) :=
    ⟨rfl, rfl, rfl, rfl, rfl⟩
  cases hgateway : s.gateway key.1 key.2.1 with
  | none => exact attachmentPlan_eq_of_none hsame hgateway
  | some gateway =>
    refine (attachmentPlan_eq_iff hsame hgateway).2 fun ctx hctx l _ _ => ?_
    have hsnapshot := snapshot_of_mem_planEvaluations (mem_planEvaluations.2 hctx)
    have hpolicies : ctx.snapshot.SamePolicies (s.withEndpoints endpoints) := by
      rw [hsnapshot]
      exact ⟨fun _ => rfl, rfl, fun _ => rfl⟩
    exact congrArg (fun f => List.findSome? f ctx.backendRefs)
      (funext (unresolvedBackendRef_congr hpolicies _ _))

theorem outcome_endpoints (rec : RouteReconciler) (api : ClusterApi) (s : PlannerSnapshot)
    (endpoints : HashMap String ServiceEndpoints) (route : Route) :
    rec.outcome api (.Ready (s.withEndpoints endpoints)) route =
      rec.outcome api (.Ready s) route := by
  have hsection : rec.plannerParentConditionsForSectionCached (.Ready (s.withEndpoints endpoints)) =
      rec.plannerParentConditionsForSectionCached (.Ready s) := by
    funext gateway routeNs routeName sectionName port cache
    simp only [plannerParentConditionsForSectionCached, attachmentPlan_endpoints]
  have hparent : rec.parentConditionsCached api (.Ready (s.withEndpoints endpoints)) =
      rec.parentConditionsCached api (.Ready s) := by
    funext routeNs routeName p cache
    simp only [parentConditionsCached, hsection]
  have hloop : rec.reconcileParentRef api (.Ready (s.withEndpoints endpoints)) =
      rec.reconcileParentRef api (.Ready s) := by
    funext metadata st p
    simp only [reconcileParentRef, hparent]
  simp only [outcome, parentStatuses, hloop]

structure SharedStore.SameContents (s s' : SharedStore) : Prop where
  rest : { s'.inner with serviceEndpoints := s.inner.serviceEndpoints } = s.inner
  endpoints : ∀ key, s'.inner.serviceEndpoints.lookup key = s.inner.serviceEndpoints.lookup key
  reverseIndex : s'.reverseIndex = s.reverseIndex

theorem SharedStore.SameContents.configFromSnapshot_eq {s s' : SharedStore} (h : s.SameContents s')
    (gatewayNs gatewayName : String) :
    configFromSnapshot gatewayNs gatewayName s'.snapshot =
      configFromSnapshot gatewayNs gatewayName s.snapshot := by
  have hrest : s'.snapshot.withEndpoints s.inner.serviceEndpoints = s.snapshot :=
    congrArg toPlannerSnapshot h.rest
  rw [← hrest]
  refine GatewayState.SameReads.generateConfig_eq ⟨rfl, rfl, fun _ _ => Iff.rfl, fun _ _ => Iff.rfl,
    fun _ _ => Iff.rfl, ?_⟩
  exact h.endpoints

/-! ### The two orders -/

section Orders

variable {api : ClusterApi} {sliceApi : SliceApi} {s : SharedStore} {route : HTTPRoute}
  {status : RouteStatus} {slice : EndpointSlice} {ns name : String} {slices : List EndpointSlice}

def SharedStore.accepting (s : SharedStore) (route : HTTPRoute) (status : RouteStatus) :
    SharedStore :=
  s.upsertHttpRoute (Route.key (.http route)) { route with status := some status }

theorem plannerSnapshot_of_ready (hready : s.IsReady) :
    s.plannerSnapshot = .Ready s.snapshot := by
  rw [plannerSnapshot, isComplete, isReady_iff.1 hready]
  rfl

theorem reconcileHttproute_endpoints (hready : s.IsReady)
    (endpoints : HashMap String ServiceEndpoints) {s₁ : SharedStore}
    (h : reconcileHttproute api s route = .ok (s₁, .accepted status)) :
    s₁ = s.accepting route status ∧
      reconcileHttproute api (s.withEndpoints endpoints) route =
        .ok ((s.withEndpoints endpoints).accepting route status, .accepted status) := by
  obtain ⟨o, ho, heq⟩ := Check.map_eq_ok.1 h
  obtain ⟨rfl, rfl⟩ := Prod.mk.inj heq
  refine ⟨rfl, Check.map_eq_ok.2 ⟨.accepted status, ?_, rfl⟩⟩
  rw [plannerSnapshot_of_ready hready] at ho
  have hready' : (s.withEndpoints endpoints).IsReady := hready.of_phase rfl
  rw [plannerSnapshot_of_ready hready']
  exact (outcome_endpoints httpReconciler api s.snapshot endpoints (.http route)).trans ho

theorem mem_serviceRefIndex_accepting (href : ∃ b, (Route.http route).RefersTo b (ns, name)) :
    GatewayState.key ns name ∈ (s.accepting route status).inner.serviceRefIndex := by
  obtain ⟨b, hb⟩ := href
  refine (rebuildServiceIndex_exact _ _).2 ⟨Route.key (.http route),
    .http { route with status := some status }, ?_, b, (ns, name), hb, rfl⟩
  exact lookup_insert _

theorem isReady_accepting (hready : s.IsReady) : (s.accepting route status).IsReady :=
  hready.of_phase rfl

theorem reconcileEndpointSlice_accepting (hready : s.IsReady)
    (href : ∃ b, (Route.http route).RefersTo b (ns, name)) (hslice : slice.Of ns name)
    (hlist : sliceApi.slices ns name = some slices) :
    (s.accepting route status).reconcileEndpointSlice sliceApi slice =
      (s.accepting route status).withEndpoints
        (storeEntry ns name slices s.inner.serviceEndpoints) := by
  rw [reconcileEndpointSlice_of_ready (isReady_accepting hready) hslice hlist,
    if_pos (mem_serviceRefIndex_accepting href)]
  rfl

theorem sameContents_storeEntry_iff :
    (s.withEndpoints (storeEntry ns name slices s.inner.serviceEndpoints)).SameContents s ↔
      storedEntry ns name slices = s.inner.serviceEndpoints.lookup (GatewayState.key ns name) := by
  constructor
  · intro h
    have hlookup := h.endpoints (GatewayState.key ns name)
    dsimp only [withEndpoints] at hlookup
    rw [lookup_storeEntry, if_pos rfl] at hlookup
    exact hlookup.symm
  · intro hentry
    refine ⟨rfl, fun key => ?_, rfl⟩
    dsimp only [withEndpoints]
    rw [lookup_storeEntry]
    split
    · rename_i hkey
      rw [hkey, hentry]
    · rfl

end Orders

/-- **The event of an EndpointSlice and the reconcile of a route to its Service commute** exactly
when some stored route referred to the Service before, or the event would change nothing. -/
theorem events_commute_iff {api : ClusterApi} {sliceApi : SliceApi} {s s₁ : SharedStore}
    {route : HTTPRoute} {status : RouteStatus} {slice : EndpointSlice} {ns name : String}
    {slices : List EndpointSlice} (hready : s.IsReady)
    (hreconcile : reconcileHttproute api s route = .ok (s₁, .accepted status))
    (href : ∃ b, (Route.http route).RefersTo b (ns, name)) (hslice : slice.Of ns name)
    (hlist : sliceApi.slices ns name = some slices) :
    (∃ s₂, reconcileHttproute api (s.reconcileEndpointSlice sliceApi slice) route =
        .ok (s₂, .accepted status) ∧
      (s₁.reconcileEndpointSlice sliceApi slice).SameContents s₂ ∧
      ∀ gatewayNs gatewayName, configFromSnapshot gatewayNs gatewayName s₂.snapshot =
        configFromSnapshot gatewayNs gatewayName
          (s₁.reconcileEndpointSlice sliceApi slice).snapshot) ↔
    (GatewayState.key ns name ∈ s.inner.serviceRefIndex ∨
      storedEntry ns name slices = s.inner.serviceEndpoints.lookup (GatewayState.key ns name)) := by
  obtain ⟨rfl, -⟩ := reconcileHttproute_endpoints hready s.inner.serviceEndpoints hreconcile
  rw [reconcileEndpointSlice_accepting hready href hslice hlist]
  -- event first: the reconcile keeps the endpoints it finds
  have hevent := reconcileEndpointSlice_of_ready hready hslice hlist
  by_cases hmem : GatewayState.key ns name ∈ s.inner.serviceRefIndex
  · rw [if_pos hmem] at hevent
    obtain ⟨-, hsecond⟩ := reconcileHttproute_endpoints hready
      (storeEntry ns name slices s.inner.serviceEndpoints) hreconcile
    rw [hevent, hsecond]
    simp only [hmem, true_or, iff_true]
    exact ⟨_, rfl, ⟨rfl, fun _ => rfl, rfl⟩, fun _ _ => rfl⟩
  · rw [if_neg hmem] at hevent
    rw [hevent, hreconcile]
    simp only [hmem, false_or]
    have hsame := @sameContents_storeEntry_iff (s.accepting route status) ns name slices
    constructor
    · rintro ⟨s₂, hs₂, hcontents, -⟩
      obtain ⟨rfl, -⟩ := Prod.mk.inj (Except.ok.inj hs₂)
      exact hsame.1 hcontents
    · intro hentry
      have hcontents := hsame.2 hentry
      exact ⟨_, rfl, hcontents, hcontents.configFromSnapshot_eq⟩

/-! ### A route whose Service was ready first -/

def counterGateway : Gateway where
  metadata := { ns := some "shop", name := some "counter" }
  spec :=
    { gatewayClassName := "wicket"
      listeners := [{ name := "http", port := 80, protocol := .HTTP }] }

def counterApi : ClusterApi where
  gateway _ _ := .found counterGateway
  gatewayClass _ := .found
    { metadata := { ns := none, name := some "wicket" }, controllerName := wicketControllerName }

def stockRoute (name : String) : HTTPRoute where
  metadata := { ns := some "shop", name := some name }
  spec :=
    { parentRefs := [{ name := "counter" }]
      rules := [{ backendRefs := [⟨{ name := "stock", port := some 80 }⟩] }] }

def stockSlice : EndpointSlice where
  ns := some "shop"
  serviceName := some "stock"
  endpoints := [{ addresses := ["10.0.0.1"] }]
  ports := some [{ port := some 8080 }]

def stockApi : SliceApi where
  slices _ _ := some [stockSlice]

def counterStore (routes : HashMap String HTTPRoute) : SharedStore :=
  .reindexed <| StoreInner.rebuildServiceIndex
    { gateways := collect [("shop/counter", counterGateway)]
      httpRoutes := routes
      phase := .Ready }

def stockStatus : RouteStatus :=
  ⟨[⟨{ name := "counter" }, wicketControllerName, [.accepted, .resolvedRefs]⟩]⟩

theorem reconcile_stockRoute (s : SharedStore) (name : String) :
    reconcileHttproute counterApi s (stockRoute name) =
      .ok (s.accepting (stockRoute name) stockStatus, .accepted stockStatus) := rfl

theorem stockRoute_refersTo (name : String) :
    ∃ b, (Route.http (stockRoute name)).RefersTo b ("shop", "stock") :=
  ⟨_, List.mem_singleton.2 rfl, rfl, rfl⟩

theorem stockSlice_of : stockSlice.Of "shop" "stock" := ⟨rfl, rfl, by decide⟩

theorem counterStore_ready (routes : HashMap String HTTPRoute) : (counterStore routes).IsReady :=
  isReady_iff.2 rfl

theorem stockRoute_commutes :
    ∃ s₂, reconcileHttproute counterApi ((counterStore (collect [("shop/old",
          stockRoute "old")])).reconcileEndpointSlice stockApi stockSlice) (stockRoute "new") =
        .ok (s₂, .accepted stockStatus) ∧
      (((counterStore (collect [("shop/old", stockRoute "old")])).accepting
        (stockRoute "new") stockStatus).reconcileEndpointSlice stockApi
          stockSlice).SameContents s₂ ∧
      ∀ gatewayNs gatewayName, configFromSnapshot gatewayNs gatewayName s₂.snapshot =
        configFromSnapshot gatewayNs gatewayName
          (((counterStore (collect [("shop/old", stockRoute "old")])).accepting
            (stockRoute "new") stockStatus).reconcileEndpointSlice stockApi
              stockSlice).snapshot := by
  refine (events_commute_iff (counterStore_ready _) (reconcile_stockRoute _ "new")
    (stockRoute_refersTo "new") stockSlice_of rfl).2 (Or.inl ?_)
  exact (rebuildServiceIndex_exact _ _).2 ⟨"shop/old", .http (stockRoute "old"), rfl, _, _,
    (stockRoute_refersTo "old").choose_spec, rfl⟩

def stockRule : HttpRule :=
  ⟨"shop/new", { stockRoute "new" with status := some stockStatus }, 0,
    { backendRefs := [⟨{ name := "stock", port := some 80 }⟩] }⟩

def counterState (s : SharedStore) : GatewayState :=
  configState "shop" "counter" s.snapshot

theorem exists_config_of_stockRule {s : SharedStore}
    (hlive : liveRules (counterState s) = [stockRule]) :
    ∃ c, configFromSnapshot "shop" "counter" s.snapshot = .ok c ∧
      c.upstreams[stockRule.upstreamName]? =
        some { backends := stockRule.backends (counterState s) } := by
  obtain ⟨c, hc⟩ := exists_generateConfig.2
    (@splittable_of_timeouts (counterState s) (by rw [hlive]; simp [stockRule]))
  exact ⟨c, hc, upstream_of_liveRules_singleton (isGenerated_of_eq_ok hc) hlive⟩

theorem stockEndpoints_lost :
    ∃ s₂, reconcileHttproute counterApi
        ((counterStore ∅).reconcileEndpointSlice stockApi stockSlice) (stockRoute "new") =
          .ok (s₂, .accepted stockStatus) ∧
      s₂.inner.serviceEndpoints.lookup "shop/stock" = none ∧
      (((counterStore ∅).accepting (stockRoute "new") stockStatus).reconcileEndpointSlice stockApi
        stockSlice).inner.serviceEndpoints.lookup "shop/stock" =
          some { ns := "shop", name := "stock", endpoints := ["10.0.0.1:8080"] } ∧
      configFromSnapshot "shop" "counter" s₂.snapshot ≠
        configFromSnapshot "shop" "counter" (((counterStore ∅).accepting (stockRoute "new")
          stockStatus).reconcileEndpointSlice stockApi stockSlice).snapshot := by
  refine ⟨_, reconcile_stockRoute _ "new", rfl, rfl, fun heq => ?_⟩
  obtain ⟨c, hc, hbackends⟩ := @exists_config_of_stockRule
    (((counterStore ∅).reconcileEndpointSlice stockApi stockSlice).accepting (stockRoute "new")
      stockStatus) rfl
  obtain ⟨c', hc', hbackends'⟩ := @exists_config_of_stockRule
    (((counterStore ∅).accepting (stockRoute "new") stockStatus).reconcileEndpointSlice stockApi
      stockSlice) rfl
  obtain rfl : c = c' := Except.ok.inj (hc.symm.trans (heq.trans hc'))
  -- the name of the Service against its address
  have hsame := congrArg (Option.map UpstreamConfig.backends) (hbackends.symm.trans hbackends')
  exact absurd hsame (by decide)

end Wicket
