/-
**The shared store and its indices.**

Two indices lead from Services, routes, Secrets and grants to what refers to them.  Whatever writes
a route or a Gateway computes them anew, in nested loops.
-/

import Mathlib.Data.Finset.Sort
import Mathlib.Data.Prod.Lex
import Wicket.Attachment

namespace Wicket

open KeyMap
open Check

/-! ### The stored resources -/

inductive ResourceClass
  | GatewayClasses
  | ReferenceGrants
  | Gateways
  | HttpRoutes
  | TcpRoutes
  | TlsRoutes
  | Services
  | Endpoints
  | Secrets
  deriving DecidableEq

def ResourceClass.all : List ResourceClass :=
  [.GatewayClasses, .ReferenceGrants, .Gateways, .HttpRoutes, .TcpRoutes, .TlsRoutes, .Services,
    .Endpoints, .Secrets]

inductive StorePhase
  | Warming (listed : Finset ResourceClass)
  | Ready

/-- The store.  A snapshot for the planner is a copy of its first part. -/
structure StoreInner extends PlannerSnapshot where
  gatewayClasses : HashMap String GatewayClass := ∅
  serviceRefIndex : Finset String := ∅
  phase : StorePhase := .Warming ∅

/-- A snapshot that a planner may use, or the news that there is none yet. -/
inductive SnapshotResult (α : Type)
  | NotReady
  | Ready (snapshot : α)

def StoreInner.isComplete (inner : StoreInner) : Bool :=
  match inner.phase with
  | .Warming _ => false
  | .Ready => true

/-! ### The index of Services -/

def isCoreServiceRef (group kind : String) : Bool :=
  group == "" && (kind == "" || kind == "Service")

def indexService (routeNs : String) (index : Finset String) (b : BackendRef) : Finset String :=
  if !isCoreServiceRef b.group b.kind then index
  else insert (GatewayState.key (b.nsOr routeNs) b.name) index

def indexServices {ρ : Type} (metadata : ρ → ObjectMeta) (backendRefs : ρ → List BackendRef)
    (routes : HashMap String ρ) (index : Finset String) : Finset String :=
  (values routes).foldl (fun index r =>
    (backendRefs r).foldl (indexService (metadata r).planNs) index) index

def StoreInner.rebuildServiceIndex (inner : StoreInner) : StoreInner :=
  { inner with
    serviceRefIndex :=
      indexServices TLSRoute.metadata TLSRoute.backendRefs inner.tlsRoutes <|
      indexServices TCPRoute.metadata TCPRoute.backendRefs inner.tcpRoutes <|
      indexServices HTTPRoute.metadata HTTPRoute.backendRefs inner.httpRoutes ∅ }

/-! ### The reverse index -/

abbrev ObjectKey : Type := String × String

structure ReverseIndexInner where
  httpRouteToGateways : HashMap ObjectKey (Finset ObjectKey) := ∅
  tcpRouteToGateways : HashMap ObjectKey (Finset ObjectKey) := ∅
  tlsRouteToGateways : HashMap ObjectKey (Finset ObjectKey) := ∅
  serviceToGateways : HashMap ObjectKey (Finset ObjectKey) := ∅
  secretToGateways : HashMap ObjectKey (Finset ObjectKey) := ∅
  referenceGrantToGateways : HashMap ObjectKey (Finset ObjectKey) := ∅

def ParentReference.isGateway (p : ParentReference) : Bool :=
  (p.group == "" || p.group == gatewayApiGroup) && p.kind == "Gateway"

def routeParentGateways (routeNs : String) (parentRefs : List ParentReference) :
    Finset ObjectKey :=
  parentRefs.foldl (fun gateways p =>
    if !p.isGateway then gateways else insert (p.ns.getD routeNs, p.name) gateways) ∅

def ReverseIndexInner.indexGrant (idx : ReverseIndexInner) (fromNs : String) (key : ObjectKey)
    (gateways : Finset ObjectKey) : ReverseIndexInner :=
  if key.1 != fromNs then
    { idx with
      referenceGrantToGateways := extend idx.referenceGrantToGateways key gateways }
  else idx

def ReverseIndexInner.indexCertRef (gatewayKey : ObjectKey) (idx : ReverseIndexInner)
    (ref : SecretObjectReference) : ReverseIndexInner :=
  let certKey : ObjectKey := (ref.ns.getD gatewayKey.1, ref.name)
  ReverseIndexInner.indexGrant
    { idx with secretToGateways := extend idx.secretToGateways certKey {gatewayKey} }
    gatewayKey.1 certKey {gatewayKey}

def Gateway.indexKey (gateway : Gateway) : ObjectKey :=
  (gateway.gwNs, gateway.metadata.planName)

def ReverseIndexInner.indexGateway (idx : ReverseIndexInner) (gateway : Gateway) :
    ReverseIndexInner :=
  gateway.spec.listeners.foldl (fun idx l =>
    l.certificateRefs.foldl (ReverseIndexInner.indexCertRef gateway.indexKey) idx) idx

def ReverseIndexInner.indexBackendRef (routeNs : String) (gateways : Finset ObjectKey)
    (idx : ReverseIndexInner) (b : BackendRef) : ReverseIndexInner :=
  if !isCoreServiceRef b.group b.kind then idx
  else
    let serviceKey : ObjectKey := (b.nsOr routeNs, b.name)
    ReverseIndexInner.indexGrant
      { idx with serviceToGateways := extend idx.serviceToGateways serviceKey gateways }
      routeNs serviceKey gateways

/-- Adds the parents of a route under the route itself, in the map of its kind. -/
def ReverseIndexInner.recordRoute (idx : ReverseIndexInner) (kind : RouteKind) (key : ObjectKey)
    (gateways : Finset ObjectKey) : ReverseIndexInner :=
  match kind with
  | .HTTPRoute => { idx with httpRouteToGateways := idx.httpRouteToGateways.insert key gateways }
  | .TCPRoute => { idx with tcpRouteToGateways := idx.tcpRouteToGateways.insert key gateways }
  | .TLSRoute => { idx with tlsRouteToGateways := idx.tlsRouteToGateways.insert key gateways }

def ReverseIndexInner.indexRoute {ρ : Type} (kind : RouteKind) (metadata : ρ → ObjectMeta)
    (parentRefs : ρ → List ParentReference) (backendRefs : ρ → List BackendRef)
    (idx : ReverseIndexInner) (route : ρ) : ReverseIndexInner :=
  let routeNs := (metadata route).planNs
  let gateways := routeParentGateways routeNs (parentRefs route)
  (backendRefs route).foldl (ReverseIndexInner.indexBackendRef routeNs gateways)
    (idx.recordRoute kind (routeNs, (metadata route).planName) gateways)

def rebuildFromStore (inner : StoreInner) : ReverseIndexInner :=
  let idx := (values inner.gateways).foldl ReverseIndexInner.indexGateway {}
  let idx := (values inner.httpRoutes).foldl (ReverseIndexInner.indexRoute .HTTPRoute
    HTTPRoute.metadata (fun r => r.spec.parentRefs) HTTPRoute.backendRefs) idx
  let idx := (values inner.tcpRoutes).foldl (ReverseIndexInner.indexRoute .TCPRoute
    TCPRoute.metadata (fun r => r.spec.parentRefs) TCPRoute.backendRefs) idx
  (values inner.tlsRoutes).foldl (ReverseIndexInner.indexRoute .TLSRoute
    TLSRoute.metadata (fun r => r.spec.parentRefs) TLSRoute.backendRefs) idx

def gatewaysForKey (map : HashMap ObjectKey (Finset ObjectKey)) (ns name : String) :
    List ObjectKey :=
  (((setAt map (ns, name)).map toLex.toEmbedding).sort (· ≤ ·)).map ofLex

def ReverseIndexInner.routeToGateways (idx : ReverseIndexInner) :
    RouteKind → HashMap ObjectKey (Finset ObjectKey)
  | .HTTPRoute => idx.httpRouteToGateways
  | .TCPRoute => idx.tcpRouteToGateways
  | .TLSRoute => idx.tlsRouteToGateways

/-! ### What a search through the stored objects finds -/

def StoreInner.Stores (inner : StoreInner) (key : String) : Route → Prop
  | .http route => inner.httpRoutes.lookup key = some route
  | .tcp route => inner.tcpRoutes.lookup key = some route
  | .tls route => inner.tlsRoutes.lookup key = some route

def Route.HasParent (route : Route) (g : ObjectKey) : Prop :=
  ∃ p ∈ route.parentRefs, p.isGateway = true ∧ (p.ns.getD route.metadata.planNs, p.name) = g

def Route.RefersTo (route : Route) (b : BackendRef) (service : ObjectKey) : Prop :=
  b ∈ route.backendRefs ∧ isCoreServiceRef b.group b.kind = true ∧
    (b.nsOr route.metadata.planNs, b.name) = service

def Gateway.HasCertificate (gateway : Gateway) (secret : ObjectKey) : Prop :=
  ∃ l ∈ gateway.spec.listeners, ∃ ref ∈ l.certificateRefs,
    (ref.ns.getD gateway.gwNs, ref.name) = secret

namespace StoreInner

variable (inner : StoreInner)

def ReferencesService (key : String) : Prop :=
  ∃ k route, inner.Stores k route ∧
    ∃ b service, route.RefersTo b service ∧ key = GatewayState.key service.1 service.2

def RouteLeadsTo (kind : RouteKind) (key g : ObjectKey) : Prop :=
  ∃ k route, inner.Stores k route ∧ route.kind = kind ∧
    (route.metadata.planNs, route.metadata.planName) = key ∧ route.HasParent g

def ServiceLeadsTo (service g : ObjectKey) : Prop :=
  ∃ k route, inner.Stores k route ∧ (∃ b, route.RefersTo b service) ∧ route.HasParent g

def SecretLeadsTo (secret g : ObjectKey) : Prop :=
  ∃ k gateway, inner.gateways.lookup k = some gateway ∧ gateway.indexKey = g ∧
    gateway.HasCertificate secret

def GrantLeadsTo (target g : ObjectKey) : Prop :=
  (∃ k gateway, inner.gateways.lookup k = some gateway ∧ gateway.indexKey = g ∧
    gateway.HasCertificate target ∧ target.1 ≠ gateway.gwNs) ∨
  ∃ k route, inner.Stores k route ∧ (∃ b, route.RefersTo b target) ∧
    target.1 ≠ route.metadata.planNs ∧ route.HasParent g

end StoreInner

structure ReverseExact (idx : ReverseIndexInner) (inner : StoreInner) : Prop where
  route : ∀ kind ns name g,
    g ∈ gatewaysForKey (idx.routeToGateways kind) ns name ↔ inner.RouteLeadsTo kind (ns, name) g
  service : ∀ ns name g,
    g ∈ gatewaysForKey idx.serviceToGateways ns name ↔ inner.ServiceLeadsTo (ns, name) g
  secret : ∀ ns name g,
    g ∈ gatewaysForKey idx.secretToGateways ns name ↔ inner.SecretLeadsTo (ns, name) g
  referenceGrant : ∀ ns name g,
    g ∈ gatewaysForKey idx.referenceGrantToGateways ns name ↔ inner.GrantLeadsTo (ns, name) g

def ServicesExact (inner : StoreInner) : Prop :=
  ∀ key, key ∈ inner.serviceRefIndex ↔ inner.ReferencesService key

variable {ns name : String} {g : ObjectKey} {inner : StoreInner}

theorem mem_gatewaysForKey {map : HashMap ObjectKey (Finset ObjectKey)} :
    g ∈ gatewaysForKey map ns name ↔ g ∈ setAt map (ns, name) := by
  simp [gatewaysForKey]

/-! ### The computed index of Services -/

variable {ρ : Type} {key : String} {kind : RouteKind}

theorem mem_indexServices {metadata : ρ → ObjectMeta} {backendRefs : ρ → List BackendRef}
    {routes : HashMap String ρ} {index : Finset String} :
    key ∈ indexServices metadata backendRefs routes index ↔ key ∈ index ∨
      ∃ r ∈ values routes, ∃ b ∈ backendRefs r, isCoreServiceRef b.group b.kind = true ∧
        key = GatewayState.key (b.nsOr (metadata r).planNs) b.name := by
  have hstep : ∀ (ns : String) (index : Finset String) (b : BackendRef),
      key ∈ indexService ns index b ↔ key ∈ index ∨
        isCoreServiceRef b.group b.kind = true ∧ key = GatewayState.key (b.nsOr ns) b.name := by
    intro ns index b
    rw [indexService]
    cases isCoreServiceRef b.group b.kind <;> simp [or_comm]
  exact foldl_iff (key ∈ ·)
    (fun index r => foldl_iff (key ∈ ·) (hstep (metadata r).planNs) (backendRefs r) index)
    (values routes) index

theorem StoreInner.exists_stores_iff {P : Route → Prop} :
    (∃ k route, inner.Stores k route ∧ P route) ↔
      ((∃ r ∈ values inner.httpRoutes, P (.http r)) ∨
        ∃ r ∈ values inner.tcpRoutes, P (.tcp r)) ∨
      ∃ r ∈ values inner.tlsRoutes, P (.tls r) := by
  simp only [mem_values]
  constructor
  · rintro ⟨k, route, hstores, h⟩
    cases route with
    | http r => exact Or.inl (Or.inl ⟨r, ⟨k, hstores⟩, h⟩)
    | tcp r => exact Or.inl (Or.inr ⟨r, ⟨k, hstores⟩, h⟩)
    | tls r => exact Or.inr ⟨r, ⟨k, hstores⟩, h⟩
  · rintro ((⟨r, ⟨k, hr⟩, h⟩ | ⟨r, ⟨k, hr⟩, h⟩) | ⟨r, ⟨k, hr⟩, h⟩)
    · exact ⟨k, .http r, hr, h⟩
    · exact ⟨k, .tcp r, hr, h⟩
    · exact ⟨k, .tls r, hr, h⟩

theorem rebuildServiceIndex_exact (inner : StoreInner) :
    ServicesExact inner.rebuildServiceIndex := by
  intro key
  have hrefers : ∀ route : Route, (∃ b service, route.RefersTo b service ∧
      key = GatewayState.key service.1 service.2) ↔ ∃ b ∈ route.backendRefs,
        isCoreServiceRef b.group b.kind = true ∧
          key = GatewayState.key (b.nsOr route.metadata.planNs) b.name := by
    intro route
    constructor
    · rintro ⟨b, service, ⟨hb, hcore, rfl⟩, hkey⟩
      exact ⟨b, hb, hcore, hkey⟩
    · rintro ⟨b, hb, hcore, hkey⟩
      exact ⟨b, _, ⟨hb, hcore, rfl⟩, hkey⟩
  rw [StoreInner.ReferencesService, StoreInner.exists_stores_iff]
  simp only [hrefers, StoreInner.rebuildServiceIndex, mem_indexServices, Finset.notMem_empty,
    false_or]
  rfl

/-! ### The computed reverse index -/

theorem mem_routeParentGateways {routeNs : String} {parentRefs : List ParentReference} :
    g ∈ routeParentGateways routeNs parentRefs ↔
      ∃ p ∈ parentRefs, p.isGateway = true ∧ (p.ns.getD routeNs, p.name) = g := by
  have hstep : ∀ (gateways : Finset ObjectKey) (p : ParentReference),
      (g ∈ if !p.isGateway then gateways else insert (p.ns.getD routeNs, p.name) gateways) ↔
        g ∈ gateways ∨ p.isGateway = true ∧ (p.ns.getD routeNs, p.name) = g := by
    intro gateways p
    cases p.isGateway <;> simp [or_comm, eq_comm]
  rw [routeParentGateways, foldl_iff (g ∈ ·) hstep]
  simp

theorem mem_routeParentGateways_iff {route : Route} :
    g ∈ routeParentGateways route.metadata.planNs route.parentRefs ↔ route.HasParent g :=
  mem_routeParentGateways

/-- The second index has what the first has, and leads from the given Secrets, Services and granted
targets to the given Gateways besides. -/
structure IndexAdds (secret service grant : ObjectKey → ObjectKey → Prop)
    (idx idx' : ReverseIndexInner) : Prop where
  secret : ∀ k g, g ∈ setAt idx'.secretToGateways k ↔
    g ∈ setAt idx.secretToGateways k ∨ secret k g
  service : ∀ k g, g ∈ setAt idx'.serviceToGateways k ↔
    g ∈ setAt idx.serviceToGateways k ∨ service k g
  grant : ∀ k g, g ∈ setAt idx'.referenceGrantToGateways k ↔
    g ∈ setAt idx.referenceGrantToGateways k ∨ grant k g

theorem IndexAdds.foldl {α : Type} {step : ReverseIndexInner → α → ReverseIndexInner}
    {secret service grant : α → ObjectKey → ObjectKey → Prop}
    (h : ∀ idx a, IndexAdds (secret a) (service a) (grant a) idx (step idx a)) (l : List α)
    (idx : ReverseIndexInner) :
    IndexAdds (fun k g => ∃ a ∈ l, secret a k g) (fun k g => ∃ a ∈ l, service a k g)
      (fun k g => ∃ a ∈ l, grant a k g) idx (l.foldl step idx) where
  secret k g := foldl_iff (fun idx => g ∈ setAt idx.secretToGateways k)
    (fun idx a => (h idx a).secret k g) l idx
  service k g := foldl_iff (fun idx => g ∈ setAt idx.serviceToGateways k)
    (fun idx a => (h idx a).service k g) l idx
  grant k g := foldl_iff (fun idx => g ∈ setAt idx.referenceGrantToGateways k)
    (fun idx a => (h idx a).grant k g) l idx

variable (idx : ReverseIndexInner)

theorem indexGrant_adds (fromNs : String) (key : ObjectKey)
    (gateways : Finset ObjectKey) :
    IndexAdds (fun _ _ => False) (fun _ _ => False)
      (fun k g => key.1 ≠ fromNs ∧ key = k ∧ g ∈ gateways) idx
      (idx.indexGrant fromNs key gateways) := by
  rw [ReverseIndexInner.indexGrant]
  by_cases hns : key.1 = fromNs
  · simp only [hns, bne_self_eq_false, Bool.false_eq_true, if_false, ne_eq, not_true_eq_false,
      false_and]
    exact ⟨by simp, by simp, by simp⟩
  · simp only [bne_iff_ne, ne_eq, hns, not_false_eq_true, if_true, true_and]
    exact ⟨by simp, by simp, fun k g => mem_setAt_extend⟩

theorem indexCertRef_adds (gatewayKey : ObjectKey) (idx : ReverseIndexInner)
    (ref : SecretObjectReference) :
    IndexAdds (fun k g => (ref.ns.getD gatewayKey.1, ref.name) = k ∧ gatewayKey = g)
      (fun _ _ => False)
      (fun k g => ref.ns.getD gatewayKey.1 ≠ gatewayKey.1 ∧
        (ref.ns.getD gatewayKey.1, ref.name) = k ∧ gatewayKey = g)
      idx (idx.indexCertRef gatewayKey ref) := by
  have hgrant := fun idx => indexGrant_adds idx gatewayKey.1
    (ref.ns.getD gatewayKey.1, ref.name) {gatewayKey}
  refine ⟨fun k g => ?_, fun k g => (hgrant _).service k g, fun k g => ?_⟩
  · refine ((hgrant _).secret k g).trans ?_
    rw [or_false, mem_setAt_extend, Finset.mem_singleton, eq_comm (a := g)]
  · refine ((hgrant _).grant k g).trans ?_
    rw [Finset.mem_singleton, eq_comm (a := g)]

theorem indexGateway_adds (gateway : Gateway) :
    IndexAdds (fun k g => gateway.HasCertificate k ∧ gateway.indexKey = g) (fun _ _ => False)
      (fun k g => gateway.HasCertificate k ∧ k.1 ≠ gateway.gwNs ∧ gateway.indexKey = g)
      idx (idx.indexGateway gateway) := by
  have h := IndexAdds.foldl (fun idx l => IndexAdds.foldl (indexCertRef_adds gateway.indexKey)
    l.certificateRefs idx) gateway.spec.listeners idx
  refine ⟨fun k g => (h.secret k g).trans (or_congr_right ?_),
    fun k g => (h.service k g).trans (or_congr_right (by simp)),
    fun k g => (h.grant k g).trans (or_congr_right ?_)⟩
  · constructor
    · rintro ⟨l, hl, ref, href, hk, hg⟩
      exact ⟨⟨l, hl, ref, href, hk⟩, hg⟩
    · rintro ⟨⟨l, hl, ref, href, hk⟩, hg⟩
      exact ⟨l, hl, ref, href, hk, hg⟩
  · constructor
    · rintro ⟨l, hl, ref, href, hne, rfl, hg⟩
      exact ⟨⟨l, hl, ref, href, rfl⟩, hne, hg⟩
    · rintro ⟨⟨l, hl, ref, href, rfl⟩, hne, hg⟩
      exact ⟨l, hl, ref, href, hne, rfl, hg⟩

theorem indexBackendRef_adds (routeNs : String) (gateways : Finset ObjectKey)
    (idx : ReverseIndexInner) (b : BackendRef) :
    IndexAdds (fun _ _ => False)
      (fun k g => isCoreServiceRef b.group b.kind = true ∧ (b.nsOr routeNs, b.name) = k ∧
        g ∈ gateways)
      (fun k g => isCoreServiceRef b.group b.kind = true ∧ b.nsOr routeNs ≠ routeNs ∧
        (b.nsOr routeNs, b.name) = k ∧ g ∈ gateways)
      idx (idx.indexBackendRef routeNs gateways b) := by
  rw [ReverseIndexInner.indexBackendRef]
  cases isCoreServiceRef b.group b.kind with
  | false => exact ⟨by simp, by simp, by simp⟩
  | true =>
    have hgrant := fun idx => indexGrant_adds idx routeNs (b.nsOr routeNs, b.name) gateways
    simp only [true_and]
    refine ⟨fun k g => (hgrant _).secret k g, fun k g => ?_, fun k g => (hgrant _).grant k g⟩
    refine ((hgrant _).service k g).trans ?_
    rw [or_false, mem_setAt_extend]

theorem indexRoute_adds (kind : RouteKind) (toRoute : ρ → Route) (metadata : ρ → ObjectMeta)
    (parentRefs : ρ → List ParentReference) (backendRefs : ρ → List BackendRef)
    (hmeta : ∀ r, (toRoute r).metadata = metadata r)
    (hparents : ∀ r, (toRoute r).parentRefs = parentRefs r)
    (hbackends : ∀ r, (toRoute r).backendRefs = backendRefs r) (idx : ReverseIndexInner) (r : ρ) :
    IndexAdds (fun _ _ => False)
      (fun k g => (∃ b, (toRoute r).RefersTo b k) ∧ (toRoute r).HasParent g)
      (fun k g => (∃ b, (toRoute r).RefersTo b k) ∧ k.1 ≠ (toRoute r).metadata.planNs ∧
        (toRoute r).HasParent g)
      idx (idx.indexRoute kind metadata parentRefs backendRefs r) := by
  have h := IndexAdds.foldl (indexBackendRef_adds (metadata r).planNs
    (routeParentGateways (metadata r).planNs (parentRefs r))) (backendRefs r)
    (idx.recordRoute kind ((metadata r).planNs, (metadata r).planName)
      (routeParentGateways (metadata r).planNs (parentRefs r)))
  -- the record of the route itself is in none of the three maps
  have hrecord : ∀ key gateways, (idx.recordRoute kind key gateways).secretToGateways =
      idx.secretToGateways ∧ (idx.recordRoute kind key gateways).serviceToGateways =
      idx.serviceToGateways ∧ (idx.recordRoute kind key gateways).referenceGrantToGateways =
      idx.referenceGrantToGateways := by
    intro key gateways
    cases kind <;> exact ⟨rfl, rfl, rfl⟩
  have hparent : ∀ g, g ∈ routeParentGateways (metadata r).planNs (parentRefs r) ↔
      (toRoute r).HasParent g := by
    intro g
    rw [← mem_routeParentGateways_iff, hmeta, hparents]
  refine ⟨fun k g => ?_, fun k g => ?_, fun k g => ?_⟩
  · refine (h.secret k g).trans ?_
    rw [(hrecord _ _).1]
    simp
  · refine (h.service k g).trans ?_
    rw [(hrecord _ _).2.1]
    refine or_congr_right ?_
    simp only [hparent, Route.RefersTo, hbackends, hmeta]
    constructor
    · rintro ⟨b, hb, hcore, hk, hg⟩
      exact ⟨⟨b, hb, hcore, hk⟩, hg⟩
    · rintro ⟨⟨b, hb, hcore, hk⟩, hg⟩
      exact ⟨b, hb, hcore, hk, hg⟩
  · refine (h.grant k g).trans ?_
    rw [(hrecord _ _).2.2]
    refine or_congr_right ?_
    simp only [hparent, Route.RefersTo, hbackends, hmeta]
    constructor
    · rintro ⟨b, hb, hcore, hne, rfl, hg⟩
      exact ⟨⟨b, hb, hcore, rfl⟩, hne, hg⟩
    · rintro ⟨⟨b, hb, hcore, rfl⟩, hne, hg⟩
      exact ⟨b, hb, hcore, hne, rfl, hg⟩

theorem indexGrant_routes (fromNs : String) (key : ObjectKey)
    (gateways : Finset ObjectKey) :
    (idx.indexGrant fromNs key gateways).routeToGateways = idx.routeToGateways := by
  rw [ReverseIndexInner.indexGrant]
  split <;> rfl

theorem indexGateway_routes (gateway : Gateway) :
    (idx.indexGateway gateway).routeToGateways = idx.routeToGateways := by
  refine foldl_keeps ReverseIndexInner.routeToGateways (fun idx l => ?_) _ idx
  refine foldl_keeps ReverseIndexInner.routeToGateways (fun idx ref => ?_) _ idx
  exact indexGrant_routes _ _ _ _

section RouteMaps

variable {ρ : Type} (kind : RouteKind) (metadata : ρ → ObjectMeta)
  (parentRefs : ρ → List ParentReference) (backendRefs : ρ → List BackendRef)

theorem indexRoute_routes (idx : ReverseIndexInner) (r : ρ) (kind' : RouteKind) :
    (idx.indexRoute kind metadata parentRefs backendRefs r).routeToGateways kind' =
      if kind' = kind then (idx.routeToGateways kind').insert
        ((metadata r).planNs, (metadata r).planName)
        (routeParentGateways (metadata r).planNs (parentRefs r))
      else idx.routeToGateways kind' := by
  have hloop : (idx.indexRoute kind metadata parentRefs backendRefs r).routeToGateways =
      (idx.recordRoute kind ((metadata r).planNs, (metadata r).planName)
        (routeParentGateways (metadata r).planNs (parentRefs r))).routeToGateways := by
    refine foldl_keeps ReverseIndexInner.routeToGateways (fun idx b => ?_) _ _
    rw [ReverseIndexInner.indexBackendRef]
    split
    · rfl
    · exact indexGrant_routes _ _ _ _
  rw [hloop]
  cases kind <;> cases kind' <;> rfl

def routeEntries (routes : HashMap String ρ) : List (ObjectKey × Finset ObjectKey) :=
  (values routes).map fun r => (((metadata r).planNs, (metadata r).planName),
    routeParentGateways (metadata r).planNs (parentRefs r))

theorem foldl_indexRoute_routes (routes : HashMap String ρ) (idx : ReverseIndexInner)
    (kind' : RouteKind) :
    ((values routes).foldl (ReverseIndexInner.indexRoute kind metadata parentRefs
      backendRefs) idx).routeToGateways kind' =
      if kind' = kind then (routeEntries metadata parentRefs routes).foldl
        (fun m e => m.insert e.1 e.2) (idx.routeToGateways kind')
      else idx.routeToGateways kind' := by
  rw [routeEntries, List.foldl_map]
  generalize values routes = l
  induction l generalizing idx with
  | nil => simp
  | cons r l ih =>
    rw [List.foldl_cons, List.foldl_cons, ih, indexRoute_routes]
    split <;> rfl

end RouteMaps

def StoreInner.routeEntries (inner : StoreInner) :
    RouteKind → List (ObjectKey × Finset ObjectKey)
  | .HTTPRoute => Wicket.routeEntries HTTPRoute.metadata (fun r => r.spec.parentRefs)
      inner.httpRoutes
  | .TCPRoute => Wicket.routeEntries TCPRoute.metadata (fun r => r.spec.parentRefs) inner.tcpRoutes
  | .TLSRoute => Wicket.routeEntries TLSRoute.metadata (fun r => r.spec.parentRefs) inner.tlsRoutes

theorem rebuildFromStore_routes (inner : StoreInner) (kind : RouteKind) :
    (rebuildFromStore inner).routeToGateways kind = collect (inner.routeEntries kind) := by
  have hgateways := foldl_keeps ReverseIndexInner.routeToGateways indexGateway_routes
    (values inner.gateways) {}
  -- each loop writes into the map of its own kind only
  simp only [rebuildFromStore, foldl_indexRoute_routes, hgateways]
  cases kind <;> rfl

def ObjectMeta.KeyedBy (m : ObjectMeta) (key : String) : Prop :=
  ∃ ns name, m.ns = some ns ∧ m.name = some name ∧ key = GatewayState.key ns name

def StoreInner.Keyed (inner : StoreInner) : Prop :=
  ∀ key route, inner.Stores key route → route.metadata.KeyedBy key

theorem ObjectMeta.KeyedBy.eq {m m' : ObjectMeta} {key' : String} (h : m.KeyedBy key)
    (h' : m'.KeyedBy key') (hsame : (m.planNs, m.planName) = (m'.planNs, m'.planName)) :
    key = key' := by
  obtain ⟨ns, name, hns, hname, rfl⟩ := h
  obtain ⟨ns', name', hns', hname', rfl⟩ := h'
  simp only [ObjectMeta.planNs, ObjectMeta.planName, hns, hname, hns', hname', Option.getD_some,
    Prod.mk.injEq] at hsame
  rw [hsame.1, hsame.2]

theorem mem_routeEntries {e : ObjectKey × Finset ObjectKey} :
    e ∈ inner.routeEntries kind ↔ ∃ k route, inner.Stores k route ∧ route.kind = kind ∧
      e = ((route.metadata.planNs, route.metadata.planName),
        routeParentGateways route.metadata.planNs route.parentRefs) := by
  cases kind <;> simp only [StoreInner.routeEntries, routeEntries, List.mem_map, mem_values]
  all_goals
    constructor
    · rintro ⟨r, ⟨k, hr⟩, rfl⟩
      first
      | exact ⟨k, .http r, hr, rfl, rfl⟩
      | exact ⟨k, .tcp r, hr, rfl, rfl⟩
      | exact ⟨k, .tls r, hr, rfl, rfl⟩
    · rintro ⟨k, route, hr, hkind, rfl⟩
      cases route <;> cases hkind
      exact ⟨_, ⟨k, hr⟩, rfl⟩

theorem mem_routeToGateways (hkeyed : inner.Keyed) {key : ObjectKey} :
    g ∈ setAt ((rebuildFromStore inner).routeToGateways kind) key ↔
      inner.RouteLeadsTo kind key g := by
  rw [rebuildFromStore_routes, mem_setAt_collect]
  · constructor
    · rintro ⟨e, he, rfl, hg⟩
      obtain ⟨k, route, hstores, hkind, rfl⟩ := mem_routeEntries.1 he
      exact ⟨k, route, hstores, hkind, rfl, mem_routeParentGateways_iff.1 hg⟩
    · rintro ⟨k, route, hstores, hkind, rfl, hg⟩
      exact ⟨_, mem_routeEntries.2 ⟨k, route, hstores, hkind, rfl⟩, rfl,
        mem_routeParentGateways_iff.2 hg⟩
  · -- two routes of a kind with the same namespace and name are one
    intro e he e' he' hsame
    obtain ⟨k, route, hstores, hkind, rfl⟩ := mem_routeEntries.1 he
    obtain ⟨k', route', hstores', hkind', rfl⟩ := mem_routeEntries.1 he'
    obtain rfl := (hkeyed k route hstores).eq (hkeyed k' route' hstores') hsame
    have hroute : route = route' := by
      cases route <;> cases route' <;> cases hkind.trans hkind'.symm
      all_goals exact congrArg _ (Option.some_inj.1 (hstores.symm.trans hstores'))
    rw [hroute]

theorem rebuildFromStore_adds (inner : StoreInner) :
    IndexAdds inner.SecretLeadsTo inner.ServiceLeadsTo inner.GrantLeadsTo {}
      (rebuildFromStore inner) := by
  have hgateways := IndexAdds.foldl indexGateway_adds (values inner.gateways) {}
  have hhttp := IndexAdds.foldl (indexRoute_adds .HTTPRoute .http HTTPRoute.metadata
    (fun r => r.spec.parentRefs) HTTPRoute.backendRefs (fun _ => rfl) (fun _ => rfl)
    (fun _ => rfl)) (values inner.httpRoutes)
    ((values inner.gateways).foldl ReverseIndexInner.indexGateway {})
  have htcp := fun idx => IndexAdds.foldl (indexRoute_adds .TCPRoute .tcp TCPRoute.metadata
    (fun r => r.spec.parentRefs) TCPRoute.backendRefs (fun _ => rfl) (fun _ => rfl)
    (fun _ => rfl)) (values inner.tcpRoutes) idx
  have htls := fun idx => IndexAdds.foldl (indexRoute_adds .TLSRoute .tls TLSRoute.metadata
    (fun r => r.spec.parentRefs) TLSRoute.backendRefs (fun _ => rfl) (fun _ => rfl)
    (fun _ => rfl)) (values inner.tlsRoutes) idx
  refine ⟨fun k g => ?_, fun k g => ?_, fun k g => ?_⟩
  · rw [rebuildFromStore, (htls _).secret, (htcp _).secret, hhttp.secret, hgateways.secret]
    simp only [and_false, exists_false, or_false, mem_values]
    refine or_congr_right ?_
    constructor
    · rintro ⟨gateway, ⟨k, hgw⟩, hcert, hg⟩
      exact ⟨k, gateway, hgw, hg, hcert⟩
    · rintro ⟨k, gateway, hgw, hg, hcert⟩
      exact ⟨gateway, ⟨k, hgw⟩, hcert, hg⟩
  · rw [rebuildFromStore, (htls _).service, (htcp _).service, hhttp.service, hgateways.service,
      StoreInner.ServiceLeadsTo, StoreInner.exists_stores_iff]
    simp
  · rw [rebuildFromStore, (htls _).grant, (htcp _).grant, hhttp.grant, hgateways.grant,
      StoreInner.GrantLeadsTo, StoreInner.exists_stores_iff]
    simp only [or_assoc]
    refine or_congr_right (or_congr_left ?_)
    simp only [mem_values]
    constructor
    · rintro ⟨gateway, ⟨k, hgw⟩, hcert, hne, hg⟩
      exact ⟨k, gateway, hgw, hg, hcert, hne⟩
    · rintro ⟨k, gateway, hgw, hg, hcert, hne⟩
      exact ⟨gateway, ⟨k, hgw⟩, hcert, hne, hg⟩

theorem mem_serviceToGateways :
    g ∈ gatewaysForKey (rebuildFromStore inner).serviceToGateways ns name ↔
      inner.ServiceLeadsTo (ns, name) g := by
  rw [mem_gatewaysForKey, (rebuildFromStore_adds inner).service]
  simp

theorem mem_secretToGateways :
    g ∈ gatewaysForKey (rebuildFromStore inner).secretToGateways ns name ↔
      inner.SecretLeadsTo (ns, name) g := by
  rw [mem_gatewaysForKey, (rebuildFromStore_adds inner).secret]
  simp

theorem mem_referenceGrantToGateways :
    g ∈ gatewaysForKey (rebuildFromStore inner).referenceGrantToGateways ns name ↔
      inner.GrantLeadsTo (ns, name) g := by
  rw [mem_gatewaysForKey, (rebuildFromStore_adds inner).grant]
  simp

/-- **The computed reverse index is exact.**  Only the maps of the routes need the routes to be
under their own keys. -/
theorem rebuildFromStore_exact (hkeyed : inner.Keyed) :
    ReverseExact (rebuildFromStore inner) inner where
  route kind ns name g := by rw [mem_gatewaysForKey, mem_routeToGateways hkeyed]
  service _ _ _ := mem_serviceToGateways
  secret _ _ _ := mem_secretToGateways
  referenceGrant _ _ _ := mem_referenceGrantToGateways

end Wicket
