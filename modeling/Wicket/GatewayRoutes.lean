/-
**What is rendered for a Gateway.**

The part of the snapshot a configuration is generated from, described by the snapshot alone.
-/

import Wicket.Rendered
import Wicket.RuntimePlan

namespace Wicket

open List KeyMap GatewayState

/-! ### Routes that name the Gateway -/

structure Serves {ρ : Type} (routes : HashMap String ρ) (accepted : ρ → Bool) (routeNs : ρ → String)
    (parentRefs : ρ → List ParentReference) (gatewayNs gatewayName key : String) (route : ρ) :
    Prop where
  stored : routes.lookup key = some route
  accepted : accepted route = true
  parent : routeReferencesGateway (routeNs route) (parentRefs route) gatewayNs gatewayName = true

section Snapshot

variable (s : PlannerSnapshot) (gatewayNs gatewayName : String)

def PlannerSnapshot.ServesHttp (key : String) (route : HTTPRoute) : Prop :=
  Serves s.httpRoutes httpRouteIsAccepted HTTPRoute.routeNs (fun r => r.spec.parentRefs) gatewayNs
    gatewayName key route

def PlannerSnapshot.ServesTls (key : String) (route : TLSRoute) : Prop :=
  Serves s.tlsRoutes tlsRouteIsAccepted TLSRoute.routeNs (fun r => r.spec.parentRefs) gatewayNs
    gatewayName key route

def PlannerSnapshot.ServesTcp (key : String) (route : TCPRoute) : Prop :=
  Serves s.tcpRoutes tcpRouteIsAccepted TCPRoute.routeNs (fun r => r.spec.parentRefs) gatewayNs
    gatewayName key route

/-- The reference has an address: the Service has no stored entry, or one that is not empty. -/
def HasAddress (endpoints : HashMap String ServiceEndpoints) (routeNs : String) (b : BackendRef) :
    Prop :=
  ∀ e, endpoints.lookup (GatewayState.key (b.nsOr routeNs) b.name) = some e → e.endpoints ≠ []

structure PlannerSnapshot.RendersRule (r : HttpRule) : Prop where
  serves : s.ServesHttp gatewayNs gatewayName r.key r.route
  rule : r.route.spec.rules[r.idx]? = some r.rule
  address : ∃ b ∈ r.rule.backendRefs, HasAddress s.serviceEndpoints r.route.routeNs b.backendRef

def PlannerSnapshot.HasStreamListener : Prop :=
  ∃ gateway, s.gateway gatewayNs gatewayName = some gateway ∧
    ∃ l ∈ gateway.spec.listeners, l.protocol = .TCP ∨ l.protocol = .TLS

end Snapshot

/-! ### The state of the Gateway -/

theorem exists_mem_resolveBackend {st : GatewayState} {routeNs : String} {port : UInt16}
    {b : BackendRef} :
    (∃ addr, addr ∈ resolveBackend st routeNs port b) ↔
      HasAddress st.serviceEndpoints routeNs b := by
  rw [HasAddress, resolveBackend]
  cases st.serviceEndpoints.lookup (key (b.nsOr routeNs) b.name) with
  | none => simp
  | some e => simp [mem_insertionSort, eq_nil_iff_forall_not_mem]

theorem HttpRule.backends_ne_nil {st : GatewayState} {r : HttpRule} :
    r.backends st ≠ [] ↔
      ∃ b ∈ r.rule.backendRefs, HasAddress st.serviceEndpoints r.route.routeNs b.backendRef := by
  constructor
  · intro h
    obtain ⟨addr, haddr⟩ := exists_mem_of_ne_nil _ h
    obtain ⟨b, hb, hresolved⟩ := mem_flatMap.1 haddr
    exact ⟨b, hb, exists_mem_resolveBackend.1 ⟨addr, hresolved⟩⟩
  · rintro ⟨b, hb, haddress⟩
    obtain ⟨addr, hresolved⟩ := exists_mem_resolveBackend.2 haddress
    exact ne_nil_of_mem (mem_flatMap.2 ⟨b, hb, hresolved⟩)

section ConfigState

variable {s : PlannerSnapshot} {gatewayNs gatewayName : String}

theorem lookup_filter_iff_serves {ρ : Type} {routes : HashMap String ρ} {accepted : ρ → Bool}
    {routeNs : ρ → String} {parentRefs : ρ → List ParentReference} {key : String} {route : ρ} :
    (filterValues (fun r => routeReferencesGateway (routeNs r) (parentRefs r) gatewayNs
        gatewayName) routes).lookup key = some route ∧ accepted route = true ↔
      Serves routes accepted routeNs parentRefs gatewayNs gatewayName key route := by
  rw [lookup_filterValues]
  constructor
  · rintro ⟨⟨hstored, hparent⟩, haccepted⟩
    exact ⟨hstored, haccepted, hparent⟩
  · rintro ⟨hstored, haccepted, hparent⟩
    exact ⟨⟨hstored, hparent⟩, haccepted⟩

theorem mem_liveRules_configState {r : HttpRule} :
    r ∈ liveRules (configState gatewayNs gatewayName s) ↔
      s.RendersRule gatewayNs gatewayName r := by
  rw [mem_liveRules, mem_httpRules, HttpRule.backends_ne_nil, ← and_assoc]
  constructor
  · rintro ⟨⟨hserves, hrule⟩, haddress⟩
    exact ⟨lookup_filter_iff_serves.1 hserves, hrule, haddress⟩
  · rintro ⟨hserves, hrule, haddress⟩
    exact ⟨⟨lookup_filter_iff_serves.2 hserves, hrule⟩, haddress⟩

theorem mem_streamRefs_configState {r : StreamRef} :
    r ∈ streamRefs (configState gatewayNs gatewayName s) ↔
      (r.kind = .TLSRoute ∧ ∃ route, s.ServesTls gatewayNs gatewayName r.key route ∧
        r.routeNs = route.routeNs ∧ r.ref ∈ route.backendRefs) ∨
      (r.kind = .TCPRoute ∧ ∃ route, s.ServesTcp gatewayNs gatewayName r.key route ∧
        r.routeNs = route.routeNs ∧ r.ref ∈ route.backendRefs) := by
  rw [streamRefs, mem_append, tlsRefs, tcpRefs, mem_refsOf, mem_refsOf]
  refine or_congr (and_congr_right fun _ => exists_congr fun route => ?_)
    (and_congr_right fun _ => exists_congr fun route => ?_)
  · rw [← and_assoc]
    exact and_congr_left fun _ => lookup_filter_iff_serves
  · rw [← and_assoc]
    exact and_congr_left fun _ => lookup_filter_iff_serves

theorem mem_listeners_configState {e : String × Listener} :
    e ∈ (configState gatewayNs gatewayName s).listeners ↔
      ∃ gateway, s.gateway gatewayNs gatewayName = some gateway ∧
        e.1 = key gatewayNs gatewayName ∧ e.2 ∈ gateway.spec.listeners := by
  obtain ⟨key, l⟩ := e
  simp only [listeners, mem_flatMap, Prod.exists, mem_sortedEntries,
    mem_map, Prod.mk.injEq, configState]
  cases s.gateway gatewayNs gatewayName with
  | none => simp
  | some gateway =>
    -- the Gateway itself is the only one of its state
    have hlookup : ∀ k gw, (collect [(GatewayState.key gatewayNs gatewayName,
        gateway)]).lookup k = some gw ↔
        GatewayState.key gatewayNs gatewayName = k ∧ gateway = gw := by
      simp [lookup_collect, lastWrite]
    simp only [hlookup, Option.some.injEq]
    constructor
    · rintro ⟨k, gw, ⟨rfl, rfl⟩, l, hl, rfl, rfl⟩
      exact ⟨gateway, rfl, rfl, hl⟩
    · rintro ⟨gw, rfl, rfl, hl⟩
      exact ⟨_, _, ⟨rfl, rfl⟩, l, hl, rfl, rfl⟩

theorem tcpListeners_configState :
    (configState gatewayNs gatewayName s).tcpListeners ≠ [] ↔
      s.HasStreamListener gatewayNs gatewayName := by
  have hprotocol : ∀ l : Listener, (l.protocol == .TCP || l.protocol == .TLS) = true ↔
      l.protocol = .TCP ∨ l.protocol = .TLS := by simp
  constructor
  · intro h
    obtain ⟨e, he⟩ := exists_mem_of_ne_nil _ h
    obtain ⟨hmem, hstream⟩ := mem_filter.1 he
    obtain ⟨gateway, hgw, -, hl⟩ := mem_listeners_configState.1 hmem
    exact ⟨gateway, hgw, e.2, hl, (hprotocol e.2).1 hstream⟩
  · rintro ⟨gateway, hgw, l, hl, hstream⟩
    have hmem : (key gatewayNs gatewayName, l) ∈ (configState gatewayNs gatewayName s).listeners :=
      mem_listeners_configState.2 ⟨gateway, hgw, rfl, hl⟩
    exact ne_nil_of_mem (mem_filter.2 ⟨hmem, (hprotocol l).2 hstream⟩)

theorem hasStream_configState {r : StreamRef}
    (hr : r ∈ streamRefs (configState gatewayNs gatewayName s)) :
    (configState gatewayNs gatewayName s).HasStream ↔
      s.HasStreamListener gatewayNs gatewayName := by
  rw [GatewayState.HasStream, tcpListeners_configState]
  -- the map the reference comes from is not empty
  refine and_iff_right ?_
  rcases mem_append.1 hr with htls | htcp
  · obtain ⟨-, route, hlookup, -⟩ := mem_refsOf.1 htls
    exact Or.inr (ne_nil_of_mem (AList.mem_lookup_iff.1 hlookup))
  · obtain ⟨-, route, hlookup, -⟩ := mem_refsOf.1 htcp
    exact Or.inl (ne_nil_of_mem (AList.mem_lookup_iff.1 hlookup))

theorem keptRule_configState {r : HttpRule} :
    keptRule (configState gatewayNs gatewayName s) r.upstreamName = some r ↔
      s.RendersRule gatewayNs gatewayName r ∧
        ∀ r', s.RendersRule gatewayNs gatewayName r' → r'.upstreamName = r.upstreamName →
          ¬r.Before r' := by
  simp only [keptRule_eq_some, mem_liveRules_configState, and_true]

end ConfigState

end Wicket
