/-
**Where the connections of a generated stream listener go.**

Server names and the default upstream are filled from TLSRoutes only: with TCPRoutes alone the
listener accepts connections and closes every one of them.
-/

import Wicket.Acceptance
import Wicket.PlanFrame
import Wicket.SniPeek
import Wicket.StreamReload

namespace Wicket

open Option List KeyMap
open Check

/-! ### The default upstream -/

/-- The references of the accepted TLSRoutes without host names, in the order they are visited. -/
def catchAllRefs (st : GatewayState) : List StreamRef :=
  refsOf .TLSRoute (fun route => tlsRouteIsAccepted route && route.spec.hostnames.isEmpty)
    TLSRoute.routeNs TLSRoute.backendRefs st.tlsRoutes

/-- The second output has the default of the first, or else the first of the given names. -/
def Defaults (names : List String) (out out' : StreamOutput) : Prop :=
  out'.catchAllUpstream = out.catchAllUpstream.or names.head?

variable (st : GatewayState)

theorem renderTlsBackend_defaults (route : TLSRoute) (out : StreamOutput) (b : BackendRef) :
    Defaults
      (if route.spec.hostnames.isEmpty then [streamUpstreamName route.routeNs b.name] else [])
      out (renderTlsBackend st route out b) := by
  simp only [renderTlsBackend]
  split
  · rfl
  · -- claiming server names leaves the default alone
    rw [Defaults, head?_nil, or_none]
    refine foldl_keeps StreamOutput.catchAllUpstream ?_ _ _
    intro out hostname
    rw [claimSni]
    split <;> rfl

theorem filledBy_catchAll :
    FilledBy st (fun route => route.spec.hostnames.isEmpty) StreamOutput.catchAllUpstream where
  start := rfl
  tls route out b := by
    rw [renderTlsBackend_defaults]
    split <;> rfl
  tcp _ _ _ := rfl

theorem renderStreamRoutes_catchAll :
    (renderStreamRoutes st).catchAllUpstream = (catchAllRefs st).head?.map StreamRef.upstreamName :=
  (filledBy_catchAll st).renderStreamRoutes_eq

/-! ### What is routed -/

variable {st : GatewayState} {c : Config} {sc : StreamConfig} {proxy : StreamProxy}

theorem router_of_fromConfig (hc : generateConfig st = .ok c) (hsc : sc ∈ c.streams)
    (hproxy : StreamProxy.fromConfig sc = .ok proxy) :
    proxy.router = SniRouter.new (renderStreamRoutes st).sniRoutes
      ((catchAllRefs st).head?.map StreamRef.upstreamName) := by
  obtain ⟨port, hparts⟩ := isStreamConfig_of_eq_some (streamConfig_of_mem hc hsc)
  obtain ⟨upstreams, -, hbuild⟩ := map_eq_ok.1 (StreamProxy.build_of_fromConfig hproxy)
  rw [hparts.sniRoutes, hparts.defaultUpstream, renderStreamRoutes_catchAll] at hbuild
  exact (congrArg Prod.fst hbuild).symm

/-- **When a connection without a server name is routed**: when there is an accepted TLSRoute
without host names, and it has a backend. -/
theorem routed_without_name_iff (hc : generateConfig st = .ok c) (hsc : sc ∈ c.streams)
    (hproxy : StreamProxy.fromConfig sc = .ok proxy) :
    (∃ up, routeConnection proxy.router proxy.upstreams none = .ok up) ↔ catchAllRefs st ≠ [] := by
  have hrouter := router_of_fromConfig hc hsc hproxy
  have hmatch : proxy.router.matchSni none =
      (catchAllRefs st).head?.map StreamRef.upstreamName := by
    rw [hrouter]
    rfl
  rw [routeConnection, hmatch]
  cases hrefs : catchAllRefs st with
  | nil => simp
  | cons r refs =>
    -- the upstream of the reference has been built under its name
    obtain ⟨port, hparts⟩ := isStreamConfig_of_eq_some (streamConfig_of_mem hc hsc)
    have hr : r ∈ streamRefs st := by
      obtain ⟨hkind, route, hlookup, haccepted, hrest⟩ :=
        mem_refsOf.1 (show r ∈ catchAllRefs st by rw [hrefs]; exact mem_cons_self)
      rw [Bool.and_eq_true] at haccepted
      exact mem_append_left _ (mem_refsOf.2 ⟨hkind, route, hlookup, haccepted.1, hrest⟩)
    have hmem : r.upstream st ∈ sc.upstreams := by
      rw [hparts.upstreams]
      exact mem_map_of_mem hr
    have hbuilt := StreamConfig.isSome_lookup_build (StreamProxy.build_of_fromConfig hproxy) hmem
    obtain ⟨up, hup⟩ := isSome_iff_exists.1 hbuilt
    have hfound : proxy.upstreams.lookup r.upstreamName = some up := hup
    simp [hfound]

theorem exists_tlsRoute_of_matchSni (hc : generateConfig st = .ok c) (hsc : sc ∈ c.streams)
    (hproxy : StreamProxy.fromConfig sc = .ok proxy) {sni : Option String} {name : String}
    (h : proxy.router.matchSni sni = some name) :
    ∃ key route, st.tlsRoutes.lookup key = some route ∧ tlsRouteIsAccepted route = true := by
  rw [router_of_fromConfig hc hsc hproxy] at h
  rcases or_eq_some_iff.1 h with hroute | ⟨-, hdefault⟩
  · obtain ⟨hostname, -, hfound⟩ := bind_eq_some_iff.1 hroute
    obtain ⟨r, hr, -⟩ := map_eq_some_iff.1 hfound
    have hmem := mem_of_find?_eq_some hr
    rw [SniRouter.new, mem_insertionSort] at hmem
    obtain ⟨e, he, -⟩ := mem_map.1 hmem
    have hsome : ((renderStreamRoutes st).sniRoutes.lookup e.1).isSome = true := by
      rw [mem_entries.1 he]
      rfl
    obtain ⟨key, route, hlookup, haccepted, -⟩ := isSome_lookup_sniRoutes.1 hsome
    exact ⟨key, route, hlookup, haccepted⟩
  · obtain ⟨r, hr, -⟩ := map_eq_some_iff.1 hdefault
    obtain ⟨-, route, hlookup, haccepted, -⟩ := mem_refsOf.1 (mem_of_mem_head? hr)
    exact ⟨r.key, route, hlookup, (Bool.and_eq_true _ _ ▸ haccepted).1⟩

/-! ### A TCPRoute that stands alone -/

structure OnlyTcpRoute (st : GatewayState) (route : TCPRoute) : Prop where
  gateway : ∃ e, entries st.gateways = [e] ∧ ∃ l ∈ e.2.spec.listeners, l.protocol = .TCP
  tcpRoutes : ∃ key, entries st.tcpRoutes = [(key, route)]
  tlsRoutes : entries st.tlsRoutes = []
  accepted : tcpRouteIsAccepted route = true
  endpoint : ∃ rule ∈ route.spec.rules, ∃ b ∈ rule.backendRefs, ∃ endpoints,
    st.serviceEndpoints.lookup (GatewayState.key (b.nsOr route.routeNs) b.name) = some endpoints ∧
      ∃ text ∈ endpoints.endpoints, (Net.parseSocketAddr text).isSome = true

def TCPRoute.backendAddrs (st : GatewayState) (route : TCPRoute) : List String :=
  route.backendRefs.flatMap (resolveBackend st route.routeNs RouteKind.TCPRoute.defaultPort)

def RoutedToTcpRoute (st : GatewayState) (route : TCPRoute) {stream : List UInt8}
    (d : Delivery stream) : Prop :=
  ∃ c sc proxy up, generateConfig st = .ok c ∧ sc ∈ c.streams ∧
    StreamProxy.fromConfig sc = .ok proxy ∧
    routeConnection proxy.router proxy.upstreams (extractSni d.peek) = .ok up ∧
    ∃ addr ∈ up.servers, ∃ text ∈ route.backendAddrs st, StreamBackendAddr.parse text = .ok addr

theorem routeConnection_of_no_tlsRoutes (hc : generateConfig st = .ok c) (hsc : sc ∈ c.streams)
    (hproxy : StreamProxy.fromConfig sc = .ok proxy) (htls : entries st.tlsRoutes = [])
    (sni : Option String) :
    routeConnection proxy.router proxy.upstreams sni = .error .noMatchingUpstream := by
  have hnone : proxy.router.matchSni sni = none := by
    rw [eq_none_iff_forall_ne_some]
    intro name hname
    obtain ⟨key, route, hlookup, -⟩ := exists_tlsRoute_of_matchSni hc hsc hproxy hname
    have hmem := mem_entries.2 hlookup
    rw [htls] at hmem
    exact not_mem_nil hmem
  rw [routeConnection, hnone]

/-- **No connection is routed to a TCPRoute that stands alone**, TLS or not: the listener answers
every one of them with the same error. -/
theorem tcpRoute_not_routed {st : GatewayState} {route : TCPRoute} (h : OnlyTcpRoute st route)
    {stream : List UInt8} (d : Delivery stream) :
    ¬RoutedToTcpRoute st route d ∧
      ∀ c sc proxy, generateConfig st = .ok c → sc ∈ c.streams →
        StreamProxy.fromConfig sc = .ok proxy →
        routeConnection proxy.router proxy.upstreams (extractSni d.peek) =
          .error .noMatchingUpstream := by
  have herror : ∀ c sc proxy, generateConfig st = .ok c → sc ∈ c.streams →
      StreamProxy.fromConfig sc = .ok proxy →
      routeConnection proxy.router proxy.upstreams (extractSni d.peek) =
        .error .noMatchingUpstream := by
    intro c sc proxy hc hsc hproxy
    exact routeConnection_of_no_tlsRoutes hc hsc hproxy h.tlsRoutes _
  refine ⟨?_, herror⟩
  rintro ⟨c, sc, proxy, up, hc, hsc, hproxy, hroute, -⟩
  rw [herror c sc proxy hc hsc hproxy] at hroute
  cases hroute

def dbRoute : TCPRoute where
  metadata := { ns := some "shop", name := some "db" }
  spec := { rules := [{ backendRefs := [{ name := "db", port := some 5432 }] }] }
  status := some (acceptedFor "gw")

def dbState : GatewayState where
  gateways := collect [("shop/gw",
    { metadata := { ns := some "shop", name := some "gw" }
      spec :=
        { gatewayClassName := "wicket"
          listeners := [{ name := "db", port := 5432, protocol := .TCP }] } })]
  tcpRoutes := collect [("shop/db", dbRoute)]
  serviceEndpoints := dbEndpoints

def startupBytes : List UInt8 := [0, 0, 0, 8, 0, 3, 0, 0]

def startupDelivery : Delivery startupBytes where
  received := [startupBytes]
  pending := []
  whole := by decide
  nonempty := by decide

theorem dbState_onlyTcpRoute : OnlyTcpRoute dbState dbRoute where
  gateway := ⟨_, rfl, _, mem_singleton.2 rfl, rfl⟩
  tcpRoutes := ⟨"shop/db", rfl⟩
  tlsRoutes := rfl
  accepted := by decide
  endpoint := ⟨_, mem_singleton.2 rfl, _, mem_singleton.2 rfl,
    { ns := "shop", name := "db", endpoints := ["10.0.0.7:5432"] }, by decide, "10.0.0.7:5432",
    by decide, by decide⟩

theorem dbState_not_routed :
    OnlyTcpRoute dbState dbRoute ∧ ¬RoutedToTcpRoute dbState dbRoute startupDelivery :=
  ⟨dbState_onlyTcpRoute, (tcpRoute_not_routed dbState_onlyTcpRoute startupDelivery).1⟩

theorem dbState_unnamed :
    ∃ c sc proxy, generateConfig dbState = .ok c ∧ sc ∈ c.streams ∧
      StreamProxy.fromConfig sc = .ok proxy ∧
      ((∃ up, routeConnection proxy.router proxy.upstreams none = .ok up) ↔
        catchAllRefs dbState ≠ []) := by
  obtain ⟨c, sc, proxy, hc, hsc, hproxy⟩ :=
    @exists_generated_proxy dbState (by decide) (by decide) (by decide)
  exact ⟨c, sc, proxy, hc, hsc, hproxy, routed_without_name_iff hc hsc hproxy⟩

theorem dbState_connection_closed :
    OnlyTcpRoute dbState dbRoute ∧ dbRoute.backendAddrs dbState = ["10.0.0.7:5432"] ∧
    (∀ (hello : ClientHello) (rest : List UInt8), hello.record ++ rest ≠ startupBytes) ∧
    (∃ c sc proxy, generateConfig dbState = .ok c ∧ sc ∈ c.streams ∧
      StreamProxy.fromConfig sc = .ok proxy ∧
      routeConnection proxy.router proxy.upstreams (extractSni startupDelivery.peek) =
        .error .noMatchingUpstream) ∧
    ¬RoutedToTcpRoute dbState dbRoute startupDelivery := by
  refine ⟨dbState_onlyTcpRoute, by decide, ?_, ?_, ?_⟩
  · intro hello rest hbytes
    have hfirst := congrArg List.head? hbytes
    exact absurd hfirst
      (by simp [Hello.record, HelloHead.bytes, startupBytes, tlsHandshake, Bytes.be])
  · obtain ⟨c, sc, proxy, hc, hsc, hproxy⟩ :=
      @exists_generated_proxy dbState (by decide) (by decide) (by decide)
    exact ⟨c, sc, proxy, hc, hsc, hproxy, routeConnection_of_no_tlsRoutes hc hsc hproxy rfl _⟩
  · rintro ⟨c, sc, proxy, up, hc, hsc, hproxy, hroute, -⟩
    rw [routeConnection_of_no_tlsRoutes hc hsc hproxy rfl] at hroute
    cases hroute

end Wicket
