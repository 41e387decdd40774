/-
**The watch of the Services.**

The index and the planner look at the group and the kind of a backend reference, the generator takes
every reference for one to a Service.
-/

import Wicket.GrantEnforcement
import Wicket.PlanChange
import Wicket.RuntimePlanner

namespace Wicket

open List KeyMap GatewayState StoreInner RouteEvalContext Config StreamRef
open Check

/-! ### What the configuration reads of the Services -/

section Configuration

variable {st st' : GatewayState}

structure GatewayState.SameButEndpoints (st st' : GatewayState) : Prop where
  gateways : st'.gateways = st.gateways
  tlsSecrets : st'.tlsSecrets = st.tlsSecrets
  http : st'.httpRoutes = st.httpRoutes
  tcp : st'.tcpRoutes = st.tcpRoutes
  tls : st'.tlsRoutes = st.tlsRoutes

namespace GatewayState.SameButEndpoints

theorem httpRules_eq (h : st.SameButEndpoints st') : httpRules st' = httpRules st := by
  rw [httpRules, httpRules, h.http]

theorem streamRefs_eq (h : st.SameButEndpoints st') : streamRefs st' = streamRefs st := by
  rw [streamRefs, streamRefs, tlsRefs, tlsRefs, tcpRefs, tcpRefs, h.tls, h.tcp]

theorem listeners_eq (h : st.SameButEndpoints st') : st'.listeners = st.listeners := by
  rw [listeners, listeners, h.gateways]

theorem tlsConfig_eq (h : st.SameButEndpoints st') : tlsConfig st' = tlsConfig st := by
  have hadd : addCert st' = addCert st := by
    funext gwNs listener m ref
    simp only [addCert, h.tlsSecrets]
  rw [tlsConfig, tlsConfig, certMap, certMap, h.gateways, hadd]

theorem hasStream_iff (h : st.SameButEndpoints st') : st'.HasStream ↔ st.HasStream := by
  rw [GatewayState.HasStream, GatewayState.HasStream, tcpListeners,
    tcpListeners, h.listeners_eq, h.tcp, h.tls]

theorem renderHttpRoutes_eq (h : st.SameButEndpoints st')
    (hbackends : ∀ r ∈ httpRules st, r.backends st' = r.backends st) :
    renderHttpRoutes st' = renderHttpRoutes st := by
  have hsafe : (∀ r ∈ httpRules st', r.Safe st') ↔ ∀ r ∈ httpRules st, r.Safe st := by
    rw [h.httpRules_eq]
    refine forall₂_congr fun r hr => ?_
    rw [HttpRule.Safe, HttpRule.Safe, hbackends r hr]
  have hfold : (httpRules st').foldl (addRule st') {} = (httpRules st).foldl (addRule st) {} := by
    rw [h.httpRules_eq]
    refine foldl_ext _ _ _ fun out r hr => ?_
    rw [addRule, addRule, hbackends r hr]
  by_cases hall : ∀ r ∈ httpRules st, r.Safe st
  · rw [renderHttpRoutes_eq_ok.2 ⟨hsafe.2 hall, rfl⟩, renderHttpRoutes_eq_ok.2 ⟨hall, rfl⟩, hfold]
  · -- the two panic in the same way
    have herror : ∀ {st : GatewayState}, ¬(∀ r ∈ httpRules st, r.Safe st) →
        renderHttpRoutes st = .error .splitInsideCharacter := by
      intro st hunsafe
      cases hrender : renderHttpRoutes st with
      | ok out => exact absurd (renderHttpRoutes_eq_ok.1 hrender).1 hunsafe
      | error e =>
        rfl
    rw [herror hall, herror (mt hsafe.1 hall)]

theorem renderStreamRoutes_eq (h : st.SameButEndpoints st')
    (hservers : ∀ r ∈ streamRefs st, r.servers st' = r.servers st) :
    renderStreamRoutes st' = renderStreamRoutes st := by
  have htls : ∀ e ∈ sortedEntries st.tlsRoutes, ∀ out,
      renderTlsRoute st' out e = renderTlsRoute st out e := by
    rintro ⟨key, route⟩ he out
    rw [renderTlsRoute, renderTlsRoute]
    cases haccepted : tlsRouteIsAccepted route with
    | false => rfl
    | true =>
      refine foldl_ext _ _ _ fun out rule hrule => foldl_ext _ _ _ fun out b hb => ?_
      have hmem : (⟨.TLSRoute, key, route.routeNs, b⟩ : StreamRef) ∈ streamRefs st :=
        mem_append_left _ (mem_refsOf.2 ⟨rfl, route, mem_sortedEntries.1 he,
          haccepted, rfl, mem_flatMap.2 ⟨rule, hrule, hb⟩⟩)
      have hresolve := hservers _ hmem
      dsimp only [servers, RouteKind.defaultPort] at hresolve
      simp only [renderTlsBackend, hresolve]
  have htcp : ∀ e ∈ sortedEntries st.tcpRoutes, ∀ out,
      renderTcpRoute st' out e = renderTcpRoute st out e := by
    rintro ⟨key, route⟩ he out
    rw [renderTcpRoute, renderTcpRoute]
    cases haccepted : tcpRouteIsAccepted route with
    | false => rfl
    | true =>
      refine foldl_ext _ _ _ fun out rule hrule => foldl_ext _ _ _ fun out b hb => ?_
      have hmem : (⟨.TCPRoute, key, route.routeNs, b⟩ : StreamRef) ∈ streamRefs st :=
        mem_append_right _ (mem_refsOf.2 ⟨rfl, route, mem_sortedEntries.1 he,
          haccepted, rfl, mem_flatMap.2 ⟨rule, hrule, hb⟩⟩)
      have hresolve := hservers _ hmem
      dsimp only [servers, RouteKind.defaultPort] at hresolve
      simp only [renderTcpBackend, hresolve]
  rw [renderStreamRoutes, renderStreamRoutes, h.tls, h.tcp]
  rw [foldl_ext _ _ _ fun out e he => htls e he out]
  exact foldl_ext _ _ _ fun out e he => htcp e he out

theorem streamConfig_eq (h : st.SameButEndpoints st')
    (hservers : st.HasStream → ∀ r ∈ streamRefs st, r.servers st' = r.servers st) :
    streamConfig st' = streamConfig st := by
  by_cases hstream : st.HasStream
  · rw [streamConfig, streamConfig, h.tcp, h.tls, h.renderStreamRoutes_eq (hservers hstream),
      tcpListeners, tcpListeners, h.listeners_eq]
  · have hnone : ∀ {st : GatewayState}, ¬st.HasStream → streamConfig st = none := by
      intro st hno
      rw [← isSome_streamConfig] at hno
      simpa using hno
    rw [hnone hstream, hnone (mt h.hasStream_iff.1 hstream)]

theorem generateConfig_eq_of_backends (h : st.SameButEndpoints st')
    (hbackends : ∀ r ∈ httpRules st, r.backends st' = r.backends st)
    (hservers : st.HasStream → ∀ r ∈ streamRefs st, r.servers st' = r.servers st) :
    generateConfig st' = generateConfig st := by
  rw [generateConfig, generateConfig, h.renderHttpRoutes_eq hbackends, h.tlsConfig_eq,
    h.streamConfig_eq hservers, httpListeners, httpListeners,
    httpsListeners, httpsListeners, h.listeners_eq]

end GatewayState.SameButEndpoints

end Configuration

/-! ### Stores that differ in one Service -/

def serviceWatch (idx : ReverseIndexInner) (ns name : String) : List ObjectKey :=
  gatewaysForKey idx.serviceToGateways ns name

def StoreInner.withServices (inner : StoreInner) (endpoints : HashMap String ServiceEndpoints)
    (presence : Finset String) : StoreInner :=
  { inner with
    serviceEndpoints := endpoints
    servicePresence := presence }

/-- What two stores know of the Services differs at most at the key. -/
structure ServicesDifferAt (key : String) (endpoints endpoints' : HashMap String ServiceEndpoints)
    (presence presence' : Finset String) : Prop where
  endpoints : ∀ k, k ≠ key → endpoints'.lookup k = endpoints.lookup k
  presence : ∀ k, k ≠ key → (k ∈ presence' ↔ k ∈ presence)

/-- A reference of an accepted route of the Gateway has the key of the Service, whatever its group
and kind. -/
inductive RendersService (s : PlannerSnapshot) (gatewayNs gatewayName service : String) : Prop
  | http {key : String} {route : HTTPRoute} {b : BackendRef}
      (hserves : s.ServesHttp gatewayNs gatewayName key route) (hb : b ∈ route.backendRefs)
      (hkey : b.serviceKey route.routeNs = service)
  | tls {key : String} {route : TLSRoute} {b : BackendRef}
      (hserves : s.ServesTls gatewayNs gatewayName key route) (hb : b ∈ route.backendRefs)
      (hlistener : s.HasStreamListener gatewayNs gatewayName)
      (hkey : b.serviceKey route.routeNs = service)
  | tcp {key : String} {route : TCPRoute} {b : BackendRef}
      (hserves : s.ServesTcp gatewayNs gatewayName key route) (hb : b ∈ route.backendRefs)
      (hlistener : s.HasStreamListener gatewayNs gatewayName)
      (hkey : b.serviceKey route.routeNs = service)

/-- The reference is to the core Service with the key, and no reference before it lacks a grant. -/
structure RouteEvalContext.LooksUp (ctx : RouteEvalContext) (service : String) (b : BackendRef) :
    Prop where
  core : b.isCoreService = true
  stays : b.nsOr ctx.routeNamespace = ctx.routeNamespace
  key : b.serviceKey ctx.routeNamespace = service
  first : ∃ before after, ctx.backendRefs = before ++ b :: after ∧
    ∀ b' ∈ before, b'.isCoreService = true → b'.nsOr ctx.routeNamespace ≠ ctx.routeNamespace →
      backendRefPermitted ctx.snapshot ctx.routeKind.asStr ctx.routeNamespace b' = true

def PlansService (input : AttachmentPlanInput) (service : String) : Prop :=
  ∃ gateway ctx l b, input.snapshot.gateway input.gatewayNamespace input.gatewayName =
    some gateway ∧ Evaluated input gateway ctx ∧ ctx.Selects l ∧ ctx.Admits l ∧
    ctx.LooksUp service b

/-! ### The configuration -/

section Config

variable {inner : StoreInner} {gatewayNs gatewayName service : String}
  {endpoints endpoints' : HashMap String ServiceEndpoints} {presence presence' : Finset String}

theorem sameButEndpoints_withServices :
    (configState gatewayNs gatewayName
      (inner.withServices endpoints presence).toPlannerSnapshot).SameButEndpoints
      (configState gatewayNs gatewayName
        (inner.withServices endpoints' presence').toPlannerSnapshot) :=
  ⟨rfl, rfl, rfl, rfl, rfl⟩

variable {r : HttpRule} {route : HTTPRoute} {b : BackendRef} {st : GatewayState} {c c' : Config}

theorem mem_httpRules_configState {s : PlannerSnapshot} :
    r ∈ httpRules (configState gatewayNs gatewayName s) ↔
      s.ServesHttp gatewayNs gatewayName r.key r.route ∧
        r.route.spec.rules[r.idx]? = some r.rule := by
  rw [mem_httpRules, ← and_assoc]
  exact and_congr_left fun _ => lookup_filter_iff_serves

theorem mem_backendRefs_of_rule {idx : ℕ} {rule : HTTPRouteRule} {b : HTTPBackendRef}
    (hrule : route.spec.rules[idx]? = some rule) (hb : b ∈ rule.backendRefs) :
    b.backendRef ∈ route.backendRefs :=
  mem_flatMap.2 ⟨rule, mem_of_getElem? hrule, mem_map.2 ⟨b, hb, rfl⟩⟩

theorem configFromSnapshot_withServices_eq
    (hdiffer : ServicesDifferAt service endpoints endpoints' presence presence')
    (h : ¬RendersService inner.toPlannerSnapshot gatewayNs gatewayName service) :
    configFromSnapshot gatewayNs gatewayName
        (inner.withServices endpoints' presence').toPlannerSnapshot =
      configFromSnapshot gatewayNs gatewayName
        (inner.withServices endpoints presence).toPlannerSnapshot := by
  have hresolve : ∀ (routeNs : String) (port : UInt16) (b : BackendRef),
      b.serviceKey routeNs ≠ service →
      resolveBackend (configState gatewayNs gatewayName
          (inner.withServices endpoints' presence').toPlannerSnapshot) routeNs port b =
        resolveBackend (configState gatewayNs gatewayName
          (inner.withServices endpoints presence).toPlannerSnapshot) routeNs port b := by
    intro routeNs port b hb
    have hlookup : endpoints'.lookup (key (b.nsOr routeNs) b.name) =
        endpoints.lookup (key (b.nsOr routeNs) b.name) := hdiffer.endpoints _ hb
    simp only [resolveBackend, configState, withServices, hlookup]
  refine sameButEndpoints_withServices.generateConfig_eq_of_backends ?_ ?_
  · intro r hr
    obtain ⟨hserves, hrule⟩ := mem_httpRules_configState.1 hr
    refine flatMap_congr fun b hb => hresolve _ _ _ fun hkey => h ?_
    exact .http hserves (mem_backendRefs_of_rule hrule hb) hkey
  · intro hstream r hr
    have hlistener := (hasStream_configState hr).1 hstream
    refine hresolve _ _ _ fun hkey => h ?_
    rcases mem_streamRefs_configState.1 hr with
      ⟨-, route, hserves, hns, hb⟩ | ⟨-, route, hserves, hns, hb⟩
    · exact .tls hserves hb hlistener (hns ▸ hkey)
    · exact .tcp hserves hb hlistener (hns ▸ hkey)

def noEndpoints : ServiceEndpoints where
  ns := ""
  name := ""
  endpoints := []

def httpServiceKeys (st : GatewayState) : List String :=
  (httpRules st).flatMap fun r => r.rule.backendRefs.map fun b =>
    b.backendRef.serviceKey r.route.routeNs

def endpointsOnlyOf (st : GatewayState) (service : String) (addrs : List String) :
    HashMap String ServiceEndpoints :=
  (collect ((httpServiceKeys st).map fun k => (k, noEndpoints))).insert service
    { noEndpoints with endpoints := addrs }

theorem lookup_endpointsOnlyOf (st : GatewayState) (service : String) (addrs : List String) :
    (endpointsOnlyOf st service addrs).lookup service =
      some { noEndpoints with endpoints := addrs } :=
  AList.lookup_insert _

theorem lookup_endpointsOnlyOf_of_mem {st : GatewayState} {key : String} {addrs : List String}
    (hmem : key ∈ httpServiceKeys st) (hne : key ≠ service) :
    (endpointsOnlyOf st service addrs).lookup key = some noEndpoints := by
  rw [endpointsOnlyOf, AList.lookup_insert_ne hne, lookup_collect]
  refine lastWrite_of_forall (mem_map.2 ⟨key, hmem, rfl⟩) ?_
  intro e he
  obtain ⟨k, -, heq⟩ := mem_map.1 he
  exact (Prod.mk.inj heq).2.symm

theorem servicesDifferAt_endpointsOnlyOf (st : GatewayState) (addrs addrs' : List String) :
    ServicesDifferAt service (endpointsOnlyOf st service addrs)
      (endpointsOnlyOf st service addrs') presence presence := by
  refine ⟨fun k hk => ?_, fun _ _ => Iff.rfl⟩
  rw [endpointsOnlyOf, endpointsOnlyOf, AList.lookup_insert_ne hk, AList.lookup_insert_ne hk]

def Config.backendsOf (c : Config) (name : String) : Option (List String) :=
  c.upstreams[name]?.map UpstreamConfig.backends

def Config.streamServers (c : Config) : List (List (List String)) :=
  c.streams.map fun sc => sc.upstreams.map StreamUpstreamConfig.servers

structure TomlShowsBackends (lib : Libraries) : Prop where
  writes : ∀ (st : GatewayState) (c : Config) (order : HashOrder), generateConfig st = .ok c →
    c.routes = [] → ∃ text, lib.tomlToString (c.inOrder order) = .ok text
  shows : ∀ (c c' : Config) (text : String), lib.tomlToString c = .ok text →
    lib.tomlToString c' = .ok text →
      (∀ name, c.backendsOf name = c'.backendsOf name) ∧ c.streamServers = c'.streamServers

def onlyState (inner : StoreInner) (gatewayNs gatewayName service : String)
    (addrs : List String) : GatewayState :=
  configState gatewayNs gatewayName (inner.withServices (endpointsOnlyOf (configState gatewayNs
    gatewayName inner.toPlannerSnapshot) service addrs) inner.servicePresence).toPlannerSnapshot

theorem resolveBackend_onlyState (routeNs : String) (port : UInt16)
    (hkey : b.serviceKey routeNs = service) (addrs : List String) :
    resolveBackend (onlyState inner gatewayNs gatewayName service addrs) routeNs port b =
      addrs.insertionSort (· ≤ ·) := by
  have hlookup := lookup_endpointsOnlyOf (configState gatewayNs gatewayName
    inner.toPlannerSnapshot) service addrs
  rw [← hkey] at hlookup
  simp only [resolveBackend, onlyState, configState, withServices]
  rw [show key (b.nsOr routeNs) b.name = b.serviceKey routeNs from rfl, ← hkey]
  simp only [configState] at hlookup
  rw [hlookup]

theorem liveRules_onlyState_nil :
    liveRules (onlyState inner gatewayNs gatewayName service []) = [] := by
  rw [liveRules, List.filter_eq_nil_iff]
  intro r hr
  have hmem : r ∈ httpRules (configState gatewayNs gatewayName inner.toPlannerSnapshot) := hr
  rw [Bool.not_eq_true, Bool.not_eq_false', List.isEmpty_iff, HttpRule.backends, ruleBackends,
    List.flatMap_eq_nil_iff]
  intro b hb
  have hkeys : b.backendRef.serviceKey r.route.routeNs ∈ httpServiceKeys
      (configState gatewayNs gatewayName inner.toPlannerSnapshot) :=
    mem_flatMap.2 ⟨r, hmem, mem_map.2 ⟨b, hb, rfl⟩⟩
  by_cases hkey : b.backendRef.serviceKey r.route.routeNs = service
  · rw [resolveBackend_onlyState _ _ hkey]
    rfl
  · have hlookup := @lookup_endpointsOnlyOf_of_mem service _ _ [] hkeys hkey
    simp only [resolveBackend, onlyState, configState, withServices]
    simp only [configState, BackendRef.serviceKey] at hlookup
    rw [hlookup]
    rfl

theorem exists_generateConfig_onlyState_nil :
    ∃ c, generateConfig (onlyState inner gatewayNs gatewayName service []) = .ok c ∧
      c.routes = [] ∧ ∀ name : String, c.upstreams[name]? = none := by
  have hlive := @liveRules_onlyState_nil inner gatewayNs gatewayName service
  obtain ⟨c, hc⟩ := exists_generateConfig.2
    (@splittable_of_timeouts (onlyState inner gatewayNs gatewayName service [])
      (by rw [hlive]; simp))
  have hgen := isGenerated_of_eq_ok hc
  refine ⟨c, hc, by rw [hgen.routes, hlive]; rfl, fun name => ?_⟩
  rw [hgen.upstreams, hlive]
  rfl

theorem backendsOf_ne_none (hgen : IsGenerated st c) (hr : r ∈ liveRules st) :
    c.backendsOf r.upstreamName ≠ none := by
  rw [backendsOf, hgen.upstreams, ne_eq, Option.map_eq_none_iff, lastWrite_eq_none]
  intro h
  exact h _ (mem_map.2 ⟨r, hr, rfl⟩) rfl

theorem streamServers_inOrder (c : Config) (order : HashOrder) :
    (c.inOrder order).streamServers = c.streamServers := by
  simp [streamServers, inOrder, Function.comp_def]

theorem servers_eq_of_streams {st' : GatewayState} (hsame : st.SameButEndpoints st')
    (hgen : IsGenerated st c) (hgen' : IsGenerated st' c') (hstream : st.HasStream)
    (h : c.streamServers = c'.streamServers) {r : StreamRef} (hr : r ∈ streamRefs st) :
    r.servers st = r.servers st' := by
  obtain ⟨sc, hsc⟩ := Option.isSome_iff_exists.1 (isSome_streamConfig.2 hstream)
  obtain ⟨sc', hsc'⟩ := Option.isSome_iff_exists.1
    (isSome_streamConfig.2 (hsame.hasStream_iff.2 hstream))
  obtain ⟨port, his⟩ := isStreamConfig_of_eq_some hsc
  obtain ⟨port', his'⟩ := isStreamConfig_of_eq_some hsc'
  rw [streamServers, streamServers, hgen.streams, hgen'.streams, hsc, hsc'] at h
  simp only [Option.toList_some, map_cons, map_nil, cons.injEq, and_true,
    his.upstreams, his'.upstreams, hsame.streamRefs_eq, map_map, map_inj_left] at h
  exact h r hr

theorem exists_liveRule_onlyState {key : String}
    (hserves : inner.toPlannerSnapshot.ServesHttp gatewayNs gatewayName key route)
    (hb : b ∈ route.backendRefs) (hkey : b.serviceKey route.routeNs = service) (addr : String) :
    ∃ r, r ∈ liveRules (onlyState inner gatewayNs gatewayName service [addr]) := by
  obtain ⟨rule, hrule, hmap⟩ := mem_flatMap.1 hb
  obtain ⟨ref, href, rfl⟩ := mem_map.1 hmap
  obtain ⟨idx, hidx⟩ := getElem?_of_mem hrule
  refine ⟨⟨key, route, idx, rule⟩,
    mem_liveRules.2 ⟨mem_httpRules_configState.2 ⟨hserves, hidx⟩, ?_⟩⟩
  have haddr : addr ∈ resolveBackend (onlyState inner gatewayNs gatewayName service [addr])
      route.routeNs 80 ref.backendRef := by
    rw [resolveBackend_onlyState _ _ hkey]
    exact mem_singleton.2 rfl
  exact ne_nil_of_mem (mem_flatMap.2 ⟨ref, href, haddr⟩)

theorem streamServers_onlyState_ne {addr : String}
    (hgen : IsGenerated (onlyState inner gatewayNs gatewayName service []) c)
    (hgen' : IsGenerated (onlyState inner gatewayNs gatewayName service [addr]) c')
    {r : StreamRef}
    (hr : r ∈ streamRefs (configState gatewayNs gatewayName inner.toPlannerSnapshot))
    (hkey : r.ref.serviceKey r.routeNs = service)
    (hlistener : inner.toPlannerSnapshot.HasStreamListener gatewayNs gatewayName) :
    c.streamServers ≠ c'.streamServers := by
  intro hstreams
  have hhas : (onlyState inner gatewayNs gatewayName service []).HasStream :=
    (@hasStream_configState inner.toPlannerSnapshot _ _ r hr).2 hlistener
  have hsame : (onlyState inner gatewayNs gatewayName service []).SameButEndpoints
      (onlyState inner gatewayNs gatewayName service [addr]) := sameButEndpoints_withServices
  have hservers := servers_eq_of_streams hsame hgen hgen' hhas hstreams hr
  rw [servers, resolveBackend_onlyState _ _ hkey, servers,
    resolveBackend_onlyState _ _ hkey] at hservers
  cases hservers

theorem toml_onlyState_ne {lib : Libraries} (hlib : TomlShowsBackends lib) (order : HashOrder)
    (h : RendersService inner.toPlannerSnapshot gatewayNs gatewayName service)
    (hc : generateConfig (onlyState inner gatewayNs gatewayName service []) = .ok c)
    (hc' : generateConfig (onlyState inner gatewayNs gatewayName service ["addr"]) = .ok c')
    {text : String} (htext : lib.tomlToString (c.inOrder order) = .ok text) :
    lib.tomlToString (c'.inOrder order) ≠ .ok text := by
  intro htext'
  obtain ⟨hups, hstreams⟩ := hlib.shows _ _ text htext htext'
  rw [streamServers_inOrder, streamServers_inOrder] at hstreams
  have hgen := isGenerated_of_eq_ok hc
  have hgen' := isGenerated_of_eq_ok hc'
  cases h with
  | @http key route b hserves hb hkey =>
    obtain ⟨r, hlive⟩ := exists_liveRule_onlyState hserves hb hkey "addr"
    refine backendsOf_ne_none hgen' hlive ((hups _).symm.trans ?_)
    have hnone := hgen.upstreams r.upstreamName
    rw [liveRules_onlyState_nil] at hnone
    exact Option.map_eq_none_iff.2 hnone
  | @tls key route b hserves hb hlistener hkey =>
    have hr : (⟨.TLSRoute, key, route.routeNs, b⟩ : StreamRef) ∈ streamRefs
        (configState gatewayNs gatewayName inner.toPlannerSnapshot) :=
      mem_streamRefs_configState.2 (.inl ⟨rfl, route, hserves, rfl, hb⟩)
    exact streamServers_onlyState_ne hgen hgen' hr hkey hlistener hstreams
  | @tcp key route b hserves hb hlistener hkey =>
    have hr : (⟨.TCPRoute, key, route.routeNs, b⟩ : StreamRef) ∈ streamRefs
        (configState gatewayNs gatewayName inner.toPlannerSnapshot) :=
      mem_streamRefs_configState.2 (.inr ⟨rfl, route, hserves, rfl, hb⟩)
    exact streamServers_onlyState_ne hgen hgen' hr hkey hlistener hstreams

end Config

/-! ### The plan -/

structure PlannerSnapshot.SameButPresence (s s' : PlannerSnapshot) (service : String) : Prop where
  grants : s'.referenceGrants = s.referenceGrants
  presence : ∀ k, k ≠ service → (k ∈ s'.servicePresence ↔ k ∈ s.servicePresence)

theorem backendRefPermitted_of_grants {s s' : PlannerSnapshot}
    (h : s'.referenceGrants = s.referenceGrants) (routeKindStr routeNs : String) (b : BackendRef) :
    backendRefPermitted s' routeKindStr routeNs b =
      backendRefPermitted s routeKindStr routeNs b := by
  rw [backendRefPermitted, backendRefPermitted, PlannerSnapshot.referenceGrantsInNamespace,
    PlannerSnapshot.referenceGrantsInNamespace, h]

theorem unresolvedBackendRef_presence {s s' : PlannerSnapshot}
    {routeKindStr routeNs service : String} {b : BackendRef} (h : s.SameButPresence s' service)
    (hne : unresolvedBackendRef s' routeKindStr routeNs b ≠
      unresolvedBackendRef s routeKindStr routeNs b) :
    b.isCoreService = true ∧ b.nsOr routeNs = routeNs ∧ b.serviceKey routeNs = service := by
  cases hcore : b.isCoreService with
  | false =>
    exact absurd ((unresolvedBackendRef_of_other hcore).trans
      (unresolvedBackendRef_of_other hcore).symm) hne
  | true =>
    by_cases hstays : b.nsOr routeNs = routeNs
    · refine ⟨rfl, hstays, ?_⟩
      by_contra hkey
      rw [unresolvedBackendRef_of_stays hcore hstays,
        unresolvedBackendRef_of_stays hcore hstays] at hne
      simp only [h.presence _ hkey, ne_eq, not_true_eq_false] at hne
    · rw [unresolvedBackendRef_of_leaves hcore hstays, unresolvedBackendRef_of_leaves hcore hstays,
        backendRefPermitted_of_grants h.grants] at hne
      exact absurd rfl hne

section Presence

variable {ctx : RouteEvalContext} {s s' : PlannerSnapshot} {service : String}

theorem looksUp_of_unresolved_ne (hgrants : s.referenceGrants = ctx.snapshot.referenceGrants)
    (h : s.SameButPresence s' service) (hne : (ctx.on s').unresolved ≠ (ctx.on s).unresolved) :
    ∃ b, ctx.LooksUp service b := by
  obtain ⟨before, b, after, hrefs, hbefore, hparts⟩ := exists_of_findSome?_ne hne
  obtain ⟨hcore, hstays, hkey⟩ := unresolvedBackendRef_presence h hparts
  refine ⟨b, hcore, hstays, hkey, before, after, hrefs, ?_⟩
  intro b' hb' hcore' hleaves'
  -- a reference without a grant would have been reported first
  have hnone : unresolvedBackendRef s ctx.routeKind.asStr ctx.routeNamespace b' = none :=
    (hbefore b' hb').2
  rw [unresolvedBackendRef_of_leaves hcore' hleaves',
    backendRefPermitted_of_grants hgrants] at hnone
  by_contra hpermitted
  simp [hpermitted] at hnone

def RouteEvalContext.serviceKeys (ctx : RouteEvalContext) : Finset String :=
  (ctx.backendRefs.map fun b => b.serviceKey ctx.routeNamespace).toFinset

theorem unresolved_ne_backendNotFound (hpresence : s.servicePresence = ctx.serviceKeys)
    (target name : String) :
    (ctx.on s).unresolved ≠ some (.BackendNotFound ctx.routeNamespace target name) := by
  intro hstatus
  obtain ⟨b, hb, hb'⟩ := exists_of_findSome?_eq_some hstatus
  have hmem : b.serviceKey ctx.routeNamespace ∈ s.servicePresence := by
    rw [hpresence, serviceKeys, mem_toFinset]
    exact mem_map.2 ⟨b, hb, rfl⟩
  have hreport : unresolvedBackendRef s ctx.routeKind.asStr ctx.routeNamespace b =
    some (.BackendNotFound ctx.routeNamespace target name) := hb'
  obtain ⟨-, ⟨-, hmissing, -⟩ | ⟨-, -, hrefused⟩⟩ := unresolvedBackendRef_cases hreport
  · exact hmissing hmem
  · cases hrefused

theorem unresolved_eq_backendNotFound {b : BackendRef} (hb : ctx.LooksUp service b)
    (hgrants : s.referenceGrants = ctx.snapshot.referenceGrants)
    (hpresence : service ∉ s.servicePresence) :
    ∃ target name,
      (ctx.on s).unresolved = some (.BackendNotFound ctx.routeNamespace target name) := by
  obtain ⟨hcore, hstays, hkey, before, after, hrefs, hbefore⟩ := hb
  have hreported : unresolvedBackendRef s ctx.routeKind.asStr ctx.routeNamespace b =
      some (.BackendNotFound ctx.routeNamespace (b.nsOr ctx.routeNamespace) b.name) := by
    rw [unresolvedBackendRef_of_stays hcore hstays, hkey, if_neg hpresence]
  -- before the reference, only missing Services of the same namespace are reported
  have hearlier : ∀ b' ∈ before, ∀ status,
      unresolvedBackendRef s ctx.routeKind.asStr ctx.routeNamespace b' = some status →
        ∃ target name, status = .BackendNotFound ctx.routeNamespace target name := by
    intro b' hb' status hstatus
    obtain ⟨hcore', ⟨-, -, rfl⟩ | ⟨hleaves', hrefused, -⟩⟩ := unresolvedBackendRef_cases hstatus
    · exact ⟨_, _, rfl⟩
    · rw [backendRefPermitted_of_grants hgrants, hbefore b' hb' hcore' hleaves'] at hrefused
      cases hrefused
  have hsplit : (ctx.on s).unresolved = (before.findSome? (unresolvedBackendRef s
      ctx.routeKind.asStr ctx.routeNamespace)).or (some
        (.BackendNotFound ctx.routeNamespace (b.nsOr ctx.routeNamespace) b.name)) := by
    rw [unresolved, firstUnresolvedBackendRefForKind]
    simp [on, hrefs, hreported]
  rw [hsplit]
  cases hfirst : before.findSome? (unresolvedBackendRef s ctx.routeKind.asStr
      ctx.routeNamespace) with
  | none => exact ⟨_, _, rfl⟩
  | some status =>
    obtain ⟨b', hb', hstatus⟩ := exists_of_findSome?_eq_some hfirst
    obtain ⟨target, name, rfl⟩ := hearlier b' hb' status hstatus
    exact ⟨target, name, rfl⟩

end Presence

/-! ### The watch -/

section Watch

variable {inner : StoreInner} {gatewayNs gatewayName service : String} {generation : ℤ}

def StoreInner.planInput (inner : StoreInner) (gatewayNs gatewayName : String) (generation : ℤ) :
    AttachmentPlanInput :=
  ⟨gatewayNs, gatewayName, generation, inner.toPlannerSnapshot⟩

theorem sameObjects_withServices (endpoints : HashMap String ServiceEndpoints)
    (presence : Finset String) :
    inner.toPlannerSnapshot.SameObjects (inner.withServices endpoints presence).toPlannerSnapshot :=
  ⟨rfl, rfl, rfl, rfl, rfl⟩

theorem plansService_of_plan_ne {endpoints endpoints' : HashMap String ServiceEndpoints}
    {presence presence' : Finset String}
    (hdiffer : ServicesDifferAt service endpoints endpoints' presence presence')
    (hne : attachmentPlan ((inner.withServices endpoints' presence').planInput gatewayNs gatewayName
        generation) ≠
      attachmentPlan ((inner.withServices endpoints presence).planInput gatewayNs gatewayName
        generation)) :
    PlansService (inner.planInput gatewayNs gatewayName generation) service := by
  let s := (inner.withServices endpoints presence).toPlannerSnapshot
  let s' := (inner.withServices endpoints' presence').toPlannerSnapshot
  let input := (inner.withServices endpoints presence).planInput gatewayNs gatewayName generation
  have hsame : input.snapshot.SameObjects s' := ⟨rfl, rfl, rfl, rfl, rfl⟩
  have hbut : s.SameButPresence s' service := ⟨rfl, hdiffer.presence⟩
  cases hgateway : inner.toPlannerSnapshot.gateway gatewayNs gatewayName with
  | none => exact absurd (attachmentPlan_eq_of_none hsame hgateway) hne
  | some gateway =>
    have hchanged := mt (attachmentPlan_eq_iff hsame hgateway).2 hne
    push Not at hchanged
    obtain ⟨ctx, heval, l, hselects, hadmits, hfirst⟩ := hchanged
    obtain ⟨ctx₀, heval₀, rfl⟩ := (@evaluated_on (inner.planInput gatewayNs gatewayName
      generation) s gateway (sameObjects_withServices endpoints presence) ctx).1 heval
    have hsnapshot := snapshot_of_mem_planEvaluations (mem_planEvaluations.2 heval₀)
    have hlabels : s.namespaceLabels = ctx₀.snapshot.namespaceLabels := by rw [hsnapshot]; rfl
    have hgrants : s.referenceGrants = ctx₀.snapshot.referenceGrants := by rw [hsnapshot]; rfl
    obtain ⟨b, hb⟩ := @looksUp_of_unresolved_ne ctx₀ s s' service hgrants hbut hfirst
    exact ⟨gateway, ctx₀, l, b, hgateway, heval₀, ⟨hselects.listener, hselects.port⟩,
      (admits_on hlabels).1 hadmits, hb⟩

theorem exists_plan_ne
    (h : PlansService (inner.planInput gatewayNs gatewayName generation) service) :
    ∃ presence, attachmentPlan ((inner.withServices inner.serviceEndpoints
        (presence.erase service)).planInput gatewayNs gatewayName generation) ≠
      attachmentPlan ((inner.withServices inner.serviceEndpoints presence).planInput gatewayNs
        gatewayName generation) := by
  obtain ⟨gateway, ctx, l, b, hgateway, heval, hselects, hadmits, hb⟩ := h
  have hsnapshot := snapshot_of_mem_planEvaluations (mem_planEvaluations.2 heval)
  let s := (inner.withServices inner.serviceEndpoints ctx.serviceKeys).toPlannerSnapshot
  let s' := (inner.withServices inner.serviceEndpoints
    (ctx.serviceKeys.erase service)).toPlannerSnapshot
  let input := (inner.withServices inner.serviceEndpoints ctx.serviceKeys).planInput gatewayNs
    gatewayName generation
  have hsame : input.snapshot.SameObjects s' := ⟨rfl, rfl, rfl, rfl, rfl⟩
  have hlabels : s.namespaceLabels = ctx.snapshot.namespaceLabels := by rw [hsnapshot]; rfl
  refine ⟨ctx.serviceKeys, fun heq => ?_⟩
  have hall := (attachmentPlan_eq_iff hsame hgateway).1 heq
  have heval' : Evaluated input gateway (ctx.on s) :=
    (@evaluated_on (inner.planInput gatewayNs gatewayName generation) s gateway
      (sameObjects_withServices _ _) (ctx.on s)).2 ⟨ctx, heval, rfl⟩
  have hunresolved := hall (ctx.on s) heval' l ⟨hselects.listener, hselects.port⟩
    ((admits_on hlabels).2 hadmits)
  have hgrants : s'.referenceGrants = ctx.snapshot.referenceGrants := by rw [hsnapshot]; rfl
  have hpresence : service ∉ s'.servicePresence := Finset.notMem_erase service ctx.serviceKeys
  have hknown : s.servicePresence = ctx.serviceKeys := rfl
  obtain ⟨target, name, hmissing⟩ := unresolved_eq_backendNotFound hb hgrants hpresence
  exact unresolved_ne_backendNotFound hknown target name (hunresolved.symm.trans hmissing)

theorem exists_toml_ne {lib : Libraries} (hlib : TomlShowsBackends lib) (order : HashOrder)
    (h : RendersService inner.toPlannerSnapshot gatewayNs gatewayName service) :
    ∃ endpoints endpoints', ServicesDifferAt service endpoints endpoints' inner.servicePresence
        inner.servicePresence ∧
      configTomlFromSnapshot lib order gatewayNs gatewayName
          (inner.withServices endpoints' inner.servicePresence).toPlannerSnapshot ≠
        configTomlFromSnapshot lib order gatewayNs gatewayName
          (inner.withServices endpoints inner.servicePresence).toPlannerSnapshot := by
  let st := configState gatewayNs gatewayName inner.toPlannerSnapshot
  obtain ⟨c, hc, hroutes, -⟩ :=
    @exists_generateConfig_onlyState_nil inner gatewayNs gatewayName service
  obtain ⟨text, htext⟩ := hlib.writes _ c order hc hroutes
  have hconfig : configFromSnapshot gatewayNs gatewayName (inner.withServices (endpointsOnlyOf st
      service []) inner.servicePresence).toPlannerSnapshot = .ok c := hc
  refine ⟨endpointsOnlyOf st service [], endpointsOnlyOf st service ["addr"],
    servicesDifferAt_endpointsOnlyOf st [] ["addr"], fun heq => ?_⟩
  have hold : configTomlFromSnapshot lib order gatewayNs gatewayName (inner.withServices
      (endpointsOnlyOf st service []) inner.servicePresence).toPlannerSnapshot = .ok text := by
    rw [configTomlFromSnapshot, bind_eq_ok]
    exact ⟨c, mapError_eq_ok.2 hconfig, mapError_eq_ok.2 htext⟩
  rw [hold, configTomlFromSnapshot, bind_eq_ok] at heq
  obtain ⟨c', hc', htext'⟩ := heq
  exact toml_onlyState_ne hlib order h hc (mapError_eq_ok.1 hc') htext (mapError_eq_ok.1 htext')

end Watch

/-- **The watch requeues a Gateway for every change that shows** exactly when a Service with the key
of a rendered or planned reference is also referred to as a core Service. -/
theorem serviceWatch_complete_iff {lib : Libraries} (hlib : TomlShowsBackends lib)
    (order : HashOrder) (inner : StoreInner) (ns name gatewayNs gatewayName : String)
    (generation : ℤ) :
    (∀ endpoints endpoints' presence presence',
      ServicesDifferAt (GatewayState.key ns name) endpoints endpoints' presence presence' →
      (configTomlFromSnapshot lib order gatewayNs gatewayName
          (inner.withServices endpoints' presence').toPlannerSnapshot ≠
        configTomlFromSnapshot lib order gatewayNs gatewayName
          (inner.withServices endpoints presence).toPlannerSnapshot ∨
        attachmentPlan ((inner.withServices endpoints' presence').planInput gatewayNs gatewayName
            generation) ≠
          attachmentPlan ((inner.withServices endpoints presence).planInput gatewayNs gatewayName
            generation)) →
      (gatewayNs, gatewayName) ∈
        serviceWatch (rebuildFromStore (inner.withServices endpoints presence)) ns name) ↔
    (RendersService inner.toPlannerSnapshot gatewayNs gatewayName (GatewayState.key ns name) ∨
        PlansService (inner.planInput gatewayNs gatewayName generation) (GatewayState.key ns name) →
      inner.ServiceLeadsTo (ns, name) (gatewayNs, gatewayName)) := by
  have hwatch : ∀ endpoints presence, (gatewayNs, gatewayName) ∈ serviceWatch (rebuildFromStore
      (inner.withServices endpoints presence)) ns name ↔
        inner.ServiceLeadsTo (ns, name) (gatewayNs, gatewayName) :=
    fun _ _ => mem_serviceToGateways
  simp only [hwatch]
  constructor
  · rintro h (hrenders | hplans)
    · obtain ⟨endpoints, endpoints', hdiffer, hne⟩ := exists_toml_ne hlib order hrenders
      exact h endpoints endpoints' _ _ hdiffer (Or.inl hne)
    · obtain ⟨presence, hne⟩ := exists_plan_ne hplans
      refine h inner.serviceEndpoints inner.serviceEndpoints presence
        (presence.erase (GatewayState.key ns name)) ⟨fun _ _ => rfl, fun k hk => ?_⟩ (Or.inr hne)
      simp [hk]
  · intro h endpoints endpoints' presence presence' hdiffer hne
    rcases hne with htoml | hplan
    · refine h (Or.inl ?_)
      by_contra hrenders
      refine htoml ?_
      rw [configTomlFromSnapshot, configTomlFromSnapshot,
        configFromSnapshot_withServices_eq hdiffer hrenders]
    · exact h (Or.inr (plansService_of_plan_ne hdiffer hplan))

/-! ### A reference of another kind -/

open JsonText

def addressesText (addrs : List String) : List Char := array (addrs.map quote)

def streamText (ups : List (List String)) : List Char := array (ups.map addressesText)

def backendLibraries : Libraries where
  sha256Hex s := "sha256:" ++ s
  tomlToString c := .ok <| String.ofList <| array
    [object (c.upstreams.toList.map fun e => (e.1, addressesText e.2.backends)),
      array (c.streamServers.map streamText)]
  tomlFromStr _ := .ok Config.default

theorem addressesText_isJson (addrs : List String) : IsJson (addressesText addrs) :=
  .array (forall_mem_map.2 fun a _ => .quote a)

theorem streamText_isJson (ups : List (List String)) : IsJson (streamText ups) :=
  .array (forall_mem_map.2 fun addrs _ => addressesText_isJson addrs)

theorem addressesText_injective : Function.Injective addressesText :=
  array_map_injective .quote fun a b h => by simpa using h

theorem streamText_injective : Function.Injective streamText :=
  array_map_injective addressesText_isJson addressesText_injective

theorem backendsOf_eq_some {c : Config} {name : String} {addrs : List String} :
    c.backendsOf name = some addrs ↔
      (name, addressesText addrs) ∈
        c.upstreams.toList.map fun e => (e.1, addressesText e.2.backends) := by
  simp only [backendsOf, Option.map_eq_some_iff, mem_map, Prod.mk.injEq,
    addressesText_injective.eq_iff, Prod.exists, ← Std.TreeMap.mem_toList_iff_getElem?_eq_some]
  constructor
  · rintro ⟨u, hu, hbackends⟩
    exact ⟨name, u, hu, rfl, hbackends⟩
  · rintro ⟨_, u, hu, rfl, hbackends⟩
    exact ⟨u, hu, hbackends⟩

theorem backendLibraries_shows : TomlShowsBackends backendLibraries where
  writes st c order _ _ := ⟨_, rfl⟩
  shows c c' text h h' := by
    have hjson : ∀ c : Config, ∀ m ∈ c.upstreams.toList.map
        (fun e => (e.1, addressesText e.2.backends)), IsJson m.2 :=
      fun c => forall_mem_map.2 fun e _ => addressesText_isJson e.2.backends
    have hparts : ∀ c : Config, ∀ part ∈ [object (c.upstreams.toList.map
        fun e => (e.1, addressesText e.2.backends)), array (c.streamServers.map streamText)],
          IsJson part := by
      intro c part hpart
      rcases mem_cons.1 hpart with rfl | hpart
      · exact .object (hjson c)
      · obtain rfl := mem_singleton.1 hpart
        exact .array (forall_mem_map.2 fun ups _ => streamText_isJson ups)
    have htexts := array_inj (hparts c) (hparts c')
      (String.ofList_injective (Except.ok.inj (h.trans h'.symm)))
    simp only [cons.injEq, and_true] at htexts
    have hups := object_inj (hjson c) (hjson c') htexts.1
    refine ⟨fun name => Option.ext fun addrs => ?_,
      array_map_injective streamText_isJson streamText_injective htexts.2⟩
    rw [backendsOf_eq_some, backendsOf_eq_some, hups]

def importRef (group kind : String) : BackendRef :=
  { group := group, kind := kind, name := "api", port := some 80 }

def importRoute (group kind : String) : HTTPRoute where
  metadata := { ns := some "shop", name := some "shop" }
  spec :=
    { parentRefs := [{ name := "front" }]
      rules := [{ backendRefs := [⟨importRef group kind⟩] }] }
  status := some ⟨[⟨{ name := "front" }, wicketControllerName, [.accepted]⟩]⟩

def frontGateway : Gateway where
  metadata := { ns := some "shop", name := some "front" }
  spec :=
    { gatewayClassName := "wicket"
      listeners := [{ name := "http", port := 80, protocol := .HTTP }] }

def importInner (group kind : String) : StoreInner where
  gateways := collect [("shop/front", frontGateway)]
  httpRoutes := collect [("shop/shop", importRoute group kind)]

def apiEndpoints : HashMap String ServiceEndpoints :=
  collect [("shop/api", { ns := "shop", name := "api", endpoints := ["10.0.0.1:80"] })]

def importRule (group kind : String) : HttpRule :=
  ⟨"shop/shop", importRoute group kind, 0, { backendRefs := [⟨importRef group kind⟩] }⟩

def importState (group kind : String) (endpoints : HashMap String ServiceEndpoints) :
    GatewayState :=
  configState "shop" "front" ((importInner group kind).withServices endpoints ∅).toPlannerSnapshot

theorem exists_toml_importState {group kind : String} {endpoints : HashMap String ServiceEndpoints}
    (hlive : liveRules (importState group kind endpoints) = [importRule group kind]) :
    ∃ c text, c.backendsOf (importRule group kind).upstreamName =
        some ((importRule group kind).backends (importState group kind endpoints)) ∧
      backendLibraries.tomlToString c = .ok text ∧
      configTomlFromSnapshot backendLibraries .asListed "shop" "front"
        ((importInner group kind).withServices endpoints ∅).toPlannerSnapshot = .ok text := by
  obtain ⟨c, hc⟩ := exists_generateConfig.2 (@splittable_of_timeouts
    (importState group kind endpoints) (by rw [hlive]; simp [importRule]))
  refine ⟨c.inOrder .asListed, _, ?_, rfl, ?_⟩
  · exact congrArg (Option.map UpstreamConfig.backends)
      (upstream_of_liveRules_singleton (isGenerated_of_eq_ok hc) hlive)
  · rw [configTomlFromSnapshot, bind_eq_ok]
    exact ⟨c, mapError_eq_ok.2 hc, rfl⟩

theorem servicesDifferAt_apiEndpoints : ServicesDifferAt "shop/api" ∅ apiEndpoints ∅ ∅ := by
  refine ⟨fun k hk => ?_, fun _ _ => Iff.rfl⟩
  rw [apiEndpoints, lookup_collect]
  simp [lastWrite, hk.symm]

theorem toml_importState_ne {group kind : String}
    (hlive : liveRules (importState group kind ∅) = [importRule group kind])
    (hlive' : liveRules (importState group kind apiEndpoints) = [importRule group kind])
    (hbackends : (importRule group kind).backends (importState group kind apiEndpoints) ≠
      (importRule group kind).backends (importState group kind ∅)) :
    configTomlFromSnapshot backendLibraries .asListed "shop" "front"
        ((importInner group kind).withServices apiEndpoints ∅).toPlannerSnapshot ≠
      configTomlFromSnapshot backendLibraries .asListed "shop" "front"
        ((importInner group kind).withServices ∅ ∅).toPlannerSnapshot := by
  intro heq
  obtain ⟨c, text, hshown, htext, htoml⟩ := exists_toml_importState hlive
  obtain ⟨c', text', hshown', htext', htoml'⟩ := exists_toml_importState hlive'
  obtain rfl : text' = text := Except.ok.inj (htoml'.symm.trans (heq.trans htoml))
  have hsame := (backendLibraries_shows.shows c c' text' htext htext').1
    (importRule group kind).upstreamName
  rw [hshown, hshown'] at hsame
  exact hbackends (Option.some.inj hsame).symm

theorem importRoute_not_requeued :
    ServicesDifferAt "shop/api" ∅ apiEndpoints ∅ ∅ ∧
      configTomlFromSnapshot backendLibraries .asListed "shop" "front"
          ((importInner "multicluster.x-k8s.io" "ServiceImport").withServices apiEndpoints
            ∅).toPlannerSnapshot ≠
        configTomlFromSnapshot backendLibraries .asListed "shop" "front"
          ((importInner "multicluster.x-k8s.io" "ServiceImport").withServices ∅
            ∅).toPlannerSnapshot ∧
      ("shop", "front") ∉ serviceWatch (rebuildFromStore
        ((importInner "multicluster.x-k8s.io" "ServiceImport").withServices ∅ ∅)) "shop" "api" := by
  refine ⟨servicesDifferAt_apiEndpoints, toml_importState_ne rfl rfl (by decide), ?_⟩
  -- the index passes over the reference
  rw [serviceWatch, mem_gatewaysForKey]
  decide

theorem coreRoute_requeued :
    ServicesDifferAt "shop/api" ∅ apiEndpoints ∅ ∅ ∧
      configTomlFromSnapshot backendLibraries .asListed "shop" "front"
          ((importInner "" "Service").withServices apiEndpoints ∅).toPlannerSnapshot ≠
        configTomlFromSnapshot backendLibraries .asListed "shop" "front"
          ((importInner "" "Service").withServices ∅ ∅).toPlannerSnapshot ∧
      ("shop", "front") ∈ serviceWatch (rebuildFromStore
        ((importInner "" "Service").withServices ∅ ∅)) "shop" "api" := by
  have hne := @toml_importState_ne "" "Service" rfl rfl (by decide)
  have hleads : (importInner "" "Service").ServiceLeadsTo ("shop", "api") ("shop", "front") :=
    ⟨"shop/shop", .http (importRoute "" "Service"), rfl,
      ⟨importRef "" "Service", List.mem_singleton.2 rfl, rfl, rfl⟩,
      ⟨{ name := "front" }, List.mem_singleton.2 rfl, rfl, rfl⟩⟩
  exact ⟨servicesDifferAt_apiEndpoints, hne,
    (serviceWatch_complete_iff backendLibraries_shows .asListed (importInner "" "Service")
      "shop" "api" "shop" "front" 1).2 (fun _ => hleads) _ _ _ _ servicesDifferAt_apiEndpoints
        (.inl hne)⟩

end Wicket
