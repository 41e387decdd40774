/-
**What the plan for a Gateway depends on.**

Other Gateways, other routes and the stored Secrets do not matter.  But the server names of a stream
are written in the order in which a hash map happens to be iterated.
-/

import Wicket.PlanAnswer
import Wicket.RenderAttachment
import Wicket.RuntimePlanner
import Wicket.StreamSlots

namespace Wicket

open List Check KeyMap GatewayState StreamConfig ObjectMeta
open KeyMap (HashMap)

/-! ### The part of a snapshot that belongs to a Gateway -/

def SameRoutes {ρ : Type} (routeNs : ρ → String) (parentRefs : ρ → List ParentReference)
    (gatewayNs gatewayName : String) (routes routes' : HashMap String ρ) : Prop :=
  ∀ key route, routeReferencesGateway (routeNs route) (parentRefs route) gatewayNs gatewayName =
    true → (routes'.lookup key = some route ↔ routes.lookup key = some route)

structure PlannerSnapshot.AgreeOn (s s' : PlannerSnapshot) (gatewayNs gatewayName : String) : Prop
    extends s.SamePolicies s' where
  gateway : s'.gateway gatewayNs gatewayName = s.gateway gatewayNs gatewayName
  http : SameRoutes HTTPRoute.routeNs (fun r => r.spec.parentRefs) gatewayNs gatewayName
    s.httpRoutes s'.httpRoutes
  tcp : SameRoutes TCPRoute.routeNs (fun r => r.spec.parentRefs) gatewayNs gatewayName
    s.tcpRoutes s'.tcpRoutes
  tls : SameRoutes TLSRoute.routeNs (fun r => r.spec.parentRefs) gatewayNs gatewayName
    s.tlsRoutes s'.tlsRoutes
  endpoints : ∀ key, s'.serviceEndpoints.lookup key = s.serviceEndpoints.lookup key

variable {ρ : Type} {routeNs : ρ → String} {parentRefs : ρ → List ParentReference}
  {gatewayNs gatewayName hostname : String}

theorem SameRoutes.lookup_filterValues {routes routes' : HashMap String ρ}
    (h : SameRoutes routeNs parentRefs gatewayNs gatewayName routes routes') (key : String)
    (route : ρ) :
    (KeyMap.filterValues (fun r => routeReferencesGateway (routeNs r) (parentRefs r) gatewayNs
        gatewayName) routes').lookup key = some route ↔
      (filterValues (fun r => routeReferencesGateway (routeNs r) (parentRefs r) gatewayNs
        gatewayName) routes).lookup key = some route := by
  rw [KeyMap.lookup_filterValues, KeyMap.lookup_filterValues]
  exact and_congr_left (h key route)

theorem SameRoutes.refl (routes : HashMap String ρ) :
    SameRoutes routeNs parentRefs gatewayNs gatewayName routes routes :=
  fun _ _ _ => Iff.rfl

theorem SameRoutes.insert {key : String} {routes : HashMap String ρ} {route : ρ}
    (hnew : routes.lookup key = none)
    (hother : routeReferencesGateway (routeNs route) (parentRefs route) gatewayNs gatewayName =
      false) :
    SameRoutes routeNs parentRefs gatewayNs gatewayName routes (routes.insert key route) := by
  intro key' route' hnames
  by_cases hkey : key' = key
  · subst hkey
    rw [AList.lookup_insert, hnew, Option.some.injEq]
    constructor
    · rintro rfl
      rw [hother] at hnames
      cases hnames
    · rintro ⟨⟩
  · rw [AList.lookup_insert_ne hkey]

/-! ### The configuration -/

/-- The states have the same Gateways and mount paths, and their other maps read alike. -/
structure GatewayState.SameReads (st st' : GatewayState) : Prop where
  gateways : st'.gateways = st.gateways
  tlsSecrets : st'.tlsSecrets = st.tlsSecrets
  http : ∀ key route, st'.httpRoutes.lookup key = some route ↔ st.httpRoutes.lookup key = some route
  tcp : ∀ key route, st'.tcpRoutes.lookup key = some route ↔ st.tcpRoutes.lookup key = some route
  tls : ∀ key route, st'.tlsRoutes.lookup key = some route ↔ st.tlsRoutes.lookup key = some route
  endpoints : ∀ key, st'.serviceEndpoints.lookup key = st.serviceEndpoints.lookup key

namespace GatewayState.SameReads

variable {st st' : GatewayState}

theorem resolveBackend_eq (h : st.SameReads st') : resolveBackend st' = resolveBackend st := by
  funext routeNs port b
  simp only [resolveBackend, h.endpoints]

theorem renderHttpRoutes_eq (h : st.SameReads st') :
    renderHttpRoutes st' = renderHttpRoutes st := by
  have hroute : renderHttpRoute st' = renderHttpRoute st := by
    have hrule : renderRule st' = renderRule st := by
      funext route out e
      have hbackends : ruleBackends st' route e.1 = ruleBackends st route e.1 := by
        simp only [ruleBackends, h.resolveBackend_eq]
      simp only [renderRule, hbackends]
    funext out entry
    simp only [renderHttpRoute, hrule]
  rw [renderHttpRoutes, renderHttpRoutes, sortedEntries_congr h.http, hroute]

theorem renderStreamRoutes_eq (h : st.SameReads st') :
    renderStreamRoutes st' = renderStreamRoutes st := by
  have htls : renderTlsRoute st' = renderTlsRoute st := by
    have hbackend : renderTlsBackend st' = renderTlsBackend st := by
      funext route out b
      simp only [renderTlsBackend, h.resolveBackend_eq]
    funext out entry
    simp only [renderTlsRoute, hbackend]
  have htcp : renderTcpRoute st' = renderTcpRoute st := by
    have hbackend : renderTcpBackend st' = renderTcpBackend st := by
      funext route out b
      simp only [renderTcpBackend, h.resolveBackend_eq]
    funext out entry
    simp only [renderTcpRoute, hbackend]
  rw [renderStreamRoutes, renderStreamRoutes, sortedEntries_congr h.tls,
    sortedEntries_congr h.tcp, htls, htcp]

theorem listeners_eq (h : st.SameReads st') : st'.listeners = st.listeners := by
  rw [listeners, h.gateways, listeners]

theorem streamConfig_eq (h : st.SameReads st') : streamConfig st' = streamConfig st := by
  rw [streamConfig, streamConfig, (perm_entries_of_lookup h.tcp).isEmpty_eq,
    (perm_entries_of_lookup h.tls).isEmpty_eq, h.renderStreamRoutes_eq,
    tcpListeners, h.listeners_eq, tcpListeners]

theorem tlsConfig_eq (h : st.SameReads st') : tlsConfig st' = tlsConfig st := by
  have hadd : addCert st' = addCert st := by
    funext gwNs listener m ref
    simp only [addCert, h.tlsSecrets]
  have hcerts : certMap st' = certMap st := by
    rw [certMap, certMap, h.gateways, hadd]
  rw [tlsConfig, tlsConfig, hcerts]

theorem generateConfig_eq (h : st.SameReads st') : generateConfig st' = generateConfig st := by
  rw [generateConfig, generateConfig, h.renderHttpRoutes_eq, h.tlsConfig_eq, h.streamConfig_eq,
    httpListeners, httpsListeners, h.listeners_eq, httpListeners, httpsListeners]

end GatewayState.SameReads

section Frame

variable {s s' : PlannerSnapshot} {gatewayNs gatewayName : String}

theorem PlannerSnapshot.AgreeOn.configFromSnapshot_eq (h : s.AgreeOn s' gatewayNs gatewayName) :
    configFromSnapshot gatewayNs gatewayName s' = configFromSnapshot gatewayNs gatewayName s := by
  refine GatewayState.SameReads.generateConfig_eq ⟨?_, ?_, h.http.lookup_filterValues,
    h.tcp.lookup_filterValues, h.tls.lookup_filterValues, h.endpoints⟩
  · simp only [configState, h.gateway]
  · simp only [configState, h.gateway]

/-! ### The attachment plan -/

theorem ObjectMeta.nameLe_iff {a b : ObjectMeta} :
    a.nameLe b = true ↔
      toLex (a.ns.getD "", a.name.getD "") ≤ toLex (b.ns.getD "", b.name.getD "") := by
  simp [nameLe, Prod.Lex.le_iff]

instance {ρ : Type} (metadata : ρ → ObjectMeta) :
    Std.Total fun a b : ρ => (metadata a).nameLe (metadata b) = true where
  total a b := by
    simp only [ObjectMeta.nameLe_iff]
    exact le_total _ _

instance {ρ : Type} (metadata : ρ → ObjectMeta) :
    IsTrans ρ fun a b => (metadata a).nameLe (metadata b) = true where
  trans a b c := by
    simp only [ObjectMeta.nameLe_iff]
    exact le_trans

theorem SameRoutes.routesForGateway_eq {ρ : Type} {metadata : ρ → ObjectMeta}
    {parentRefs : ρ → List ParentReference} {routes routes' : HashMap String ρ}
    (h : SameRoutes (fun r => (metadata r).ns.getD "default") parentRefs gatewayNs gatewayName
      routes routes')
    (hkeyed : ∀ key route, routes.lookup key = some route → (metadata route).KeyedBy key) :
    routesForGateway metadata parentRefs routes' gatewayNs gatewayName =
      routesForGateway metadata parentRefs routes gatewayNs gatewayName := by
  refine (insertionSort_congr ?_ ?_).symm
  · intro a ha b hb hab hba
    simp only [mem_filter, mem_map, Prod.exists, mem_entries, exists_eq_right] at ha hb
    obtain ⟨⟨key, hkey⟩, -⟩ := ha
    obtain ⟨⟨key', hkey'⟩, -⟩ := hb
    -- both are stored under the key of their common namespace and name
    have hsame := le_antisymm (nameLe_iff.1 hab) (nameLe_iff.1 hba)
    obtain ⟨ns, name, hns, hname, rfl⟩ := hkeyed key a hkey
    obtain ⟨ns', name', hns', hname', rfl⟩ := hkeyed key' b hkey'
    rw [hns, hname, hns', hname', toLex_inj] at hsame
    cases hsame
    exact Option.some.inj (hkey.symm.trans hkey')
  · have hvalues : ∀ m : HashMap String ρ, ((entries m).map Prod.snd).filter (fun r =>
        routeReferencesGateway ((metadata r).ns.getD "default") (parentRefs r) gatewayNs
          gatewayName) = (filterValues (fun r => routeReferencesGateway
            ((metadata r).ns.getD "default") (parentRefs r) gatewayNs gatewayName) m).entries.map
              fun e => e.2 := by
      simp [entries, filterValues, filter_map, Function.comp_def]
    rw [hvalues, hvalues]
    exact (perm_entries_of_lookup fun key route =>
      (h.lookup_filterValues key route).symm).map _

theorem planRoutes_congr {ρ : Type} {input : AttachmentPlanInput}
    (context context' : ρ → ParentReference → RouteEvalContext)
    (hcontext : ∀ route p, context' route p = { context route p with snapshot := s' })
    (hpolicies : ∀ route p, (context route p).snapshot.SamePolicies s')
    (parentRefs : ρ → List ParentReference) (routes : List ρ) (st : PlanState) :
    planRoutes { input with snapshot := s' } context' parentRefs routes st =
      planRoutes input context parentRefs routes st := by
  have hstep : (fun st route => (parentRefs route).foldl
      (planParentRef { input with snapshot := s' } (context' route)) st) =
      fun st route => (parentRefs route).foldl (planParentRef input (context route)) st := by
    funext st route
    congr 1
    funext st p
    rw [planParentRef, planParentRef, hcontext]
    simp only [evaluate_congr (hpolicies route p)]
    rfl
  rw [planRoutes, planRoutes, hstep]

theorem planState_congr {input : AttachmentPlanInput} (gateway : Gateway)
    (h : input.snapshot.AgreeOn s' input.gatewayNamespace input.gatewayName)
    (hkeyed : input.snapshot.KeyedRoutes) :
    planState { input with snapshot := s' } gateway = planState input gateway := by
  have hhttp : s'.httpRoutesForGateway input.gatewayNamespace input.gatewayName =
      input.snapshot.httpRoutesForGateway input.gatewayNamespace input.gatewayName :=
    h.http.routesForGateway_eq fun key route hroute =>
      hkeyed .HTTPRoute key (.http route) (by rw [PlannerSnapshot.route, hroute]; rfl)
  have htcp : s'.tcpRoutesForGateway input.gatewayNamespace input.gatewayName =
      input.snapshot.tcpRoutesForGateway input.gatewayNamespace input.gatewayName :=
    h.tcp.routesForGateway_eq fun key route hroute =>
      hkeyed .TCPRoute key (.tcp route) (by rw [PlannerSnapshot.route, hroute]; rfl)
  have htls : s'.tlsRoutesForGateway input.gatewayNamespace input.gatewayName =
      input.snapshot.tlsRoutesForGateway input.gatewayNamespace input.gatewayName :=
    h.tls.routesForGateway_eq fun key route hroute =>
      hkeyed .TLSRoute key (.tls route) (by rw [PlannerSnapshot.route, hroute]; rfl)
  have hpolicies := h.toSamePolicies
  simp only [planState, hhttp, htcp, htls]
  rw [planRoutes_congr (tlsEvalContext input gateway)
      (tlsEvalContext { input with snapshot := s' } gateway) (fun _ _ => rfl) fun _ _ => hpolicies,
    planRoutes_congr (tcpEvalContext input gateway)
      (tcpEvalContext { input with snapshot := s' } gateway) (fun _ _ => rfl) fun _ _ => hpolicies,
    planRoutes_congr (httpEvalContext input gateway)
      (httpEvalContext { input with snapshot := s' } gateway) (fun _ _ => rfl) fun _ _ => hpolicies]

/-- **The attachment plan depends on the part that belongs to the Gateway only.** -/
theorem attachmentPlan_congr {input : AttachmentPlanInput}
    (h : input.snapshot.AgreeOn s' input.gatewayNamespace input.gatewayName)
    (hkeyed : input.snapshot.KeyedRoutes) :
    attachmentPlan { input with snapshot := s' } = attachmentPlan input := by
  simp only [attachmentPlan, h.gateway]
  cases input.snapshot.gateway input.gatewayNamespace input.gatewayName with
  | none => rfl
  | some gateway => simp only [planState_congr gateway h hkeyed]

/-- **For one order of the maps, the runtime plan depends on the part that belongs to the Gateway
only.** -/
theorem plan_congr {lib : Libraries} {order : HashOrder} {input : RuntimePlanInput}
    (h : input.snapshot.AgreeOn s' input.gatewayNamespace input.gatewayName)
    (hkeyed : input.snapshot.KeyedRoutes) :
    GatewayRuntimePlanner.plan lib order { input with snapshot := s' } =
      GatewayRuntimePlanner.plan lib order input := by
  have htoml : configTomlFromSnapshot lib order input.gatewayNamespace input.gatewayName s' =
      configTomlFromSnapshot lib order input.gatewayNamespace input.gatewayName input.snapshot := by
    simp only [configTomlFromSnapshot, h.configFromSnapshot_eq]
  have hassemble : GatewayRuntimePlanner.assemble lib { input with snapshot := s' } =
      GatewayRuntimePlanner.assemble lib input := by
    funext gateway uid generation base ports toml
    have hattach := @attachmentPlan_congr s'
      ⟨input.gatewayNamespace, input.gatewayName, generation, input.snapshot⟩ h hkeyed
    simp only [GatewayRuntimePlanner.assemble]
    rw [hattach]
  simp only [GatewayRuntimePlanner.plan, h.gateway, htoml, hassemble]

end Frame

/-! ### The server names of a stream -/

def PlannerSnapshot.SniName (s : PlannerSnapshot) (gatewayNs gatewayName hostname : String) :
    Prop :=
  ∃ key route, s.ServesTls gatewayNs gatewayName key route ∧ hostname ∈ route.spec.hostnames ∧
    route.backendRefs ≠ []

theorem sniName_iff {s : PlannerSnapshot} {c : Config}
    (h : configFromSnapshot gatewayNs gatewayName s = .ok c) :
    (∃ sc ∈ c.streams, (sc.sniRoutes.lookup hostname).isSome = true) ↔
      s.HasStreamListener gatewayNs gatewayName ∧ s.SniName gatewayNs gatewayName hostname := by
  have hnames : ((renderStreamRoutes (configState gatewayNs gatewayName s)).sniRoutes.lookup
      hostname).isSome = true ↔ s.SniName gatewayNs gatewayName hostname := by
    rw [isSome_lookup_sniRoutes, PlannerSnapshot.SniName]
    refine exists_congr fun key => exists_congr fun route => ?_
    rw [← and_assoc]
    exact and_congr_left fun _ => lookup_filter_iff_serves
  constructor
  · rintro ⟨sc, hsc, hsome⟩
    obtain ⟨port, hparts⟩ := isStreamConfig_of_eq_some (streamConfig_of_mem h hsc)
    rw [hparts.sniRoutes] at hsome
    exact ⟨tcpListeners_configState.1 (hasStream_of_mem h hsc).2, hnames.1 hsome⟩
  · rintro ⟨hlistener, hname⟩
    obtain ⟨key, route, hserves, -, hbackends⟩ := id hname
    obtain ⟨b, hb⟩ := exists_mem_of_ne_nil _ hbackends
    have hr : (⟨.TLSRoute, key, route.routeNs, b⟩ : StreamRef) ∈
        streamRefs (configState gatewayNs gatewayName s) :=
      mem_streamRefs_configState.2 (Or.inl ⟨rfl, route, hserves, rfl, hb⟩)
    obtain ⟨sc, hsc, port, hparts⟩ :=
      exists_stream_of_hasStream h ((hasStream_configState hr).2 hlistener)
    refine ⟨sc, hsc, ?_⟩
    rw [hparts.sniRoutes]
    exact hnames.2 hname

/-! ### The order of the maps -/

def HashOrder.reversed : HashOrder where
  order := KeyMap.reverse
  perm _ := List.reverse_perm _

/-- The TOML library writes the entries of a map in the order in which they come. -/
structure TomlOrder (lib : Libraries) : Prop where
  fails : ∀ (c : Config) (o o' : HashOrder) (e : String),
    lib.tomlToString (c.inOrder o) = .error e → lib.tomlToString (c.inOrder o') = .error e
  shows : ∀ (c : Config) (o o' : HashOrder) (text : String),
    lib.tomlToString (c.inOrder o) = .ok text → lib.tomlToString (c.inOrder o') = .ok text →
      ∀ sc ∈ c.streams,
        KeyMap.entries (o.order sc.sniRoutes) = KeyMap.entries (o'.order sc.sniRoutes)

theorem Config.inOrder_asListed (c : Config) : c.inOrder .asListed = c := by
  simp [Config.inOrder, HashOrder.asListed]

theorem Config.inOrder_eq {c : Config} (o : HashOrder)
    (hone : ∀ sc ∈ c.streams, ∀ h h', (sc.sniRoutes.lookup h).isSome = true →
      (sc.sniRoutes.lookup h').isSome = true → h = h') : c.inOrder o = c := by
  have hstreams : (c.streams.map fun st => { st with sniRoutes := o.order st.sniRoutes }) =
      c.streams := by
    refine (map_congr_left fun sc hsc => ?_).trans (map_id _)
    rw [eq_of_perm (o.perm sc.sniRoutes) (hone sc hsc)]
    rfl
  rw [Config.inOrder, hstreams]

/-! ### When the plans agree -/

/-- What the planner asks for. -/
structure Plannable (lib : Libraries) (input : RuntimePlanInput) : Prop where
  gateway : ∃ gateway, input.snapshot.gateway input.gatewayNamespace input.gatewayName =
    some gateway ∧ gateway.metadata.uid.isSome = true ∧ gateway.metadata.generation.isSome = true ∧
      duplicateListenerName [] gateway.spec.listeners = none
  baseName : ∃ base, ownedObjectBaseName lib input.gatewayName = .ok base
  config : ∃ c text, configFromSnapshot input.gatewayNamespace input.gatewayName input.snapshot =
    .ok c ∧ lib.tomlToString c = .ok text

section Orders

open GatewayRuntimePlanner

variable {lib : Libraries} {order order' : HashOrder} {input : RuntimePlanInput}

theorem exists_servicePortsFromListeners {gateway : Gateway} :
    (∃ ports, servicePortsFromListeners gateway = .ok ports) ↔
      duplicateListenerName [] gateway.spec.listeners = none := by
  rw [servicePortsFromListeners]
  cases duplicateListenerName [] gateway.spec.listeners <;> simp

theorem configTomlFromSnapshot_eq_ok {gatewayNs gatewayName : String} {s : PlannerSnapshot}
    {text : String} :
    configTomlFromSnapshot lib order gatewayNs gatewayName s = .ok text ↔
      ∃ c, configFromSnapshot gatewayNs gatewayName s = .ok c ∧
        lib.tomlToString (c.inOrder order) = .ok text := by
  simp only [configTomlFromSnapshot, bind_eq_ok, mapError_eq_ok]

theorem Plannable.exists_parts (h : Plannable lib input) {text : String}
    (htext : configTomlFromSnapshot lib order input.gatewayNamespace input.gatewayName
      input.snapshot = .ok text) :
    ∃ parts : PlanParts lib order input, parts.configToml = text := by
  obtain ⟨gateway, hgateway, huid, hgeneration, hnames⟩ := h.gateway
  obtain ⟨uid, huid⟩ := Option.isSome_iff_exists.1 huid
  obtain ⟨generation, hgeneration⟩ := Option.isSome_iff_exists.1 hgeneration
  obtain ⟨base, hbase⟩ := h.baseName
  obtain ⟨ports, hports⟩ := exists_servicePortsFromListeners.2 hnames
  exact ⟨⟨gateway, uid, generation, base, ports, text, hgateway, huid, hgeneration, hbase, hports,
    htext⟩, rfl⟩

theorem plan_order_congr (hlib : TomlOrder lib)
    (h : Plannable lib input → ∀ c, configFromSnapshot input.gatewayNamespace input.gatewayName
      input.snapshot = .ok c → c.inOrder order = c.inOrder order') :
    plan lib order input = plan lib order' input := by
  refine bind_congr fun gateway hgateway => bind_congr fun uid huid =>
    bind_congr fun generation hgeneration => bind_congr fun base hbase =>
      bind_congr fun ports hports => ?_
  have htoml : configTomlFromSnapshot lib order input.gatewayNamespace input.gatewayName
      input.snapshot = configTomlFromSnapshot lib order' input.gatewayNamespace
        input.gatewayName input.snapshot := by
    refine bind_congr fun c hc => ?_
    have hc := mapError_eq_ok.1 hc
    -- what cannot be written in one order cannot be written in another
    cases htext : lib.tomlToString c with
    | error e =>
      rw [← c.inOrder_asListed] at htext
      rw [hlib.fails c _ order e htext, hlib.fails c _ order' e htext]
    | ok text =>
      rw [h ⟨⟨gateway, required_eq_ok.1 hgateway, Option.isSome_of_mem (required_eq_ok.1 huid),
        Option.isSome_of_mem (required_eq_ok.1 hgeneration),
        exists_servicePortsFromListeners.1 ⟨ports, mapError_eq_ok.1 hports⟩⟩,
        ⟨base, mapError_eq_ok.1 hbase⟩, ⟨c, text, hc, htext⟩⟩ c hc]
  rw [htoml]

end Orders

theorem sniName_unique {lib : Libraries} (hlib : TomlOrder lib) {input : RuntimePlanInput}
    (hplans : GatewayRuntimePlanner.plan lib .asListed input =
      GatewayRuntimePlanner.plan lib .reversed input)
    (hplannable : Plannable lib input)
    (hlistener : input.snapshot.HasStreamListener input.gatewayNamespace input.gatewayName)
    {h h' : String} (hname : input.snapshot.SniName input.gatewayNamespace input.gatewayName h)
    (hname' : input.snapshot.SniName input.gatewayNamespace input.gatewayName h') : h = h' := by
  obtain ⟨c, text, hc, htext⟩ := hplannable.config
  have hlisted : lib.tomlToString (c.inOrder .asListed) = .ok text := by
    rw [c.inOrder_asListed, htext]
  -- the same text is written in the reversed order
  have hreversed : lib.tomlToString (c.inOrder .reversed) = .ok text := by
    obtain ⟨parts, hparts⟩ :=
      hplannable.exists_parts (configTomlFromSnapshot_eq_ok.2 ⟨c, hc, hlisted⟩)
    have hplan := GatewayRuntimePlanner.plan_eq_ok.2 ⟨parts, rfl⟩
    obtain ⟨parts', hsame⟩ := GatewayRuntimePlanner.plan_eq_ok.1 (hplans.symm.trans hplan)
    have htoml : parts'.configToml = text :=
      (congrArg GatewayRuntimePlan.configToml hsame).trans hparts
    obtain ⟨c', hc', htext'⟩ := configTomlFromSnapshot_eq_ok.1 parts'.configToml_eq
    obtain rfl : c = c' := Except.ok.inj (hc.symm.trans hc')
    rw [htext', htoml]
  obtain ⟨sc, hsc, hsome⟩ := (sniName_iff hc).2 ⟨hlistener, hname⟩
  obtain ⟨sc', hsc', hsome'⟩ := (sniName_iff hc).2 ⟨hlistener, hname'⟩
  -- there is one stream at most
  obtain rfl : sc = sc' := Option.some.inj
    ((streamConfig_of_mem hc hsc).symm.trans (streamConfig_of_mem hc hsc'))
  exact eq_of_reverse_eq (hlib.shows c _ _ text hreversed hlisted sc hsc) hsome hsome'

/-- **Agreeing snapshots lead to equal plans in every order** exactly when a Gateway that can be
planned and has a stream listener has one server name at most. -/
theorem plan_unaffected_iff {lib : Libraries} (hlib : TomlOrder lib) {input : RuntimePlanInput}
    {s' : PlannerSnapshot}
    (hagree : input.snapshot.AgreeOn s' input.gatewayNamespace input.gatewayName)
    (hkeyed : input.snapshot.KeyedRoutes) :
    ((∀ order order', GatewayRuntimePlanner.plan lib order input =
        GatewayRuntimePlanner.plan lib order' { input with snapshot := s' }) ∧
      ∀ generation, attachmentPlan
          ⟨input.gatewayNamespace, input.gatewayName, generation, input.snapshot⟩ =
        attachmentPlan ⟨input.gatewayNamespace, input.gatewayName, generation, s'⟩) ↔
    (Plannable lib input →
      input.snapshot.HasStreamListener input.gatewayNamespace input.gatewayName →
      ∀ h h', input.snapshot.SniName input.gatewayNamespace input.gatewayName h →
        input.snapshot.SniName input.gatewayNamespace input.gatewayName h' → h = h') := by
  simp only [plan_congr hagree hkeyed]
  constructor
  · rintro ⟨hplans, -⟩ hplannable hlistener h h' hname hname'
    exact sniName_unique hlib (hplans _ _) hplannable hlistener hname hname'
  · intro hone
    refine ⟨fun order order' => plan_order_congr hlib fun hplannable c hc => ?_, fun generation =>
      (@attachmentPlan_congr s' ⟨_, _, generation, input.snapshot⟩ hagree hkeyed).symm⟩
    have hnames : ∀ sc ∈ c.streams, ∀ h h', (sc.sniRoutes.lookup h).isSome = true →
        (sc.sniRoutes.lookup h').isSome = true → h = h' := by
      intro sc hsc h h' hsome hsome'
      obtain ⟨hlistener, hname⟩ := (sniName_iff hc).1 ⟨sc, hsc, hsome⟩
      obtain ⟨-, hname'⟩ := (sniName_iff hc).1 ⟨sc, hsc, hsome'⟩
      exact hone hplannable hlistener h h' hname hname'
    rw [Config.inOrder_eq order hnames, Config.inOrder_eq order' hnames]

/-! ### A Gateway beside its neighbours -/

open JsonText

def StreamConfig.sniText (sc : StreamConfig) : List Char :=
  object ((KeyMap.entries sc.sniRoutes).map fun e => (e.1, quote e.2))

def orderedLibraries : Libraries where
  sha256Hex s := "sha256:" ++ s
  tomlToString c := .ok (String.ofList (array (c.streams.map StreamConfig.sniText)))
  tomlFromStr _ := .ok Config.default

theorem StreamConfig.sniText_isJson (sc : StreamConfig) : IsJson sc.sniText :=
  .object (forall_mem_map.2 fun e _ => .quote e.2)

theorem StreamConfig.entries_of_sniText {sc sc' : StreamConfig} (h : sc.sniText = sc'.sniText) :
    entries sc.sniRoutes = entries sc'.sniRoutes :=
  texts_inj h

theorem orderedLibraries_tomlOrder : TomlOrder orderedLibraries where
  fails c o o' e h := by cases h
  shows c o o' text h h' sc hsc := by
    have htexts := array_inj
      (forall_mem_map.2 fun sc _ => sniText_isJson sc)
      (forall_mem_map.2 fun sc _ => sniText_isJson sc)
      (String.ofList_injective (Except.ok.inj (h.trans h'.symm)))
    simp only [Config.inOrder, map_map, map_inj_left, Function.comp_apply] at htexts
    exact entries_of_sniText (htexts sc hsc)

def relayGateway : Gateway where
  metadata := { ns := some "team", name := some "relay", uid := some "u1", generation := some 1 }
  spec :=
    { gatewayClassName := "wicket"
      listeners := [{ name := "tls", port := 8443, protocol := .TLS }] }

def relayRoute (hostnames : List String) : TLSRoute where
  metadata := { ns := some "team", name := some "mail" }
  spec :=
    { parentRefs := [{ name := "relay" }]
      hostnames := hostnames
      rules := [{ backendRefs := [{ name := "mail", port := some 993 }] }] }
  status := some ⟨[⟨{ name := "relay" }, wicketControllerName, [.accepted]⟩]⟩

def relaySnapshot (hostnames : List String) : PlannerSnapshot where
  gateways := KeyMap.collect [("team/relay", relayGateway)]
  tlsRoutes := KeyMap.collect [("team/mail", relayRoute hostnames)]

def relayInput (hostnames : List String) : RuntimePlanInput where
  gatewayNamespace := "team"
  gatewayName := "relay"
  snapshot := relaySnapshot hostnames
  controllerConfig := {}
  observed := {}

def guestGateway : Gateway where
  metadata := { ns := some "guest", name := some "relay", uid := some "u2", generation := some 1 }
  spec :=
    { gatewayClassName := "wicket"
      listeners := [{ name := "tls", port := 8443, protocol := .TLS }] }

def guestTlsRoute : TLSRoute where
  metadata := { ns := some "guest", name := some "mail" }
  spec :=
    { parentRefs := [{ name := "relay" }]
      hostnames := ["guest.example.com"]
      rules := [{ backendRefs := [{ name := "mail", port := some 993 }] }] }
  status := some ⟨[⟨{ name := "relay" }, wicketControllerName, [.accepted]⟩]⟩

def sharedSnapshot (hostnames : List String) : PlannerSnapshot :=
  { relaySnapshot hostnames with
    gateways := (relaySnapshot hostnames).gateways.insert "guest/relay" guestGateway
    tlsRoutes := (relaySnapshot hostnames).tlsRoutes.insert "guest/mail" guestTlsRoute
    tlsSecrets := KeyMap.collect [("guest/cert", ("/tls.crt", "/tls.key"))] }

theorem relaySnapshot_agreeOn (hostnames : List String) :
    (relaySnapshot hostnames).AgreeOn (sharedSnapshot hostnames) "team" "relay" where
  labels _ := rfl
  presence := rfl
  grants _ := rfl
  gateway := AList.lookup_insert_ne (by decide)
  http := SameRoutes.refl _
  tcp := SameRoutes.refl _
  tls := SameRoutes.insert rfl rfl
  endpoints _ := rfl

theorem relaySnapshot_keyedRoutes (hostnames : List String) :
    (relaySnapshot hostnames).KeyedRoutes := by
  intro kind key route h
  cases kind with
  | HTTPRoute => cases h
  | TCPRoute => cases h
  | TLSRoute =>
    obtain ⟨r, hr, rfl⟩ := Option.map_eq_some_iff.1 h
    rw [relaySnapshot, lookup_collect] at hr
    obtain ⟨rfl, rfl⟩ := Prod.mk.inj (mem_singleton.1 (mem_of_lastWrite hr))
    exact ⟨"team", "mail", rfl, rfl, rfl⟩

theorem sniName_relaySnapshot {hostnames : List String} :
    (relaySnapshot hostnames).SniName "team" "relay" hostname ↔ hostname ∈ hostnames := by
  constructor
  · rintro ⟨key, route, hserves, hmem, -⟩
    have hstored := hserves.stored
    rw [relaySnapshot, lookup_collect] at hstored
    obtain ⟨-, rfl⟩ := Prod.mk.inj (mem_singleton.1 (mem_of_lastWrite hstored))
    exact hmem
  · intro hmem
    exact ⟨"team/mail", relayRoute hostnames, ⟨rfl, rfl, rfl⟩, hmem, by simp [relayRoute,
      TLSRoute.backendRefs]⟩

theorem exists_configFromSnapshot {s : PlannerSnapshot} (h : s.httpRoutes = ∅)
    (gatewayNs gatewayName : String) :
    ∃ c, configFromSnapshot gatewayNs gatewayName s = .ok c := by
  refine exists_generateConfig.2 (splittable_of_timeouts fun r hr => ?_)
  have hstored := (mem_liveRules_configState.1 hr).serves.stored
  rw [h] at hstored
  cases hstored

theorem relayInput_plannable (hostnames : List String) :
    Plannable orderedLibraries (relayInput hostnames) where
  gateway := ⟨relayGateway, rfl, rfl, rfl, rfl⟩
  baseName := ⟨"wicket-gw-relay", rfl⟩
  config := by
    obtain ⟨c, hc⟩ := @exists_configFromSnapshot (relaySnapshot hostnames) rfl "team" "relay"
    exact ⟨c, _, hc, rfl⟩

theorem relayGateway_unaffected :
    ((∀ order order', GatewayRuntimePlanner.plan orderedLibraries order
          (relayInput ["mail.example.com"]) =
        GatewayRuntimePlanner.plan orderedLibraries order'
          { relayInput ["mail.example.com"] with
            snapshot := sharedSnapshot ["mail.example.com"] }) ∧
      ∀ generation, attachmentPlan
          ⟨"team", "relay", generation, relaySnapshot ["mail.example.com"]⟩ =
        attachmentPlan ⟨"team", "relay", generation, sharedSnapshot ["mail.example.com"]⟩) := by
  refine (plan_unaffected_iff orderedLibraries_tomlOrder
    (relaySnapshot_agreeOn ["mail.example.com"])
    (relaySnapshot_keyedRoutes ["mail.example.com"])).2 ?_
  intro _ _ h h' hname hname'
  have hmem := sniName_relaySnapshot.1 hname
  have hmem' := sniName_relaySnapshot.1 hname'
  rw [List.mem_singleton.1 hmem, List.mem_singleton.1 hmem']

/-- With two server names, two plans differ although the snapshots agree. -/
theorem relayGateway_affected :
    (relaySnapshot ["mail.example.com", "imap.example.com"]).AgreeOn
        (sharedSnapshot ["mail.example.com", "imap.example.com"]) "team" "relay" ∧
      GatewayRuntimePlanner.plan orderedLibraries .asListed
          (relayInput ["mail.example.com", "imap.example.com"]) ≠
        GatewayRuntimePlanner.plan orderedLibraries .reversed
          { relayInput ["mail.example.com", "imap.example.com"] with
            snapshot := sharedSnapshot ["mail.example.com", "imap.example.com"] } := by
  have hagree := relaySnapshot_agreeOn ["mail.example.com", "imap.example.com"]
  refine ⟨hagree, fun hplans => ?_⟩
  have hsame : "mail.example.com" = "imap.example.com" :=
    sniName_unique orderedLibraries_tomlOrder hplans (relayInput_plannable _)
      ⟨relayGateway, rfl, _, List.mem_singleton.2 rfl, Or.inr rfl⟩
      (sniName_relaySnapshot.2 (by simp)) (sniName_relaySnapshot.2 (by simp))
  exact absurd hsame (by decide)

end Wicket
