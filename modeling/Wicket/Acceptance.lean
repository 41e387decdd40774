/-
**Which configurations the proxy accepts.**

What the validator accepts is compiled by the router and the stream proxies.  A generated
configuration is published without being validated, so the proxy is the first to check it.
-/

import Wicket.Endpoints
import Wicket.Rendered
import Wicket.Routing

namespace Wicket

open Option List KeyMap HttpRule RouteMatch
open Text

/-! ### Loading a validated configuration -/

structure Config.Loads (cm : CaseMapping) (c : Config) : Prop where
  router : ∃ router, Router.build cm c.routes = .ok router
  streams : ∀ sc ∈ c.streams, ∃ proxy, StreamProxy.fromConfig sc = .ok proxy

/-- **A validated configuration loads exactly when its host patterns and its stream backends are
well formed.** -/
theorem loads_iff {cm : CaseMapping} {c : Config} (h : c.validate = .ok ()) :
    c.Loads cm ↔
      (∀ r ∈ c.routes, ∀ p ∈ r.matchRules.host, HostMatcher.compiles p = true) ∧
        ∀ sc ∈ c.streams, ∀ u ∈ sc.upstreams, ∀ s ∈ u.servers,
          StreamBackendAddr.accepts s = true := by
  have hvalid := Config.validate_eq_ok.1 h
  constructor
  · rintro ⟨hrouter, hstreams⟩
    refine ⟨Router.exists_build.1 hrouter, ?_⟩
    intro sc hsc
    exact (StreamProxy.exists_fromConfig.1 (hstreams sc hsc)).1
  · rintro ⟨hhosts, hservers⟩
    refine ⟨Router.exists_build.2 hhosts, ?_⟩
    intro sc hsc
    -- the listen address is the part the validator has checked
    exact StreamProxy.exists_fromConfig.2 ⟨hservers sc hsc, hvalid.streams.listen sc hsc⟩

def smallConfig (host server : String) : Config where
  server := Config.default.server
  upstreams := (∅ : Std.TreeMap String UpstreamConfig).insert "web" { backends := ["10.0.0.1:80"] }
  routes := [{ matchRules := { host := some host }, upstream := "web" }]
  streams :=
    [{ name := "db"
       listen := "0.0.0.0:5432"
       upstreams := [{ name := "pg", servers := [server] }] }]

theorem smallConfig_not_loads :
    ((smallConfig "shop.*.com" "10.0.0.2:5432").validate = .ok () ∧
        ¬(smallConfig "shop.*.com" "10.0.0.2:5432").Loads CaseMapping.ascii) ∧
      (smallConfig "shop.com" "pg.example.com:5432").validate = .ok () ∧
        ¬(smallConfig "shop.com" "pg.example.com:5432").Loads CaseMapping.ascii := by
  refine ⟨⟨by rfl, fun h => ?_⟩, by rfl, fun h => ?_⟩
  · have hhost := Router.exists_build.1 h.router
    exact absurd hhost (by decide)
  · have hservers := fun sc hsc => (StreamProxy.exists_fromConfig.1 (h.streams sc hsc)).1
    exact absurd hservers (by decide)

theorem smallConfig_loads :
    (smallConfig "*.shop.com" "10.0.0.2:5432").validate = .ok () ∧
      (smallConfig "*.shop.com" "10.0.0.2:5432").Loads CaseMapping.ascii :=
  ⟨by rfl, (loads_iff (by rfl)).2 (by decide)⟩

/-! ### The addresses of the generated listener -/

theorem accepts_serviceDnsName (name ns : String) (port : UInt16) :
    StreamBackendAddr.accepts (serviceDnsName name ns port) =
      (startsWith name "unix:/" && !startsWith name "unix://") := by
  have hsplit : serviceDnsName name ns port =
      name ++ String.singleton '.' ++ (ns ++ ".svc.cluster.local:" ++ toString port.toNat) := by
    simp only [serviceDnsName, String.append_assoc]
    rfl
  have hname : ∀ p : String, '.' ∉ p.toList →
      startsWith (serviceDnsName name ns port) p = startsWith name p := by
    intro p hp
    rw [hsplit, startsWith_append_singleton hp]
  -- both prefixes end before the first dot, so only the name of the Service decides
  rw [← hname "unix:/" (by decide), ← hname "unix://" (by decide), StreamBackendAddr.accepts]
  have hunix : "unix:/" = "unix:" ++ "/" := by decide
  have hunix' : "unix://" = "unix:" ++ "//" := by decide
  cases hstrip : stripPrefix (serviceDnsName name ns port) "unix:" with
  | some path =>
    rw [stripPrefix_eq_some.1 hstrip, hunix, hunix', startsWith_append_left, startsWith_append_left]
  | none =>
    have hpath : startsWith (serviceDnsName name ns port) "unix:/" = false := by
      rw [← Bool.not_eq_true, hunix]
      intro h
      rw [stripPrefix_eq_none, startsWith_of_append h] at hstrip
      cases hstrip
    have hs : 's' ∈ (serviceDnsName name ns port).toList := by simp [serviceDnsName]
    rw [hpath, Bool.false_and, isSome_eq_false_iff, isNone_iff_eq_none]
    cases haddr : Net.parseSocketAddr (serviceDnsName name ns port) with
    | none => rfl
    | some addr =>
      -- the letters of `svc` do not occur in socket addresses
      exact absurd (Net.addrChar_of_parseSocketAddr haddr 's' hs) (by decide)

variable {st : GatewayState} {r : HttpRule} {c : Config}

theorem resolveBackend_ne_nil (h : Reconciled st.serviceEndpoints) (routeNs : String)
    (defaultPort : UInt16) (b : BackendRef) :
    resolveBackend st routeNs defaultPort b ≠ [] := by
  rw [resolveBackend]
  split
  · rename_i e he
    obtain ⟨-, -, hne⟩ := h.entry he
    rw [← length_pos_iff, length_insertionSort, length_pos_iff]
    exact hne
  · simp

/-- The Service has stored endpoints, all of them addresses, or it is named like the path of a Unix
socket. -/
def StreamRef.Dialable (st : GatewayState) (r : StreamRef) : Prop :=
  match st.serviceEndpoints.lookup (GatewayState.key (r.ref.nsOr r.routeNs) r.ref.name) with
  | some e => ∀ s ∈ e.endpoints, StreamBackendAddr.accepts s = true
  | none => startsWith r.ref.name "unix:/" = true ∧
      startsWith r.ref.name "unix://" = false

theorem StreamRef.dialable_iff {r : StreamRef} :
    r.Dialable st ↔ ∀ s ∈ r.servers st, StreamBackendAddr.accepts s = true := by
  rw [StreamRef.Dialable, StreamRef.servers, resolveBackend]
  cases st.serviceEndpoints.lookup (GatewayState.key (r.ref.nsOr r.routeNs) r.ref.name) with
  | some e => simp
  | none => simp [accepts_serviceDnsName]

/-! ### The validator on generated configurations -/

def HasDomains (m : Std.TreeMap String FileCertConfig) : Prop :=
  ∀ (k : String) (cert : FileCertConfig), m[k]? = some cert → cert.domains ≠ []

theorem addCert_hasDomains {gwNs : String} {l : Listener} {m : Std.TreeMap String FileCertConfig}
    (h : HasDomains m) (ref : SecretObjectReference) :
    HasDomains (addCert st gwNs l m ref) := by
  simp only [addCert]
  split
  · intro k cert hk
    rw [Std.TreeMap.getElem?_insert] at hk
    split at hk
    · rw [some.injEq] at hk
      subst hk
      -- the host name of the listener is a domain already, or is added now
      split
      · rename_i hmem
        rw [contains_iff_mem] at hmem
        exact ne_nil_of_mem hmem
      · simp
    · exact h k cert hk
  · exact h

theorem certMap_hasDomains (st : GatewayState) : HasDomains (certMap st) := by
  -- one step for each of the loops over Gateways, listeners and references
  refine foldlRecOn _ _ (by simp [HasDomains]) ?_
  intro m hm e _
  refine foldlRecOn _ _ hm ?_
  intro m hm l _
  refine foldlRecOn _ _ hm ?_
  intro m hm ref _
  exact addCert_hasDomains hm ref

theorem valid_tlsConfig {tls : TlsConfig} (h : tlsConfig st = some tls) :
    tls.Valid := by
  simp only [tlsConfig] at h
  split at h
  · cases h
  · rename_i hne
    cases h
    refine ⟨by simp, by simp, ?_, ?_⟩
    · intro _
      exact ⟨_, rfl, fun hnil => hne (isEmpty_iff.2 hnil)⟩
    · intro _ file hfile
      cases hfile
      -- at most one certificate may have no domains; here none has
      have hnone : FileConfig.defaultCerts
          { watch := true, pollIntervalSecs := 30, certs := (certMap st).toList.map Prod.snd } =
          [] := by
        rw [FileConfig.defaultCerts, filter_eq_nil_iff]
        intro cert hcert
        obtain ⟨⟨k, cert'⟩, hmem, rfl⟩ := mem_map.1 hcert
        simpa using certMap_hasDomains st k cert'
          (Std.TreeMap.mem_toList_iff_getElem?_eq_some.1 hmem)
      rw [hnone]
      simp

theorem hasMatch_of_renders {name : String} {rules : RouteMatch} (h : r.Renders name rules) :
    rules.hasMatch = true := by
  cases h with
  | all => simp [hasMatch, emptyMatchRules]
  | @one i m _ hm hrules =>
    obtain ⟨paths, hpaths, rfl⟩ := map_eq_some_iff.1 hrules
    cases hpath : m.path with
    | none =>
      rw [hpath] at hpaths
      cases hpaths
      simp [hasMatch]
    | some pm =>
      rw [hpath, pathRules] at hpaths
      cases htype : pm.type <;> rw [htype] at hpaths <;> cases hpaths <;> simp [hasMatch]

theorem routeValid_generated (hgen : IsGenerated st c) (hr : r ∈ liveRules st) {rc : RouteConfig}
    (hrc : rc ∈ r.routes) :
    c.RouteValid rc ↔ r.timeout = none := by
  obtain ⟨name, rules, hrules, rfl⟩ := mem_routes.1 hrc
  constructor
  · intro h
    exact h.timeout
  · intro htimeout
    refine ⟨?_, by simp [mkRoute], htimeout, hasMatch_of_renders hrules⟩
    -- the upstream a route names was written for its own rule
    rw [Std.TreeMap.mem_iff_isSome_getElem?, isSome_iff_ne_none, hgen.upstreams, ne_eq,
      lastWrite_eq_none]
    intro h
    exact h _ (mem_map.2 ⟨r, hr, rfl⟩) rfl

theorem valid_generated_stream (hrec : Reconciled st.serviceEndpoints) {port : UInt16}
    {sc : StreamConfig} (hsc : IsStreamConfig st port sc) :
    sc.Valid ↔ streamRefs st ≠ [] := by
  have hups : sc.upstreams = (renderStreamRoutes st).upstreams := by
    rw [hsc.upstreams, renderStreamRoutes_upstreams]
  constructor
  · intro h hnil
    exact h.upstreams (by rw [hsc.upstreams, hnil, map_nil])
  · intro hne
    refine ⟨?_, ?_, ?_, ?_⟩
    · rw [hsc.defaultUpstream, hups]
      exact (renderStreamRoutes_closed st).default
    · intro sni d hd
      rw [hsc.sniRoutes] at hd
      rw [hups]
      exact (renderStreamRoutes_closed st).sni (sni, d) (lookup_sniRoutes hd)
    · rw [hsc.upstreams, ne_eq, map_eq_nil_iff]
      exact hne
    · rw [hsc.upstreams]
      intro u hu
      obtain ⟨r, -, rfl⟩ := mem_map.1 hu
      exact resolveBackend_ne_nil hrec _ _ _

theorem streamsValid_generated (hrec : Reconciled st.serviceEndpoints) :
    StreamsValid (streamConfig st).toList ↔ (st.HasStream → streamRefs st ≠ []) := by
  rw [← isSome_streamConfig]
  cases hstream : streamConfig st with
  | none =>
    simp only [toList_none, isSome_none, Bool.false_eq_true, false_implies, iff_true]
    exact ⟨by simp, by simp, by simp, by simp, by simp⟩
  | some sc =>
    obtain ⟨port, hsc⟩ := isStreamConfig_of_eq_some hstream
    rw [← valid_generated_stream hrec hsc]
    simp only [toList_some, isSome_some, true_implies]
    constructor
    · intro h
      exact h.each sc (by simp)
    · intro h
      have hblank : trim sc.name ≠ "" := by
        refine trim_ne_empty (c := 's') ?_ (by decide)
        simp [hsc.name]
      have hlisten : (Net.parseSocketAddr sc.listen).isSome = true := by
        rw [hsc.listen, Net.parseSocketAddr_any]
        rfl
      exact ⟨by simpa using hblank, by simp, by simpa using hlisten, by simp, by simpa using h⟩

theorem valid_generated_iff (hgen : IsGenerated st c) (hrec : Reconciled st.serviceEndpoints) :
    c.Valid ↔ (∀ r ∈ liveRules st, r.routes ≠ [] → r.timeout = none) ∧
      (st.HasStream → streamRefs st ≠ []) := by
  rw [← streamsValid_generated hrec, ← hgen.streams]
  constructor
  · intro h
    refine ⟨?_, h.streams⟩
    intro r hr hroutes
    obtain ⟨rc, hrc⟩ := exists_mem_of_ne_nil _ hroutes
    have hmem : rc ∈ c.routes := by
      rw [hgen.routes]
      exact mem_flatMap.2 ⟨r, hr, hrc⟩
    exact (routeValid_generated hgen hr hrc).1 (h.routes rc hmem)
  · rintro ⟨htimeouts, hstreams⟩
    refine ⟨?_, ?_, ?_, ?_, ?_, hstreams⟩
    · rw [hgen.logging]
      simp [LoggingConfig.Valid]
    · intro rc hrc
      rw [hgen.routes] at hrc
      obtain ⟨r, hr, hrc⟩ := mem_flatMap.1 hrc
      exact (routeValid_generated hgen hr hrc).2 (htimeouts r hr (ne_nil_of_mem hrc))
    · intro name u hu
      rw [hgen.upstreams] at hu
      obtain ⟨r, hr, heq⟩ := mem_map.1 (mem_of_lastWrite hu)
      cases heq
      exact (mem_liveRules.1 hr).2
    · rw [hgen.tls]
      intro tls htls
      exact valid_tlsConfig htls
    · intro tls _ rc hrc t ht
      rw [hgen.routes] at hrc
      obtain ⟨r, -, hrc⟩ := mem_flatMap.1 hrc
      obtain ⟨name, rules, -, rfl⟩ := mem_routes.1 hrc
      cases ht

/-! ### Publishable states -/

theorem mem_liveRules_of_reconciled (hrec : Reconciled st.serviceEndpoints) :
    r ∈ liveRules st ↔ r ∈ httpRules st ∧ r.rule.backendRefs ≠ [] := by
  rw [mem_liveRules, backends, ruleBackends, ne_eq, flatMap_eq_nil_iff]
  refine and_congr_right fun _ => ?_
  constructor
  · intro h hnil
    exact h (by simp [hnil])
  · intro hne h
    obtain ⟨b, hb⟩ := exists_mem_of_ne_nil _ hne
    exact resolveBackend_ne_nil hrec _ _ _ (h b hb)

/-- **The states whose generated configuration nobody refuses.** -/
structure Publishable (st : GatewayState) : Prop where
  durations : ∀ r ∈ httpRules st, r.rule.backendRefs ≠ [] →
    ∃ timeout, r.rule.timeout = .ok timeout ∧ (r.rule.emitsRoutes = true → timeout = none)
  references : st.HasStream → streamRefs st ≠ []
  addresses : st.HasStream → ∀ r ∈ streamRefs st, r.Dialable st

/-- The generator returns a configuration that the validator accepts and whose stream listeners
compile. -/
def GeneratesAccepted (st : GatewayState) : Prop :=
  ∃ c, generateConfig st = .ok c ∧ c.validate = .ok () ∧
    ∀ sc ∈ c.streams, ∃ proxy, StreamProxy.fromConfig sc = .ok proxy

theorem timeout_of_eq_ok {timeout : Option UInt64} (h : r.rule.timeout = .ok timeout) :
    r.timeout = timeout := by
  rw [HttpRule.timeout, h]

theorem exists_proxies_iff (hgen : IsGenerated st c) :
    (∀ sc ∈ c.streams, ∃ proxy, StreamProxy.fromConfig sc = .ok proxy) ↔
      (st.HasStream → ∀ r ∈ streamRefs st, r.Dialable st) := by
  rw [hgen.streams, ← isSome_streamConfig]
  cases hstream : streamConfig st with
  | none => simp
  | some sc =>
    simp only [toList_some, mem_singleton, forall_eq, isSome_some,
      true_implies, StreamRef.dialable_iff]
    exact exists_fromConfig_generated hstream

/-- **A generated configuration is accepted exactly when the state is publishable.** -/
theorem generated_accepted_iff {st : GatewayState} (h : Reconciled st.serviceEndpoints) :
    GeneratesAccepted st ↔ Publishable st := by
  constructor
  · rintro ⟨c, hc, hvalid, hproxies⟩
    have hgen := isGenerated_of_eq_ok hc
    obtain ⟨htimeouts, hrefs⟩ := (valid_generated_iff hgen h).1 (Config.validate_eq_ok.1 hvalid)
    refine ⟨?_, hrefs, (exists_proxies_iff hgen).1 hproxies⟩
    intro r hr hne
    have hlive := (mem_liveRules_of_reconciled h).2 ⟨hr, hne⟩
    -- there is a configuration, so no duration made the generator panic
    obtain ⟨timeout, htimeout⟩ := exists_generateConfig.1 ⟨c, hc⟩ r hlive
    refine ⟨timeout, htimeout, ?_⟩
    intro hemits
    rw [← timeout_of_eq_ok htimeout]
    exact htimeouts r hlive (HttpRule.routes_ne_nil.2 hemits)
  · rintro ⟨hdurations, hrefs, haddrs⟩
    have hsplittable : st.Splittable := by
      intro r hr
      obtain ⟨hmem, hne⟩ := (mem_liveRules_of_reconciled h).1 hr
      obtain ⟨timeout, htimeout, -⟩ := hdurations r hmem hne
      exact ⟨timeout, htimeout⟩
    obtain ⟨c, hc⟩ := exists_generateConfig.2 hsplittable
    have hgen := isGenerated_of_eq_ok hc
    refine ⟨c, hc, ?_, (exists_proxies_iff hgen).2 haddrs⟩
    refine Config.validate_eq_ok.2 ((valid_generated_iff hgen h).2 ⟨?_, hrefs⟩)
    intro r hr hroutes
    obtain ⟨hmem, hne⟩ := (mem_liveRules_of_reconciled h).1 hr
    obtain ⟨timeout, htimeout, hnone⟩ := hdurations r hmem hne
    rw [timeout_of_eq_ok htimeout]
    exact hnone (HttpRule.routes_ne_nil.1 hroutes)

def shop (request : Option String) (endpoints : HashMap String ServiceEndpoints) :
    GatewayState where
  gateways := collect [("shop/gw",
    { metadata := { ns := some "shop", name := some "gw" }
      spec :=
        { gatewayClassName := "wicket"
          listeners :=
            [{ name := "http", port := 80, protocol := .HTTP },
              { name := "db", port := 5432, protocol := .TLS }] } })]
  httpRoutes := collect [("shop/web",
    { metadata := { ns := some "shop", name := some "web" }
      spec := { rules := [
        { backendRefs := [⟨{ name := "web", port := some 80 }⟩]
          timeouts := some { request := request } }] }
      status := some (acceptedFor "gw") })]
  tlsRoutes := collect [("shop/db",
    { metadata := { ns := some "shop", name := some "db" }
      spec :=
        { hostnames := ["db.example.com"]
          rules := [{ backendRefs := [{ name := "db", port := some 5432 }] }] }
      status := some (acceptedFor "gw") })]
  serviceEndpoints := endpoints

def dbSlice : EndpointSlice where
  ns := some "shop"
  serviceName := some "db"
  endpoints := [{ addresses := ["10.0.0.7"] }]
  ports := some [{ port := some 5432 }]

def dbEndpoints : HashMap String ServiceEndpoints :=
  reconcileEndpointSlice dbSlice (fun _ _ => { referenced := true, slices := some [dbSlice] }) ∅

theorem dbEndpoints_reconciled : Reconciled dbEndpoints := .step dbSlice _ .empty

theorem shop_not_accepted :
    (Reconciled dbEndpoints ∧ ¬GeneratesAccepted (shop (some "10s") dbEndpoints)) ∧
      Reconciled ∅ ∧ ¬GeneratesAccepted (shop none ∅) := by
  refine ⟨⟨dbEndpoints_reconciled, ?_⟩, .empty, ?_⟩
  · -- the validator refuses the timeout of the HTTP route
    rintro ⟨c, hc, hvalid, -⟩
    have htimeouts := ((valid_generated_iff (isGenerated_of_eq_ok hc) dbEndpoints_reconciled).1
      (Config.validate_eq_ok.1 hvalid)).1
    exact absurd (fun r hr => htimeouts r hr) (by decide)
  · -- without endpoints the stream backend is a DNS name
    rintro ⟨c, hc, -, hproxies⟩
    have hdial := (exists_proxies_iff (isGenerated_of_eq_ok hc)).1 hproxies
      (isSome_streamConfig.1 (by decide))
    exact absurd (fun r hr => StreamRef.dialable_iff.1 (hdial r hr)) (by decide)

theorem shop_accepted : Reconciled dbEndpoints ∧ GeneratesAccepted (shop none dbEndpoints) := by
  refine ⟨dbEndpoints_reconciled, (generated_accepted_iff dbEndpoints_reconciled).2 ⟨?_, ?_, ?_⟩⟩
  · intro r hr _
    obtain rfl := List.mem_singleton.1 hr
    exact ⟨none, rfl, fun _ => rfl⟩
  · intro _
    decide
  · intro _ r hr
    rw [StreamRef.dialable_iff]
    revert r
    decide

end Wicket
