/-
**Changes that are not rolled out.**

The proxy reads its addresses, certificates and stream listeners at startup only, and is restarted
when the hash of the specification changes.  What it reads then depends on more than is hashed.
-/

import Wicket.PlanFrame
import Wicket.ServicePorts

namespace Wicket

open List KeyMap GatewayState TlsSecretMount SecretObjectReference
open Net (SocketAddr)

def Config.fileCerts (c : Config) : List FileCertConfig :=
  ((c.tls.bind TlsConfig.file).map FileConfig.certs).getD []

structure Config.SameStartup (c c' : Config) : Prop where
  http : c'.server.httpListenAddrs = c.server.httpListenAddrs
  https : c'.server.httpsListen = c.server.httpsListen
  disableHttp : c'.server.disableHttp = c.server.disableHttp
  certs : c'.fileCerts = c.fileCerts
  streams : ∀ name listen, (∃ sc ∈ c'.streams, sc.name = name ∧ sc.listen = listen) ↔
    ∃ sc ∈ c.streams, sc.name = name ∧ sc.listen = listen

/-! ### What the hash covers -/

/-- The ports of the Service, each with the name of its first listener. -/
def Gateway.exposedPorts (gateway : Gateway) : List (String × UInt16) :=
  (portListeners gateway.spec.listeners).map fun l => (l.name, l.port)

def Gateway.RefersTo (gateway : Gateway) (gatewayNs ns name : String) : Prop :=
  ∃ l ∈ gateway.spec.listeners, ∃ ref ∈ l.certificateRefs,
    ref.ns.getD gatewayNs = ns ∧ ref.name = name

structure SameSpec (gatewayNs : String) (gateway gateway' : Gateway) : Prop where
  ports : gateway'.exposedPorts = gateway.exposedPorts
  secrets : ∀ ns name, gateway'.RefersTo gatewayNs ns name ↔ gateway.RefersTo gatewayNs ns name

def servicePortOf (e : String × UInt16) : ServicePortSpec where
  name := e.1
  port := e.2
  targetPort := e.2
  protocol := "TCP"

theorem servicePortOf_injective : Function.Injective servicePortOf := by
  rintro ⟨name, port⟩ ⟨name', port'⟩ h
  simp only [servicePortOf, ServicePortSpec.mk.injEq] at h
  rw [h.1, h.2.1]

theorem servicePorts_eq {gateway : Gateway} {ports : List ServicePortSpec}
    (h : servicePortsFromListeners gateway = .ok ports) :
    ports = gateway.exposedPorts.map servicePortOf := by
  rw [(servicePortsFromListeners_eq_ok.1 h).2, Gateway.exposedPorts, map_map]
  rfl

theorem TlsSecretMount.le_iff {a b : TlsSecretMount} :
    a.le b = true ↔
      toLex (a.secretNamespace, a.secretName) ≤ toLex (b.secretNamespace, b.secretName) := by
  simp [le, Prod.Lex.le_iff]

instance : Std.Total fun a b : TlsSecretMount => a.le b = true where
  total a b := by
    simp only [TlsSecretMount.le_iff]
    exact le_total _ _

instance : IsTrans TlsSecretMount fun a b => a.le b = true where
  trans a b c := by
    simp only [TlsSecretMount.le_iff]
    exact le_trans

theorem mem_tlsSecretMounts_iff {gatewayNs : String} {gateway : Gateway} {m : TlsSecretMount} :
    m ∈ tlsSecretMounts gatewayNs gateway ↔
      gateway.RefersTo gatewayNs m.secretNamespace m.secretName ∧
        m.mountPath = tlsMountDir m.secretName := by
  rw [mem_tlsSecretMounts]
  constructor
  · rintro ⟨l, hl, ref, href, rfl⟩
    exact ⟨⟨l, hl, ref, href, rfl, rfl⟩, rfl⟩
  · rintro ⟨⟨l, hl, ref, href, hns, hname⟩, hpath⟩
    refine ⟨l, hl, ref, href, ?_⟩
    cases m with
    | mk name ns path =>
      simp only at hns hname hpath
      rw [mount, hns, hname, hpath]

theorem nodup_foldl_addMount (gatewayNs : String) (refs : List SecretObjectReference)
    {mounts : List TlsSecretMount} (h : mounts.Nodup) :
    (refs.foldl (addMount gatewayNs) mounts).Nodup := by
  refine foldlRecOn (motive := List.Nodup) refs _ h ?_
  intro mounts hmounts ref _
  rw [addMount]
  split
  · exact hmounts
  · rename_i hnew
    refine List.Nodup.append hmounts (nodup_singleton _) ?_
    intro m hm hm'
    obtain rfl := mem_singleton.1 hm'
    refine hnew (any_eq_true.2 ⟨_, hm, ?_⟩)
    simp [mount]

theorem tlsSecretMounts_eq_iff {gatewayNs : String} {gateway gateway' : Gateway} :
    tlsSecretMounts gatewayNs gateway' = tlsSecretMounts gatewayNs gateway ↔
      ∀ ns name, gateway'.RefersTo gatewayNs ns name ↔ gateway.RefersTo gatewayNs ns name := by
  constructor
  · intro h ns name
    have hmem := @mem_tlsSecretMounts_iff gatewayNs gateway' ⟨name, ns, tlsMountDir name⟩
    rw [h, mem_tlsSecretMounts_iff] at hmem
    simpa using hmem.symm
  · intro h
    have hmem : ∀ m, m ∈ tlsSecretMounts gatewayNs gateway' ↔
        m ∈ tlsSecretMounts gatewayNs gateway := by
      intro m
      rw [mem_tlsSecretMounts_iff, mem_tlsSecretMounts_iff, h]
    simp only [tlsSecretMounts, mem_insertionSort] at hmem ⊢
    refine Check.insertionSort_congr ?_ ((perm_ext_iff_of_nodup ?_ ?_).2 hmem)
    · intro a ha b hb hab hba
      -- the namespace and the name determine a mount
      have hpath : ∀ m ∈ gateway'.spec.listeners.foldl (fun mounts l =>
          l.certificateRefs.foldl (addMount gatewayNs) mounts) [],
          m.mountPath = tlsMountDir m.secretName :=
        fun m hm => (mem_tlsSecretMounts_iff.1 ((mem_insertionSort _).2 hm)).2
      have hsame := le_antisymm (le_iff.1 hab) (le_iff.1 hba)
      rw [toLex_inj, Prod.mk.injEq] at hsame
      have hpaths : a.mountPath = b.mountPath := by rw [hpath a ha, hpath b hb, hsame.2]
      cases a
      cases b
      simp_all
    · rw [← foldl_flatMap]
      exact nodup_foldl_addMount gatewayNs _ nodup_nil
    · rw [← foldl_flatMap]
      exact nodup_foldl_addMount gatewayNs _ nodup_nil

section Hash

open GatewayRuntimePlanner

variable {lib : Libraries} {order order' : HashOrder} {input : RuntimePlanInput}
  {s' : PlannerSnapshot} {observed' : ObservedRuntimeState}

theorem specHash_eq_iff (hsha : Function.Injective lib.sha256Hex)
    (parts : PlanParts lib order input)
    (parts' : PlanParts lib order' { input with snapshot := s', observed := observed' }) :
    parts'.plan.specHash = parts.plan.specHash ↔
      SameSpec input.gatewayNamespace parts.gateway parts'.gateway := by
  have hports := servicePorts_eq parts.servicePorts_eq
  have hports' := servicePorts_eq parts'.servicePorts_eq
  have hspec : parts'.plan.specHash = parts.plan.specHash ↔
      parts'.servicePorts = parts.servicePorts ∧
        tlsSecretMounts input.gatewayNamespace parts'.gateway =
          tlsSecretMounts input.gatewayNamespace parts.gateway := by
    constructor
    · intro h
      obtain ⟨-, -, -, -, hsame, -, hmounts⟩ :=
        specRepr_inj (String.ofList_injective (hsha h))
      exact ⟨hsame, hmounts⟩
    · rintro ⟨hsame, hmounts⟩
      simp only [PlanParts.plan, assemble, hsame, hmounts]
  rw [hspec, hports, hports', map_inj_right servicePortOf_injective, tlsSecretMounts_eq_iff]
  constructor
  · rintro ⟨hsame, hrefs⟩
    exact ⟨hsame, hrefs⟩
  · rintro ⟨hsame, hrefs⟩
    exact ⟨hsame, hrefs⟩

end Hash

/-! ### The addresses -/

def Gateway.portsOf (gateway : Gateway) (protocol : ProtocolType) : List UInt16 :=
  (gateway.spec.listeners.filter fun l => l.protocol == protocol).map Listener.port

/-- The ports for plain HTTP.  A Gateway without any HTTP or HTTPS listener is given the default
port, one with HTTPS listeners alone has none. -/
def Gateway.plainHttpPorts (gateway : Gateway) : List UInt16 :=
  if gateway.portsOf .HTTP = [] ∧ gateway.portsOf .HTTPS = [] then [8080]
  else (gateway.portsOf .HTTP).eraseDups

def Gateway.httpsPort (gateway : Gateway) : Option UInt16 := (gateway.portsOf .HTTPS).head?

def anyAddr (port : UInt16) : SocketAddr := .v4 .unspecified port

theorem anyAddr_injective : Function.Injective anyAddr := by
  intro a b h
  cases h
  rfl

section Addresses

variable {s : PlannerSnapshot} {gatewayNs gatewayName : String} {gateway : Gateway}

theorem sortedEntries_gateways_configState (h : s.gateway gatewayNs gatewayName = some gateway) :
    sortedEntries (configState gatewayNs gatewayName s).gateways =
      [(key gatewayNs gatewayName, gateway)] := by
  simp only [configState, h]
  rfl

theorem listeners_configState (h : s.gateway gatewayNs gatewayName = some gateway) :
    (configState gatewayNs gatewayName s).listeners =
      gateway.spec.listeners.map fun l => (key gatewayNs gatewayName, l) := by
  rw [listeners, sortedEntries_gateways_configState h, flatMap_singleton]

theorem ports_configState (h : s.gateway gatewayNs gatewayName = some gateway)
    (p : Listener → Bool) :
    (((configState gatewayNs gatewayName s).listeners.filter fun e => p e.2).map
      fun e => e.2.port) = (gateway.spec.listeners.filter p).map Listener.port := by
  rw [listeners_configState h, filter_map, map_map]
  rfl

theorem additionalHttpListens_addrs (e : String × Listener) (es : List (String × Listener)) :
    (listenAddr e.2 :: additionalHttpListens (e :: es)).eraseDups =
      (((e :: es).map fun e => e.2.port).eraseDups).map anyAddr := by
  rw [← eraseDups_map anyAddr_injective, additionalHttpListens, eraseDups_cons_eraseDups, map_map]
  rfl

theorem serverConfig_addrs (httpListeners httpsListeners : List (String × Listener)) :
    let server := serverConfig httpListeners httpsListeners
    let http := httpListeners.map fun e => e.2.port
    let https := httpsListeners.map fun e => e.2.port
    let plain := if http = [] ∧ https = [] then [8080] else http.eraseDups
    server.httpListenAddrs = (if plain = [] then https.head?.toList else plain).map anyAddr ∧
      server.httpsListen = https.head?.map anyAddr ∧ server.disableHttp = plain.isEmpty := by
  cases httpListeners with
  | nil =>
    cases httpsListeners with
    | nil => exact ⟨rfl, rfl, rfl⟩
    | cons e' es' => exact ⟨rfl, rfl, rfl⟩
  | cons e es =>
    intro server http https plain
    have hplain : plain = http.eraseDups := if_neg (by simp [http])
    have hne : plain ≠ [] := by
      rw [hplain]
      simp [http, eraseDups_cons]
    have hlisten : server.listen :: server.httpListens =
        listenAddr e.2 :: additionalHttpListens (e :: es) := by
      cases httpsListeners <;> rfl
    refine ⟨?_, ?_, ?_⟩
    · rw [if_neg hne, hplain, ServerConfig.httpListenAddrs, hlisten, additionalHttpListens_addrs]
    · cases httpsListeners <;> rfl
    · rw [isEmpty_eq_false_iff.2 hne]
      cases httpsListeners <;> rfl

theorem configFromSnapshot_addrs {c : Config} (h : s.gateway gatewayNs gatewayName = some gateway)
    (hc : configFromSnapshot gatewayNs gatewayName s = .ok c) :
    c.server.httpListenAddrs = (if gateway.plainHttpPorts = [] then gateway.httpsPort.toList
      else gateway.plainHttpPorts).map anyAddr ∧
    c.server.httpsListen = gateway.httpsPort.map anyAddr ∧
    c.server.disableHttp = gateway.plainHttpPorts.isEmpty := by
  have haddrs := serverConfig_addrs (configState gatewayNs gatewayName s).httpListeners
    (configState gatewayNs gatewayName s).httpsListeners
  simp only [httpListeners, httpsListeners, ports_configState h fun l => l.protocol == .HTTP,
    ports_configState h fun l => l.protocol == .HTTPS] at haddrs
  rw [(isGenerated_of_eq_ok hc).server]
  exact haddrs

end Addresses

theorem sameAddrs_iff {plain plain' : List UInt16} {https https' : Option UInt16} :
    ((if plain' = [] then https'.toList else plain').map anyAddr =
        (if plain = [] then https.toList else plain).map anyAddr ∧
      https'.map anyAddr = https.map anyAddr ∧ plain'.isEmpty = plain.isEmpty) ↔
    plain' = plain ∧ https' = https := by
  constructor
  · rintro ⟨hhttp, hhttps, hempty⟩
    have hport := Option.map_injective anyAddr_injective hhttps
    refine ⟨?_, hport⟩
    by_cases h : plain = []
    · rw [h] at hempty ⊢
      exact isEmpty_iff.1 hempty
    · have h' : plain' ≠ [] := by
        rw [ne_eq, ← List.isEmpty_iff, hempty, List.isEmpty_iff]
        exact h
      rw [if_neg h, if_neg h'] at hhttp
      exact List.map_injective_iff.2 anyAddr_injective hhttp
  · rintro ⟨rfl, rfl⟩
    exact ⟨rfl, rfl, rfl⟩

/-! ### The stream listener -/

/-- A TCPRoute or a TLSRoute names the Gateway, accepted or not. -/
def PlannerSnapshot.HasStreamRoute (s : PlannerSnapshot) (gatewayNs gatewayName : String) : Prop :=
  (∃ key route, s.tcpRoutes.lookup key = some route ∧ routeReferencesGateway route.routeNs
    route.spec.parentRefs gatewayNs gatewayName = true) ∨
  ∃ key route, s.tlsRoutes.lookup key = some route ∧ routeReferencesGateway route.routeNs
    route.spec.parentRefs gatewayNs gatewayName = true

def PlannerSnapshot.StreamPort (s : PlannerSnapshot) (gatewayNs gatewayName : String)
    (port : UInt16) : Prop :=
  s.HasStreamRoute gatewayNs gatewayName ∧ ∃ gateway, s.gateway gatewayNs gatewayName =
    some gateway ∧ ((gateway.spec.listeners.filter fun l =>
      l.protocol == .TCP || l.protocol == .TLS).map Listener.port).head? = some port

section Streams

variable {s : PlannerSnapshot} {gatewayNs gatewayName : String} {gateway : Gateway}

theorem entries_filterValues_ne_nil {ρ : Type} {p : ρ → Bool} {m : HashMap String ρ} :
    (filterValues p m).entries ≠ [] ↔ ∃ key route, m.lookup key = some route ∧ p route = true := by
  constructor
  · intro h
    obtain ⟨⟨key, route⟩, hmem⟩ := exists_mem_of_ne_nil _ h
    exact ⟨key, route, lookup_filterValues.1 (AList.mem_lookup_iff.2 hmem)⟩
  · rintro ⟨key, route, h⟩
    exact ne_nil_of_mem (AList.mem_lookup_iff.1 (lookup_filterValues.2 h))

theorem mem_streams_iff {c : Config} (h : s.gateway gatewayNs gatewayName = some gateway)
    (hc : configFromSnapshot gatewayNs gatewayName s = .ok c) {name listen : String} :
    (∃ sc ∈ c.streams, sc.name = name ∧ sc.listen = listen) ↔
      ∃ port, s.StreamPort gatewayNs gatewayName port ∧
        "stream-" ++ toString port.toNat = name ∧ "0.0.0.0:" ++ toString port.toNat = listen := by
  have hhead : ∀ port, s.StreamPort gatewayNs gatewayName port ↔
      s.HasStreamRoute gatewayNs gatewayName ∧
        (configState gatewayNs gatewayName s).tcpListeners.head?.map (fun e => e.2.port) =
          some port := by
    intro port
    simp only [PlannerSnapshot.StreamPort, h, Option.some.injEq, exists_eq_left']
    rw [← ports_configState h fun l => l.protocol == .TCP || l.protocol == .TLS, head?_map]
    rfl
  have hroutes : s.HasStreamRoute gatewayNs gatewayName ↔
      (configState gatewayNs gatewayName s).tcpRoutes.entries ≠ [] ∨
        (configState gatewayNs gatewayName s).tlsRoutes.entries ≠ [] :=
    or_congr entries_filterValues_ne_nil.symm entries_filterValues_ne_nil.symm
  rw [(isGenerated_of_eq_ok hc).streams]
  simp only [Option.mem_toList, hhead, hroutes, streamConfig]
  generalize configState gatewayNs gatewayName s = st
  split
  · rename_i hempty
    simp only [Bool.and_eq_true, List.isEmpty_iff] at hempty
    simp [hempty]
  · rename_i hsome
    have hor : st.tcpRoutes.entries ≠ [] ∨ st.tlsRoutes.entries ≠ [] := by
      rw [← not_and_or]
      simpa [List.isEmpty_iff] using hsome
    cases st.tcpListeners.head? <;> simp [hor]

theorem sameStreams_iff {s' : PlannerSnapshot} :
    (∀ name listen, (∃ port, s'.StreamPort gatewayNs gatewayName port ∧
        "stream-" ++ toString port.toNat = name ∧ "0.0.0.0:" ++ toString port.toNat = listen) ↔
      ∃ port, s.StreamPort gatewayNs gatewayName port ∧
        "stream-" ++ toString port.toNat = name ∧ "0.0.0.0:" ++ toString port.toNat = listen) ↔
    ∀ port, s'.StreamPort gatewayNs gatewayName port ↔ s.StreamPort gatewayNs gatewayName port := by
  constructor
  · intro h port
    have hport : ∀ s : PlannerSnapshot, (∃ port', s.StreamPort gatewayNs gatewayName port' ∧
        "stream-" ++ toString port'.toNat = "stream-" ++ toString port.toNat ∧
        "0.0.0.0:" ++ toString port'.toNat = "0.0.0.0:" ++ toString port.toNat) ↔
        s.StreamPort gatewayNs gatewayName port := by
      intro s
      simp only [String.append_right_inj, Text.toString_inj, UInt16.toNat_inj, and_self,
        exists_eq_right]
    rw [← hport, ← hport]
    exact h _ _
  · intro h name listen
    simp only [h]

end Streams

/-! ### The certificates -/

structure CertUse where
  key : String
  name : String
  hostname : String
  deriving DecidableEq

def Gateway.certUses (gateway : Gateway) : List CertUse :=
  gateway.spec.listeners.flatMap fun l => l.hostname.toList.flatMap fun hostname =>
    l.certificateRefs.map fun ref =>
      { key := GatewayState.key (ref.ns.getD gateway.gwNs) ref.name
        name := ref.name
        hostname := hostname }

def Gateway.mountName (gateway : Gateway) (gatewayNs key : String) : Option String :=
  lastWrite (gateway.spec.listeners.flatMap fun l => l.certificateRefs.map fun ref =>
    (GatewayState.key (ref.ns.getD (gateway.metadata.ns.getD gatewayNs)) ref.name, ref.name)) key

/-- A certificate with the name it is given, the directory it is read from, and the host names it is
served for. -/
structure ServedCert where
  name : String
  mountName : String
  hostnames : List String
  deriving DecidableEq

/-- The certificate in the Secret with the key: it has the name of the first reference, and the host
names of all of them without repetitions. -/
def Gateway.servedCert (gateway : Gateway) (gatewayNs key : String) : Option ServedCert :=
  (gateway.mountName gatewayNs key).bind fun mountName =>
    let uses := gateway.certUses.filter fun u => u.key == key
    uses.head?.map fun first =>
      { name := first.name
        mountName := mountName
        hostnames := (uses.map CertUse.hostname).eraseDups }

def Gateway.servedCerts (gateway : Gateway) (gatewayNs : String) : List ServedCert :=
  ((gateway.certUses.map CertUse.key).eraseDups.insertionSort (· ≤ ·)).filterMap
    (gateway.servedCert gatewayNs)

def ServedCert.fileCert (cert : ServedCert) : FileCertConfig where
  name := cert.name
  cert := tlsMountDir cert.mountName ++ "/tls.crt"
  key := tlsMountDir cert.mountName ++ "/tls.key"
  domains := cert.hostnames

theorem tlsMountDir_injective : Function.Injective tlsMountDir :=
  fun _ _ h => (String.append_right_inj "/etc/wicket/tls/").1 h

theorem ServedCert.fileCert_injective : Function.Injective ServedCert.fileCert := by
  rintro ⟨name, mountName, hostnames⟩ ⟨name', mountName', hostnames'⟩ h
  have hname : name = name' := congrArg FileCertConfig.name h
  have hcert : tlsMountDir mountName ++ "/tls.crt" = tlsMountDir mountName' ++ "/tls.crt" :=
    congrArg FileCertConfig.cert h
  have hmount := tlsMountDir_injective ((String.append_left_inj "/tls.crt").1 hcert)
  have hdomains : hostnames = hostnames' := congrArg FileCertConfig.domains h
  rw [hname, hmount, hdomains]

def addUse (secrets : HashMap String (String × String)) (m : Std.TreeMap String FileCertConfig)
    (u : CertUse) : Std.TreeMap String FileCertConfig :=
  match secrets.lookup u.key with
  | some (certPath, keyPath) =>
    let entry := m[u.key]?.getD
      { name := u.name, cert := certPath, key := keyPath, domains := [] }
    m.insert u.key (if entry.domains.contains u.hostname then entry
      else { entry with domains := entry.domains ++ [u.hostname] })
  | none => m

theorem getElem?_foldl_addUse (secrets : HashMap String (String × String)) (uses : List CertUse)
    (k : String) :
    (uses.foldl (addUse secrets) ∅)[k]? = (secrets.lookup k).bind fun paths =>
      (uses.filter fun u => u.key == k).head?.map fun first =>
        { name := first.name
          cert := paths.1
          key := paths.2
          domains := ((uses.filter fun u => u.key == k).map CertUse.hostname).eraseDups } := by
  induction uses using reverseRecOn with
  | nil => simp
  | append_singleton uses u ih =>
    rw [foldl_append, foldl_cons, foldl_nil, filter_append, addUse]
    by_cases hk : u.key = k
    · subst hk
      cases hpaths : secrets.lookup u.key with
      | none => simpa [hpaths] using ih
      | some paths =>
        rw [hpaths, Option.bind_some] at ih
        have hsame : [u].filter (fun u' => u'.key == u.key) = [u] := by simp
        simp only [Option.bind_some, hsame, ih, Std.TreeMap.getElem?_insert_self]
        generalize uses.filter (fun u' => u'.key == u.key) = before
        cases before with
        | nil => simp [eraseDups_cons]
        | cons first before =>
          -- the entry is there, and the host name is added unless it is among its domains
          rw [map_append, map_singleton, eraseDups_concat]
          by_cases hmem : u.hostname ∈ (first :: before).map CertUse.hostname
          · simp only [head?_cons, Option.map_some, Option.getD_some,
              contains_iff_mem, mem_eraseDups, hmem, if_true, cons_append]
          · simp only [head?_cons, Option.map_some, Option.getD_some,
              contains_iff_mem, mem_eraseDups, hmem, if_false, cons_append]
    · have hother : [u].filter (fun u => u.key == k) = [] := by simp [hk]
      rw [hother, append_nil, ← ih]
      split
      · rw [Std.TreeMap.getElem?_insert, if_neg (by simpa using hk)]
      · rfl

section Certs

variable {s : PlannerSnapshot} {gatewayNs gatewayName : String} {gateway : Gateway}

theorem lookup_tlsSecretOverrides_eq (gateway : Gateway) (gatewayNs key : String) :
    (tlsSecretOverrides gatewayNs gateway).lookup key =
      (gateway.mountName gatewayNs key).map fun name =>
        (tlsMountDir name ++ "/tls.crt", tlsMountDir name ++ "/tls.key") := by
  rw [tlsSecretOverrides, lookup_collect, Gateway.mountName, ← lastWrite_map, map_flatMap]
  simp only [map_map]
  rfl

theorem foldl_addCert (st : GatewayState) (gwNs : String) (l : Listener)
    (m : Std.TreeMap String FileCertConfig) :
    l.certificateRefs.foldl (addCert st gwNs l) m =
      (l.hostname.toList.flatMap fun hostname => l.certificateRefs.map fun ref =>
        ({ key := key (ref.ns.getD gwNs) ref.name
           name := ref.name
           hostname := hostname } : CertUse)).foldl (addUse st.tlsSecrets) m := by
  cases hhost : l.hostname with
  | none =>
    have hskip : addCert st gwNs l = fun m _ => m := by
      funext m ref
      simp [addCert, hhost]
    simp [hskip]
  | some hostname =>
    have hadd : addCert st gwNs l = fun m ref => addUse st.tlsSecrets m
        { key := key (ref.ns.getD gwNs) ref.name
          name := ref.name
          hostname := hostname } := by
      funext m ref
      simp only [addCert, addUse, hhost]
      cases st.tlsSecrets.lookup (key (ref.ns.getD gwNs) ref.name) <;> rfl
    rw [hadd]
    simp [foldl_map]

def GatewayState.certUses (st : GatewayState) : List CertUse :=
  (sortedEntries st.gateways).flatMap fun e => e.2.certUses

theorem certMap_eq_foldl (st : GatewayState) :
    certMap st = st.certUses.foldl (addUse st.tlsSecrets) ∅ := by
  simp only [certMap, certUses, Gateway.certUses, foldl_flatMap, foldl_addCert]

theorem fileCerts_of_generateConfig {st : GatewayState} {c : Config}
    (h : generateConfig st = .ok c) : c.fileCerts = (certMap st).toList.map Prod.snd := by
  rw [Config.fileCerts, (isGenerated_of_eq_ok h).tls, tlsConfig]
  cases (certMap st).toList <;> rfl

theorem certMap_configState (h : s.gateway gatewayNs gatewayName = some gateway) :
    certMap (configState gatewayNs gatewayName s) =
      gateway.certUses.foldl (addUse (tlsSecretOverrides gatewayNs gateway)) ∅ := by
  have hsecrets : (configState gatewayNs gatewayName s).tlsSecrets =
      tlsSecretOverrides gatewayNs gateway := by
    simp only [configState, h]
  rw [certMap_eq_foldl, certUses, sortedEntries_gateways_configState h, hsecrets, flatMap_singleton]

theorem getElem?_certMap (h : s.gateway gatewayNs gatewayName = some gateway) (k : String) :
    (certMap (configState gatewayNs gatewayName s))[k]? =
      (gateway.servedCert gatewayNs k).map ServedCert.fileCert := by
  rw [certMap_configState h, getElem?_foldl_addUse, lookup_tlsSecretOverrides_eq,
    Gateway.servedCert]
  cases gateway.mountName gatewayNs k with
  | none => rfl
  | some name =>
    simp only [Option.map_some, Option.bind_some, Option.map_map]
    rfl

theorem certs_eq_servedCerts {c : Config} (h : s.gateway gatewayNs gatewayName = some gateway)
    (hc : configFromSnapshot gatewayNs gatewayName s = .ok c) :
    c.fileCerts = (gateway.servedCerts gatewayNs).map ServedCert.fileCert := by
  have hsorted : ((gateway.certUses.map CertUse.key).eraseDups.insertionSort (· ≤ ·)).Pairwise
      fun a b => compare a b = .lt := by
    have hle := pairwise_insertionSort (· ≤ ·) (gateway.certUses.map CertUse.key).eraseDups
    have hne := (perm_insertionSort (· ≤ ·)
      (gateway.certUses.map CertUse.key).eraseDups).nodup_iff.2 (nodup_eraseDups _)
    exact hle.imp₂ (fun a b hab hne => compare_lt_iff_lt.2 (lt_of_le_of_ne hab hne)) hne
  have hkeys : ∀ k cert, (gateway.servedCert gatewayNs k).map ServedCert.fileCert = some cert →
      k ∈ (gateway.certUses.map CertUse.key).eraseDups.insertionSort (· ≤ ·) := by
    intro k cert hcert
    obtain ⟨served, hserved, -⟩ := Option.map_eq_some_iff.1 hcert
    obtain ⟨name, -, hfirst⟩ := Option.bind_eq_some_iff.1 hserved
    obtain ⟨u, hu, -⟩ := Option.map_eq_some_iff.1 hfirst
    obtain ⟨hmem, hkey⟩ := mem_filter.1 (mem_of_mem_head? hu)
    rw [mem_insertionSort, mem_eraseDups]
    exact mem_map.2 ⟨u, hmem, by simpa using hkey⟩
  rw [fileCerts_of_generateConfig hc, toList_eq_filterMap (getElem?_certMap h) hsorted hkeys,
    Gateway.servedCerts, map_filterMap, map_filterMap]
  simp only [Option.map_map]
  rfl

end Certs

/-! ### Taking up a configuration -/

/-- The snapshots ask for the same proxy, as far as it is read at startup. -/
structure SameStart (gatewayNs gatewayName : String) (s s' : PlannerSnapshot)
    (gateway gateway' : Gateway) : Prop where
  plain : gateway'.plainHttpPorts = gateway.plainHttpPorts
  https : gateway'.httpsPort = gateway.httpsPort
  certs : gateway'.servedCerts gatewayNs = gateway.servedCerts gatewayNs
  streams : ∀ port, s'.StreamPort gatewayNs gatewayName port ↔
    s.StreamPort gatewayNs gatewayName port

theorem sameStart_iff {gatewayNs gatewayName : String} {s s' : PlannerSnapshot}
    {gateway gateway' : Gateway} {c c' : Config}
    (hgw : s.gateway gatewayNs gatewayName = some gateway)
    (hgw' : s'.gateway gatewayNs gatewayName = some gateway')
    (hc : configFromSnapshot gatewayNs gatewayName s = .ok c)
    (hc' : configFromSnapshot gatewayNs gatewayName s' = .ok c') :
    c.SameStartup c' ↔ SameStart gatewayNs gatewayName s s' gateway gateway' := by
  obtain ⟨hhttp, hhttps, hdisable⟩ := configFromSnapshot_addrs hgw hc
  obtain ⟨hhttp', hhttps', hdisable'⟩ := configFromSnapshot_addrs hgw' hc'
  have haddrs := @sameAddrs_iff gateway.plainHttpPorts gateway'.plainHttpPorts gateway.httpsPort
    gateway'.httpsPort
  rw [← hhttp, ← hhttp', ← hhttps, ← hhttps', ← hdisable, ← hdisable'] at haddrs
  have hcerts : c'.fileCerts = c.fileCerts ↔
      gateway'.servedCerts gatewayNs = gateway.servedCerts gatewayNs := by
    rw [certs_eq_servedCerts hgw hc, certs_eq_servedCerts hgw' hc',
      map_inj_right ServedCert.fileCert_injective]
  have hstreams := @sameStreams_iff s gatewayNs gatewayName s'
  simp only [← mem_streams_iff hgw hc, ← mem_streams_iff hgw' hc'] at hstreams
  constructor
  · rintro ⟨h₁, h₂, h₃, h₄, h₅⟩
    obtain ⟨hplain, hport⟩ := haddrs.1 ⟨h₁, h₂, h₃⟩
    exact ⟨hplain, hport, hcerts.1 h₄, hstreams.1 h₅⟩
  · rintro ⟨hplain, hport, h₄, h₅⟩
    obtain ⟨h₁, h₂, h₃⟩ := haddrs.2 ⟨hplain, hport⟩
    exact ⟨h₁, h₂, h₃, hcerts.2 h₄, hstreams.2 h₅⟩

/-- **Configurations of plans with one hash can be taken up by a running proxy** exactly when
Gateways with the same ports and Secrets are started alike. -/
theorem sameStartup_iff {lib : Libraries} (hsha : Function.Injective lib.sha256Hex)
    {order order' : HashOrder} {input : RuntimePlanInput} {s' : PlannerSnapshot}
    {observed' : ObservedRuntimeState} {p p' : GatewayRuntimePlan}
    (hp : GatewayRuntimePlanner.plan lib order input = .ok p)
    (hp' : GatewayRuntimePlanner.plan lib order'
      { input with snapshot := s', observed := observed' } = .ok p') {c c' : Config}
    (hc : configFromSnapshot input.gatewayNamespace input.gatewayName input.snapshot = .ok c)
    (hc' : configFromSnapshot input.gatewayNamespace input.gatewayName s' = .ok c') :
    (p'.specHash = p.specHash → c.SameStartup c') ↔
      ∀ gateway gateway', input.snapshot.gateway input.gatewayNamespace input.gatewayName =
          some gateway →
        s'.gateway input.gatewayNamespace input.gatewayName = some gateway' →
        SameSpec input.gatewayNamespace gateway gateway' →
        SameStart input.gatewayNamespace input.gatewayName input.snapshot s' gateway gateway' := by
  obtain ⟨parts, rfl⟩ := GatewayRuntimePlanner.plan_eq_ok.1 hp
  obtain ⟨parts', rfl⟩ := GatewayRuntimePlanner.plan_eq_ok.1 hp'
  have hgw := parts.gateway_eq
  have hgw' : s'.gateway input.gatewayNamespace input.gatewayName = some parts'.gateway :=
    parts'.gateway_eq
  rw [specHash_eq_iff hsha parts parts', sameStart_iff hgw hgw' hc hc']
  constructor
  · intro h gateway gateway' hgateway hgateway' hspec
    obtain rfl := Option.some.inj (hgw.symm.trans hgateway)
    obtain rfl := Option.some.inj (hgw'.symm.trans hgateway')
    exact h hspec
  · intro h hspec
    exact h _ _ hgw hgw' hspec

/-! ### The first route of a stream listener -/

theorem orderedLibraries_sha256Hex : Function.Injective orderedLibraries.sha256Hex :=
  fun _ _ h => (String.append_right_inj "sha256:").1 h

def tapGateway : Gateway where
  metadata := { ns := some "team", name := some "tap", uid := some "u1", generation := some 1 }
  spec :=
    { gatewayClassName := "wicket"
      listeners := [{ name := "tcp", port := 9000, protocol := .TCP }] }

def tapRoute : TCPRoute where
  metadata := { ns := some "team", name := some "db" }
  spec :=
    { parentRefs := [{ name := "tap" }]
      rules := [{ backendRefs := [{ name := "db", port := some 5432 }] }] }
  status := some ⟨[⟨{ name := "tap" }, wicketControllerName, [.accepted]⟩]⟩

def tapSnapshot (routes : List (String × TCPRoute)) (endpoints : List (String × ServiceEndpoints)) :
    PlannerSnapshot where
  gateways := collect [("team/tap", tapGateway)]
  tcpRoutes := collect routes
  serviceEndpoints := collect endpoints

def tapInput (s : PlannerSnapshot) : RuntimePlanInput where
  gatewayNamespace := "team"
  gatewayName := "tap"
  snapshot := s
  controllerConfig := {}
  observed := {}

theorem exists_tapPlan (routes : List (String × TCPRoute))
    (endpoints : List (String × ServiceEndpoints)) :
    ∃ c, configFromSnapshot "team" "tap" (tapSnapshot routes endpoints) = .ok c ∧
      ∃ parts : GatewayRuntimePlanner.PlanParts orderedLibraries .asListed
        (tapInput (tapSnapshot routes endpoints)), parts.gateway = tapGateway := by
  obtain ⟨c, hc⟩ := @exists_configFromSnapshot (tapSnapshot routes endpoints) rfl "team" "tap"
  have hplannable : Plannable orderedLibraries (tapInput (tapSnapshot routes endpoints)) :=
    ⟨⟨tapGateway, rfl, rfl, rfl, rfl⟩, ⟨"wicket-gw-tap", rfl⟩, ⟨c, _, hc, rfl⟩⟩
  obtain ⟨parts, -⟩ := hplannable.exists_parts (configTomlFromSnapshot_eq_ok.2 ⟨c, hc, rfl⟩)
  exact ⟨c, hc, parts, Option.some.inj (parts.gateway_eq.symm.trans rfl)⟩

/-- The plans with and without a route have one hash. -/
theorem exists_tapPlans (routes routes' : List (String × TCPRoute))
    (endpoints endpoints' : List (String × ServiceEndpoints)) :
    ∃ c c', configFromSnapshot "team" "tap" (tapSnapshot routes endpoints) = .ok c ∧
      configFromSnapshot "team" "tap" (tapSnapshot routes' endpoints') = .ok c' ∧
      ∃ (parts : GatewayRuntimePlanner.PlanParts orderedLibraries .asListed
          (tapInput (tapSnapshot routes endpoints)))
        (parts' : GatewayRuntimePlanner.PlanParts orderedLibraries .asListed
          (tapInput (tapSnapshot routes' endpoints'))),
        parts'.plan.specHash = parts.plan.specHash := by
  obtain ⟨c, hc, parts, hgw⟩ := exists_tapPlan routes endpoints
  obtain ⟨c', hc', parts', hgw'⟩ := exists_tapPlan routes' endpoints'
  exact ⟨c, c', hc, hc', parts, parts',
    (specHash_eq_iff orderedLibraries_sha256Hex parts parts').2
      ⟨by rw [hgw, hgw'], fun _ _ => by rw [hgw, hgw']⟩⟩

theorem tapGateway_taken_up : ∃ p p' c c',
    GatewayRuntimePlanner.plan orderedLibraries .asListed
        (tapInput (tapSnapshot [("team/db", tapRoute)] [])) = .ok p ∧
      GatewayRuntimePlanner.plan orderedLibraries .asListed
        (tapInput (tapSnapshot [("team/db", tapRoute)]
          [("team/db", ⟨"team", "db", ["10.0.0.7:5432"]⟩)])) = .ok p' ∧
      configFromSnapshot "team" "tap" (tapSnapshot [("team/db", tapRoute)] []) = .ok c ∧
      configFromSnapshot "team" "tap" (tapSnapshot [("team/db", tapRoute)]
        [("team/db", ⟨"team", "db", ["10.0.0.7:5432"]⟩)]) = .ok c' ∧
      p'.specHash = p.specHash ∧ c.SameStartup c' := by
  obtain ⟨c, c', hc, hc', parts, parts', hhash⟩ := exists_tapPlans [("team/db", tapRoute)]
    [("team/db", tapRoute)] [] [("team/db", ⟨"team", "db", ["10.0.0.7:5432"]⟩)]
  have hp := GatewayRuntimePlanner.plan_eq_ok.2 ⟨parts, rfl⟩
  have hp' := GatewayRuntimePlanner.plan_eq_ok.2 ⟨parts', rfl⟩
  refine ⟨_, _, c, c', hp, hp', hc, hc', hhash, ?_⟩
  refine (sameStartup_iff orderedLibraries_sha256Hex hp hp' hc hc').2 ?_ hhash
  intro gateway gateway' hgateway hgateway' _
  obtain rfl : tapGateway = gateway := Option.some.inj hgateway
  obtain rfl : tapGateway = gateway' := Option.some.inj hgateway'
  exact ⟨rfl, rfl, rfl, fun _ => Iff.rfl⟩

theorem tapGateway_not_taken_up : ∃ p p' c c',
    GatewayRuntimePlanner.plan orderedLibraries .asListed (tapInput (tapSnapshot [] [])) = .ok p ∧
      GatewayRuntimePlanner.plan orderedLibraries .asListed
        (tapInput (tapSnapshot [("team/db", tapRoute)] [])) = .ok p' ∧
      configFromSnapshot "team" "tap" (tapSnapshot [] []) = .ok c ∧
      configFromSnapshot "team" "tap" (tapSnapshot [("team/db", tapRoute)] []) = .ok c' ∧
      p'.specHash = p.specHash ∧ ¬c.SameStartup c' := by
  obtain ⟨c, c', hc, hc', parts, parts', hhash⟩ :=
    exists_tapPlans [] [("team/db", tapRoute)] [] []
  refine ⟨_, _, c, c', GatewayRuntimePlanner.plan_eq_ok.2 ⟨parts, rfl⟩,
    GatewayRuntimePlanner.plan_eq_ok.2 ⟨parts', rfl⟩, hc, hc', hhash, fun hsame => ?_⟩
  have hstart := (@sameStart_iff _ _ _ _ tapGateway tapGateway _ _ rfl rfl hc hc').1 hsame
  have hport : (tapSnapshot [("team/db", tapRoute)] []).StreamPort "team" "tap" 9000 :=
    ⟨Or.inl ⟨"team/db", tapRoute, rfl, rfl⟩, tapGateway, rfl, rfl⟩
  obtain ⟨hroute, -⟩ := (hstart.streams 9000).1 hport
  rcases hroute with ⟨key, route, hlookup, -⟩ | ⟨key, route, hlookup, -⟩ <;> cases hlookup

end Wicket
