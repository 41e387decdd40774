/-
**Ports of the Service behind which nothing listens.**

The Service has a port for every listener but those for UDP.  The proxy has one address for HTTPS
and one stream, and only if there is a certificate or a route.
-/

import Wicket.HotReload

namespace Wicket

open List GatewayRuntimePlanner Gateway
open Net (SocketAddr)

/-! ### The ports of a proxy -/

/-- The port for HTTPS next to one for HTTP; the sum stops at the highest port. -/
def computeHttpsPort (httpPort : UInt16) : UInt16 :=
  if httpPort = 80 then 443 else .ofNat (min 65535 (httpPort.toNat + (443 - 80)))

def computeHttpsAddr : SocketAddr → SocketAddr
  | .v4 ip port => .v4 ip (computeHttpsPort port)
  | .v6 ip port _ _ => .v6 ip (computeHttpsPort port) 0 0

def ServerConfig.httpsAddr (s : ServerConfig) : SocketAddr :=
  s.httpsListen.getD (computeHttpsAddr s.listen)

def Config.Binds (c : Config) (port : UInt16) : Prop :=
  (c.server.disableHttp = false ∧ ∃ addr ∈ c.server.httpListenAddrs, addr.port = port) ∨
  (c.fileCerts ≠ [] ∧ c.server.httpsAddr.port = port) ∨
  ∃ sc ∈ c.streams, ∃ addr, Net.parseSocketAddr sc.listen = some addr ∧ addr.port = port

/-- The port for HTTPS: that of the first such listener, or else the one next to the first port for
HTTP. -/
def Gateway.httpsBoundPort (gateway : Gateway) : UInt16 :=
  gateway.httpsPort.getD (computeHttpsPort (gateway.plainHttpPorts.headD 8080))

def PlannerSnapshot.Opens (s : PlannerSnapshot) (gatewayNs gatewayName : String)
    (gateway : Gateway) (port : UInt16) : Prop :=
  port ∈ gateway.plainHttpPorts ∨
  (gateway.servedCerts gatewayNs ≠ [] ∧ gateway.httpsBoundPort = port) ∨
  s.StreamPort gatewayNs gatewayName port

/-! ### The ports of a generated configuration -/

section Generated

variable {s : PlannerSnapshot} {gatewayNs gatewayName : String} {gateway : Gateway} {c : Config}

theorem Gateway.plainHttpPorts_ne_nil (h : gateway.httpsPort = none) :
    gateway.plainHttpPorts ≠ [] := by
  have hnone : gateway.portsOf .HTTPS = [] := head?_eq_none_iff.1 h
  rw [plainHttpPorts, hnone]
  by_cases hhttp : gateway.portsOf .HTTP = []
  · rw [if_pos ⟨hhttp, rfl⟩]
    exact cons_ne_nil _ _
  · obtain ⟨port, ports, hports⟩ := exists_cons_of_ne_nil hhttp
    rw [hports, eraseDups_cons]
    exact cons_ne_nil _ _

theorem ServerConfig.head?_httpListenAddrs (server : ServerConfig) :
    server.httpListenAddrs.head? = some server.listen := by
  rw [ServerConfig.httpListenAddrs, eraseDups_cons]
  rfl

theorem computeHttpsAddr_anyAddr (port : UInt16) :
    (computeHttpsAddr (anyAddr port)).port = computeHttpsPort port := rfl

theorem binds_http_iff (h : s.gateway gatewayNs gatewayName = some gateway)
    (hc : configFromSnapshot gatewayNs gatewayName s = .ok c) {port : UInt16} :
    (c.server.disableHttp = false ∧ ∃ addr ∈ c.server.httpListenAddrs, addr.port = port) ↔
      port ∈ gateway.plainHttpPorts := by
  obtain ⟨hhttp, -, hdisable⟩ := configFromSnapshot_addrs h hc
  rw [hhttp, hdisable, isEmpty_eq_false_iff]
  by_cases hplain : gateway.plainHttpPorts = []
  · simp [hplain]
  · rw [if_neg hplain]
    constructor
    · rintro ⟨-, addr, haddr, rfl⟩
      obtain ⟨port, hport, rfl⟩ := mem_map.1 haddr
      exact hport
    · intro hport
      exact ⟨hplain, anyAddr port, mem_map_of_mem hport, rfl⟩

theorem port_httpsAddr (h : s.gateway gatewayNs gatewayName = some gateway)
    (hc : configFromSnapshot gatewayNs gatewayName s = .ok c) :
    c.server.httpsAddr.port = gateway.httpsBoundPort := by
  obtain ⟨hhttp, hhttps, -⟩ := configFromSnapshot_addrs h hc
  rw [ServerConfig.httpsAddr, hhttps, httpsBoundPort]
  cases hport : gateway.httpsPort with
  | some port => rfl
  | none =>
    have hplain := plainHttpPorts_ne_nil hport
    obtain ⟨port, ports, hports⟩ := exists_cons_of_ne_nil hplain
    have hlisten := c.server.head?_httpListenAddrs
    rw [hhttp, if_neg hplain, hports, map_cons, head?_cons, Option.some.injEq] at hlisten
    rw [← hlisten, hports]
    exact computeHttpsAddr_anyAddr port

theorem binds_stream_iff (h : s.gateway gatewayNs gatewayName = some gateway)
    (hc : configFromSnapshot gatewayNs gatewayName s = .ok c) {port : UInt16} :
    (∃ sc ∈ c.streams, ∃ addr, Net.parseSocketAddr sc.listen = some addr ∧ addr.port = port) ↔
      s.StreamPort gatewayNs gatewayName port := by
  constructor
  · rintro ⟨sc, hsc, addr, haddr, rfl⟩
    obtain ⟨port, hport, -, hlisten⟩ := (mem_streams_iff h hc).1 ⟨sc, hsc, rfl, rfl⟩
    rw [← hlisten, Net.parseSocketAddr_any] at haddr
    cases haddr
    exact hport
  · intro hport
    obtain ⟨sc, hsc, -, hlisten⟩ := (mem_streams_iff h hc).2 ⟨port, hport, rfl, rfl⟩
    exact ⟨sc, hsc, anyAddr port, by rw [hlisten, Net.parseSocketAddr_any]; rfl, rfl⟩

theorem binds_iff (h : s.gateway gatewayNs gatewayName = some gateway)
    (hc : configFromSnapshot gatewayNs gatewayName s = .ok c) {port : UInt16} :
    c.Binds port ↔ s.Opens gatewayNs gatewayName gateway port := by
  rw [Config.Binds, PlannerSnapshot.Opens, binds_http_iff h hc, binds_stream_iff h hc,
    certs_eq_servedCerts h hc, port_httpsAddr h hc, ne_eq, map_eq_nil_iff]

end Generated

/-! ### The ports of the Service -/

variable {gateway : Gateway} {ports : List ServicePortSpec} {l : Listener}

theorem exists_servicePort_iff (h : servicePortsFromListeners gateway = .ok ports) {port : UInt16} :
    (∃ e ∈ ports, e.port = port) ↔
      ∃ l ∈ gateway.spec.listeners, l.protocol ≠ .UDP ∧ l.port = port := by
  obtain ⟨-, rfl⟩ := servicePortsFromListeners_eq_ok.1 h
  constructor
  · rintro ⟨e, he, rfl⟩
    obtain ⟨l, hl, rfl⟩ := mem_map.1 he
    have hservice := (Check.firsts_sublist _ _).subset hl
    exact ⟨l, (mem_filter.1 hservice).1, by simpa using (mem_filter.1 hservice).2, rfl⟩
  · rintro ⟨l, hl, hudp, rfl⟩
    obtain ⟨l', hl', hport⟩ := mem_map.1 (port_mem_portListeners hl hudp)
    exact ⟨.ofListener l', mem_map_of_mem hl', hport⟩

theorem targetPort_eq (h : servicePortsFromListeners gateway = .ok ports) {e : ServicePortSpec}
    (he : e ∈ ports) :
    e.targetPort = e.port := by
  rw [servicePorts_eq h] at he
  obtain ⟨exposed, -, rfl⟩ := mem_map.1 he
  rfl

theorem ListenerStatusIntent.withAttachment_accepted (ap : AttachmentPlan)
    (intent : ListenerStatusIntent) :
    (intent.withAttachment ap).name = intent.name ∧
      (intent.withAttachment ap).accepted = intent.accepted := by
  unfold ListenerStatusIntent.withAttachment
  cases ap.listenerSummary intent.name <;> constructor <;> dsimp only <;> split_ifs <;> rfl

theorem exists_accepted {lib : Libraries} {order : HashOrder} {input : RuntimePlanInput}
    (parts : PlanParts lib order input)
    (hl : l ∈ parts.gateway.spec.listeners) (hudp : l.protocol ≠ .UDP) :
    ∃ intent ∈ parts.plan.listenerStatuses, intent.name = l.name ∧ intent.accepted = true := by
  have hmem : listenerStatusIntent l ∈ listenerStatusIntents parts.gateway :=
    mem_map_of_mem hl
  have hintent : (listenerStatusIntent l).name = l.name ∧
      (listenerStatusIntent l).accepted = true := by
    simp [listenerStatusIntent, hudp]
  dsimp only [PlanParts.plan, assemble]
  cases Except.toOption (attachmentPlan _) with
  | none => exact ⟨_, hmem, hintent⟩
  | some ap =>
    obtain ⟨hname, haccepted⟩ := (listenerStatusIntent l).withAttachment_accepted ap
    exact ⟨_, mem_map_of_mem hmem, hname.trans hintent.1, haccepted.trans hintent.2⟩

theorem mem_plainHttpPorts (hl : l ∈ gateway.spec.listeners) (hhttp : l.protocol = .HTTP) :
    l.port ∈ gateway.plainHttpPorts := by
  have hport : l.port ∈ gateway.portsOf .HTTP :=
    mem_map_of_mem (mem_filter.2 ⟨hl, beq_iff_eq.2 hhttp⟩)
  rw [plainHttpPorts, if_neg fun h => ne_nil_of_mem hport h.1]
  exact mem_eraseDups.2 hport

/-- **Every port of the Service is bound** exactly when every listener for HTTPS, TCP or TLS has a
port that is open. -/
theorem servicePorts_bound_iff {lib : Libraries} {order : HashOrder} {input : RuntimePlanInput}
    {p : GatewayRuntimePlan} (hp : plan lib order input = .ok p) {c : Config}
    (hc : configFromSnapshot input.gatewayNamespace input.gatewayName input.snapshot = .ok c) :
    (∀ e ∈ p.servicePorts, c.Binds e.targetPort) ↔
      ∀ gateway, input.snapshot.gateway input.gatewayNamespace input.gatewayName = some gateway →
        ∀ l ∈ gateway.spec.listeners, l.protocol ≠ .UDP → l.protocol ≠ .HTTP →
          input.snapshot.Opens input.gatewayNamespace input.gatewayName gateway l.port := by
  obtain ⟨parts, rfl⟩ := plan_eq_ok.1 hp
  have hports := parts.servicePorts_eq
  constructor
  · intro hbound gateway hgateway l hl hudp _
    obtain rfl : parts.gateway = gateway := Option.some.inj (parts.gateway_eq.symm.trans hgateway)
    obtain ⟨e, he, hport⟩ := (exists_servicePort_iff hports).2 ⟨l, hl, hudp, rfl⟩
    rw [← hport, ← targetPort_eq hports he, ← binds_iff hgateway hc]
    exact hbound e he
  · intro hopen e he
    obtain ⟨l, hl, hudp, hport⟩ := (exists_servicePort_iff hports).1 ⟨e, he, rfl⟩
    rw [binds_iff parts.gateway_eq hc, targetPort_eq hports he, ← hport]
    by_cases hhttp : l.protocol = .HTTP
    · exact .inl (mem_plainHttpPorts hl hhttp)
    · exact hopen _ parts.gateway_eq l hl hudp hhttp

theorem tapRoute_bound : ∃ p c,
    plan orderedLibraries .asListed
        (tapInput (tapSnapshot [("team/db", tapRoute)] [])) = .ok p ∧
      configFromSnapshot "team" "tap" (tapSnapshot [("team/db", tapRoute)] []) = .ok c ∧
      ∀ e ∈ p.servicePorts, c.Binds e.targetPort := by
  obtain ⟨c, hc, parts, -⟩ := exists_tapPlan [("team/db", tapRoute)] []
  have hp := plan_eq_ok.2 ⟨parts, rfl⟩
  refine ⟨_, c, hp, hc, (servicePorts_bound_iff hp hc).2 ?_⟩
  intro gateway hgateway l hl _ _
  obtain rfl : tapGateway = gateway := Option.some.inj hgateway
  obtain rfl := List.mem_singleton.1 hl
  exact .inr (.inr ⟨.inl ⟨"team/db", tapRoute, rfl, rfl⟩, tapGateway, rfl, rfl⟩)

theorem tapGateway_unbound : ∃ p c,
    plan orderedLibraries .asListed (tapInput (tapSnapshot [] [])) = .ok p ∧
      configFromSnapshot "team" "tap" (tapSnapshot [] []) = .ok c ∧
      ∃ e ∈ p.servicePorts, e.targetPort = 9000 ∧
        (∃ intent ∈ p.listenerStatuses, intent.name = e.name ∧ intent.accepted = true) ∧
        ¬c.Binds e.targetPort := by
  obtain ⟨c, hc, parts, hgw⟩ := exists_tapPlan [] []
  have hports : parts.servicePorts = [⟨"tcp", 9000, 9000, "TCP"⟩] := by
    have h := servicePorts_eq parts.servicePorts_eq
    rw [hgw] at h
    exact h
  have hlistener : { name := "tcp", port := 9000, protocol := .TCP } ∈
      parts.gateway.spec.listeners := by
    rw [hgw]
    exact List.mem_singleton.2 rfl
  have hintent : ∃ intent ∈ parts.plan.listenerStatuses,
      intent.name = "tcp" ∧ intent.accepted = true :=
    exists_accepted parts hlistener (fun h => nomatch h)
  refine ⟨_, c, plan_eq_ok.2 ⟨parts, rfl⟩, hc, ⟨"tcp", 9000, 9000, "TCP"⟩, ?_,
    rfl, hintent, ?_⟩
  · change _ ∈ parts.servicePorts
    rw [hports]
    exact List.mem_singleton.2 rfl
  · rw [@binds_iff _ _ _ tapGateway _ rfl hc]
    rintro (hplain | ⟨hcerts, -⟩ | ⟨hroute, -⟩)
    · revert hplain
      decide
    · exact hcerts rfl
    · rcases hroute with ⟨key, route, hlookup, -⟩ | ⟨key, route, hlookup, -⟩ <;> cases hlookup

end Wicket
