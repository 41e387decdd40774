/-
**The configuration generator.**

Its loops are modelled with their accumulators, over maps in the order of their keys.  The one way
the generator can panic, splitting a duration inside a character, is an error of the model.
-/

import Wicket.Config
import Wicket.Crds

namespace Wicket

open KeyMap
open Net (SocketAddr)

/-! ### The collected state -/

structure ServiceEndpoints where
  ns : String
  name : String
  endpoints : List String
  deriving DecidableEq

/-- The resources the generator works on, each under the text `namespace/name`. -/
structure GatewayState where
  gateways : HashMap String Gateway := ∅
  httpRoutes : HashMap String HTTPRoute := ∅
  tcpRoutes : HashMap String TCPRoute := ∅
  tlsRoutes : HashMap String TLSRoute := ∅
  serviceEndpoints : HashMap String ServiceEndpoints := ∅
  tlsSecrets : HashMap String (String × String) := ∅

def GatewayState.key (ns name : String) : String := ns ++ "/" ++ name

/-! ### Acceptance -/

def parentsAcceptedByWicket (parents : List RouteParentStatus) : Bool :=
  parents.any fun p => p.controllerName == wicketControllerName &&
    p.conditions.any fun c => c.type == "Accepted" && c.status == "True"

def routeIsAccepted (status : Option RouteStatus) : Bool :=
  match status with
  | some s => parentsAcceptedByWicket s.parents
  | none => false

def httpRouteIsAccepted (route : HTTPRoute) : Bool := routeIsAccepted route.status

def tcpRouteIsAccepted (route : TCPRoute) : Bool := routeIsAccepted route.status

def tlsRouteIsAccepted (route : TLSRoute) : Bool := routeIsAccepted route.status

/-! ### Listen addresses -/

def GatewayState.listeners (st : GatewayState) : List (String × Listener) :=
  (sortedEntries st.gateways).flatMap fun e => e.2.spec.listeners.map fun l => (e.1, l)

def GatewayState.httpListeners (st : GatewayState) : List (String × Listener) :=
  st.listeners.filter fun e => e.2.protocol == .HTTP

def GatewayState.httpsListeners (st : GatewayState) : List (String × Listener) :=
  st.listeners.filter fun e => e.2.protocol == .HTTPS

def GatewayState.tcpListeners (st : GatewayState) : List (String × Listener) :=
  st.listeners.filter fun e => e.2.protocol == .TCP || e.2.protocol == .TLS

def listenAddr (l : Listener) : SocketAddr := .v4 .unspecified l.port

def additionalHttpListens (httpListeners : List (String × Listener)) : List SocketAddr :=
  ((httpListeners.drop 1).map fun e => listenAddr e.2).eraseDups

def serverConfig (httpListeners httpsListeners : List (String × Listener)) : ServerConfig :=
  match httpListeners.head?, httpsListeners.head? with
  | some (_, httpL), some (_, httpsL) =>
    { Config.default.server with
      listen := listenAddr httpL
      httpListens := additionalHttpListens httpListeners
      httpsListen := some (listenAddr httpsL)
      disableHttp := false }
  | some (_, httpL), none =>
    { Config.default.server with
      listen := listenAddr httpL
      httpListens := additionalHttpListens httpListeners }
  | none, some (_, httpsL) =>
    -- without a plain listener the required address repeats the HTTPS one and is not bound
    { Config.default.server with
      listen := listenAddr httpsL
      httpsListen := some (listenAddr httpsL)
      disableHttp := true }
  | none, none => Config.default.server

/-! ### Backends -/

/-- The namespace of a backend reference: the route's own unless it names one. -/
def BackendRef.nsOr (b : BackendRef) (routeNs : String) : String := b.ns.getD routeNs

/-- The cluster-local name and port of a Service, used while its endpoints are unknown. -/
def serviceDnsName (name ns : String) (port : UInt16) : String :=
  name ++ "." ++ ns ++ ".svc.cluster.local:" ++ toString port.toNat

/-- The stored endpoints in order, or else the name of the Service with the referenced port, which
is `defaultPort` where there is none. -/
def resolveBackend (st : GatewayState) (routeNs : String) (defaultPort : UInt16)
    (b : BackendRef) : List String :=
  match st.serviceEndpoints.lookup (GatewayState.key (b.nsOr routeNs) b.name) with
  | some endpoints => endpoints.endpoints.insertionSort (· ≤ ·)
  | none => [serviceDnsName b.name (b.nsOr routeNs) (b.port.getD defaultPort)]

/-! ### HTTP routes -/

inductive Panic
  | splitInsideCharacter
  deriving DecidableEq

/-- The last byte is split off as the unit, which panics when the last character has several bytes;
the multiplications wrap around. -/
def parseDurationToSecs (duration : String) : Except Panic (Option UInt64) :=
  let cs := (Text.trim duration).toList
  match cs.getLast? with
  | none => .ok none
  | some unit =>
    -- `split_at(len - 1)` counts bytes
    if unit.utf8Size ≠ 1 then .error .splitInsideCharacter
    else
      match Text.parseUnsigned (2 ^ 64) (String.ofList cs.dropLast) with
      | none => .ok none
      | some num =>
        if unit = 's' then .ok (some (UInt64.ofNat num))
        else if unit = 'm' then .ok (some (UInt64.ofNat num * 60))
        else if unit = 'h' then .ok (some (UInt64.ofNat num * 3600))
        else .ok none

def HTTPRouteRule.timeout (rule : HTTPRouteRule) : Except Panic (Option UInt64) :=
  match rule.timeouts.bind HTTPRouteTimeouts.request with
  | some d => parseDurationToSecs d
  | none => .ok none

def HTTPRoute.routeNs (route : HTTPRoute) : String := route.metadata.ns.getD "default"

def HTTPRoute.routeName (route : HTTPRoute) : String := route.metadata.name.getD "unknown"

def ruleUpstreamName (routeNs routeName : String) (ruleIdx : ℕ) : String :=
  routeNs ++ "-" ++ routeName ++ "-rule" ++ toString ruleIdx

def matchRouteName (routeNs routeName : String) (ruleIdx matchIdx : ℕ) : String :=
  ruleUpstreamName routeNs routeName ruleIdx ++ "-match" ++ toString matchIdx

def pathRules : Option HTTPPathMatch → Option (Option String × Option String)
  | some pathMatch =>
    match pathMatch.type with
    | .Exact => some (some pathMatch.value, none)
    | .PathPrefix => some (none, some pathMatch.value)
    | .RegularExpression => none
  | none => some (none, some "/")

/-- The match conditions of the route of a match.  Query parameters and the types of the header
conditions are not looked at. -/
def matchRules (host : Option String) (routeMatch : HTTPRouteMatch) : Option RouteMatch :=
  (pathRules routeMatch.path).map fun paths =>
    { host := host
      path := paths.1
      pathPrefix := paths.2
      methods := routeMatch.method.toList.map HTTPMethod.debugName
      headers := Std.TreeMap.ofList (routeMatch.headers.map fun h => (h.name, h.value)) }

def emptyMatchRules (host : Option String) : RouteMatch where
  host := host
  pathPrefix := some "/"

def ruleRoutes (route : HTTPRoute) (rule : HTTPRouteRule) (ruleIdx : ℕ) (timeout : Option UInt64) :
    List RouteConfig :=
  if rule.matches_.isEmpty then
    [{ name := some (ruleUpstreamName route.routeNs route.routeName ruleIdx)
       upstream := ruleUpstreamName route.routeNs route.routeName ruleIdx
       matchRules := emptyMatchRules route.spec.hostnames.head?
       timeout := timeout }]
  else
    rule.matches_.zipIdx.filterMap fun e =>
      (matchRules route.spec.hostnames.head? e.1).map fun rules =>
        { name := some (matchRouteName route.routeNs route.routeName ruleIdx e.2)
          upstream := ruleUpstreamName route.routeNs route.routeName ruleIdx
          matchRules := rules
          timeout := timeout }

def ruleBackends (st : GatewayState) (route : HTTPRoute) (rule : HTTPRouteRule) : List String :=
  rule.backendRefs.flatMap fun b => resolveBackend st route.routeNs 80 b.backendRef

structure HttpOutput where
  upstreams : Std.TreeMap String UpstreamConfig := ∅
  routes : List RouteConfig := []

def renderRule (st : GatewayState) (route : HTTPRoute) (out : HttpOutput)
    (e : HTTPRouteRule × ℕ) : Except Panic HttpOutput :=
  let backendAddrs := ruleBackends st route e.1
  if backendAddrs.isEmpty then .ok out
  else
    e.1.timeout.map fun timeout =>
      { upstreams := out.upstreams.insert (ruleUpstreamName route.routeNs route.routeName e.2)
          { backends := backendAddrs, strategy := .RoundRobin, healthCheck := none }
        routes := out.routes ++ ruleRoutes route e.1 e.2 timeout }

def renderHttpRoute (st : GatewayState) (out : HttpOutput) (entry : String × HTTPRoute) :
    Except Panic HttpOutput :=
  if !httpRouteIsAccepted entry.2 then .ok out
  else entry.2.spec.rules.zipIdx.foldlM (renderRule st entry.2) out

def renderHttpRoutes (st : GatewayState) : Except Panic HttpOutput :=
  (sortedEntries st.httpRoutes).foldlM (renderHttpRoute st) {}

/-! ### Certificates -/

def Gateway.gwNs (gateway : Gateway) : String := gateway.metadata.ns.getD "default"

/-- Adds a certificate, or a domain to one that is there.  A listener without a host name and a
Secret that is not stored add nothing. -/
def addCert (st : GatewayState) (gwNs : String) (listener : Listener)
    (certMap : Std.TreeMap String FileCertConfig) (certRef : SecretObjectReference) :
    Std.TreeMap String FileCertConfig :=
  let certKey := GatewayState.key (certRef.ns.getD gwNs) certRef.name
  match listener.hostname, st.tlsSecrets.lookup certKey with
  | some hostname, some (certPath, keyPath) =>
    let entry := certMap[certKey]?.getD
      { name := certRef.name, cert := certPath, key := keyPath, domains := [] }
    certMap.insert certKey
      (if entry.domains.contains hostname then entry
        else { entry with domains := entry.domains ++ [hostname] })
  | _, _ => certMap

def Listener.certificateRefs (l : Listener) : List SecretObjectReference :=
  (l.tls.map GatewayTLSConfig.certificateRefs).getD []

def certMap (st : GatewayState) : Std.TreeMap String FileCertConfig :=
  (sortedEntries st.gateways).foldl (fun m e =>
    e.2.spec.listeners.foldl (fun m l =>
      l.certificateRefs.foldl (addCert st e.2.gwNs l) m) m) ∅

def tlsConfig (st : GatewayState) : Option TlsConfig :=
  let certs := (certMap st).toList.map Prod.snd
  if certs.isEmpty then none
  else some
    { mode := .File
      acme := none
      file := some { watch := true, pollIntervalSecs := 30, certs := certs } }

/-! ### Streams -/

/-- What the TLS and TCP routes have added to the stream configuration so far. -/
structure StreamOutput where
  upstreams : List StreamUpstreamConfig := []
  sniRoutesOrdered : List (String × String) := []
  sniOwner : Std.TreeMap String String := ∅
  catchAllUpstream : Option String := none

def TLSRoute.routeNs (route : TLSRoute) : String := route.metadata.ns.getD "default"

def TCPRoute.routeNs (route : TCPRoute) : String := route.metadata.ns.getD "default"

def streamUpstreamName (routeNs backendName : String) : String := routeNs ++ "-" ++ backendName

def claimSni (upstreamName : String) (out : StreamOutput) (hostname : String) : StreamOutput :=
  if out.sniOwner.contains hostname then out
  else
    { out with
      sniOwner := out.sniOwner.insert hostname upstreamName
      sniRoutesOrdered := out.sniRoutesOrdered ++ [(hostname, upstreamName)] }

/-- Renders an upstream and the server names that lead to it; without host names it is the default,
unless there is one. -/
def renderTlsBackend (st : GatewayState) (route : TLSRoute) (out : StreamOutput)
    (b : BackendRef) : StreamOutput :=
  let upstreamName := streamUpstreamName route.routeNs b.name
  let out := { out with upstreams := out.upstreams ++
    [{ name := upstreamName, servers := resolveBackend st route.routeNs 443 b }] }
  if route.spec.hostnames.isEmpty then
    { out with catchAllUpstream := out.catchAllUpstream.or (some upstreamName) }
  else route.spec.hostnames.foldl (claimSni upstreamName) out

def renderTlsRoute (st : GatewayState) (out : StreamOutput) (entry : String × TLSRoute) :
    StreamOutput :=
  if !tlsRouteIsAccepted entry.2 then out
  else
    entry.2.spec.rules.foldl (fun out rule =>
      rule.backendRefs.foldl (renderTlsBackend st entry.2) out) out

def renderTcpBackend (st : GatewayState) (route : TCPRoute) (out : StreamOutput)
    (b : BackendRef) : StreamOutput :=
  { out with upstreams := out.upstreams ++
    [{ name := streamUpstreamName route.routeNs b.name
       servers := resolveBackend st route.routeNs 9000 b }] }

def renderTcpRoute (st : GatewayState) (out : StreamOutput) (entry : String × TCPRoute) :
    StreamOutput :=
  if !tcpRouteIsAccepted entry.2 then out
  else
    entry.2.spec.rules.foldl (fun out rule =>
      rule.backendRefs.foldl (renderTcpBackend st entry.2) out) out

def renderStreamRoutes (st : GatewayState) : StreamOutput :=
  (sortedEntries st.tcpRoutes).foldl (renderTcpRoute st)
    ((sortedEntries st.tlsRoutes).foldl (renderTlsRoute st) {})

def StreamOutput.sniRoutes (out : StreamOutput) : HashMap String String :=
  collect (Std.TreeMap.ofList (out.sniRoutesOrdered.insertionSort fun a b => a.1 ≤ b.1)).toList

def streamConfig (st : GatewayState) : Option StreamConfig :=
  if st.tcpRoutes.entries.isEmpty && st.tlsRoutes.entries.isEmpty then none
  else
    let out := renderStreamRoutes st
    st.tcpListeners.head?.map fun e =>
      { name := "stream-" ++ toString e.2.port.toNat
        listen := "0.0.0.0:" ++ toString e.2.port.toNat
        backlog := 8000
        reuseport := true
        proxyProtocol := .None
        sourceIps := []
        sniRoutes := out.sniRoutes
        defaultUpstream := out.catchAllUpstream
        upstreams := out.upstreams
        healthCooldownSecs := 30
        connectTimeoutMs := 5000
        maxConnections := 10000
        drainTimeoutSecs := 30 }

def generateConfig (st : GatewayState) : Except Panic Config :=
  (renderHttpRoutes st).map fun out =>
    { Config.default with
      server := serverConfig st.httpListeners st.httpsListeners
      upstreams := out.upstreams
      routes := out.routes
      tls := tlsConfig st
      streams := (streamConfig st).toList }

end Wicket
