/-
**The stream proxy built from a configuration.**

A backend address that is neither a socket address nor a path makes the listener fail; of two
upstreams with one name the later stays.
-/

import Wicket.Config
import Wicket.Paths

namespace Wicket

open Text
open KeyMap
open Net
open Check

/-! ### Backend addresses -/

inductive StreamError
  | ConfigError (text : String)
  deriving DecidableEq

/-- The address of a backend.  A path is kept as the text it was given as. -/
inductive StreamBackendAddr
  | Tcp (addr : SocketAddr)
  | Unix (path : String)
  deriving DecidableEq

/-- The equality of addresses: paths are compared by their components, not as texts. -/
def StreamBackendAddr.same : StreamBackendAddr → StreamBackendAddr → Bool
  | .Tcp a, .Tcp b => a == b
  | .Unix a, .Unix b => Paths.samePath a b
  | _, _ => false

def parseUnixEndpoint (input path : String) : Except StreamError StreamBackendAddr :=
  if path == "" then
    .error (.ConfigError "unix stream backend endpoint must include an absolute path")
  else if startsWith path "//" then
    .error (.ConfigError
      s!"invalid Unix stream backend endpoint '{input}': use unix:/absolute/path, not unix://")
  else if !startsWith path "/" then
    .error (.ConfigError
      s!"invalid Unix stream backend endpoint '{input}': path must be absolute")
  else .ok (.Unix path)

def StreamBackendAddr.parse (input : String) : Except StreamError StreamBackendAddr :=
  if input == "" then .error (.ConfigError "stream backend endpoint must not be empty")
  else
    match stripPrefix input "unix:" with
    | some path => parseUnixEndpoint input path
    | none =>
      match parseSocketAddr input with
      | some addr => .ok (.Tcp addr)
      | none => .error (.ConfigError
          s!"invalid TCP stream backend endpoint '{input}': invalid socket address syntax")

def parseBackendEndpoints (servers : List String) : Except StreamError (List StreamBackendAddr) :=
  compileAll StreamBackendAddr.parse servers

/-! ### Routing by server name -/

inductive CompiledPattern
  | Exact (name : String)
  | Wildcard (suffix : String)
  deriving DecidableEq

def CompiledPattern.parse (pattern : String) : CompiledPattern :=
  let patternLower := toAsciiLowercase pattern
  match stripPrefix patternLower "*." with
  | some suffix => .Wildcard ("." ++ suffix)
  | none => .Exact patternLower

def CompiledPattern.matches_ (p : CompiledPattern) (hostname : String) : Bool :=
  match p with
  | .Exact exact => hostname == exact
  | .Wildcard suffix =>
    match stripSuffix hostname suffix with
    | some label => label != "" && !hasChar label '.'
    | none => false

/-- The first pattern may be tried before the second: exact names come first, then wildcards with
the longer suffix. -/
def CompiledPattern.le : CompiledPattern → CompiledPattern → Bool
  | .Exact _, _ => true
  | .Wildcard _, .Exact _ => false
  | .Wildcard a, .Wildcard b => decide (b.utf8ByteSize ≤ a.utf8ByteSize)

structure SniRouter where
  routes : List (CompiledPattern × String)
  defaultUpstream : Option String

def SniRouter.new (sniRoutes : HashMap String String) (defaultUpstream : Option String) :
    SniRouter where
  routes := ((entries sniRoutes).map fun e => (CompiledPattern.parse e.1, e.2)).insertionSort
    fun a b => a.1.le b.1 = true
  defaultUpstream := defaultUpstream

def SniRouter.matchSni (router : SniRouter) (sni : Option String) : Option String :=
  (sni.bind fun hostname =>
    (router.routes.find? fun r => r.1.matches_ (toAsciiLowercase hostname)).map Prod.snd).or
    router.defaultUpstream

/-! ### The proxy -/

structure Upstream where
  name : String
  servers : List StreamBackendAddr
  cooldown : UInt64
  deriving DecidableEq

inductive ProxyProtocolVersion
  | V1
  | V2
  deriving DecidableEq

structure StreamProxy where
  name : String
  router : SniRouter
  upstreams : HashMap String Upstream
  sourceIpPool : Option (List IpAddr)
  proxyProtocol : Option ProxyProtocolVersion
  localAddr : SocketAddr
  connectTimeout : UInt64
  /-- The permits for concurrent connections; without them there is no limit. -/
  connectionSemaphore : Option UInt32
  /-- The time connections get to finish on shutdown, in seconds. -/
  drainTimeout : UInt64

def Upstream.fromConfig (cooldown : UInt64) (config : StreamUpstreamConfig) :
    Except StreamError (String × Upstream) :=
  (parseBackendEndpoints config.servers).map fun servers =>
    (config.name, { name := config.name, servers := servers, cooldown := cooldown })

def ProxyProtocolConfig.version : ProxyProtocolConfig → Option ProxyProtocolVersion
  | .None => none
  | .V1 => some .V1
  | .V2 => some .V2

def StreamProxy.fromConfig (config : StreamConfig) : Except StreamError StreamProxy := do
  let upstreams ← compileAll (Upstream.fromConfig config.healthCooldownSecs) config.upstreams
  match parseSocketAddr config.listen with
  | none => .error (.ConfigError "Invalid listen address: invalid socket address syntax")
  | some localAddr =>
    .ok {
      name := config.name
      router := SniRouter.new config.sniRoutes config.defaultUpstream
      upstreams := collect upstreams
      sourceIpPool := if config.sourceIps.isEmpty then none else some config.sourceIps
      proxyProtocol := config.proxyProtocol.version
      localAddr := localAddr
      connectTimeout := config.connectTimeoutMs
      connectionSemaphore :=
        if 0 < config.maxConnections then some config.maxConnections else none
      drainTimeout := config.drainTimeoutSecs }

/-! ### When a listener compiles -/

def StreamBackendAddr.accepts (input : String) : Bool :=
  match stripPrefix input "unix:" with
  | some path => startsWith path "/" && !startsWith path "//"
  | none => (parseSocketAddr input).isSome

theorem StreamBackendAddr.exists_parse {input : String} :
    (∃ addr, StreamBackendAddr.parse input = .ok addr) ↔
      StreamBackendAddr.accepts input = true := by
  rw [StreamBackendAddr.parse, StreamBackendAddr.accepts]
  split
  · rename_i hempty
    obtain rfl : input = "" := by simpa using hempty
    have hnone : stripPrefix "" "unix:" = none := by decide
    have haddr : parseSocketAddr "" = none := by decide
    simp [hnone, haddr]
  · cases hstrip : stripPrefix input "unix:" with
    | some path =>
      simp only [parseUnixEndpoint]
      by_cases hpath : path = ""
      · subst hpath
        simp only [beq_self_eq_true, if_true, reduceCtorEq, exists_false, false_iff]
        decide
      · cases hslash : startsWith path "//" <;>
          cases habs : startsWith path "/" <;> simp [hpath]
    | none =>
      cases parseSocketAddr input <;> simp

variable {config : StreamConfig}

theorem StreamProxy.exists_of_fromConfig {proxy : StreamProxy}
    (h : StreamProxy.fromConfig config = .ok proxy) :
    ∃ ups, compileAll (Upstream.fromConfig config.healthCooldownSecs) config.upstreams = .ok ups ∧
      parseSocketAddr config.listen = some proxy.localAddr ∧
      proxy.router = SniRouter.new config.sniRoutes config.defaultUpstream ∧
      proxy.upstreams = collect ups := by
  obtain ⟨ups, hok, hlisten⟩ := bind_eq_ok.1 h
  cases haddr : parseSocketAddr config.listen with
  | none => simp [haddr] at hlisten
  | some addr =>
    simp only [haddr, Except.ok.injEq] at hlisten
    subst hlisten
    exact ⟨ups, hok, rfl, rfl, rfl⟩

theorem StreamProxy.exists_fromConfig :
    (∃ proxy, StreamProxy.fromConfig config = .ok proxy) ↔
      (∀ u ∈ config.upstreams, ∀ s ∈ u.servers, StreamBackendAddr.accepts s = true) ∧
        (parseSocketAddr config.listen).isSome = true := by
  have hups : (∃ ups, compileAll (Upstream.fromConfig config.healthCooldownSecs)
      config.upstreams = .ok ups) ↔
      ∀ u ∈ config.upstreams, ∀ s ∈ u.servers, StreamBackendAddr.accepts s = true := by
    simp only [exists_compileAll, Upstream.fromConfig, exists_map_eq_ok, parseBackendEndpoints,
      StreamBackendAddr.exists_parse]
  rw [← hups]
  constructor
  · rintro ⟨proxy, h⟩
    obtain ⟨ups, hok, haddr, -⟩ := StreamProxy.exists_of_fromConfig h
    exact ⟨⟨ups, hok⟩, by rw [haddr, Option.isSome_some]⟩
  · rintro ⟨⟨ups, hok⟩, hlisten⟩
    obtain ⟨addr, haddr⟩ := Option.isSome_iff_exists.1 hlisten
    exact ⟨_, bind_eq_ok.2 ⟨ups, hok, by rw [haddr]⟩⟩

def StreamConfig.upstreamServers (config : StreamConfig) : List (String × List String) :=
  config.upstreams.map fun u => (u.name, u.servers)

theorem StreamProxy.rel_lookup_upstreams {proxy : StreamProxy}
    (h : StreamProxy.fromConfig config = .ok proxy) (name : String) :
    Option.Rel (fun servers up => parseBackendEndpoints servers = .ok up.servers)
      (lastWrite config.upstreamServers name) (proxy.upstreams.lookup name) := by
  obtain ⟨ups, hok, -, -, hups⟩ := StreamProxy.exists_of_fromConfig h
  rw [hups, lookup_collect]
  refine lastWrite_forall₂ ?_ name
  rw [StreamConfig.upstreamServers, List.forall₂_map_left_iff]
  refine (compileAll_eq_ok.1 hok).imp ?_
  intro u e hue
  obtain ⟨servers, hservers, rfl⟩ := map_eq_ok.1 hue
  exact ⟨rfl, hservers⟩

end Wicket
