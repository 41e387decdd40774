/-
**The proxy configuration and its validator.**

The validator `Config::validate` is modelled check by check, in the order of the source; the
configurations it accepts are described independently.
-/

import Wicket.Check
import Wicket.KeyMap
import Wicket.Net

namespace Wicket

open Option List KeyMap
open Net
open Check

/-! ### Server and logging -/

inductive LogFormat
  | Text
  | Json
  deriving DecidableEq

inductive AccessLogFormat
  | Combined
  | Json
  deriving DecidableEq

structure LogFilesConfig where
  enabled : Bool := false
  directory : String := "/var/log/wicket"
  error : String := "error.log"
  access : String := "access.log"
  acme : String := "acme.log"

structure AccessLogConfig where
  enabled : Bool := false
  format : AccessLogFormat := .Combined

structure LoggingConfig where
  level : Option String := none
  format : Option LogFormat := none
  files : LogFilesConfig := {}
  access : AccessLogConfig := {}

structure ServerConfig where
  listen : SocketAddr
  httpListens : List SocketAddr := []
  httpsListen : Option SocketAddr := none
  disableHttp : Bool := false
  workers : Option UInt64 := none
  jsonLogs : Bool := true
  logLevel : String := "info"
  shutdownTimeout : UInt64 := 30

def ServerConfig.httpListenAddrs (s : ServerConfig) : List SocketAddr :=
  (s.listen :: s.httpListens).eraseDups

/-! ### Upstreams and routes -/

inductive LoadBalanceStrategy
  | RoundRobin
  | ConsistentHash
  deriving DecidableEq

structure HealthCheckConfig where
  path : String := "/health"
  interval : UInt64 := 10
  unhealthyThreshold : UInt32 := 3
  deriving DecidableEq

structure UpstreamConfig where
  backends : List String
  strategy : LoadBalanceStrategy := .RoundRobin
  healthCheck : Option HealthCheckConfig := none
  deriving DecidableEq

structure HeaderModifier where
  add : HashMap String String := ∅
  set : HashMap String String := ∅
  remove : List String := []

/-- The change of a path a redirect or rewrite makes. -/
inductive PathModifier
  | ReplaceFullPath (path : String)
  | ReplacePrefixMatch (path : String)
  deriving DecidableEq

structure RedirectFilter where
  scheme : Option String := none
  hostname : Option String := none
  port : Option UInt16 := none
  path : Option PathModifier := none
  statusCode : UInt16 := 302

structure UrlRewriteFilter where
  hostname : Option String := none
  path : Option PathModifier := none
  deriving DecidableEq

structure MirrorFilter where
  upstream : String
  percent : UInt8 := 100

structure RouteFilters where
  requestHeaders : Option HeaderModifier := none
  responseHeaders : Option HeaderModifier := none
  redirect : Option RedirectFilter := none
  urlRewrite : Option UrlRewriteFilter := none
  mirror : Option MirrorFilter := none

inductive SimpleTlsMode
  | Auto
  | Off
  deriving DecidableEq

inductive RouteTlsConfig
  | Simple (mode : SimpleTlsMode)
  | AutoWithProvider (auto : String)
  | CertRef (cert : String)
  deriving DecidableEq

def RouteTlsConfig.isAuto : RouteTlsConfig → Bool
  | .Simple .Auto => true
  | .AutoWithProvider _ => true
  | _ => false

def RouteTlsConfig.provider : RouteTlsConfig → Option String
  | .AutoWithProvider auto => some auto
  | _ => none

def RouteTlsConfig.certName : RouteTlsConfig → Option String
  | .CertRef cert => some cert
  | _ => none

structure RouteMatch where
  host : Option String := none
  pathPrefix : Option String := none
  path : Option String := none
  methods : List String := []
  headers : Std.TreeMap String String := ∅

structure RouteConfig where
  name : Option String := none
  matchRules : RouteMatch
  upstream : String
  tls : Option RouteTlsConfig := none
  filters : Option RouteFilters := none
  timeout : Option UInt64 := none

/-! ### TLS -/

/-- Where certificates come from. -/
inductive TlsMode
  | Acme
  | File
  | Mixed
  deriving DecidableEq

structure DnsProviderConfig where
  provider : String
  apiToken : String := ""
  apiTokenFile : Option String := none
  zoneId : Option String := none
  deriving DecidableEq

structure AcmeCertConfig where
  domains : List String
  dns : DnsProviderConfig
  deriving DecidableEq

structure AcmeConfig where
  certs : List AcmeCertConfig := []
  defaultDns : Option DnsProviderConfig := none
  dnsProviders : HashMap String DnsProviderConfig := ∅

structure FileCertConfig where
  name : String
  cert : String
  key : String
  domains : List String
  deriving DecidableEq

structure FileConfig where
  watch : Bool := true
  pollIntervalSecs : UInt64 := 30
  certs : List FileCertConfig := []
  deriving DecidableEq

structure TlsConfig where
  mode : TlsMode
  acme : Option AcmeConfig := none
  file : Option FileConfig := none

/-! ### Streams -/

inductive ProxyProtocolConfig
  | None
  | V1
  | V2
  deriving DecidableEq

structure StreamUpstreamConfig where
  name : String
  servers : List String
  deriving DecidableEq

structure StreamConfig where
  name : String
  listen : String
  backlog : UInt32 := 8000
  reuseport : Bool := true
  proxyProtocol : ProxyProtocolConfig := .None
  sourceIps : List IpAddr := []
  defaultUpstream : Option String := none
  sniRoutes : HashMap String String := ∅
  upstreams : List StreamUpstreamConfig := []
  healthCooldownSecs : UInt64 := 30
  connectTimeoutMs : UInt64 := 5000
  maxConnections : UInt32 := 10000
  drainTimeoutSecs : UInt64 := 30

structure Config where
  server : ServerConfig
  upstreams : Std.TreeMap String UpstreamConfig := ∅
  routes : List RouteConfig := []
  tls : Option TlsConfig := none
  streams : List StreamConfig := []
  logging : LoggingConfig := {}

def Config.default : Config where
  server := { listen := .v4 .unspecified 8080 }

/-! ### The validator -/

inductive LogFile
  | error
  | access
  | acme
  deriving DecidableEq

def LogFile.key : LogFile → String
  | .error => "error"
  | .access => "access"
  | .acme => "acme"

inductive ConfigError
  | accessLogNeedsFiles
  | emptyLogFile (file : LogFile)
  | undefinedUpstream (route upstream : String)
  | unsupportedFilters (route : String)
  | unsupportedRewriteHostname (route : String)
  | rewritePathNotAbsolute (route : String)
  | timeoutUnsupported (route : String)
  | noMatchRules (route : String)
  | emptyUpstream (name : String)
  | acmeWithoutCerts
  | acmeCertWithoutDomains
  | acmeSectionMissing
  | fileWithoutCerts
  | manyDefaultCerts (found : ℕ)
  | fileSectionMissing
  | unknownDnsProvider (route provider : String) (available : List String)
  | providerWithoutAcme (route provider : String)
  | autoWithoutDefaultDns (route : String)
  | autoWithoutAcme (route : String)
  | unknownCert (route cert : String) (available : List String)
  | certWithoutFile (route cert : String)
  | emptyStreamName
  | duplicateStreamName (name : String)
  | invalidStreamListen (listen : String)
  | duplicateStreamListen (listen : String)
  | undefinedDefaultUpstream (stream upstream : String)
  | undefinedSniUpstream (stream sni upstream : String)
  | streamWithoutUpstreams (stream : String)
  | streamUpstreamWithoutServers (stream upstream : String)
  deriving DecidableEq

def ConfigError.text (debug : List String → String) : ConfigError → String
  | .accessLogNeedsFiles => "logging.access.enabled requires logging.files.enabled"
  | .emptyLogFile file => "logging.files." ++ file.key ++ " must not be empty"
  | .undefinedUpstream route upstream =>
    s!"Route '{route}' references undefined upstream '{upstream}'"
  | .unsupportedFilters route =>
    s!"Route '{route}' uses unsupported filters; only filters.url_rewrite.path is supported"
  | .unsupportedRewriteHostname route =>
    s!"Route '{route}' uses unsupported URL rewrite hostname; only URL rewrite path is supported"
  | .rewritePathNotAbsolute route => s!"Route '{route}' URL rewrite path must start with '/'"
  | .timeoutUnsupported route => s!"Route '{route}' uses 'timeout' which is not yet supported"
  | .noMatchRules route => s!"Route '{route}' has no match rules defined"
  | .emptyUpstream name => s!"Upstream '{name}' has no backends defined"
  | .acmeWithoutCerts => "TLS ACME mode requires at least one cert config"
  | .acmeCertWithoutDomains => "ACME cert config requires at least one domain"
  | .acmeSectionMissing => "TLS mode 'acme' requires [tls.acme] section"
  | .fileWithoutCerts => "TLS file mode requires at least one cert config"
  | .manyDefaultCerts found =>
    s!"TLS file mode allows at most one default (empty-domains) cert; found {found}"
  | .fileSectionMissing => "TLS mode 'file' requires [tls.file] section"
  | .unknownDnsProvider route provider available =>
    s!"Route '{route}' references unknown DNS provider '{provider}'. Available providers: " ++
      debug available
  | .providerWithoutAcme route provider =>
    s!"Route '{route}' uses tls = " ++ "\x7b auto = \"" ++ provider ++
      "\" \x7d but no [tls.acme] section configured"
  | .autoWithoutDefaultDns route =>
    s!"Route '{route}' uses tls = \"auto\" but no [tls.acme.default_dns] configured"
  | .autoWithoutAcme route =>
    s!"Route '{route}' uses tls = \"auto\" but no [tls.acme] section configured"
  | .unknownCert route cert available =>
    s!"Route '{route}' references unknown certificate '{cert}'. Available certificates: " ++
      debug available
  | .certWithoutFile route cert =>
    s!"Route '{route}' uses tls = " ++ "\x7b cert = \"" ++ cert ++
      "\" \x7d but no [tls.file] section configured"
  | .emptyStreamName => "Stream listener name must not be empty or whitespace"
  | .duplicateStreamName name =>
    s!"Duplicate stream listener name '{name}'; each [[streams]] entry must have a unique name"
  | .invalidStreamListen listen => s!"Invalid stream listen address: {listen}"
  | .duplicateStreamListen listen =>
    s!"Duplicate stream listen address '{listen}'; " ++
      "each [[streams]] entry must bind a unique address"
  | .undefinedDefaultUpstream stream upstream =>
    s!"Stream '{stream}' default_upstream '{upstream}' references undefined upstream"
  | .undefinedSniUpstream stream sni upstream =>
    s!"Stream '{stream}' SNI route '{sni}' references undefined upstream '{upstream}'"
  | .streamWithoutUpstreams stream => s!"Stream '{stream}' requires at least one upstream"
  | .streamUpstreamWithoutServers stream upstream =>
    s!"Stream '{stream}' upstream '{upstream}' has no servers defined"

def RouteConfig.displayName (route : RouteConfig) : String := route.name.getD "<unnamed>"

def RouteMatch.hasMatch (m : RouteMatch) : Bool :=
  m.host.isSome || m.pathPrefix.isSome || m.path.isSome || !m.methods.isEmpty || !m.headers.isEmpty

def PathModifier.replacement : PathModifier → String
  | .ReplaceFullPath path => path
  | .ReplacePrefixMatch path => path

def LoggingConfig.validate (logging : LoggingConfig) : Except ConfigError Unit := do
  bailIf (logging.access.enabled && !logging.files.enabled) .accessLogNeedsFiles
  onlyIf logging.files.enabled do
    bailIf (logging.files.error == "") (.emptyLogFile .error)
    bailIf (logging.files.access == "") (.emptyLogFile .access)
    bailIf (logging.files.acme == "") (.emptyLogFile .acme)

def validateRouteFilters (route : RouteConfig) (filters : RouteFilters) :
    Except ConfigError Unit := do
  bailIf (filters.requestHeaders.isSome || filters.responseHeaders.isSome ||
    filters.redirect.isSome || filters.mirror.isSome) (.unsupportedFilters route.displayName)
  filters.urlRewrite |> forSome fun urlRewrite => do
    bailIf urlRewrite.hostname.isSome (.unsupportedRewriteHostname route.displayName)
    urlRewrite.path |> forSome fun path =>
      bailIf (!Text.startsWith path.replacement "/") (.rewritePathNotAbsolute route.displayName)

def Config.validateRoute (c : Config) (route : RouteConfig) : Except ConfigError Unit := do
  bailIf (!c.upstreams.contains route.upstream)
    (.undefinedUpstream route.displayName route.upstream)
  forSome (validateRouteFilters route) route.filters
  bailIf route.timeout.isSome (.timeoutUnsupported route.displayName)
  bailIf (!route.matchRules.hasMatch) (.noMatchRules route.displayName)

def TlsConfig.validateAcme (tls : TlsConfig) : Except ConfigError Unit :=
  match tls.acme with
  | some acme => do
    bailIf acme.certs.isEmpty .acmeWithoutCerts
    forEach (fun cert => bailIf cert.domains.isEmpty .acmeCertWithoutDomains) acme.certs
  | none => bailIf (tls.mode == .Acme) .acmeSectionMissing

def FileConfig.defaultCerts (file : FileConfig) : List FileCertConfig :=
  file.certs.filter fun c => c.domains.isEmpty

def TlsConfig.validateFile (tls : TlsConfig) : Except ConfigError Unit :=
  match tls.file with
  | some file => do
    bailIf (file.certs.isEmpty && tls.mode == .File) .fileWithoutCerts
    bailIf (decide (1 < file.defaultCerts.length)) (.manyDefaultCerts file.defaultCerts.length)
  | none => bailIf (tls.mode == .File) .fileSectionMissing

def TlsConfig.validateTls (tls : TlsConfig) : Except ConfigError Unit := do
  onlyIf (tls.mode == .Acme || tls.mode == .Mixed) tls.validateAcme
  onlyIf (tls.mode == .File || tls.mode == .Mixed) tls.validateFile

def TlsConfig.validateRouteTls (tls : TlsConfig) (route : RouteConfig) : Except ConfigError Unit :=
  route.tls |> forSome fun routeTls => do
    routeTls.provider |> forSome fun provider =>
      match tls.acme with
      | some acme =>
        bailIf (acme.dnsProviders.lookup provider).isNone
          (.unknownDnsProvider route.displayName provider acme.dnsProviders.keys)
      | none => .error (.providerWithoutAcme route.displayName provider)
    onlyIf (routeTls.isAuto && routeTls.provider.isNone) <| match tls.acme with
      | some acme => bailIf acme.defaultDns.isNone (.autoWithoutDefaultDns route.displayName)
      | none => .error (.autoWithoutAcme route.displayName)
    routeTls.certName |> forSome fun certName =>
      match tls.file with
      | some file =>
        bailIf (!file.certs.any fun c => c.name == certName)
          (.unknownCert route.displayName certName (file.certs.map FileCertConfig.name))
      | none => .error (.certWithoutFile route.displayName certName)

def StreamConfig.validateStream (stream : StreamConfig) : Except ConfigError Unit := do
  let upstreamNames := stream.upstreams.map StreamUpstreamConfig.name
  stream.defaultUpstream |> forSome fun default =>
    bailIf (!upstreamNames.contains default) (.undefinedDefaultUpstream stream.name default)
  forEach (fun e => bailIf (!upstreamNames.contains e.2)
    (.undefinedSniUpstream stream.name e.1 e.2)) (entries stream.sniRoutes)
  bailIf stream.upstreams.isEmpty (.streamWithoutUpstreams stream.name)
  forEach (fun u => bailIf u.servers.isEmpty
    (.streamUpstreamWithoutServers stream.name u.name)) stream.upstreams

def validateStreamsFrom (seenNames : List String) (seenAddrs : List SocketAddr) :
    List StreamConfig → Except ConfigError Unit
  | [] => .ok ()
  | stream :: streams => do
    bailIf (Text.trim stream.name == "") .emptyStreamName
    bailIf (seenNames.contains stream.name) (.duplicateStreamName stream.name)
    match parseSocketAddr stream.listen with
    | none => .error (.invalidStreamListen stream.listen)
    | some addr => do
      bailIf (seenAddrs.contains addr) (.duplicateStreamListen stream.listen)
      stream.validateStream
      validateStreamsFrom (stream.name :: seenNames) (addr :: seenAddrs) streams

def Config.validateStreams (c : Config) : Except ConfigError Unit :=
  validateStreamsFrom [] [] c.streams

def Config.validate (c : Config) : Except ConfigError Unit := do
  c.logging.validate
  forEach c.validateRoute c.routes
  forEach (fun e => bailIf e.2.backends.isEmpty (.emptyUpstream e.1)) c.upstreams.toList
  c.tls |> forSome fun tls => do
    tls.validateTls
    forEach tls.validateRouteTls c.routes
  c.validateStreams

/-! ### What the validator accepts -/

def LoggingConfig.Valid (logging : LoggingConfig) : Prop :=
  (logging.access.enabled = true → logging.files.enabled = true) ∧
    (logging.files.enabled = true →
      logging.files.error ≠ "" ∧ logging.files.access ≠ "" ∧ logging.files.acme ≠ "")

/-- The filters are among those the proxy supports. -/
structure RouteFilters.Valid (filters : RouteFilters) : Prop where
  noRequestHeaders : filters.requestHeaders = none
  noResponseHeaders : filters.responseHeaders = none
  noRedirect : filters.redirect = none
  noMirror : filters.mirror = none
  rewrite : ∀ rw ∈ filters.urlRewrite, rw.hostname = none ∧
    ∀ path ∈ rw.path, Text.startsWith path.replacement "/" = true

/-- The route names an upstream that exists, has a match condition, and uses what is supported. -/
structure Config.RouteValid (c : Config) (route : RouteConfig) : Prop where
  upstream : route.upstream ∈ c.upstreams
  filters : ∀ filters ∈ route.filters, filters.Valid
  timeout : route.timeout = none
  hasMatch : route.matchRules.hasMatch = true

structure TlsConfig.Valid (tls : TlsConfig) : Prop where
  acmeSection : tls.mode = .Acme → tls.acme ≠ none
  acmeCerts : tls.mode ≠ .File → ∀ acme ∈ tls.acme,
    acme.certs ≠ [] ∧ ∀ cert ∈ acme.certs, cert.domains ≠ []
  fileSection : tls.mode = .File → ∃ file ∈ tls.file, file.certs ≠ []
  defaultCerts : tls.mode ≠ .Acme → ∀ file ∈ tls.file, file.defaultCerts.length ≤ 1

/-- The TLS settings of the route refer to what the TLS section defines. -/
structure TlsConfig.RouteTlsValid (tls : TlsConfig) (routeTls : RouteTlsConfig) : Prop where
  provider : ∀ p ∈ routeTls.provider, ∃ acme ∈ tls.acme, (acme.dnsProviders.lookup p).isSome
  auto : routeTls = .Simple .Auto → ∃ acme ∈ tls.acme, acme.defaultDns ≠ none
  cert : ∀ n ∈ routeTls.certName, ∃ file ∈ tls.file, ∃ c ∈ file.certs, c.name = n

/-- The upstreams of the listener are non-empty, and every reference to one is to one of them. -/
structure StreamConfig.Valid (stream : StreamConfig) : Prop where
  default : ∀ d ∈ stream.defaultUpstream, ∃ u ∈ stream.upstreams, u.name = d
  sni : ∀ sni d, stream.sniRoutes.lookup sni = some d → ∃ u ∈ stream.upstreams, u.name = d
  upstreams : stream.upstreams ≠ []
  servers : ∀ u ∈ stream.upstreams, u.servers ≠ []

/-- The listeners have distinct non-blank names and distinct addresses, and each is valid. -/
structure StreamsValid (streams : List StreamConfig) : Prop where
  nonblank : ∀ s ∈ streams, Text.trim s.name ≠ ""
  names : (streams.map StreamConfig.name).Nodup
  listen : ∀ s ∈ streams, (parseSocketAddr s.listen).isSome = true
  addrs : (streams.map fun s => parseSocketAddr s.listen).Nodup
  each : ∀ s ∈ streams, s.Valid

structure Config.Valid (c : Config) : Prop where
  logging : c.logging.Valid
  routes : ∀ r ∈ c.routes, c.RouteValid r
  upstreams : ∀ (name : String) u, c.upstreams[name]? = some u → u.backends ≠ []
  tls : ∀ tls ∈ c.tls, tls.Valid
  routeTls : ∀ tls ∈ c.tls, ∀ r ∈ c.routes, ∀ t ∈ r.tls, tls.RouteTlsValid t
  streams : StreamsValid c.streams

theorem LoggingConfig.validate_eq_ok {logging : LoggingConfig} :
    logging.validate = .ok () ↔ logging.Valid := by
  simp only [LoggingConfig.validate, seq_eq_ok, bailIf_eq_ok, onlyIf_eq_ok, LoggingConfig.Valid]
  simp

variable {route : RouteConfig} {c : Config} {tls : TlsConfig}

theorem validateRouteFilters_eq_ok {filters : RouteFilters} :
    validateRouteFilters route filters = .ok () ↔ filters.Valid := by
  simp only [validateRouteFilters, seq_eq_ok, bailIf_eq_ok, forSome_eq_ok]
  constructor
  · rintro ⟨hunsupported, hrewrite⟩
    simp only [Bool.or_eq_false_iff, isSome_eq_false_iff, isNone_iff_eq_none] at hunsupported
    obtain ⟨⟨⟨h1, h2⟩, h3⟩, h4⟩ := hunsupported
    refine ⟨h1, h2, h3, h4, ?_⟩
    simpa using hrewrite
  · rintro ⟨h1, h2, h3, h4, hrewrite⟩
    refine ⟨by simp [h1, h2, h3, h4], ?_⟩
    simpa using hrewrite

theorem Config.validateRoute_eq_ok : c.validateRoute route = .ok () ↔ c.RouteValid route := by
  simp only [Config.validateRoute, seq_eq_ok, bailIf_eq_ok, forSome_eq_ok,
    validateRouteFilters_eq_ok]
  constructor
  · rintro ⟨hup, hfilters, htimeout, hmatch⟩
    exact ⟨by simpa using hup, hfilters, by simpa using htimeout, by simpa using hmatch⟩
  · rintro ⟨hup, hfilters, htimeout, hmatch⟩
    exact ⟨by simpa using hup, hfilters, by simpa using htimeout, by simpa using hmatch⟩

theorem TlsConfig.validateAcme_eq_ok :
    tls.validateAcme = .ok () ↔ (tls.mode = .Acme → tls.acme ≠ none) ∧
      ∀ acme ∈ tls.acme, acme.certs ≠ [] ∧ ∀ cert ∈ acme.certs, cert.domains ≠ [] := by
  unfold TlsConfig.validateAcme
  cases tls.acme with
  | none => simp
  | some acme => simp [forEach_eq_ok]

theorem TlsConfig.validateFile_eq_ok :
    tls.validateFile = .ok () ↔ (tls.mode = .File → ∃ file ∈ tls.file, file.certs ≠ []) ∧
      ∀ file ∈ tls.file, file.defaultCerts.length ≤ 1 := by
  unfold TlsConfig.validateFile
  cases tls.file with
  | none => simp
  | some file => simp [imp_not_comm]

theorem TlsConfig.validateTls_eq_ok : tls.validateTls = .ok () ↔ tls.Valid := by
  have hacme : (tls.mode == .Acme || tls.mode == .Mixed) = true ↔ tls.mode ≠ .File := by
    cases tls.mode <;> decide
  have hfile : (tls.mode == .File || tls.mode == .Mixed) = true ↔ tls.mode ≠ .Acme := by
    cases tls.mode <;> decide
  rw [TlsConfig.validateTls, seq_eq_ok, onlyIf_eq_ok, onlyIf_eq_ok, hacme, hfile,
    validateAcme_eq_ok, validateFile_eq_ok]
  constructor
  · intro h
    exact ⟨fun hmode => (h.1 (by simp [hmode])).1 hmode, fun hmode => (h.1 hmode).2,
      fun hmode => (h.2 (by simp [hmode])).1 hmode, fun hmode => (h.2 hmode).2⟩
  · intro h
    exact ⟨fun hmode => ⟨h.acmeSection, h.acmeCerts hmode⟩,
      fun hmode => ⟨h.fileSection, h.defaultCerts hmode⟩⟩

theorem TlsConfig.validateRouteTls_eq_ok :
    tls.validateRouteTls route = .ok () ↔ ∀ t ∈ route.tls, tls.RouteTlsValid t := by
  rw [TlsConfig.validateRouteTls, forSome_eq_ok]
  refine forall_congr' fun t => imp_congr_right fun _ => ?_
  simp only [seq_eq_ok, forSome_eq_ok, onlyIf_eq_ok]
  constructor
  · rintro ⟨hprovider, hauto, hcert⟩
    refine ⟨?_, ?_, ?_⟩
    · cases ha : tls.acme <;> simp_all [isSome_iff_ne_none]
    · rintro rfl
      cases ha : tls.acme <;>
        simp_all [RouteTlsConfig.isAuto, RouteTlsConfig.provider, isSome_iff_ne_none]
    · cases hf : tls.file <;> simp_all
  · rintro ⟨hprovider, hauto, hcert⟩
    refine ⟨?_, ?_, ?_⟩
    · intro p hp
      obtain ⟨acme, hacme, hdns⟩ := hprovider p hp
      rw [mem_def] at hacme
      simpa [hacme, isSome_iff_ne_none] using hdns
    · intro hsimple
      -- of the settings that ask for a certificate, only this one names no provider
      have ht : t = .Simple .Auto := by
        cases t with
        | Simple mode => cases mode <;> simp_all [RouteTlsConfig.isAuto]
        | AutoWithProvider p => simp [RouteTlsConfig.provider] at hsimple
        | CertRef n => simp [RouteTlsConfig.isAuto] at hsimple
      obtain ⟨acme, hacme, hdns⟩ := hauto ht
      rw [mem_def] at hacme
      simpa [hacme, isSome_iff_ne_none] using hdns
    · intro n hn
      obtain ⟨file, hfile, cert, hmem, hname⟩ := hcert n hn
      rw [mem_def] at hfile
      simpa [hfile] using ⟨cert, hmem, hname⟩

theorem StreamConfig.validateStream_eq_ok {stream : StreamConfig} :
    stream.validateStream = .ok () ↔ stream.Valid := by
  simp only [StreamConfig.validateStream, seq_eq_ok, forSome_eq_ok, forEach_eq_ok, bailIf_eq_ok]
  constructor
  · rintro ⟨hdefault, hsni, hup, hservers⟩
    refine ⟨?_, ?_, ?_, ?_⟩
    · intro d hd
      simpa using hdefault d hd
    · intro sni d hd
      simpa using hsni (sni, d) (mem_entries.2 hd)
    · simpa using hup
    · intro u hu
      simpa using hservers u hu
  · rintro ⟨hdefault, hsni, hup, hservers⟩
    refine ⟨?_, ?_, ?_, ?_⟩
    · intro d hd
      simpa using hdefault d hd
    · rintro ⟨sni, d⟩ hd
      simpa using hsni sni d (mem_entries.1 hd)
    · simpa using hup
    · intro u hu
      simpa using hservers u hu

theorem streamsValid_cons {s : StreamConfig} {streams : List StreamConfig} {addr : SocketAddr}
    (haddr : parseSocketAddr s.listen = some addr) :
    StreamsValid (s :: streams) ↔
      Text.trim s.name ≠ "" ∧ s.Valid ∧ StreamsValid streams ∧
        (∀ s' ∈ streams, s'.name ≠ s.name) ∧
        ∀ s' ∈ streams, parseSocketAddr s'.listen ≠ some addr := by
  constructor
  · rintro ⟨hblank, hnames, hlisten, haddrs, heach⟩
    rw [forall_mem_cons] at hblank hlisten heach
    rw [map_cons, nodup_cons] at hnames haddrs
    refine ⟨hblank.1, heach.1, ⟨hblank.2, hnames.2, hlisten.2, haddrs.2, heach.2⟩, ?_, ?_⟩
    · intro s' hs' heq
      exact hnames.1 (mem_map.2 ⟨s', hs', heq⟩)
    · intro s' hs' heq
      exact haddrs.1 (mem_map.2 ⟨s', hs', by rw [heq, haddr]⟩)
  · rintro ⟨hblank, hvalid, hrest, hname, hfresh⟩
    refine ⟨forall_mem_cons.2 ⟨hblank, hrest.nonblank⟩, ?_,
      forall_mem_cons.2 ⟨by rw [haddr]; rfl, hrest.listen⟩, ?_,
      forall_mem_cons.2 ⟨hvalid, hrest.each⟩⟩
    · rw [map_cons, nodup_cons]
      refine ⟨fun hmem => ?_, hrest.names⟩
      obtain ⟨s', hs', heq⟩ := mem_map.1 hmem
      exact hname s' hs' heq
    · rw [map_cons, nodup_cons]
      refine ⟨fun hmem => ?_, hrest.addrs⟩
      obtain ⟨s', hs', heq⟩ := mem_map.1 hmem
      exact hfresh s' hs' (by rw [heq, haddr])

theorem validateStreamsFrom_eq_ok {seenNames : List String} {seenAddrs : List SocketAddr}
    {streams : List StreamConfig} :
    validateStreamsFrom seenNames seenAddrs streams = .ok () ↔
      StreamsValid streams ∧ (∀ s ∈ streams, s.name ∉ seenNames) ∧
        ∀ s ∈ streams, ∀ addr ∈ seenAddrs, parseSocketAddr s.listen ≠ some addr := by
  induction streams generalizing seenNames seenAddrs with
  | nil =>
    simp only [validateStreamsFrom, not_mem_nil, false_implies, implies_true, and_self,
      and_true, true_iff]
    exact ⟨by simp, by simp, by simp, by simp, by simp⟩
  | cons s streams ih =>
    rw [validateStreamsFrom]
    cases haddr : parseSocketAddr s.listen with
    | none =>
      simp only [seq_eq_ok, reduceCtorEq, and_false, false_iff]
      rintro ⟨hstreams, -⟩
      have hlisten := hstreams.listen s mem_cons_self
      rw [haddr] at hlisten
      cases hlisten
    | some addr =>
      -- the rest is checked against the names and addresses seen so far and those of `s`
      simp only [seq_eq_ok, bailIf_eq_ok, StreamConfig.validateStream_eq_ok, ih,
        streamsValid_cons haddr, mem_cons, not_or, haddr, beq_eq_false_iff_ne,
        contains_eq_mem, decide_eq_false_iff_not, forall_and, forall_eq_or_imp]
      constructor
      · rintro ⟨hblank, hname, hfresh, hvalid, hstreams, ⟨hnames, hseen⟩, haddrs, hseen'⟩
        refine ⟨⟨hblank, hvalid, hstreams, hnames, haddrs⟩, ⟨hname, hseen⟩, ?_, hseen'⟩
        intro addr' hmem heq
        obtain rfl := some.inj heq
        exact hfresh hmem
      · rintro ⟨⟨hblank, hvalid, hstreams, hnames, haddrs⟩, ⟨hname, hseen⟩, hfresh, hseen'⟩
        exact ⟨hblank, hname, fun hmem => hfresh addr hmem rfl, hvalid, hstreams,
          ⟨hnames, hseen⟩, haddrs, hseen'⟩

theorem Config.validateStreams_eq_ok : c.validateStreams = .ok () ↔ StreamsValid c.streams := by
  rw [Config.validateStreams, validateStreamsFrom_eq_ok]
  simp

theorem Config.validate_eq_ok : c.validate = .ok () ↔ c.Valid := by
  simp only [Config.validate, seq_eq_ok, forEach_eq_ok, forSome_eq_ok, bailIf_eq_ok,
    LoggingConfig.validate_eq_ok, Config.validateRoute_eq_ok, TlsConfig.validateTls_eq_ok,
    TlsConfig.validateRouteTls_eq_ok, Config.validateStreams_eq_ok]
  constructor
  · rintro ⟨hlogging, hroutes, hups, htls, hstreams⟩
    refine ⟨hlogging, hroutes, ?_, fun t ht => (htls t ht).1, fun t ht => (htls t ht).2, hstreams⟩
    intro name u hu
    simpa using hups (name, u) (Std.TreeMap.mem_toList_iff_getElem?_eq_some.2 hu)
  · rintro ⟨hlogging, hroutes, hups, htls, hrouteTls, hstreams⟩
    refine ⟨hlogging, hroutes, ?_, fun t ht => ⟨htls t ht, hrouteTls t ht⟩, hstreams⟩
    rintro ⟨name, u⟩ hu
    simpa using hups name u (Std.TreeMap.mem_toList_iff_getElem?_eq_some.1 hu)

end Wicket
