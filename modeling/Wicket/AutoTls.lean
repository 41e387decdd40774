/-
**Automatic certificates, from the routes to the groups.**

The validator looks at routes that ask for a certificate only if there is a TLS section, and not at
its mode, while the mode decides at startup whether there is an ACME provider at all.
-/

import Wicket.AcmeProvider

namespace Wicket

/-! ### At startup -/

def RouteConfig.autoTlsDomain (route : RouteConfig) : Option AutoTlsDomain := do
  let tls ← route.tls
  if !tls.isAuto then none
  else
    let host ← route.matchRules.host
    some { domain := host, provider := tls.provider }

def Config.collectAutoTlsDomainsWithProviders (config : Config) : List AutoTlsDomain :=
  config.routes.filterMap RouteConfig.autoTlsDomain

def Config.initAcme (config : Config) (acme : AcmeConfig) (staging : Bool)
    (renewBeforeDays : UInt32) : AcmeProvider where
  config := acme
  staging := staging
  renewBeforeDays := renewBeforeDays
  autoTlsDomains := config.collectAutoTlsDomainsWithProviders

def Config.startedProvider (config : Config) (staging : Bool) (renewBeforeDays : UInt32) :
    Option AcmeProvider :=
  match config.tls with
  | none => none
  | some tls =>
    match tls.mode with
    | .File => none
    | .Acme => tls.acme.map fun acme => config.initAcme acme staging renewBeforeDays
    | .Mixed => tls.acme.map fun acme => config.initAcme acme staging renewBeforeDays

/-- The server obtains certificates for the domain, with the DNS provider it asks for unless it is
in a configured certificate. -/
structure Config.Provisions (config : Config) (auto : AutoTlsDomain) : Prop where
  mode : ∃ tls ∈ config.tls, tls.mode = .Acme ∨ tls.mode = .Mixed
  group : ∀ staging renewBeforeDays,
    ∃ provider ∈ config.startedProvider staging renewBeforeDays,
      ∃ group ∈ provider.allCerts, auto.domain ∈ group.domains ∧
        ((∀ cert ∈ provider.config.certs, auto.domain ∉ cert.domains) →
          provider.config.resolveDns auto = some group.dns)

/-! ### Domains and groups -/

theorem RouteConfig.autoTlsDomain_eq_some {route : RouteConfig} {tls : RouteTlsConfig}
    {host : String} (htls : route.tls = some tls) (hauto : tls.isAuto = true)
    (hhost : route.matchRules.host = some host) :
    route.autoTlsDomain = some { domain := host, provider := tls.provider } := by
  rw [RouteConfig.autoTlsDomain, htls, hhost]
  simp [hauto]

variable {acme : AcmeConfig} {tls : TlsConfig}

/-- **A collected domain whose DNS provider is known is in a group**: one that is configured, or one
of its own with that provider. -/
theorem AcmeConfig.exists_group_of_resolveDns {autos : List AutoTlsDomain} {auto : AutoTlsDomain}
    (hmem : auto ∈ autos) {dns : DnsProviderConfig} (hdns : acme.resolveDns auto = some dns) :
    ∃ group ∈ acme.allCertsWithProviders autos, auto.domain ∈ group.domains ∧
      ((∀ cert ∈ acme.certs, auto.domain ∉ cert.domains) →
        acme.resolveDns auto = some group.dns) := by
  by_cases hcovered : ∃ cert ∈ acme.certs, auto.domain ∈ cert.domains
  · obtain ⟨cert, hcert, hdomain⟩ := hcovered
    refine ⟨cert, List.mem_append_left _ hcert, hdomain, ?_⟩
    intro hnone
    exact absurd hdomain (hnone cert hcert)
  · refine ⟨{ domains := [auto.domain], dns := dns }, List.mem_append_right _ ?_,
      List.mem_singleton_self _, fun _ => hdns⟩
    rw [List.mem_filterMap]
    refine ⟨auto, hmem, ?_⟩
    rw [if_neg (by simpa using hcovered), hdns]
    rfl

theorem TlsConfig.RouteTlsValid.exists_acme {routeTls : RouteTlsConfig}
    (h : tls.RouteTlsValid routeTls) (hauto : routeTls.isAuto = true) (domain : String) :
    ∃ acme ∈ tls.acme, ∃ dns,
      acme.resolveDns { domain := domain, provider := routeTls.provider } = some dns := by
  cases routeTls with
  | Simple mode =>
    cases mode with
    | Auto =>
      obtain ⟨acme, hacme, hdns⟩ := h.auto rfl
      exact ⟨acme, hacme, Option.ne_none_iff_exists'.1 hdns⟩
    | Off => cases hauto
  | AutoWithProvider name =>
    obtain ⟨acme, hacme, hdns⟩ := h.provider name rfl
    exact ⟨acme, hacme, Option.isSome_iff_exists.1 hdns⟩
  | CertRef cert => cases hauto

theorem Config.startedProvider_eq {config : Config} (htls : config.tls = some tls)
    (hmode : tls.mode ≠ .File) (hacme : tls.acme = some acme) (staging : Bool)
    (renewBeforeDays : UInt32) :
    config.startedProvider staging renewBeforeDays =
      some (config.initAcme acme staging renewBeforeDays) := by
  rw [Config.startedProvider, htls]
  cases hm : tls.mode with
  | File => exact absurd hm hmode
  | Acme => simp [hm, hacme]
  | Mixed => simp [hm, hacme]

/-- **An accepted configuration provisions its routes exactly when it has a TLS section that is not
in file mode.** -/
theorem Config.provisions_iff {config : Config} (hvalid : config.validate = .ok ())
    {route : RouteConfig} (hroute : route ∈ config.routes) {routeTls : RouteTlsConfig}
    (htls : route.tls = some routeTls) (hauto : routeTls.isAuto = true) {host : String}
    (hhost : route.matchRules.host = some host) :
    config.Provisions { domain := host, provider := routeTls.provider } ↔
      ∃ tls ∈ config.tls, tls.mode ≠ .File := by
  constructor
  · intro h
    obtain ⟨tls, hmem, hmode⟩ := h.mode
    refine ⟨tls, hmem, ?_⟩
    intro hfile
    rw [hfile] at hmode
    rcases hmode with hmode | hmode
    · cases hmode
    · cases hmode
  · intro h
    obtain ⟨tls, hmem, hmode⟩ := h
    have hrouteTls := (Config.validate_eq_ok.1 hvalid).routeTls tls hmem route hroute routeTls htls
    obtain ⟨acme, hacme, dns, hdns⟩ := hrouteTls.exists_acme hauto host
    have hcollected : { domain := host, provider := routeTls.provider } ∈
        config.collectAutoTlsDomainsWithProviders :=
      List.mem_filterMap.2 ⟨route, hroute, RouteConfig.autoTlsDomain_eq_some htls hauto hhost⟩
    refine ⟨⟨tls, hmem, ?_⟩, ?_⟩
    · cases hm : tls.mode with
      | File => exact absurd hm hmode
      | Acme => exact Or.inl rfl
      | Mixed => exact Or.inr rfl
    · intro staging renewBeforeDays
      exact ⟨_, Config.startedProvider_eq hmem hmode hacme staging renewBeforeDays,
        AcmeConfig.exists_group_of_resolveDns hcollected hdns⟩

/-! ### With and without a mode for it -/

def autoRoute (tls : Option TlsConfig) : Config :=
  { Config.default with
    upstreams := Std.TreeMap.ofList
      [("api", ({ backends := ["10.0.0.1:80"] } : UpstreamConfig))]
    routes := [{
      upstream := "api"
      matchRules := { host := some "a.test" }
      tls := some (.Simple .Auto) }]
    tls := tls }

def cloudflareDns : DnsProviderConfig := { provider := "cloudflare", apiToken := "token" }

def acmeSection : AcmeConfig where
  certs := [{ domains := ["b.test"], dns := cloudflareDns }]
  defaultDns := some cloudflareDns

def fileSection : FileConfig where
  certs := [{ name := "default", cert := "cert.pem", key := "key.pem", domains := [] }]

def bothSections (mode : TlsMode) : TlsConfig where
  mode := mode
  acme := some acmeSection
  file := some fileSection

theorem autoRoute_provisioned :
    (autoRoute (some (bothSections .Mixed))).validate = .ok () ∧
      (autoRoute (some (bothSections .Mixed))).Provisions { domain := "a.test" } := by
  have hvalid : (autoRoute (some (bothSections .Mixed))).validate = .ok () := rfl
  refine ⟨hvalid, ?_⟩
  exact (Config.provisions_iff hvalid List.mem_cons_self rfl rfl rfl).2 ⟨_, rfl, by decide⟩

theorem autoRoute_not_provisioned :
    ((autoRoute none).validate = .ok () ∧
      ¬(autoRoute none).Provisions { domain := "a.test" }) ∧
    (autoRoute (some (bothSections .File))).validate = .ok () ∧
      ¬(autoRoute (some (bothSections .File))).Provisions { domain := "a.test" } := by
  refine ⟨⟨rfl, ?_⟩, rfl, ?_⟩
  · intro h
    obtain ⟨tls, hmem, -⟩ := h.mode
    cases hmem
  · intro h
    obtain ⟨tls, hmem, hmode⟩ := h.mode
    cases hmem
    rcases hmode with hmode | hmode
    · cases hmode
    · cases hmode

end Wicket
