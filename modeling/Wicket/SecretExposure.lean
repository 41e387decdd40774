/-
**Secrets of foreign namespaces.**

A reference that no ReferenceGrant permits is withheld nowhere: the Secret is extracted, mounted
into the proxy, and listed in the configuration.
-/

import Wicket.RuntimePlan
import Wicket.Secret

namespace Wicket

open List KeyMap Option

/-! ### The certificates of a configuration -/

def HasCert (k : String) (m : Std.TreeMap String FileCertConfig) : Prop := (m[k]?).isSome = true

variable {st : GatewayState} {gwNs k : String} {l : Listener} {ref : SecretObjectReference}
  {gateway : Gateway} (m : Std.TreeMap String FileCertConfig)

theorem addCert_keeps (ref : SecretObjectReference) (h : HasCert k m) :
    HasCert k (addCert st gwNs l m ref) := by
  simp only [addCert]
  split
  · rw [HasCert, Std.TreeMap.getElem?_insert]
    split
    · rfl
    · exact h
  · exact h

theorem addCert_adds {hostname : String} {paths : String × String}
    (hhost : l.hostname = some hostname)
    (hsecret : st.tlsSecrets.lookup (GatewayState.key (ref.ns.getD gwNs) ref.name) = some paths)
    (m : Std.TreeMap String FileCertConfig) :
    HasCert (GatewayState.key (ref.ns.getD gwNs) ref.name) (addCert st gwNs l m ref) := by
  simp [HasCert, addCert, hhost, hsecret]

theorem listenerCerts_keep (l : Listener) (h : HasCert k m) :
    HasCert k (l.certificateRefs.foldl (addCert st gwNs l) m) :=
  foldlRecOn (motive := HasCert k) _ _ h fun m hm ref _ => addCert_keeps m ref hm

theorem gatewayCerts_keep (e : String × Gateway) (h : HasCert k m) :
    HasCert k (e.2.spec.listeners.foldl (fun m l =>
      l.certificateRefs.foldl (addCert st e.2.gwNs l) m) m) :=
  foldlRecOn (motive := HasCert k) _ _ h fun m hm l _ => listenerCerts_keep m l hm

theorem certMap_contains {gwKey hostname : String} {paths : String × String}
    (hgw : st.gateways.lookup gwKey = some gateway) (hl : l ∈ gateway.spec.listeners)
    (href : ref ∈ l.certificateRefs) (hhost : l.hostname = some hostname)
    (hsecret : st.tlsSecrets.lookup (GatewayState.key (ref.ns.getD gateway.gwNs) ref.name) =
      some paths) :
    HasCert (GatewayState.key (ref.ns.getD gateway.gwNs) ref.name) (certMap st) := by
  -- the certificate is added in the inner loop, and no later step of the three loops drops it
  refine Check.foldl_of_mem gatewayCerts_keep ?_ (mem_sortedEntries.2 hgw) _
  intro m
  refine Check.foldl_of_mem listenerCerts_keep ?_ hl m
  intro m
  exact Check.foldl_of_mem addCert_keeps (addCert_adds hhost hsecret) href m

/-! ### References without a grant -/

/-- The objects that the API server holds. -/
structure Cluster where
  gateways : List Gateway
  gatewayClasses : HashMap String GatewayClass
  referenceGrants : List ReferenceGrant

def Cluster.api (c : Cluster) : KubeApi where
  listGateways := .ok c.gateways
  getGatewayClass name :=
    match c.gatewayClasses.lookup name with
    | some gc => .ok gc
    | none => .error "not found"
  listReferenceGrants ns := .ok (c.referenceGrants.filter fun g => g.metadata.ns == some ns)

def Cluster.Manages (c : Cluster) (g : Gateway) : Prop :=
  ∃ gc, c.gatewayClasses.lookup g.spec.gatewayClassName = some gc ∧ gc.isWicketManaged = true

/-- A grant in the namespace of the Secret allows Gateways of the other one to use it. -/
def Cluster.Permits (c : Cluster) (gwNs ns name : String) : Prop :=
  ∃ grant ∈ c.referenceGrants, grant.metadata.ns = some ns ∧
    grant.allowsTlsSecretReference gwNs (some name) = true

def Cluster.PermittedReference (c : Cluster) (g : Gateway) (ns name : String) : Prop :=
  ∃ gwNs, g.metadata.ns = some gwNs ∧ (∃ l ∈ g.spec.listeners, l.refersTo gwNs ns name = true) ∧
    (gwNs = ns ∨ c.Permits gwNs ns name)

/-- A managed Gateway refers to the Secret without a grant, and no other one may. -/
structure UngrantedReference (c : Cluster) (gateway : Gateway) (gwNs : String) (l : Listener)
    (ref : SecretObjectReference) : Prop where
  mem : gateway ∈ c.gateways
  ns : gateway.metadata.ns = some gwNs
  managed : c.Manages gateway
  listener : l ∈ gateway.spec.listeners
  reference : ref ∈ l.certificateRefs
  foreign : ref.ns.getD gwNs ≠ gwNs
  ungranted : ¬c.Permits gwNs (ref.ns.getD gwNs) ref.name
  noOther : ∀ g ∈ c.gateways, g ≠ gateway → ¬c.PermittedReference g (ref.ns.getD gwNs) ref.name

/-- The Secret is withheld: it is not extracted, not mounted and not listed. -/
structure Withheld (c : Cluster) (s : PlannerSnapshot) (gwNs gwName : String) (gateway : Gateway)
    (ns name : String) : Prop where
  files : ∀ (ctx : SecretContext) (secret : Secret) (st : SecretState), ctx.api = c.api →
    secret.metadata.ns = some ns → secret.metadata.name = some name →
    ∀ ext ∈ ["crt", "key"], ∀ data,
      (reconcileSecret ctx secret st).1.files.lookup (ctx.tlsPath ns name ext) = some data →
        st.files.lookup (ctx.tlsPath ns name ext) = some data
  store : ∀ (ctx : SecretContext) (secret : Secret) (st : SecretState), ctx.api = c.api →
    secret.metadata.ns = some ns → secret.metadata.name = some name →
    st.tlsSecrets.lookup (GatewayState.key ns name) = none →
      (reconcileSecret ctx secret st).1.tlsSecrets.lookup (GatewayState.key ns name) = none
  mounts : ∀ m ∈ tlsSecretMounts gwNs gateway, ¬(m.secretNamespace = ns ∧ m.secretName = name)
  certs : ¬HasCert (GatewayState.key ns name) (certMap (configState gwNs gwName s))

/-- The Secret is written to disk, mounted into the pods and listed in the configuration. -/
structure Exposed (c : Cluster) (s : PlannerSnapshot) (gwNs gwName : String) (gateway : Gateway)
    (l : Listener) (ns name : String) : Prop where
  extracted : ∀ (ctx : SecretContext) (secret : Secret) (st : SecretState)
    (cert key : List UInt8), ctx.api = c.api → ctx.disk.Works →
    secret.metadata.ns = some ns → secret.metadata.name = some name →
    secret.deletionTimestamp = none → secret.tlsData = some (cert, key) →
    (∀ files : HashMap String (List UInt8),
      files.lookup (ctx.tlsPath ns name "crt") = some cert →
      files.lookup (ctx.tlsPath ns name "key") = some key →
      ctx.loadCertifiedKey files (ctx.tlsPath ns name "crt") (ctx.tlsPath ns name "key") = .ok ()) →
    Extracted ctx ns name cert key (reconcileSecret ctx secret st).1
  mounted : ∃ m ∈ tlsSecretMounts gwNs gateway, m.secretNamespace = ns ∧ m.secretName = name
  listed : l.hostname ≠ none →
    HasCert (GatewayState.key ns name) (certMap (configState gwNs gwName s))

theorem exists_referencingGateways {c : Cluster} (hmem : gateway ∈ c.gateways)
    (hns : gateway.metadata.ns = some gwNs) (hmanaged : c.Manages gateway)
    (hl : l ∈ gateway.spec.listeners) (href : ref ∈ l.certificateRefs) :
    ∃ gateways, findReferencingGateways c.api (ref.ns.getD gwNs) ref.name = .ok gateways ∧
      gateways ≠ [] := by
  obtain ⟨gc, hgc, hwicket⟩ := hmanaged
  have hrefers : l.refersTo gwNs (ref.ns.getD gwNs) ref.name = true :=
    any_eq_true.2 ⟨ref, href, by simp⟩
  refine ⟨_, rfl, ?_⟩
  apply ne_nil_of_mem (a := (gwNs, gateway.metadata.name.getD ""))
  refine mem_flatMap.2 ⟨gateway, hmem, ?_⟩
  simp only [Cluster.api, hgc, hwicket, hns, getD_some, Bool.not_true, Bool.false_eq_true, if_false]
  exact mem_map.2 ⟨l, mem_filter.2 ⟨hl, hrefers⟩, rfl⟩

theorem exposed_of_reference {c : Cluster} {s : PlannerSnapshot} {gwName : String}
    (hmem : gateway ∈ c.gateways) (hns : gateway.metadata.ns = some gwNs)
    (hmanaged : c.Manages gateway) (hl : l ∈ gateway.spec.listeners)
    (href : ref ∈ l.certificateRefs) (hgw : s.gateway gwNs gwName = some gateway) :
    Exposed c s gwNs gwName gateway l (ref.ns.getD gwNs) ref.name where
  extracted ctx secret st cert key hapi hdisk hsecretNs hname hlive hdata hload := by
    obtain ⟨gateways, hgateways, hne⟩ := exists_referencingGateways hmem hns hmanaged hl href
    rw [← hapi] at hgateways
    exact reconcileSecret_extracts hsecretNs hname hlive hdata hgateways hne (by rw [hapi]; rfl)
      hdisk hload st
  mounted := ⟨ref.mount gwNs, mem_tlsSecretMounts.2 ⟨l, hl, ref, href, rfl⟩, rfl, rfl⟩
  listed hhost := by
    obtain ⟨hostname, hhostname⟩ := ne_none_iff_exists'.1 hhost
    have hgwNs : gateway.gwNs = gwNs := by rw [Gateway.gwNs, hns, getD_some]
    obtain ⟨paths, hpaths⟩ := @lookup_tlsSecretOverrides gwNs gateway l hl ref href
    rw [hns, getD_some] at hpaths
    have hstate : (configState gwNs gwName s).gateways.lookup (GatewayState.key gwNs gwName) =
        some gateway := by
      simp [configState, hgw, lookup_collect, lastWrite]
    have hcert := certMap_contains hstate hl href hhostname
      (by rw [hgwNs]; simpa [configState, hgw] using hpaths)
    rwa [hgwNs] at hcert

/-- **A Secret that only an ungranted reference asks for is never withheld.** -/
theorem ungranted_not_withheld {c : Cluster} {s : PlannerSnapshot} {gwNs gwName : String}
    {gateway : Gateway} {l : Listener} {ref : SecretObjectReference}
    (h : UngrantedReference c gateway gwNs l ref) (hgw : s.gateway gwNs gwName = some gateway) :
    ¬Withheld c s gwNs gwName gateway (ref.ns.getD gwNs) ref.name ∧
      Exposed c s gwNs gwName gateway l (ref.ns.getD gwNs) ref.name := by
  have hexposed := exposed_of_reference h.mem h.ns h.managed h.listener h.reference hgw
  refine ⟨?_, hexposed⟩
  intro hwithheld
  obtain ⟨m, hm, hm'⟩ := hexposed.mounted
  exact hwithheld.mounts m hm hm'

def vaultListener : Listener where
  name := "https"
  hostname := some "shop.example.com"
  port := 443
  protocol := .HTTPS
  tls := some { certificateRefs := [{ name := "tls", ns := some "vault" }] }

def vaultGateway : Gateway where
  metadata := { ns := some "shop", name := some "gw" }
  spec := { gatewayClassName := "wicket", listeners := [vaultListener] }

def vaultCluster : Cluster where
  gateways := [vaultGateway]
  gatewayClasses := collect [("wicket",
    { metadata := { ns := none, name := some "wicket" }, controllerName := wicketControllerName })]
  referenceGrants := []

def vaultSnapshot : PlannerSnapshot where
  gateways := collect [("shop/gw", vaultGateway)]

theorem vaultCluster_ungranted :
    UngrantedReference vaultCluster vaultGateway "shop" vaultListener
      { name := "tls", ns := some "vault" } where
  mem := mem_singleton.2 rfl
  ns := rfl
  managed := ⟨_, rfl, by decide⟩
  listener := mem_singleton.2 rfl
  reference := mem_singleton.2 rfl
  foreign := by decide
  ungranted := by
    rintro ⟨grant, hgrant, -⟩
    cases hgrant
  noOther := by
    intro g hg hne
    exact absurd (mem_singleton.1 hg) hne

theorem vault_not_withheld :
    UngrantedReference vaultCluster vaultGateway "shop" vaultListener
        { name := "tls", ns := some "vault" } ∧
      vaultSnapshot.gateway "shop" "gw" = some vaultGateway ∧
      ¬Withheld vaultCluster vaultSnapshot "shop" "gw" vaultGateway "vault" "tls" := by
  have h := vaultCluster_ungranted
  refine ⟨h, rfl, fun hwithheld => ?_⟩
  have hgw : vaultSnapshot.gateway "shop" "gw" = some vaultGateway := rfl
  have hexposed := exposed_of_reference h.mem h.ns h.managed h.listener h.reference hgw
  exact hwithheld.certs (hexposed.listed (by decide))

theorem vault_exposed :
    ¬Withheld vaultCluster vaultSnapshot "shop" "gw" vaultGateway "vault" "tls" ∧
      Exposed vaultCluster vaultSnapshot "shop" "gw" vaultGateway vaultListener "vault" "tls" :=
  ungranted_not_withheld vaultCluster_ungranted rfl

end Wicket
