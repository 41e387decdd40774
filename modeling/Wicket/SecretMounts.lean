/-
**The Secrets of a Gateway in the pods of its proxy.**

Planner, applier and generator all drop the namespace of a reference, and a volume whose name is
taken is left out.
-/

import Wicket.HotReload
import Wicket.RuntimeApplier

namespace Wicket

open String List Check Prod
open GatewayRuntimePlanner (PlanParts plan plan_eq_ok)

/-! ### The volumes of the pods -/

/-- What of the name of a Secret goes into the name of its volume: its first 59 bytes, unless they
end inside a character. -/
def volumeStem (secretName : String) : Option String :=
  if secretName.utf8ByteSize ≤ 59 then some secretName else Text.bytePrefix secretName 59

theorem volumeStem_append {stem : String} (hsize : stem.utf8ByteSize = 59) (rest : String) :
    volumeStem (stem ++ rest) = some stem := by
  rw [volumeStem, utf8ByteSize_append, hsize]
  split
  · have hrest : rest.utf8ByteSize = 0 := by omega
    rw [utf8ByteSize_eq_zero_iff.1 hrest, append_empty]
  · exact Text.bytePrefix_eq_some.2 ⟨hsize, rest, rfl⟩

theorem tlsVolumeName_eq_ok {secretName volName : String} :
    tlsVolumeName secretName = .ok volName ↔
      ∃ stem, volumeStem secretName = some stem ∧ volName = "tls-" ++ stem := by
  have hsize : ("tls-" ++ secretName).utf8ByteSize = 4 + secretName.utf8ByteSize :=
    utf8ByteSize_append
  rw [tlsVolumeName, volumeStem, hsize]
  by_cases hshort : secretName.utf8ByteSize ≤ 59
  · rw [if_neg (by omega), if_pos hshort]
    constructor
    · rintro h
      exact ⟨secretName, rfl, (Except.ok.inj h).symm⟩
    · rintro ⟨stem, hstem, rfl⟩
      rw [Option.some.inj hstem]
  · rw [if_pos (by omega), if_neg hshort]
    have hcut := Text.bytePrefix_append "tls-" secretName 59
    rw [show "tls-".utf8ByteSize + 59 = 63 from rfl] at hcut
    rw [hcut]
    cases Text.bytePrefix secretName 59 with
    | none => simp
    | some stem => simp [eq_comm]

def secretVolume (m : TlsSecretMount) : Volume × VolumeMount :=
  let volName := "tls-" ++ (volumeStem m.secretName).getD ""
  ({ name := volName, source := .secret m.secretName 0o440 false },
    { name := volName, mountPath := m.mountPath, readOnly := true })

def configVolume (p : GatewayRuntimePlan) : Volume × VolumeMount :=
  ({ name := "config", source := .configMap p.configMapName },
    { name := "config", mountPath := "/etc/wicket", readOnly := true })

def podVolumes (p : GatewayRuntimePlan) : List (Volume × VolumeMount) :=
  p.tlsSecretMounts.foldl (addNew (fun e => e.1.name) secretVolume) [configVolume p]

variable {m : TlsSecretMount} {r : List Volume × List VolumeMount} {e : Volume × VolumeMount}

theorem addTlsVolume_eq_ok {es : List (Volume × VolumeMount)} :
    addTlsVolume (es.map fst, es.map snd) m = .ok r ↔
      (volumeStem m.secretName).isSome = true ∧
        r = ((addNew (fun e => e.1.name) secretVolume es m).map fst,
          (addNew (fun e => e.1.name) secretVolume es m).map snd) := by
  cases hstem : volumeStem m.secretName with
  | none => simp [addTlsVolume, map_eq_ok, tlsVolumeName_eq_ok, hstem]
  | some stem =>
    have hname : tlsVolumeName m.secretName = .ok ("tls-" ++ stem) :=
      tlsVolumeName_eq_ok.2 ⟨stem, hstem, rfl⟩
    rw [addTlsVolume, hname, Except.map, Except.ok.injEq, addNew, any_map]
    simp only [secretVolume, hstem, Option.getD_some, Option.isSome_some, true_and,
      Function.comp_def]
    split <;> simp [eq_comm]

variable {p : GatewayRuntimePlan}

theorem buildPodVolumesAndMounts_eq_ok :
    buildPodVolumesAndMounts p = .ok r ↔
      (∀ m ∈ p.tlsSecretMounts, (volumeStem m.secretName).isSome = true) ∧
        r = ((podVolumes p).map fst, (podVolumes p).map snd) := by
  have hloop : ∀ (l : List TlsSecretMount) (es : List (Volume × VolumeMount)),
      l.foldlM addTlsVolume (es.map fst, es.map snd) = .ok r ↔
        (∀ m ∈ l, (volumeStem m.secretName).isSome = true) ∧
          r = ((l.foldl (addNew (fun e => e.1.name) secretVolume) es).map fst,
            (l.foldl (addNew (fun e => e.1.name) secretVolume) es).map snd) := by
    intro l
    induction l with
    | nil =>
      intro es
      constructor
      · intro h
        exact ⟨by simp, (Except.ok.inj h).symm⟩
      · rintro ⟨-, rfl⟩
        rfl
    | cons m l ih =>
      intro es
      rw [foldlM_cons, bind_eq_ok, forall_mem_cons, foldl_cons]
      constructor
      · rintro ⟨_, hm, hrest⟩
        obtain ⟨hsome, rfl⟩ := addTlsVolume_eq_ok.1 hm
        obtain ⟨hall, hr⟩ := (ih _).1 hrest
        exact ⟨⟨hsome, hall⟩, hr⟩
      · rintro ⟨⟨hsome, hall⟩, hr⟩
        exact ⟨_, addTlsVolume_eq_ok.2 ⟨hsome, rfl⟩, (ih _).2 ⟨hall, hr⟩⟩
  exact hloop p.tlsSecretMounts [configVolume p]

theorem mem_podVolumes (h : e ∈ podVolumes p) :
    e = configVolume p ∨ ∃ m ∈ p.tlsSecretMounts, e = secretVolume m := by
  rcases mem_foldl_addNew h with he | he
  · exact .inl (mem_singleton.1 he)
  · exact .inr he

theorem podVolumes_inj {e' : Volume × VolumeMount} (he : e ∈ podVolumes p)
    (he' : e' ∈ podVolumes p) (hname : e.1.name = e'.1.name) : e = e' := by
  have hnames : ((podVolumes p).map fun e => e.1.name).Nodup := nodup_foldl_addNew (by simp)
  exact inj_on_of_nodup_map hnames he he' hname

theorem volumeStem_eq_of_name {m' : TlsSecretMount}
    (hsome : (volumeStem m.secretName).isSome = true)
    (hsome' : (volumeStem m'.secretName).isSome = true)
    (h : (secretVolume m).1.name = (secretVolume m').1.name) :
    volumeStem m.secretName = volumeStem m'.secretName := by
  obtain ⟨stem, hstem⟩ := Option.isSome_iff_exists.1 hsome
  obtain ⟨stem', hstem'⟩ := Option.isSome_iff_exists.1 hsome'
  simp only [secretVolume, hstem, hstem', Option.getD_some] at h
  rw [hstem, hstem', (append_right_inj "tls-").1 h]

theorem secretVolume_name_ne (m : TlsSecretMount) (p : GatewayRuntimePlan) :
    (configVolume p).1.name ≠ (secretVolume m).1.name := by
  intro h
  have hchars := congrArg toList h
  simp [configVolume, secretVolume] at hchars

/-! ### Mounted as referred to -/

def VolumeSource.secretIn (podNs : String) : VolumeSource → Option (String × String)
  | .configMap _ => none
  | .secret secretName _ _ => some (podNs, secretName)

structure SecretsMounted (gateway : Gateway) (p : GatewayRuntimePlan) (c : Config) : Prop where
  paths : ∀ m ∈ p.tlsSecretMounts, ∀ m' ∈ p.tlsSecretMounts, m.mountPath = m'.mountPath →
    m.secretNamespace = m'.secretNamespace ∧ m.secretName = m'.secretName
  volumes : ∃ vs mounts, buildPodVolumesAndMounts p = .ok (vs, mounts) ∧
    ∀ m ∈ p.tlsSecretMounts, ∃ v ∈ vs,
      v.source.secretIn p.gatewayNamespace = some (m.secretNamespace, m.secretName) ∧
        ∃ mount ∈ mounts, mount.name = v.name ∧ mount.mountPath = m.mountPath
  certs : ∀ cert ∈ c.fileCerts, ∃ l ∈ gateway.spec.listeners, ∃ ref ∈ l.certificateRefs,
    ∃ host ∈ l.hostname, host ∈ cert.domains ∧ cert.name = ref.name ∧
      cert.cert = (ref.mount p.gatewayNamespace).mountPath ++ "/tls.crt" ∧
      cert.key = (ref.mount p.gatewayNamespace).mountPath ++ "/tls.key" ∧
      ref.mount p.gatewayNamespace ∈ p.tlsSecretMounts

/-- All Secrets are in the namespace of the Gateway, and their names can be told apart by what goes
into the names of their volumes. -/
structure Gateway.MountableSecrets (gateway : Gateway) (gatewayNs : String) : Prop where
  ownNs : ∀ ns name, gateway.RefersTo gatewayNs ns name → ns = gatewayNs
  stems : ∀ ns name, gateway.RefersTo gatewayNs ns name → (volumeStem name).isSome = true
  apart : ∀ ns name ns' name', gateway.RefersTo gatewayNs ns name →
    gateway.RefersTo gatewayNs ns' name' → volumeStem name = volumeStem name' → name = name'

theorem fileCert_under_mount {s : PlannerSnapshot} {gatewayNs gatewayName : String}
    {gateway : Gateway} {c : Config} (hgw : s.gateway gatewayNs gatewayName = some gateway)
    (hns : gateway.metadata.ns = some gatewayNs)
    (hc : configFromSnapshot gatewayNs gatewayName s = .ok c)
    (hown : ∀ ns name, gateway.RefersTo gatewayNs ns name → ns = gatewayNs)
    {cert : FileCertConfig} (hcert : cert ∈ c.fileCerts) :
    ∃ l ∈ gateway.spec.listeners, ∃ ref ∈ l.certificateRefs, ∃ host ∈ l.hostname,
      host ∈ cert.domains ∧ cert.name = ref.name ∧ cert.cert = tlsMountDir ref.name ++ "/tls.crt" ∧
        cert.key = tlsMountDir ref.name ++ "/tls.key" := by
  have hgwNs : gateway.gwNs = gatewayNs := by rw [Gateway.gwNs, hns, Option.getD_some]
  rw [certs_eq_servedCerts hgw hc] at hcert
  obtain ⟨served, hserved, rfl⟩ := mem_map.1 hcert
  obtain ⟨key, -, hkey⟩ := mem_filterMap.1 hserved
  obtain ⟨mountName, hmount, hfirst⟩ := Option.bind_eq_some_iff.1 hkey
  obtain ⟨u, hu, rfl⟩ := Option.map_eq_some_iff.1 hfirst
  have huse := mem_of_mem_head? hu
  obtain ⟨hmem, hukey⟩ := mem_filter.1 huse
  simp only [Gateway.certUses, mem_flatMap, mem_map, Option.mem_toList] at hmem
  obtain ⟨l, hl, host, hhost, ref, href, rfl⟩ := hmem
  -- the reference the path was written for has the same key, so it has the same name
  have hwritten := KeyMap.mem_of_lastWrite hmount
  simp only [mem_flatMap, mem_map, mk.injEq, hns, Option.getD_some] at hwritten
  obtain ⟨l', hl', ref', href', hkey', rfl⟩ := hwritten
  have hname : ref'.name = ref.name := by
    rw [hown _ _ ⟨l', hl', ref', href', rfl, rfl⟩] at hkey'
    rw [beq_iff_eq, hgwNs, hown _ _ ⟨l, hl, ref, href, rfl, rfl⟩, ← hkey'] at hukey
    exact ((String.append_right_inj _).1 hukey).symm
  refine ⟨l, hl, ref, href, host, hhost, ?_, rfl, ?_, ?_⟩
  · exact mem_eraseDups.2 (mem_map_of_mem huse)
  · simp only [ServedCert.fileCert, hname]
  · simp only [ServedCert.fileCert, hname]

section Mounted

variable {lib : Libraries} {order : HashOrder} {input : RuntimePlanInput}
  (parts : PlanParts lib order input)

theorem mem_mounts_iff {m : TlsSecretMount} : m ∈ parts.plan.tlsSecretMounts ↔
    parts.gateway.RefersTo input.gatewayNamespace m.secretNamespace m.secretName ∧
      m.mountPath = tlsMountDir m.secretName :=
  mem_tlsSecretMounts_iff

theorem mountable_of_secretsMounted {c : Config} (h : SecretsMounted parts.gateway parts.plan c) :
    parts.gateway.MountableSecrets input.gatewayNamespace := by
  obtain ⟨-, ⟨vs, mounts, hbuild, hvolumes⟩, -⟩ := h
  obtain ⟨hstems, hlists⟩ := buildPodVolumesAndMounts_eq_ok.1 hbuild
  obtain ⟨rfl, rfl⟩ := mk.inj hlists
  have hmount : ∀ {ns name}, parts.gateway.RefersTo input.gatewayNamespace ns name →
      (⟨name, ns, tlsMountDir name⟩ : TlsSecretMount) ∈ parts.plan.tlsSecretMounts :=
    fun href => (mem_mounts_iff parts).2 ⟨href, rfl⟩
  -- the volume of a Secret is one that was made for a Secret with its name
  have hsecret : ∀ {ns name}, parts.gateway.RefersTo input.gatewayNamespace ns name →
      ns = input.gatewayNamespace ∧ ∃ m : TlsSecretMount,
        m.secretName = name ∧ secretVolume m ∈ podVolumes parts.plan := by
    intro ns name href
    obtain ⟨v, hv, hsource, -⟩ := hvolumes _ (hmount href)
    obtain ⟨e, he, rfl⟩ := mem_map.1 hv
    rcases mem_podVolumes he with rfl | ⟨m, -, rfl⟩
    · cases hsource
    · obtain ⟨hsame, hname⟩ := mk.inj (Option.some.inj hsource)
      exact ⟨hsame.symm, m, hname, he⟩
  refine ⟨fun ns name href => (hsecret href).1, fun ns name href => hstems _ (hmount href), ?_⟩
  intro ns name ns' name' href href' hstem
  obtain ⟨-, m, rfl, hm⟩ := hsecret href
  obtain ⟨-, m', rfl, hm'⟩ := hsecret href'
  have hsame := podVolumes_inj hm hm' (by simp only [secretVolume, hstem])
  exact (VolumeSource.secret.inj (congrArg (fun e => e.1.source) hsame)).1

theorem secretsMounted_of_mountable (hns : parts.gateway.metadata.ns = some input.gatewayNamespace)
    {c : Config}
    (hc : configFromSnapshot input.gatewayNamespace input.gatewayName input.snapshot = .ok c)
    (h : parts.gateway.MountableSecrets input.gatewayNamespace) :
    SecretsMounted parts.gateway parts.plan c := by
  refine ⟨?_, ⟨_, _, buildPodVolumesAndMounts_eq_ok.2 ⟨?_, rfl⟩, ?_⟩, ?_⟩
  · intro m hm m' hm' hpath
    obtain ⟨href, hmpath⟩ := (mem_mounts_iff parts).1 hm
    obtain ⟨href', hmpath'⟩ := (mem_mounts_iff parts).1 hm'
    rw [hmpath, hmpath'] at hpath
    exact ⟨(h.ownNs _ _ href).trans (h.ownNs _ _ href').symm, tlsMountDir_injective hpath⟩
  · intro m hm
    exact h.stems _ _ ((mem_mounts_iff parts).1 hm).1
  · intro m hm
    obtain ⟨href, hmpath⟩ := (mem_mounts_iff parts).1 hm
    have hkey : ∃ e ∈ podVolumes parts.plan, e.1.name = (secretVolume m).1.name :=
      exists_key_foldl_addNew _ hm
    obtain ⟨e, he, hname⟩ := hkey
    rcases mem_podVolumes he with rfl | ⟨m', hm', rfl⟩
    · exact absurd hname (secretVolume_name_ne m parts.plan)
    · -- the volume under the name was made for a Secret with the same name
      obtain ⟨href', hmpath'⟩ := (mem_mounts_iff parts).1 hm'
      have hsame := h.apart _ _ _ _ href' href
        (volumeStem_eq_of_name (h.stems _ _ href') (h.stems _ _ href) hname)
      refine ⟨_, mem_map_of_mem he, ?_, _, mem_map_of_mem he, rfl, ?_⟩
      · rw [h.ownNs _ _ href, ← hsame]
        rfl
      · rw [hmpath, ← hsame, ← hmpath']
        rfl
  · intro cert hcert
    obtain ⟨l, hl, ref, href, host, hhost, hdomain, hname, hpath, hkey⟩ :=
      fileCert_under_mount parts.gateway_eq hns hc h.ownNs hcert
    exact ⟨l, hl, ref, href, host, hhost, hdomain, hname, hpath, hkey,
      (mem_mounts_iff parts).2 ⟨⟨l, hl, ref, href, rfl, rfl⟩, rfl⟩⟩

end Mounted

/-- **The Secrets are mounted as referred to** exactly when they are all in the namespace of the
Gateway and their names can be told apart by their first 59 bytes. -/
theorem secretsMounted_iff {lib : Libraries} {order : HashOrder} {input : RuntimePlanInput}
    {p : GatewayRuntimePlan} (hp : plan lib order input = .ok p) {gateway : Gateway}
    (hgw : input.snapshot.gateway input.gatewayNamespace input.gatewayName = some gateway)
    (hns : gateway.metadata.ns = some input.gatewayNamespace) {c : Config}
    (hc : configFromSnapshot input.gatewayNamespace input.gatewayName input.snapshot = .ok c) :
    SecretsMounted gateway p c ↔ gateway.MountableSecrets input.gatewayNamespace := by
  obtain ⟨parts, rfl⟩ := plan_eq_ok.1 hp
  obtain rfl : parts.gateway = gateway := Option.some.inj (parts.gateway_eq.symm.trans hgw)
  exact ⟨mountable_of_secretsMounted parts, secretsMounted_of_mountable parts hns hc⟩

/-! ### Secrets with one name -/

def soloGateway (name : String) (listeners : List Listener) : Gateway where
  metadata := { ns := some "team", name := some name, uid := some "u1", generation := some 1 }
  spec := { gatewayClassName := "wicket", listeners := listeners }

def soloInput (name : String) (listeners : List Listener) : RuntimePlanInput where
  gatewayNamespace := "team"
  gatewayName := name
  snapshot :=
    { gateways := KeyMap.collect [(GatewayState.key "team" name, soloGateway name listeners)] }
  controllerConfig := {}
  observed := {}

theorem exists_soloPlan {lib : Libraries} (htoml : ∀ c, ∃ text, lib.tomlToString c = .ok text)
    {name : String} {listeners : List Listener}
    (hnames : duplicateListenerName [] listeners = none)
    (hbase : ∃ base, ownedObjectBaseName lib name = .ok base) :
    ∃ c, configFromSnapshot "team" name (soloInput name listeners).snapshot = .ok c ∧
      ∃ parts : PlanParts lib .asListed (soloInput name listeners),
        parts.gateway = soloGateway name listeners := by
  have hgw : (soloInput name listeners).snapshot.gateway "team" name =
      some (soloGateway name listeners) := by
    simp [PlannerSnapshot.gateway, soloInput, KeyMap.lookup_collect, KeyMap.lastWrite]
  obtain ⟨c, hc⟩ := @exists_configFromSnapshot (soloInput name listeners).snapshot rfl "team" name
  obtain ⟨text, htext⟩ := htoml c
  obtain ⟨text', htext'⟩ := htoml (c.inOrder .asListed)
  have hplannable : Plannable lib (soloInput name listeners) :=
    ⟨⟨_, hgw, rfl, rfl, hnames⟩, hbase, ⟨c, text, hc, htext⟩⟩
  obtain ⟨parts, -⟩ := hplannable.exists_parts (configTomlFromSnapshot_eq_ok.2 ⟨c, hc, htext'⟩)
  exact ⟨c, hc, parts, Option.some.inj (parts.gateway_eq.symm.trans hgw)⟩

theorem orderedLibraries_toml (c : Config) : ∃ text, orderedLibraries.tomlToString c = .ok text :=
  ⟨_, rfl⟩

def certListeners (refs : List SecretObjectReference) : List Listener :=
  [{ name := "https", hostname := some "shop.example.com", port := 443, protocol := .HTTPS
     tls := some { certificateRefs := refs } }]

theorem refersTo_certListeners {refs : List SecretObjectReference} {ns name : String} :
    (soloGateway "edge" (certListeners refs)).RefersTo "team" ns name ↔
      ∃ ref ∈ refs, ref.ns.getD "team" = ns ∧ ref.name = name := by
  simp [Gateway.RefersTo, soloGateway, certListeners, Listener.certificateRefs]

theorem certGateway_mounted : ∃ p c,
    plan orderedLibraries .asListed (soloInput "edge" (certListeners [{ name := "cert" }])) =
        .ok p ∧
      configFromSnapshot "team" "edge"
        (soloInput "edge" (certListeners [{ name := "cert" }])).snapshot = .ok c ∧
      SecretsMounted (soloGateway "edge" (certListeners [{ name := "cert" }])) p c := by
  obtain ⟨c, hc, parts, hgw⟩ := @exists_soloPlan _ orderedLibraries_toml "edge"
    (certListeners [{ name := "cert" }]) rfl ⟨"wicket-gw-edge", rfl⟩
  refine ⟨parts.plan, c, plan_eq_ok.2 ⟨parts, rfl⟩, hc, ?_⟩
  refine (secretsMounted_iff (plan_eq_ok.2 ⟨parts, rfl⟩) (hgw ▸ parts.gateway_eq) rfl hc).2 ?_
  have hname : ∀ {ns name}, (soloGateway "edge" (certListeners [{ name := "cert" }])).RefersTo
      "team" ns name → ns = "team" ∧ name = "cert" := by
    intro ns name href
    obtain ⟨ref, hmem, rfl, rfl⟩ := refersTo_certListeners.1 href
    rw [List.mem_singleton.1 hmem]
    exact ⟨rfl, rfl⟩
  refine ⟨fun ns name href => (hname href).1, fun ns name href => ?_, ?_⟩
  · rw [(hname href).2]
    decide
  · intro ns name ns' name' href href' _
    rw [(hname href).2, (hname href').2]

def twoNamespaces : List SecretObjectReference :=
  [{ name := "cert", ns := some "a" }, { name := "cert", ns := some "b" }]

def twoRegions : List SecretObjectReference :=
  [{ name := "wildcard-certificate-of-the-storefront-example-com-region-eu-1" },
    { name := "wildcard-certificate-of-the-storefront-example-com-region-eu-2" }]

/-- Neither are mounted as referred to: the first two have one path and one volume, which is made
from a third Secret, and of the other two one has no volume. -/
theorem certGateway_not_mounted :
    (∃ p c, plan orderedLibraries .asListed (soloInput "edge" (certListeners twoNamespaces)) =
        .ok p ∧
      configFromSnapshot "team" "edge" (soloInput "edge" (certListeners twoNamespaces)).snapshot =
        .ok c ∧
      ¬SecretsMounted (soloGateway "edge" (certListeners twoNamespaces)) p c) ∧
    ∃ p c, plan orderedLibraries .asListed (soloInput "edge" (certListeners twoRegions)) = .ok p ∧
      configFromSnapshot "team" "edge" (soloInput "edge" (certListeners twoRegions)).snapshot =
        .ok c ∧
      ¬SecretsMounted (soloGateway "edge" (certListeners twoRegions)) p c := by
  refine ⟨?_, ?_⟩
  · obtain ⟨c, hc, parts, hgw⟩ := @exists_soloPlan _ orderedLibraries_toml "edge"
      (certListeners twoNamespaces) rfl ⟨"wicket-gw-edge", rfl⟩
    refine ⟨parts.plan, c, plan_eq_ok.2 ⟨parts, rfl⟩, hc, fun h => ?_⟩
    rw [← hgw] at h
    have hmountable := mountable_of_secretsMounted parts h
    rw [hgw] at hmountable
    have hown := hmountable.ownNs "a" "cert"
      (refersTo_certListeners.2 ⟨_, List.mem_cons_self, rfl, rfl⟩)
    exact absurd hown (by decide)
  · obtain ⟨c, hc, parts, hgw⟩ := @exists_soloPlan _ orderedLibraries_toml "edge"
      (certListeners twoRegions) rfl ⟨"wicket-gw-edge", rfl⟩
    refine ⟨parts.plan, c, plan_eq_ok.2 ⟨parts, rfl⟩, hc, fun h => ?_⟩
    rw [← hgw] at h
    have hmountable := mountable_of_secretsMounted parts h
    rw [hgw] at hmountable
    have hstem := @volumeStem_append "wildcard-certificate-of-the-storefront-example-com-region-e"
      (by decide)
    have hsame := hmountable.apart "team" _ "team" _
      (refersTo_certListeners.2 ⟨_, List.mem_cons_self, rfl, rfl⟩)
      (refersTo_certListeners.2 ⟨_, List.mem_cons_of_mem _ List.mem_cons_self, rfl, rfl⟩)
      ((hstem "u-1").trans (hstem "u-2").symm)
    exact absurd hsame (by decide)

end Wicket
