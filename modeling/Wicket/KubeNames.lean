/-
**Names of a Gateway in the objects of its proxy.**

Names of objects are cut and marked with a hash, so they fit.  Labels and ports take names as they
are, and volumes their first 59 bytes, whatever these are.
-/

import Wicket.PodTemplate
import Wicket.SecretMounts

namespace Wicket

open List Text Except
open Check
open GatewayRuntimePlanner (PlanParts plan plan_eq_ok)

/-! ### Accepted names -/

/-- A label after RFC 1123: at most 63 bytes, and no dots. -/
def isDnsLabel (s : String) : Bool := decide (s.utf8ByteSize ≤ 63) && isLabelText s

variable {c : Char} {n : ℕ} {lib : Libraries} {s : String} {p : GatewayRuntimePlan}

theorem mem_of_validName (h : validName s = true) (hc : c ∈ s.toList) :
    isAlnum c = true ∨ c = '-' ∨ c = '.' := by
  simp only [validName, Bool.and_eq_true, all_eq_true] at h
  rcases @eq_or_mem_splitOn _ _ c '.' _ hc with hdot | ⟨part, hpart, hmem⟩
  · exact .inr (.inr hdot)
  · have htext := h.1 (String.ofList part) (mem_map_of_mem hpart)
    simp only [isLabelText, Bool.and_eq_true, all_eq_true, String.toList_ofList] at htext
    have hchar := htext.1.1 c hmem
    rw [Bool.or_eq_true, beq_iff_eq] at hchar
    exact hchar.imp_right Or.inl

theorem utf8Size_of_validName (h : validName s = true) : ∀ c ∈ s.toList, c.utf8Size = 1 := by
  intro c hc
  rcases mem_of_validName h hc with halnum | rfl | rfl
  · exact utf8Size_of_isAlphanum (isAlphanum_of_isAlnum halnum)
  · rfl
  · rfl

theorem toList_ne_nil_of_validName (h : validName s = true) : s.toList ≠ [] := by
  intro hnil
  rw [validName, split, hnil] at h
  simp [isLabelText] at h

theorem bytePrefix_of_validName (h : validName s = true) (hn : n ≤ s.utf8ByteSize) :
    bytePrefix s n = some (String.ofList (s.toList.take n)) := by
  have hsize := utf8ByteSize_of_forall (utf8Size_of_validName h)
  rw [String.ofList_toList] at hsize
  rw [bytePrefix_eq_some]
  constructor
  · rw [utf8ByteSize_of_forall fun c hc =>
      utf8Size_of_validName h c (mem_of_mem_take hc), length_take]
    omega
  · refine ⟨String.ofList (s.toList.drop n), ?_⟩
    rw [← String.ofList_append, take_append_drop, String.ofList_toList]

theorem isLabelText_append_iff {p : String} {cs : List Char} (hp : isLabelText p = true)
    (hcs : cs ≠ []) :
    isLabelText (p ++ "-" ++ String.ofList cs) = true ↔
      (∀ c ∈ cs, (isAlnum c || c == '-') = true) ∧ cs.getLast?.any isAlnum = true := by
  simp only [isLabelText, Bool.and_eq_true, all_eq_true] at hp
  obtain ⟨⟨hchars, hhead⟩, -⟩ := hp
  have htext : (p ++ "-" ++ String.ofList cs).toList = p.toList ++ '-' :: cs := by
    simp [String.toList_append]
  have hfirst : (p.toList ++ '-' :: cs).head?.any isAlnum = true := by
    cases hlist : p.toList with
    | nil =>
      rw [hlist] at hhead
      cases hhead
    | cons c l =>
      rw [hlist] at hhead
      exact hhead
  have hlast : (p.toList ++ '-' :: cs).getLast? = cs.getLast? := by
    rw [getLast?_append, getLast?_cons, getLast?_eq_some_getLast hcs]
    rfl
  have hall : (∀ c ∈ p.toList ++ '-' :: cs, (isAlnum c || c == '-') = true) ↔
      ∀ c ∈ cs, (isAlnum c || c == '-') = true := by
    rw [forall_mem_append, forall_mem_cons]
    exact ⟨fun h => h.2.2, fun h => ⟨hchars, rfl, h⟩⟩
  rw [isLabelText, htext, hlast, hfirst]
  simp only [Bool.and_true, Bool.and_eq_true, all_eq_true, hall]

theorem isDnsLabel_append_iff {p : String} (hs : validName s = true) (hn : 0 < n)
    (hp : isLabelText p = true) (hsize : p.utf8ByteSize + 1 + n ≤ 63) :
    isDnsLabel (p ++ "-" ++ String.ofList (s.toList.take n)) = true ↔
      '.' ∉ s.toList.take n ∧ (s.toList.take n).getLast?.any isAlnum = true := by
  have hne : s.toList.take n ≠ [] := by
    rw [ne_eq, take_eq_nil_iff]
    exact not_or.2 ⟨by omega, toList_ne_nil_of_validName hs⟩
  have hlength : (p ++ "-" ++ String.ofList (s.toList.take n)).utf8ByteSize ≤ 63 := by
    rw [String.utf8ByteSize_append, String.utf8ByteSize_append,
      utf8ByteSize_of_forall fun c hc =>
        utf8Size_of_validName hs c (mem_of_mem_take hc), length_take,
      show "-".utf8ByteSize = 1 from rfl]
    omega
  -- of the characters of the name only a dot is not allowed in a label
  have hall : (∀ c ∈ s.toList.take n, (isAlnum c || c == '-') = true) ↔ '.' ∉ s.toList.take n := by
    constructor
    · intro h hdot
      exact absurd (h '.' hdot) (by decide)
    · intro hdot c hc
      rcases mem_of_validName hs (mem_of_mem_take hc) with halnum | rfl | rfl
      · rw [halnum, Bool.true_or]
      · rfl
      · exact absurd hc hdot
  rw [isDnsLabel, Bool.and_eq_true, isLabelText_append_iff hp hne, hall, decide_eq_true_eq]
  exact and_iff_right hlength

/-! ### Names of objects -/

def Libraries.HexHash (lib : Libraries) : Prop :=
  ∀ s, ∀ c ∈ (lib.sha256Hex s).toList, c.isDigit = true ∨ c ∈ ['a', 'b', 'c', 'd', 'e', 'f']

theorem utf8ByteSize_hex6_le (h : lib.HexHash) (data : String) :
    (hex6 lib data).utf8ByteSize ≤ 6 := by
  have hone : ∀ c ∈ (lib.sha256Hex data).toList.take 6, c.utf8Size = 1 := by
    intro c hc
    refine utf8Size_of_isAlphanum <| isAlphanum_of_isAlnum ?_
    rcases h data c (mem_of_mem_take hc) with hdigit | hletter
    · simp [isAlnum, hdigit]
    · revert hletter
      simp only [mem_cons, not_mem_nil, or_false]
      rintro (rfl | rfl | rfl | rfl | rfl | rfl) <;> rfl
  rw [hex6, utf8ByteSize_of_forall hone, length_take]
  omega

theorem utf8ByteSize_ownedObjectBaseName_le (h : lib.HexHash) {gatewayName base : String}
    (hbase : ownedObjectBaseName lib gatewayName = .ok base) :
    base.utf8ByteSize ≤ maxBaseNameLen := by
  rw [ownedObjectBaseName] at hbase
  split at hbase
  · rename_i hle
    rw [← ok.inj hbase]
    exact hle
  · split at hbase
    · rename_i hcut
      obtain ⟨hsize, -⟩ := bytePrefix_eq_some.1 hcut
      have hhex := utf8ByteSize_hex6_le h (objectNamePrefix ++ gatewayName)
      rw [← ok.inj hbase, String.utf8ByteSize_append, String.utf8ByteSize_append,
        String.utf8ByteSize_append, hsize]
      have hpre : objectNamePrefix.utf8ByteSize = 10 := rfl
      have hdash : "-".utf8ByteSize = 1 := rfl
      rw [maxBaseNameLen, hpre, hdash]
      omega
    · cases hbase

/-! ### What has to hold -/

def ownedMetas (p : GatewayRuntimePlan) : List OwnedObjectMeta :=
  [ownedObjectMeta p.serviceAccountName p none,
    ownedObjectMeta p.configMapName p (some [.mk configRevisionAnnotation p.configHash]),
    ownedObjectMeta p.serviceName p none, deploymentMeta p]

def LabelsFit (labels : List (String × String)) : Prop := ∀ e ∈ labels, e.2.utf8ByteSize ≤ 63

structure ObjectsValid (p : GatewayRuntimePlan) : Prop where
  metas : ∀ m ∈ ownedMetas p, m.name.utf8ByteSize ≤ 63 ∧ LabelsFit m.labels
  service : LabelsFit (serviceSpec p).selector
  deployment : ∀ s, renderDeploymentSpec p = .ok s →
    LabelsFit s.selector ∧ LabelsFit s.template.labels ∧
    (∀ c ∈ s.template.spec.containers, ∀ port ∈ c.ports, port.name.utf8ByteSize ≤ 15) ∧
    ∀ v ∈ s.template.spec.volumes, isDnsLabel v.name = true

structure Gateway.ValidNames (gateway : Gateway) (gatewayNs gatewayName : String) : Prop where
  name : validName gatewayName = true
  listeners : ∀ l ∈ gateway.spec.listeners, validName l.name = true
  secrets : ∀ ns name, gateway.RefersTo gatewayNs ns name → validName name = true

/-- The first 59 characters of a name have no dot, and end with a letter or a digit. -/
def stemIsLabel (secretName : String) : Bool :=
  decide ('.' ∉ secretName.toList.take 59) && (secretName.toList.take 59).getLast?.any isAlnum

/-- The names fit where they are used.  Without a Deployment only the labels matter. -/
structure NamesFit (gateway : Gateway) (gatewayNs gatewayName : String) (replicas : UInt32) :
    Prop where
  name : gatewayName.utf8ByteSize ≤ 63
  ns : gatewayNs.utf8ByteSize ≤ 63
  ports : replicas.toNat < 2 ^ 31 → ∀ e ∈ gateway.exposedPorts, e.1.utf8ByteSize ≤ 15
  secrets : replicas.toNat < 2 ^ 31 →
    ∀ ns name, gateway.RefersTo gatewayNs ns name → stemIsLabel name = true

/-! ### Labels and volumes -/

theorem labelsFit_managedLabels :
    LabelsFit (managedLabels p) ↔
      p.gatewayName.utf8ByteSize ≤ 63 ∧ p.gatewayNamespace.utf8ByteSize ≤ 63 := by
  have hfixed : "gateway-runtime".utf8ByteSize ≤ 63 ∧ "wicket-controller".utf8ByteSize ≤ 63 ∧
      "wicket".utf8ByteSize ≤ 63 := by decide
  simp only [LabelsFit, managedLabels, forall_mem_cons, not_mem_nil, false_implies,
    implies_true, and_true, hfixed, true_and]
  constructor
  · rintro ⟨hname, -, hns⟩
    exact ⟨hname, hns⟩
  · rintro ⟨hname, hns⟩
    exact ⟨hname, hname, hns⟩

theorem volumeStem_of_validName {name : String} (h : validName name = true) :
    volumeStem name = some (String.ofList (name.toList.take 59)) := by
  have hsize := utf8ByteSize_of_forall (utf8Size_of_validName h)
  rw [String.ofList_toList] at hsize
  rw [volumeStem]
  split
  · rw [take_of_length_le (by omega), String.ofList_toList]
  · exact bytePrefix_of_validName h (by omega)

theorem secretVolume_isDnsLabel_iff {m : TlsSecretMount} (h : validName m.secretName = true) :
    isDnsLabel (secretVolume m).1.name = true ↔ stemIsLabel m.secretName = true := by
  have hname : (secretVolume m).1.name =
      "tls" ++ "-" ++ String.ofList (m.secretName.toList.take 59) := by
    simp only [secretVolume, volumeStem_of_validName h, Option.getD_some]
    rfl
  rw [hname, isDnsLabel_append_iff h (by omega) (by decide) (by decide), stemIsLabel,
    Bool.and_eq_true, decide_eq_true_eq]

theorem volumes_isDnsLabel_iff :
    (∀ v ∈ (podVolumes p).map Prod.fst, isDnsLabel v.name = true) ↔
      ∀ m ∈ p.tlsSecretMounts, isDnsLabel (secretVolume m).1.name = true := by
  constructor
  · intro h m hm
    have hkey : ∃ e ∈ podVolumes p, e.1.name = (secretVolume m).1.name :=
      exists_key_foldl_addNew _ hm
    obtain ⟨e, he, hname⟩ := hkey
    rw [← hname]
    exact h e.1 (mem_map_of_mem he)
  · intro h v hv
    obtain ⟨e, he, rfl⟩ := mem_map.1 hv
    rcases mem_podVolumes he with rfl | ⟨m, hm, rfl⟩
    · exact (by decide : isDnsLabel "config" = true)
    · exact h m hm

/-! ### The rendered objects -/

theorem renderDeploymentSpec_eq_ok {s : DeploymentSpec} :
    renderDeploymentSpec p = .ok s ↔ p.runtimeMetadata.replicas.toNat < 2 ^ 31 ∧
      (∀ m ∈ p.tlsSecretMounts, (volumeStem m.secretName).isSome = true) ∧
      s = deploymentSpec p p.runtimeMetadata.replicas.toNat ((podVolumes p).map Prod.fst)
        ((podVolumes p).map Prod.snd) := by
  simp only [renderDeploymentSpec, bind_eq_ok, mapError_eq_ok, buildPodVolumesAndMounts_eq_ok,
    replicasOf]
  constructor
  · rintro ⟨replicas, hreplicas, r, ⟨hstems, rfl⟩, hs⟩
    split at hreplicas
    · rename_i hlt
      rw [← ok.inj hreplicas] at hs
      exact ⟨hlt, hstems, (ok.inj hs).symm⟩
    · cases hreplicas
  · rintro ⟨hlt, hstems, rfl⟩
    exact ⟨_, if_pos hlt, _, ⟨hstems, rfl⟩, rfl⟩

section Objects

variable {lib : Libraries} {order : HashOrder} {input : RuntimePlanInput}
  (parts : PlanParts lib order input)

theorem utf8ByteSize_ownedMetas_le (h : lib.HexHash) :
    ∀ m ∈ ownedMetas parts.plan, m.name.utf8ByteSize ≤ 63 := by
  have hbase := utf8ByteSize_ownedObjectBaseName_le h parts.baseName_eq
  rw [maxBaseNameLen] at hbase
  have hsuffix : ∀ suffix : String, suffix.utf8ByteSize ≤ 7 →
      (parts.baseName ++ suffix).utf8ByteSize ≤ 63 := by
    intro suffix hle
    rw [String.utf8ByteSize_append]
    omega
  intro m hm
  simp only [ownedMetas, mem_cons, not_mem_nil, or_false] at hm
  rcases hm with rfl | rfl | rfl | rfl
  · exact hsuffix "-sa" (by decide)
  · exact hsuffix "-config" (by decide)
  · exact hsuffix "-svc" (by decide)
  · exact hsuffix "-deploy" (by decide)

theorem containerPorts_fit_iff {replicas : ℤ} {vs : List Volume} {mounts : List VolumeMount} :
    (∀ c ∈ (deploymentSpec parts.plan replicas vs mounts).template.spec.containers,
        ∀ port ∈ c.ports, port.name.utf8ByteSize ≤ 15) ↔
      ∀ e ∈ parts.gateway.exposedPorts, e.1.utf8ByteSize ≤ 15 := by
  have hports : parts.plan.servicePorts = parts.gateway.exposedPorts.map servicePortOf :=
    servicePorts_eq parts.servicePorts_eq
  simp only [deploymentSpec, forall_mem_cons, not_mem_nil, false_implies, implies_true,
    and_true, hports, map_map, forall_mem_map]
  rfl

theorem volumes_fit_iff
    (hvalid : parts.gateway.ValidNames input.gatewayNamespace input.gatewayName) :
    (∀ v ∈ (podVolumes parts.plan).map Prod.fst, isDnsLabel v.name = true) ↔
      ∀ ns name, parts.gateway.RefersTo input.gatewayNamespace ns name →
        stemIsLabel name = true := by
  rw [volumes_isDnsLabel_iff]
  constructor
  · intro h ns name href
    have hm : ⟨name, ns, tlsMountDir name⟩ ∈ parts.plan.tlsSecretMounts :=
      (mem_mounts_iff parts).2 ⟨href, rfl⟩
    have hiff := @secretVolume_isDnsLabel_iff ⟨name, ns, tlsMountDir name⟩
      (hvalid.secrets _ _ href)
    exact hiff.1 (h _ hm)
  · intro h m hm
    have href := ((mem_mounts_iff parts).1 hm).1
    exact (secretVolume_isDnsLabel_iff (hvalid.secrets _ _ href)).2 (h _ _ href)

theorem namesFit_of_objectsValid
    (hvalid : parts.gateway.ValidNames input.gatewayNamespace input.gatewayName)
    (h : ObjectsValid parts.plan) :
    NamesFit parts.gateway input.gatewayNamespace input.gatewayName
      input.controllerConfig.defaultReplicas := by
  obtain ⟨hmetas, -, hdeploy⟩ := h
  have hstems : ∀ m ∈ parts.plan.tlsSecretMounts, (volumeStem m.secretName).isSome = true := by
    intro m hm
    rw [volumeStem_of_validName (hvalid.secrets _ _ ((mem_mounts_iff parts).1 hm).1)]
    rfl
  obtain ⟨hname, hns⟩ := labelsFit_managedLabels.1 (hmetas _ mem_cons_self).2
  -- with few enough replicas there is a Deployment
  have hrendered := fun hlt => hdeploy _ (renderDeploymentSpec_eq_ok.2 ⟨hlt, hstems, rfl⟩)
  exact ⟨hname, hns, fun hlt => (containerPorts_fit_iff parts).1 (hrendered hlt).2.2.1,
    fun hlt => (volumes_fit_iff parts hvalid).1 (hrendered hlt).2.2.2⟩

theorem objectsValid_of_namesFit (hhex : lib.HexHash)
    (hvalid : parts.gateway.ValidNames input.gatewayNamespace input.gatewayName)
    (h : NamesFit parts.gateway input.gatewayNamespace input.gatewayName
      input.controllerConfig.defaultReplicas) :
    ObjectsValid parts.plan := by
  obtain ⟨hname, hns, hports, hsecrets⟩ := h
  have hfit : LabelsFit (managedLabels parts.plan) := labelsFit_managedLabels.2 ⟨hname, hns⟩
  refine ⟨?_, hfit, ?_⟩
  · intro m hm
    refine ⟨utf8ByteSize_ownedMetas_le parts hhex m hm, ?_⟩
    simp only [ownedMetas, mem_cons, not_mem_nil, or_false] at hm
    rcases hm with rfl | rfl | rfl | rfl <;> exact hfit
  · intro s hs
    obtain ⟨hlt, -, rfl⟩ := renderDeploymentSpec_eq_ok.1 hs
    exact ⟨hfit, hfit, (containerPorts_fit_iff parts).2 (hports hlt),
      (volumes_fit_iff parts hvalid).2 (hsecrets hlt)⟩

end Objects

/-- **The rendered objects are valid** exactly when the names fit where they are used. -/
theorem objectsValid_iff {lib : Libraries} (hhex : lib.HexHash) {order : HashOrder}
    {input : RuntimePlanInput} {p : GatewayRuntimePlan} (hp : plan lib order input = .ok p)
    {gateway : Gateway}
    (hgw : input.snapshot.gateway input.gatewayNamespace input.gatewayName = some gateway)
    (hvalid : gateway.ValidNames input.gatewayNamespace input.gatewayName) :
    ObjectsValid p ↔ NamesFit gateway input.gatewayNamespace input.gatewayName
      input.controllerConfig.defaultReplicas := by
  obtain ⟨parts, rfl⟩ := plan_eq_ok.1 hp
  obtain rfl : parts.gateway = gateway := Option.some.inj (parts.gateway_eq.symm.trans hgw)
  exact ⟨namesFit_of_objectsValid parts hvalid, objectsValid_of_namesFit parts hhex hvalid⟩

/-! ### Names that do not fit -/

def hexLibraries : Libraries := { orderedLibraries with sha256Hex := fun _ => "0123456789abcdef" }

theorem hexLibraries_hexHash : hexLibraries.HexHash := by
  have hall : ("0123456789abcdef".toList.all fun c =>
      decide (c.isDigit = true ∨ c ∈ ['a', 'b', 'c', 'd', 'e', 'f'])) = true := by decide
  intro s c hc
  exact of_decide_eq_true (all_eq_true.1 hall c hc)

theorem hexLibraries_toml (c : Config) : ∃ text, hexLibraries.tomlToString c = .ok text :=
  ⟨_, rfl⟩

theorem validNames_certListeners {name : String} {refs : List SecretObjectReference}
    (hname : validName name = true) (hrefs : ∀ ref ∈ refs, validName ref.name = true) :
    (soloGateway name (certListeners refs)).ValidNames "team" name where
  name := hname
  listeners := by
    intro l hl
    obtain rfl := mem_singleton.1 hl
    exact (by decide : validName "https" = true)
  secrets := by
    rintro ns secretName ⟨l, hl, ref, href, -, rfl⟩
    obtain rfl := mem_singleton.1 hl
    exact hrefs ref href

theorem edge_objectsValid : ∃ p,
    plan hexLibraries .asListed (soloInput "edge" (certListeners [{ name := "cert" }])) = .ok p ∧
      (soloGateway "edge" (certListeners [{ name := "cert" }])).ValidNames "team" "edge" ∧
      ObjectsValid p := by
  obtain ⟨c, hc, parts, hgw⟩ := @exists_soloPlan _ hexLibraries_toml "edge"
    (certListeners [{ name := "cert" }]) rfl ⟨"wicket-gw-edge", rfl⟩
  have hvalid := @validNames_certListeners "edge" [{ name := "cert" }] (by decide) (by decide)
  refine ⟨parts.plan, plan_eq_ok.2 ⟨parts, rfl⟩, hvalid, ?_⟩
  refine (objectsValid_iff hexLibraries_hexHash (plan_eq_ok.2 ⟨parts, rfl⟩)
    (hgw ▸ parts.gateway_eq) hvalid).2 ⟨by decide, by decide, fun _ => by decide, ?_⟩
  intro _ ns name href
  obtain ⟨ref, hmem, -, rfl⟩ := refersTo_certListeners.1 href
  rw [List.mem_singleton.1 hmem]
  decide

def longName : String := "storefront-of-the-example-company-for-all-regions-of-the-union-e"

def longListeners : List Listener :=
  [{ name := "https-storefront", port := 443, protocol := .HTTPS }]

/-- Names that the API server has accepted and that do not fit: a Gateway with a name of 64 bytes,
a listener with one of 16, and a Secret with a dot in it. -/
theorem edge_not_objectsValid :
    (∃ p, plan hexLibraries .asListed (soloInput longName (certListeners [])) = .ok p ∧
      (soloGateway longName (certListeners [])).ValidNames "team" longName ∧ ¬ObjectsValid p) ∧
    (∃ p, plan hexLibraries .asListed (soloInput "edge" longListeners) = .ok p ∧
      (soloGateway "edge" longListeners).ValidNames "team" "edge" ∧ ¬ObjectsValid p) ∧
    ∃ p, plan hexLibraries .asListed
        (soloInput "edge" (certListeners [{ name := "shop.example.com" }])) = .ok p ∧
      (soloGateway "edge" (certListeners [{ name := "shop.example.com" }])).ValidNames "team"
        "edge" ∧
      ¬ObjectsValid p := by
  refine ⟨?_, ?_, ?_⟩
  · obtain ⟨c, hc, parts, hgw⟩ := @exists_soloPlan _ hexLibraries_toml longName
      (certListeners []) rfl ⟨_, rfl⟩
    have hvalid := @validNames_certListeners longName [] (by decide) (by decide)
    refine ⟨parts.plan, plan_eq_ok.2 ⟨parts, rfl⟩, hvalid, fun h => ?_⟩
    have hfit := namesFit_of_objectsValid parts (hgw ▸ hvalid) h
    exact absurd hfit.name (by decide)
  · have hvalid : (soloGateway "edge" longListeners).ValidNames "team" "edge" := by
      refine ⟨by decide, ?_, ?_⟩
      · intro l hl
        obtain rfl := List.mem_singleton.1 hl
        exact (by decide : validName "https-storefront" = true)
      · rintro ns name ⟨l, hl, ref, href, -⟩
        obtain rfl := List.mem_singleton.1 hl
        cases href
    obtain ⟨c, hc, parts, hgw⟩ := @exists_soloPlan _ hexLibraries_toml "edge"
      longListeners rfl ⟨"wicket-gw-edge", rfl⟩
    refine ⟨parts.plan, plan_eq_ok.2 ⟨parts, rfl⟩, hvalid, fun h => ?_⟩
    have hfit := namesFit_of_objectsValid parts (hgw ▸ hvalid) h
    rw [hgw] at hfit
    exact absurd (hfit.ports (by decide)) (by decide)
  · obtain ⟨c, hc, parts, hgw⟩ := @exists_soloPlan _ hexLibraries_toml "edge"
      (certListeners [{ name := "shop.example.com" }]) rfl ⟨"wicket-gw-edge", rfl⟩
    have hvalid := @validNames_certListeners "edge" [{ name := "shop.example.com" }] (by decide)
      (by decide)
    refine ⟨parts.plan, plan_eq_ok.2 ⟨parts, rfl⟩, hvalid, fun h => ?_⟩
    have hfit := namesFit_of_objectsValid parts (hgw ▸ hvalid) h
    rw [hgw] at hfit
    have hstem := hfit.secrets (by decide) "team" "shop.example.com"
      (refersTo_certListeners.2 ⟨_, List.mem_cons_self, rfl, rfl⟩)
    exact absurd hstem (by decide)

end Wicket
