/-
**What the hash of the specification covers.**

The rendered Deployment and Service read the names of the Gateway, the hash, and the fields that are
hashed.
-/

import Wicket.HotReload
import Wicket.RuntimeCycle

namespace Wicket

open GatewayRuntimePlanner ManagedFields.Object GatewayRuntimePlan

/-! ### The rendered specification -/

/-- The specification of the Deployment, as it is applied. -/
def renderDeploymentSpec (p : GatewayRuntimePlan) : Except (Failure ApplyError) DeploymentSpec := do
  let replicas ← replicasOf p
  let (volumes, volumeMounts) ← (buildPodVolumesAndMounts p).mapError .panic
  .ok (deploymentSpec p replicas volumes volumeMounts)

theorem deploymentFields_eq (p : GatewayRuntimePlan) :
    deploymentFields p =
      (renderDeploymentSpec p).map fun s => (deploymentMeta p).fields ++ s.fields := by
  rw [deploymentFields, renderDeploymentSpec]
  cases replicasOf p with
  | error e => rfl
  | ok replicas => cases buildPodVolumesAndMounts p <;> rfl

/-- Two plans with the same values of everything that the pods are rendered from. -/
structure SameRender (p p' : GatewayRuntimePlan) : Prop where
  gatewayNamespace : p'.gatewayNamespace = p.gatewayNamespace
  gatewayName : p'.gatewayName = p.gatewayName
  configMapName : p'.configMapName = p.configMapName
  serviceAccountName : p'.serviceAccountName = p.serviceAccountName
  deploymentName : p'.deploymentName = p.deploymentName
  specHash : p'.specHash = p.specHash
  image : p'.runtimeMetadata.image = p.runtimeMetadata.image
  replicas : p'.runtimeMetadata.replicas = p.runtimeMetadata.replicas
  resources : p'.runtimeMetadata.resources.toList = p.runtimeMetadata.resources.toList
  nodeSelector : p'.runtimeMetadata.nodeSelector.toList = p.runtimeMetadata.nodeSelector.toList
  serviceType : p'.serviceType = p.serviceType
  servicePorts : p'.servicePorts = p.servicePorts
  tlsSecretMounts : p'.tlsSecretMounts = p.tlsSecretMounts

namespace SameRender

variable {p p' : GatewayRuntimePlan}

theorem managedLabels_eq (h : SameRender p p') : managedLabels p' = managedLabels p := by
  rw [managedLabels, managedLabels, h.gatewayName, h.gatewayNamespace]

theorem deploymentSpec_eq (h : SameRender p p') (replicas : ℤ) (volumes : List Volume)
    (volumeMounts : List VolumeMount) :
    deploymentSpec p' replicas volumes volumeMounts =
      deploymentSpec p replicas volumes volumeMounts := by
  have hresources : buildResourceRequirements p'.runtimeMetadata.resources =
      buildResourceRequirements p.runtimeMetadata.resources := by
    simp only [buildResourceRequirements, resourceSection, h.resources]
  have hempty : p'.runtimeMetadata.nodeSelector.isEmpty =
      p.runtimeMetadata.nodeSelector.isEmpty := by
    rw [← Std.TreeMap.isEmpty_toList, ← Std.TreeMap.isEmpty_toList, h.nodeSelector]
  simp only [deploymentSpec, podTemplateLabels, h.managedLabels_eq, h.specHash,
    h.serviceAccountName, h.image, h.servicePorts, hresources, hempty, h.nodeSelector]

theorem renderDeploymentSpec_eq (h : SameRender p p') :
    renderDeploymentSpec p' = renderDeploymentSpec p := by
  have hreplicas : replicasOf p' = replicasOf p := by rw [replicasOf, replicasOf, h.replicas]
  have hvolumes : buildPodVolumesAndMounts p' = buildPodVolumesAndMounts p := by
    rw [buildPodVolumesAndMounts, buildPodVolumesAndMounts, h.configMapName, h.tlsSecretMounts]
  simp only [renderDeploymentSpec, hreplicas, hvolumes, h.deploymentSpec_eq]

theorem serviceSpec_eq (h : SameRender p p') : serviceSpec p' = serviceSpec p := by
  rw [serviceSpec, serviceSpec, h.managedLabels_eq, h.serviceType, h.servicePorts]

end SameRender

/-! ### Two plans of one Gateway -/

section Plans

variable {lib : Libraries} {order order' : HashOrder} {input input' : RuntimePlanInput}
  {p p' : GatewayRuntimePlan}

theorem specHash_of_plan (hp : plan lib order input = .ok p) :
    p.specHash = specHashOf lib p.runtimeMetadata p.serviceType p.servicePorts
      p.tlsSecretMounts := by
  obtain ⟨parts, rfl⟩ := plan_eq_ok.1 hp
  rfl

theorem names_of_plan (hp : plan lib order input = .ok p) :
    ∃ base, ownedObjectBaseName lib p.gatewayName = .ok base ∧
      p.configMapName = configMapName base ∧ p.deploymentName = deploymentName base ∧
      p.serviceName = serviceName base ∧ p.serviceAccountName = serviceAccountName base := by
  obtain ⟨parts, rfl⟩ := plan_eq_ok.1 hp
  exact ⟨parts.baseName, parts.baseName_eq, rfl, rfl, rfl, rfl⟩

theorem sameRender_of_specHash (hsha : Function.Injective lib.sha256Hex)
    (hp : plan lib order input = .ok p) (hp' : plan lib order' input' = .ok p')
    (hns : p'.gatewayNamespace = p.gatewayNamespace) (hname : p'.gatewayName = p.gatewayName)
    (hhash : p'.specHash = p.specHash) : SameRender p p' := by
  obtain ⟨base, hbase, hconfig, hdeploy, -, haccount⟩ := names_of_plan hp
  obtain ⟨base', hbase', hconfig', hdeploy', -, haccount'⟩ := names_of_plan hp'
  obtain rfl : base = base' := by
    rw [hname, hbase] at hbase'
    exact Except.ok.inj hbase'
  have hrepr := hhash
  rw [specHash_of_plan hp, specHash_of_plan hp'] at hrepr
  obtain ⟨himage, hselector, hreplicas, hresources, hports, htype, hmounts⟩ :=
    specRepr_inj (String.ofList_injective (hsha hrepr))
  exact ⟨hns, hname, hconfig'.trans hconfig.symm, haccount'.trans haccount.symm,
    hdeploy'.trans hdeploy.symm, hhash, himage, hreplicas, hresources, hselector, htype, hports,
    hmounts⟩

theorem specHash_of_unchanged (hp : plan lib order input = .ok p)
    (hunchanged : p.specChanged = false) : input.observed.currentSpecHash = some p.specHash := by
  obtain ⟨parts, rfl⟩ := plan_eq_ok.1 hp
  simpa [PlanParts.plan, assemble] using hunchanged

end Plans

section Cluster

variable {p p' : GatewayRuntimePlan}

theorem notMem_meta_of_inSpec (m : OwnedObjectMeta) {path : Path} (h : InSpec path) :
    path ∉ m.fields.map Prod.fst := by
  intro hmem
  simp only [OwnedObjectMeta.fields, structField, Fields.under, List.map_map, List.mem_map] at hmem
  obtain ⟨f, -, rfl⟩ := hmem
  simp [InSpec] at h

theorem reapplied_spec_unchanged (h : SameRender p p') {st st₁ st₂ : RuntimeState}
    {r r' : RuntimeApplyResult} (happlied : Applied p st st₁ r) (happlied' : Applied p' st₁ st₂ r')
    {path : Path} (hpath : InSpec path) :
    st₂.deploymentValue p' path = st₁.deploymentValue p path := by
  obtain ⟨fields, hfields, -, hdeploy⟩ := happlied.deployment
  obtain ⟨fields', hfields', -, hdeploy'⟩ := happlied'.deployment
  have hkey : p'.deploymentKey = p.deploymentKey := by
    rw [deploymentKey, deploymentKey, h.gatewayNamespace, h.deploymentName]
  rw [deploymentFields_eq, Check.map_eq_ok] at hfields hfields'
  obtain ⟨s, hs, rfl⟩ := hfields
  obtain ⟨s', hs', rfl⟩ := hfields'
  obtain rfl : s' = s := by
    rw [h.renderDeploymentSpec_eq, hs] at hs'
    exact (Except.ok.inj hs').symm
  rw [hkey, hdeploy] at hdeploy'
  rw [RuntimeState.deploymentValue, RuntimeState.deploymentValue, hkey, hdeploy', hdeploy,
    Option.getD_some, Option.getD_some]
  -- both patches ask for the same in the specification
  refine value_apply_apply ?_
  rw [lookup_append_of_notMem (notMem_meta_of_inSpec _ hpath),
    lookup_append_of_notMem (notMem_meta_of_inSpec _ hpath)]

end Cluster

/-! ### The hash determines the pods -/

/-- **The hash determines the pods and the Service** of a Gateway, and a plan that differs in the
configuration alone asks for the same pods. -/
theorem specHash_determines_pods {lib : Libraries} (hsha : Function.Injective lib.sha256Hex)
    {order order' : HashOrder} {input input' : RuntimePlanInput} {p p' : GatewayRuntimePlan}
    (hp : plan lib order input = .ok p) (hp' : plan lib order' input' = .ok p')
    (hns : p'.gatewayNamespace = p.gatewayNamespace) (hname : p'.gatewayName = p.gatewayName) :
    (p'.specHash = p.specHash →
      renderDeploymentSpec p' = renderDeploymentSpec p ∧ serviceSpec p' = serviceSpec p) ∧
    (input'.observed.currentSpecHash = some p.specHash → p'.specChanged = false →
      renderDeploymentSpec p' = renderDeploymentSpec p ∧
        ∀ st st₁ st₂ r r', Applied p st st₁ r → Applied p' st₁ st₂ r' →
          ∀ path, InSpec path → st₂.deploymentValue p' path = st₁.deploymentValue p path) ∧
    (p'.runtimeMetadata = p.runtimeMetadata → p'.serviceType = p.serviceType →
      p'.servicePorts = p.servicePorts → p'.tlsSecretMounts = p.tlsSecretMounts →
        renderDeploymentSpec p' = renderDeploymentSpec p) := by
  have hagree := sameRender_of_specHash hsha hp hp' hns hname
  refine ⟨?_, ?_, ?_⟩
  · intro hhash
    exact ⟨(hagree hhash).renderDeploymentSpec_eq, (hagree hhash).serviceSpec_eq⟩
  · intro hrecorded hunchanged
    have hhash : p'.specHash = p.specHash := by
      have hobserved := specHash_of_unchanged hp' hunchanged
      rw [hrecorded] at hobserved
      exact (Option.some.inj hobserved).symm
    refine ⟨(hagree hhash).renderDeploymentSpec_eq, ?_⟩
    intro st st₁ st₂ r r' happlied happlied' path hpath
    exact reapplied_spec_unchanged (hagree hhash) happlied happlied' hpath
  · intro hmetadata htype hports hmounts
    have hhash : p'.specHash = p.specHash := by
      rw [specHash_of_plan hp, specHash_of_plan hp', hmetadata, htype, hports, hmounts]
    exact (hagree hhash).renderDeploymentSpec_eq

theorem tapGateway_same_pods : ∃ p p',
    plan orderedLibraries .asListed (tapInput (tapSnapshot [] [])) = .ok p ∧
      plan orderedLibraries .asListed (tapInput (tapSnapshot [("team/db", tapRoute)] [])) = .ok p' ∧
      p.configToml ≠ p'.configToml ∧ p'.specHash = p.specHash ∧
      renderDeploymentSpec p' = renderDeploymentSpec p ∧ serviceSpec p' = serviceSpec p := by
  obtain ⟨-, -, -, -, parts, parts', hhash⟩ := exists_tapPlans [] [("team/db", tapRoute)] [] []
  have hp := plan_eq_ok.2 ⟨parts, rfl⟩
  have hp' := plan_eq_ok.2 ⟨parts', rfl⟩
  refine ⟨parts.plan, parts'.plan, hp, hp', ?_, hhash,
    (specHash_determines_pods orderedLibraries_sha256Hex hp hp' rfl rfl).1 hhash⟩
  -- one text has a stream listener and the other has none
  intro htoml
  obtain ⟨_, hread, htext⟩ := configTomlFromSnapshot_eq_ok.1 parts.configToml_eq
  obtain ⟨_, hread', htext'⟩ := configTomlFromSnapshot_eq_ok.1 parts'.configToml_eq
  have htexts := JsonText.array_inj
    (List.forall_mem_map.2 fun sc _ => StreamConfig.sniText_isJson sc)
    (List.forall_mem_map.2 fun sc _ => StreamConfig.sniText_isJson sc)
    (String.ofList_injective
      ((Except.ok.inj htext).trans (htoml.trans (Except.ok.inj htext').symm)))
  have hlengths := congrArg List.length htexts
  simp only [Config.inOrder, List.length_map, (isGenerated_of_eq_ok hread).streams,
    (isGenerated_of_eq_ok hread').streams] at hlengths
  exact absurd hlengths (by decide)

end Wicket
