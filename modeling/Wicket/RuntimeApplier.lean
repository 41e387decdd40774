/-
**The runtime applier.**

Four objects are applied by force, each only if it is new or has the label of the controller.  An
object is what its fields are; a field is reached by a path of names and of list items.
-/

import Wicket.ManagedFields
import Wicket.RuntimePlanner

namespace Wicket

open Prod

/-! ### Fields -/

inductive Step
  | field (name : String)
  | item (keys : List String)
  deriving DecidableEq

abbrev Path : Type := List Step

inductive Leaf
  | text (s : String)
  | number (n : ℤ)
  | flag (b : Bool)
  /-- A map that is replaced as a whole. -/
  | labels (m : List (String × String))
  deriving DecidableEq

abbrev Fields : Type := List (Path × Leaf)

abbrev KubeObject : Type := ManagedFields.Object Path Leaf

def Fields.under (step : Step) (fs : Fields) : Fields := fs.map fun f => (step :: f.1, f.2)

def leafField (name : String) (v : Leaf) : Fields := [([.field name], v)]

def structField (name : String) (fs : Fields) : Fields := fs.under (.field name)

def mapField (name : String) (m : List (String × String)) : Fields :=
  structField name (m.flatMap fun e => leafField e.1 (.text e.2))

def listField {α : Type} (name : String) (key : α → List String) (fields : α → Fields)
    (l : List α) : Fields :=
  structField name (l.flatMap fun a => (fields a).under (.item (key a)))

def optField {α : Type} (fields : α → Fields) : Option α → Fields
  | some a => fields a
  | none => []

/-! ### Labels and metadata -/

def specRevisionAnnotation : String := "wicket.io/spec-revision"

def configRevisionAnnotation : String := "wicket.io/config-revision"

def labelManagedBy : String := "app.kubernetes.io/managed-by"

structure OwnerReference where
  apiVersion : String
  kind : String
  name : String
  uid : String
  controller : Bool
  blockOwnerDeletion : Bool

def OwnerReference.fields (o : OwnerReference) : Fields :=
  leafField "apiVersion" (.text o.apiVersion) ++ leafField "kind" (.text o.kind) ++
    leafField "name" (.text o.name) ++ leafField "uid" (.text o.uid) ++
    leafField "controller" (.flag o.controller) ++
    leafField "blockOwnerDeletion" (.flag o.blockOwnerDeletion)

structure OwnedObjectMeta where
  name : String
  ns : String
  labels : List (String × String)
  annotations : Option (List (String × String))
  ownerReferences : List OwnerReference

def OwnedObjectMeta.fields (m : OwnedObjectMeta) : Fields :=
  structField "metadata" <|
    leafField "name" (.text m.name) ++ leafField "namespace" (.text m.ns) ++
      mapField "labels" m.labels ++ optField (mapField "annotations") m.annotations ++
      listField "ownerReferences" (fun o => [o.uid]) OwnerReference.fields m.ownerReferences

/-- The labels of the owned objects, in the order of their names. -/
def managedLabels (plan : GatewayRuntimePlan) : List (String × String) :=
  [("app.kubernetes.io/component", "gateway-runtime"),
    ("app.kubernetes.io/instance", plan.gatewayName),
    (labelManagedBy, "wicket-controller"),
    ("app.kubernetes.io/name", "wicket"),
    ("wicket.io/gateway-name", plan.gatewayName),
    ("wicket.io/gateway-namespace", plan.gatewayNamespace)]

def podTemplateLabels (plan : GatewayRuntimePlan) : List (String × String) := managedLabels plan

def gatewayOwnerRef (plan : GatewayRuntimePlan) : OwnerReference where
  apiVersion := "gateway.networking.k8s.io/v1"
  kind := "Gateway"
  name := plan.gatewayName
  uid := plan.gatewayUid
  controller := true
  blockOwnerDeletion := true

def ownedObjectMeta (name : String) (plan : GatewayRuntimePlan)
    (extraAnnotations : Option (List (String × String))) : OwnedObjectMeta where
  name := name
  ns := plan.gatewayNamespace
  labels := managedLabels plan
  annotations := extraAnnotations
  ownerReferences := [gatewayOwnerRef plan]

/-! ### The ConfigMap and the Service -/

def serviceAccountFields (plan : GatewayRuntimePlan) : Fields :=
  (ownedObjectMeta plan.serviceAccountName plan none).fields

def configMapFields (plan : GatewayRuntimePlan) : Fields :=
  (ownedObjectMeta plan.configMapName plan
    (some [.mk configRevisionAnnotation plan.configHash])).fields ++
  mapField "data" [("wicket.toml", plan.configToml)]

structure ServicePort where
  name : String
  port : ℤ
  targetPort : ℤ
  protocol : String
  deriving DecidableEq

def ServicePort.fields (p : ServicePort) : Fields :=
  leafField "name" (.text p.name) ++ leafField "port" (.number p.port) ++
    leafField "targetPort" (.number p.targetPort) ++ leafField "protocol" (.text p.protocol)

structure ServiceSpec where
  type_ : String
  ports : List ServicePort
  selector : List (String × String)
  deriving DecidableEq

def ServiceSpec.fields (s : ServiceSpec) : Fields :=
  structField "spec" <|
    leafField "type" (.text s.type_) ++
      listField "ports" (fun p => [toString p.port, p.protocol]) ServicePort.fields s.ports ++
      leafField "selector" (.labels s.selector)

def serviceSpec (plan : GatewayRuntimePlan) : ServiceSpec where
  type_ := plan.serviceType.asStr
  ports := plan.servicePorts.map fun p =>
    { name := p.name
      port := p.port.toNat
      targetPort := p.targetPort.toNat
      protocol := p.protocol }
  selector := managedLabels plan

def serviceFields (plan : GatewayRuntimePlan) : Fields :=
  (ownedObjectMeta plan.serviceName plan none).fields ++ (serviceSpec plan).fields

/-! ### The Deployment -/

structure ContainerPort where
  name : String
  containerPort : ℤ
  protocol : String
  deriving DecidableEq

def ContainerPort.fields (p : ContainerPort) : Fields :=
  leafField "name" (.text p.name) ++ leafField "containerPort" (.number p.containerPort) ++
    leafField "protocol" (.text p.protocol)

structure VolumeMount where
  name : String
  mountPath : String
  readOnly : Bool
  deriving DecidableEq

def VolumeMount.fields (m : VolumeMount) : Fields :=
  leafField "name" (.text m.name) ++ leafField "mountPath" (.text m.mountPath) ++
    leafField "readOnly" (.flag m.readOnly)

inductive VolumeSource
  | configMap (name : String)
  | secret (secretName : String) (defaultMode : ℤ) (optional : Bool)
  deriving DecidableEq

def VolumeSource.fields : VolumeSource → Fields
  | .configMap name => structField "configMap" (leafField "name" (.text name))
  | .secret secretName defaultMode optional =>
    structField "secret" <|
      leafField "secretName" (.text secretName) ++
        leafField "defaultMode" (.number defaultMode) ++ leafField "optional" (.flag optional)

structure Volume where
  name : String
  source : VolumeSource
  deriving DecidableEq

def Volume.fields (v : Volume) : Fields := leafField "name" (.text v.name) ++ v.source.fields

structure SecurityContext where
  runAsNonRoot : Bool
  runAsUser : ℤ
  runAsGroup : ℤ
  allowPrivilegeEscalation : Bool
  readOnlyRootFilesystem : Bool
  deriving DecidableEq

def SecurityContext.fields (c : SecurityContext) : Fields :=
  structField "securityContext" <|
    leafField "runAsNonRoot" (.flag c.runAsNonRoot) ++
      leafField "runAsUser" (.number c.runAsUser) ++
      leafField "runAsGroup" (.number c.runAsGroup) ++
      leafField "allowPrivilegeEscalation" (.flag c.allowPrivilegeEscalation) ++
      leafField "readOnlyRootFilesystem" (.flag c.readOnlyRootFilesystem)

structure PodSecurityContext where
  fsGroup : ℤ
  runAsNonRoot : Bool
  runAsUser : ℤ
  runAsGroup : ℤ
  deriving DecidableEq

def PodSecurityContext.fields (c : PodSecurityContext) : Fields :=
  structField "securityContext" <|
    leafField "fsGroup" (.number c.fsGroup) ++ leafField "runAsNonRoot" (.flag c.runAsNonRoot) ++
      leafField "runAsUser" (.number c.runAsUser) ++ leafField "runAsGroup" (.number c.runAsGroup)

structure ResourceRequirements where
  requests : Option (List (String × String))
  limits : Option (List (String × String))
  deriving DecidableEq

def ResourceRequirements.fields (r : ResourceRequirements) : Fields :=
  structField "resources" <|
    optField (mapField "requests") r.requests ++ optField (mapField "limits") r.limits

structure Container where
  name : String
  image : String
  ports : List ContainerPort
  volumeMounts : List VolumeMount
  securityContext : SecurityContext
  env : List (String × String)
  resources : ResourceRequirements
  deriving DecidableEq

def Container.fields (c : Container) : Fields :=
  leafField "name" (.text c.name) ++ leafField "image" (.text c.image) ++
    listField "ports" (fun p => [toString p.containerPort, p.protocol]) ContainerPort.fields
      c.ports ++
    listField "volumeMounts" (fun m => [m.mountPath]) VolumeMount.fields c.volumeMounts ++
    c.securityContext.fields ++
    listField "env" (fun e => [e.1])
      (fun e => leafField "name" (.text e.1) ++ leafField "value" (.text e.2)) c.env ++
    c.resources.fields

structure PodSpec where
  serviceAccountName : String
  securityContext : PodSecurityContext
  containers : List Container
  volumes : List Volume
  nodeSelector : Option (List (String × String))
  deriving DecidableEq

def PodSpec.fields (s : PodSpec) : Fields :=
  structField "spec" <|
    leafField "serviceAccountName" (.text s.serviceAccountName) ++ s.securityContext.fields ++
      listField "containers" (fun c => [c.name]) Container.fields s.containers ++
      listField "volumes" (fun v => [v.name]) Volume.fields s.volumes ++
      optField (fun m => leafField "nodeSelector" (.labels m)) s.nodeSelector

structure PodTemplateSpec where
  labels : List (String × String)
  annotations : List (String × String)
  spec : PodSpec
  deriving DecidableEq

def PodTemplateSpec.fields (t : PodTemplateSpec) : Fields :=
  structField "template" <|
    structField "metadata" (mapField "labels" t.labels ++ mapField "annotations" t.annotations) ++
      t.spec.fields

structure DeploymentSpec where
  replicas : ℤ
  selector : List (String × String)
  template : PodTemplateSpec
  deriving DecidableEq

def DeploymentSpec.fields (s : DeploymentSpec) : Fields :=
  structField "spec" <|
    leafField "replicas" (.number s.replicas) ++ leafField "selector" (.labels s.selector) ++
      s.template.fields

def proxyRuntimeUid : ℤ := 65532

def proxyRuntimeFsgroup : ℤ := 65532

def managedRuntimePodSecurityContext : PodSecurityContext where
  fsGroup := proxyRuntimeFsgroup
  runAsNonRoot := true
  runAsUser := proxyRuntimeUid
  runAsGroup := proxyRuntimeUid

def managedRuntimeContainerSecurityContext : SecurityContext where
  runAsNonRoot := true
  runAsUser := proxyRuntimeUid
  runAsGroup := proxyRuntimeUid
  allowPrivilegeEscalation := false
  readOnlyRootFilesystem := true

/-- The entries of a flat map of resources whose names begin with the given section; only the
processor and the memory are known. -/
def resourceSection (section_ : String) (resources : Std.TreeMap String String) :
    Option (List (String × String)) :=
  let known := resources.toList.filterMap fun e =>
    if e.1 = section_ ++ ".cpu" then some ("cpu", e.2)
    else if e.1 = section_ ++ ".memory" then some ("memory", e.2)
    else none
  if known.isEmpty then none else some known

def buildResourceRequirements (resources : Std.TreeMap String String) : ResourceRequirements where
  requests := resourceSection "requests" resources
  limits := resourceSection "limits" resources

def tlsVolumeName (secretName : String) : Except Panic String :=
  let rawName := "tls-" ++ secretName
  if rawName.utf8ByteSize > 63 then
    match Text.bytePrefix rawName 63 with
    | some name => .ok name
    | none => .error .splitInsideCharacter
  else .ok rawName

def addTlsVolume (acc : List Volume × List VolumeMount) (mount : TlsSecretMount) :
    Except Panic (List Volume × List VolumeMount) :=
  (tlsVolumeName mount.secretName).map fun volName =>
    if acc.1.any fun v => v.name == volName then acc
    else
      (acc.1 ++ [{ name := volName, source := .secret mount.secretName 0o440 false }],
        acc.2 ++ [{ name := volName, mountPath := mount.mountPath, readOnly := true }])

def buildPodVolumesAndMounts (plan : GatewayRuntimePlan) :
    Except Panic (List Volume × List VolumeMount) :=
  plan.tlsSecretMounts.foldlM addTlsVolume
    ([{ name := "config", source := .configMap plan.configMapName }],
      [{ name := "config", mountPath := "/etc/wicket", readOnly := true }])

def deploymentSpec (plan : GatewayRuntimePlan) (replicas : ℤ) (volumes : List Volume)
    (volumeMounts : List VolumeMount) : DeploymentSpec where
  replicas := replicas
  selector := managedLabels plan
  template :=
    { labels := podTemplateLabels plan
      annotations := [.mk specRevisionAnnotation plan.specHash]
      spec :=
        { serviceAccountName := plan.serviceAccountName
          securityContext := managedRuntimePodSecurityContext
          containers :=
            [{ name := "wicket-proxy"
               image := plan.runtimeMetadata.image
               ports := plan.servicePorts.map fun p =>
                 { name := p.name, containerPort := p.targetPort.toNat, protocol := p.protocol }
               volumeMounts := volumeMounts
               securityContext := managedRuntimeContainerSecurityContext
               env := [("WICKET_SPEC_REVISION", plan.specHash)]
               resources := buildResourceRequirements plan.runtimeMetadata.resources }]
          volumes := volumes
          nodeSelector :=
            if plan.runtimeMetadata.nodeSelector.isEmpty then none
            else some plan.runtimeMetadata.nodeSelector.toList } }

def deploymentMeta (plan : GatewayRuntimePlan) : OwnedObjectMeta :=
  ownedObjectMeta plan.deploymentName plan
    (some [.mk configRevisionAnnotation plan.configHash,
      .mk specRevisionAnnotation plan.specHash])

/-! ### The cluster and the API server -/

inductive OwnedKind
  | ServiceAccount
  | ConfigMap
  | Service
  | Deployment
  deriving DecidableEq

abbrev OwnedKey : Type := OwnedKind × String × String

structure RuntimeState where
  objects : OwnedKey → Option KubeObject := fun _ => none
  inMemoryConfig : Config := Config.default

/-- What the API server answers instead of an object or a patched object. -/
structure ApiFaults where
  get : OwnedKind → Option String := fun _ => none
  patch : OwnedKind → Option String := fun _ => none

inductive ApplyError
  | KubeApi (e : String)
  | Serialization (e : String)
  | NotOwned (ns name : String)
  deriving DecidableEq

/-- A step of the applier.  What it has written stays written when it fails. -/
abbrev ApplyM (α : Type) : Type := ExceptT (Failure ApplyError) (StateM RuntimeState) α

def exec {α : Type} (x : ApplyM α) (st : RuntimeState) :
    Except (Failure ApplyError) α × RuntimeState :=
  Id.run (StateT.run (ExceptT.run x) st)

/-- Lifts a result into a step. -/
def ApplyM.ofExcept {α : Type} : Except (Failure ApplyError) α → ApplyM α
  | .ok a => pure a
  | .error e => throw e

def getOpt (api : ApiFaults) (key : OwnedKey) : ApplyM (Option KubeObject) := do
  match api.get key.1 with
  | some e => throw (.error (.KubeApi e))
  | none => return (← get).objects key

def RuntimeState.patched (st : RuntimeState) (key : OwnedKey) (fields : Fields) : RuntimeState :=
  { st with
    objects := Function.update st.objects key (some (((st.objects key).getD {}).apply fields)) }

/-- Sends a patch.  The API server takes none that names a field twice. -/
def patch (api : ApiFaults) (key : OwnedKey) (fields : Fields) : ApplyM Unit := do
  match api.patch key.1 with
  | some e => throw (.error (.KubeApi e))
  | none =>
    if (fields.map Prod.fst).Nodup then
      modify fun st => st.patched key fields
    else throw (.error (.KubeApi "duplicate entries for key"))

/-! ### The ownership check -/

def labelPath (name : String) : Path := [.field "metadata", .field "labels", .field name]

def annotationPath (name : String) : Path := [.field "metadata", .field "annotations", .field name]

def isManagedByController (obj : KubeObject) : Bool :=
  obj.value (labelPath labelManagedBy) == some (.text "wicket-controller")

/-- Whether an object exists; one that does not belong to the controller is an error. -/
def preflight (api : ApiFaults) (key : OwnedKey) : ApplyM Bool := do
  match ← getOpt api key with
  | none => return false
  | some obj =>
    if isManagedByController obj then return true
    else throw (.error (.NotOwned key.2.1 key.2.2))

def preflightServiceAccount (api : ApiFaults) (ns name : String) : ApplyM Bool :=
  preflight api (.ServiceAccount, ns, name)

def preflightConfigmap (api : ApiFaults) (ns name : String) : ApplyM Bool :=
  preflight api (.ConfigMap, ns, name)

def preflightService (api : ApiFaults) (ns name : String) : ApplyM Bool :=
  preflight api (.Service, ns, name)

def preflightDeployment (api : ApiFaults) (ns name : String) : ApplyM Bool :=
  preflight api (.Deployment, ns, name)

/-! ### The applier -/

inductive ConfigApplyResult
  | Updated (configHash : String)
  | NoOp
  deriving DecidableEq

structure RuntimeApplyResult where
  serviceAccountCreated : Bool
  configResult : Option ConfigApplyResult
  serviceChanged : Bool
  deploymentChanged : Bool
  rolloutTriggered : Bool
  deriving DecidableEq

namespace GatewayRuntimePlan

variable (plan : GatewayRuntimePlan)

def serviceAccountKey : OwnedKey :=
  (.ServiceAccount, plan.gatewayNamespace, plan.serviceAccountName)

def configMapKey : OwnedKey := (.ConfigMap, plan.gatewayNamespace, plan.configMapName)

def serviceKey : OwnedKey := (.Service, plan.gatewayNamespace, plan.serviceName)

def deploymentKey : OwnedKey := (.Deployment, plan.gatewayNamespace, plan.deploymentName)

end GatewayRuntimePlan

def applyServiceAccount (api : ApiFaults) (plan : GatewayRuntimePlan) : ApplyM Bool := do
  let alreadyExists ← preflightServiceAccount api plan.gatewayNamespace plan.serviceAccountName
  patch api plan.serviceAccountKey (serviceAccountFields plan)
  return !alreadyExists

def applyManagedConfigmap (lib : Libraries) (api : ApiFaults) (plan : GatewayRuntimePlan) :
    ApplyM ConfigApplyResult := do
  let _ ← preflightConfigmap api plan.gatewayNamespace plan.configMapName
  let newConfig ← .ofExcept ((lib.tomlFromStr plan.configToml).mapError fun e =>
    .error (.Serialization e))
  if !plan.configChanged then
    modify fun st => { st with inMemoryConfig := newConfig }
    return .NoOp
  else
    patch api plan.configMapKey (configMapFields plan)
    modify fun st => { st with inMemoryConfig := newConfig }
    return .Updated plan.configHash

def applyService (api : ApiFaults) (plan : GatewayRuntimePlan) : ApplyM Bool := do
  let alreadyExists ← preflightService api plan.gatewayNamespace plan.serviceName
  patch api plan.serviceKey (serviceFields plan)
  return !alreadyExists || plan.specChanged

def replicasOf (plan : GatewayRuntimePlan) : Except (Failure ApplyError) ℤ :=
  if plan.runtimeMetadata.replicas.toNat < 2 ^ 31 then .ok plan.runtimeMetadata.replicas.toNat
  else .error <| .error <| .Serialization <|
    "replica count " ++ toString plan.runtimeMetadata.replicas.toNat ++
      " overflows i32 (max 2147483647)"

def deploymentFields (plan : GatewayRuntimePlan) : Except (Failure ApplyError) Fields := do
  let replicas ← replicasOf plan
  let (volumes, volumeMounts) ← (buildPodVolumesAndMounts plan).mapError .panic
  .ok ((deploymentMeta plan).fields ++ (deploymentSpec plan replicas volumes volumeMounts).fields)

/-- Applies the Deployment: whether it was created or the specification has changed, and whether a
rollout was triggered. -/
def applyDeployment (api : ApiFaults) (plan : GatewayRuntimePlan) : ApplyM (Bool × Bool) := do
  let alreadyExists ← preflightDeployment api plan.gatewayNamespace plan.deploymentName
  let fields ← .ofExcept (deploymentFields plan)
  patch api plan.deploymentKey fields
  return (!alreadyExists || plan.specChanged, plan.specChanged)

def applyRuntimePlan (lib : Libraries) (api : ApiFaults) (plan : GatewayRuntimePlan) :
    ApplyM RuntimeApplyResult := do
  let serviceAccountCreated ← applyServiceAccount api plan
  let configResult ← applyManagedConfigmap lib api plan
  let serviceChanged ← applyService api plan
  let (deploymentChanged, rolloutTriggered) ← applyDeployment api plan
  return {
    serviceAccountCreated := serviceAccountCreated
    configResult := some configResult
    serviceChanged := serviceChanged
    deploymentChanged := deploymentChanged
    rolloutTriggered := rolloutTriggered }

/-! ### What is written -/

section Exec

variable {α β : Type} {x : ApplyM α} {f : α → ApplyM β} {st st' : RuntimeState}

theorem exec_bind (x : ApplyM α) (f : α → ApplyM β) (st : RuntimeState) :
    exec (x >>= f) st = match exec x st with
      | (.ok a, st₁) => exec (f a) st₁
      | (.error e, st₁) => (.error e, st₁) := by
  change (match (x st : Except (Failure ApplyError) α × RuntimeState) with
    | (r, st₁) => ExceptT.bindCont f r st₁) = _
  rw [show exec x st = x st from rfl]
  rcases (x st : Except (Failure ApplyError) α × RuntimeState) with ⟨e | a, st₁⟩ <;> rfl

theorem exec_bind_ok {b : β} : exec (x >>= f) st = (.ok b, st') ↔
    ∃ a st₁, exec x st = (.ok a, st₁) ∧ exec (f a) st₁ = (.ok b, st') := by
  rw [exec_bind]
  rcases exec x st with ⟨e | a, st₁⟩ <;> simp

theorem exec_pure_ok {a b : α} : exec (pure a) st = (.ok b, st') ↔ a = b ∧ st = st' := by
  change ((.ok a, st) : Except (Failure ApplyError) α × RuntimeState) = _ ↔ _
  simp

theorem exec_throw_ok {e : Failure ApplyError} {b : α} : ¬exec (throw e) st = (.ok b, st') := by
  intro h
  cases (mk.inj h).1

theorem exec_modify_ok {g : RuntimeState → RuntimeState} {u : Unit} :
    exec (modify g) st = (.ok u, st') ↔ g st = st' := by
  change ((.ok (), g st) : Except (Failure ApplyError) Unit × RuntimeState) = _ ↔ _
  simp

theorem exec_ofExcept_ok {r : Except (Failure ApplyError) α} {a : α} :
    exec (ApplyM.ofExcept r) st = (.ok a, st') ↔ r = .ok a ∧ st = st' := by
  cases r with
  | ok b => simpa [ApplyM.ofExcept] using exec_pure_ok
  | error e => simpa [ApplyM.ofExcept] using exec_throw_ok

end Exec

section Steps

variable {api : ApiFaults} {key : OwnedKey} {st st' : RuntimeState}

theorem exec_getOpt_ok {obj : Option KubeObject} (h : exec (getOpt api key) st = (.ok obj, st')) :
    obj = st.objects key ∧ st' = st := by
  rw [getOpt] at h
  split at h
  · exact absurd h exec_throw_ok
  · obtain ⟨hobj, hst⟩ := mk.inj h
    exact ⟨(Except.ok.inj hobj).symm, hst.symm⟩

theorem exec_preflight_ok {alreadyExists : Bool}
    (h : exec (preflight api key) st = (.ok alreadyExists, st')) :
    alreadyExists = (st.objects key).isSome ∧
      (∀ obj, st.objects key = some obj → isManagedByController obj = true) ∧ st' = st := by
  obtain ⟨obj, st₁, hget, h⟩ := exec_bind_ok.1 h
  obtain ⟨rfl, rfl⟩ := exec_getOpt_ok hget
  cases hobj : st₁.objects key with
  | none =>
    rw [hobj] at h
    obtain ⟨rfl, rfl⟩ := exec_pure_ok.1 h
    exact ⟨rfl, (fun _ h => by cases h), rfl⟩
  | some obj =>
    rw [hobj] at h
    cases hmanaged : isManagedByController obj with
    | false =>
      simp only [hmanaged, Bool.false_eq_true, if_false] at h
      exact absurd h exec_throw_ok
    | true =>
      simp only [hmanaged, if_true] at h
      obtain ⟨rfl, rfl⟩ := exec_pure_ok.1 h
      refine ⟨rfl, fun obj' hobj' => ?_, rfl⟩
      cases hobj'
      exact hmanaged

theorem exec_patch_ok {fields : Fields} {u : Unit}
    (h : exec (patch api key fields) st = (.ok u, st')) :
    (fields.map fst).Nodup ∧ st' = st.patched key fields := by
  rw [patch] at h
  split at h
  · exact absurd h exec_throw_ok
  · split at h
    · rename_i hnodup
      exact ⟨hnodup, (exec_modify_ok.1 h).symm⟩
    · exact absurd h exec_throw_ok

theorem objects_patched_self (st : RuntimeState) (key : OwnedKey) (fields : Fields) :
    (st.patched key fields).objects key = some (((st.objects key).getD {}).apply fields) :=
  Function.update_self _ _ _

theorem objects_patched_of_ne {key' : OwnedKey} (h : key'.1 ≠ key.1) (st : RuntimeState)
    (fields : Fields) : (st.patched key fields).objects key' = st.objects key' :=
  Function.update_of_ne (fun heq => h (congrArg fst heq)) _ _

end Steps

/-! ### The whole run -/

section Apply

variable {lib : Libraries} {api : ApiFaults} {plan : GatewayRuntimePlan} {st st' : RuntimeState}

theorem exec_applyServiceAccount_ok {created : Bool}
    (h : exec (applyServiceAccount api plan) st = (.ok created, st')) :
    st' = st.patched plan.serviceAccountKey (serviceAccountFields plan) := by
  obtain ⟨_, _, hpre, h₁⟩ := exec_bind_ok.1 h
  obtain ⟨-, -, rfl⟩ := exec_preflight_ok hpre
  obtain ⟨_, _, hpatch, h₂⟩ := exec_bind_ok.1 h₁
  obtain ⟨-, rfl⟩ := exec_patch_ok hpatch
  exact (exec_pure_ok.1 h₂).2.symm

theorem exec_applyManagedConfigmap_ok {r : ConfigApplyResult}
    (h : exec (applyManagedConfigmap lib api plan) st = (.ok r, st')) :
    ((configMapFields plan).map fst).Nodup ∧ plan.configChanged = true ∧
        st'.objects = (st.patched plan.configMapKey (configMapFields plan)).objects ∨
      plan.configChanged = false ∧ st'.objects = st.objects := by
  obtain ⟨_, _, hpre, h₁⟩ := exec_bind_ok.1 h
  obtain ⟨-, -, rfl⟩ := exec_preflight_ok hpre
  obtain ⟨_, _, hread, h₂⟩ := exec_bind_ok.1 h₁
  obtain ⟨-, rfl⟩ := exec_ofExcept_ok.1 hread
  cases hchanged : plan.configChanged with
  | false =>
    simp only [hchanged, Bool.not_false, if_true] at h₂
    obtain ⟨_, _, hsync, h₃⟩ := exec_bind_ok.1 h₂
    obtain rfl := exec_modify_ok.1 hsync
    exact .inr ⟨rfl, by rw [← (exec_pure_ok.1 h₃).2]⟩
  | true =>
    simp only [hchanged, Bool.not_true, Bool.false_eq_true, if_false] at h₂
    obtain ⟨_, _, hpatch, h₃⟩ := exec_bind_ok.1 h₂
    obtain ⟨hnodup, rfl⟩ := exec_patch_ok hpatch
    obtain ⟨_, _, hsync, h₄⟩ := exec_bind_ok.1 h₃
    obtain rfl := exec_modify_ok.1 hsync
    exact .inl ⟨hnodup, rfl, by rw [← (exec_pure_ok.1 h₄).2]⟩

theorem exec_applyService_ok {changed : Bool}
    (h : exec (applyService api plan) st = (.ok changed, st')) :
    ((serviceFields plan).map fst).Nodup ∧
      st' = st.patched plan.serviceKey (serviceFields plan) := by
  obtain ⟨_, _, hpre, h₁⟩ := exec_bind_ok.1 h
  obtain ⟨-, -, rfl⟩ := exec_preflight_ok hpre
  obtain ⟨_, _, hpatch, h₂⟩ := exec_bind_ok.1 h₁
  obtain ⟨hnodup, rfl⟩ := exec_patch_ok hpatch
  exact ⟨hnodup, (exec_pure_ok.1 h₂).2.symm⟩

theorem exec_applyDeployment_ok {r : Bool × Bool}
    (h : exec (applyDeployment api plan) st = (.ok r, st')) :
    ∃ fields, deploymentFields plan = .ok fields ∧ (fields.map fst).Nodup ∧
      st' = st.patched plan.deploymentKey fields ∧
      r = (!(st.objects plan.deploymentKey).isSome || plan.specChanged, plan.specChanged) := by
  obtain ⟨_, _, hpre, h₁⟩ := exec_bind_ok.1 h
  obtain ⟨rfl, -, rfl⟩ := exec_preflight_ok hpre
  obtain ⟨fields, _, hrender, h₂⟩ := exec_bind_ok.1 h₁
  obtain ⟨hfields, rfl⟩ := exec_ofExcept_ok.1 hrender
  obtain ⟨_, _, hpatch, h₃⟩ := exec_bind_ok.1 h₂
  obtain ⟨hnodup, rfl⟩ := exec_patch_ok hpatch
  obtain ⟨hr, rfl⟩ := exec_pure_ok.1 h₃
  exact ⟨fields, hfields, hnodup, rfl, hr.symm⟩

/-- What a successful run has written, and what it reports about the Deployment. -/
structure Applied (plan : GatewayRuntimePlan) (st st' : RuntimeState)
    (result : RuntimeApplyResult) : Prop where
  configMap : ((configMapFields plan).map Prod.fst).Nodup ∧ plan.configChanged = true ∧
      st'.objects plan.configMapKey =
        some (((st.objects plan.configMapKey).getD {}).apply (configMapFields plan)) ∨
    plan.configChanged = false ∧ st'.objects plan.configMapKey = st.objects plan.configMapKey
  service : ((serviceFields plan).map Prod.fst).Nodup ∧ st'.objects plan.serviceKey =
    some (((st.objects plan.serviceKey).getD {}).apply (serviceFields plan))
  deployment : ∃ fields, deploymentFields plan = .ok fields ∧ (fields.map Prod.fst).Nodup ∧
    st'.objects plan.deploymentKey = some (((st.objects plan.deploymentKey).getD {}).apply fields)
  deploymentChanged :
    result.deploymentChanged = (!(st.objects plan.deploymentKey).isSome || plan.specChanged)
  rolloutTriggered : result.rolloutTriggered = plan.specChanged

theorem applyRuntimePlan_ok {result : RuntimeApplyResult}
    (h : exec (applyRuntimePlan lib api plan) st = (.ok result, st')) :
    Applied plan st st' result := by
  obtain ⟨_, st₁, haccount, h⟩ := exec_bind_ok.1 h
  obtain ⟨_, st₂, hconfig, h⟩ := exec_bind_ok.1 h
  obtain ⟨_, st₃, hservice, h⟩ := exec_bind_ok.1 h
  obtain ⟨⟨changed, rollout⟩, st₄, hdeploy, h⟩ := exec_bind_ok.1 h
  obtain ⟨rfl, rfl⟩ := exec_pure_ok.1 h
  have hst₁ := exec_applyServiceAccount_ok haccount
  have hst₂ := exec_applyManagedConfigmap_ok hconfig
  obtain ⟨hserviceNodup, hst₃⟩ := exec_applyService_ok hservice
  obtain ⟨fields, hfields, hnodup, hst₄, hr⟩ := exec_applyDeployment_ok hdeploy
  -- the steps write objects of different kinds
  have hfirst : ∀ key : OwnedKey, key.1 ≠ .ServiceAccount → st₁.objects key = st.objects key := by
    intro key hkey
    rw [hst₁]
    exact objects_patched_of_ne hkey _ _
  have hsecond : ∀ key : OwnedKey, key.1 ≠ .ConfigMap → st₂.objects key = st₁.objects key := by
    intro key hkey
    rcases hst₂ with ⟨-, -, hobjects⟩ | ⟨-, hobjects⟩
    · rw [hobjects]
      exact objects_patched_of_ne hkey _ _
    · rw [hobjects]
  have hthird : ∀ key : OwnedKey, key.1 ≠ .Service → st₃.objects key = st₂.objects key := by
    intro key hkey
    rw [hst₃]
    exact objects_patched_of_ne hkey _ _
  have hfourth : ∀ key : OwnedKey, key.1 ≠ .Deployment → st₄.objects key = st₃.objects key := by
    intro key hkey
    rw [hst₄]
    exact objects_patched_of_ne hkey _ _
  have hdeployment : st₃.objects plan.deploymentKey = st.objects plan.deploymentKey := by
    rw [hthird plan.deploymentKey nofun, hsecond plan.deploymentKey nofun,
      hfirst plan.deploymentKey nofun]
  refine ⟨?_, ⟨hserviceNodup, ?_⟩, ⟨fields, hfields, hnodup, ?_⟩, ?_, ?_⟩
  · rw [hfourth plan.configMapKey nofun, hthird plan.configMapKey nofun,
      ← hfirst plan.configMapKey nofun]
    rcases hst₂ with ⟨hnodup, hchanged, hobjects⟩ | ⟨hchanged, hobjects⟩
    · rw [hobjects, objects_patched_self]
      exact .inl ⟨hnodup, hchanged, rfl⟩
    · rw [hobjects]
      exact .inr ⟨hchanged, rfl⟩
  · rw [hfourth plan.serviceKey nofun, hst₃, objects_patched_self, hsecond plan.serviceKey nofun,
      hfirst plan.serviceKey nofun]
  · rw [hst₄, objects_patched_self, hdeployment]
  · rw [← hdeployment]
    exact (mk.inj hr).1
  · exact (mk.inj hr).2

end Apply

end Wicket
