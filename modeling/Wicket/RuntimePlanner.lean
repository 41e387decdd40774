/-
**The runtime planner.**

By two revision hashes it is decided what has changed.  The hash function and the TOML library are
parameters, and a hash map is written in the order in which it is iterated.
-/

import Wicket.JsonReader
import Wicket.RouteReconcile
import Wicket.RuntimePlan

namespace Wicket

open List Check
open KeyMap (HashMap)

/-! ### Libraries -/

structure Libraries where
  /-- The hash SHA-256 as a text of hexadecimal digits. -/
  sha256Hex : String → String
  /-- `toml::to_string_pretty`. -/
  tomlToString : Config → Except String String
  /-- `toml::from_str`. -/
  tomlFromStr : String → Except String Config

structure HashOrder where
  order : HashMap String String → HashMap String String
  perm : ∀ m, (order m).entries.Perm m.entries

def HashOrder.asListed : HashOrder where
  order m := m
  perm _ := .refl _

def Config.inOrder (o : HashOrder) (c : Config) : Config :=
  { c with streams := c.streams.map fun st => { st with sniRoutes := o.order st.sniRoutes } }

inductive Failure (ε : Type)
  | error (e : ε)
  | panic (p : Panic)
  deriving DecidableEq

/-! ### Configuration and observation -/

inductive ServiceType
  | ClusterIP
  | LoadBalancer
  | NodePort
  deriving DecidableEq

def ServiceType.asStr : ServiceType → String
  | .ClusterIP => "ClusterIP"
  | .LoadBalancer => "LoadBalancer"
  | .NodePort => "NodePort"

structure ControllerConfig where
  proxyImage : String := "ghcr.io/geverding/wicket:latest"
  defaultReplicas : UInt32 := 1
  defaultServiceType : ServiceType := .ClusterIP
  defaultResources : Std.TreeMap String String := ∅
  defaultNodeSelector : Std.TreeMap String String := ∅

/-- What is seen of the Deployment of a Gateway. -/
structure DeployObservation where
  currentSpecHash : Option String := none
  readyReplicas : Option UInt32 := none
  deployObservedGeneration : Option ℤ := none
  deployGeneration : Option ℤ := none
  updatedReplicas : Option UInt32 := none
  availableReplicas : Option UInt32 := none
  desiredReplicas : Option UInt32 := none
  deriving DecidableEq

/-- What is seen of the owned objects of a Gateway. -/
structure ObservedRuntimeState extends DeployObservation where
  currentConfigHash : Option String := none
  deriving DecidableEq

def isRolloutConverged (obs : ObservedRuntimeState) : Bool :=
  match obs.deployObservedGeneration, obs.deployGeneration, obs.updatedReplicas,
    obs.availableReplicas, obs.desiredReplicas, obs.readyReplicas with
  | some deployObsGen, some deployGen, some updated, some available, some desired, some ready =>
    if deployObsGen < deployGen then false
    else if updated < desired then false
    else if desired == 0 then true
    else if available < 1 then false
    else if ready < 1 then false
    else true
  | _, _, _, _, _, _ => false

/-! ### Names -/

def objectNamePrefix : String := "wicket-gw-"

def maxBaseNameLen : ℕ := 52

/-- The first six digits of a hash. -/
def hex6 (lib : Libraries) (data : String) : String :=
  String.ofList ((lib.sha256Hex data).toList.take 6)

/-- The name from which the names of the owned objects are made.  A long name is cut, and marked
with a hash of the full one. -/
def ownedObjectBaseName (lib : Libraries) (gatewayName : String) : Except Panic String :=
  let full := objectNamePrefix ++ gatewayName
  if full.utf8ByteSize ≤ maxBaseNameLen then .ok full
  else
    match Text.bytePrefix gatewayName (maxBaseNameLen - 7 - objectNamePrefix.utf8ByteSize) with
    | some gwTruncated => .ok (objectNamePrefix ++ gwTruncated ++ "-" ++ hex6 lib full)
    | none => .error .splitInsideCharacter

def configMapName (base : String) : String := base ++ "-config"

def deploymentName (base : String) : String := base ++ "-deploy"

def serviceName (base : String) : String := base ++ "-svc"

def serviceAccountName (base : String) : String := base ++ "-sa"

/-! ### The specification and its hash -/

/-- What the Deployment is made from, apart from the configuration. -/
structure RuntimeMetadata where
  image : String
  replicas : UInt32
  resources : Std.TreeMap String String
  nodeSelector : Std.TreeMap String String

structure ServicePortSpec where
  name : String
  port : UInt16
  targetPort : UInt16
  protocol : String
  deriving DecidableEq

open JsonText

def textMap (m : Std.TreeMap String String) : List Char :=
  object (m.toList.map fun e => (e.1, quote e.2))

def ServicePortSpec.json (p : ServicePortSpec) : List Char :=
  object [("name", quote p.name), ("port", number p.port.toNat), ("protocol", quote p.protocol),
    ("target_port", number p.targetPort.toNat)]

def TlsSecretMount.json (m : TlsSecretMount) : List Char :=
  object [("mount_path", quote m.mountPath), ("secret_name", quote m.secretName),
    ("secret_namespace", quote m.secretNamespace)]

/-- What is hashed for the specification; the mounts are left out when there are none. -/
def specMembers (metadata : RuntimeMetadata) (serviceType : ServiceType)
    (servicePorts : List ServicePortSpec) (mounts : List TlsSecretMount) :
    List (String × List Char) :=
  [("image", quote metadata.image), ("node_selector", textMap metadata.nodeSelector),
    ("replicas", number metadata.replicas.toNat), ("resources", textMap metadata.resources),
    ("service_ports", array (servicePorts.map ServicePortSpec.json)),
    ("service_type", quote serviceType.asStr)] ++
  if mounts.isEmpty then []
  else [("tls_secret_mounts", array (mounts.map TlsSecretMount.json))]

def specRepr (metadata : RuntimeMetadata) (serviceType : ServiceType)
    (servicePorts : List ServicePortSpec) (mounts : List TlsSecretMount) : List Char :=
  object (specMembers metadata serviceType servicePorts mounts)

/-- The hash of the specification.  Writing a JSON value does not fail. -/
def specHashOf (lib : Libraries) (metadata : RuntimeMetadata) (serviceType : ServiceType)
    (servicePorts : List ServicePortSpec) (mounts : List TlsSecretMount) : String :=
  lib.sha256Hex (String.ofList (specRepr metadata serviceType servicePorts mounts))

open JsonText (IsJson array_inj object_inj)

theorem textMap_isJson (m : Std.TreeMap String String) : IsJson (textMap m) :=
  .object (forall_mem_map.2 fun e _ => .quote e.2)

theorem textMap_inj {m m' : Std.TreeMap String String} (h : textMap m = textMap m') :
    m.toList = m'.toList :=
  texts_inj h

theorem ServicePortSpec.json_isJson (p : ServicePortSpec) : IsJson p.json :=
  .object (by simp)

theorem ServicePortSpec.json_injective : Function.Injective ServicePortSpec.json := by
  intro p q h
  have hmembers := object_inj (by simp) (by simp) h
  cases p
  cases q
  simpa [UInt16.toNat_inj, and_assoc, and_comm, and_left_comm] using hmembers

theorem TlsSecretMount.json_isJson (m : TlsSecretMount) : IsJson m.json :=
  .object (by simp)

theorem TlsSecretMount.json_injective : Function.Injective TlsSecretMount.json := by
  intro m n h
  have hmembers := object_inj (by simp) (by simp) h
  cases m
  cases n
  simpa [and_assoc, and_comm, and_left_comm] using hmembers

theorem ServiceType.asStr_injective : Function.Injective ServiceType.asStr := by
  intro a b h
  cases a <;> cases b <;> first | rfl | (exact absurd h (by decide))

theorem ports_isJson (ports : List ServicePortSpec) :
    ∀ t ∈ ports.map ServicePortSpec.json, IsJson t :=
  forall_mem_map.2 fun p _ => p.json_isJson

theorem mounts_isJson (mounts : List TlsSecretMount) :
    ∀ t ∈ mounts.map TlsSecretMount.json, IsJson t :=
  forall_mem_map.2 fun m _ => m.json_isJson

theorem specMembers_isJson (metadata : RuntimeMetadata) (serviceType : ServiceType)
    (ports : List ServicePortSpec) (mounts : List TlsSecretMount) :
    ∀ m ∈ specMembers metadata serviceType ports mounts, IsJson m.2 := by
  intro m hm
  simp only [specMembers, cons_append, nil_append, mem_cons] at hm
  rcases hm with rfl | rfl | rfl | rfl | rfl | rfl | hm
  · exact .quote _
  · exact textMap_isJson _
  · exact .number _
  · exact textMap_isJson _
  · exact .array (ports_isJson ports)
  · exact .quote _
  · split at hm
    · cases hm
    · rw [mem_singleton.1 hm]
      exact .array (mounts_isJson mounts)

theorem specRepr_inj {metadata metadata' : RuntimeMetadata} {serviceType serviceType' : ServiceType}
    {servicePorts servicePorts' : List ServicePortSpec} {mounts mounts' : List TlsSecretMount}
    (h : specRepr metadata serviceType servicePorts mounts =
      specRepr metadata' serviceType' servicePorts' mounts') :
    metadata.image = metadata'.image ∧
      metadata.nodeSelector.toList = metadata'.nodeSelector.toList ∧
      metadata.replicas = metadata'.replicas ∧
      metadata.resources.toList = metadata'.resources.toList ∧
      servicePorts = servicePorts' ∧ serviceType = serviceType' ∧ mounts = mounts' := by
  have hmembers := object_inj (specMembers_isJson _ _ _ _) (specMembers_isJson _ _ _ _) h
  simp only [specMembers, cons_append, nil_append, cons.injEq, Prod.mk.injEq,
    true_and, quote_inj, number_inj, UInt32.toNat_inj] at hmembers
  obtain ⟨himage, hselector, hreplicas, hresources, hportTexts, htype, hrest⟩ := hmembers
  refine ⟨himage, textMap_inj hselector, hreplicas, textMap_inj hresources,
    map_injective_iff.2 ServicePortSpec.json_injective
      (array_inj (ports_isJson _) (ports_isJson _) hportTexts),
    ServiceType.asStr_injective htype, ?_⟩
  -- the mounts are the last member, or there are none
  cases mounts with
  | nil =>
    cases mounts' with
    | nil => rfl
    | cons m' mounts' => cases hrest
  | cons m mounts =>
    cases mounts' with
    | nil => cases hrest
    | cons m' mounts' =>
      refine map_injective_iff.2 TlsSecretMount.json_injective
        (array_inj (mounts_isJson _) (mounts_isJson _) ?_)
      simpa using hrest

/-! ### Service ports -/

inductive ServicePortError
  | DuplicateListenerName (name : String)
  | DuplicatePortProtocol (port : UInt16) (protocol : String)
  deriving DecidableEq

def ServicePortError.text : ServicePortError → String
  | .DuplicateListenerName name => "duplicate listener name: " ++ name
  | .DuplicatePortProtocol port protocol =>
    "duplicate service port collision: " ++ protocol ++ ":" ++ toString port.toNat

def duplicateListenerName (seenNames : List String) : List Listener → Option String
  | [] => none
  | l :: ls =>
    if seenNames.contains l.name then some l.name
    else duplicateListenerName (l.name :: seenNames) ls

def addServicePort (ports : List ServicePortSpec) (l : Listener) : List ServicePortSpec :=
  if l.protocol == .UDP then ports
  else if ports.any fun p => p.port == l.port then ports
  else ports ++ [{ name := l.name, port := l.port, targetPort := l.port, protocol := "TCP" }]

def servicePortsFromListeners (gateway : Gateway) :
    Except ServicePortError (List ServicePortSpec) :=
  match duplicateListenerName [] gateway.spec.listeners with
  | some name => .error (.DuplicateListenerName name)
  | none => .ok (gateway.spec.listeners.foldl addServicePort [])

/-! ### Listener statuses -/

structure ListenerStatusIntent where
  name : String
  attachedRoutes : UInt32
  supportedKinds : List RouteGroupKind
  accepted : Bool
  rejectionReason : Option String
  resolvedRefs : Bool
  resolvedRefsReason : Option String
  deriving DecidableEq

def protocolSupportedKinds : ProtocolType → List RouteGroupKind
  | .HTTP | .HTTPS => [{ group := gatewayApiGroup, kind := "HTTPRoute" }]
  | .TCP => [{ group := gatewayApiGroup, kind := "TCPRoute" }]
  | .TLS => [{ group := gatewayApiGroup, kind := "TLSRoute" }]
  | .UDP => []

def routeGroupKindMatches (requested supported : RouteGroupKind) : Bool :=
  (requested.group == "" || requested.group == gatewayApiGroup) &&
    requested.kind == supported.kind && supported.group == gatewayApiGroup

def listenerStatusIntent (l : Listener) : ListenerStatusIntent :=
  let controllerSupportedKinds := protocolSupportedKinds l.protocol
  if l.protocol == .UDP then
    { name := l.name
      attachedRoutes := 0
      supportedKinds := []
      accepted := false
      rejectionReason :=
        some "UnsupportedProtocol: UDP listeners are not supported by this controller"
      resolvedRefs := true
      resolvedRefsReason := none }
  else
    let requestedKinds := (l.allowedRoutes.map AllowedRoutes.kinds).getD []
    let invalidRouteKinds := !requestedKinds.isEmpty && requestedKinds.any fun requested =>
      !controllerSupportedKinds.any (routeGroupKindMatches requested)
    { name := l.name
      attachedRoutes := 0
      supportedKinds :=
        if requestedKinds.isEmpty then controllerSupportedKinds
        else controllerSupportedKinds.filter fun supported =>
          requestedKinds.any fun requested => routeGroupKindMatches requested supported
      accepted := true
      rejectionReason := none
      resolvedRefs := !invalidRouteKinds
      resolvedRefsReason := if invalidRouteKinds then some "InvalidRouteKinds" else none }

def listenerStatusIntents (gateway : Gateway) : List ListenerStatusIntent :=
  gateway.spec.listeners.map listenerStatusIntent

namespace AttachmentPlan

def listenerSummary (plan : AttachmentPlan) (listenerName : String) :
    Option ListenerAttachmentSummary :=
  plan.listenerSummaries.find? fun s => s.listenerName == listenerName

def resultsForListener (plan : AttachmentPlan) (listenerName : String)
    (includeGatewayWide : Bool) : List RouteAttachmentResult :=
  plan.routeResults.filter fun r =>
    match r.listenerName with
    | some ln => ln == listenerName
    | none => includeGatewayWide

end AttachmentPlan

def ListenerStatusIntent.withAttachment (ap : AttachmentPlan) (intent : ListenerStatusIntent) :
    ListenerStatusIntent :=
  if intent.accepted then
    let counted :=
      match ap.listenerSummary intent.name with
      | some summary => { intent with attachedRoutes := summary.attachedRoutes }
      | none => intent
    if intent.resolvedRefs && (ap.resultsForListener intent.name true).any fun result =>
        result.status.resolvedRefsReason == some "RefNotPermitted" then
      { counted with resolvedRefs := false, resolvedRefsReason := some "RefNotPermitted" }
    else counted
  else intent

def listenerStatusIntentsWithAttachment (gateway : Gateway) :
    Option AttachmentPlan → List ListenerStatusIntent
  | none => listenerStatusIntents gateway
  | some ap => (listenerStatusIntents gateway).map (ListenerStatusIntent.withAttachment ap)

/-! ### The plan -/

structure RuntimePlanInput where
  gatewayNamespace : String
  gatewayName : String
  snapshot : PlannerSnapshot
  controllerConfig : ControllerConfig
  observed : ObservedRuntimeState

structure GatewayRuntimePlan where
  gatewayNamespace : String
  gatewayName : String
  gatewayUid : String
  gatewayGeneration : ℤ
  ownedObjectBaseName : String
  configMapName : String
  deploymentName : String
  serviceName : String
  serviceAccountName : String
  configHash : String
  specHash : String
  configToml : String
  runtimeMetadata : RuntimeMetadata
  serviceType : ServiceType
  servicePorts : List ServicePortSpec
  tlsSecretMounts : List TlsSecretMount
  listenerStatuses : List ListenerStatusIntent
  configChanged : Bool
  specChanged : Bool

def configTomlFromSnapshot (lib : Libraries) (order : HashOrder) (gatewayNs gatewayName : String)
    (s : PlannerSnapshot) : Except (Failure PlanError) String := do
  let config ← (configFromSnapshot gatewayNs gatewayName s).mapError .panic
  (lib.tomlToString (config.inOrder order)).mapError fun e => .error <| .InvalidInput <|
    "TOML serialization failed for gateway " ++ gatewayNs ++ "/" ++ gatewayName ++ ": " ++ e

namespace GatewayRuntimePlanner

def required {α : Type} (field : String) : Option α → Except (Failure PlanError) α
  | some a => .ok a
  | none => .error (.error (.MissingField field))

def runtimeMetadata (c : ControllerConfig) : RuntimeMetadata where
  image := c.proxyImage
  replicas := c.defaultReplicas
  resources := c.defaultResources
  nodeSelector := c.defaultNodeSelector

def assemble (lib : Libraries) (input : RuntimePlanInput) (gateway : Gateway) (gatewayUid : String)
    (gatewayGeneration : ℤ) (baseName : String) (servicePorts : List ServicePortSpec)
    (configToml : String) : GatewayRuntimePlan :=
  let metadata := runtimeMetadata input.controllerConfig
  let serviceType := input.controllerConfig.defaultServiceType
  let mounts := tlsSecretMounts input.gatewayNamespace gateway
  let specHash := specHashOf lib metadata serviceType servicePorts mounts
  let configHash := lib.sha256Hex configToml
  let attachment := attachmentPlan
    { gatewayNamespace := input.gatewayNamespace
      gatewayName := input.gatewayName
      gatewayGeneration := gatewayGeneration
      snapshot := input.snapshot }
  { gatewayNamespace := input.gatewayNamespace
    gatewayName := input.gatewayName
    gatewayUid := gatewayUid
    gatewayGeneration := gatewayGeneration
    ownedObjectBaseName := baseName
    configMapName := configMapName baseName
    deploymentName := deploymentName baseName
    serviceName := serviceName baseName
    serviceAccountName := serviceAccountName baseName
    configHash := configHash
    specHash := specHash
    configToml := configToml
    runtimeMetadata := metadata
    serviceType := serviceType
    servicePorts := servicePorts
    tlsSecretMounts := mounts
    listenerStatuses := listenerStatusIntentsWithAttachment gateway attachment.toOption
    -- without the object there is no hash, and the object has to be created
    configChanged := input.observed.currentConfigHash != some configHash
    specChanged := input.observed.currentSpecHash != some specHash }

def plan (lib : Libraries) (order : HashOrder) (input : RuntimePlanInput) :
    Except (Failure PlanError) GatewayRuntimePlan := do
  let gateway ← required "gateway (not found in snapshot)"
    (input.snapshot.gateway input.gatewayNamespace input.gatewayName)
  let gatewayUid ← required "gateway.metadata.uid" gateway.metadata.uid
  let gatewayGeneration ← required "gateway.metadata.generation" gateway.metadata.generation
  let baseName ← (ownedObjectBaseName lib input.gatewayName).mapError .panic
  let servicePorts ← (servicePortsFromListeners gateway).mapError fun e =>
    .error (.InvalidInput e.text)
  let configToml ← configTomlFromSnapshot lib order input.gatewayNamespace input.gatewayName
    input.snapshot
  .ok (assemble lib input gateway gatewayUid gatewayGeneration baseName servicePorts configToml)

theorem required_eq_ok {α : Type} {field : String} {o : Option α} {a : α} :
    required field o = .ok a ↔ o = some a := by
  cases o <;> simp [required]

structure PlanParts (lib : Libraries) (order : HashOrder) (input : RuntimePlanInput) where
  gateway : Gateway
  gatewayUid : String
  gatewayGeneration : ℤ
  baseName : String
  servicePorts : List ServicePortSpec
  configToml : String
  gateway_eq : input.snapshot.gateway input.gatewayNamespace input.gatewayName = some gateway
  uid_eq : gateway.metadata.uid = some gatewayUid
  generation_eq : gateway.metadata.generation = some gatewayGeneration
  baseName_eq : ownedObjectBaseName lib input.gatewayName = .ok baseName
  servicePorts_eq : servicePortsFromListeners gateway = .ok servicePorts
  configToml_eq : configTomlFromSnapshot lib order input.gatewayNamespace input.gatewayName
    input.snapshot = .ok configToml

def PlanParts.plan {lib : Libraries} {order : HashOrder} {input : RuntimePlanInput}
    (parts : PlanParts lib order input) : GatewayRuntimePlan :=
  assemble lib input parts.gateway parts.gatewayUid parts.gatewayGeneration parts.baseName
    parts.servicePorts parts.configToml

theorem plan_eq_ok {lib : Libraries} {order : HashOrder} {input : RuntimePlanInput}
    {p : GatewayRuntimePlan} :
    plan lib order input = .ok p ↔ ∃ parts : PlanParts lib order input, parts.plan = p := by
  constructor
  · intro h
    obtain ⟨gateway, hgateway, h⟩ := bind_eq_ok.1 h
    obtain ⟨uid, huid, h⟩ := bind_eq_ok.1 h
    obtain ⟨generation, hgeneration, h⟩ := bind_eq_ok.1 h
    obtain ⟨base, hbase, h⟩ := bind_eq_ok.1 h
    obtain ⟨ports, hports, h⟩ := bind_eq_ok.1 h
    obtain ⟨toml, htoml, h⟩ := bind_eq_ok.1 h
    exact ⟨⟨gateway, uid, generation, base, ports, toml, required_eq_ok.1 hgateway,
      required_eq_ok.1 huid, required_eq_ok.1 hgeneration, mapError_eq_ok.1 hbase,
      mapError_eq_ok.1 hports, htoml⟩, Except.ok.inj h⟩
  · rintro ⟨parts, rfl⟩
    refine bind_eq_ok.2 ⟨_, required_eq_ok.2 parts.gateway_eq, ?_⟩
    refine bind_eq_ok.2 ⟨_, required_eq_ok.2 parts.uid_eq, ?_⟩
    refine bind_eq_ok.2 ⟨_, required_eq_ok.2 parts.generation_eq, ?_⟩
    refine bind_eq_ok.2 ⟨_, mapError_eq_ok.2 parts.baseName_eq, ?_⟩
    refine bind_eq_ok.2 ⟨_, mapError_eq_ok.2 parts.servicePorts_eq, ?_⟩
    exact bind_eq_ok.2 ⟨_, parts.configToml_eq, rfl⟩

end GatewayRuntimePlanner

end Wicket
