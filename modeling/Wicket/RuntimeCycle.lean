/-
**One cycle of the managed runtime: observe, plan, apply, report.**

What has changed, and whether the Gateway is programmed, is read off annotations: an object that was
edited by hand keeps them, and is taken for what the controller has written.
-/

import Wicket.RuntimeApplier

namespace Wicket

open ManagedFields GatewayRuntimePlanner Except

/-! ### Observation -/

def textAt (obj : KubeObject) (path : Path) : Option String :=
  match obj.value path with
  | some (.text s) => some s
  | _ => none

def numberAt (obj : KubeObject) (path : Path) : Option ℤ :=
  match obj.value path with
  | some (.number n) => some n
  | _ => none

/-- The number without its sign, unless it is negative. -/
def unsigned (n : ℤ) : Option UInt32 := if 0 ≤ n then some (UInt32.ofNat n.toNat) else none

def statusPath (name : String) : Path := [.field "status", .field name]

def templateAnnotationPath (name : String) : Path :=
  [.field "spec", .field "template", .field "metadata", .field "annotations", .field name]

/-- Observes a Deployment.  The hash is taken from the pods when the Deployment does not have it;
the replicas default to one. -/
def observeDeployment (deploy : KubeObject) : DeployObservation where
  currentSpecHash := (textAt deploy (annotationPath specRevisionAnnotation)).or
    (textAt deploy (templateAnnotationPath specRevisionAnnotation))
  readyReplicas := (numberAt deploy (statusPath "readyReplicas")).bind unsigned
  deployObservedGeneration := numberAt deploy (statusPath "observedGeneration")
  deployGeneration := numberAt deploy [.field "metadata", .field "generation"]
  updatedReplicas := (numberAt deploy (statusPath "updatedReplicas")).bind unsigned
  availableReplicas := (numberAt deploy (statusPath "availableReplicas")).bind unsigned
  desiredReplicas :=
    some (((numberAt deploy [.field "spec", .field "replicas"]).bind unsigned).getD 1)

/-- Why a cycle is given up. -/
inductive ManagedRuntimeError
  | StoreNotReady (observed : ObservedRuntimeState)
  | Plan (e : String)
  | Apply (e : String)
  | ObservationError (e : String)
  deriving DecidableEq

def observeObject (api : ApiFaults) (st : RuntimeState) (kind : OwnedKind)
    (kindName ns name : String) :
    Except (Failure ManagedRuntimeError) (Option KubeObject) :=
  match api.get kind with
  | some e =>
    .error (.error (.ObservationError (kindName ++ " " ++ ns ++ "/" ++ name ++ ": " ++ e)))
  | none => .ok (st.objects (kind, ns, name))

def observedFrom (cm deploy : Option KubeObject) : ObservedRuntimeState where
  toDeployObservation := (deploy.map observeDeployment).getD {}
  currentConfigHash := cm.bind fun cm => textAt cm (annotationPath configRevisionAnnotation)

def observeRuntimeState (lib : Libraries) (api : ApiFaults) (st : RuntimeState) (gateway : Gateway)
    (ns : String) : Except (Failure ManagedRuntimeError) ObservedRuntimeState := do
  let base ← (ownedObjectBaseName lib (gateway.metadata.name.getD "")).mapError .panic
  let cm ← observeObject api st .ConfigMap "ConfigMap" ns (configMapName base)
  let deploy ← observeObject api st .Deployment "Deployment" ns (deploymentName base)
  .ok (observedFrom cm deploy)

/-! ### The cycle -/

def PlanError.text : PlanError → String
  | .MissingField field => "missing required field: " ++ field
  | .InvalidInput reason => "invalid input: " ++ reason

def ApplyError.text : ApplyError → String
  | .KubeApi e => "kubernetes API error: " ++ e
  | .Serialization e => "serialization error: " ++ e
  | .NotOwned ns name =>
    "object " ++ ns ++ "/" ++ name ++ " exists but is not managed by wicket-controller"

def Failure.map {ε δ : Type} (f : ε → δ) : Failure ε → Failure δ
  | .error e => .error (f e)
  | .panic p => .panic p

def cycleInput (controllerConfig : ControllerConfig) (snapshot : PlannerSnapshot)
    (gateway : Gateway) (observed : ObservedRuntimeState) : RuntimePlanInput where
  gatewayNamespace := gateway.metadata.ns.getD ""
  gatewayName := gateway.metadata.name.getD ""
  snapshot := snapshot
  controllerConfig := controllerConfig
  observed := observed

def reconcileManagedRuntime (lib : Libraries) (order : HashOrder) (api : ApiFaults)
    (controllerConfig : ControllerConfig) (snapshot : SnapshotResult PlannerSnapshot)
    (gateway : Gateway) (st : RuntimeState) :
    Except (Failure ManagedRuntimeError)
      (ObservedRuntimeState × RuntimeApplyResult × SnapshotResult PlannerSnapshot) ×
      RuntimeState :=
  match observeRuntimeState lib api st gateway (gateway.metadata.ns.getD "") with
  | .error e => (.error e, st)
  | .ok observed =>
    match snapshot with
    | .NotReady => (.error (.error (.StoreNotReady observed)), st)
    | .Ready s =>
      match GatewayRuntimePlanner.plan lib order
        (cycleInput controllerConfig s gateway observed) with
      | .error e => (.error (e.map fun e => .Plan e.text), st)
      | .ok plan =>
        match exec (applyRuntimePlan lib api plan) st with
        | (.error e, st') => (.error (e.map fun e => .Apply e.text), st')
        | (.ok result, st') => (.ok (observed, result, .Ready s), st')

inductive ManagedRuntimeInput
  | Applied (observed : ObservedRuntimeState) (applyResult : RuntimeApplyResult)
      (snapshot : SnapshotResult PlannerSnapshot)
  | StoreNotReady (observed : ObservedRuntimeState)
  | ObservationFault (msg : String)

structure ManagedStatusOutcome where
  programmed : Bool
  onlyStoreNotReady : Bool
  observationFault : Option String
  observedGeneration : Option ℤ
  deriving DecidableEq

/-- Whether the Gateway is programmed.  After a change of the Deployment the observation is out of
date and not used. -/
def resolveManagedStatusOutcome (input : ManagedRuntimeInput) (storeReady : Bool)
    (gatewayGeneration : Option ℤ) : ManagedStatusOutcome :=
  match input with
  | .Applied observed applyResult _ =>
    let applyMutated := applyResult.rolloutTriggered || applyResult.deploymentChanged
    let programmed := if applyMutated then false else isRolloutConverged observed
    { programmed := programmed
      onlyStoreNotReady := !applyMutated && !programmed && !storeReady
      observationFault := none
      observedGeneration := gatewayGeneration }
  | .ObservationFault msg =>
    { programmed := false
      onlyStoreNotReady := false
      observationFault := some msg
      observedGeneration := gatewayGeneration }
  | .StoreNotReady observed =>
    let programmed := isRolloutConverged observed
    { programmed := programmed
      onlyStoreNotReady := !programmed && !storeReady
      observationFault := none
      observedGeneration := gatewayGeneration }

/-- A cycle in which everything succeeds and nobody else writes. -/
structure RuntimeCycle (lib : Libraries) where
  order : HashOrder
  api : ApiFaults
  controllerConfig : ControllerConfig
  snapshot : PlannerSnapshot
  gateway : Gateway
  before : RuntimeState
  observed : ObservedRuntimeState
  plan : GatewayRuntimePlan
  result : RuntimeApplyResult
  after : RuntimeState
  observe_eq :
    observeRuntimeState lib api before gateway (gateway.metadata.ns.getD "") = .ok observed
  plan_eq : GatewayRuntimePlanner.plan lib order
    (cycleInput controllerConfig snapshot gateway observed) = .ok plan
  apply_eq : exec (applyRuntimePlan lib api plan) before = (.ok result, after)

variable {lib : Libraries}

theorem reconcileManagedRuntime_ok {order : HashOrder} {api : ApiFaults}
    {controllerConfig : ControllerConfig} {snapshot snapshot' : SnapshotResult PlannerSnapshot}
    {gateway : Gateway} {st st' : RuntimeState} {observed : ObservedRuntimeState}
    {result : RuntimeApplyResult}
    (h : reconcileManagedRuntime lib order api controllerConfig snapshot gateway st =
      (.ok (observed, result, snapshot'), st')) :
    ∃ c : RuntimeCycle lib, c.gateway = gateway ∧ c.before = st ∧ c.after = st' ∧
      c.observed = observed ∧ c.result = result ∧ snapshot' = .Ready c.snapshot := by
  rw [reconcileManagedRuntime] at h
  cases hobserve : observeRuntimeState lib api st gateway (gateway.metadata.ns.getD "") with
  | error e =>
    rw [hobserve] at h
    cases (Prod.mk.inj h).1
  | ok obs =>
    rw [hobserve] at h
    cases snapshot with
    | NotReady => cases (Prod.mk.inj h).1
    | Ready s =>
      simp only at h
      cases hplan : plan lib order (cycleInput controllerConfig s gateway obs) with
      | error e =>
        rw [hplan] at h
        cases (Prod.mk.inj h).1
      | ok p =>
        rw [hplan] at h
        simp only at h
        rcases happly : exec (applyRuntimePlan lib api p) st with ⟨e | r, st₁⟩
        · rw [happly] at h
          cases (Prod.mk.inj h).1
        · rw [happly] at h
          cases h
          exact ⟨⟨order, api, controllerConfig, s, gateway, st, _, p, _, _, hobserve, hplan,
            happly⟩, rfl, rfl, rfl, rfl, rfl, rfl⟩

namespace RuntimeCycle

variable {lib : Libraries} (c : RuntimeCycle lib)

def outcome : ManagedStatusOutcome :=
  resolveManagedStatusOutcome (.Applied c.observed c.result (.Ready c.snapshot)) true
    c.gateway.metadata.generation

theorem applied : Applied c.plan c.before c.after c.result := applyRuntimePlan_ok c.apply_eq

theorem observed_eq : c.observed =
    observedFrom (c.before.objects c.plan.configMapKey)
      (c.before.objects c.plan.deploymentKey) := by
  obtain ⟨parts, hparts⟩ := plan_eq_ok.1 c.plan_eq
  obtain ⟨base, hbase, h⟩ := Check.bind_eq_ok.1 c.observe_eq
  obtain ⟨cm, hcm, h⟩ := Check.bind_eq_ok.1 h
  obtain ⟨deploy, hdeploy, h⟩ := Check.bind_eq_ok.1 h
  -- the observation and the planner make the names from the same base
  have hsame : base = parts.baseName :=
    ok.inj ((Check.mapError_eq_ok.1 hbase).symm.trans parts.baseName_eq)
  have hread : ∀ {kind : OwnedKind} {kindName ns name : String} {obj : Option KubeObject},
      observeObject c.api c.before kind kindName ns name = .ok obj →
        obj = c.before.objects (kind, ns, name) := by
    intro kind kindName ns name obj hobj
    rw [observeObject] at hobj
    split at hobj
    · cases hobj
    · exact (ok.inj hobj).symm
  obtain rfl := hread hcm
  obtain rfl := hread hdeploy
  rw [← ok.inj h, ← hparts, hsame]
  rfl

theorem configChanged_eq_false : c.plan.configChanged = false ↔
    ∃ cm, c.before.objects c.plan.configMapKey = some cm ∧
      textAt cm (annotationPath configRevisionAnnotation) = some c.plan.configHash := by
  obtain ⟨parts, hparts⟩ := plan_eq_ok.1 c.plan_eq
  have hchanged : c.plan.configChanged =
      (c.observed.currentConfigHash != some c.plan.configHash) := by
    rw [← hparts]
    rfl
  rw [hchanged, bne_eq_false_iff_eq, c.observed_eq]
  exact Option.bind_eq_some_iff

theorem specChanged_eq_false : c.plan.specChanged = false ↔
    ∃ deploy, c.before.objects c.plan.deploymentKey = some deploy ∧
      (observeDeployment deploy).currentSpecHash = some c.plan.specHash := by
  obtain ⟨parts, hparts⟩ := plan_eq_ok.1 c.plan_eq
  have hchanged : c.plan.specChanged = (c.observed.currentSpecHash != some c.plan.specHash) := by
    rw [← hparts]
    rfl
  rw [hchanged, bne_eq_false_iff_eq, c.observed_eq]
  cases c.before.objects c.plan.deploymentKey <;> simp [observedFrom]

end RuntimeCycle

/-! ### Repair -/

def tomlPath : Path := [.field "data", .field "wicket.toml"]

structure Repaired (plan : GatewayRuntimePlan) (st : RuntimeState) : Prop where
  configMap : ∃ cm, st.objects plan.configMapKey = some cm ∧
    cm.value tomlPath = some (.text plan.configToml)
  service : ∃ svc, st.objects plan.serviceKey = some svc ∧
    ∀ f ∈ serviceFields plan, svc.value f.1 = some f.2
  deployment : ∃ deploy fields, st.objects plan.deploymentKey = some deploy ∧
    deploymentFields plan = .ok fields ∧ ∀ f ∈ fields, deploy.value f.1 = some f.2

theorem toml_mem_configMapFields (plan : GatewayRuntimePlan) :
    (tomlPath, Leaf.text plan.configToml) ∈ configMapFields plan :=
  List.mem_append_right _ (List.mem_singleton.2 rfl)

/-- **Everything is repaired exactly when no ConfigMap has the annotation of the planned
configuration with other data.** -/
theorem repaired_iff {lib : Libraries} (c : RuntimeCycle lib) :
    Repaired c.plan c.after ↔
      ∀ cm, c.before.objects c.plan.configMapKey = some cm →
        textAt cm (annotationPath configRevisionAnnotation) = some c.plan.configHash →
          cm.value tomlPath = some (.text c.plan.configToml) := by
  have happlied := c.applied
  constructor
  · intro h cm hcm hannotation
    have hunchanged := c.configChanged_eq_false.2 ⟨cm, hcm, hannotation⟩
    obtain ⟨cm', hcm', htoml⟩ := h.configMap
    rcases happlied.configMap with ⟨-, hchanged, -⟩ | ⟨-, hsame⟩
    · rw [hunchanged] at hchanged
      cases hchanged
    · rw [hsame, hcm] at hcm'
      cases hcm'
      exact htoml
  · intro h
    obtain ⟨hservice, hsvc⟩ := happlied.service
    obtain ⟨fields, hfields, hnodup, hdeploy⟩ := happlied.deployment
    refine ⟨?_, ⟨_, hsvc, fun f hf => Object.value_apply_of_mem hservice hf⟩,
      ⟨_, fields, hdeploy, hfields, fun f hf => Object.value_apply_of_mem hnodup hf⟩⟩
    rcases happlied.configMap with ⟨hnodup, -, hpatched⟩ | ⟨hunchanged, hsame⟩
    · exact ⟨_, hpatched, Object.value_apply_of_mem hnodup (toml_mem_configMapFields c.plan)⟩
    · obtain ⟨cm, hcm, hannotation⟩ := c.configChanged_eq_false.1 hunchanged
      exact ⟨cm, hsame.trans hcm, h cm hcm hannotation⟩

/-! ### A ConfigMap that was edited by hand -/

open JsonText in
/-- The ports for HTTP, the upstreams of the routes and the names of the streams. -/
def Config.outline (c : Config) : List Char :=
  array [array ((c.server.listen :: c.server.httpListens).map fun a => a.port.toNat.repr.toList),
    array (c.routes.map fun r => quote r.upstream), array (c.streams.map fun sc => quote sc.name)]

def plainLibraries : Libraries where
  sha256Hex s := "sha256:" ++ s
  tomlToString c := .ok (String.ofList c.outline)
  tomlFromStr _ := .ok Config.default

def tidyGateway : Gateway where
  metadata := { ns := some "team", name := some "tidy", uid := some "u1", generation := some 1 }
  spec :=
    { gatewayClassName := "wicket"
      listeners := [{ name := "http", port := 80, protocol := .HTTP }] }

def tidySnapshot : PlannerSnapshot where
  gateways := KeyMap.collect [("team/tidy", tidyGateway)]

def tidyPorts : List ServicePortSpec :=
  [{ name := "http", port := 80, targetPort := 80, protocol := "TCP" }]

def tidyPlan (observed : ObservedRuntimeState) : GatewayRuntimePlan :=
  GatewayRuntimePlanner.assemble plainLibraries
    (cycleInput {} tidySnapshot tidyGateway observed) tidyGateway "u1" 1 "wicket-gw-tidy" tidyPorts
    "[[80],[],[]]"

def objectOf (fields : Fields) : KubeObject where
  value p := fields.lookup p

def editedConfigMap : KubeObject := objectOf
  [(labelPath labelManagedBy, .text "wicket-controller"),
    (annotationPath configRevisionAnnotation, .text "sha256:[[80],[],[]]"),
    (tomlPath, .text "[[81],[],[]]")]

def editedState : RuntimeState where
  objects key :=
    if key = (.ConfigMap, "team", "wicket-gw-tidy-config") then some editedConfigMap else none

def editedCycle : RuntimeCycle plainLibraries where
  order := .asListed
  api := {}
  controllerConfig := {}
  snapshot := tidySnapshot
  gateway := tidyGateway
  before := editedState
  observed := observedFrom (some editedConfigMap) none
  plan := tidyPlan (observedFrom (some editedConfigMap) none)
  result := ⟨true, some .NoOp, true, true, true⟩
  after := (exec (applyRuntimePlan plainLibraries {}
    (tidyPlan (observedFrom (some editedConfigMap) none))) editedState).2
  observe_eq := rfl
  plan_eq := rfl
  apply_eq := rfl

theorem editedConfigMap_not_repaired :
    editedCycle.after.objects editedCycle.plan.configMapKey = some editedConfigMap ∧
      ¬Repaired editedCycle.plan editedCycle.after := by
  have hkept : editedCycle.after.objects editedCycle.plan.configMapKey = some editedConfigMap := rfl
  refine ⟨hkept, fun h => ?_⟩
  obtain ⟨cm, hcm, htoml⟩ := h.configMap
  obtain rfl := Option.some.inj (hkept.symm.trans hcm)
  exact absurd htoml (by decide)

/-! ### Programmed -/

/-- The value of a field of the Deployment; a Deployment that does not exist has no fields. -/
def RuntimeState.deploymentValue (st : RuntimeState) (plan : GatewayRuntimePlan) (p : Path) :
    Option Leaf :=
  ((st.objects plan.deploymentKey).getD {}).value p

def InSpec (p : Path) : Prop := p.head? = some (.field "spec")

def RuntimeCycle.ChangesSpec {lib : Libraries} (c : RuntimeCycle lib) : Prop :=
  ∃ p, InSpec p ∧ c.after.deploymentValue c.plan p ≠ c.before.deploymentValue c.plan p

theorem RuntimeCycle.changesSpec_iff (c : RuntimeCycle lib) {fields : Fields}
    (hfields : deploymentFields c.plan = .ok fields) :
    c.ChangesSpec ↔ ∃ p, InSpec p ∧
      ¬((c.before.objects c.plan.deploymentKey).getD {}).Settled fields p := by
  obtain ⟨fields', hfields', -, hdeploy⟩ := c.applied.deployment
  obtain rfl := ok.inj (hfields.symm.trans hfields')
  simp [ChangesSpec, RuntimeState.deploymentValue, hdeploy, Object.value_apply_eq_iff]

theorem RuntimeCycle.programmed_iff (c : RuntimeCycle lib) :
    c.outcome.programmed = true ↔
      c.plan.specChanged = false ∧ isRolloutConverged c.observed = true := by
  have happlied := c.applied
  have hexists : c.plan.specChanged = false →
      (c.before.objects c.plan.deploymentKey).isSome = true := by
    intro h
    obtain ⟨deploy, hdeploy, -⟩ := c.specChanged_eq_false.1 h
    rw [hdeploy]
    rfl
  simp only [outcome, resolveManagedStatusOutcome, happlied.rolloutTriggered,
    happlied.deploymentChanged]
  cases hchanged : c.plan.specChanged with
  | true => simp
  | false => simp [hexists hchanged]

/-- **A changed Deployment is never reported as programmed** exactly when one with the annotation of
the plan that has converged is already as planned. -/
theorem staleFree_iff {lib : Libraries} (c : RuntimeCycle lib) :
    (c.ChangesSpec → c.outcome.programmed = false) ↔
      ∀ deploy, c.before.objects c.plan.deploymentKey = some deploy →
        (observeDeployment deploy).currentSpecHash = some c.plan.specHash →
          isRolloutConverged c.observed = true →
            ∀ fields, deploymentFields c.plan = .ok fields →
              ∀ p, InSpec p → deploy.Settled fields p := by
  constructor
  · intro h deploy hdeploy hhash hconverged fields hfields p hp
    by_contra hsettled
    have hchanges : c.ChangesSpec := by
      rw [c.changesSpec_iff hfields, hdeploy]
      exact ⟨p, hp, hsettled⟩
    have hprogrammed := c.programmed_iff.2
      ⟨c.specChanged_eq_false.2 ⟨deploy, hdeploy, hhash⟩, hconverged⟩
    rw [h hchanges] at hprogrammed
    cases hprogrammed
  · intro h hchanges
    rw [Bool.eq_false_iff]
    intro hprogrammed
    obtain ⟨hunchanged, hconverged⟩ := c.programmed_iff.1 hprogrammed
    obtain ⟨deploy, hdeploy, hhash⟩ := c.specChanged_eq_false.1 hunchanged
    obtain ⟨fields, hfields, -, -⟩ := c.applied.deployment
    obtain ⟨p, hp, hsettled⟩ := (c.changesSpec_iff hfields).1 hchanges
    rw [hdeploy] at hsettled
    exact hsettled (h deploy hdeploy hhash hconverged fields hfields p hp)

/-! ### A Deployment that was scaled by hand -/

def scaledDeployment : KubeObject := objectOf
  [(labelPath labelManagedBy, .text "wicket-controller"),
    (annotationPath specRevisionAnnotation, .text (specHashOf plainLibraries
      (GatewayRuntimePlanner.runtimeMetadata {}) .ClusterIP tidyPorts [])),
    ([.field "metadata", .field "generation"], .number 2),
    ([.field "spec", .field "replicas"], .number 3),
    (statusPath "observedGeneration", .number 2),
    (statusPath "updatedReplicas", .number 3),
    (statusPath "availableReplicas", .number 3),
    (statusPath "readyReplicas", .number 3)]

def scaledState : RuntimeState where
  objects key :=
    if key = (.Deployment, "team", "wicket-gw-tidy-deploy") then some scaledDeployment else none

def scaledPlan : GatewayRuntimePlan := tidyPlan (observedFrom none (some scaledDeployment))

def scaledCycle : RuntimeCycle plainLibraries where
  order := .asListed
  api := {}
  controllerConfig := {}
  snapshot := tidySnapshot
  gateway := tidyGateway
  before := scaledState
  observed := observedFrom none (some scaledDeployment)
  plan := scaledPlan
  result := ⟨true, some (.Updated "sha256:[[80],[],[]]"), true, scaledPlan.specChanged,
    scaledPlan.specChanged⟩
  after := (exec (applyRuntimePlan plainLibraries {} scaledPlan) scaledState).2
  observe_eq := rfl
  plan_eq := rfl
  apply_eq := rfl

theorem scaledDeployment_programmed :
    scaledCycle.ChangesSpec ∧ scaledCycle.outcome.programmed = true := by
  constructor
  · refine ⟨[.field "spec", .field "replicas"], rfl, ?_⟩
    decide
  · have hunchanged := scaledCycle.specChanged_eq_false.2 ⟨scaledDeployment, rfl, rfl⟩
    exact scaledCycle.programmed_iff.2 ⟨hunchanged, rfl⟩

end Wicket
