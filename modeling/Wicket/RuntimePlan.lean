/-
**The runtime plan of a Gateway, as far as it is read from the snapshot.**

The configuration is generated from the part of the snapshot that belongs to the Gateway, with the
paths under which the Secrets of its listeners are mounted.
-/

import Wicket.Snapshot

namespace Wicket

open List KeyMap

/-! ### The configuration of a Gateway -/

/-- Where a Secret is mounted in the pods; its namespace is not part of the path. -/
def tlsMountDir (secretName : String) : String := "/etc/wicket/tls/" ++ secretName

/-- The paths of the certificates that the listeners refer to, as the pods see them. -/
def tlsSecretOverrides (gatewayNs : String) (gateway : Gateway) :
    HashMap String (String × String) :=
  let gwNs := gateway.metadata.ns.getD gatewayNs
  collect <| gateway.spec.listeners.flatMap fun l => l.certificateRefs.map fun ref =>
    (GatewayState.key (ref.ns.getD gwNs) ref.name,
      (tlsMountDir ref.name ++ "/tls.crt", tlsMountDir ref.name ++ "/tls.key"))

/-- What the configuration of one Gateway is generated from: its own routes and Secrets, and the
endpoints of all Services. -/
def configState (gatewayNs gatewayName : String) (s : PlannerSnapshot) : GatewayState where
  gateways :=
    match s.gateway gatewayNs gatewayName with
    | some gw => collect [(GatewayState.key gatewayNs gatewayName, gw)]
    | none => ∅
  httpRoutes := s.httpRoutes |> filterValues fun r =>
    routeReferencesGateway (r.metadata.ns.getD "default") r.spec.parentRefs gatewayNs gatewayName
  tcpRoutes := s.tcpRoutes |> filterValues fun r =>
    routeReferencesGateway (r.metadata.ns.getD "default") r.spec.parentRefs gatewayNs gatewayName
  tlsRoutes := s.tlsRoutes |> filterValues fun r =>
    routeReferencesGateway (r.metadata.ns.getD "default") r.spec.parentRefs gatewayNs gatewayName
  serviceEndpoints := s.serviceEndpoints
  tlsSecrets :=
    match s.gateway gatewayNs gatewayName with
    | some gw => tlsSecretOverrides gatewayNs gw
    | none => ∅

/-- The configuration of one Gateway. -/
def configFromSnapshot (gatewayNs gatewayName : String) (s : PlannerSnapshot) :
    Except Panic Config :=
  generateConfig (configState gatewayNs gatewayName s)

theorem lookup_tlsSecretOverrides {gatewayNs : String} {gateway : Gateway} {l : Listener}
    (hl : l ∈ gateway.spec.listeners) {ref : SecretObjectReference}
    (href : ref ∈ l.certificateRefs) :
    ∃ paths, (tlsSecretOverrides gatewayNs gateway).lookup
      (GatewayState.key (ref.ns.getD (gateway.metadata.ns.getD gatewayNs)) ref.name) =
        some paths := by
  rw [← Option.isSome_iff_exists, Option.isSome_iff_ne_none, tlsSecretOverrides,
    lookup_collect, ne_eq, lastWrite_eq_none]
  intro h
  exact h _ (mem_flatMap.2 ⟨l, hl, mem_map.2 ⟨ref, href, rfl⟩⟩) rfl

/-! ### The mounted Secrets -/

/-- A Secret as a volume of the pods. -/
structure TlsSecretMount where
  secretName : String
  secretNamespace : String
  mountPath : String
  deriving DecidableEq

def SecretObjectReference.mount (ref : SecretObjectReference) (gatewayNs : String) :
    TlsSecretMount where
  secretName := ref.name
  secretNamespace := ref.ns.getD gatewayNs
  mountPath := tlsMountDir ref.name

/-- A Secret is mounted once, however many listeners refer to it. -/
def addMount (gatewayNs : String) (mounts : List TlsSecretMount) (ref : SecretObjectReference) :
    List TlsSecretMount :=
  if mounts.any fun m => m.secretNamespace == ref.ns.getD gatewayNs && m.secretName == ref.name then
    mounts
  else mounts ++ [ref.mount gatewayNs]

/-- The order of the mounts: by namespace, then by name. -/
def TlsSecretMount.le (a b : TlsSecretMount) : Bool :=
  decide (a.secretNamespace < b.secretNamespace) ||
    (a.secretNamespace == b.secretNamespace && decide (a.secretName ≤ b.secretName))

/-- The Secrets of all listeners, each once, in order. -/
def tlsSecretMounts (gatewayNs : String) (gateway : Gateway) : List TlsSecretMount :=
  (gateway.spec.listeners.foldl (fun mounts l =>
    l.certificateRefs.foldl (addMount gatewayNs) mounts) []).insertionSort fun a b => a.le b = true

variable {gatewayNs : String} {m : TlsSecretMount}

theorem mem_addMount {mounts : List TlsSecretMount} {ref : SecretObjectReference}
    (hpaths : ∀ m ∈ mounts, m.mountPath = tlsMountDir m.secretName) :
    m ∈ addMount gatewayNs mounts ref ↔ m ∈ mounts ∨ m = ref.mount gatewayNs := by
  rw [addMount]
  split
  · rename_i hseen
    obtain ⟨m', hm', heq⟩ := any_eq_true.1 hseen
    simp only [Bool.and_eq_true, beq_iff_eq] at heq
    have hsame : m' = ref.mount gatewayNs := by
      cases m' with
      | mk name ns path =>
        obtain ⟨rfl, rfl⟩ := heq
        rw [SecretObjectReference.mount, TlsSecretMount.mk.injEq]
        exact ⟨rfl, rfl, hpaths _ hm'⟩
    constructor
    · exact Or.inl
    · rintro (hm | rfl)
      · exact hm
      · exact hsame ▸ hm'
  · simp

theorem mem_foldl_addMount (refs : List SecretObjectReference) {mounts : List TlsSecretMount}
    (hpaths : ∀ m ∈ mounts, m.mountPath = tlsMountDir m.secretName) :
    m ∈ refs.foldl (addMount gatewayNs) mounts ↔
      m ∈ mounts ∨ ∃ ref ∈ refs, m = SecretObjectReference.mount ref gatewayNs := by
  induction refs generalizing mounts with
  | nil => simp
  | cons ref refs ih =>
    have hstep : ∀ m ∈ addMount gatewayNs mounts ref, m.mountPath = tlsMountDir m.secretName := by
      intro m hm
      rcases (mem_addMount hpaths).1 hm with hm | rfl
      · exact hpaths m hm
      · rfl
    rw [foldl_cons, ih hstep, mem_addMount hpaths, exists_mem_cons_iff, or_assoc]

theorem mem_tlsSecretMounts {gateway : Gateway} :
    m ∈ tlsSecretMounts gatewayNs gateway ↔ ∃ l ∈ gateway.spec.listeners,
      ∃ ref ∈ l.certificateRefs, m = SecretObjectReference.mount ref gatewayNs := by
  rw [tlsSecretMounts, mem_insertionSort, ← foldl_flatMap, mem_foldl_addMount _ (by simp)]
  simp only [not_mem_nil, false_or, mem_flatMap]
  constructor
  · rintro ⟨ref, ⟨l, hl, href⟩, rfl⟩
    exact ⟨l, hl, ref, href, rfl⟩
  · rintro ⟨l, hl, ref, href, rfl⟩
    exact ⟨ref, ⟨l, hl, href⟩, rfl⟩

end Wicket
