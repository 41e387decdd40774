/-
**The ports of the Service of a Gateway.**

The first loop stops at a name that is there already, the second collects each port but those for
UDP once, under the name of its first listener.
-/

import Wicket.RuntimePlanner

namespace Wicket

open List ServicePortSpec

open Check (addNew firsts firsts_sublist firsts_isPrefix foldl_addNew_eq_firsts nodup_foldl_addNew
  exists_key_foldl_addNew)

/-! ### The two loops -/

/-- The port of a listener; every protocol is carried by TCP. -/
def ServicePortSpec.ofListener (l : Listener) : ServicePortSpec where
  name := l.name
  port := l.port
  targetPort := l.port
  protocol := "TCP"

/-- Listeners for UDP get no port. -/
def serviceListeners (listeners : List Listener) : List Listener :=
  listeners.filter fun l => l.protocol != .UDP

/-- Of the listeners with one port the first gives the entry. -/
def portListeners (listeners : List Listener) : List Listener :=
  firsts Listener.port (serviceListeners listeners)

theorem duplicateListenerName_eq_none {seenNames : List String} {listeners : List Listener} :
    duplicateListenerName seenNames listeners = none ↔
      (listeners.map Listener.name).Nodup ∧ ∀ l ∈ listeners, l.name ∉ seenNames := by
  induction listeners generalizing seenNames with
  | nil => simp [duplicateListenerName]
  | cons l listeners ih =>
    rw [duplicateListenerName]
    by_cases hseen : l.name ∈ seenNames
    · simp [hseen]
    · grind

variable (listeners : List Listener)

theorem foldl_addServicePort_filter (ports : List ServicePortSpec) :
    listeners.foldl addServicePort ports =
      (serviceListeners listeners).foldl (addNew port ofListener) ports := by
  induction listeners generalizing ports with
  | nil => rfl
  | cons l listeners ih =>
    have hfilter : serviceListeners (l :: listeners) =
        if l.protocol != .UDP then l :: serviceListeners listeners
        else serviceListeners listeners := filter_cons
    rw [foldl_cons, ih, hfilter, addServicePort]
    cases l.protocol <;> rfl

theorem foldl_addServicePort_eq :
    listeners.foldl addServicePort [] = (portListeners listeners).map ofListener := by
  rw [foldl_addServicePort_filter, foldl_addNew_eq_firsts]
  rfl

/-! ### The ports -/

theorem servicePortsFromListeners_eq_ok {gateway : Gateway} {ports : List ServicePortSpec} :
    servicePortsFromListeners gateway = .ok ports ↔
      (gateway.spec.listeners.map Listener.name).Nodup ∧
        ports = (portListeners gateway.spec.listeners).map ofListener := by
  have hnames := @duplicateListenerName_eq_none [] gateway.spec.listeners
  rw [servicePortsFromListeners]
  cases hdup : duplicateListenerName [] gateway.spec.listeners with
  | some name =>
    simp_all
  | none =>
    rw [foldl_addServicePort_eq, Except.ok.injEq, eq_comm]
    simp_all

theorem portListeners_sublist : (portListeners listeners).Sublist listeners :=
  (firsts_sublist _ _).trans filter_sublist

theorem portListeners_isPrefix (more : List Listener) :
    portListeners listeners <+: portListeners (listeners ++ more) := by
  rw [portListeners, portListeners, serviceListeners, serviceListeners, filter_append]
  exact firsts_isPrefix _ _ _

theorem nodup_portListeners : ((portListeners listeners).map Listener.port).Nodup := by
  have h := @nodup_foldl_addNew _ _ _ _ port ofListener
    (serviceListeners listeners) [] nodup_nil
  rw [foldl_addNew_eq_firsts, map_map] at h
  exact h

theorem port_mem_portListeners {listeners : List Listener} {l : Listener} (hl : l ∈ listeners)
    (hprotocol : l.protocol ≠ .UDP) : l.port ∈ (portListeners listeners).map Listener.port := by
  have hmem : l ∈ serviceListeners listeners := mem_filter.2 ⟨hl, by simpa using hprotocol⟩
  obtain ⟨p, hp, hport⟩ := (exists_key_foldl_addNew [] hmem :
    ∃ p ∈ (serviceListeners listeners).foldl (addNew port ofListener) [],
      p.port = (ofListener l).port)
  rw [foldl_addNew_eq_firsts] at hp
  obtain ⟨l', hl', rfl⟩ := mem_map.1 hp
  exact mem_map.2 ⟨l', hl', hport⟩

/-- **The ports of the Service** are those of the listeners other than UDP that are the first with
their port; there is an error exactly when two listeners have the same name. -/
theorem servicePortsFromListeners_spec (gateway : Gateway) :
    ((∃ e, servicePortsFromListeners gateway = .error e) ↔
      ¬(gateway.spec.listeners.map Listener.name).Nodup) ∧
    ∀ ports, servicePortsFromListeners gateway = .ok ports →
      ports = (portListeners gateway.spec.listeners).map ServicePortSpec.ofListener ∧
      (portListeners gateway.spec.listeners).Sublist gateway.spec.listeners ∧
      (ports.map ServicePortSpec.port).Nodup ∧ (ports.map ServicePortSpec.name).Nodup ∧
      (∀ l ∈ gateway.spec.listeners, l.protocol ≠ .UDP →
        (ports.map ServicePortSpec.port).count l.port = 1) ∧
      ∀ gateway' more ports', gateway'.spec.listeners = gateway.spec.listeners ++ more →
        servicePortsFromListeners gateway' = .ok ports' → ports <+: ports' := by
  constructor
  · have hok := @servicePortsFromListeners_eq_ok gateway
    cases hports : servicePortsFromListeners gateway with
    | error e =>
      simp only [hports, reduceCtorEq, false_iff] at hok
      refine iff_of_true ⟨e, rfl⟩ ?_
      intro hnames
      exact hok ⟨hnames, rfl⟩
    | ok ports =>
      rw [hports] at hok
      refine iff_of_false (by simp) ?_
      exact not_not_intro (hok.1 rfl).1
  · intro ports h
    obtain ⟨hnames, rfl⟩ := servicePortsFromListeners_eq_ok.1 h
    have hsub := portListeners_sublist gateway.spec.listeners
    have hports : ((portListeners gateway.spec.listeners).map
        ServicePortSpec.ofListener).map ServicePortSpec.port =
          (portListeners gateway.spec.listeners).map Listener.port := List.map_map
    have hnodup := nodup_portListeners gateway.spec.listeners
    refine ⟨rfl, hsub, ?_, ?_, ?_, ?_⟩
    · rw [hports]
      exact hnodup
    · rw [List.map_map]
      exact hnames.sublist (hsub.map Listener.name)
    · intro l hl hprotocol
      rw [hports]
      exact List.count_eq_one_of_mem hnodup (port_mem_portListeners hl hprotocol)
    · intro gateway' more ports' hmore h'
      obtain ⟨-, rfl⟩ := servicePortsFromListeners_eq_ok.1 h'
      rw [hmore]
      exact (portListeners_isPrefix _ more).map _

example : (portListeners [{ name := "dns", port := 53, protocol := .UDP },
    { name := "dns-tcp", port := 53, protocol := .TCP },
    { name := "dot", port := 53, protocol := .TLS }]).map Listener.name = ["dns-tcp"] := by decide

end Wicket
