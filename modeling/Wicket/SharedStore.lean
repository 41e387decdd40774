/-
**The operations of the shared store, and their interleavings.**

Every operation writes under a lock, and computes the indices anew before it releases it; only a
replacement of all contents computes the reverse index later.
-/

import Wicket.Store

namespace Wicket

open List KeyMap StoreInner

/-! ### The operations -/

structure SharedStore where
  inner : StoreInner := {}
  reverseIndex : ReverseIndexInner := {}

abbrev SharedStore.snapshot (s : SharedStore) : PlannerSnapshot := s.inner.toPlannerSnapshot

def SharedStore.reindexed (inner : StoreInner) : SharedStore where
  inner := inner
  reverseIndex := rebuildFromStore inner

namespace SharedStore

/-- The snapshot for the planners, once every class of resources has been listed. -/
def plannerSnapshot (s : SharedStore) : SnapshotResult PlannerSnapshot :=
  if !s.inner.isComplete then .NotReady else .Ready s.snapshot

def upsertGateway (s : SharedStore) (key : String) (gateway : Gateway) : SharedStore :=
  reindexed { s.inner with gateways := s.inner.gateways.insert key gateway }

def removeGateway (s : SharedStore) (key : String) : SharedStore :=
  reindexed { s.inner with gateways := s.inner.gateways.erase key }

def upsertHttpRoute (s : SharedStore) (key : String) (route : HTTPRoute) : SharedStore :=
  reindexed <| StoreInner.rebuildServiceIndex
    { s.inner with httpRoutes := s.inner.httpRoutes.insert key route }

def removeHttpRoute (s : SharedStore) (key : String) : SharedStore :=
  reindexed <| StoreInner.rebuildServiceIndex
    { s.inner with httpRoutes := s.inner.httpRoutes.erase key }

def upsertTcpRoute (s : SharedStore) (key : String) (route : TCPRoute) : SharedStore :=
  reindexed <| StoreInner.rebuildServiceIndex
    { s.inner with tcpRoutes := s.inner.tcpRoutes.insert key route }

def removeTcpRoute (s : SharedStore) (key : String) : SharedStore :=
  reindexed <| StoreInner.rebuildServiceIndex
    { s.inner with tcpRoutes := s.inner.tcpRoutes.erase key }

def upsertTlsRoute (s : SharedStore) (key : String) (route : TLSRoute) : SharedStore :=
  reindexed <| StoreInner.rebuildServiceIndex
    { s.inner with tlsRoutes := s.inner.tlsRoutes.insert key route }

def removeTlsRoute (s : SharedStore) (key : String) : SharedStore :=
  reindexed <| StoreInner.rebuildServiceIndex
    { s.inner with tlsRoutes := s.inner.tlsRoutes.erase key }

def markListed (s : SharedStore) (rc : ResourceClass) : SharedStore :=
  match s.inner.phase with
  | .Warming listed =>
    let phase := if ResourceClass.all.all fun c => c ∈ insert rc listed then .Ready
      else .Warming (insert rc listed)
    { s with inner := { s.inner with phase := phase } }
  | .Ready => s

/-- Takes over the contents of a collected state; stored Secrets stay as they are. -/
def ingestGatewayState (s : SharedStore) (state : GatewayState) : SharedStore :=
  reindexed <| StoreInner.rebuildServiceIndex
    { s.inner with
      gateways := state.gateways
      httpRoutes := state.httpRoutes
      tcpRoutes := state.tcpRoutes
      tlsRoutes := state.tlsRoutes
      serviceEndpoints := state.serviceEndpoints
      tlsSecrets := (entries state.tlsSecrets).foldl (fun secrets e =>
        if (secrets.lookup e.1).isSome then secrets else secrets.insert e.1 e.2)
        s.inner.tlsSecrets }

end SharedStore

inductive StoreWrite
  | upsertGateway (key : String) (gateway : Gateway)
  | removeGateway (key : String)
  | upsertGatewayClass (key : String) (gc : GatewayClass)
  | removeGatewayClass (key : String)
  | upsertHttpRoute (key : String) (route : HTTPRoute)
  | removeHttpRoute (key : String)
  | upsertTcpRoute (key : String) (route : TCPRoute)
  | removeTcpRoute (key : String)
  | upsertTlsRoute (key : String) (route : TLSRoute)
  | removeTlsRoute (key : String)
  | upsertEndpoints (key : String) (endpoints : ServiceEndpoints)
  | removeEndpoints (key : String)
  | upsertServicePresence (key : String)
  | replaceServicePresence (presence : Finset String)
  | removeServicePresence (key : String)
  | upsertTlsSecret (key certPath keyPath : String)
  | removeTlsSecret (key : String)
  | upsertReferenceGrant (key : String) (grant : ReferenceGrant)
  | removeReferenceGrant (key : String)
  | upsertNamespaceLabels (ns : String) (labels : Std.TreeMap String String)
  | removeNamespaceLabels (ns : String)
  | markListed (rc : ResourceClass)
  | markReady
  | ingestGatewayState (state : GatewayState)

def StoreWrite.apply (s : SharedStore) : StoreWrite → SharedStore
  | .upsertGateway key gateway => s.upsertGateway key gateway
  | .removeGateway key => s.removeGateway key
  | .upsertGatewayClass key gc =>
    { s with inner := { s.inner with gatewayClasses := s.inner.gatewayClasses.insert key gc } }
  | .removeGatewayClass key =>
    { s with inner := { s.inner with gatewayClasses := s.inner.gatewayClasses.erase key } }
  | .upsertHttpRoute key route => s.upsertHttpRoute key route
  | .removeHttpRoute key => s.removeHttpRoute key
  | .upsertTcpRoute key route => s.upsertTcpRoute key route
  | .removeTcpRoute key => s.removeTcpRoute key
  | .upsertTlsRoute key route => s.upsertTlsRoute key route
  | .removeTlsRoute key => s.removeTlsRoute key
  | .upsertEndpoints key endpoints =>
    { s with inner :=
      { s.inner with serviceEndpoints := s.inner.serviceEndpoints.insert key endpoints } }
  | .removeEndpoints key =>
    { s with inner := { s.inner with serviceEndpoints := s.inner.serviceEndpoints.erase key } }
  | .upsertServicePresence key =>
    { s with inner := { s.inner with servicePresence := insert key s.inner.servicePresence } }
  | .replaceServicePresence presence =>
    { s with inner := { s.inner with servicePresence := presence } }
  | .removeServicePresence key =>
    { s with inner := { s.inner with servicePresence := s.inner.servicePresence.erase key } }
  | .upsertTlsSecret key certPath keyPath =>
    { s with inner :=
      { s.inner with tlsSecrets := s.inner.tlsSecrets.insert key (certPath, keyPath) } }
  | .removeTlsSecret key =>
    { s with inner := { s.inner with tlsSecrets := s.inner.tlsSecrets.erase key } }
  | .upsertReferenceGrant key grant =>
    { s with inner :=
      { s.inner with referenceGrants := s.inner.referenceGrants.insert key grant } }
  | .removeReferenceGrant key =>
    { s with inner := { s.inner with referenceGrants := s.inner.referenceGrants.erase key } }
  | .upsertNamespaceLabels ns labels =>
    { s with inner :=
      { s.inner with namespaceLabels := s.inner.namespaceLabels.insert ns labels } }
  | .removeNamespaceLabels ns =>
    { s with inner := { s.inner with namespaceLabels := s.inner.namespaceLabels.erase ns } }
  | .markListed rc => s.markListed rc
  | .markReady => { s with inner := { s.inner with phase := .Ready } }
  | .ingestGatewayState state => s.ingestGatewayState state

/-- All operations: those with one critical section, and the replacement of all contents. -/
inductive StoreOp
  | write (w : StoreWrite)
  | replaceAll (new : StoreInner)

/-- The effect of an operation that is not interrupted. -/
def StoreOp.run (s : SharedStore) : StoreOp → SharedStore
  | .write w => w.apply s
  | .replaceAll new => SharedStore.reindexed new.rebuildServiceIndex

/-! ### Objects under their own keys -/

def StoreWrite.Keyed : StoreWrite → Prop
  | .upsertHttpRoute key route => route.metadata.KeyedBy key
  | .upsertTcpRoute key route => route.metadata.KeyedBy key
  | .upsertTlsRoute key route => route.metadata.KeyedBy key
  | .ingestGatewayState state =>
    StoreInner.Keyed
      { httpRoutes := state.httpRoutes
        tcpRoutes := state.tcpRoutes
        tlsRoutes := state.tlsRoutes }
  | _ => True

def StoreOp.Keyed : StoreOp → Prop
  | .write w => w.Keyed
  | .replaceAll new => new.Keyed

structure StoreInner.SameRoutes (inner inner' : StoreInner) : Prop where
  http : inner'.httpRoutes = inner.httpRoutes
  tcp : inner'.tcpRoutes = inner.tcpRoutes
  tls : inner'.tlsRoutes = inner.tlsRoutes

variable {inner inner' : StoreInner} {s : SharedStore}

theorem StoreInner.SameRoutes.stores (h : inner.SameRoutes inner') {key : String} {route : Route} :
    inner'.Stores key route ↔ inner.Stores key route := by
  cases route with
  | http r => rw [StoreInner.Stores, h.http, StoreInner.Stores]
  | tcp r => rw [StoreInner.Stores, h.tcp, StoreInner.Stores]
  | tls r => rw [StoreInner.Stores, h.tls, StoreInner.Stores]

theorem StoreInner.SameRoutes.keyed (h : inner.SameRoutes inner') (hkeyed : inner.Keyed) :
    inner'.Keyed :=
  fun key route hstores => hkeyed key route (h.stores.1 hstores)

def KeyedMap {ρ : Type} (metadata : ρ → ObjectMeta) (m : HashMap String ρ) : Prop :=
  ∀ key r, m.lookup key = some r → (metadata r).KeyedBy key

section KeyedMap

variable {ρ : Type} {metadata : ρ → ObjectMeta} {m : HashMap String ρ}

theorem KeyedMap.insert (h : KeyedMap metadata m) {key : String} {r : ρ}
    (hr : (metadata r).KeyedBy key) : KeyedMap metadata (m.insert key r) := by
  intro k r' hlookup
  rcases lookup_insert_cases hlookup with ⟨rfl, rfl⟩ | hlookup
  · exact hr
  · exact h k r' hlookup

theorem KeyedMap.erase (h : KeyedMap metadata m) (key : String) : KeyedMap metadata (m.erase key) :=
  fun k r hlookup => h k r (lookup_of_lookup_erase hlookup)

end KeyedMap

theorem StoreInner.keyed_iff :
    inner.Keyed ↔ KeyedMap HTTPRoute.metadata inner.httpRoutes ∧
      KeyedMap TCPRoute.metadata inner.tcpRoutes ∧ KeyedMap TLSRoute.metadata inner.tlsRoutes := by
  constructor
  · intro h
    exact ⟨fun key r => h key (.http r), fun key r => h key (.tcp r), fun key r => h key (.tls r)⟩
  · rintro ⟨hhttp, htcp, htls⟩ key route hstores
    cases route with
    | http r => exact hhttp key r hstores
    | tcp r => exact htcp key r hstores
    | tls r => exact htls key r hstores

theorem StoreWrite.apply_cases (hkeyed : s.inner.Keyed) {w : StoreWrite} (hw : w.Keyed) :
    (s.inner.SameRoutes (w.apply s).inner ∧
      (w.apply s).inner.serviceRefIndex = s.inner.serviceRefIndex ∧
      ((w.apply s).inner.gateways = s.inner.gateways ∧ (w.apply s).reverseIndex = s.reverseIndex ∨
        w.apply s = SharedStore.reindexed (w.apply s).inner)) ∨
    ∃ inner : StoreInner, inner.Keyed ∧
      w.apply s = SharedStore.reindexed inner.rebuildServiceIndex := by
  have hsame : ∀ inner' : StoreInner, inner'.httpRoutes = s.inner.httpRoutes →
      inner'.tcpRoutes = s.inner.tcpRoutes → inner'.tlsRoutes = s.inner.tlsRoutes →
      s.inner.SameRoutes inner' := fun _ h₁ h₂ h₃ => ⟨h₁, h₂, h₃⟩
  obtain ⟨hhttp, htcp, htls⟩ := keyed_iff.1 hkeyed
  cases w with
  | upsertGateway | removeGateway => exact Or.inl ⟨hsame _ rfl rfl rfl, rfl, Or.inr rfl⟩
  | upsertHttpRoute key r =>
    refine Or.inr ⟨_, keyed_iff.2 ?_, rfl⟩
    exact ⟨hhttp.insert hw, htcp, htls⟩
  | removeHttpRoute key =>
    refine Or.inr ⟨_, keyed_iff.2 ?_, rfl⟩
    exact ⟨hhttp.erase key, htcp, htls⟩
  | upsertTcpRoute key r =>
    refine Or.inr ⟨_, keyed_iff.2 ?_, rfl⟩
    exact ⟨hhttp, htcp.insert hw, htls⟩
  | removeTcpRoute key =>
    refine Or.inr ⟨_, keyed_iff.2 ?_, rfl⟩
    exact ⟨hhttp, htcp.erase key, htls⟩
  | upsertTlsRoute key r =>
    refine Or.inr ⟨_, keyed_iff.2 ?_, rfl⟩
    exact ⟨hhttp, htcp, htls.insert hw⟩
  | removeTlsRoute key =>
    refine Or.inr ⟨_, keyed_iff.2 ?_, rfl⟩
    exact ⟨hhttp, htcp, htls.erase key⟩
  | markListed rc =>
    rw [StoreWrite.apply, SharedStore.markListed]
    split <;> exact Or.inl ⟨hsame _ rfl rfl rfl, rfl, Or.inl ⟨rfl, rfl⟩⟩
  | ingestGatewayState state =>
    refine Or.inr ⟨_, keyed_iff.2 ?_, rfl⟩
    exact keyed_iff.1 hw
  | _ => exact Or.inl ⟨hsame _ rfl rfl rfl, rfl, Or.inl ⟨rfl, rfl⟩⟩

/-! ### Exact indices -/

/-- The indices say what a search through the stored objects finds. -/
structure SharedStore.IndicesExact (s : SharedStore) : Prop where
  services : ServicesExact s.inner
  reverse : ReverseExact s.reverseIndex s.inner

theorem StoreInner.SameRoutes.rebuildServiceIndex (inner : StoreInner) :
    inner.SameRoutes inner.rebuildServiceIndex := ⟨rfl, rfl, rfl⟩

theorem StoreInner.Keyed.reindexed (h : inner.Keyed) :
    (SharedStore.reindexed inner.rebuildServiceIndex).IndicesExact where
  services := rebuildServiceIndex_exact inner
  reverse := rebuildFromStore_exact ((StoreInner.SameRoutes.rebuildServiceIndex inner).keyed h)

theorem ServicesExact.congr (h : ServicesExact inner) (hroutes : inner.SameRoutes inner')
    (hindex : inner'.serviceRefIndex = inner.serviceRefIndex) :
    ServicesExact inner' := by
  intro key
  simp only [hindex, h key, StoreInner.ReferencesService, hroutes.stores]

theorem ReverseExact.congr {idx : ReverseIndexInner} (h : ReverseExact idx inner)
    (hroutes : inner.SameRoutes inner') (hgateways : inner'.gateways = inner.gateways) :
    ReverseExact idx inner' where
  route kind ns name g := by simp only [h.route, StoreInner.RouteLeadsTo, hroutes.stores]
  service ns name g := by simp only [h.service, StoreInner.ServiceLeadsTo, hroutes.stores]
  secret ns name g := by simp only [h.secret, StoreInner.SecretLeadsTo, hgateways]
  referenceGrant ns name g := by
    simp only [h.referenceGrant, StoreInner.GrantLeadsTo, hroutes.stores, hgateways]

section Write

variable {s : SharedStore} {w : StoreWrite}

theorem StoreWrite.keyed_apply (hkeyed : s.inner.Keyed) (hw : w.Keyed) :
    (w.apply s).inner.Keyed := by
  rcases w.apply_cases hkeyed hw with ⟨hroutes, -⟩ | ⟨inner, hinner, heq⟩
  · exact hroutes.keyed hkeyed
  · rw [heq]
    exact (StoreInner.SameRoutes.rebuildServiceIndex inner).keyed hinner

theorem StoreWrite.services_apply (hkeyed : s.inner.Keyed) (hw : w.Keyed)
    (h : ServicesExact s.inner) : ServicesExact (w.apply s).inner := by
  rcases w.apply_cases hkeyed hw with ⟨hroutes, hindex, -⟩ | ⟨inner, hinner, heq⟩
  · exact h.congr hroutes hindex
  · rw [heq]
    exact rebuildServiceIndex_exact inner

theorem StoreWrite.reverse_apply (hkeyed : s.inner.Keyed) (hw : w.Keyed)
    (h : ReverseExact s.reverseIndex s.inner) :
    ReverseExact (w.apply s).reverseIndex (w.apply s).inner := by
  rcases w.apply_cases hkeyed hw with
    ⟨hroutes, -, ⟨hgateways, hindex⟩ | heq⟩ | ⟨inner, hinner, heq⟩
  · rw [hindex]
    exact h.congr hroutes hgateways
  · rw [heq]
    exact rebuildFromStore_exact (hroutes.keyed hkeyed)
  · rw [heq]
    exact hinner.reindexed.reverse

end Write

theorem SharedStore.new_exact : ({} : SharedStore).inner.Keyed ∧
    ({} : SharedStore).IndicesExact := by
  have hkeyed : ({} : StoreInner).Keyed := by
    intro key route hstores
    cases route <;> cases hstores
  exact ⟨hkeyed, hkeyed.reindexed⟩

theorem StoreOp.run_exact {op : StoreOp} (hkeyed : s.inner.Keyed) (h : s.IndicesExact)
    (hop : op.Keyed) : (op.run s).inner.Keyed ∧ (op.run s).IndicesExact := by
  cases op with
  | write w =>
    exact ⟨w.keyed_apply hkeyed hop, w.services_apply hkeyed hop h.services,
      w.reverse_apply hkeyed hop h.reverse⟩
  | replaceAll new =>
    exact ⟨(StoreInner.SameRoutes.rebuildServiceIndex new).keyed hop, hop.reindexed⟩

theorem foldl_run_exact {ops : List StoreOp} (hops : ∀ op ∈ ops, op.Keyed)
    (hkeyed : s.inner.Keyed) (h : s.IndicesExact) :
    (ops.foldl StoreOp.run s).IndicesExact := by
  induction ops generalizing s with
  | nil => exact h
  | cons op ops ih =>
    obtain ⟨hop, hops⟩ := forall_mem_cons.1 hops
    obtain ⟨hkeyed', h'⟩ := StoreOp.run_exact hkeyed h hop
    exact ih hops hkeyed' h'

/-! ### Interleavings -/

/-- Where a replacement of all contents is: it has released the write lock, or it holds the read
lock and has computed the reverse index. -/
inductive ReplaceTask
  | written
  | reading (index : ReverseIndexInner)

structure Running where
  store : SharedStore := {}
  tasks : List ReplaceTask := []

def Running.ReadLocked (r : Running) : Prop := ∃ index, ReplaceTask.reading index ∈ r.tasks

def Running.Quiescent (r : Running) : Prop := r.tasks = []

/-- An operation in its critical section, and the three steps of a replacement. -/
inductive Running.Step : Running → Running → Prop
  | write {r : Running} (w : StoreWrite) (hw : w.Keyed) (hfree : ¬r.ReadLocked) :
      Step r { r with store := w.apply r.store }
  | replace {r : Running} (new : StoreInner) (hnew : new.Keyed) (hfree : ¬r.ReadLocked) :
      Step r
        { store := { r.store with inner := new.rebuildServiceIndex }
          tasks := .written :: r.tasks }
  | read {store : SharedStore} {before after : List ReplaceTask} :
      Step ⟨store, before ++ .written :: after⟩
        ⟨store, before ++ .reading (rebuildFromStore store.inner) :: after⟩
  | store {store : SharedStore} {index : ReverseIndexInner} {before after : List ReplaceTask} :
      Step ⟨store, before ++ .reading index :: after⟩
        ⟨{ store with reverseIndex := index }, before ++ after⟩

/-- The states of the runs that start with an empty store. -/
def Running.Reachable (r : Running) : Prop := Relation.ReflTransGen Running.Step {} r

/-- The indices are exact, except that the reverse index may be out of date while a replacement is
in progress. -/
structure Running.Inv (r : Running) : Prop where
  keyed : r.store.inner.Keyed
  services : ServicesExact r.store.inner
  reading : ∀ index, ReplaceTask.reading index ∈ r.tasks → ReverseExact index r.store.inner
  reverse : r.Quiescent → ReverseExact r.store.reverseIndex r.store.inner

theorem Running.Inv.step {r r' : Running} (h : r.Inv) (hstep : Running.Step r r') : r'.Inv := by
  cases hstep with
  | write w hw hfree =>
    refine ⟨w.keyed_apply h.keyed hw, w.services_apply h.keyed hw h.services, ?_, ?_⟩
    · intro index hmem
      exact absurd ⟨index, hmem⟩ hfree
    · intro hquiescent
      exact w.reverse_apply h.keyed hw (h.reverse hquiescent)
  | replace new hnew hfree =>
    refine ⟨(StoreInner.SameRoutes.rebuildServiceIndex new).keyed hnew,
      rebuildServiceIndex_exact new, ?_, fun hquiescent => by cases hquiescent⟩
    intro index hmem
    rcases mem_cons.1 hmem with heq | hmem
    · cases heq
    · exact absurd ⟨index, hmem⟩ hfree
  | @read store before after =>
    refine ⟨h.keyed, h.services, ?_, fun hquiescent => ?_⟩
    · intro index hmem
      rcases mem_append.1 hmem with hmem | hmem
      · exact h.reading index (mem_append_left _ hmem)
      · rcases mem_cons.1 hmem with heq | hmem
        · -- the lock was taken after the last write, so the index is computed from this state
          cases heq
          exact rebuildFromStore_exact h.keyed
        · exact h.reading index (mem_append_right _ (mem_cons_of_mem _ hmem))
    · simp [Running.Quiescent] at hquiescent
  | @store store index before after =>
    refine ⟨h.keyed, h.services, ?_, fun _ => h.reading index (by simp)⟩
    intro index' hmem
    refine h.reading index' ?_
    rcases mem_append.1 hmem with hmem | hmem
    · exact mem_append_left _ hmem
    · exact mem_append_right _ (mem_cons_of_mem _ hmem)

theorem Running.Reachable.inv {r : Running} (h : r.Reachable) : r.Inv := by
  have hnew := SharedStore.new_exact
  induction h with
  | refl =>
    refine ⟨hnew.1, hnew.2.services, ?_, fun _ => hnew.2.reverse⟩
    intro index hmem
    cases hmem
  | tail _ hstep ih => exact ih.step hstep

/-- **The indices are exact** at every quiescent point of any interleaving of operations that store
routes under their own keys. -/
theorem indices_exact :
    (∀ ops : List StoreOp, (∀ op ∈ ops, op.Keyed) → (ops.foldl StoreOp.run {}).IndicesExact) ∧
    ∀ r : Running, r.Reachable → r.Quiescent → r.store.IndicesExact := by
  constructor
  · intro ops hops
    exact foldl_run_exact hops SharedStore.new_exact.1 SharedStore.new_exact.2
  · intro r hreachable hquiescent
    exact ⟨hreachable.inv.services, hreachable.inv.reverse hquiescent⟩

def webRoute : HTTPRoute where
  metadata := { ns := some "shop", name := some "web" }
  spec :=
    { parentRefs := [{ name := "gw" }]
      rules := [{ backendRefs := [⟨{ name := "web" }⟩] }] }

def webInner : StoreInner where
  httpRoutes := collect [("shop/web", webRoute)]

theorem webInner_keyed : webInner.Keyed := by
  intro key route hstores
  cases route with
  | http r =>
    rw [StoreInner.Stores, webInner, lookup_collect] at hstores
    obtain ⟨rfl, rfl⟩ := Prod.mk.inj (mem_singleton.1 (mem_of_lastWrite hstores))
    exact ⟨"shop", "web", rfl, rfl, rfl⟩
  | tcp r => cases hstores
  | tls r => cases hstores

theorem indices_exact_webRoute :
    (∀ op ∈ [StoreOp.write (.upsertHttpRoute "shop/web" webRoute), .replaceAll webInner],
      op.Keyed) ∧
    ([StoreOp.write (.upsertHttpRoute "shop/web" webRoute), .replaceAll webInner].foldl
      StoreOp.run {}).IndicesExact ∧
    Running.Reachable ⟨SharedStore.reindexed webInner.rebuildServiceIndex, []⟩ ∧
    (SharedStore.reindexed webInner.rebuildServiceIndex).IndicesExact := by
  have hops : ∀ op ∈ [StoreOp.write (.upsertHttpRoute "shop/web" webRoute), .replaceAll webInner],
      op.Keyed := by
    intro op hop
    rcases List.mem_cons.1 hop with rfl | hop
    · exact ⟨"shop", "web", rfl, rfl, rfl⟩
    · obtain rfl := List.mem_singleton.1 hop
      exact webInner_keyed
  have hreachable : Running.Reachable ⟨SharedStore.reindexed webInner.rebuildServiceIndex, []⟩ := by
    have hwrite : Running.Step {} _ := .replace webInner webInner_keyed fun ⟨index, hmem⟩ => by
      cases hmem
    have hread := @Running.Step.read ⟨webInner.rebuildServiceIndex, {}⟩ [] []
    have hstore := @Running.Step.store ⟨webInner.rebuildServiceIndex, {}⟩
      (rebuildFromStore webInner.rebuildServiceIndex) [] []
    exact ((Relation.ReflTransGen.single hwrite).tail hread).tail hstore
  exact ⟨hops, indices_exact.1 _ hops, hreachable, indices_exact.2 _ hreachable rfl⟩

end Wicket
