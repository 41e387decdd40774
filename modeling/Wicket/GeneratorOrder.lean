/-
**What the order of the maps decides.**

Nothing: the entries of every map are sorted by their keys.  A server name and the default upstream
go to the TLSRoute with the smallest key.
-/

import Wicket.HotReload
import Wicket.TcpDelivery

namespace Wicket

open List KeyMap GatewayState
open Check

/-! ### The order of the maps -/

structure GatewayState.Reordered (st st' : GatewayState) : Prop where
  gateways : st'.gateways.entries.Perm st.gateways.entries
  httpRoutes : st'.httpRoutes.entries.Perm st.httpRoutes.entries
  tcpRoutes : st'.tcpRoutes.entries.Perm st.tcpRoutes.entries
  tlsRoutes : st'.tlsRoutes.entries.Perm st.tlsRoutes.entries
  serviceEndpoints : st'.serviceEndpoints.entries.Perm st.serviceEndpoints.entries
  tlsSecrets : st'.tlsSecrets.entries.Perm st.tlsSecrets.entries

/-- **The generator gives the same result for every order of its maps.** -/
theorem GatewayState.Reordered.generateConfig_eq {st st' : GatewayState} (h : st.Reordered st') :
    generateConfig st' = generateConfig st := by
  -- first the routes and the endpoints, then the Gateways and the Secrets
  have hroutes : st.SameReads { st' with gateways := st.gateways, tlsSecrets := st.tlsSecrets } :=
    { gateways := rfl
      tlsSecrets := rfl
      http := fun key route => by rw [AList.perm_lookup h.httpRoutes]
      tcp := fun key route => by rw [AList.perm_lookup h.tcpRoutes]
      tls := fun key route => by rw [AList.perm_lookup h.tlsRoutes]
      endpoints := fun key => AList.perm_lookup h.serviceEndpoints }
  have hgateways : sortedEntries st'.gateways = sortedEntries st.gateways :=
    sortedEntries_congr fun key gateway => by rw [AList.perm_lookup h.gateways]
  have hcerts : tlsConfig st' = tlsConfig st := by
    have hadd : addCert st' = addCert st := by
      funext gwNs listener m ref
      simp only [addCert, AList.perm_lookup h.tlsSecrets]
    have hmap : certMap st' = certMap st := by rw [certMap, certMap, hgateways, hadd]
    rw [tlsConfig, tlsConfig, hmap]
  have hlisteners : st'.listeners = st.listeners := by
    rw [listeners, hgateways, listeners]
  rw [← hroutes.generateConfig_eq]
  simp only [generateConfig, streamConfig, httpListeners,
    httpsListeners, tcpListeners, hlisteners, hcerts]
  rfl

/-! ### The smallest key -/

/-- The reference is the first of the accepted TLSRoute that has the smallest key, among those with
the property that have a backend. -/
structure GatewayState.FirstBackend (st : GatewayState) (p : TLSRoute → Prop) (r : StreamRef) :
    Prop where
  kind : r.kind = .TLSRoute
  route : ∃ route, st.tlsRoutes.lookup r.key = some route ∧ tlsRouteIsAccepted route = true ∧
    p route ∧ r.routeNs = route.routeNs ∧ route.backendRefs.head? = some r.ref
  least : ∀ key route, st.tlsRoutes.lookup key = some route → tlsRouteIsAccepted route = true →
    p route → route.backendRefs ≠ [] → r.key ≤ key

variable {st : GatewayState} {hostname : String}

theorem head?_refsOf {p : TLSRoute → Bool} {r : StreamRef} :
    (refsOf .TLSRoute (fun route => tlsRouteIsAccepted route && p route) TLSRoute.routeNs
        TLSRoute.backendRefs st.tlsRoutes).head? = some r ↔
      st.FirstBackend (fun route => p route = true) r := by
  rw [head?_refsOf_eq, findSome?_sortedEntries]
  constructor
  · rintro ⟨key, route, hlookup, hhead, hleast⟩
    split at hhead
    · rename_i haccepted
      obtain ⟨b, hb, rfl⟩ := Option.map_eq_some_iff.1 hhead
      rw [Bool.and_eq_true] at haccepted
      refine ⟨rfl, ⟨route, hlookup, haccepted.1, haccepted.2, rfl, hb⟩, ?_⟩
      intro key' route' hlookup' haccepted' hp' hbackends
      refine hleast key' route' hlookup' ?_
      simp [haccepted', hp', hbackends]
    · cases hhead
  · rintro ⟨hkind, ⟨route, hlookup, haccepted, hp, hns, hhead⟩, hleast⟩
    refine ⟨r.key, route, hlookup, ?_, ?_⟩
    · simp [haccepted, hp, hhead, ← hkind, ← hns]
    · intro key route' hlookup' hne
      simp only [ne_eq, ite_eq_right_iff, Bool.and_eq_true, Option.map_eq_none_iff,
        head?_eq_none_iff, Classical.not_imp] at hne
      exact hleast key route' hlookup' hne.1.1 hne.1.2 hne.2

theorem FilledBy.eq_some_iff {p : TLSRoute → Bool} {slot : StreamOutput → Option String}
    (h : FilledBy st p slot) {name : String} :
    slot (renderStreamRoutes st) = some name ↔
      ∃ r, st.FirstBackend (fun route => p route = true) r ∧ r.upstreamName = name := by
  rw [h.renderStreamRoutes_eq, Option.map_eq_some_iff]
  simp only [head?_refsOf]

/-! ### Certificates -/

def GatewayState.RefersTo (st : GatewayState) (key hostname : String) : Prop :=
  ∃ gwKey gateway, st.gateways.lookup gwKey = some gateway ∧ ∃ l ∈ gateway.spec.listeners,
    l.hostname = some hostname ∧ ∃ ref ∈ l.certificateRefs,
      GatewayState.key (ref.ns.getD gateway.gwNs) ref.name = key

/-- The entry of the Secret stored under the key: its paths, and the host names of all listeners
that refer to it, without repetitions. -/
structure GatewayState.CertEntry (st : GatewayState) (key : String) (cert : FileCertConfig) :
    Prop where
  paths : st.tlsSecrets.lookup key = some (cert.cert, cert.key)
  nodup : cert.domains.Nodup
  domains : ∀ hostname, hostname ∈ cert.domains ↔ st.RefersTo key hostname

theorem mem_certUses {key : String} :
    (∃ u ∈ st.certUses, u.key = key ∧ u.hostname = hostname) ↔ st.RefersTo key hostname := by
  simp only [certUses, Gateway.certUses, GatewayState.RefersTo, mem_flatMap,
    mem_map, Option.mem_toList, Prod.exists, mem_sortedEntries]
  constructor
  · rintro ⟨u, ⟨gwKey, gateway, hgateway, l, hl, host, hhost, ref, href, rfl⟩, hkey, rfl⟩
    exact ⟨gwKey, gateway, hgateway, l, hl, hhost, ref, href, hkey⟩
  · rintro ⟨gwKey, gateway, hgateway, l, hl, hhost, ref, href, hkey⟩
    exact ⟨_, ⟨gwKey, gateway, hgateway, l, hl, hostname, hhost, ref, href, rfl⟩, hkey, rfl⟩

theorem certEntry_of_getElem? {key : String} {cert : FileCertConfig}
    (h : (certMap st)[key]? = some cert) : st.CertEntry key cert := by
  rw [certMap_eq_foldl, getElem?_foldl_addUse] at h
  obtain ⟨paths, hpaths, hfirst⟩ := Option.bind_eq_some_iff.1 h
  obtain ⟨first, -, rfl⟩ := Option.map_eq_some_iff.1 hfirst
  refine ⟨hpaths, nodup_eraseDups _, fun hostname => ?_⟩
  rw [← mem_certUses, mem_eraseDups]
  simp [and_assoc]

theorem isSome_getElem?_certMap {key : String} :
    (certMap st)[key]?.isSome = true ↔
      (st.tlsSecrets.lookup key).isSome = true ∧ ∃ hostname, st.RefersTo key hostname := by
  rw [certMap_eq_foldl, getElem?_foldl_addUse]
  simp only [← mem_certUses]
  cases st.tlsSecrets.lookup key with
  | none => simp
  | some paths =>
    have hfirst : ((st.certUses.filter fun u => u.key == key).head?).isSome = true ↔
        ∃ u ∈ st.certUses, u.key = key := by simp
    simp only [Option.bind_some, Option.isSome_map, hfirst, Option.isSome_some, true_and]
    constructor
    · rintro ⟨u, hu, hkey⟩
      exact ⟨u.hostname, u, hu, hkey, rfl⟩
    · rintro ⟨hostname, u, hu, hkey, -⟩
      exact ⟨u, hu, hkey⟩

/-! ### The generated configuration -/

/-- The server names and the default of the stream listener lead to the first backends of the
TLSRoutes with the smallest keys. -/
structure GatewayState.RoutesBySmallestKey (st : GatewayState) (sc : StreamConfig) : Prop where
  sni : ∀ hostname name, sc.sniRoutes.lookup hostname = some name ↔
    ∃ r, st.FirstBackend (fun route => hostname ∈ route.spec.hostnames) r ∧ r.upstreamName = name
  default : ∀ name, sc.defaultUpstream = some name ↔
    ∃ r, st.FirstBackend (fun route => route.spec.hostnames = []) r ∧ r.upstreamName = name
  upstreams : ∀ p r, st.FirstBackend p r → r.upstream st ∈ sc.upstreams

theorem routesBySmallestKey {sc : StreamConfig} (h : streamConfig st = some sc) :
    st.RoutesBySmallestKey sc := by
  obtain ⟨port, hparts⟩ := isStreamConfig_of_eq_some h
  refine ⟨fun hostname name => ?_, fun name => ?_, fun p r hr => ?_⟩
  · rw [hparts.sniRoutes, lookup_sniRoutes_eq]
    simpa using (filledBy_sniOwner st hostname).eq_some_iff
  · rw [hparts.defaultUpstream]
    simpa using (filledBy_catchAll st).eq_some_iff
  · obtain ⟨route, hlookup, haccepted, -, hns, hhead⟩ := hr.route
    rw [hparts.upstreams]
    exact mem_map_of_mem (mem_append_left _ (mem_refsOf.2
      ⟨hr.kind, route, hlookup, haccepted, hns, mem_of_mem_head? hhead⟩))

/-- **What the generator makes of its maps, whatever their order.** -/
theorem generateConfig_smallest (st : GatewayState) :
    (∀ st', st.Reordered st' → generateConfig st' = generateConfig st) ∧
    ∀ c, generateConfig st = .ok c →
      (st.HasStream → ∃ sc, c.streams = [sc] ∧ st.RoutesBySmallestKey sc) ∧
      ∃ keys : List String, keys.Pairwise (· < ·) ∧
        (∀ key, key ∈ keys ↔
          (st.tlsSecrets.lookup key).isSome = true ∧ ∃ hostname, st.RefersTo key hostname) ∧
        List.Forall₂ st.CertEntry keys c.fileCerts := by
  refine ⟨fun st' h => h.generateConfig_eq, fun c hc => ⟨fun hstream => ?_, ?_⟩⟩
  · obtain ⟨sc, hsc⟩ := Option.isSome_iff_exists.1 (isSome_streamConfig.2 hstream)
    refine ⟨sc, ?_, routesBySmallestKey hsc⟩
    rw [(isGenerated_of_eq_ok hc).streams, hsc, Option.toList_some]
  · refine ⟨(certMap st).toList.map Prod.fst, ?_, fun key => ?_, ?_⟩
    · refine List.pairwise_map.2 (Std.TreeMap.ordered_keys_toList.imp ?_)
      intro a b hlt
      exact compare_lt_iff_lt.1 hlt
    · rw [← isSome_getElem?_certMap, Option.isSome_iff_exists]
      simp only [List.mem_map, Prod.exists, Std.TreeMap.mem_toList_iff_getElem?_eq_some]
      simp
    · rw [fileCerts_of_generateConfig hc, List.forall₂_map_left_iff, List.forall₂_map_right_iff,
        List.forall₂_same]
      intro e he
      exact certEntry_of_getElem? (Std.TreeMap.mem_toList_iff_getElem?_eq_some.1 he)

def mailRoute (hostnames : List String) (service : String) : TLSRoute where
  metadata := { ns := some "team", name := some service }
  spec := { hostnames := hostnames, rules := [{ backendRefs := [{ name := service }] }] }
  status := some (acceptedFor "gw")

def mailState : GatewayState where
  gateways := collect [("team/gw",
    { metadata := { ns := some "team", name := some "gw" }
      spec :=
        { gatewayClassName := "wicket"
          listeners := [
            { name := "tls"
              hostname := some "mail.example.com"
              port := 993
              protocol := .TLS
              tls := some { certificateRefs := [{ name := "mail" }] } }] } })]
  tlsRoutes := collect
    [("team/pop", mailRoute ["mail.example.com"] "pop"),
      ("team/imap", mailRoute ["mail.example.com"] "imap"), ("team/rest", mailRoute [] "rest")]
  tlsSecrets := collect [("team/mail", ("/tls.crt", "/tls.key"))]

theorem firstBackend_of_entries {p : TLSRoute → Prop} {r : StreamRef} {route : TLSRoute}
    (hroute : (r.key, route) ∈ entries st.tlsRoutes ∧ tlsRouteIsAccepted route = true ∧
      p route ∧ r.routeNs = route.routeNs ∧ route.backendRefs.head? = some r.ref)
    (hkind : r.kind = .TLSRoute)
    (hleast : ∀ e ∈ entries st.tlsRoutes, p e.2 → r.key ≤ e.1) : st.FirstBackend p r where
  kind := hkind
  route := ⟨route, mem_entries.1 hroute.1, hroute.2⟩
  least key route hlookup _ hp _ := hleast (key, route) (mem_entries.2 hlookup) hp

theorem generateConfig_mailState :
    generateConfig { mailState with tlsRoutes := reverse mailState.tlsRoutes } =
      generateConfig mailState ∧
    ∃ c sc, generateConfig mailState = .ok c ∧ c.streams = [sc] ∧
      sc.sniRoutes.lookup "mail.example.com" = some "team-imap" ∧
      sc.defaultUpstream = some "team-rest" ∧
      ∃ cert ∈ c.fileCerts, mailState.CertEntry "team/mail" cert := by
  obtain ⟨horder, hconfig⟩ := generateConfig_smallest mailState
  refine ⟨horder _ ⟨.refl _, .refl _, .refl _, List.reverse_perm _, .refl _, .refl _⟩, ?_⟩
  obtain ⟨c, hc⟩ := exists_generateConfig.2 (@splittable_of_timeouts mailState (by decide))
  obtain ⟨hstream, keys, -, hkeys, hcerts⟩ := hconfig c hc
  obtain ⟨sc, hsc, hsmallest⟩ := hstream ⟨by decide, by decide⟩
  refine ⟨c, sc, hc, hsc, (hsmallest.sni _ _).2 ?_, (hsmallest.default _).2 ?_, ?_⟩
  · refine ⟨⟨.TLSRoute, "team/imap", "team", { name := "imap" }⟩, ?_, by decide⟩
    exact @firstBackend_of_entries _ _ _ (mailRoute ["mail.example.com"] "imap") (by decide) rfl
      (by decide)
  · refine ⟨⟨.TLSRoute, "team/rest", "team", { name := "rest" }⟩, ?_, by decide⟩
    exact @firstBackend_of_entries _ _ _ (mailRoute [] "rest") (by decide) rfl (by decide)
  · have hmem : "team/mail" ∈ keys := (hkeys _).2
      ⟨by decide, "mail.example.com", "team/gw", _, rfl, _, List.mem_singleton.2 rfl, rfl, _,
        List.mem_singleton.2 rfl, by decide⟩
    obtain ⟨i, hi, hkey⟩ := List.getElem_of_mem hmem
    have hi' : i < c.fileCerts.length := hcerts.length_eq ▸ hi
    exact ⟨_, List.getElem_mem hi', hkey ▸ hcerts.get hi hi'⟩

end Wicket
