/-
**The names of generated upstreams.**

In `<namespace>-<name>-rule<index>` only the index can be read back, and `<namespace>-<service>` has
neither the namespace nor the port of the backend.
-/

import Wicket.Rendered

namespace Wicket

open String KeyMap StreamRef Option

/-! ### HTTP upstreams -/

def HttpRule.routeText (r : HttpRule) : String := r.route.routeNs ++ "-" ++ r.route.routeName

def HttpRule.triple (r : HttpRule) : String × String × ℕ :=
  (r.route.routeNs, r.route.routeName, r.idx)

theorem hyphen_notMem_rule (n : ℕ) : '-' ∉ ("rule" ++ toString n).toList := by
  rw [toList_append, List.mem_append, not_or]
  exact ⟨by decide, Text.notMem_toString rfl⟩

theorem ruleUpstreamName_inj {ns name ns' name' : String} {i i' : ℕ} :
    ruleUpstreamName ns name i = ruleUpstreamName ns' name' i' ↔
      ns ++ "-" ++ name = ns' ++ "-" ++ name' ∧ i = i' := by
  have hsplit : ∀ (ns name : String) (i : ℕ), ruleUpstreamName ns name i =
      (ns ++ "-" ++ name) ++ singleton '-' ++ ("rule" ++ toString i) := by
    intro ns name i
    have hrule : "-rule" = singleton '-' ++ "rule" := by decide
    rw [ruleUpstreamName, hrule]
    simp only [append_assoc]
  -- the hyphen before `rule` is the last one, so the names split there in one way only
  rw [hsplit, hsplit, Text.join_inj (hyphen_notMem_rule i) (hyphen_notMem_rule i')]
  rw [append_right_inj, Text.toString_inj]

theorem HttpRule.upstreamName_inj {r r' : HttpRule} :
    r.upstreamName = r'.upstreamName ↔ r.routeText = r'.routeText ∧ r.idx = r'.idx :=
  ruleUpstreamName_inj

variable {r r' : StreamRef} {st : GatewayState}

theorem eq_of_key_idx {r r' : HttpRule} (hr : r ∈ httpRules st) (hr' : r' ∈ httpRules st)
    (hkey : r.key = r'.key) (hidx : r.idx = r'.idx) : r = r' := by
  obtain ⟨hlookup, -, hrule⟩ := mem_httpRules.1 hr
  obtain ⟨hlookup', -, hrule'⟩ := mem_httpRules.1 hr'
  cases r with
  | mk key route idx rule =>
    cases r' with
    | mk key' route' idx' rule' =>
      subst hkey hidx
      obtain rfl : route = route' := some.inj (hlookup.symm.trans hlookup')
      obtain rfl : rule = rule' := some.inj (hrule.symm.trans hrule')
      rfl

theorem upstream_of_mem_routes {r : HttpRule} {rc : RouteConfig} (h : rc ∈ r.routes) :
    rc.upstream = r.upstreamName := by
  obtain ⟨name, rules, -, rfl⟩ := HttpRule.mem_routes.1 h
  rfl

/-- Every route of a rule leads to the addresses of that rule, in an upstream of its own. -/
structure HttpUpstreamsFaithful (st : GatewayState) (c : Config) : Prop where
  own : ∀ r ∈ liveRules st, ∀ rc ∈ r.routes,
    (∃ u, c.upstreams[rc.upstream]? = some u ∧ u.backends = r.backends st) ∧
      ∀ r' ∈ liveRules st, r'.upstreamName = rc.upstream → r'.key = r.key ∧ r'.idx = r.idx
  distinct : ∀ r ∈ liveRules st, ∀ r' ∈ liveRules st, r.triple ≠ r'.triple →
    r.upstreamName ≠ r'.upstreamName

/-- Rules at one index whose routes spell the same text belong to routes of one namespace and name.
-/
def NoRuleCollision (st : GatewayState) : Prop :=
  ∀ r ∈ liveRules st, ∀ r' ∈ liveRules st, r.idx = r'.idx → r.routeText = r'.routeText →
    (r.route.routeNs = r'.route.routeNs ∧ r.route.routeName = r'.route.routeName) ∧
      (r.rule.emitsRoutes = true → r.key = r'.key)

/-- **HTTP upstreams are right exactly when no two routes with a resolvable rule at one index spell
the same text.** -/
theorem httpUpstreamsFaithful_iff {st : GatewayState} {c : Config}
    (h : generateConfig st = .ok c) : HttpUpstreamsFaithful st c ↔ NoRuleCollision st := by
  have hgen := isGenerated_of_eq_ok h
  constructor
  · rintro ⟨hown, hdistinct⟩ r hr r' hr' hidx htext
    have hname : r.upstreamName = r'.upstreamName := HttpRule.upstreamName_inj.2 ⟨htext, hidx⟩
    refine ⟨?_, ?_⟩
    · by_contra hne
      refine hdistinct r hr r' hr' ?_ hname
      intro htriple
      simp only [HttpRule.triple, Prod.mk.injEq] at htriple
      exact hne ⟨htriple.1, htriple.2.1⟩
    · intro hemits
      obtain ⟨rc, hrc⟩ := List.exists_mem_of_ne_nil _ (HttpRule.routes_ne_nil.2 hemits)
      have hkey := (hown r hr rc hrc).2 r' hr' (by rw [upstream_of_mem_routes hrc, hname])
      exact hkey.1.symm
  · intro hno
    refine ⟨?_, ?_⟩
    · intro r hr rc hrc
      -- every write under the name of `r` is the one of `r` itself
      have hsame : ∀ r' ∈ liveRules st, r'.upstreamName = r.upstreamName → r' = r := by
        intro r' hr' hname
        obtain ⟨htext, hidx⟩ := HttpRule.upstreamName_inj.1 hname
        have hemits := HttpRule.routes_ne_nil.1 (List.ne_nil_of_mem hrc)
        have hkey := (hno r hr r' hr' hidx.symm htext.symm).2 hemits
        exact eq_of_key_idx (mem_liveRules.1 hr').1 (mem_liveRules.1 hr).1 hkey.symm hidx
      rw [upstream_of_mem_routes hrc]
      refine ⟨⟨{ backends := r.backends st }, ?_, rfl⟩, ?_⟩
      · rw [hgen.upstreams]
        refine lastWrite_of_forall (List.mem_map.2 ⟨r, hr, rfl⟩) ?_
        intro u hu
        obtain ⟨r', hr', heq⟩ := List.mem_map.1 hu
        simp only [Prod.mk.injEq] at heq
        rw [← heq.2, hsame r' hr' heq.1]
      · intro r' hr' hname
        rw [hsame r' hr' hname]
        exact ⟨rfl, rfl⟩
    · intro r hr r' hr' htriple hname
      obtain ⟨htext, hidx⟩ := HttpRule.upstreamName_inj.1 hname
      obtain ⟨⟨hns, hroute⟩, -⟩ := hno r hr r' hr' hidx htext
      exact htriple (by simp only [HttpRule.triple, hns, hroute, hidx])

def simpleRoute (ns name service : String) : HTTPRoute where
  metadata := { ns := some ns, name := some name }
  spec := { rules := [{ backendRefs := [⟨{ name := service, port := some 80 }⟩] }] }
  status := some (acceptedFor "gw")

def collidingRoutes : GatewayState where
  httpRoutes := collect
    [("a/b-c", simpleRoute "a" "b-c" "x"), ("a-b/c", simpleRoute "a-b" "c" "y")]

theorem collidingRoutes_not_faithful :
    (validNamespace "a" ∧ validName "b-c" ∧ validNamespace "a-b" ∧ validName "c") ∧
      ∃ c, generateConfig collidingRoutes = .ok c ∧ ¬HttpUpstreamsFaithful collidingRoutes c := by
  refine ⟨by decide, ?_⟩
  obtain ⟨c, hc⟩ := exists_generateConfig.2
    (@splittable_of_timeouts collidingRoutes (by decide))
  refine ⟨c, hc, fun hfaithful => ?_⟩
  refine hfaithful.distinct
    ⟨"a/b-c", simpleRoute "a" "b-c" "x", 0, { backendRefs := [⟨{ name := "x", port := some 80 }⟩] }⟩
    (by decide)
    ⟨"a-b/c", simpleRoute "a-b" "c" "y", 0, { backendRefs := [⟨{ name := "y", port := some 80 }⟩] }⟩
    (by decide) (by decide) (by decide)

def separateRoutes : GatewayState where
  httpRoutes := collect
    [("a/b", simpleRoute "a" "b" "x"), ("a/c", simpleRoute "a" "c" "y")]

theorem separateRoutes_faithful :
    ∃ c, generateConfig separateRoutes = .ok c ∧ HttpUpstreamsFaithful separateRoutes c := by
  obtain ⟨c, hc⟩ := exists_generateConfig.2
    (@splittable_of_timeouts separateRoutes (by decide))
  refine ⟨c, hc, (httpUpstreamsFaithful_iff hc).2 ?_⟩
  unfold NoRuleCollision
  decide

/-! ### Stream upstreams -/

def StreamRef.backendNs (r : StreamRef) : String := r.ref.nsOr r.routeNs

def StreamRef.port (r : StreamRef) : UInt16 := r.ref.port.getD r.kind.defaultPort

/-- Two references of one route to backends in one namespace, on one port. -/
def StreamRef.SameTarget (r r' : StreamRef) : Prop :=
  (r.kind = r'.kind ∧ r.key = r'.key) ∧ r.backendNs = r'.backendNs ∧ r.port = r'.port

/-- The last reference rendered under a name, whose upstream a map keeps. -/
def keptRef (st : GatewayState) (name : String) : Option StreamRef :=
  lastWrite ((streamRefs st).map fun r => (r.upstreamName, r)) name

/-- Every rendered reference finds its own addresses under its name, in an upstream that was
rendered for the same route, namespace and port. -/
structure StreamUpstreamsFaithful (st : GatewayState) (proxy : StreamProxy) : Prop where
  own : ∀ r ∈ streamRefs st, ∃ up, proxy.upstreams.lookup r.upstreamName = some up ∧
    parseBackendEndpoints (r.servers st) = .ok up.servers
  kept : ∀ r ∈ streamRefs st, ∀ r' ∈ keptRef st r.upstreamName, r'.SameTarget r

def NoStreamCollision (st : GatewayState) : Prop :=
  ∀ r ∈ streamRefs st, ∀ r' ∈ streamRefs st,
    r.routeNs ++ "-" ++ r.ref.name = r'.routeNs ++ "-" ++ r'.ref.name → r.SameTarget r'

theorem StreamRef.SameTarget.symm (h : r.SameTarget r') : r'.SameTarget r :=
  ⟨⟨h.1.1.symm, h.1.2.symm⟩, h.2.1.symm, h.2.2.symm⟩

theorem StreamRef.SameTarget.trans {r r' r'' : StreamRef} (h : r.SameTarget r')
    (h' : r'.SameTarget r'') : r.SameTarget r'' :=
  ⟨⟨h.1.1.trans h'.1.1, h.1.2.trans h'.1.2⟩, h.2.1.trans h'.2.1, h.2.2.trans h'.2.2⟩

theorem exists_keptRef (hr : r ∈ streamRefs st) : ∃ r', keptRef st r.upstreamName = some r' := by
  rw [← isSome_iff_exists, isSome_iff_ne_none, keptRef, ne_eq, lastWrite_eq_none]
  intro h
  exact h _ (List.mem_map.2 ⟨r, hr, rfl⟩) rfl

theorem mem_of_keptRef {name : String} (h : keptRef st name = some r) :
    r ∈ streamRefs st ∧ r.upstreamName = name := by
  obtain ⟨r', hr', heq⟩ := List.mem_map.1 (mem_of_lastWrite h)
  simp only [Prod.mk.injEq] at heq
  obtain ⟨hname, rfl⟩ := heq
  exact ⟨hr', hname⟩

theorem routeNs_eq_of_key (hr : r ∈ streamRefs st) (hr' : r' ∈ streamRefs st)
    (hkind : r.kind = r'.kind) (hkey : r.key = r'.key) :
    r.routeNs = r'.routeNs := by
  rcases List.mem_append.1 hr with h | h <;> rcases List.mem_append.1 hr' with h' | h' <;>
    obtain ⟨hk, route, hlookup, -, hns, -⟩ := mem_refsOf.1 h <;>
    obtain ⟨hk', route', hlookup', -, hns', -⟩ := mem_refsOf.1 h' <;>
    rw [hk, hk'] at hkind
  -- references of different kinds come from different maps
  · rw [hkey, hlookup', some.injEq] at hlookup
    rw [hns, hns', hlookup]
  · cases hkind
  · cases hkind
  · rw [hkey, hlookup', some.injEq] at hlookup
    rw [hns, hns', hlookup]

theorem servers_eq_of_sameTarget (hr : r ∈ streamRefs st) (hr' : r' ∈ streamRefs st)
    (hname : r.upstreamName = r'.upstreamName) (hsame : r.SameTarget r') :
    r.servers st = r'.servers st := by
  obtain ⟨⟨hkind, hkey⟩, hns, hport⟩ := hsame
  have hroute : r.routeNs = r'.routeNs := routeNs_eq_of_key hr hr' hkind hkey
  have hservice : r.ref.name = r'.ref.name := by
    rw [upstreamName, upstreamName, streamUpstreamName, streamUpstreamName,
      hroute, append_right_inj] at hname
    exact hname
  rw [backendNs, backendNs] at hns
  rw [port, port] at hport
  rw [servers, servers, resolveBackend, resolveBackend, hns, hservice, hport]

/-- **Stream upstreams are right exactly when backends whose texts agree belong to one route and
agree on namespace and port.** -/
theorem streamUpstreamsFaithful_iff {st : GatewayState} {c : Config} {sc : StreamConfig}
    {proxy : StreamProxy} (h : generateConfig st = .ok c) (hsc : sc ∈ c.streams)
    (hproxy : StreamProxy.fromConfig sc = .ok proxy) :
    StreamUpstreamsFaithful st proxy ↔ NoStreamCollision st := by
  obtain ⟨port, hstream⟩ := isStreamConfig_of_eq_some (streamConfig_of_mem h hsc)
  constructor
  · rintro ⟨-, hkept⟩ r hr r' hr' htext
    -- both references have the target of the one the map keeps
    obtain ⟨k, hk⟩ := exists_keptRef hr
    have hname : r.upstreamName = r'.upstreamName := htext
    exact (hkept r hr k hk).symm.trans (hkept r' hr' k (hname ▸ hk))
  · intro hno
    refine ⟨?_, ?_⟩
    · intro r hr
      have hlast : lastWrite sc.upstreamServers r.upstreamName = some (r.servers st) := by
        rw [StreamConfig.upstreamServers, hstream.upstreams, List.map_map]
        refine lastWrite_of_forall (List.mem_map.2 ⟨r, hr, rfl⟩) ?_
        intro servers hservers
        obtain ⟨r', hr', heq⟩ := List.mem_map.1 hservers
        simp only [Function.comp_apply, StreamRef.upstream, Prod.mk.injEq] at heq
        rw [← heq.2]
        exact servers_eq_of_sameTarget hr' hr heq.1 (hno r' hr' r hr heq.1)
      have hrel := StreamProxy.rel_lookup_upstreams hproxy r.upstreamName
      rw [hlast] at hrel
      obtain ⟨up, hup, hservers⟩ := exists_of_rel_some hrel
      exact ⟨up, hup, hservers⟩
    · intro r hr r' hr'
      obtain ⟨hmem, hname⟩ := mem_of_keptRef hr'
      exact hno r' hmem r hr hname

def tlsGateway : Gateway where
  metadata := { ns := some "team", name := some "gw" }
  spec :=
    { gatewayClassName := "wicket"
      listeners := [{ name := "tls", port := 443, protocol := .TLS }] }

def sniRoute (name hostname service backendNs : String) : TLSRoute where
  metadata := { ns := some "team", name := some name }
  spec :=
    { hostnames := [hostname]
      rules := [{ backendRefs := [{ name := service, ns := some backendNs, port := some 443 }] }] }
  status := some (acceptedFor "gw")

def twoBackends (service service' : String) : GatewayState where
  gateways := collect [("team/gw", tlsGateway)]
  tlsRoutes := collect
    [("team/one", sniRoute "one" "one.example.com" service "x"),
      ("team/two", sniRoute "two" "two.example.com" service' "y")]
  serviceEndpoints := collect
    [("x/" ++ service, { ns := "x", name := service, endpoints := ["10.0.0.1:443"] }),
      ("y/" ++ service', { ns := "y", name := service', endpoints := ["10.0.0.2:443"] })]

theorem twoBackends_not_faithful :
    ∃ c sc proxy, generateConfig (twoBackends "db" "db") = .ok c ∧ sc ∈ c.streams ∧
      StreamProxy.fromConfig sc = .ok proxy ∧
      ¬StreamUpstreamsFaithful (twoBackends "db" "db") proxy := by
  obtain ⟨c, sc, proxy, hc, hsc, hproxy⟩ :=
    @exists_generated_proxy (twoBackends "db" "db") (by decide) (by decide) (by decide)
  refine ⟨c, sc, proxy, hc, hsc, hproxy, fun hfaithful => ?_⟩
  have hkept := hfaithful.kept
    ⟨.TLSRoute, "team/one", "team", { name := "db", ns := some "x", port := some 443 }⟩ (by decide)
    ⟨.TLSRoute, "team/two", "team", { name := "db", ns := some "y", port := some 443 }⟩ (by decide)
  exact absurd hkept.2.1 (by decide)

theorem twoBackends_faithful :
    ∃ c sc proxy, generateConfig (twoBackends "db" "web") = .ok c ∧ sc ∈ c.streams ∧
      StreamProxy.fromConfig sc = .ok proxy ∧
      StreamUpstreamsFaithful (twoBackends "db" "web") proxy := by
  obtain ⟨c, sc, proxy, hc, hsc, hproxy⟩ :=
    @exists_generated_proxy (twoBackends "db" "web") (by decide) (by decide) (by decide)
  refine ⟨c, sc, proxy, hc, hsc, hproxy, (streamUpstreamsFaithful_iff hc hsc hproxy).2 ?_⟩
  unfold NoStreamCollision StreamRef.SameTarget
  decide

end Wicket
