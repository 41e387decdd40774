/-
**Precedence between the rules of HTTPRoutes.**

The Gateway API prefers an exact path, and the longer of two prefixes.  The router takes the first
route in the order of generation.

* `HTTPPathMatch.precedes`, `Overrides` — the rule of the Gateway API: one of two rules that match a
  request is preferred;
* `Router.Selects` — the rule whose route gives the answer of the router.

The main result says when no rule is chosen over a preferred one.
-/

import Wicket.RouteSelection

namespace Wicket

open Text (CaseMapping)
open Check HTTPRouteMatch.Required HttpRule List

/-! ### Preferred path conditions -/

/-- The first path condition is preferred: it is exact and the other a prefix, or it is the longer
of two prefixes. -/
def HTTPPathMatch.precedes (p q : HTTPPathMatch) : Bool :=
  match p.type, q.type with
  | .Exact, .PathPrefix => true
  | .PathPrefix, .PathPrefix => decide (q.value.length < p.value.length)
  | _, _ => false

section Request

variable (cm : CaseMapping) (st : GatewayState) (req : Request)

def HttpRule.MatchesBy (r : HttpRule) (p : HTTPPathMatch) : Prop :=
  ∃ g ∈ generatedRoutes st, g.rule = r ∧ g.source.pathMatch = p ∧ g.Accepts cm req

def HttpRule.Matches (r : HttpRule) : Prop :=
  ∃ g ∈ generatedRoutes st, g.rule = r ∧ g.Accepts cm req

/-- Two rules for the same host match the request, the first by a preferred path condition. -/
structure Overrides (r r' : HttpRule) : Prop where
  ne : r ≠ r'
  host : r.host = r'.host
  path : ∃ p q, r.MatchesBy cm st req p ∧ r'.MatchesBy cm st req q ∧ p.precedes q = true

/-- The router answers the request with a route of the rule. -/
def Router.Selects (router : Router) (r : HttpRule) : Prop :=
  ∃ m g, router.Chooses cm st req m g ∧ g.rule = r

end Request

variable {cm : CaseMapping} {st : GatewayState} {req : Request} {r : HttpRule}

theorem HttpRule.MatchesBy.matches_ {p : HTTPPathMatch} (h : r.MatchesBy cm st req p) :
    r.Matches cm st req := by
  obtain ⟨g, hg, hrule, -, haccepts⟩ := h
  exact ⟨g, hg, hrule, haccepts⟩

theorem matchesBy_iff {p : HTTPPathMatch} :
    r.MatchesBy cm st req p ↔
      ∃ m, (r, m) ∈ ruleMatches st ∧ m.pathMatch = p ∧ AcceptedBy cm req (r, m) := by
  have hmem : ∀ m, m.renderable = true → ((r, m) ∈ ruleMatches st ↔
      ∃ g ∈ generatedRoutes st, (g.rule, g.source) = (r, m)) := by
    intro m hm
    rw [← mem_map, map_source_generatedRoutes, mem_filter]
    exact (and_iff_left hm).symm
  constructor
  · rintro ⟨g, hg, rfl, hpath, haccepts⟩
    have hrenderable : g.source.renderable = true := by
      simpa [HTTPRouteMatch.renderable] using path_ne_regex haccepts
    exact ⟨g.source, (hmem _ hrenderable).2 ⟨g, hg, rfl⟩, hpath, haccepts⟩
  · rintro ⟨m, hm, hpath, haccepts⟩
    have hrenderable : m.renderable = true := by
      simpa [HTTPRouteMatch.renderable] using path_ne_regex haccepts
    obtain ⟨g, hg, heq⟩ := (hmem m hrenderable).1 hm
    obtain ⟨rfl, rfl⟩ := Prod.mk.inj heq
    exact ⟨g, hg, rfl, hpath, haccepts⟩

/-! ### The chosen rule -/

theorem pairwise_generatedRoutes (st : GatewayState) :
    (generatedRoutes st).Pairwise fun g g' => g.rule = g'.rule ∨ g.rule.Before g'.rule := by
  refine pairwise_flatMap.2 ⟨?_, ?_⟩
  · intro r _
    refine pairwise_of_forall_mem_list fun g hg g' hg' => ?_
    exact Or.inl ((mem_generated hg).1.trans (mem_generated hg').1.symm)
  · refine (pairwise_liveRules st).imp fun {r r'} hbefore g hg g' hg' => ?_
    rw [(mem_generated hg).1, (mem_generated hg').1]
    exact Or.inr hbefore

section Selected

variable {cm : CaseMapping} {st : GatewayState} {c : Config} {router : Router} {req : Request}

theorem selects_iff_isFirst (hgen : generateConfig st = .ok c)
    (hbuild : Router.build cm c.routes = .ok router) {r : HttpRule} :
    router.Selects cm st req r ↔
      ∃ g, IsFirst (fun g => g.Accepts cm req) (generatedRoutes st) g ∧ g.rule = r := by
  have hc := isGenerated_of_eq_ok hgen
  constructor
  · rintro ⟨m, g, hchooses, hrule⟩
    exact ⟨g, hchooses.isFirst hc hbuild, hrule⟩
  · rintro ⟨g, hfirst, hrule⟩
    obtain ⟨m, hchooses⟩ := exists_chooses_of_isFirst hc hbuild hfirst
    exact ⟨m, g, hchooses, hrule⟩

/-- The rule of the first route comes before every other rule that matches. -/
theorem before_of_isFirst {g : GeneratedRoute} {r : HttpRule}
    (hfirst : IsFirst (fun g => g.Accepts cm req) (generatedRoutes st) g)
    (hr : r.Matches cm st req) (hne : g.rule ≠ r) : g.rule.Before r := by
  obtain ⟨g', hg', rfl, haccepts⟩ := hr
  rcases hfirst.eq_or_of_pairwise (pairwise_generatedRoutes st) hg' haccepts with
    rfl | hrule | hbefore
  · exact absurd rfl hne
  · exact absurd hrule hne
  · exact hbefore

end Selected

/-! ### An exact path and a prefix -/

def pathOnly (type : PathMatchType) (value : String) : HTTPRouteMatch where
  path := some { type := type, value := value }

def pathRule (type : PathMatchType) (value : String) : HTTPRouteRule where
  matches_ := [pathOnly type value]
  backendRefs := [⟨{ name := "web" }⟩]

def loginRoute (exactFirst : Bool) : HTTPRoute where
  metadata := { ns := some "shop", name := some "login" }
  spec :=
    { rules := if exactFirst then [pathRule .Exact "/login", pathRule .PathPrefix "/"]
        else [pathRule .PathPrefix "/", pathRule .Exact "/login"] }
  status := some (acceptedFor "gw")

def loginState (exactFirst : Bool) : GatewayState where
  httpRoutes := KeyMap.collect [("shop/login", loginRoute exactFirst)]

def loginRule (exactFirst : Bool) (idx : ℕ) (type : PathMatchType) (value : String) : HttpRule where
  key := "shop/login"
  route := loginRoute exactFirst
  idx := idx
  rule := pathRule type value

variable (exactFirst : Bool)

theorem ruleMatches_loginState :
    ruleMatches (loginState exactFirst) =
      if exactFirst then
        [(loginRule true 0 .Exact "/login", pathOnly .Exact "/login"),
          (loginRule true 1 .PathPrefix "/", pathOnly .PathPrefix "/")]
      else
        [(loginRule false 0 .PathPrefix "/", pathOnly .PathPrefix "/"),
          (loginRule false 1 .Exact "/login", pathOnly .Exact "/login")] := by
  cases exactFirst <;> rfl

theorem liveRules_loginState :
    ∀ r ∈ liveRules (loginState exactFirst), r.route = loginRoute exactFirst ∧
      r.rule.timeouts = none := by
  intro r hr
  cases exactFirst <;>
  · rcases mem_cons.1 hr with rfl | hr
    · exact ⟨rfl, rfl⟩
    · obtain rfl := mem_singleton.1 hr
      exact ⟨rfl, rfl⟩

theorem exists_router_loginState :
    ∃ c router, generateConfig (loginState exactFirst) = .ok c ∧
      Router.build .ascii c.routes = .ok router := by
  refine exists_router (splittable_of_timeouts fun r hr => ?_) fun r hr _ p hp => ?_
  · exact (liveRules_loginState exactFirst r hr).2
  · rw [HttpRule.host, (liveRules_loginState exactFirst r hr).1] at hp
    cases hp

def loginRequest : Request := getRequest "shop.example.com" "/login"

theorem pathOnly_required {type : PathMatchType} {value : String}
    (hpath : (HTTPPathMatch.mk type value).textHolds "/login" = true) :
    (pathOnly type value).Required .ascii none loginRequest where
  host p hp := by cases hp
  path := hpath
  method x hx := by cases hx
  headers name value h := by cases h

theorem loginRule_matchesBy {exactFirst : Bool} {idx : ℕ} {type : PathMatchType} {value : String}
    (hmem : (loginRule exactFirst idx type value, pathOnly type value) ∈
      ruleMatches (loginState exactFirst))
    (hpath : (HTTPPathMatch.mk type value).textHolds "/login" = true) :
    (loginRule exactFirst idx type value).MatchesBy .ascii (loginState exactFirst) loginRequest
      ⟨type, value⟩ :=
  matchesBy_iff.2 ⟨_, hmem, rfl, pathOnly_required hpath⟩

end Wicket
