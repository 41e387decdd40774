/-
**Replacing the prefix of a path.**

The matcher accepts a path that goes on in the middle of a segment, and then a segment is cut in
two; and one without the slash at the end of the prefix.
-/

import Wicket.Routing
import Wicket.Segments

namespace Wicket

open List Text

open Text (CaseMapping segments)

/-! ### The rewrite -/

/-- The path with the matched prefix replaced; the whole path counts as the rest when it does not
begin with the prefix. -/
def replacePathPrefix (path matchedPrefix replacement : String) : String :=
  let suffix := (Text.stripPrefix path matchedPrefix).getD path
  if suffix == "" then replacement
  else if Text.endsWith replacement "/" && Text.startsWith suffix "/" then
    Text.trimEnd replacement '/' ++ suffix
  else if Text.endsWith replacement "/" || Text.startsWith suffix "/" then replacement ++ suffix
  else replacement ++ "/" ++ suffix

def queryText : Option String → String
  | some query => "?" ++ query
  | none => ""

def rewritePathAndQuery (path : String) (query : Option String) (matchedPrefix : String)
    (rewrite : UrlRewriteFilter) : Option String :=
  rewrite.path.map fun pathRewrite =>
    (match pathRewrite with
      | .ReplaceFullPath replacement => replacement
      | .ReplacePrefixMatch replacement => replacePathPrefix path matchedPrefix replacement) ++
    queryText query

def MatchedRoute.upstreamPath (matched : MatchedRoute) (path : String) (query : Option String) :
    Option String :=
  matched.urlRewrite.bind (rewritePathAndQuery path query matched.matchedPathPrefix)

/-! ### Segments of paths -/

theorem singleton_slash : String.singleton '/' = "/" := by decide

theorem segments_append_iff {s t : String} :
    segments (s ++ t) '/' = segments s '/' ++ segments t '/' ↔
      s = "" ∨ t = "" ∨ Text.endsWith s "/" = true ∨ Text.startsWith t "/" = true := by
  rw [Text.segments_append_iff, singleton_slash]

theorem segments_append_slash (s : String) : segments (s ++ "/") '/' = segments s '/' := by
  rw [← singleton_slash, Text.segments_append_singleton]

/-! ### What is replaced -/

/-- The text is a path, whose segments are those of `path` with the ones of `pathPrefix` replaced by
those of `replacement`, and the query. -/
def ReplacesPrefix (pathPrefix replacement path : String) (query : Option String) (text : String) :
    Prop :=
  ∃ newPath rest, '?' ∉ newPath.toList ∧ text = newPath ++ queryText query ∧
    segments path '/' = segments pathPrefix '/' ++ rest ∧
    segments newPath '/' = segments replacement '/' ++ rest

def EndsSegment (pathPrefix path : String) : Prop :=
  (∃ rest, path = pathPrefix ++ rest ∧ (pathPrefix = "" ∨ rest = "" ∨
    Text.endsWith pathPrefix "/" = true ∨ Text.startsWith rest "/" = true)) ∨
  (pathPrefix = path ++ "/" ∧ segments path '/' = [])

section Rewrite

variable {pathPrefix replacement path suffix : String} {query : Option String}

theorem prefix_matches_iff :
    (PathMatcher.Prefix pathPrefix).matches_ path = true ↔
      (∃ rest, path = pathPrefix ++ rest) ∨ pathPrefix = path ++ "/" := by
  rw [PathMatcher.matches_, Bool.or_eq_true, startsWith_iff, beq_iff_eq, stripSuffix_eq_some]

theorem stripPrefix_append (pathPrefix rest : String) :
    (stripPrefix (pathPrefix ++ rest) pathPrefix).getD (pathPrefix ++ rest) = rest := by
  rw [stripPrefix_eq_some.2 rfl, Option.getD_some]

theorem stripPrefix_slash (path : String) :
    (stripPrefix path (path ++ "/")).getD path = path := by
  have hno : startsWith path (path ++ "/") = false := by
    rw [← Bool.not_eq_true, startsWith_iff]
    intro h
    obtain ⟨rest, hrest⟩ := h
    have hlength := congrArg String.length hrest
    rw [String.length_append, String.length_append] at hlength
    have hslash : "/".length = 1 := rfl
    omega
  rw [stripPrefix_eq_none.2 hno, Option.getD_none]

theorem segments_replacePathPrefix (hsuffix : (stripPrefix path pathPrefix).getD path = suffix) :
    segments (replacePathPrefix path pathPrefix replacement) '/' =
      segments replacement '/' ++ segments suffix '/' := by
  rw [replacePathPrefix, hsuffix]
  by_cases hempty : suffix = ""
  · rw [hempty, if_pos (beq_self_eq_true "")]
    exact (append_nil _).symm
  · rw [if_neg (by rwa [beq_iff_eq])]
    cases hends : endsWith replacement "/" with
    | true =>
      cases hstarts : startsWith suffix "/" with
      | true =>
        rw [Bool.and_self, if_pos rfl, segments_append_iff.2 (.inr (.inr (.inr hstarts))),
          segments_trimEnd]
      | false =>
        rw [Bool.and_false, if_neg Bool.false_ne_true, Bool.or_false, if_pos rfl,
          segments_append_iff.2 (.inr (.inr (.inl hends)))]
    | false =>
      cases hstarts : startsWith suffix "/" with
      | true =>
        rw [Bool.and_true, if_neg Bool.false_ne_true, Bool.or_true, if_pos rfl,
          segments_append_iff.2 (.inr (.inr (.inr hstarts)))]
      | false =>
        have hslash : endsWith (replacement ++ "/") "/" = true :=
          endsWith_iff.2 ⟨replacement, rfl⟩
        rw [Bool.and_self, if_neg Bool.false_ne_true, Bool.or_self, if_neg Bool.false_ne_true,
          segments_append_iff.2 (.inr (.inr (.inl hslash))), segments_append_slash]

theorem endsSegment_append_iff :
    EndsSegment pathPrefix (pathPrefix ++ suffix) ↔
      segments (pathPrefix ++ suffix) '/' = segments pathPrefix '/' ++ segments suffix '/' := by
  rw [segments_append_iff]
  constructor
  · intro h
    rcases h with hrest | hshort
    · obtain ⟨rest, heq, hends⟩ := hrest
      rwa [(String.append_right_inj pathPrefix).1 heq]
    · have hlength := congrArg String.length hshort.1
      rw [String.length_append, String.length_append] at hlength
      have hslash : "/".length = 1 := rfl
      omega
  · intro h
    exact Or.inl ⟨suffix, rfl, h⟩

theorem endsSegment_slash_iff : EndsSegment (path ++ "/") path ↔ segments path '/' = [] := by
  constructor
  · intro h
    rcases h with hlong | hshort
    · obtain ⟨rest, heq, -⟩ := hlong
      have hlength := congrArg String.length heq
      rw [String.length_append, String.length_append] at hlength
      have hslash : "/".length = 1 := rfl
      omega
    · exact hshort.2
  · intro h
    exact Or.inr ⟨rfl, h⟩

theorem segmentsReplaced_iff (haccepts : (PathMatcher.Prefix pathPrefix).matches_ path = true) :
    (∃ rest, segments path '/' = segments pathPrefix '/' ++ rest ∧
      segments (replacePathPrefix path pathPrefix replacement) '/' =
        segments replacement '/' ++ rest) ↔ EndsSegment pathPrefix path := by
  rcases prefix_matches_iff.1 haccepts with hprefix | hslash
  · -- the rest of the path is what follows the prefix
    obtain ⟨suffix, rfl⟩ := hprefix
    rw [endsSegment_append_iff, segments_replacePathPrefix (stripPrefix_append pathPrefix suffix)]
    constructor
    · intro h
      obtain ⟨rest, hpath, hnew⟩ := h
      rw [hpath, append_cancel_left hnew]
    · intro h
      exact ⟨_, h, rfl⟩
  · -- nothing is cut off, and the prefix has no segment more than the path
    subst hslash
    rw [endsSegment_slash_iff, segments_replacePathPrefix (stripPrefix_slash path),
      segments_append_slash]
    constructor
    · intro h
      obtain ⟨rest, hpath, hnew⟩ := h
      rw [append_cancel_left hnew]
      exact self_eq_append_right.1 hpath
    · intro h
      exact ⟨[], (append_nil _).symm, by rw [h]⟩

theorem mem_replacePathPrefix {a : Char} (ha : a ≠ '/')
    (haccepts : (PathMatcher.Prefix pathPrefix).matches_ path = true)
    (h : a ∈ (replacePathPrefix path pathPrefix replacement).toList) :
    a ∈ replacement.toList ∨ a ∈ path.toList := by
  have hsuffix : ∀ suffix, (stripPrefix path pathPrefix).getD path = suffix →
      a ∈ suffix.toList → a ∈ path.toList := by
    intro suffix hsuffix hmem
    rcases prefix_matches_iff.1 haccepts with hprefix | hslash
    · obtain ⟨rest, rfl⟩ := hprefix
      rw [stripPrefix_append] at hsuffix
      rw [String.toList_append, hsuffix]
      exact mem_append_right _ hmem
    · rw [hslash, stripPrefix_slash] at hsuffix
      rwa [hsuffix]
  obtain ⟨segment, hsegment, hmem⟩ := (mem_segments_iff ha).1 h
  rw [segments_replacePathPrefix rfl, mem_append] at hsegment
  rcases hsegment with hleft | hright
  · exact Or.inl ((mem_segments_iff ha).2 ⟨segment, hleft, hmem⟩)
  · exact Or.inr (hsuffix _ rfl ((mem_segments_iff ha).2 ⟨segment, hright, hmem⟩))

theorem replacesPrefix_iff (haccepts : (PathMatcher.Prefix pathPrefix).matches_ path = true)
    (hpath : '?' ∉ path.toList) :
    ReplacesPrefix pathPrefix replacement path query
        (replacePathPrefix path pathPrefix replacement ++ queryText query) ↔
      EndsSegment pathPrefix path ∧ '?' ∉ replacement.toList := by
  have hmark : '?' ≠ '/' := by decide
  rw [← @segmentsReplaced_iff pathPrefix replacement path haccepts]
  constructor
  · intro h
    obtain ⟨newPath, rest, hquery, htext, hold, hnew⟩ := h
    rw [(String.append_left_inj (queryText query)).1 htext]
    refine ⟨⟨rest, hold, hnew⟩, ?_⟩
    intro hmem
    -- the question mark would be in a segment of the new path
    obtain ⟨segment, hsegment, hmem⟩ := (mem_segments_iff hmark).1 hmem
    refine hquery ((mem_segments_iff hmark).2 ⟨segment, ?_, hmem⟩)
    rw [hnew]
    exact mem_append_left rest hsegment
  · intro h
    obtain ⟨⟨rest, hold, hnew⟩, hreplacement⟩ := h
    refine ⟨_, rest, ?_, rfl, hold, hnew⟩
    intro hmem
    exact (mem_replacePathPrefix hmark haccepts hmem).elim hreplacement hpath

end Rewrite

/-! ### The rewrite of a route -/

structure RouteConfig.RewritesPrefix (route : RouteConfig) (pathPrefix replacement : String) :
    Prop where
  path : route.matchRules.path = none
  pathPrefix : route.matchRules.pathPrefix = some pathPrefix
  rewrite : ∃ rewrite ∈ route.filters.bind RouteFilters.urlRewrite,
    rewrite.path = some (.ReplacePrefixMatch replacement)

/-- **A route replaces the segments of its prefix and keeps the query exactly when the prefix ends
with a segment of the path and the replacement has no query.** -/
theorem rewritePathAndQuery_iff {cm : CaseMapping} {config : RouteConfig} {route : CompiledRoute}
    {pathPrefix replacement path : String} (hcompile : CompiledRoute.compile cm config = .ok route)
    (hconfig : config.RewritesPrefix pathPrefix replacement)
    (haccepts : ∀ m ∈ route.pathMatcher, m.matches_ path = true) (hpath : '?' ∉ path.toList)
    (query : Option String) :
    ∃ rewrite ∈ route.urlRewrite, ∃ text,
      rewritePathAndQuery path query (route.matchedPathPrefix path) rewrite = some text ∧
      (ReplacesPrefix pathPrefix replacement path query text ↔
        EndsSegment pathPrefix path ∧ '?' ∉ replacement.toList) := by
  obtain ⟨hostMatcher, -, rfl⟩ := Check.map_eq_ok.1 hcompile
  have hmatcher : config.matchRules.pathMatcher = some (.Prefix pathPrefix) := by
    rw [RouteMatch.pathMatcher, hconfig.path, hconfig.pathPrefix]
    rfl
  obtain ⟨rewrite, hrewrite, hmodifier⟩ := hconfig.rewrite
  refine ⟨rewrite, hrewrite, _, ?_, replacesPrefix_iff (haccepts _ hmatcher) hpath⟩
  rw [rewritePathAndQuery, hmodifier, CompiledRoute.matchedPathPrefix]
  rw [hmatcher]
  rfl

def rewritingRoute (pathPrefix replacement : String) : RouteConfig where
  upstream := "api"
  matchRules := { pathPrefix := some pathPrefix }
  filters := some { urlRewrite := some { path := some (.ReplacePrefixMatch replacement) } }

theorem rewritingRoute_rewritesPrefix (pathPrefix replacement : String) :
    (rewritingRoute pathPrefix replacement).RewritesPrefix pathPrefix replacement :=
  ⟨rfl, rfl, _, rfl, rfl⟩

theorem usersPath_replaced :
    ∃ route, CompiledRoute.compile .ascii (rewritingRoute "/api" "/v2/") = .ok route ∧
      ∃ rewrite ∈ route.urlRewrite, ∃ text,
        rewritePathAndQuery "/api/users" (some "page=1") (route.matchedPathPrefix "/api/users")
          rewrite = some text ∧
        ReplacesPrefix "/api" "/v2/" "/api/users" (some "page=1") text := by
  refine ⟨_, rfl, ?_⟩
  obtain ⟨rewrite, hrewrite, text, htext, hreplaced⟩ :=
    @rewritePathAndQuery_iff .ascii _ _ _ _ "/api/users" rfl
      (rewritingRoute_rewritesPrefix "/api" "/v2/") (by decide) (by decide) (some "page=1")
  refine ⟨rewrite, hrewrite, text, htext, hreplaced.2 ⟨Or.inl ⟨"/users", by decide, ?_⟩, by decide⟩⟩
  exact Or.inr (Or.inr (Or.inr (by decide)))

def rewritingConfig (pathPrefix replacement : String) : Config :=
  { Config.default with
    upstreams := Std.TreeMap.ofList [("api", ({ backends := ["10.0.0.1:80"] } : UpstreamConfig))]
    routes := [rewritingRoute pathPrefix replacement] }

def sentPath (config : Config) (path : String) (query : Option String) : Option String :=
  match Router.build .ascii config.routes with
  | .error _ => none
  | .ok router => (router.matchRequest .ascii none path "GET" ∅).bind fun matched =>
    matched.upstreamPath path query

theorem rewritingConfig_not_replaced :
    ((rewritingConfig "/api" "/v2").validate = .ok () ∧
      sentPath (rewritingConfig "/api" "/v2") "/apix/y" none = some "/v2/x/y" ∧
      ¬ReplacesPrefix "/api" "/v2" "/apix/y" none "/v2/x/y") ∧
    ((rewritingConfig "/api/" "/v2").validate = .ok () ∧
      sentPath (rewritingConfig "/api/" "/v2") "/api" none = some "/v2/api" ∧
      ¬ReplacesPrefix "/api/" "/v2" "/api" none "/v2/api") := by
  refine ⟨⟨rfl, by decide, ?_⟩, ⟨rfl, by decide, ?_⟩⟩
  · intro h
    obtain ⟨newPath, rest, -, -, hold, -⟩ := h
    exact absurd (List.cons.inj hold).1 (by decide)
  · intro h
    obtain ⟨newPath, rest, -, htext, hold, hnew⟩ := h
    have hpath : newPath = "/v2/api" := by
      rw [htext, queryText, String.append_empty]
    rw [show segments "/api" '/' = ["api"] by decide,
      show segments "/api/" '/' = ["api"] by decide, List.singleton_append] at hold
    rw [hpath, show segments "/v2/api" '/' = ["v2", "api"] by decide,
      show segments "/v2" '/' = ["v2"] by decide, ← (List.cons.inj hold).2] at hnew
    exact absurd hnew (by decide)

end Wicket
