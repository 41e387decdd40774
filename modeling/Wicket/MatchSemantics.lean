/-
**What a match of an HTTPRoute means, and what its route requires.**

The route compares a path prefix as a text and a method in upper case, reads every header condition
as a text, keeps one for each name, and knows nothing of query parameters.
-/

import Wicket.Rendered
import Wicket.Routing

namespace Wicket

open Option KeyMap HTTPPathMatch PathMatcher List
open Text

structure Request where
  host : Option String
  path : String
  queryParams : List (String × String) := []
  method : String
  headers : List HeaderLine := []

/-! ### The declared meaning -/

/-- A regular expression engine: the pattern, the first text, matches the second. -/
abbrev Regex : Type := String → String → Bool

def ValueMatchType.holds (rx : Regex) (type : ValueMatchType) (expected value : String) : Bool :=
  match type with
  | .Exact => value == expected
  | .RegularExpression => rx expected value

def prefixSegments (value : String) : List String :=
  split ((stripSuffix value "/").getD value) '/'

/-- A path compared as its condition says; prefixes are compared segment by segment. -/
def HTTPPathMatch.holds (rx : Regex) (p : HTTPPathMatch) (path : String) : Bool :=
  match p.type with
  | .Exact => path == p.value
  | .PathPrefix => (prefixSegments p.value).isPrefixOf (split path '/')
  | .RegularExpression => rx p.value path

def HTTPHeaderMatch.holds (rx : Regex) (h : HTTPHeaderMatch) (lines : List HeaderLine) : Bool :=
  lines.any fun line => toAsciiLowercase line.name == toAsciiLowercase h.name &&
    h.type.holds rx h.value line.value

def HTTPQueryParamMatch.holds (rx : Regex) (q : HTTPQueryParamMatch)
    (params : List (String × String)) : Bool :=
  params.any fun p => p.1 == q.name && q.type.holds rx q.value p.2

/-- The path condition of a match; without one every path below `/` is meant. -/
def HTTPRouteMatch.pathMatch (m : HTTPRouteMatch) : HTTPPathMatch := m.path.getD {}

structure HTTPRouteMatch.Satisfied (rx : Regex) (m : HTTPRouteMatch) (req : Request) : Prop where
  path : m.pathMatch.holds rx req.path = true
  method : ∀ x ∈ m.method, req.method = x.debugName
  headers : ∀ h ∈ m.headers, h.holds rx req.headers = true
  queryParams : ∀ q ∈ m.queryParams, q.holds rx req.queryParams = true

/-- The matches of a rule; a rule without any applies to every path below `/`. -/
def HTTPRouteRule.effectiveMatches (rule : HTTPRouteRule) : List HTTPRouteMatch :=
  if rule.matches_.isEmpty then [{}] else rule.matches_

variable {m : HTTPRouteMatch} {cm : CaseMapping}
  {rule : HTTPRouteRule} {lines : List HeaderLine} {v : String}

theorem mem_effectiveMatches (h : m ∈ rule.matches_) : m ∈ rule.effectiveMatches := by
  rw [HTTPRouteRule.effectiveMatches, if_neg]
  · exact h
  · rw [List.isEmpty_iff]
    exact List.ne_nil_of_mem h

theorem mem_matches_of_ne {m' : HTTPRouteMatch} (hm : m ∈ rule.effectiveMatches)
    (hm' : m' ∈ rule.effectiveMatches) (hne : m ≠ m') :
    m ∈ rule.matches_ := by
  rw [HTTPRouteRule.effectiveMatches] at hm hm'
  split at hm
  · rename_i hempty
    rw [if_pos hempty] at hm'
    exact absurd ((mem_singleton.1 hm).trans (mem_singleton.1 hm').symm) hne
  · exact hm

def HttpRule.HostCovered (cm : CaseMapping) (r : HttpRule) (req : Request) : Prop :=
  r.route.spec.hostnames = [] ∨
    ∃ p ∈ r.route.spec.hostnames, ∃ h ∈ req.host, hostAccepts cm p h = true

structure HttpRule.Covers (rx : Regex) (cm : CaseMapping) (r : HttpRule) (req : Request) :
    Prop where
  host : r.HostCovered cm req
  satisfied : ∃ m ∈ r.rule.effectiveMatches, m.Satisfied rx req

/-! ### What the generated route requires -/

/-- A path compared as the generated route does; there is none for a regular expression. -/
def HTTPPathMatch.textHolds (p : HTTPPathMatch) (path : String) : Bool :=
  match p.type with
  | .Exact => (PathMatcher.Exact p.value).matches_ path
  | .PathPrefix => (PathMatcher.Prefix p.value).matches_ path
  | .RegularExpression => false

/-- The header conditions, as entries written in order. -/
def HTTPRouteMatch.headerPairs (m : HTTPRouteMatch) : List (String × String) :=
  m.headers.map fun h => (h.name, h.value)

def HostRead (cm : CaseMapping) (host : Option String) (req : Request) : Prop :=
  ∀ p ∈ host, ∃ h ∈ req.host, hostAccepts cm p h = true

/-- Under each name the last condition holds, of the last readable line with that name in lower
case. -/
def HTTPRouteMatch.HeadersRead (cm : CaseMapping) (m : HTTPRouteMatch) (req : Request) : Prop :=
  ∀ name value, lastWrite m.headerPairs name = some value →
    lastWrite (headerEntries cm req.headers) name = some value

structure HTTPRouteMatch.Required (cm : CaseMapping) (host : Option String) (m : HTTPRouteMatch)
    (req : Request) : Prop where
  host : HostRead cm host req
  path : m.pathMatch.textHolds req.path = true
  method : ∀ x ∈ m.method, cm.toUppercase req.method = x.debugName
  headers : m.HeadersRead cm req

theorem toUppercase_debugName (cm : CaseMapping) (x : HTTPMethod) :
    cm.toUppercase x.debugName = x.debugName := by
  rw [cm.toUppercase_ascii _ (by cases x <;> decide)]
  cases x <;> decide

theorem pathMatcher_matchRules {host : Option String} {m : HTTPRouteMatch} {rules : RouteMatch}
    (h : matchRules host m = some rules) {path : String} :
    (∀ p ∈ rules.pathMatcher, p.matches_ path = true) ↔ m.pathMatch.textHolds path = true := by
  obtain ⟨paths, hpaths, rfl⟩ := map_eq_some_iff.1 h
  cases hm : m.path with
  | none =>
    rw [hm] at hpaths
    cases hpaths
    simp [RouteMatch.pathMatcher, HTTPRouteMatch.pathMatch, hm, textHolds]
  | some p =>
    rw [hm, pathRules] at hpaths
    cases htype : p.type <;> simp only [htype, some.injEq, reduceCtorEq] at hpaths <;>
      subst hpaths <;>
      simp [RouteMatch.pathMatcher, HTTPRouteMatch.pathMatch, hm, textHolds, htype]

theorem accepts_iff_required {host : Option String} {rc : RouteConfig}
    (h : matchRules host m = some rc.matchRules) {req : Request} :
    rc.Accepts cm req.host req.path req.method (collect (headerEntries cm req.headers)) ↔
      m.Required cm host req := by
  have hpath := @pathMatcher_matchRules host m rc.matchRules h req.path
  obtain ⟨paths, -, hrules⟩ := map_eq_some_iff.1 h
  have hheaders : (∀ k v : String, rc.matchRules.headers[k]? = some v →
      (collect (headerEntries cm req.headers)).lookup k = some v) ↔
      m.HeadersRead cm req := by
    rw [← hrules]
    simp only [getElem?_ofList, lookup_collect]
    rfl
  have hmethod : (rc.matchRules.methods = [] ∨
      cm.toUppercase req.method ∈ rc.matchRules.methods.map cm.toUppercase) ↔
      ∀ x ∈ m.method, cm.toUppercase req.method = x.debugName := by
    rw [← hrules]
    cases m.method <;> simp [toUppercase_debugName]
  have hhost : (∀ p ∈ rc.matchRules.host, ∃ h ∈ req.host, hostAccepts cm p h = true) ↔
      HostRead cm host req := by
    rw [← hrules]
    rfl
  constructor
  · rintro ⟨h₁, h₂, h₃, h₄⟩
    exact ⟨hhost.1 h₁, hpath.1 h₂, hmethod.1 h₃, hheaders.1 h₄⟩
  · rintro ⟨h₁, h₂, h₃, h₄⟩
    exact ⟨hhost.2 h₁, hpath.2 h₂, hmethod.2 h₃, hheaders.2 h₄⟩

/-! ### Paths -/

def cutsSegment (value path : String) : Bool :=
  !endsWith value "/" &&
    match stripPrefix path value with
    | some rest => rest != "" && !startsWith rest "/"
    | none => false

theorem segments_iff {value path : String} :
    (prefixSegments value).isPrefixOf (split path '/') = true ↔
      (PathMatcher.Prefix value).matches_ path = true ∧ cutsSegment value path = false := by
  have hsep : String.singleton '/' = "/" := rfl
  rw [List.isPrefixOf_iff_prefix, prefixSegments, split_prefix_iff, hsep, matches_, cutsSegment]
  cases hstrip : stripSuffix value "/" with
  | some w =>
    -- the `/` at the end of the prefix separates the segments
    have hvalue := stripSuffix_eq_some.1 hstrip
    have hends : endsWith value "/" = true := endsWith_iff.2 ⟨w, hvalue⟩
    simp only [getD_some, ← hvalue, hends, Bool.not_true, Bool.false_and, and_true,
      Bool.or_eq_true, beq_iff_eq, some.injEq]
    rw [or_comm, eq_comm (a := path)]
  | none =>
    have hends : endsWith value "/" = false := by
      rw [Bool.eq_false_iff, ne_eq, endsWith_iff]
      rintro ⟨w, hw⟩
      rw [stripSuffix_eq_some.2 hw] at hstrip
      cases hstrip
    cases hrest : stripPrefix path value with
    | none =>
      have hstarts := stripPrefix_eq_none.1 hrest
      have hne : path ≠ value := by
        rintro rfl
        rw [stripPrefix_eq_some.2 (String.append_empty).symm] at hrest
        cases hrest
      have hslash : startsWith path (value ++ "/") ≠ true := by
        intro h
        rw [startsWith_of_append h] at hstarts
        cases hstarts
      simpa [hstarts, hne] using hslash
    | some rest =>
      obtain rfl := stripPrefix_eq_some.1 hrest
      have hstarts : startsWith (value ++ rest) value = true :=
        startsWith_iff.2 ⟨rest, rfl⟩
      have hself : value ++ rest = value ↔ rest = "" := by simp
      simp only [getD_none, hself, startsWith_append_left, hstarts, hends]
      by_cases hempty : rest = "" <;> simp [hempty]

theorem mem_headerEntries {k : String} :
    (k, v) ∈ headerEntries cm lines ↔
      ∃ line ∈ lines, line.toStr = some v ∧ cm.toLowercase line.name = k := by
  simp [headerEntries, and_comm]

theorem HTTPHeaderMatch.holds_of_lastWrite {rx : Regex} {h : HTTPHeaderMatch}
    (htype : h.type = .Exact)
    (hread : lastWrite (headerEntries cm lines) h.name = some h.value) :
    h.holds rx lines = true := by
  obtain ⟨line, hline, hstr, hname⟩ := mem_headerEntries.1 (mem_of_lastWrite hread)
  rw [cm.toLowercase_ascii _ line.nameAscii] at hname
  refine any_eq_true.2 ⟨line, hline, ?_⟩
  rw [← hname, toAsciiLowercase_idem, HeaderLine.value_of_toStr hstr, htype]
  simp [ValueMatchType.holds]

/-! ### The two readings compared -/

/-- The request avoids everything the route leaves out of the match. -/
structure HTTPRouteMatch.Precise (rx : Regex) (cm : CaseMapping) (m : HTTPRouteMatch)
    (req : Request) : Prop where
  path : m.pathMatch.type = .PathPrefix → cutsSegment m.pathMatch.value req.path = false
  method : m.method.isSome = true → cm.toUppercase req.method = req.method
  headers : ∀ h ∈ m.headers,
    h.type = .RegularExpression ∨ lastWrite m.headerPairs h.name ≠ some h.value →
      h.holds rx req.headers = true
  queryParams : ∀ q ∈ m.queryParams, q.holds rx req.queryParams = true

section Compared

variable {rx : Regex} {cm : CaseMapping} {host : Option String} {m : HTTPRouteMatch} {req : Request}

theorem HTTPRouteMatch.Required.path_ne_regex (h : m.Required cm host req) :
    m.pathMatch.type ≠ .RegularExpression := by
  intro htype
  simpa [textHolds, htype] using h.path

theorem HTTPRouteMatch.Satisfied.precise (h : m.Satisfied rx req) : m.Precise rx cm req where
  path htype := by
    have hpath := h.path
    rw [holds, htype] at hpath
    exact (segments_iff.1 hpath).2
  method hsome := by
    obtain ⟨x, hx⟩ := isSome_iff_exists.1 hsome
    rw [h.method x hx, toUppercase_debugName]
  headers h' hmem _ := h.headers h' hmem
  queryParams := h.queryParams

/-- **A request the route accepts satisfies the match** exactly when it avoids what the route leaves
out. -/
theorem HTTPRouteMatch.Required.satisfied_iff (h : m.Required cm host req) :
    m.Satisfied rx req ↔ m.Precise rx cm req := by
  refine ⟨HTTPRouteMatch.Satisfied.precise, fun hprecise => ⟨?_, ?_, ?_, hprecise.queryParams⟩⟩
  · have hpath := h.path
    rw [textHolds] at hpath
    rw [holds]
    cases htype : m.pathMatch.type with
    | Exact => simpa [htype, matches_] using hpath
    | PathPrefix =>
      rw [htype] at hpath
      exact segments_iff.2 ⟨hpath, hprecise.path htype⟩
    | RegularExpression => simp [htype] at hpath
  · intro x hx
    rw [← h.method x hx, hprecise.method (isSome_iff_exists.2 ⟨x, hx⟩)]
  · intro h' hmem
    by_cases hloose : h'.type = .RegularExpression ∨ lastWrite m.headerPairs h'.name ≠ some h'.value
    · exact hprecise.headers h' hmem hloose
    · obtain ⟨hexact, hlast⟩ := not_or.1 hloose
      refine HTTPHeaderMatch.holds_of_lastWrite ?_ (h.headers _ _ (not_not.1 hlast))
      cases htype : h'.type with
      | Exact => rfl
      | RegularExpression => exact absurd htype hexact

/-- **A request that satisfies the match is accepted by its route** exactly when its host and its
headers are found as the route reads them. -/
theorem HTTPRouteMatch.Satisfied.required_iff (h : m.Satisfied rx req)
    (hpath : m.pathMatch.type ≠ .RegularExpression) :
    m.Required cm host req ↔ HostRead cm host req ∧ m.HeadersRead cm req := by
  refine ⟨fun hreq => ⟨hreq.host, hreq.headers⟩, fun hread => ⟨hread.1, ?_, ?_, hread.2⟩⟩
  · have hholds := h.path
    rw [holds] at hholds
    rw [textHolds]
    cases htype : m.pathMatch.type with
    | Exact => simpa [htype, matches_] using hholds
    | PathPrefix =>
      rw [htype] at hholds
      exact (segments_iff.1 hholds).1
    | RegularExpression => exact absurd htype hpath
  · intro x hx
    rw [h.method x hx, toUppercase_debugName]

end Compared

end Wicket
