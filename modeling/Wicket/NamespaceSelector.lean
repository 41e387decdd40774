/-
**Selecting namespaces by labels that may be missing.**

For a namespace without stored labels the planner goes on with the one label it knows, the name.  A
requirement that a label be absent, or not have certain values, is then met.
-/

import Wicket.RenderAttachment

namespace Wicket

open LabelSelectorRequirement Std.TreeMap

open KeyMap (HashMap)

/-! ### The meaning of selectors -/

/-- A requirement with an unknown operator never holds. -/
def LabelSelectorRequirement.Holds (req : LabelSelectorRequirement)
    (labels : String → Option String) : Prop :=
  (req.operator = "In" ∧ ∃ v ∈ req.values, labels req.key = some v) ∨
    (req.operator = "NotIn" ∧ ∀ v ∈ req.values, labels req.key ≠ some v) ∨
    (req.operator = "Exists" ∧ labels req.key ≠ none) ∨
    (req.operator = "DoesNotExist" ∧ labels req.key = none)

/-- All labels and all expressions are required. -/
structure LabelSelector.Holds (selector : LabelSelector) (labels : String → Option String) :
    Prop where
  required : ∀ required ∈ selector.matchLabels, ∀ k v : String, required[k]? = some v →
    labels k = some v
  expressions : ∀ req ∈ selector.matchExpressions, req.Holds labels

/-- Every namespace has the label with its own name. -/
def withName (ns : String) (labels : String → Option String) : String → Option String :=
  Function.update labels namespaceNameLabel (some ns)

variable {ns : String} {req : LabelSelectorRequirement}

theorem withName_of_ne {k : String} (h : k ≠ namespaceNameLabel) (labels : String → Option String) :
    withName ns labels k = labels k :=
  Function.update_of_ne h _ _

theorem withName_self (ns : String) (labels : String → Option String) :
    withName ns labels namespaceNameLabel = some ns :=
  Function.update_self _ _ _

variable {labels : Std.TreeMap String String} {selector : LabelSelector}
  {input : AttachmentPlanInput} {gateway : Gateway} {ctx : RouteEvalContext}

theorem LabelSelectorRequirement.matches_iff :
    req.matches_ labels = true ↔ req.Holds fun k => labels[k]? := by
  obtain ⟨key, operator, values⟩ := req
  have hcontains : labels.contains key = labels[key]?.isSome :=
    contains_eq_isSome_getElem?
  simp only [matches_, LabelSelectorRequirement.Holds, hcontains]
  cases labels[key]? with
  | none =>
    split_ifs with hin hnotIn hexists habsent
    all_goals simp_all
  | some v =>
    have hnot : v ∉ values ↔ ∀ w ∈ values, ¬v = w := by grind
    split_ifs with hin hnotIn hexists habsent
    all_goals simp_all

theorem labelSelectorMatches_iff :
    labelSelectorMatches selector labels = true ↔ selector.Holds fun k => labels[k]? := by
  have hrequired : (selector.matchLabels.all fun required =>
      required.toList.all fun e => labels[e.1]? == some e.2) = true ↔
        ∀ required ∈ selector.matchLabels, ∀ k v : String, required[k]? = some v →
          labels[k]? = some v := by
    simp [Option.all_eq_true]
  simp only [labelSelectorMatches, Bool.and_eq_true, hrequired, List.all_eq_true, matches_iff]
  constructor
  · intro h
    exact ⟨h.1, h.2⟩
  · intro h
    exact ⟨h.required, h.expressions⟩

/-- The labels the controller knows; of a namespace that it has not listed only the name. -/
def knownLabels (namespaceLabels : HashMap String (Std.TreeMap String String)) (ns : String) :
    String → Option String :=
  withName ns fun k => (namespaceLabels.lookup ns).bind fun labels => labels[k]?

/-- The namespaces a listener admits, by default its own. A selector is tested on the known labels.
-/
def NamespaceAllowed (allowedRoutes : Option AllowedRoutes) (gatewayNs routeNs : String)
    (namespaceLabels : HashMap String (Std.TreeMap String String)) : Prop :=
  match ((allowedRoutes.bind AllowedRoutes.namespaces).map RouteNamespaces.from_).getD .Same with
  | .All => True
  | .Same => routeNs = gatewayNs
  | .Selector =>
    ∃ selector, (allowedRoutes.bind AllowedRoutes.namespaces).bind RouteNamespaces.selector =
      some selector ∧ selector.Holds (knownLabels namespaceLabels routeNs)

theorem getElem?_insert_name (labels : Std.TreeMap String String) (ns k : String) :
    (labels.insert namespaceNameLabel ns)[k]? = withName ns (fun k => labels[k]?) k := by
  rw [getElem?_insert]
  by_cases hk : k = namespaceNameLabel
  · rw [hk, withName_self, if_pos Std.ReflCmp.compare_self]
  · rw [withName_of_ne hk, if_neg]
    intro hcompare
    exact hk (Std.LawfulEqCmp.eq_of_compare hcompare).symm

theorem namespaceAllowed_iff {allowedRoutes : Option AllowedRoutes} {gatewayNs routeNs : String}
    {namespaceLabels : HashMap String (Std.TreeMap String String)} :
    namespaceAllowed allowedRoutes gatewayNs routeNs namespaceLabels = true ↔
      NamespaceAllowed allowedRoutes gatewayNs routeNs namespaceLabels := by
  have hlabels : (fun k => (((namespaceLabels.lookup routeNs).getD ∅).insert namespaceNameLabel
      routeNs)[k]?) = knownLabels namespaceLabels routeNs := by
    funext k
    rw [getElem?_insert_name, knownLabels]
    cases namespaceLabels.lookup routeNs with
    | none => simp [withName]
    | some labels => rfl
  unfold namespaceAllowed NamespaceAllowed
  dsimp only
  cases ((allowedRoutes.bind AllowedRoutes.namespaces).map RouteNamespaces.from_).getD .Same with
  | All => simp
  | Same => simp
  | Selector =>
    cases (allowedRoutes.bind AllowedRoutes.namespaces).bind RouteNamespaces.selector with
    | none => simp
    | some selector => simp [labelSelectorMatches_iff, hlabels]

/-! ### Attachments -/

/-- The planner attaches the route of the context to the listener. -/
structure AttachesTo (input : AttachmentPlanInput) (gateway : Gateway) (ctx : RouteEvalContext)
    (l : Listener) : Prop where
  evaluated : Evaluated input gateway ctx
  selects : ctx.Selects l
  attached : (ctx.checkListener l).isAttached = true

theorem Evaluated.snapshot_eq (h : Evaluated input gateway ctx) :
    ctx.snapshot = input.snapshot := by
  cases h with
  | http => rfl
  | tcp => rfl
  | tls => rfl

theorem AttachesTo.exists_result {l : Listener} (h : AttachesTo input gateway ctx l)
    (hgateway : input.snapshot.gateway input.gatewayNamespace input.gatewayName = some gateway) :
    ∃ plan, attachmentPlan input = .ok plan ∧ ∃ res ∈ plan.routeResults,
      res.routeKind = ctx.routeKind ∧ res.routeNamespace = ctx.routeNamespace ∧
        res.routeName = ctx.routeName ∧ res.listenerName = some l.name ∧
        res.status.isAttached = true := by
  obtain ⟨plan, hplan, hresults⟩ := exists_attachmentPlan hgateway
  have hadmits := RouteEvalContext.isAttached_checkListener.1 h.attached
  have hmem := (mem_evaluate_attached.2 ⟨l, h.selects, hadmits, rfl⟩).1
  exact ⟨plan, hplan, _, (hresults _).2 ⟨ctx, h.evaluated, hmem⟩, rfl, rfl, rfl, rfl, h.attached⟩

/-! ### Requirements that absence meets -/

/-- No requirement can be met by a label that is missing, except for the name of the namespace. -/
def LabelSelector.AsksNoAbsence (selector : LabelSelector) : Prop :=
  ∀ req ∈ selector.matchExpressions, req.key = namespaceNameLabel ∨
    (req.operator ≠ "DoesNotExist" ∧ (req.operator = "NotIn" → req.values = []))

theorem LabelSelectorRequirement.holds_of_name (h : req.Holds (withName ns fun _ => none))
    (hno : req.key = namespaceNameLabel ∨
      (req.operator ≠ "DoesNotExist" ∧ (req.operator = "NotIn" → req.values = [])))
    (labels : String → Option String) : req.Holds (withName ns labels) := by
  by_cases hkey : req.key = namespaceNameLabel
  · -- the name is the same in both
    unfold LabelSelectorRequirement.Holds at h ⊢
    rw [hkey, withName_self] at h ⊢
    exact h
  · obtain ⟨hexist, hvalues⟩ := hno.resolve_left hkey
    unfold LabelSelectorRequirement.Holds at h
    rw [withName_of_ne hkey] at h
    rcases h with hin | hnotIn | hexists | habsent
    · obtain ⟨-, v, -, hv⟩ := hin
      cases hv
    · refine Or.inr (Or.inl ⟨hnotIn.1, ?_⟩)
      rw [hvalues hnotIn.1]
      intro v hv
      cases hv
    · exact absurd rfl hexists.2
    · exact absurd habsent.1 hexist

theorem LabelSelectorRequirement.asksNoAbsence_of_holds
    (h : ∀ labels : Std.TreeMap String String, req.Holds (withName ns fun k => labels[k]?)) :
    req.key = namespaceNameLabel ∨
      (req.operator ≠ "DoesNotExist" ∧ (req.operator = "NotIn" → req.values = [])) := by
  by_cases hkey : req.key = namespaceNameLabel
  · exact Or.inl hkey
  refine Or.inr ⟨?_, ?_⟩
  · intro hoperator
    -- the label is there after all
    have hlabel := h ((∅ : Std.TreeMap String String).insert req.key "")
    unfold LabelSelectorRequirement.Holds at hlabel
    rw [withName_of_ne hkey, hoperator, getElem?_insert_self] at hlabel
    simp at hlabel
  · intro hoperator
    rw [List.eq_nil_iff_forall_not_mem]
    intro v hv
    -- the label has the value after all
    have hlabel := h ((∅ : Std.TreeMap String String).insert req.key v)
    unfold LabelSelectorRequirement.Holds at hlabel
    rw [withName_of_ne hkey, hoperator, getElem?_insert_self] at hlabel
    simp only [reduceCtorEq, String.reduceEq, false_and, true_and, false_or, or_false] at hlabel
    exact hlabel v hv rfl

theorem LabelSelector.holds_always_iff (h : selector.Holds (withName ns fun _ => none)) :
    (∀ labels : Std.TreeMap String String, selector.Holds (withName ns fun k => labels[k]?)) ↔
      selector.AsksNoAbsence := by
  constructor
  · intro hall req hreq
    exact asksNoAbsence_of_holds fun labels =>
      (hall labels).expressions req hreq
  · intro hno labels
    refine ⟨?_, ?_⟩
    · intro required hrequired k v hv
      have hlabel := h.required required hrequired k v hv
      by_cases hk : k = namespaceNameLabel
      · rw [hk, withName_self] at hlabel ⊢
        exact hlabel
      · rw [withName_of_ne hk] at hlabel
        cases hlabel
    · intro req hreq
      exact holds_of_name (h.expressions req hreq) (hno req hreq) _

/-- **A route of a namespace without stored labels is attached rightly, whatever its labels are,
exactly when the selector asks for no absence.** -/
theorem attachesTo_selector_iff {input : AttachmentPlanInput} {gateway : Gateway}
    {ctx : RouteEvalContext} {l : Listener} {namespaces : RouteNamespaces}
    {selector : LabelSelector}
    (hpolicy : l.allowedRoutes.bind AllowedRoutes.namespaces = some namespaces)
    (hfrom : namespaces.from_ = .Selector) (hselector : namespaces.selector = some selector)
    (hmissing : input.snapshot.namespaceLabels.lookup ctx.routeNamespace = none)
    (hattaches : AttachesTo input gateway ctx l) :
    (∀ labels : Std.TreeMap String String,
      selector.Holds (withName ctx.routeNamespace fun k => labels[k]?)) ↔
      selector.AsksNoAbsence := by
  refine LabelSelector.holds_always_iff ?_
  have hns := namespaceAllowed_iff.1
    (RouteEvalContext.isAttached_checkListener.1 hattaches.attached).ns
  rw [hattaches.evaluated.snapshot_eq, NamespaceAllowed, hpolicy, Option.map_some, hfrom,
    Option.getD_some] at hns
  obtain ⟨selector', hselector', hholds⟩ := hns
  rw [Option.bind_some, hselector] at hselector'
  rw [Option.some.inj hselector']
  rw [knownLabels, hmissing] at hholds
  exact hholds

def namespacesWhere (expressions : List LabelSelectorRequirement) : AllowedRoutes where
  namespaces := some
    { from_ := .Selector
      selector := some { matchExpressions := expressions } }

def teamApp : HTTPRoute where
  metadata := { ns := some "team", name := some "app" }
  spec := { parentRefs := [{ ns := some "infra", name := "gw" }] }

def unlabelledInput (expressions : List LabelSelectorRequirement) : AttachmentPlanInput where
  gatewayNamespace := "infra"
  gatewayName := "gw"
  gatewayGeneration := 1
  snapshot :=
    { gateways :=
        KeyMap.collect [("infra/gw", infraGateway (some (namespacesWhere expressions)))]
      httpRoutes := KeyMap.collect [("team/app", teamApp)] }

def teamOnly : List LabelSelectorRequirement :=
  [{ key := namespaceNameLabel, operator := "In", values := ["team"] }]

def unrestricted : List LabelSelectorRequirement :=
  [{ key := "restricted", operator := "DoesNotExist", values := [] }]

theorem teamOnly_holds :
    (unlabelledInput teamOnly).snapshot.namespaceLabels.lookup "team" = none ∧
    ∀ labels : Std.TreeMap String String,
      LabelSelector.Holds { matchExpressions := teamOnly }
        (withName "team" fun k => labels[k]?) := by
  have hattaches : AttachesTo (unlabelledInput teamOnly)
      (infraGateway (some (namespacesWhere teamOnly)))
      (httpEvalContext (unlabelledInput teamOnly) (infraGateway (some (namespacesWhere teamOnly)))
        teamApp { ns := some "infra", name := "gw" })
      { name := "http", port := 80, protocol := .HTTP,
        allowedRoutes := some (namespacesWhere teamOnly) } :=
    ⟨@Evaluated.http _ _ "team/app" _ _ rfl (by decide) (by decide),
      ⟨List.mem_singleton.2 rfl, rfl⟩, by decide⟩
  refine ⟨rfl, (attachesTo_selector_iff rfl rfl rfl rfl hattaches).2 ?_⟩
  intro req hreq
  rw [List.mem_singleton.1 hreq]
  exact Or.inl rfl

theorem unrestricted_admits_restricted :
    (attachmentPlan (unlabelledInput unrestricted)).map (fun plan =>
        plan.routeResults.map fun res => (res.routeNamespace, res.listenerName, res.status)) =
      .ok [("team", some "http", .Attached)] ∧
    (unlabelledInput unrestricted).snapshot.namespaceLabels.lookup "team" = none ∧
    ¬LabelSelector.Holds { matchExpressions := unrestricted }
      (withName "team" fun k => (Std.TreeMap.ofList [("restricted", "yes")])[k]?) := by
  refine ⟨by decide, rfl, ?_⟩
  intro h
  have hlabel : withName "team" (fun k => (Std.TreeMap.ofList [("restricted", "yes")])[k]?)
      "restricted" = some "yes" := by decide
  rcases h.expressions _ (List.mem_singleton.2 rfl) with hin | hnotIn | hexists | habsent
  · exact absurd hin.1 (by decide)
  · exact absurd hnotIn.1 (by decide)
  · exact absurd hexists.1 (by decide)
  · exact absurd (hlabel.symm.trans habsent.2) (by decide)

end Wicket
