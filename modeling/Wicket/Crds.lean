/-
**The Gateway API resources.**

The custom resources the controller reads, as `crds/` declares them.  A field that deserialisation
may leave out is an `Option`; one with a serialisation default always has a value.
-/

import Mathlib.Data.List.AList
import Wicket.Text

namespace Wicket

/-! ### Common types -/

def gatewayApiGroup : String := "gateway.networking.k8s.io"

/-- The controller name under which Wicket writes route statuses and owns GatewayClasses. -/
def wicketControllerName : String := "wicket.io/gateway-controller"

structure ObjectMeta where
  ns : Option String
  name : Option String
  uid : Option String := none
  generation : Option ℤ := none
  /-- Set while the object is being deleted and something still has to be cleaned up. -/
  deletionTimestamp : Option String := none
  /-- Who has to clean up before the object may go. -/
  finalizers : List String := []
  deriving DecidableEq

structure ParentReference where
  group : String := gatewayApiGroup
  kind : String := "Gateway"
  ns : Option String := none
  name : String
  sectionName : Option String := none
  port : Option UInt16 := none
  deriving DecidableEq

structure BackendRef where
  group : String := ""
  kind : String := "Service"
  name : String
  ns : Option String := none
  port : Option UInt16 := none
  weight : UInt32 := 1
  deriving DecidableEq

structure SecretObjectReference where
  group : String := ""
  kind : String := "Secret"
  name : String
  ns : Option String := none
  deriving DecidableEq

/-- A condition of a resource; the time of its last change is left out. -/
structure Condition where
  type : String
  status : String
  observedGeneration : Option ℤ := none
  reason : String
  message : String
  deriving DecidableEq

def Condition.new (type : String) (status : Bool) (reason message : String) : Condition where
  type := type
  status := if status then "True" else "False"
  reason := reason
  message := message

def Condition.withObservedGeneration (c : Condition) (gen : Option ℤ) : Condition :=
  { c with observedGeneration := gen }

def Condition.accepted : Condition :=
  .new "Accepted" true "Accepted" "Resource has been accepted"

def Condition.resolvedRefs : Condition :=
  .new "ResolvedRefs" true "ResolvedRefs" "All references resolved"

structure RouteParentStatus where
  parentRef : ParentReference
  controllerName : String
  conditions : List Condition
  deriving DecidableEq

structure RouteStatus where
  parents : List RouteParentStatus
  deriving DecidableEq

def acceptedFor (gatewayName : String) : RouteStatus where
  parents := [{
    parentRef := { name := gatewayName }
    controllerName := wicketControllerName
    conditions := [Condition.accepted] }]

/-! ### Names -/

def isAlnum (c : Char) : Bool := c.isLower || c.isDigit

theorem isAlphanum_of_isAlnum {c : Char} (h : isAlnum c = true) : c.isAlphanum = true := by
  rw [isAlnum, Bool.or_eq_true] at h
  delta Char.isAlphanum Char.isAlpha
  rw [Bool.or_eq_true, Bool.or_eq_true]
  exact h.imp_left Or.inr

/-- Letters, digits and hyphens, with a letter or digit at both ends. -/
def isLabelText (s : String) : Bool :=
  s.toList.all (fun c => isAlnum c || c == '-') && s.toList.head?.any isAlnum &&
    s.toList.getLast?.any isAlnum

/-- The names the API server accepts for a namespace. -/
def validNamespace (s : String) : Bool := isLabelText s && s.length ≤ 63

/-- The names the API server accepts for the other objects: labels joined by dots. -/
def validName (s : String) : Bool := (Text.split s '.').all isLabelText && s.length ≤ 253

/-! ### Gateways -/

inductive ProtocolType
  | HTTP
  | HTTPS
  | TLS
  | TCP
  | UDP
  deriving DecidableEq

structure GatewayTLSConfig where
  certificateRefs : List SecretObjectReference
  deriving DecidableEq

structure LabelSelectorRequirement where
  key : String
  operator : String
  values : List String
  deriving DecidableEq

structure LabelSelector where
  matchLabels : Option (Std.TreeMap String String) := none
  matchExpressions : List LabelSelectorRequirement := []

inductive FromNamespaces
  | All
  | Same
  | Selector
  deriving DecidableEq

structure RouteNamespaces where
  from_ : FromNamespaces := .Same
  selector : Option LabelSelector := none

structure RouteGroupKind where
  group : String := gatewayApiGroup
  kind : String
  deriving DecidableEq

structure AllowedRoutes where
  namespaces : Option RouteNamespaces := none
  kinds : List RouteGroupKind := []

structure Listener where
  name : String
  hostname : Option String := none
  port : UInt16
  protocol : ProtocolType
  tls : Option GatewayTLSConfig := none
  allowedRoutes : Option AllowedRoutes := none

structure GatewaySpec where
  gatewayClassName : String
  listeners : List Listener

structure Gateway where
  metadata : ObjectMeta
  spec : GatewaySpec

/-- A GatewayClass, as far as the ownership check reads it. -/
structure GatewayClass where
  metadata : ObjectMeta
  controllerName : String

def GatewayClass.isWicketManaged (gc : GatewayClass) : Bool :=
  gc.controllerName == wicketControllerName

/-! ### HTTP routes -/

inductive PathMatchType
  | Exact
  | PathPrefix
  | RegularExpression
  deriving DecidableEq

/-- How a header or query parameter is compared. -/
inductive ValueMatchType
  | Exact
  | RegularExpression
  deriving DecidableEq

structure HTTPPathMatch where
  type : PathMatchType := .PathPrefix
  value : String := "/"
  deriving DecidableEq

structure HTTPHeaderMatch where
  type : ValueMatchType := .Exact
  name : String
  value : String
  deriving DecidableEq

structure HTTPQueryParamMatch where
  type : ValueMatchType := .Exact
  name : String
  value : String
  deriving DecidableEq

inductive HTTPMethod
  | GET
  | HEAD
  | POST
  | PUT
  | DELETE
  | CONNECT
  | OPTIONS
  | TRACE
  | PATCH
  deriving DecidableEq

def HTTPMethod.debugName : HTTPMethod → String
  | .GET => "GET"
  | .HEAD => "HEAD"
  | .POST => "POST"
  | .PUT => "PUT"
  | .DELETE => "DELETE"
  | .CONNECT => "CONNECT"
  | .OPTIONS => "OPTIONS"
  | .TRACE => "TRACE"
  | .PATCH => "PATCH"

/-- The conditions under which a rule applies to a request; all of them must hold. -/
structure HTTPRouteMatch where
  path : Option HTTPPathMatch := none
  headers : List HTTPHeaderMatch := []
  queryParams : List HTTPQueryParamMatch := []
  method : Option HTTPMethod := none
  deriving DecidableEq

structure HTTPBackendRef where
  backendRef : BackendRef
  deriving DecidableEq

structure HTTPRouteTimeouts where
  request : Option String := none
  deriving DecidableEq

structure HTTPRouteRule where
  matches_ : List HTTPRouteMatch := []
  backendRefs : List HTTPBackendRef := []
  timeouts : Option HTTPRouteTimeouts := none
  deriving DecidableEq

structure HTTPRouteSpec where
  parentRefs : List ParentReference := []
  hostnames : List String := []
  rules : List HTTPRouteRule := []
  deriving DecidableEq

structure HTTPRoute where
  metadata : ObjectMeta
  spec : HTTPRouteSpec
  status : Option RouteStatus := none
  deriving DecidableEq

/-! ### TCP and TLS routes -/

structure TCPRouteRule where
  backendRefs : List BackendRef := []
  deriving DecidableEq

/-- The desired state of a TCPRoute. -/
structure TCPRouteSpec where
  parentRefs : List ParentReference := []
  rules : List TCPRouteRule := []
  deriving DecidableEq

structure TCPRoute where
  metadata : ObjectMeta
  spec : TCPRouteSpec
  status : Option RouteStatus := none
  deriving DecidableEq

structure TLSRouteRule where
  backendRefs : List BackendRef := []
  deriving DecidableEq

/-- The desired state of a TLSRoute. -/
structure TLSRouteSpec where
  parentRefs : List ParentReference := []
  hostnames : List String := []
  rules : List TLSRouteRule := []
  deriving DecidableEq

structure TLSRoute where
  metadata : ObjectMeta
  spec : TLSRouteSpec
  status : Option RouteStatus := none
  deriving DecidableEq

inductive RouteKind
  | HTTPRoute
  | TCPRoute
  | TLSRoute
  deriving DecidableEq

def RouteKind.asStr : RouteKind → String
  | .HTTPRoute => "HTTPRoute"
  | .TCPRoute => "TCPRoute"
  | .TLSRoute => "TLSRoute"

def HTTPRoute.backendRefs (route : HTTPRoute) : List BackendRef :=
  route.spec.rules.flatMap fun rule => rule.backendRefs.map HTTPBackendRef.backendRef

def TCPRoute.backendRefs (route : TCPRoute) : List BackendRef :=
  route.spec.rules.flatMap TCPRouteRule.backendRefs

def TLSRoute.backendRefs (route : TLSRoute) : List BackendRef :=
  route.spec.rules.flatMap TLSRouteRule.backendRefs

inductive Route
  | http (route : HTTPRoute)
  | tcp (route : TCPRoute)
  | tls (route : TLSRoute)
  deriving DecidableEq

def Route.kind : Route → RouteKind
  | .http _ => .HTTPRoute
  | .tcp _ => .TCPRoute
  | .tls _ => .TLSRoute

def Route.metadata : Route → ObjectMeta
  | .http route => route.metadata
  | .tcp route => route.metadata
  | .tls route => route.metadata

def Route.parentRefs : Route → List ParentReference
  | .http route => route.spec.parentRefs
  | .tcp route => route.spec.parentRefs
  | .tls route => route.spec.parentRefs

def Route.backendRefs : Route → List BackendRef
  | .http route => route.backendRefs
  | .tcp route => route.backendRefs
  | .tls route => route.backendRefs

/-! ### Reference grants -/

structure ReferenceGrantFrom where
  group : String
  kind : String
  ns : String
  deriving DecidableEq

structure ReferenceGrantTo where
  group : String
  kind : String
  name : Option String := none
  deriving DecidableEq

structure ReferenceGrant where
  metadata : ObjectMeta
  from_ : List ReferenceGrantFrom
  to_ : List ReferenceGrantTo
  deriving DecidableEq

/-- The grant permits a reference from the given source to the given target. -/
def ReferenceGrant.allowsReference (g : ReferenceGrant)
    (fromGroup fromKind fromNamespace toGroup toKind : String) (toName : Option String) : Bool :=
  if !g.from_.any fun f => f.group == fromGroup && f.kind == fromKind && f.ns == fromNamespace then
    false
  else
    g.to_.any fun t =>
      if t.group != toGroup || t.kind != toKind then false
      else
        match t.name, toName with
        | some grantName, some refName => grantName == refName
        | some _, none => false
        | none, _ => true

def ReferenceGrant.allowsTlsSecretReference (g : ReferenceGrant) (gatewayNamespace : String)
    (secretName : Option String) : Bool :=
  g.allowsReference "gateway.networking.k8s.io" "Gateway" gatewayNamespace "" "Secret" secretName

def ReferenceGrant.allowsServiceReference (g : ReferenceGrant)
    (routeGroup routeKind routeNamespace : String) (serviceName : Option String) : Bool :=
  g.allowsReference routeGroup routeKind routeNamespace "" "Service" serviceName

end Wicket
