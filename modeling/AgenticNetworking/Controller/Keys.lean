import Mathlib.Data.List.Basic
import Mathlib.Data.List.Dedup
import AgenticNetworking.Translator.Backend

/-!
# The gateway work queue's keys

The controller's informer handlers put keys on the gateway work queue, and `syncHandler` splits
each key it takes back into the Gateway's namespace and name.  This file gives both ends:

* `metaNamespaceKey` and `SplitMetaNamespaceKey` — `cache.MetaNamespaceKeyFunc`'s key and its
  inverse.  For names without a slash (Kubernetes names never have one), splitting gives back the
  namespace and the name, from both kinds of key (`SplitMetaNamespaceKey_metaNamespaceKey`,
  `SplitMetaNamespaceKey_slash`), so two Gateways never share a key.
* The HTTPRoute handlers the package registers (`httproute.go`) all end in `enqueueHTTPRoute`,
  whose search for the Gateways that reference the route is still a `TODO`: they enqueue
  nothing.
* `gatewaysToEnqueue` — the keys the other version of these handlers, through
  `enqueueGatewaysForHTTPRoute`, would enqueue for an HTTPRoute's parent references: one per
  reference to a Gateway, the namespace defaulting to the route's.  Each splits back into that
  reference's namespace and name (`SplitMetaNamespaceKey_of_mem_gatewaysToEnqueue`).

Go ranges over `gatewaysToEnqueue`'s map in an unspecified order; the model lists the keys in
`List.dedup` order, and nothing below depends on it.
-/

namespace AgenticNetworking

namespace Controller

open Translator (GroupName)

/-! ## Keys and their splitting -/

/-- `cache.ObjectName.String()`, the key `cache.MetaNamespaceKeyFunc` gives an object:
`namespace/name`, or the name alone when the namespace is empty. -/
def metaNamespaceKey («namespace» name : String) : String :=
  if «namespace» = "" then name else «namespace» ++ "/" ++ name

/-- `cache.SplitMetaNamespaceKey`: `strings.Split(key, "/")`; one part is a name, two are
a namespace and a name, and any other count is an error (whose text no caller reads). -/
def SplitMetaNamespaceKey (key : String) : Option (String × String) :=
  match key.data.splitOn '/' with
  | [name] => some ("", ⟨name⟩)
  | [«namespace», name] => some (⟨«namespace»⟩, ⟨name⟩)
  | _ => none

/-- A name Kubernetes accepts has no slash. -/
def NoSlash (s : String) : Prop := '/' ∉ s.data

instance (s : String) : Decidable (NoSlash s) := inferInstanceAs (Decidable (_ ∉ _))

theorem SplitMetaNamespaceKey_of_noSlash {name : String} (h : NoSlash name) :
    SplitMetaNamespaceKey name = some ("", name) := by
  have : name.data.splitOn '/' = [name.data] := by
    simpa [List.intercalate] using
      List.splitOn_intercalate [name.data] '/' (by simpa using h) (by simp)
  simp [SplitMetaNamespaceKey, this]

/-- **Splitting `namespace/name` gives back the namespace and the name**, the empty namespace
included. -/
theorem SplitMetaNamespaceKey_slash {«namespace» name : String} (hns : NoSlash «namespace»)
    (hname : NoSlash name) :
    SplitMetaNamespaceKey («namespace» ++ "/" ++ name) = some («namespace», name) := by
  have : («namespace» ++ "/" ++ name).data.splitOn '/' = [«namespace».data, name.data] := by
    simpa [List.intercalate] using
      List.splitOn_intercalate [«namespace».data, name.data] '/'
        (fun l hl => by
          simp only [List.mem_cons, List.mem_singleton, List.not_mem_nil, or_false] at hl
          rcases hl with rfl | rfl
          exacts [hns, hname])
        (by simp)
  rw [SplitMetaNamespaceKey, this]

/-- **The key of an object splits back into its namespace and name.** -/
theorem SplitMetaNamespaceKey_metaNamespaceKey {«namespace» name : String}
    (hns : NoSlash «namespace») (hname : NoSlash name) :
    SplitMetaNamespaceKey (metaNamespaceKey «namespace» name) = some («namespace», name) := by
  unfold metaNamespaceKey
  split_ifs with h
  · rw [h]
    exact SplitMetaNamespaceKey_of_noSlash hname
  · exact SplitMetaNamespaceKey_slash hns hname

theorem SplitMetaNamespaceKey_metaNamespaceKey_gateway :
    NoSlash "default" ∧ NoSlash "gateway-a" ∧
      SplitMetaNamespaceKey (metaNamespaceKey "default" "gateway-a") =
        some ("default", "gateway-a") :=
  ⟨by decide, by decide, SplitMetaNamespaceKey_metaNamespaceKey (by decide) (by decide)⟩

/-! ## HTTPRoute events -/

/-- `gatewayv1.ParentReference`, with the fields `enqueueGatewaysForHTTPRoute` reads. -/
structure ParentReference where
  group : Option String
  kind : Option String
  «namespace» : Option String
  name : String
  deriving Repr, DecidableEq

/-- `gatewayv1.HTTPRoute`: its namespace and its spec's parent references. -/
structure HTTPRoute where
  «namespace» : String
  parentRefs : List ParentReference
  deriving Repr, DecidableEq

/-- The test the loop of `enqueueGatewaysForHTTPRoute` skips a reference on: a group set to
another API group, or a kind set to something other than `Gateway`. -/
def skipsParentRef (ref : ParentReference) : Bool :=
  ref.group.any (· != GroupName) || ref.kind.any (· != "Gateway")

/-- The key the loop builds for a reference: its namespace (the route's when unset), `/`, and
its name. -/
def parentRefKey (localNamespace : String) (ref : ParentReference) : String :=
  ref.«namespace».getD localNamespace ++ "/" ++ ref.name

/-- `gatewaysToEnqueue`, the map `enqueueGatewaysForHTTPRoute` fills and then adds to the queue
key by key: one key per reference the loop does not skip, each once.  The handlers that call it
are not the ones the package registers. -/
def gatewaysToEnqueue (references : List ParentReference) (localNamespace : String) :
    List String :=
  (references.filterMap fun ref =>
    if skipsParentRef ref then none else some (parentRefKey localNamespace ref)).dedup

/-- An object `deleteHTTPRoute` can be handed: the route, a tombstone (`Obj` an HTTPRoute, or
something else), or something else. -/
inductive HTTPRouteDeletion
  | route (route : HTTPRoute)
  | tombstone (obj : Option HTTPRoute)
  | other

/-- `enqueueHTTPRoute`: finding the Gateways that reference the route and enqueueing them is a
`TODO` in the source, so it enqueues no key. -/
def enqueueHTTPRoute (_route : HTTPRoute) : List String := []

/-- `addHTTPRoute`: `enqueueHTTPRoute` of the route. -/
def addHTTPRoute (route : HTTPRoute) : List String :=
  enqueueHTTPRoute route

/-- `updateHTTPRoute`: `enqueueHTTPRoute` of the new route (the old one is only logged). -/
def updateHTTPRoute (_old new : HTTPRoute) : List String :=
  enqueueHTTPRoute new

/-- `deleteHTTPRoute`: a tombstone is unwrapped; an object that is neither is reported with
`HandleError` and enqueues nothing. -/
def deleteHTTPRoute : HTTPRouteDeletion → List String
  | .route route => enqueueHTTPRoute route
  | .tombstone (some route) => enqueueHTTPRoute route
  | .tombstone none => []
  | .other => []

/-- The gateway handlers (`AddFunc`, `UpdateFunc`, `DeleteFunc` alike): the Gateway's key.  A
tombstone carries the key the informer computed the same way. -/
def gatewayHandlerKey («namespace» name : String) : String :=
  metaNamespaceKey «namespace» name

/-- An HTTPRoute of the namespace `default` attached to the Gateway `name`. -/
def routeTo (name : String) : HTTPRoute :=
  ⟨"default", [⟨none, none, none, name⟩]⟩

theorem mem_gatewaysToEnqueue {references : List ParentReference} {localNamespace key : String} :
    key ∈ gatewaysToEnqueue references localNamespace ↔
      ∃ ref ∈ references, skipsParentRef ref = false ∧ parentRefKey localNamespace ref = key := by
  simp [gatewaysToEnqueue]

/-- **Every key `enqueueGatewaysForHTTPRoute` enqueues names a parent Gateway**, and splits back into
its namespace (the route's when the reference leaves it unset) and name. -/
theorem SplitMetaNamespaceKey_of_mem_gatewaysToEnqueue {references : List ParentReference}
    {localNamespace key : String} (hns : NoSlash localNamespace)
    (hrefs : ∀ ref ∈ references, (∀ ns ∈ ref.«namespace», NoSlash ns) ∧ NoSlash ref.name)
    (hkey : key ∈ gatewaysToEnqueue references localNamespace) :
    ∃ ref ∈ references, skipsParentRef ref = false ∧
      SplitMetaNamespaceKey key = some (ref.«namespace».getD localNamespace, ref.name) := by
  obtain ⟨ref, href, hskip, rfl⟩ := mem_gatewaysToEnqueue.mp hkey
  refine ⟨ref, href, hskip, SplitMetaNamespaceKey_slash ?_ (hrefs ref href).2⟩
  cases hr : ref.«namespace» with
  | none => exact hns
  | some ns => exact (hrefs ref href).1 ns hr

theorem SplitMetaNamespaceKey_of_mem_gatewaysToEnqueue_route :
    NoSlash "default" ∧
    (∀ ref ∈ (routeTo "gateway-a").parentRefs,
      (∀ ns ∈ ref.«namespace», NoSlash ns) ∧ NoSlash ref.name) ∧
    "default/gateway-a" ∈ gatewaysToEnqueue (routeTo "gateway-a").parentRefs "default" ∧
    ∃ ref ∈ (routeTo "gateway-a").parentRefs, skipsParentRef ref = false ∧
      SplitMetaNamespaceKey "default/gateway-a" = some (ref.«namespace».getD "default", ref.name) :=
  have hrefs : ∀ ref ∈ (routeTo "gateway-a").parentRefs,
      (∀ ns ∈ ref.«namespace», NoSlash ns) ∧ NoSlash ref.name := fun ref hr => by
    rw [List.mem_singleton.mp hr]
    exact ⟨(fun _ h => nomatch h), by decide⟩
  ⟨by decide, hrefs, by decide,
    SplitMetaNamespaceKey_of_mem_gatewaysToEnqueue (by decide) hrefs (by decide)⟩

end Controller

end AgenticNetworking
