import Mathlib.Order.Basic
import Mathlib.Logic.Function.Basic
import AgenticNetworking.Infra.Service

/-!
# The API server, as the proxy's code sees it

`EnsureProxy` and `DeleteProxy` (`proxy.go`) talk to the Kubernetes API server through `Get`,
`Create` and `Delete` on four kinds of object in the system namespace.  This module gives those
objects, with the fields the renderers set, and the API server the calls run against:

* `Store` — the stored objects, each under its own `(kind, namespace, name)` key.  The key
  discipline is a field of the structure, so a store with an object under a foreign key cannot
  be built.
* `get`, `create`, `delete` — one request each.  A request the server refuses (authorization,
  admission, an unreachable server) fails with the refusal's message, before the object is
  looked at; otherwise `Get` and `Delete` of an absent object fail with `NotFound`, and `Create`
  of a present one with `AlreadyExists`.  Which requests are refused is the parameter `refuse`.
* The stores are preordered by inclusion (`s ≤ t`: every object of `s` is in `t`, unchanged),
  the order in which `Create` moves up and `Delete` moves down.
-/

namespace AgenticNetworking

namespace Infra

/-! ## Objects -/

/-- `corev1.ServiceAccount`. -/
structure ServiceAccount where
  metadata : ObjectMeta
  deriving Repr, DecidableEq

/-- `corev1.ConfigMap`. -/
structure ConfigMap where
  metadata : ObjectMeta
  data : List (String × String)
  deriving Repr, DecidableEq

/-- `corev1.VolumeMount`. -/
structure VolumeMount where
  name : String
  mountPath : String
  deriving Repr, DecidableEq

/-- `corev1.Container`, with the fields the renderers set. -/
structure Container where
  name : String
  image : String
  command : List String
  volumeMounts : List VolumeMount
  deriving Repr, DecidableEq

/-- `corev1.Volume` whose source is a ConfigMap, the only source the renderers use: `configMap`
is the source's `LocalObjectReference.Name`. -/
structure Volume where
  name : String
  configMap : String
  deriving Repr, DecidableEq

/-- `corev1.PodSpec`, with the fields the renderers set. -/
structure PodSpec where
  serviceAccountName : String
  containers : List Container
  volumes : List Volume
  deriving Repr, DecidableEq

/-- `corev1.PodTemplateSpec`: the pods' labels and spec. -/
structure PodTemplateSpec where
  labels : List (String × String)
  spec : PodSpec
  deriving Repr, DecidableEq

/-- `appsv1.DeploymentSpec`; `selector` is the label selector's `MatchLabels`. -/
structure DeploymentSpec where
  replicas : ℕ
  selector : List (String × String)
  template : PodTemplateSpec
  deriving Repr, DecidableEq

/-- `appsv1.Deployment`. -/
structure Deployment where
  metadata : ObjectMeta
  spec : DeploymentSpec
  deriving Repr, DecidableEq

/-- The kinds of object the proxy's code manages. -/
inductive Kind
  | serviceAccount
  | configMap
  | deployment
  | service
  deriving Repr, DecidableEq

/-- An object of one of those kinds. -/
inductive Object
  | serviceAccount (sa : ServiceAccount)
  | configMap (cm : ConfigMap)
  | deployment (d : Deployment)
  | service (svc : Service)
  deriving Repr, DecidableEq

/-- The object's kind. -/
def Object.kind : Object → Kind
  | .serviceAccount _ => .serviceAccount
  | .configMap _ => .configMap
  | .deployment _ => .deployment
  | .service _ => .service

/-- The object's metadata. -/
def Object.metadata : Object → ObjectMeta
  | .serviceAccount sa => sa.metadata
  | .configMap cm => cm.metadata
  | .deployment d => d.metadata
  | .service svc => svc.metadata

/-- What the API server stores an object under: its kind, namespace and name. -/
structure ObjectKey where
  kind : Kind
  «namespace» : String
  name : String
  deriving Repr, DecidableEq

/-- The key an object is stored under. -/
def Object.key (o : Object) : ObjectKey :=
  ⟨o.kind, o.metadata.«namespace», o.metadata.name⟩

/-! ## The store -/

/-- **The API server's objects**, each stored under its own key. -/
@[ext]
structure Store where
  objects : ObjectKey → Option Object
  keyed : ∀ k o, objects k = some o → o.key = k

/-- An API server with no objects. -/
def Store.empty : Store :=
  ⟨fun _ => none, fun _ _ h => nomatch h⟩

/-- `o` stored under its key. -/
def Store.insert (s : Store) (o : Object) : Store where
  objects := Function.update s.objects o.key (some o)
  keyed k o' h := by
    by_cases hk : k = o.key
    · subst hk
      rw [Function.update_same, Option.some.injEq] at h
      exact h ▸ rfl
    · rw [Function.update_noteq hk] at h
      exact s.keyed k o' h

/-- The object under `k` removed. -/
def Store.erase (s : Store) (k : ObjectKey) : Store where
  objects := Function.update s.objects k none
  keyed k' o h := by
    by_cases hk : k' = k
    · subst hk
      simp at h
    · rw [Function.update_noteq hk] at h
      exact s.keyed k' o h

@[simp]
theorem Store.insert_objects (s : Store) (o : Object) (k : ObjectKey) :
    (s.insert o).objects k = if k = o.key then some o else s.objects k :=
  Function.update_apply _ _ _ _

@[simp]
theorem Store.erase_objects (s : Store) (k k' : ObjectKey) :
    (s.erase k).objects k' = if k' = k then none else s.objects k' :=
  Function.update_apply _ _ _ _

/-- `s ≤ t`: every object of `s` is in `t`, unchanged. -/
instance : Preorder Store where
  le s t := ∀ k o, s.objects k = some o → t.objects k = some o
  le_refl _ _ _ h := h
  le_trans _ _ _ h₁ h₂ k o h := h₂ k o (h₁ k o h)

theorem Store.le_insert {s : Store} {o : Object} (h : s.objects o.key = none) : s ≤ s.insert o := by
  intro k o' hk
  have : k ≠ o.key := by rintro rfl; simp [h] at hk
  simpa [this] using hk

theorem Store.erase_le (s : Store) (k : ObjectKey) : s.erase k ≤ s := by
  intro k' o h
  by_cases hk : k' = k <;> simp_all

theorem Store.erase_of_none {s : Store} {k : ObjectKey} (h : s.objects k = none) :
    s.erase k = s := by
  ext1
  funext k'
  by_cases hk : k' = k <;> simp_all

/-- An object is stored under `k`. -/
def Store.has (s : Store) (k : ObjectKey) : Prop :=
  s.objects k ≠ none

instance (s : Store) (k : ObjectKey) : Decidable (s.has k) :=
  inferInstanceAs (Decidable (_ ≠ _))

theorem Store.has_of_le {s t : Store} (h : s ≤ t) {k : ObjectKey} (hk : s.has k) : t.has k := by
  obtain ⟨o, ho⟩ := Option.ne_none_iff_exists'.mp hk
  simp [Store.has, h k o ho]

/-- A lower store has no object where a higher one has none. -/
theorem Store.objects_eq_none_of_le {s t : Store} (h : s ≤ t) {k : ObjectKey}
    (hk : t.objects k = none) : s.objects k = none := by
  cases hs : s.objects k with
  | none => rfl
  | some o => simp [h k o hs] at hk

/-! ## Requests -/

/-- The verbs of the requests the proxy's code sends. -/
inductive Verb
  | get
  | create
  | delete
  deriving Repr, DecidableEq

/-- What a request fails with, as `apierrors` tells them apart: `NotFound`, `AlreadyExists`, or
anything else (a refusal, with its message). -/
inductive APIError
  | notFound
  | alreadyExists
  | other (message : String)
  deriving Repr, DecidableEq

section Requests

variable (refuse : Verb → ObjectKey → Option String)

/-- `Get`: the object under `k`. -/
def get (k : ObjectKey) (s : Store) : Except APIError Object :=
  match refuse .get k, s.objects k with
  | some message, _ => .error (.other message)
  | none, some o => .ok o
  | none, none => .error .notFound

/-- `Create`: `o` stored under its key, if nothing is there. -/
def create (o : Object) (s : Store) : Except APIError Store :=
  match refuse .create o.key, s.objects o.key with
  | some message, _ => .error (.other message)
  | none, some _ => .error .alreadyExists
  | none, none => .ok (s.insert o)

/-- `Delete`: the object under `k` removed, if there is one. -/
def delete (k : ObjectKey) (s : Store) : Except APIError Store :=
  match refuse .delete k, s.objects k with
  | some message, _ => .error (.other message)
  | none, some _ => .ok (s.erase k)
  | none, none => .error .notFound

end Requests

end Infra

end AgenticNetworking
