import AgenticNetworking.Api.Types
import AgenticNetworking.Translator.Constants

/-!
# Backends: resolving a reference and compiling a cluster

Two functions of the translator's backend file.

**Resolution.**  `fetchBackend` turns an HTTPRoute's `BackendRef` into a `Backend` in four
checks: the kind, a `ReferenceGrant` for a cross-namespace reference, the Backend itself, and
the Service it names; `fetchBackend_eq_ok_iff` says exactly when it succeeds.  The grant it
asks for is the one a Service reference would need — core group, kind `Service`, named after the
*Backend* — so a grant for the Backend does not admit the reference and a grant for an unrelated
Service does (`fetchBackend_grant_mismatch`).

**Compilation.**  `convertBackendToCluster` names the cluster `<namespace>-<name>`, and
`buildClustersFromBackends` compiles a list in order, stopping at the first failure
(`buildClustersFromBackends_eq_ok_iff`).  Since the name format is not injective, two Backends
can share a cluster (`buildClustersFromBackends_name_collision`); when their namespaces agree,
or contain no `'-'`, they cannot (`buildClustersFromBackends_names_nodup`).
-/

namespace AgenticNetworking

/-- A `To` entry `t` admits the target `r`: same group and kind, and no name or the same
name. -/
def ReferenceGrantTo.admits (t r : ReferenceGrantTo) : Bool :=
  t.group == r.group && t.kind == r.kind && (t.name.isNone || t.name == r.name)

namespace Translator

/-! ## Listers and errors -/

/-- `ControllerError`: the route condition reason and a message. -/
structure ControllerError where
  reason : String
  message : String
  deriving Repr, DecidableEq

/-- The `gatewayv1` route condition reasons `fetchBackend` reports. -/
def RouteReasonInvalidKind : String := "InvalidKind"
def RouteReasonRefNotPermitted : String := "RefNotPermitted"
def RouteReasonBackendNotFound : String := "BackendNotFound"

/-- `gatewayv1.GroupName`. -/
def GroupName : String := "gateway.networking.k8s.io"

/-- `backendLister.Backends(ns).Get(name)`. -/
abbrev BackendLister := String → String → Except String Backend

/-- `serviceLister.Services(ns).Get(name)`: only whether it fails is read. -/
abbrev ServiceLister := String → String → Except String Unit

/-- The ReferenceGrants of a namespace. -/
abbrev ReferenceGrantLister := String → List ReferenceGrant

/-! ## Reference grants -/

/-- Modelled from the spec: `isCrossNamespaceRefAllowed(from, to, ns, referenceGrantLister)`,
whose source is not under `src/`, with the Gateway API's `ReferenceGrant` semantics: some grant
in `ns` lists `from` and has a `To` entry admitting `to`. -/
def isCrossNamespaceRefAllowed («from» : ReferenceGrantFrom) («to» : ReferenceGrantTo)
    (ns : String) (referenceGrantLister : ReferenceGrantLister) : Bool :=
  (referenceGrantLister ns).any fun g => g.from.contains «from» && g.to.any (·.admits «to»)

/-! ## `fetchBackend` -/

/-- Check 1 of `fetchBackend`: a kind, if given, is `Backend`. -/
def checkKind (kind : Option String) : Except ControllerError Unit :=
  match kind with
  | some kind =>
      if kind ≠ "Backend" then .error ⟨RouteReasonInvalidKind, "unsupported backend kind: " ++ kind⟩
      else .ok ()
  | none => .ok ()

/-- Check 2 of `fetchBackend`: a reference out of the route's namespace needs a grant, asked for
as a core-group `Service` named `name`. -/
def checkReferenceGrant («namespace» ns name : String) (referenceGrantLister : ReferenceGrantLister) :
    Except ControllerError Unit :=
  if ns ≠ «namespace» then
    let «from» : ReferenceGrantFrom := ⟨GroupName, "HTTPRoute", «namespace»⟩
    let «to» : ReferenceGrantTo := ⟨"", "Service", some name⟩
    if !isCrossNamespaceRefAllowed «from» «to» ns referenceGrantLister then
      .error ⟨RouteReasonRefNotPermitted, "permission error"⟩
    else .ok ()
  else .ok ()

/-- Step 3 of `fetchBackend`: fetch the Backend. -/
def getBackend (backendLister : BackendLister) (ns name : String) :
    Except ControllerError Backend :=
  match backendLister ns name with
  | .ok backend => .ok backend
  | .error err =>
      .error ⟨RouteReasonBackendNotFound, "failed to get Backend " ++ ns ++ "/" ++ name ++ ": " ++ err⟩

/-- Check 4 of `fetchBackend`: the Service a Backend names, if any, exists. -/
def checkService (serviceLister : ServiceLister) (ns : String) (backend : Backend) :
    Except ControllerError Unit :=
  let svc := backend.spec.mcp.serviceName
  if svc ≠ "" then
    match serviceLister ns svc with
    | .error err =>
        .error ⟨RouteReasonBackendNotFound,
          "failed to get Backend service " ++ ns ++ "/" ++ svc ++ ": " ++ err⟩
    | .ok () => .ok ()
  else .ok ()

/-- **`fetchBackend(namespace, backendRef, ...)`**: the four numbered steps of the source, in
order, each stopping the resolution with its `ControllerError`. -/
def fetchBackend («namespace» : String) (backendRef : BackendRef) (backendLister : BackendLister)
    (serviceLister : ServiceLister) (referenceGrantLister : ReferenceGrantLister) :
    Except ControllerError Backend := do
  checkKind backendRef.kind
  let ns := backendRef.namespace.getD «namespace»
  checkReferenceGrant «namespace» ns backendRef.name referenceGrantLister
  let backend ← getBackend backendLister ns backendRef.name
  checkService serviceLister ns backend
  return backend

/-! ## When resolution succeeds -/

theorem bind_eq_ok {ε α β : Type} {x : Except ε α} {f : α → Except ε β} {b : β} :
    x >>= f = .ok b ↔ ∃ a, x = .ok a ∧ f a = .ok b := by
  cases x <;> simp [bind, Except.bind]

theorem bind_eq_error {ε α β : Type} {x : Except ε α} {f : α → Except ε β} {e : ε} :
    x >>= f = .error e ↔ x = .error e ∨ ∃ a, x = .ok a ∧ f a = .error e := by
  cases x <;> simp [bind, Except.bind]

theorem checkKind_eq_ok (kind : Option String) :
    checkKind kind = .ok () ↔ kind = none ∨ kind = some "Backend" := by
  cases kind with
  | none => simp [checkKind]
  | some k => by_cases hk : k = "Backend" <;> simp [checkKind, hk]

theorem checkReferenceGrant_eq_ok («namespace» ns name : String)
    (referenceGrantLister : ReferenceGrantLister) :
    checkReferenceGrant «namespace» ns name referenceGrantLister = .ok () ↔
      (ns ≠ «namespace» → isCrossNamespaceRefAllowed ⟨GroupName, "HTTPRoute", «namespace»⟩
        ⟨"", "Service", some name⟩ ns referenceGrantLister = true) := by
  unfold checkReferenceGrant
  split_ifs <;> simp_all

theorem getBackend_eq_ok (backendLister : BackendLister) (ns name : String) (b : Backend) :
    getBackend backendLister ns name = .ok b ↔ backendLister ns name = .ok b := by
  unfold getBackend
  split <;> simp_all

theorem checkService_eq_ok (serviceLister : ServiceLister) (ns : String) (backend : Backend) :
    checkService serviceLister ns backend = .ok () ↔
      (backend.spec.mcp.serviceName ≠ "" →
        serviceLister ns backend.spec.mcp.serviceName = .ok ()) := by
  unfold checkService
  dsimp only
  split_ifs with h
  · split <;> simp_all
  · simp_all

/-- **When `fetchBackend` returns a Backend**: the kind is unset or `Backend`; a cross-namespace
reference has a grant for a `Service` named `backendRef.name`; the Backend is the one listed;
and the Service it names, if any, exists. -/
theorem fetchBackend_eq_ok_iff («namespace» : String) (backendRef : BackendRef)
    (backendLister : BackendLister) (serviceLister : ServiceLister)
    (referenceGrantLister : ReferenceGrantLister) (b : Backend) :
    fetchBackend «namespace» backendRef backendLister serviceLister referenceGrantLister = .ok b ↔
      (backendRef.kind = none ∨ backendRef.kind = some "Backend") ∧
      (backendRef.namespace.getD «namespace» ≠ «namespace» →
        isCrossNamespaceRefAllowed ⟨GroupName, "HTTPRoute", «namespace»⟩
          ⟨"", "Service", some backendRef.name⟩ (backendRef.namespace.getD «namespace»)
          referenceGrantLister = true) ∧
      backendLister (backendRef.namespace.getD «namespace») backendRef.name = .ok b ∧
      (b.spec.mcp.serviceName ≠ "" →
        serviceLister (backendRef.namespace.getD «namespace») b.spec.mcp.serviceName = .ok ()) := by
  simp only [fetchBackend, bind_eq_ok, ← checkKind_eq_ok, ← checkReferenceGrant_eq_ok,
    ← getBackend_eq_ok, ← checkService_eq_ok]
  constructor
  · rintro ⟨⟨⟩, hk, ⟨⟩, hg, b', hb, ⟨⟩, hs, hret⟩
    cases hret
    exact ⟨hk, hg, hb, hs⟩
  · rintro ⟨hk, hg, hb, hs⟩
    exact ⟨(), hk, (), hg, b, hb, (), hs, rfl⟩

/-! ## Which grant admits the reference -/

/-- An external Backend `tools/mcp`. -/
def toolsBackend : Backend := ⟨"tools", "mcp", ⟨⟨"", "mcp.example.com", 443⟩⟩⟩

/-- A reference from a route to `tools/mcp`. -/
def toolsBackendRef : BackendRef := ⟨some "Backend", some "tools", "mcp"⟩

/-- A Backend lister holding only `tools/mcp`. -/
def toolsBackendLister : BackendLister := fun ns name =>
  if ns = "tools" ∧ name = "mcp" then .ok toolsBackend else .error "not found"

/-- A Service lister holding nothing. -/
def noServices : ServiceLister := fun _ _ => .error "not found"

/-- A grant letting HTTPRoutes of `routes` reference the Service `tools/mcp`. -/
def serviceGrant : ReferenceGrant :=
  ⟨[⟨GroupName, "HTTPRoute", "routes"⟩], [⟨"", "Service", some "mcp"⟩]⟩

/-- A grant letting HTTPRoutes of `routes` reference the Backend `tools/mcp`. -/
def backendGrant : ReferenceGrant :=
  ⟨[⟨GroupName, "HTTPRoute", "routes"⟩], [⟨"agentic.networking.x-k8s.io", "Backend", some "mcp"⟩]⟩

/-- **The grant checked is not the grant for the Backend.**  With only a grant for a Service
`tools/mcp` — none mentions a Backend — a route in `routes` resolves the Backend `tools/mcp`; with
only a grant for that Backend, it is refused. -/
theorem fetchBackend_grant_mismatch :
    fetchBackend "routes" toolsBackendRef toolsBackendLister noServices (fun _ => [serviceGrant]) =
        .ok toolsBackend ∧
      (∀ g ∈ [serviceGrant], ∀ t ∈ g.to, t.kind ≠ "Backend") ∧
      fetchBackend "routes" toolsBackendRef toolsBackendLister noServices (fun _ => [backendGrant]) =
        .error ⟨RouteReasonRefNotPermitted, "permission error"⟩ := by
  -- the grant for the Service `tools/mcp` is the one `fetchBackend` asks for
  refine ⟨(fetchBackend_eq_ok_iff _ _ _ _ _ _).mpr ⟨.inr rfl, fun _ => rfl, rfl, fun h => (h rfl).elim⟩,
    by decide, rfl⟩

/-! ## Clusters -/

/-- `clusterv3.Cluster_DiscoveryType`, the two values the translator sets. -/
inductive DiscoveryType where
  | STRICT_DNS
  | LOGICAL_DNS
  deriving Repr, DecidableEq

/-- An endpoint's socket address. -/
structure SocketAddress where
  address : String
  portValue : ℕ
  deriving Repr, DecidableEq

/-- `endpointv3.ClusterLoadAssignment`: the cluster it serves and its endpoints. -/
structure ClusterLoadAssignment where
  clusterName : String
  endpoints : List SocketAddress
  deriving Repr, DecidableEq

/-- Modelled from the spec: `createClusterLoadAssignment(clusterName, address, port)`, whose
source is not under `src/`, as the single load-balancing endpoint at `address:port`. -/
def createClusterLoadAssignment (clusterName address : String) (port : ℕ) :
    ClusterLoadAssignment :=
  ⟨clusterName, [⟨address, port⟩]⟩

/-- `tlsv3.UpstreamTlsContext`, of which the translator sets `Sni`. -/
structure UpstreamTlsContext where
  sni : String
  deriving Repr, DecidableEq

/-- `corev3.TransportSocket` with the TLS context it carries as typed config. -/
structure TransportSocket where
  name : String
  typedConfig : UpstreamTlsContext
  deriving Repr, DecidableEq

/-- `clusterv3.Cluster`, with the fields `convertBackendToCluster` sets; the connect timeout is
in seconds. -/
structure Cluster where
  name : String
  connectTimeout : ℕ
  clusterDiscoveryType : DiscoveryType
  loadAssignment : ClusterLoadAssignment
  transportSocket : Option TransportSocket
  deriving Repr, DecidableEq

/-- `defaultConnectTimeout = 5 * time.Second`. -/
def defaultConnectTimeout : ℕ := 5

/-- `anypb.New(tlsContext)`: marshalling the context, which can fail. -/
abbrev AnyNew := UpstreamTlsContext → Except String Unit

/-- **`convertBackendToCluster(backend)`.**  An in-cluster Backend resolves its Service's FQDN
by strict DNS; an external one resolves its hostname by logical DNS, always over TLS. -/
def convertBackendToCluster (anyNew : AnyNew) (backend : Backend) : Except String Cluster :=
  let clusterName := clusterNameFormat backend.namespace backend.name
  if backend.spec.mcp.serviceName ≠ "" then
    let serviceFQDN :=
      backend.spec.mcp.serviceName ++ "." ++ backend.namespace ++ ".svc.cluster.local"
    .ok ⟨clusterName, defaultConnectTimeout, .STRICT_DNS,
      createClusterLoadAssignment clusterName serviceFQDN (backend.spec.mcp.port % 2 ^ 32), none⟩
  else
    let tlsContext : UpstreamTlsContext := ⟨backend.spec.mcp.hostname⟩
    match anyNew tlsContext with
    | .error err => .error err
    | .ok () =>
        .ok ⟨clusterName, defaultConnectTimeout, .LOGICAL_DNS,
          createClusterLoadAssignment clusterName backend.spec.mcp.hostname
            (backend.spec.mcp.port % 2 ^ 32),
          some ⟨"envoy.transport_sockets.tls", tlsContext⟩⟩

/-- `buildClustersFromBackends(backends)`: the loop appends each cluster in order and returns the
first error. -/
def buildClustersFromBackends (anyNew : AnyNew) (backends : List Backend) :
    Except String (List Cluster) :=
  backends.mapM (convertBackendToCluster anyNew)

/-! ## What a cluster is -/

/-- A cluster is named after its Backend, and only the TLS context of an external Backend can
fail to build; an external cluster always carries TLS for its hostname. -/
theorem convertBackendToCluster_eq_ok (anyNew : AnyNew) (backend : Backend) (c : Cluster)
    (h : convertBackendToCluster anyNew backend = .ok c) :
    c.name = clusterNameFormat backend.namespace backend.name ∧
      (backend.spec.mcp.serviceName = "" →
        c.transportSocket = some ⟨"envoy.transport_sockets.tls", ⟨backend.spec.mcp.hostname⟩⟩) := by
  unfold convertBackendToCluster at h
  dsimp only at h
  split_ifs at h with hs
  · cases h
    exact ⟨rfl, fun h => absurd h hs⟩
  · split at h
    · cases h
    · cases h
      exact ⟨rfl, fun _ => rfl⟩

/-! ## A list of Backends -/

theorem mapM_eq_ok_iff {ε α β : Type} (f : α → Except ε β) :
    ∀ (xs : List α) (ys : List β),
      xs.mapM f = .ok ys ↔ List.Forall₂ (fun x y => f x = .ok y) xs ys
  | [], [] => ⟨fun _ => .nil, fun _ => rfl⟩
  | [], _ :: _ => ⟨fun h => (nomatch h), fun h => (nomatch h)⟩
  | x :: xs, [] => by
      rw [List.mapM_cons]
      simp only [bind_eq_ok]
      exact ⟨fun ⟨_, _, _, _, h⟩ => (nomatch h), fun h => (nomatch h)⟩
  | x :: xs, y :: ys => by
      rw [List.mapM_cons, List.forall₂_cons, ← mapM_eq_ok_iff f xs ys]
      simp only [bind_eq_ok]
      constructor
      · rintro ⟨y', hy, ys', hys, ⟨⟩⟩
        exact ⟨hy, hys⟩
      · rintro ⟨hy, hys⟩
        exact ⟨y, hy, ys, hys, rfl⟩

/-- **`buildClustersFromBackends` succeeds with one cluster per Backend, in order.** -/
theorem buildClustersFromBackends_eq_ok_iff (anyNew : AnyNew) (backends : List Backend)
    (clusters : List Cluster) :
    buildClustersFromBackends anyNew backends = .ok clusters ↔
      List.Forall₂ (fun b c => convertBackendToCluster anyNew b = .ok c) backends clusters :=
  mapM_eq_ok_iff _ backends clusters

theorem map_name_of_forall₂ {anyNew : AnyNew} {backends : List Backend} {clusters : List Cluster}
    (h : List.Forall₂ (fun b c => convertBackendToCluster anyNew b = .ok c) backends clusters) :
    clusters.map Cluster.name = backends.map fun b => clusterNameFormat b.namespace b.name := by
  induction h with
  | nil => rfl
  | cons hbc _ ih =>
      rw [List.map_cons, List.map_cons, ih, (convertBackendToCluster_eq_ok _ _ _ hbc).1]

/-- **Distinct cluster names**, for Backends with distinct `(namespace, name)` whose namespaces
agree or contain no `'-'`. -/
theorem buildClustersFromBackends_names_nodup (anyNew : AnyNew) (backends : List Backend)
    (clusters : List Cluster) (h : buildClustersFromBackends anyNew backends = .ok clusters)
    (hdistinct : backends.Pairwise fun b₁ b₂ => (b₁.namespace, b₁.name) ≠ (b₂.namespace, b₂.name))
    (hns : backends.Pairwise fun b₁ b₂ =>
      b₁.namespace = b₂.namespace ∨ ('-' ∉ b₁.namespace.data ∧ '-' ∉ b₂.namespace.data)) :
    List.Forall₂ (fun b c => convertBackendToCluster anyNew b = .ok c) backends clusters ∧
      clusters.map Cluster.name = backends.map (fun b => clusterNameFormat b.namespace b.name) ∧
      (clusters.map Cluster.name).Nodup := by
  have hall := (buildClustersFromBackends_eq_ok_iff anyNew backends clusters).mp h
  have hnames := map_name_of_forall₂ hall
  refine ⟨hall, hnames, ?_⟩
  rw [hnames, List.Nodup, List.pairwise_map]
  refine (hdistinct.and hns).imp fun ⟨hne, hor⟩ heq => hne ?_
  obtain ⟨h₁, h₂⟩ := clusterNameFormat_inj hor heq
  rw [h₁, h₂]

/-- A TLS marshaller that never fails. -/
def packAll : AnyNew := fun _ => .ok ()

/-- An in-cluster Backend `ns/name` served by the Service `mcp` on port 8080. -/
def inClusterBackend (ns name : String) : Backend := ⟨ns, name, ⟨⟨"mcp", "", 8080⟩⟩⟩

/-- An in-cluster and an external Backend in two namespaces without `'-'`. -/
theorem buildClustersFromBackends_names_nodup_default :
    ∃ clusters, buildClustersFromBackends packAll [inClusterBackend "default" "a", toolsBackend] =
        .ok clusters ∧
      [inClusterBackend "default" "a", toolsBackend].Pairwise
        (fun b₁ b₂ => (b₁.namespace, b₁.name) ≠ (b₂.namespace, b₂.name)) ∧
      [inClusterBackend "default" "a", toolsBackend].Pairwise (fun b₁ b₂ =>
        b₁.namespace = b₂.namespace ∨ ('-' ∉ b₁.namespace.data ∧ '-' ∉ b₂.namespace.data)) ∧
      List.Forall₂ (fun b c => convertBackendToCluster packAll b = .ok c)
        [inClusterBackend "default" "a", toolsBackend] clusters ∧
      clusters.map Cluster.name = [inClusterBackend "default" "a", toolsBackend].map
        (fun b => clusterNameFormat b.namespace b.name) ∧
      (clusters.map Cluster.name).Nodup :=
  ⟨_, rfl, by decide, by decide,
    buildClustersFromBackends_names_nodup packAll _ _ rfl (by decide) (by decide)⟩

/-- A Kubernetes object name as the API server accepts it (RFC 1123): lowercase letters, digits,
`'-'` and `'.'`, beginning and ending with a letter or digit. -/
def isValidName (s : String) : Bool :=
  let alnum := fun c : Char => c.isLower || c.isDigit
  s.data.all (fun c => alnum c || c == '-' || c == '.') && s.data.head?.any alnum &&
    s.data.getLast?.any alnum

/-- **Two Backends, one cluster.**  `team-a/mcp` and `team/a-mcp` are distinct valid Backends,
and both compile to the cluster name `team-a-mcp` (they are in-cluster, so the TLS marshaller is
never called). -/
theorem buildClustersFromBackends_name_collision :
    isValidName "team-a" = true ∧ isValidName "mcp" = true ∧ isValidName "team" = true ∧
      isValidName "a-mcp" = true ∧ ("team-a", "mcp") ≠ ("team", "a-mcp") ∧
      ∃ c₁ c₂, buildClustersFromBackends packAll
          [inClusterBackend "team-a" "mcp", inClusterBackend "team" "a-mcp"] = .ok [c₁, c₂] ∧
        c₁.name = c₂.name :=
  ⟨by decide, by decide, by decide, by decide, by decide, _, _, rfl, by decide⟩

end Translator

end AgenticNetworking
