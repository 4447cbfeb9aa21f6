import AgenticNetworking.Infra.ApiServer

/-!
# The Envoy proxy's objects: `EnsureProxy` and `DeleteProxy`

`EnsureProxy` (`proxy.go`) gives a Gateway its Envoy proxy: a ServiceAccount, a ConfigMap with
the bootstrap configuration, a Deployment and a Service, all named `proxyName` of the Gateway and
all in the system namespace.  Each `ensure*` call gets its object and creates it if it is not
found; the Deployment and the Service are then polled until they are ready.  `DeleteProxy`
deletes the four objects, Deployment first, and takes `NotFound` for success.

Each Go function here returns an `error` and changes the API server as it goes; it is a
`ClientCall`, and `if err := f(); err != nil { return err }` followed by more work is
`f.andThen g`.  The properties of calls that this file needs (how they move the store, which
keys they touch, what holds when they return nil, what they create, what they fail with, and
what running them again does) compose through `andThen`, so each is proved once per call.

* **EnsureProxy only creates.**  It never changes or removes an object, it creates only under
  the proxy's name in the system namespace, and only the four objects rendered for the Gateway
  (`EnsureProxy_grows`, `EnsureProxy_creates`).  An existing object is kept as it is: a Service
  rendered for an earlier version of the Gateway is not updated.  Objects created before a
  failing step stay.
* **Success and idempotence.**  When it returns the node id, the four objects exist
  (`EnsureProxy_ok`), and running it again, with the API server responding as before, returns
  the same node id and changes nothing (`EnsureProxy_rerun`).
* **Errors.**  Every error it returns names its step.  A get or create step wraps the API
  server's error; only the two waits can stop on something else, the context's error when their
  one-minute poll runs out (`EnsureProxy_error`).  The bootstrap renderer's own error is
  unreachable from it: the Gateway's namespaced name and the node id are never empty.
* **DeleteProxy undoes EnsureProxy.**  When it returns nil nothing of the proxy is left, and
  from a store without the proxy, `EnsureProxy` then a successful `DeleteProxy` gives the store
  back, whatever `EnsureProxy` managed to do (`DeleteProxy_EnsureProxy`).
* **References resolve.**  Over any sequence of the two calls, for any Gateways and whatever
  the API server refuses, every Deployment in the system namespace has the ServiceAccount and
  the ConfigMap it refers to (`runProxyCalls_refs_resolve`): creation goes ServiceAccount,
  ConfigMap, Deployment, and deletion starts with the Deployment.  And only a `DeleteProxy` of
  an object's own name removes it (`runProxyCalls_keeps`): a call for one Gateway never takes
  away another's proxy, unless their names hash alike.

`constants.AgenticNetSystemNamespace` and `constants.XDSServerServiceName` are not under
`src/`, and SHA-256 is not modelled; the three are the fields of `Env`.  What the API server
refuses and how polling ends are the fields of `Responses`.
-/

namespace AgenticNetworking

namespace Infra

/-! ## Errors and the environment -/

/-- `ctx.Err()` once the context is done: cancelled, or past its deadline. -/
inductive ContextError
  | canceled
  | deadlineExceeded
  deriving Repr, DecidableEq

/-- The error a `fmt.Errorf` of `proxy.go` wraps with `%w`: the API server's, from a client-go
request, or the context's, from `wait.PollUntilContextTimeout` when its minute runs out or the
context is cancelled. -/
inductive Cause
  | api (err : APIError)
  | context (err : ContextError)
  deriving Repr, DecidableEq

/-- A Go `error` made by `fmt.Errorf`: its message, and the error it wraps with `%w`, if any. -/
structure GoError where
  message : String
  cause : Option Cause
  deriving Repr, DecidableEq

/-- The values the proxy's code takes from outside `src/`: the system namespace
(`constants.AgenticNetSystemNamespace`), the xDS server's Service name
(`constants.XDSServerServiceName`), and `hex.EncodeToString(sha256.Sum256(b)[:6])` as a function
of the hashed string. -/
structure Env where
  systemNamespace : String
  xdsServerServiceName : String
  hash : String → String

/-- How the API server responds beyond its stored objects, while a call runs: the requests it
refuses, with the refusal's message, and how polling an object ends: `nil` once the object is
ready, or the error `wait.PollUntilContextTimeout` stopped with, that of a failed `Get` or the
context's (`DeadlineExceeded` after the minute). -/
structure Responses where
  refuse : Verb → ObjectKey → Option String
  poll : ObjectKey → Except Cause Unit

/-! ## The bootstrap configuration -/

/-- `envoyBootstrapCfgFileName`. -/
def envoyBootstrapCfgFileName : String := "envoy.yaml"

/-- `dynamicControlPlaneConfig` executed on a `configData`: the template's text with the four
fields in place.  `text/template` prints strings as they are and the port in decimal. -/
def dynamicControlPlaneConfig (cluster id controlPlaneAddress : String)
    (controlPlanePort : ℕ) : String :=
  "\n".intercalate
    ["node:",
     "  cluster: " ++ cluster,
     "  id: " ++ id,
     "",
     "dynamic_resources:",
     "  ads_config:",
     "    api_type: GRPC",
     "    grpc_services:",
     "    - envoy_grpc:",
     "        cluster_name: xds_cluster",
     "  cds_config:",
     "    ads: \x7b\x7d",
     "  lds_config:",
     "    ads: \x7b\x7d",
     "",
     "static_resources:",
     "  clusters:",
     "  - name: xds_cluster",
     "    type: STRICT_DNS",
     "    typed_extension_protocol_options:",
     "      envoy.extensions.upstreams.http.v3.HttpProtocolOptions:",
     "        \"@type\": type.googleapis.com/envoy.extensions.upstreams.http.v3.HttpProtocolOptions",
     "        explicit_http_config:",
     "          http2_protocol_options: \x7b\x7d",
     "    load_assignment:",
     "      cluster_name: xds_cluster",
     "      endpoints:",
     "      - lb_endpoints:",
     "        - endpoint:",
     "            address:",
     "              socket_address:",
     "                address: " ++ controlPlaneAddress,
     "                port_value: " ++ toString controlPlanePort,
     "",
     "admin:",
     "  access_log_path: /dev/stdout",
     "  address:",
     "    socket_address:",
     "      address: 0.0.0.0",
     "      port_value: 15000",
     ""]

/-- `generateEnvoyBootstrapConfig`.  Parsing and executing the constant template cannot fail, so
the only error is the check of the parameters. -/
def generateEnvoyBootstrapConfig (env : Env) (cluster id : String) : Except GoError String :=
  if cluster = "" ∨ id = "" then
    .error ⟨"missing parameters for envoy config", none⟩
  else
    .ok (dynamicControlPlaneConfig cluster id
      (env.xdsServerServiceName ++ "." ++ env.systemNamespace ++ ".svc.cluster.local") 15001)

/-! ## The renderers

`resources.go` renders from `resourceRender` and `render.go` from `ResourceManager`, with the same
bodies; both are the `proxy*` definitions applied to the receiver's fields.  The model's
`Gateway` carries its spec only, so the renderer that reads the Gateway's name takes its
metadata `gwMeta`; the one that reads `envoyImage` takes it. -/

/-- `types.NamespacedName.String()`: namespace and name joined by `/`. -/
def namespacedName («namespace» name : String) : String :=
  «namespace» ++ "/" ++ name

/-- `proxyName`: `envoy-proxy-` and the hex of the first six bytes of the SHA-256 of the
Gateway's namespaced name. -/
def proxyName (hash : String → String) («namespace» name : String) : String :=
  "envoy-proxy-" ++ hash (namespacedName «namespace» name)

/-- The ServiceAccount both renderers build. -/
def proxyServiceAccount (systemNamespace nodeID : String) : ServiceAccount :=
  ⟨⟨nodeID, systemNamespace⟩⟩

/-- The ConfigMap both renderers build: the bootstrap configuration for the Gateway's namespaced
name and the node id, under `envoy.yaml`. -/
def proxyConfigMap (env : Env) (gwMeta : ObjectMeta) (nodeID : String) :
    Except GoError ConfigMap := do
  let bootstrap ← generateEnvoyBootstrapConfig env
    (namespacedName gwMeta.«namespace» gwMeta.name) nodeID
  return ⟨⟨nodeID, env.systemNamespace⟩, [(envoyBootstrapCfgFileName, bootstrap)]⟩

/-- The Deployment both renderers build: one replica of the Envoy container, running as the
node id's ServiceAccount and reading its configuration from the node id's ConfigMap. -/
def proxyDeployment (systemNamespace envoyImage nodeID : String) : Deployment :=
  ⟨⟨nodeID, systemNamespace⟩,
    ⟨1, [("app", nodeID)],
      ⟨[("app", nodeID)],
        ⟨nodeID,
          [⟨"envoy-proxy", envoyImage,
            ["envoy", "-c", "/etc/envoy/envoy.yaml", "--log-level", "debug"],
            [⟨"envoy-config", "/etc/envoy"⟩]⟩],
          [⟨"envoy-config", nodeID⟩]⟩⟩⟩⟩

/-- `resourceRender.serviceAccount()`. -/
def ResourceRender.serviceAccount (systemNamespace : String) (r : ResourceRender) :
    ServiceAccount :=
  proxyServiceAccount systemNamespace r.nodeID

/-- `resourceRender.configMap()`. -/
def ResourceRender.configMap (env : Env) (gwMeta : ObjectMeta) (r : ResourceRender) :
    Except GoError ConfigMap :=
  proxyConfigMap env gwMeta r.nodeID

/-- `resourceRender.deployment()`. -/
def ResourceRender.deployment (systemNamespace envoyImage : String) (r : ResourceRender) :
    Deployment :=
  proxyDeployment systemNamespace envoyImage r.nodeID

/-- `ResourceManager.renderServiceAccount()`. -/
def ResourceManager.renderServiceAccount (systemNamespace : String) (r : ResourceManager) :
    ServiceAccount :=
  proxyServiceAccount systemNamespace r.nodeID

/-- `ResourceManager.renderConfigMap()`. -/
def ResourceManager.renderConfigMap (env : Env) (gwMeta : ObjectMeta) (r : ResourceManager) :
    Except GoError ConfigMap :=
  proxyConfigMap env gwMeta r.nodeID

/-- `ResourceManager.renderDeployment()`. -/
def ResourceManager.renderDeployment (systemNamespace envoyImage : String)
    (r : ResourceManager) : Deployment :=
  proxyDeployment systemNamespace envoyImage r.nodeID

theorem namespacedName_ne_empty («namespace» name : String) :
    namespacedName «namespace» name ≠ "" := by
  intro h
  have := congrArg String.data h
  simp [namespacedName] at this

theorem proxyName_ne_empty (hash : String → String) («namespace» name : String) :
    proxyName hash «namespace» name ≠ "" := by
  intro h
  have := congrArg String.data h
  simp [proxyName] at this

/-- **The bootstrap renders for every Gateway and non-empty node id**: its check of the
parameters never fails there. -/
theorem proxyConfigMap_eq_ok (env : Env) (gwMeta : ObjectMeta) {nodeID : String}
    (h : nodeID ≠ "") :
    proxyConfigMap env gwMeta nodeID =
      .ok ⟨⟨nodeID, env.systemNamespace⟩, [(envoyBootstrapCfgFileName,
        dynamicControlPlaneConfig (namespacedName gwMeta.«namespace» gwMeta.name) nodeID
          (env.xdsServerServiceName ++ "." ++ env.systemNamespace ++ ".svc.cluster.local")
          15001)]⟩ := by
  simp [proxyConfigMap, generateEnvoyBootstrapConfig, namespacedName_ne_empty, h]

/-! ## Calls to the API server -/

/-- A Go function of `proxy.go` that talks to the API server and returns an `error`: the error
(`none` for `nil`), and the API server's objects afterwards. -/
abbrev ClientCall := Store → Option GoError × Store

namespace ClientCall

/-- `if err := f(); err != nil { return err }`, then `g`. -/
def andThen (f g : ClientCall) : ClientCall := fun s =>
  match f s with
  | (none, s') => g s'
  | (some err, s') => (some err, s')

theorem andThen_of_ok {f g : ClientCall} {s s' : Store} (h : f s = (none, s')) :
    f.andThen g s = g s' := by
  simp only [andThen, h]

theorem andThen_of_error {f g : ClientCall} {s s' : Store} {err : GoError}
    (h : f s = (some err, s')) : f.andThen g s = (some err, s') := by
  simp only [andThen, h]

/-- **Everything `f.andThen g` does**: `f`'s error, or `g` after `f` returned nil. -/
theorem andThen_cases (f g : ClientCall) (s : Store) :
    ((f s).1.isSome ∧ f.andThen g s = f s) ∨ ((f s).1 = none ∧ f.andThen g s = g (f s).2) := by
  rcases h : f s with ⟨_ | err, s'⟩
  · exact .inr ⟨rfl, andThen_of_ok h⟩
  · exact .inl ⟨rfl, andThen_of_error h⟩

/-- `c` moves the store along `R`, whatever it returns. -/
def Moves (R : Store → Store → Prop) (c : ClientCall) : Prop :=
  ∀ s, R s (c s).2

/-- `c` changes no object outside the keys `K`. -/
def Within (K : ObjectKey → Prop) (c : ClientCall) : Prop :=
  ∀ s k, ¬K k → (c s).2.objects k = s.objects k

/-- When `c` returns nil, `P` holds of the store it leaves. -/
def Ensures (P : Store → Prop) (c : ClientCall) : Prop :=
  ∀ s, (c s).1 = none → P (c s).2

/-- After a run of `c` that returned nil, running `c` on any store `R`-beyond the one it left
returns nil and changes nothing. -/
def Stable (R : Store → Store → Prop) (c : ClientCall) : Prop :=
  ∀ s t, (c s).1 = none → R (c s).2 t → c t = (none, t)

/-- Every object `c` stores under a key that was empty satisfies `P`. -/
def CreatesOnly (P : Object → Prop) (c : ClientCall) : Prop :=
  ∀ s k o, s.objects k = none → (c s).2.objects k = some o → P o

/-- Every error `c` returns satisfies `P`. -/
def FailsWith (P : GoError → Prop) (c : ClientCall) : Prop :=
  ∀ s err, (c s).1 = some err → P err

variable {f g c : ClientCall}

theorem Moves.andThen {R : Store → Store → Prop} [IsTrans Store R] (hf : f.Moves R)
    (hg : g.Moves R) : (f.andThen g).Moves R := by
  intro s
  rcases andThen_cases f g s with ⟨-, h⟩ | ⟨-, h⟩ <;> rw [h]
  · exact hf s
  · exact IsTrans.trans _ _ _ (hf s) (hg _)

theorem Within.andThen {K : ObjectKey → Prop} (hf : f.Within K) (hg : g.Within K) :
    (f.andThen g).Within K := by
  intro s k hk
  rcases andThen_cases f g s with ⟨-, h⟩ | ⟨-, h⟩ <;> rw [h]
  · exact hf s k hk
  · rw [hg _ k hk, hf s k hk]

theorem Within.mono {K K' : ObjectKey → Prop} (hc : c.Within K) (hK : ∀ k, K k → K' k) :
    c.Within K' :=
  fun s k hk => hc s k (mt (hK k) hk)

/-- What `f` ensures survives a `g` that moves the store only where it is kept. -/
theorem Ensures.andThen_left {P : Store → Prop} {R : Store → Store → Prop} (hf : f.Ensures P)
    (hg : g.Moves R) (hP : ∀ s t, R s t → P s → P t) : (f.andThen g).Ensures P := by
  intro s hs
  rcases andThen_cases f g s with ⟨he, h⟩ | ⟨he, h⟩ <;> rw [h] at hs ⊢
  · simp [hs] at he
  · exact hP _ _ (hg _) (hf s he)

theorem Ensures.andThen_right {P : Store → Prop} (hg : g.Ensures P) :
    (f.andThen g).Ensures P := by
  intro s hs
  rcases andThen_cases f g s with ⟨he, h⟩ | ⟨-, h⟩ <;> rw [h] at hs ⊢
  · simp [hs] at he
  · exact hg _ hs

theorem Stable.andThen {R : Store → Store → Prop} [IsTrans Store R] (hf : f.Stable R)
    (hg : g.Stable R) (hgR : g.Moves R) : (f.andThen g).Stable R := by
  intro s t hs ht
  rcases andThen_cases f g s with ⟨he, h⟩ | ⟨he, h⟩ <;> rw [h] at hs ht
  · simp [hs] at he
  · rw [andThen_of_ok (hf s t he (IsTrans.trans _ _ _ (hgR _) ht))]
    exact hg _ t hs ht

theorem CreatesOnly.andThen {P : Object → Prop} (hf : f.CreatesOnly P) (hg : g.CreatesOnly P)
    (hgrow : g.Moves (· ≤ ·)) : (f.andThen g).CreatesOnly P := by
  intro s k o hk ho
  rcases andThen_cases f g s with ⟨-, h⟩ | ⟨-, h⟩ <;> rw [h] at ho
  · exact hf s k o hk ho
  · cases h1 : (f s).2.objects k with
    | none => exact hg _ k o h1 ho
    | some o' =>
      obtain rfl : o' = o := Option.some.inj ((hgrow _ k o' h1).symm.trans ho)
      exact hf s k o' hk h1

theorem FailsWith.andThen {P : GoError → Prop} (hf : f.FailsWith P) (hg : g.FailsWith P) :
    (f.andThen g).FailsWith P := by
  intro s err he
  rcases andThen_cases f g s with ⟨-, h⟩ | ⟨-, h⟩ <;> rw [h] at he
  · exact hf s err he
  · exact hg _ err he

theorem FailsWith.mono {P Q : GoError → Prop} (hc : c.FailsWith P) (hPQ : ∀ e, P e → Q e) :
    c.FailsWith Q :=
  fun s err he => hPQ err (hc s err he)

/-- What the ensure calls have in common: they only create, only under the keys `K` and only
objects satisfying `P`; every error they return satisfies `E`; and a run that returned nil is
stable. -/
structure Creates (K : ObjectKey → Prop) (P : Object → Prop) (E : GoError → Prop)
    (c : ClientCall) : Prop where
  moves : c.Moves (· ≤ ·)
  within : c.Within K
  stable : c.Stable (· ≤ ·)
  createsOnly : c.CreatesOnly P
  failsWith : c.FailsWith E

theorem Creates.andThen {K : ObjectKey → Prop} {P : Object → Prop} {E : GoError → Prop}
    (hf : f.Creates K P E) (hg : g.Creates K P E) : (f.andThen g).Creates K P E :=
  ⟨hf.moves.andThen hg.moves, hf.within.andThen hg.within,
    hf.stable.andThen hg.stable hg.moves, hf.createsOnly.andThen hg.createsOnly hg.moves,
    hf.failsWith.andThen hg.failsWith⟩

theorem Creates.mono {K K' : ObjectKey → Prop} {P P' : Object → Prop} {E E' : GoError → Prop}
    (hc : c.Creates K P E) (hK : ∀ k, K k → K' k) (hP : ∀ o, P o → P' o)
    (hE : ∀ e, E e → E' e) : c.Creates K' P' E' :=
  ⟨hc.moves, hc.within.mono hK, hc.stable, fun s k o hk ho => hP o (hc.createsOnly s k o hk ho),
    hc.failsWith.mono hE⟩

end ClientCall

open ClientCall

/-! ## The calls of `proxy.go` -/

section Calls

variable (env : Env) (rsp : Responses)

/-- The body `ensureSA`, `ensureConfigMap`, `ensureDeployment` and `ensureService` share: `Get`
the object by name, and `Create` it if the `Get` says `NotFound`.  An object that exists is left
as it is. -/
def ensureObject (what : String) (o : Object) : ClientCall := fun s =>
  match get rsp.refuse o.key s with
  | .ok _ => (none, s)
  | .error .notFound =>
    match create rsp.refuse o s with
    | .ok s' => (none, s')
    | .error err => (some ⟨"failed to create envoy " ++ what, some (.api err)⟩, s)
  | .error err => (some ⟨"failed to get envoy " ++ what, some (.api err)⟩, s)

/-- `waitForDeploymentAvailable` and `waitForServiceReady`: poll the object, and wrap the error
the poll stopped with.  Polling only reads. -/
def waitFor (message : String) (k : ObjectKey) : ClientCall := fun s =>
  match rsp.poll k with
  | .ok () => (none, s)
  | .error err => (some ⟨message, some err⟩, s)

/-- `waitForDeploymentAvailable`. -/
def waitForDeploymentAvailable (name : String) : ClientCall :=
  waitFor rsp ("waiting for envoy deployment " ++ name ++ " to be available")
    ⟨.deployment, env.systemNamespace, name⟩

/-- `waitForServiceReady`. -/
def waitForServiceReady (name : String) : ClientCall :=
  waitFor rsp ("waiting for envoy service " ++ name ++ " to be ready")
    ⟨.service, env.systemNamespace, name⟩

/-- `ensureSA`. -/
def ensureSA (r : ResourceRender) : ClientCall :=
  ensureObject rsp "serviceaccount" (.serviceAccount (r.serviceAccount env.systemNamespace))

/-- `ensureConfigMap`: the ConfigMap is rendered first, and a render error is returned as it is.
-/
def ensureConfigMap (gwMeta : ObjectMeta) (r : ResourceRender) : ClientCall := fun s =>
  match r.configMap env gwMeta with
  | .error err => (some err, s)
  | .ok cm => ensureObject rsp "configmap" (.configMap cm) s

/-- `ensureDeployment`: ensure the Deployment, then wait until it is available. -/
def ensureDeployment (envoyImage : String) (r : ResourceRender) : ClientCall :=
  (ensureObject rsp "deployment"
      (.deployment (r.deployment env.systemNamespace envoyImage))).andThen
    (waitForDeploymentAvailable env rsp r.nodeID)

/-- `ensureService`: ensure the Service, then wait until it has a cluster IP. -/
def ensureService (r : ResourceRender) : ClientCall :=
  (ensureObject rsp "service" (.service (r.service env.systemNamespace))).andThen
    (waitForServiceReady env rsp r.nodeID)

/-- The body of `EnsureProxy`: the four ensure calls in order, each run when the one before
returned nil.  `EnsureProxy`'s `resourceRender` literal leaves `envoyImage` at its zero value. -/
def ensureProxyObjects (gwMeta : ObjectMeta) (r : ResourceRender) : ClientCall :=
  (ensureSA env rsp r).andThen <| (ensureConfigMap env rsp gwMeta r).andThen <|
    (ensureDeployment env rsp "" r).andThen (ensureService env rsp r)

/-- `EnsureProxy`: the node id on success. -/
def EnsureProxy (gwMeta : ObjectMeta) (gw : Gateway) (s : Store) : Except GoError String × Store :=
  let r : ResourceRender := ⟨gw, proxyName env.hash gwMeta.«namespace» gwMeta.name⟩
  let result := ensureProxyObjects env rsp gwMeta r s
  (match result.1 with
    | none => .ok r.nodeID
    | some err => .error err, result.2)

/-- One deletion of `DeleteProxy`: `NotFound` is success. -/
def deleteObject (what : String) (k : ObjectKey) : ClientCall := fun s =>
  match delete rsp.refuse k s with
  | .ok s' => (none, s')
  | .error .notFound => (none, s)
  | .error err => (some ⟨"failed to delete envoy " ++ what, some (.api err)⟩, s)

/-- `DeleteProxy`: the Deployment, the Service, the ConfigMap, then the ServiceAccount. -/
def DeleteProxy («namespace» name : String) : ClientCall :=
  let nodeID := proxyName env.hash «namespace» name
  (deleteObject rsp "deployment" ⟨.deployment, env.systemNamespace, nodeID⟩).andThen <|
    (deleteObject rsp "service" ⟨.service, env.systemNamespace, nodeID⟩).andThen <|
    (deleteObject rsp "configmap" ⟨.configMap, env.systemNamespace, nodeID⟩).andThen
      (deleteObject rsp "serviceaccount" ⟨.serviceAccount, env.systemNamespace, nodeID⟩)

end Calls

/-! ## What each call does -/

section Members

variable {env : Env} {rsp : Responses}

/-- **Everything an ensure call does**: nothing when the object exists, create it when it is
not found, and otherwise fail, naming its step and wrapping the API error, with the store as it
was. -/
theorem ensureObject_cases (rsp : Responses) (what : String) (o : Object) (s : Store) :
    (rsp.refuse .get o.key = none ∧ s.has o.key ∧ ensureObject rsp what o s = (none, s)) ∨
    (rsp.refuse .get o.key = none ∧ s.objects o.key = none ∧
      ensureObject rsp what o s = (none, s.insert o)) ∨
    ∃ err, ensureObject rsp what o s = (some err, s) ∧ (∃ e, err.cause = some (.api e)) ∧
      (err.message = "failed to get envoy " ++ what ∨
        err.message = "failed to create envoy " ++ what) := by
  rcases hg : rsp.refuse .get o.key with _ | m
  · rcases ho : s.objects o.key with _ | o'
    · rcases hc : rsp.refuse .create o.key with _ | m'
      · exact .inr (.inl ⟨rfl, rfl, by simp [ensureObject, get, create, hg, ho, hc]⟩)
      · exact .inr (.inr ⟨⟨"failed to create envoy " ++ what, some (.api (.other m'))⟩,
          by simp [ensureObject, get, create, hg, ho, hc], ⟨_, rfl⟩, .inr rfl⟩)
    · exact .inl ⟨rfl, by simp [Store.has, ho], by simp [ensureObject, get, hg, ho]⟩
  · exact .inr (.inr ⟨⟨"failed to get envoy " ++ what, some (.api (.other m))⟩,
      by simp [ensureObject, get, hg], ⟨_, rfl⟩, .inl rfl⟩)

theorem ensureObject_moves (what : String) (o : Object) :
    (ensureObject rsp what o).Moves (· ≤ ·) := by
  intro s
  rcases ensureObject_cases rsp what o s with ⟨-, -, h⟩ | ⟨-, ho, h⟩ | ⟨_, h, -⟩ <;> simp only [h]
  · exact le_rfl
  · exact Store.le_insert ho
  · exact le_rfl

theorem ensureObject_within (what : String) (o : Object) :
    (ensureObject rsp what o).Within (· = o.key) := by
  intro s k hk
  rcases ensureObject_cases rsp what o s with ⟨-, -, h⟩ | ⟨-, -, h⟩ | ⟨_, h, -⟩ <;> simp [h, hk]

theorem ensureObject_ensures (what : String) (o : Object) :
    (ensureObject rsp what o).Ensures (·.has o.key) := by
  intro s hs
  rcases ensureObject_cases rsp what o s with ⟨-, hk, h⟩ | ⟨-, -, h⟩ | ⟨_, h, -⟩ <;>
    rw [h] at hs ⊢
  · exact hk
  · simp [Store.has]
  · simp at hs

theorem ensureObject_stable (what : String) (o : Object) :
    (ensureObject rsp what o).Stable (· ≤ ·) := by
  intro s t hs ht
  have hget : rsp.refuse .get o.key = none := by
    rcases ensureObject_cases rsp what o s with ⟨hg, -, -⟩ | ⟨hg, -, -⟩ | ⟨_, h, -⟩
    · exact hg
    · exact hg
    · simp [h] at hs
  obtain ⟨o', ho'⟩ := Option.ne_none_iff_exists'.mp
    (Store.has_of_le ht (ensureObject_ensures what o s hs))
  simp [ensureObject, get, hget, ho']

theorem ensureObject_createsOnly (what : String) (o : Object) :
    (ensureObject rsp what o).CreatesOnly (· = o) := by
  intro s k o' hk ho'
  rcases ensureObject_cases rsp what o s with ⟨-, -, h⟩ | ⟨-, -, h⟩ | ⟨_, h, -⟩ <;>
    simp only [h, Store.insert_objects] at ho'
  · simp [hk] at ho'
  · split_ifs at ho'
    · exact (Option.some.inj ho').symm
    · simp [hk] at ho'
  · simp [hk] at ho'

theorem ensureObject_failsWith (what : String) (o : Object) :
    (ensureObject rsp what o).FailsWith fun err => (∃ e, err.cause = some (.api e)) ∧
      (err.message = "failed to get envoy " ++ what ∨
        err.message = "failed to create envoy " ++ what) := by
  intro s err he
  rcases ensureObject_cases rsp what o s with ⟨-, -, h⟩ | ⟨-, -, h⟩ | ⟨_, h, hmsg⟩ <;>
    simp only [h, Option.some.injEq, reduceCtorEq] at he
  exact he ▸ hmsg

theorem waitFor_store (message : String) (k : ObjectKey) (s : Store) :
    (waitFor rsp message k s).2 = s := by
  unfold waitFor
  split <;> rfl

theorem waitFor_moves {R : Store → Store → Prop} [IsRefl Store R] (message : String)
    (k : ObjectKey) : (waitFor rsp message k).Moves R := fun s => by
  rw [waitFor_store]
  exact refl s

theorem waitFor_within {K : ObjectKey → Prop} (message : String) (k : ObjectKey) :
    (waitFor rsp message k).Within K := fun s _ _ => by
  rw [waitFor_store]

theorem waitFor_stable {R : Store → Store → Prop} (message : String) (k : ObjectKey) :
    (waitFor rsp message k).Stable R := by
  intro s t hs _
  rcases hp : rsp.poll k with err | ⟨⟩ <;> simp [waitFor, hp] at hs ⊢

theorem waitFor_createsOnly {P : Object → Prop} (message : String) (k : ObjectKey) :
    (waitFor rsp message k).CreatesOnly P := by
  intro s k' o hk ho
  rw [waitFor_store, hk] at ho
  cases ho

theorem waitFor_failsWith (message : String) (k : ObjectKey) :
    (waitFor rsp message k).FailsWith fun err => err.cause.isSome ∧ err.message = message := by
  intro s err he
  rcases hp : rsp.poll k with e | ⟨⟩ <;> simp [waitFor, hp] at he
  exact he ▸ ⟨rfl, rfl⟩

/-- **Everything a deletion does**: remove the object (nothing to remove is success), or fail,
naming its step and wrapping the refusal, with the store as it was. -/
theorem deleteObject_cases (rsp : Responses) (what : String) (k : ObjectKey) (s : Store) :
    (rsp.refuse .delete k = none ∧ deleteObject rsp what k s = (none, s.erase k)) ∨
    ∃ message, rsp.refuse .delete k = some message ∧
      deleteObject rsp what k s =
        (some ⟨"failed to delete envoy " ++ what, some (.api (.other message))⟩, s) := by
  rcases hd : rsp.refuse .delete k with _ | m
  · rcases hk : s.objects k with _ | o
    · exact .inl ⟨rfl, by simp [deleteObject, delete, hd, hk, Store.erase_of_none hk]⟩
    · exact .inl ⟨rfl, by simp [deleteObject, delete, hd, hk]⟩
  · exact .inr ⟨m, rfl, by simp [deleteObject, delete, hd]⟩

theorem deleteObject_moves (what : String) (k : ObjectKey) :
    (deleteObject rsp what k).Moves (· ≥ ·) := by
  intro s
  rcases deleteObject_cases rsp what k s with ⟨-, h⟩ | ⟨_, -, h⟩ <;> simp only [h]
  · exact Store.erase_le s k
  · exact le_rfl

theorem deleteObject_within (what : String) (k : ObjectKey) :
    (deleteObject rsp what k).Within (· = k) := by
  intro s k' hk
  rcases deleteObject_cases rsp what k s with ⟨-, h⟩ | ⟨_, -, h⟩ <;> simp [h, hk]

theorem deleteObject_ensures (what : String) (k : ObjectKey) :
    (deleteObject rsp what k).Ensures (·.objects k = none) := by
  intro s hs
  rcases deleteObject_cases rsp what k s with ⟨-, h⟩ | ⟨_, -, h⟩ <;> rw [h] at hs ⊢
  · simp
  · simp at hs

theorem ensureObject_creates (what : String) (o : Object) :
    (ensureObject rsp what o).Creates (· = o.key) (· = o) fun err =>
      (∃ e, err.cause = some (.api e)) ∧ (err.message = "failed to get envoy " ++ what ∨
        err.message = "failed to create envoy " ++ what) :=
  ⟨ensureObject_moves what o, ensureObject_within what o, ensureObject_stable what o,
    ensureObject_createsOnly what o, ensureObject_failsWith what o⟩

theorem waitFor_creates {K : ObjectKey → Prop} {P : Object → Prop} (message : String)
    (k : ObjectKey) :
    (waitFor rsp message k).Creates K P fun err => err.cause.isSome ∧ err.message = message :=
  ⟨waitFor_moves message k, waitFor_within message k, waitFor_stable message k,
    waitFor_createsOnly message k, waitFor_failsWith message k⟩

theorem deleteObject_of_no_refusal {what : String} {k : ObjectKey}
    (h : rsp.refuse .delete k = none) (s : Store) :
    deleteObject rsp what k s = (none, s.erase k) := by
  rcases deleteObject_cases rsp what k s with ⟨-, h'⟩ | ⟨_, hm, -⟩
  · exact h'
  · simp [h] at hm

end Members

/-! ## EnsureProxy -/

section EnsureProxy

/-- The objects `EnsureProxy` renders for a Gateway whose proxy is named `nodeID`: its
ServiceAccount, ConfigMap, Deployment (with `EnsureProxy`'s empty image) and Service. -/
def Rendered (env : Env) (gwMeta : ObjectMeta) (gw : Gateway) (nodeID : String) (o : Object) :
    Prop :=
  o = .serviceAccount (proxyServiceAccount env.systemNamespace nodeID) ∨
    (∃ cm, proxyConfigMap env gwMeta nodeID = .ok cm ∧ o = .configMap cm) ∨
    o = .deployment (proxyDeployment env.systemNamespace "" nodeID) ∨
    o = .service (proxyService env.systemNamespace nodeID gw)

/-- The messages of the errors `EnsureProxy`'s get and create steps return, step by step. -/
def ensureProxyStepErrors : List String :=
  ["failed to get envoy serviceaccount", "failed to create envoy serviceaccount",
    "failed to get envoy configmap", "failed to create envoy configmap",
    "failed to get envoy deployment", "failed to create envoy deployment",
    "failed to get envoy service", "failed to create envoy service"]

/-- The messages of the errors its two waits return for the node id `nodeID`. -/
def ensureProxyWaitErrors (nodeID : String) : List String :=
  ["waiting for envoy deployment " ++ nodeID ++ " to be available",
    "waiting for envoy service " ++ nodeID ++ " to be ready"]

/-- An error `EnsureProxy` can return for the node id `nodeID`: a get or create step's, wrapping
the API server's error, or a wait's, wrapping the error its poll stopped with. -/
def ProxyError (nodeID : String) (err : GoError) : Prop :=
  (err.message ∈ ensureProxyStepErrors ∧ ∃ e, err.cause = some (.api e)) ∨
    (err.message ∈ ensureProxyWaitErrors nodeID ∧ err.cause.isSome)

/-- What the ensure calls of `EnsureProxy` do for the node id `nodeID`: create only under the
proxy's name in the system namespace, only the objects rendered for the Gateway, and fail only
with a `ProxyError`. -/
def ProxyCreates (env : Env) (gwMeta : ObjectMeta) (gw : Gateway) (nodeID : String) :
    ClientCall → Prop :=
  Creates (fun k => k.«namespace» = env.systemNamespace ∧ k.name = nodeID)
    (Rendered env gwMeta gw nodeID) (ProxyError nodeID)

variable (env : Env) (rsp : Responses) (gwMeta : ObjectMeta)

theorem ensureConfigMap_eq (r : ResourceRender) (hr : r.nodeID ≠ "") :
    ∃ cm, proxyConfigMap env gwMeta r.nodeID = .ok cm ∧
      (Object.configMap cm).key = ⟨.configMap, env.systemNamespace, r.nodeID⟩ ∧
      ensureConfigMap env rsp gwMeta r = ensureObject rsp "configmap" (.configMap cm) :=
  ⟨_, proxyConfigMap_eq_ok env gwMeta hr, rfl, funext fun s => by
    simp only [ensureConfigMap, ResourceRender.configMap, proxyConfigMap_eq_ok env gwMeta hr]⟩

theorem ensureSA_creates (r : ResourceRender) :
    ProxyCreates env gwMeta r.gw r.nodeID (ensureSA env rsp r) :=
  (ensureObject_creates _ _).mono (by rintro k rfl; exact ⟨rfl, rfl⟩)
    (by rintro _ rfl; exact .inl rfl)
    (by rintro e ⟨hc, hm | hm⟩ <;> exact .inl ⟨by simp [ensureProxyStepErrors, hm], hc⟩)

theorem ensureConfigMap_creates (r : ResourceRender) (hr : r.nodeID ≠ "") :
    ProxyCreates env gwMeta r.gw r.nodeID (ensureConfigMap env rsp gwMeta r) := by
  obtain ⟨cm, hcm, hkey, h⟩ := ensureConfigMap_eq env rsp gwMeta r hr
  rw [h]
  exact (ensureObject_creates _ _).mono (by rintro k rfl; rw [hkey]; exact ⟨rfl, rfl⟩)
    (by rintro _ rfl; exact .inr (.inl ⟨cm, hcm, rfl⟩))
    (by rintro e ⟨hc, hm | hm⟩ <;> exact .inl ⟨by simp [ensureProxyStepErrors, hm], hc⟩)

theorem ensureDeployment_creates (r : ResourceRender) :
    ProxyCreates env gwMeta r.gw r.nodeID (ensureDeployment env rsp "" r) :=
  Creates.andThen
    ((ensureObject_creates _ _).mono (by rintro k rfl; exact ⟨rfl, rfl⟩)
      (by rintro _ rfl; exact .inr (.inr (.inl rfl)))
      (by rintro e ⟨hc, hm | hm⟩ <;> exact .inl ⟨by simp [ensureProxyStepErrors, hm], hc⟩))
    ((waitFor_creates _ _).mono (fun _ h => h) (fun _ h => h)
      (by rintro e ⟨hc, hm⟩; exact .inr ⟨by simp [ensureProxyWaitErrors, hm], hc⟩))

theorem ensureService_creates (r : ResourceRender) :
    ProxyCreates env gwMeta r.gw r.nodeID (ensureService env rsp r) :=
  Creates.andThen
    ((ensureObject_creates _ _).mono (by rintro k rfl; exact ⟨rfl, rfl⟩)
      (by rintro _ rfl; exact .inr (.inr (.inr rfl)))
      (by rintro e ⟨hc, hm | hm⟩ <;> exact .inl ⟨by simp [ensureProxyStepErrors, hm], hc⟩))
    ((waitFor_creates _ _).mono (fun _ h => h) (fun _ h => h)
      (by rintro e ⟨hc, hm⟩; exact .inr ⟨by simp [ensureProxyWaitErrors, hm], hc⟩))

theorem ensureProxyObjects_creates (r : ResourceRender) (hr : r.nodeID ≠ "") :
    ProxyCreates env gwMeta r.gw r.nodeID (ensureProxyObjects env rsp gwMeta r) :=
  Creates.andThen (ensureSA_creates env rsp gwMeta r) <|
    Creates.andThen (ensureConfigMap_creates env rsp gwMeta r hr) <|
      Creates.andThen (ensureDeployment_creates env rsp gwMeta r)
        (ensureService_creates env rsp gwMeta r)

/-- When the ensure calls return nil, the four objects exist. -/
theorem ensureProxyObjects_ensures (r : ResourceRender) (hr : r.nodeID ≠ "") :
    (ensureProxyObjects env rsp gwMeta r).Ensures
      fun s => ∀ kind, s.has ⟨kind, env.systemNamespace, r.nodeID⟩ := by
  obtain ⟨cm, -, hkey, h⟩ := ensureConfigMap_eq env rsp gwMeta r hr
  have hup : ∀ k (s t : Store), s ≤ t → s.has k → t.has k := fun _ _ _ h => Store.has_of_le h
  have hcm := ensureConfigMap_creates env rsp gwMeta r hr
  have hdep := ensureDeployment_creates env rsp gwMeta r
  have hsvc := ensureService_creates env rsp gwMeta r
  intro s hs kind
  unfold ensureProxyObjects at hs ⊢
  cases kind with
  | serviceAccount =>
    exact Ensures.andThen_left (ensureObject_ensures _ _)
      (hcm.andThen (hdep.andThen hsvc)).moves (hup _) s hs
  | configMap =>
    rw [h] at hcm
    rw [h] at hs ⊢
    exact Ensures.andThen_right (Ensures.andThen_left (hkey ▸ ensureObject_ensures _ _)
      (hdep.andThen hsvc).moves (hup _)) s hs
  | deployment =>
    exact (Ensures.andThen_right <| Ensures.andThen_right <|
      Ensures.andThen_left (Ensures.andThen_left (ensureObject_ensures _ _)
        (waitFor_moves _ _) (hup _)) hsvc.moves (hup _)) s hs
  | service =>
    exact (Ensures.andThen_right <| Ensures.andThen_right <| Ensures.andThen_right <|
      Ensures.andThen_left (ensureObject_ensures _ _) (waitFor_moves _ _) (hup _)) s hs

variable (gw : Gateway)

/-- The ensure calls of `EnsureProxy` for a Gateway, with its node id. -/
theorem ensureProxy_creates :
    ProxyCreates env gwMeta gw (proxyName env.hash gwMeta.«namespace» gwMeta.name)
      (ensureProxyObjects env rsp gwMeta ⟨gw, proxyName env.hash gwMeta.«namespace» gwMeta.name⟩) :=
  ensureProxyObjects_creates env rsp gwMeta ⟨gw, _⟩ (proxyName_ne_empty _ _ _)

/-- A system namespace and xDS Service name, with a stand-in for the hash. -/
def exampleEnv : Env :=
  ⟨"agentic-net-system", "agentic-net-xds", fun _ => "5c1d0e9a7f32"⟩

/-- An API server that refuses nothing, with every object ready at once. -/
def permissive : Responses :=
  ⟨fun _ _ => none, fun _ => .ok ()⟩

/-- An API server that refuses to create ServiceAccounts. -/
def forbidServiceAccounts : Responses :=
  ⟨fun verb k => if verb = .create ∧ k.kind = .serviceAccount then some "forbidden" else none,
    fun _ => .ok ()⟩

/-- The quickstart's Gateway, `agentic-net-gateway` in `default`, listening on port 10001. -/
def quickstartGatewayMeta : ObjectMeta := ⟨"agentic-net-gateway", "default"⟩

/-- Its spec. -/
def quickstartGateway : Gateway := ⟨⟨[⟨"http", none, 10001, "HTTP"⟩]⟩⟩

/-- Its proxy's name. -/
def quickstartNodeID : String :=
  proxyName exampleEnv.hash quickstartGatewayMeta.«namespace» quickstartGatewayMeta.name

theorem EnsureProxy_snd (s : Store) :
    (EnsureProxy env rsp gwMeta gw s).2 =
      (ensureProxyObjects env rsp gwMeta
        ⟨gw, proxyName env.hash gwMeta.«namespace» gwMeta.name⟩ s).2 :=
  rfl

/-- **EnsureProxy only creates**: whatever it returns, every object that was there is still
there, unchanged, and nothing outside the proxy's name in the system namespace has changed. -/
theorem EnsureProxy_grows (s : Store) :
    s ≤ (EnsureProxy env rsp gwMeta gw s).2 ∧
      ∀ k, ¬(k.«namespace» = env.systemNamespace ∧
          k.name = proxyName env.hash gwMeta.«namespace» gwMeta.name) →
        (EnsureProxy env rsp gwMeta gw s).2.objects k = s.objects k :=
  ⟨(ensureProxy_creates env rsp gwMeta gw).moves s,
    (ensureProxy_creates env rsp gwMeta gw).within s⟩

/-- **What EnsureProxy creates**: an object under a key that was empty is one of the four
rendered for the Gateway. -/
theorem EnsureProxy_creates (s : Store) (k : ObjectKey) (o : Object) (hk : s.objects k = none)
    (ho : (EnsureProxy env rsp gwMeta gw s).2.objects k = some o) :
    Rendered env gwMeta gw (proxyName env.hash gwMeta.«namespace» gwMeta.name) o :=
  (ensureProxy_creates env rsp gwMeta gw).createsOnly s k o hk ho

theorem EnsureProxy_creates_serviceAccount :
    Store.empty.objects ⟨.serviceAccount, exampleEnv.systemNamespace, quickstartNodeID⟩ = none ∧
    (EnsureProxy exampleEnv permissive quickstartGatewayMeta quickstartGateway Store.empty).2.objects
        ⟨.serviceAccount, exampleEnv.systemNamespace, quickstartNodeID⟩ =
      some (.serviceAccount (proxyServiceAccount exampleEnv.systemNamespace quickstartNodeID)) ∧
    Rendered exampleEnv quickstartGatewayMeta quickstartGateway quickstartNodeID
      (.serviceAccount (proxyServiceAccount exampleEnv.systemNamespace quickstartNodeID)) :=
  ⟨rfl, rfl, EnsureProxy_creates exampleEnv permissive quickstartGatewayMeta quickstartGateway
    Store.empty ⟨.serviceAccount, exampleEnv.systemNamespace, quickstartNodeID⟩ _ rfl rfl⟩

/-- **On success the proxy exists**: `EnsureProxy` returns the Gateway's node id, and the
ServiceAccount, ConfigMap, Deployment and Service of that name are in the system namespace. -/
theorem EnsureProxy_ok (s : Store) {id : String}
    (h : (EnsureProxy env rsp gwMeta gw s).1 = .ok id) :
    id = proxyName env.hash gwMeta.«namespace» gwMeta.name ∧
      ∀ kind, (EnsureProxy env rsp gwMeta gw s).2.has ⟨kind, env.systemNamespace, id⟩ := by
  simp only [EnsureProxy] at h ⊢
  split at h
  · next hok =>
    cases h
    exact ⟨rfl, ensureProxyObjects_ensures env rsp gwMeta _ (proxyName_ne_empty _ _ _) s hok⟩
  · cases h

theorem EnsureProxy_ok_quickstart :
    (EnsureProxy exampleEnv permissive quickstartGatewayMeta quickstartGateway Store.empty).1 =
      .ok quickstartNodeID ∧
    (quickstartNodeID = quickstartNodeID ∧
      ∀ kind, (EnsureProxy exampleEnv permissive quickstartGatewayMeta quickstartGateway
        Store.empty).2.has ⟨kind, exampleEnv.systemNamespace, quickstartNodeID⟩) :=
  ⟨rfl, EnsureProxy_ok exampleEnv permissive quickstartGatewayMeta quickstartGateway Store.empty
    rfl⟩

/-- **EnsureProxy is idempotent**: after a run that returned the node id, a second run, with the
API server responding as before, returns it again and changes nothing. -/
theorem EnsureProxy_rerun (s : Store) {id : String}
    (h : (EnsureProxy env rsp gwMeta gw s).1 = .ok id) :
    EnsureProxy env rsp gwMeta gw (EnsureProxy env rsp gwMeta gw s).2 =
      (.ok id, (EnsureProxy env rsp gwMeta gw s).2) := by
  simp only [EnsureProxy] at h ⊢
  split at h
  · next hok =>
    cases h
    rw [(ensureProxy_creates env rsp gwMeta gw).stable s _ hok le_rfl]
  · cases h

theorem EnsureProxy_rerun_quickstart :
    (EnsureProxy exampleEnv permissive quickstartGatewayMeta quickstartGateway Store.empty).1 =
      .ok quickstartNodeID ∧
    EnsureProxy exampleEnv permissive quickstartGatewayMeta quickstartGateway
        (EnsureProxy exampleEnv permissive quickstartGatewayMeta quickstartGateway Store.empty).2 =
      (.ok quickstartNodeID,
        (EnsureProxy exampleEnv permissive quickstartGatewayMeta quickstartGateway Store.empty).2) :=
  ⟨rfl, EnsureProxy_rerun exampleEnv permissive quickstartGatewayMeta quickstartGateway Store.empty
    rfl⟩

/-- An API server whose Deployments never become available: the poll's minute runs out. -/
def deploymentTimesOut : Responses :=
  ⟨fun _ _ => none,
    fun k => if k.kind = .deployment then .error (.context .deadlineExceeded) else .ok ()⟩

end EnsureProxy

/-! ## DeleteProxy -/

section DeleteProxy

variable (env : Env) (rsp : Responses) («namespace» name : String)

theorem DeleteProxy_moves : (DeleteProxy env rsp «namespace» name).Moves (· ≥ ·) :=
  (deleteObject_moves _ _).andThen <| (deleteObject_moves _ _).andThen <|
    (deleteObject_moves _ _).andThen (deleteObject_moves _ _)

theorem deleteObject_within_name (what : String) (kind : Kind) (ns nodeID : String) :
    (deleteObject rsp what ⟨kind, ns, nodeID⟩).Within
      fun k => k.«namespace» = ns ∧ k.name = nodeID :=
  (deleteObject_within _ _).mono (by rintro _ rfl; exact ⟨rfl, rfl⟩)

theorem DeleteProxy_within :
    (DeleteProxy env rsp «namespace» name).Within fun k =>
      k.«namespace» = env.systemNamespace ∧ k.name = proxyName env.hash «namespace» name :=
  (deleteObject_within_name rsp _ _ _ _).andThen <|
    (deleteObject_within_name rsp _ _ _ _).andThen <|
      (deleteObject_within_name rsp _ _ _ _).andThen (deleteObject_within_name rsp _ _ _ _)

/-- When `DeleteProxy` returns nil, nothing of the proxy is left. -/
theorem DeleteProxy_ensures :
    (DeleteProxy env rsp «namespace» name).Ensures fun s =>
      ∀ kind, s.objects ⟨kind, env.systemNamespace, proxyName env.hash «namespace» name⟩ = none
      := by
  have hdown : ∀ k (s t : Store), s ≥ t → s.objects k = none → t.objects k = none :=
    fun _ _ _ h hk => Store.objects_eq_none_of_le h hk
  intro s hs kind
  cases kind with
  | deployment =>
    exact Ensures.andThen_left (deleteObject_ensures _ _)
      ((deleteObject_moves _ _).andThen <| (deleteObject_moves _ _).andThen
        (deleteObject_moves _ _)) (hdown _) s hs
  | service =>
    exact (Ensures.andThen_right <| Ensures.andThen_left (deleteObject_ensures _ _)
      ((deleteObject_moves _ _).andThen (deleteObject_moves _ _)) (hdown _)) s hs
  | configMap =>
    exact (Ensures.andThen_right <| Ensures.andThen_right <| Ensures.andThen_left
      (deleteObject_ensures _ _) (deleteObject_moves _ _) (hdown _)) s hs
  | serviceAccount =>
    exact (Ensures.andThen_right <| Ensures.andThen_right <| Ensures.andThen_right <|
      deleteObject_ensures _ _) s hs

/-- `DeleteProxy` stops at the Deployment, leaving the store as it was, or removes it. -/
theorem DeleteProxy_deployment (s : Store) :
    (DeleteProxy env rsp «namespace» name s).2 = s ∨
      (DeleteProxy env rsp «namespace» name s).2.objects
        ⟨.deployment, env.systemNamespace, proxyName env.hash «namespace» name⟩ = none := by
  rcases deleteObject_cases rsp "deployment"
      ⟨.deployment, env.systemNamespace, proxyName env.hash «namespace» name⟩ s with
    ⟨-, h⟩ | ⟨_, -, h⟩
  · right
    simp only [DeleteProxy, andThen_of_ok h]
    exact Store.objects_eq_none_of_le
      (((deleteObject_moves _ _).andThen <| (deleteObject_moves _ _).andThen
        (deleteObject_moves _ _)) _) (by simp)
  · left
    simp only [DeleteProxy, andThen_of_error h]

/-- **DeleteProxy takes `NotFound` for success**: when the API server refuses no deletion it
returns nil on any store, a half-created proxy included, and then nothing of the proxy is left.
-/
theorem DeleteProxy_of_no_refusal (s : Store) (h : ∀ k, rsp.refuse .delete k = none) :
    (DeleteProxy env rsp «namespace» name s).1 = none ∧
      ∀ kind, (DeleteProxy env rsp «namespace» name s).2.objects
        ⟨kind, env.systemNamespace, proxyName env.hash «namespace» name⟩ = none := by
  have hok : (DeleteProxy env rsp «namespace» name s).1 = none := by
    simp only [DeleteProxy, andThen, deleteObject_of_no_refusal (h _)]
  exact ⟨hok, DeleteProxy_ensures env rsp «namespace» name s hok⟩

theorem DeleteProxy_of_no_refusal_quickstart :
    (∀ k, permissive.refuse .delete k = none) ∧
    (DeleteProxy exampleEnv permissive quickstartGatewayMeta.«namespace» quickstartGatewayMeta.name
        (EnsureProxy exampleEnv forbidServiceAccounts quickstartGatewayMeta quickstartGateway
          Store.empty).2).1 = none ∧
      ∀ kind, (DeleteProxy exampleEnv permissive quickstartGatewayMeta.«namespace»
        quickstartGatewayMeta.name (EnsureProxy exampleEnv forbidServiceAccounts
          quickstartGatewayMeta quickstartGateway Store.empty).2).2.objects
        ⟨kind, exampleEnv.systemNamespace, quickstartNodeID⟩ = none :=
  ⟨fun _ => rfl, DeleteProxy_of_no_refusal _ _ _ _ _ fun _ => rfl⟩

/-- **DeleteProxy undoes EnsureProxy**: from a store without the Gateway's proxy, `EnsureProxy`
followed by a `DeleteProxy` that returns nil gives the store back, whatever `EnsureProxy` managed
to create before it returned. -/
theorem DeleteProxy_EnsureProxy (rsp' : Responses) (gwMeta : ObjectMeta) (gw : Gateway)
    (s : Store)
    (habsent : ∀ kind, s.objects
      ⟨kind, env.systemNamespace, proxyName env.hash gwMeta.«namespace» gwMeta.name⟩ = none)
    (hdel : (DeleteProxy env rsp' gwMeta.«namespace» gwMeta.name
      (EnsureProxy env rsp gwMeta gw s).2).1 = none) :
    (DeleteProxy env rsp' gwMeta.«namespace» gwMeta.name (EnsureProxy env rsp gwMeta gw s).2).2 =
      s := by
  ext1
  funext ⟨kind, ns, n⟩
  by_cases hk : ns = env.systemNamespace ∧ n = proxyName env.hash gwMeta.«namespace» gwMeta.name
  · obtain ⟨rfl, rfl⟩ := hk
    rw [DeleteProxy_ensures env rsp' _ _ _ hdel, habsent]
  · rw [DeleteProxy_within env rsp' _ _ _ _ hk, EnsureProxy_snd,
      (ensureProxy_creates env rsp gwMeta gw).within s _ hk]

theorem DeleteProxy_EnsureProxy_quickstart :
    (∀ kind, Store.empty.objects ⟨kind, exampleEnv.systemNamespace, quickstartNodeID⟩ = none) ∧
    (DeleteProxy exampleEnv permissive quickstartGatewayMeta.«namespace» quickstartGatewayMeta.name
        (EnsureProxy exampleEnv permissive quickstartGatewayMeta quickstartGateway
          Store.empty).2).1 = none ∧
    (DeleteProxy exampleEnv permissive quickstartGatewayMeta.«namespace» quickstartGatewayMeta.name
        (EnsureProxy exampleEnv permissive quickstartGatewayMeta quickstartGateway
          Store.empty).2).2 = Store.empty :=
  ⟨fun _ => rfl, rfl, DeleteProxy_EnsureProxy _ _ _ _ _ _ (fun _ => rfl) rfl⟩

end DeleteProxy

/-! ## Runs: the references of the proxy Deployments resolve -/

section Runs

/-- Every ServiceAccount and ConfigMap that a Deployment of the namespace `ns` refers to exists.
-/
def RefsResolve (ns : String) (s : Store) : Prop :=
  ∀ name d, s.objects ⟨.deployment, ns, name⟩ = some (.deployment d) →
    s.has ⟨.serviceAccount, ns, d.spec.template.spec.serviceAccountName⟩ ∧
      ∀ v ∈ d.spec.template.spec.volumes, s.has ⟨.configMap, ns, v.configMap⟩

/-- The invariant behind `RefsResolve`: the namespace's Deployments are proxy Deployments, each
referring to the ServiceAccount and the ConfigMap of its own name, and those exist. -/
structure ProxyInv (ns : String) (s : Store) : Prop where
  own : ∀ name d, s.objects ⟨.deployment, ns, name⟩ = some (.deployment d) →
    d.spec.template.spec.serviceAccountName = name ∧
      ∀ v ∈ d.spec.template.spec.volumes, v.configMap = name
  resolve : ∀ name d, s.objects ⟨.deployment, ns, name⟩ = some (.deployment d) →
    s.has ⟨.serviceAccount, ns, name⟩ ∧ s.has ⟨.configMap, ns, name⟩

/-- A call on the proxy's objects, with how the API server responds while it runs. -/
inductive ProxyCall
  | ensure (rsp : Responses) (gwMeta : ObjectMeta) (gw : Gateway)
  | delete (rsp : Responses) («namespace» name : String)

/-- The objects after the call. -/
def ProxyCall.run (env : Env) : ProxyCall → Store → Store
  | .ensure rsp gwMeta gw, s => (EnsureProxy env rsp gwMeta gw s).2
  | .delete rsp «namespace» name, s => (DeleteProxy env rsp «namespace» name s).2

/-- The objects after the calls, in order. -/
def runProxyCalls (env : Env) (calls : List ProxyCall) (s : Store) : Store :=
  calls.foldl (fun s c => c.run env s) s

variable {ns : String} {s : Store}

theorem ProxyInv.refsResolve (h : ProxyInv ns s) : RefsResolve ns s := by
  intro name d hd
  obtain ⟨hsa, hcm⟩ := h.own name d hd
  have hres := h.resolve name d hd
  exact ⟨hsa ▸ hres.1, fun v hv => hcm v hv ▸ hres.2⟩

theorem ProxyInv.of_none (h : ∀ name, s.objects ⟨.deployment, ns, name⟩ = none) : ProxyInv ns s :=
  ⟨fun name d hd => by simp [h name] at hd, fun name d hd => by simp [h name] at hd⟩

variable (env : Env) (rsp : Responses) (gwMeta : ObjectMeta) (gw : Gateway)

/-- **A Deployment EnsureProxy creates comes after its ServiceAccount and ConfigMap**: it is the
proxy's, and the store it leaves has the ServiceAccount and the ConfigMap of its name. -/
theorem EnsureProxy_new_deployment (name : String) (d : Deployment)
    (hs : s.objects ⟨.deployment, env.systemNamespace, name⟩ = none)
    (hd : (EnsureProxy env rsp gwMeta gw s).2.objects ⟨.deployment, env.systemNamespace, name⟩ =
      some (.deployment d)) :
    d = proxyDeployment env.systemNamespace "" name ∧
      (EnsureProxy env rsp gwMeta gw s).2.has ⟨.serviceAccount, env.systemNamespace, name⟩ ∧
      (EnsureProxy env rsp gwMeta gw s).2.has ⟨.configMap, env.systemNamespace, name⟩ := by
  have hc := ensureProxy_creates env rsp gwMeta gw
  set r : ResourceRender := ⟨gw, proxyName env.hash gwMeta.«namespace» gwMeta.name⟩
  rw [EnsureProxy_snd] at hd ⊢
  obtain rfl : name = r.nodeID := by
    by_contra hne
    rw [hc.within s _ fun h => hne h.2, hs] at hd
    cases hd
  refine ⟨by rcases hc.createsOnly s _ _ hs hd with h | ⟨_, -, h⟩ | h | h <;> cases h; rfl, ?_⟩
  -- the ServiceAccount and ConfigMap steps touch only their own keys, so they returned nil
  obtain ⟨cm, -, hkey, hcmEq⟩ := ensureConfigMap_eq env rsp gwMeta r (proxyName_ne_empty _ _ _)
  have hrest := Creates.andThen (ensureDeployment_creates env rsp gwMeta r)
    (ensureService_creates env rsp gwMeta r)
  have hsa : (ensureSA env rsp r).Within (· = ⟨.serviceAccount, env.systemNamespace, r.nodeID⟩) :=
    ensureObject_within _ (.serviceAccount (r.serviceAccount env.systemNamespace))
  have hcm : (ensureConfigMap env rsp gwMeta r).Within
      (· = ⟨.configMap, env.systemNamespace, r.nodeID⟩) := by
    rw [hcmEq, ← hkey]
    exact ensureObject_within _ _
  unfold ensureProxyObjects at hd ⊢
  rcases andThen_cases (ensureSA env rsp r) _ s with ⟨-, h1⟩ | ⟨he1, h1⟩ <;> rw [h1] at hd ⊢
  · rw [hsa s _ (by simp), hs] at hd
    cases hd
  rcases andThen_cases (ensureConfigMap env rsp gwMeta r) _ _ with ⟨-, h2⟩ | ⟨he2, h2⟩ <;>
    rw [h2] at hd ⊢
  · rw [hcm _ _ (by simp), hsa s _ (by simp), hs] at hd
    cases hd
  have hsa' := ensureObject_ensures _ _ s he1
  rw [hcmEq] at he2 ⊢
  have hcm' := ensureObject_ensures _ _ _ he2
  rw [hkey] at hcm'
  exact ⟨Store.has_of_le (hrest.moves _) (Store.has_of_le (ensureObject_moves _ _ _) hsa'),
    Store.has_of_le (hrest.moves _) hcm'⟩

theorem EnsureProxy_inv (hs : ProxyInv env.systemNamespace s) :
    ProxyInv env.systemNamespace (EnsureProxy env rsp gwMeta gw s).2 := by
  have hle : s ≤ (EnsureProxy env rsp gwMeta gw s).2 :=
    (ensureProxy_creates env rsp gwMeta gw).moves s
  -- a Deployment of the result is new, or was there before
  have hold : ∀ name d, (EnsureProxy env rsp gwMeta gw s).2.objects
      ⟨.deployment, env.systemNamespace, name⟩ = some (.deployment d) →
      s.objects ⟨.deployment, env.systemNamespace, name⟩ = none ∨
        s.objects ⟨.deployment, env.systemNamespace, name⟩ = some (.deployment d) := by
    intro name d hd
    cases hn : s.objects ⟨.deployment, env.systemNamespace, name⟩ with
    | none => exact .inl rfl
    | some o => exact .inr ((hle _ _ hn).symm.trans hd)
  refine ⟨fun name d hd => ?_, fun name d hd => ?_⟩ <;> rcases hold name d hd with hn | hn
  · obtain ⟨rfl, -⟩ := EnsureProxy_new_deployment env rsp gwMeta gw name d hn hd
    simp [proxyDeployment]
  · exact hs.own name d hn
  · exact (EnsureProxy_new_deployment env rsp gwMeta gw name d hn hd).2
  · exact ⟨Store.has_of_le hle (hs.resolve name d hn).1,
      Store.has_of_le hle (hs.resolve name d hn).2⟩

theorem DeleteProxy_inv («namespace» name : String) (hs : ProxyInv env.systemNamespace s) :
    ProxyInv env.systemNamespace (DeleteProxy env rsp «namespace» name s).2 := by
  have hle : (DeleteProxy env rsp «namespace» name s).2 ≤ s := DeleteProxy_moves env rsp _ _ s
  refine ⟨fun name' d hd => hs.own name' d (hle _ _ hd), fun name' d hd => ?_⟩
  have hres := hs.resolve name' d (hle _ _ hd)
  rcases DeleteProxy_deployment env rsp «namespace» name s with h | h
  · rwa [h]
  · have hne : name' ≠ proxyName env.hash «namespace» name := by
      rintro rfl
      rw [h] at hd
      cases hd
    simp only [Store.has]
    rw [DeleteProxy_within env rsp _ _ s _ fun h => hne h.2,
      DeleteProxy_within env rsp _ _ s _ fun h => hne h.2]
    exact hres

theorem ProxyCall.run_inv (c : ProxyCall) (hs : ProxyInv env.systemNamespace s) :
    ProxyInv env.systemNamespace (c.run env s) := by
  cases c with
  | ensure rsp gwMeta gw => exact EnsureProxy_inv env rsp gwMeta gw hs
  | delete rsp n name => exact DeleteProxy_inv env rsp n name hs

theorem runProxyCalls_inv (calls : List ProxyCall) (hs : ProxyInv env.systemNamespace s) :
    ProxyInv env.systemNamespace (runProxyCalls env calls s) := by
  induction calls generalizing s with
  | nil => exact hs
  | cons c cs ih => exact ih (c.run_inv env hs)

/-- **The proxy Deployments' references resolve, over any run.**  From a store with no
Deployment in the system namespace, after any sequence of `EnsureProxy` and `DeleteProxy` calls,
for any Gateways and whatever the API server refuses or however polling ends, every
ServiceAccount and ConfigMap a Deployment of the system namespace refers to exists. -/
theorem runProxyCalls_refs_resolve (calls : List ProxyCall) (s : Store)
    (h : ∀ name, s.objects ⟨.deployment, env.systemNamespace, name⟩ = none) :
    RefsResolve env.systemNamespace (runProxyCalls env calls s) :=
  (runProxyCalls_inv env calls (ProxyInv.of_none h)).refsResolve

theorem runProxyCalls_refs_resolve_quickstart :
    (∀ name, Store.empty.objects ⟨.deployment, exampleEnv.systemNamespace, name⟩ = none) ∧
    RefsResolve exampleEnv.systemNamespace (runProxyCalls exampleEnv
      [.ensure permissive quickstartGatewayMeta quickstartGateway,
        .delete forbidServiceAccounts quickstartGatewayMeta.«namespace» quickstartGatewayMeta.name,
        .ensure forbidServiceAccounts quickstartGatewayMeta quickstartGateway] Store.empty) :=
  ⟨fun _ => rfl, runProxyCalls_refs_resolve _ _ _ fun _ => rfl⟩

/-- The proxy name whose objects a call deletes, if it is a `DeleteProxy`. -/
def ProxyCall.deletes (env : Env) : ProxyCall → Option String
  | .ensure _ _ _ => none
  | .delete _ «namespace» name => some (proxyName env.hash «namespace» name)

/-- **Only a DeleteProxy of its name removes a proxy's object**: over any run none of whose
`DeleteProxy` calls is for the name of the key `k`, the object under `k` stays as it is, for any
Gateways and whatever the API server refuses. -/
theorem runProxyCalls_keeps (calls : List ProxyCall) (s : Store) (k : ObjectKey) (o : Object)
    (ho : s.objects k = some o) (hcalls : ∀ c ∈ calls, c.deletes env ≠ some k.name) :
    (runProxyCalls env calls s).objects k = some o := by
  induction calls generalizing s with
  | nil => exact ho
  | cons c calls ih =>
    refine ih (c.run env s) ?_ fun c' hc' => hcalls c' (List.mem_cons_of_mem _ hc')
    cases c with
    | ensure rsp gwMeta gw => exact (ensureProxy_creates env rsp gwMeta gw).moves s k o ho
    | delete rsp «namespace» name =>
      have hne : k.name ≠ proxyName env.hash «namespace» name := fun h =>
        hcalls _ (List.mem_cons_self _ _) (by simp [ProxyCall.deletes, h])
      exact (DeleteProxy_within env rsp _ _ s k fun h => hne h.2).trans ho

/-- An environment whose hash tells the quickstart Gateway from `default/other-gateway`. -/
def hashedEnv : Env :=
  ⟨"agentic-net-system", "agentic-net-xds",
    fun nn => if nn = "default/agentic-net-gateway" then "5c1d0e9a7f32" else "0b9e4c27aa51"⟩

/-- Deleting another Gateway's proxy keeps the quickstart proxy's ServiceAccount. -/
theorem runProxyCalls_keeps_other_delete :
    (EnsureProxy hashedEnv permissive quickstartGatewayMeta quickstartGateway Store.empty).2.objects
        ⟨.serviceAccount, hashedEnv.systemNamespace, quickstartNodeID⟩ =
      some (.serviceAccount (proxyServiceAccount hashedEnv.systemNamespace quickstartNodeID)) ∧
    (∀ c ∈ [ProxyCall.delete permissive "default" "other-gateway"],
      c.deletes hashedEnv ≠ some quickstartNodeID) ∧
    (runProxyCalls hashedEnv [.delete permissive "default" "other-gateway"]
        (EnsureProxy hashedEnv permissive quickstartGatewayMeta quickstartGateway
          Store.empty).2).objects ⟨.serviceAccount, hashedEnv.systemNamespace, quickstartNodeID⟩ =
      some (.serviceAccount (proxyServiceAccount hashedEnv.systemNamespace quickstartNodeID)) :=
  have ho : (EnsureProxy hashedEnv permissive quickstartGatewayMeta quickstartGateway
      Store.empty).2.objects ⟨.serviceAccount, hashedEnv.systemNamespace, quickstartNodeID⟩ =
      some (.serviceAccount (proxyServiceAccount hashedEnv.systemNamespace quickstartNodeID)) :=
    rfl
  have hcalls : ∀ c ∈ [ProxyCall.delete permissive "default" "other-gateway"],
      c.deletes hashedEnv ≠ some quickstartNodeID := by decide
  ⟨ho, hcalls, runProxyCalls_keeps hashedEnv _ _ _ _ ho hcalls⟩

end Runs

end Infra

end AgenticNetworking
