import Mathlib.Data.List.Nodup
import AgenticNetworking.Api.Types

/-!
# The proxy's Service

`ResourceManager.renderService` (`render.go`) and its twin `resourceRender.service`
(`resources.go`) have the same body: the Kubernetes Service in front of the Envoy proxy, with one
`TCP` port per Gateway listener, named after the listener and on the listener's port.  Both are
`proxyService` applied to their receiver's Gateway and node id.

Kubernetes admits a Service only if its port names are distinct and no two of its ports share a
`(port, protocol)` pair (`Service.portsUnique`).

* **Names.**  The port names are the listener names, which the Gateway API keeps distinct.
* **Ports.**  Every port is `TCP`, so the pairs are distinct exactly when the listener ports are
  (`portsUnique_proxyService_iff`).  The Gateway API lets two listeners share a port when their
  hostnames differ, and such a Gateway renders a Service with a duplicate port
  (`renderService_duplicate_port`).
-/

namespace AgenticNetworking

/-! ## Gateways the Gateway API admits -/

/-- The Gateway API's rules on listeners: distinct names, and no two listeners with the same
hostname, port and protocol. -/
def Gateway.listenersValid (gw : Gateway) : Prop :=
  (gw.spec.listeners.map Listener.name).Nodup ∧
    (gw.spec.listeners.map fun l => (l.hostname, l.port, l.protocol)).Nodup

instance (gw : Gateway) : Decidable gw.listenersValid :=
  inferInstanceAs (Decidable (_ ∧ _))

namespace Infra

/-! ## Services -/

/-- `corev1.ProtocolTCP`. -/
def ProtocolTCP : String := "TCP"

/-- `corev1.ServiceTypeClusterIP`. -/
def ServiceTypeClusterIP : String := "ClusterIP"

/-- `corev1.ServicePort`, with the fields the renderers set. -/
structure ServicePort where
  name : String
  port : ℕ
  protocol : String
  deriving Repr, DecidableEq

/-- `metav1.ObjectMeta`, with the fields the renderers set. -/
structure ObjectMeta where
  name : String
  «namespace» : String
  deriving Repr, DecidableEq

/-- `corev1.ServiceSpec`, with the fields the renderers set. -/
structure ServiceSpec where
  type : String
  selector : List (String × String)
  ports : List ServicePort
  deriving Repr, DecidableEq

/-- `corev1.Service`. -/
structure Service where
  metadata : ObjectMeta
  spec : ServiceSpec
  deriving Repr, DecidableEq

/-- What Kubernetes' Service validation asks of the ports: distinct names, and no two ports with
the same `(port, protocol)`. -/
def Service.portsUnique (svc : Service) : Prop :=
  (svc.spec.ports.map ServicePort.name).Nodup ∧
    (svc.spec.ports.map fun p => (p.port, p.protocol)).Nodup

instance (svc : Service) : Decidable svc.portsUnique :=
  inferInstanceAs (Decidable (_ ∧ _))

/-! ## The renderers -/

/-- **The Service both renderers build**: named after the proxy's node id, in the system
namespace, selecting the proxy's pods, with one `TCP` port per listener in listener order.
`systemNamespace` is `constants.AgenticNetSystemNamespace`, whose value is not under `src/`. -/
def proxyService (systemNamespace nodeID : String) (gw : Gateway) : Service :=
  ⟨⟨nodeID, systemNamespace⟩,
    ⟨ServiceTypeClusterIP, [("app", nodeID)],
      gw.spec.listeners.map fun listener => ⟨listener.name, listener.port, ProtocolTCP⟩⟩⟩

/-- The fields of `ResourceManager` that `renderService` reads. -/
structure ResourceManager where
  gw : Gateway
  nodeID : String

/-- `ResourceManager.renderService()`. -/
def ResourceManager.renderService (systemNamespace : String) (r : ResourceManager) : Service :=
  proxyService systemNamespace r.nodeID r.gw

/-- The fields of `resourceRender` that `service` reads. -/
structure ResourceRender where
  gw : Gateway
  nodeID : String

/-- `resourceRender.service()`. -/
def ResourceRender.service (systemNamespace : String) (r : ResourceRender) : Service :=
  proxyService systemNamespace r.nodeID r.gw

/-! ## When the ports are unique -/

theorem proxyService_port_names (systemNamespace nodeID : String) (gw : Gateway) :
    (proxyService systemNamespace nodeID gw).spec.ports.map ServicePort.name =
      gw.spec.listeners.map Listener.name := by
  rw [proxyService, List.map_map]
  rfl

theorem proxyService_port_keys (systemNamespace nodeID : String) (gw : Gateway) :
    ((proxyService systemNamespace nodeID gw).spec.ports.map fun p => (p.port, p.protocol)) =
      (gw.spec.listeners.map Listener.port).map fun port => (port, ProtocolTCP) := by
  rw [proxyService, List.map_map, List.map_map]
  rfl

/-- **The rendered ports are unique exactly when the listeners' names and ports are.** -/
theorem portsUnique_proxyService_iff (systemNamespace nodeID : String) (gw : Gateway) :
    (proxyService systemNamespace nodeID gw).portsUnique ↔
      (gw.spec.listeners.map Listener.name).Nodup ∧ (gw.spec.listeners.map Listener.port).Nodup := by
  rw [Service.portsUnique, proxyService_port_names, proxyService_port_keys,
    List.nodup_map_iff (Prod.mk.inj_right ProtocolTCP)]

/-- On a Gateway the Gateway API admits, only the ports can clash. -/
theorem portsUnique_proxyService_iff_of_valid (systemNamespace nodeID : String) {gw : Gateway}
    (hgw : gw.listenersValid) :
    (proxyService systemNamespace nodeID gw).portsUnique ↔
      (gw.spec.listeners.map Listener.port).Nodup := by
  rw [portsUnique_proxyService_iff]
  exact and_iff_right hgw.1

/-! ## Two hostnames on one port -/

/-- A Gateway with two HTTP listeners on port 80, for two hostnames. -/
def twoHostGateway : Gateway :=
  ⟨⟨[⟨"a", some "a.example.com", 80, "HTTP"⟩, ⟨"b", some "b.example.com", 80, "HTTP"⟩]⟩⟩

/-- **A valid Gateway, a Service Kubernetes rejects.**  Both renderers give the two listeners of
`twoHostGateway` the port `80/TCP`. -/
theorem renderService_duplicate_port :
    twoHostGateway.listenersValid ∧
      (ResourceManager.renderService "agentic-net" ⟨twoHostGateway, "gw-proxy"⟩).spec.ports.map
          (fun p => (p.port, p.protocol)) = [(80, "TCP"), (80, "TCP")] ∧
      ¬(ResourceManager.renderService "agentic-net" ⟨twoHostGateway, "gw-proxy"⟩).portsUnique ∧
      ¬(ResourceRender.service "agentic-net" ⟨twoHostGateway, "gw-proxy"⟩).portsUnique := by
  have hvalid : twoHostGateway.listenersValid := by decide
  -- the Gateway is valid, so only the listeners' ports can clash, and they do
  have hclash : ¬(proxyService "agentic-net" "gw-proxy" twoHostGateway).portsUnique := by
    rw [portsUnique_proxyService_iff_of_valid _ _ hvalid]
    decide
  exact ⟨hvalid, (proxyService_port_keys _ _ _).trans rfl, hclash, hclash⟩

end Infra

end AgenticNetworking
