import Mathlib.Data.Nat.Notation

/-!
# The declarative inputs

The resources the translator reads, with the fields its code reads and nothing else:

* `Backend` (`agentic/v1alpha1`): identity `(namespace, name)` and an MCP endpoint that is an
  in-cluster service (`serviceName`) or an external `hostname`, on a `port`.
* `AuthPolicy`, `AuthRule`, `Source` (`src/unnamed/part_004`): a target reference, an ordered
  rule list and an action.  `AuthPolicyAction` is a Go string type, so any string can arrive;
  only `"ALLOW"` is named.
* `BackendRef` and `ReferenceGrant` (Gateway API): what an HTTPRoute points at, and the grants
  that permit a cross-namespace reference.
* `Gateway` and its `Listener`s (Gateway API): what the proxy's Service is rendered from.

The Backend and Gateway API types are not under `src/`; they are the fields the code under
`src/` reads, with the types it reads them at.
-/

namespace AgenticNetworking

/-! ## Backend -/

/-- `Backend.Spec.MCP`.  The port is read through `uint32(...)`. -/
structure MCPBackend where
  serviceName : String
  hostname : String
  port : ℕ
  deriving Repr, DecidableEq

/-- `BackendSpec`. -/
structure BackendSpec where
  mcp : MCPBackend
  deriving Repr, DecidableEq

/-- `agentic/v1alpha1.Backend`: its object metadata and spec. -/
structure Backend where
  «namespace» : String
  name : String
  spec : BackendSpec
  deriving Repr, DecidableEq

/-! ## AuthPolicy -/

/-- `Source`: identities and service accounts, OR-ed together. -/
structure Source where
  identities : List String
  serviceAccounts : List String
  deriving Repr, DecidableEq

/-- `AuthRule`: requests from `source` may call the listed `tools`. -/
structure AuthRule where
  source : Source
  tools : List String
  deriving Repr, DecidableEq

/-- `gwapiv1.LocalPolicyTargetReference`. -/
structure LocalPolicyTargetReference where
  group : String
  kind : String
  name : String
  deriving Repr, DecidableEq

/-- `AuthPolicyAction` is `type AuthPolicyAction string`. -/
abbrev AuthPolicyAction := String

/-- `ActionAllow`. -/
def ActionAllow : AuthPolicyAction := "ALLOW"

/-- `AuthPolicySpec`. -/
structure AuthPolicySpec where
  targetRef : LocalPolicyTargetReference
  rules : List AuthRule
  action : AuthPolicyAction
  deriving Repr, DecidableEq

/-- `AuthPolicy`: the translator reads only its spec. -/
structure AuthPolicy where
  spec : AuthPolicySpec
  deriving Repr, DecidableEq

/-! ## Gateway API references -/

/-- `gatewayv1.BackendRef`, with the fields `fetchBackend` reads: an optional kind and
namespace, and a name. -/
structure BackendRef where
  kind : Option String
  «namespace» : Option String
  name : String
  deriving Repr, DecidableEq

/-- `gatewayv1beta1.ReferenceGrantFrom`. -/
structure ReferenceGrantFrom where
  group : String
  kind : String
  «namespace» : String
  deriving Repr, DecidableEq

/-- `gatewayv1beta1.ReferenceGrantTo`: an unset name grants every object of the kind. -/
structure ReferenceGrantTo where
  group : String
  kind : String
  name : Option String
  deriving Repr, DecidableEq

/-- `gatewayv1beta1.ReferenceGrant`: its spec's `From` and `To` lists.  Which namespace it lives
in is the lister's key. -/
structure ReferenceGrant where
  «from» : List ReferenceGrantFrom
  «to» : List ReferenceGrantTo
  deriving Repr, DecidableEq

/-! ## Gateways -/

/-- `gatewayv1.Listener`: its name, optional hostname, port and protocol. -/
structure Listener where
  name : String
  hostname : Option String
  port : ℕ
  protocol : String
  deriving Repr, DecidableEq

/-- `gatewayv1.GatewaySpec`, of which the renderers read the listeners. -/
structure GatewaySpec where
  listeners : List Listener
  deriving Repr, DecidableEq

/-- `gatewayv1.Gateway`. -/
structure Gateway where
  spec : GatewaySpec
  deriving Repr, DecidableEq

end AgenticNetworking
