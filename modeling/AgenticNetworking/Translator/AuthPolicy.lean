import AgenticNetworking.Envoy.Rbac
import AgenticNetworking.Api.Types
import AgenticNetworking.Translator.Constants

/-!
# The RBAC policy compiler (`translator/authPolicy.go`)

`rbacConfigFromAuthPolicy` turns the AuthPolicy that targets a Backend into the RBAC filter
configuration for it: one policy per rule, named `<namespace>-<name>-rule-<i>`, and two baked-in
policies that keep the MCP handshake, tool listing and session close reachable.

The definitions below follow the Go code statement by statement; the loop body of
`translateAuthPolicyToRBAC` is split into `principalIDs`, `permissions` and `authRulePolicy`,
one per Go variable it assigns.

The second half describes the map the compiler returns, once and for all, so that the results
about authorization (`Translator/Enforcement.lean`) never unfold the compiler again:

* **`lookup_translateAuthPolicyToRBAC`** — rule `i`'s name maps to rule `i`'s policy: a later
  rule never overwrites an earlier one, because the name is injective in the index.
* **`lookup_translateAuthPolicyToRBAC_eq_some`** — every entry is some rule's policy.
* **`rbacConfigFromAuthPolicy_of_ok`** — with a successful listing, the result is an `ALLOW`
  configuration whose map is the rule map plus the two baked-in policies, which no rule name
  can collide with.
-/

namespace AgenticNetworking.Translator

open Envoy

/-! ## Constants -/

/-- `allowMCPSessionClosePolicyName`. -/
def allowMCPSessionClosePolicyName : String := "allow-mcp-session-close"

/-- `allowAnyoneToInitializeAndListToolsPolicyName`. -/
def allowAnyoneToInitializeAndListToolsPolicyName : String :=
  "allow-anyone-to-initialize-and-list-tools"

/-- `initializeMethod`. -/
def initializeMethod : String := "initialize"

/-- `initializedMethod`. -/
def initializedMethod : String := "notifications/initialized"

/-- `toolsListMethod`. -/
def toolsListMethod : String := "tools/list"

/-- `mcpSessionIDHeader`. -/
def mcpSessionIDHeader : String := "mcp-session-id"

/-- `toolsCallMethod`. -/
def toolsCallMethod : String := "tools/call"

/-- `mcpProxyFilterName`. -/
def mcpProxyFilterName : String := "mcp_proxy"

/-! ## Finding the policy -/

/-- `authPolicyLister.AuthPolicies(ns).List(labels.Everything())`: the AuthPolicies of a
namespace in the lister's order, or the lister's error. -/
abbrev AuthPolicyLister := String → Except String (List AuthPolicy)

/-- The test in `findAuthPolicyForBackend`'s loop. -/
def targetsBackend (backend : Backend) (authPolicy : AuthPolicy) : Bool :=
  authPolicy.spec.targetRef.kind == "Backend" && authPolicy.spec.targetRef.name == backend.name

/-- `findAuthPolicyForBackend`: the first listed AuthPolicy that targets the backend. -/
def findAuthPolicyForBackend (backend : Backend) (authPolicyLister : AuthPolicyLister) :
    Except String (Option AuthPolicy) :=
  match authPolicyLister backend.namespace with
  | .error err =>
      .error ("failed to list AuthPolicies in namespace " ++ backend.namespace ++ ": " ++ err)
  | .ok allAuthPolicies => .ok (allAuthPolicies.find? (targetsBackend backend))

/-- `rbacActionFromAuthPolicy`: every branch answers `ALLOW`. -/
def rbacActionFromAuthPolicy (authPolicy : Option AuthPolicy) : Action :=
  match authPolicy with
  | none => .ALLOW
  | some p => if p.spec.action = ActionAllow then .ALLOW else .ALLOW

/-! ## Compiling one rule -/

/-- The `x-user-role` exact match built for one source. -/
def sourcePrincipal (source : String) : Principal :=
  .header ⟨"x-user-role", .stringMatch (.exact source)⟩

/-- `principalIDs`: one `orIds` over every identity and service account, or nothing when the
rule names none. -/
def principalIDs (rule : AuthRule) : List Principal :=
  let allSources := rule.source.identities ++ rule.source.serviceAccounts
  if allSources.length > 0 then [.orIds (allSources.map sourcePrincipal)] else []

theorem principalIDs_of_nil {rule : AuthRule}
    (h : rule.source.identities ++ rule.source.serviceAccounts = []) : principalIDs rule = [] := by
  simp [principalIDs, h]

theorem principalIDs_of_ne_nil {rule : AuthRule}
    (h : rule.source.identities ++ rule.source.serviceAccounts ≠ []) :
    principalIDs rule =
      [.orIds ((rule.source.identities ++ rule.source.serviceAccounts).map sourcePrincipal)] := by
  simp only [principalIDs, List.length_pos.mpr h, if_true]

/-- The exact match built for one tool. -/
def toolValueMatcher (tool : String) : ValueMatcher := .stringMatch (.exact tool)

/-- `toolsMatcher`: the single matcher for one tool, an `OrMatcher` otherwise. -/
def toolsMatcher (toolValueMatchers : List ValueMatcher) : ValueMatcher :=
  match toolValueMatchers with
  | [m] => m
  | ms => .orMatch ms

/-- The `andRules` permission: the call is `tools/call` and names one of the tools. -/
def toolsCallPermission (tools : List String) : Permission :=
  .andRules
    [.sourcedMetadata ⟨mcpProxyFilterName, ["method"], .stringMatch (.exact toolsCallMethod)⟩,
     .sourcedMetadata ⟨mcpProxyFilterName, ["params", "name"],
       toolsMatcher (tools.map toolValueMatcher)⟩]

/-- `permissions`: empty when the rule lists no tools. -/
def permissions (rule : AuthRule) : List Permission :=
  if rule.tools.length > 0 then [toolsCallPermission rule.tools] else []

theorem permissions_of_nil {rule : AuthRule} (h : rule.tools = []) : permissions rule = [] := by
  simp [permissions, h]

theorem permissions_of_ne_nil {rule : AuthRule} (h : rule.tools ≠ []) :
    permissions rule = [toolsCallPermission rule.tools] := by
  simp only [permissions, List.length_pos.mpr h, if_true]

/-- The policy the loop stores for one rule. -/
def authRulePolicy (rule : AuthRule) : Policy :=
  { principals := principalIDs rule, permissions := permissions rule }

/-- `translateAuthPolicyToRBAC`: `policies[policyName] = ...` for each rule, in order. -/
def translateAuthPolicyToRBAC (authPolicy : AuthPolicy) (backend : Backend) : PolicyMap :=
  authPolicy.spec.rules.enum.foldl
    (fun policies ir =>
      policies.insert (rbacPolicyNameFormat backend.namespace backend.name ir.1)
        (authRulePolicy ir.2))
    ∅

/-! ## The baked-in policies -/

/-- `buildAllowMCPSessionClosePolicy`: a `DELETE` carrying an `mcp-session-id` header. -/
def buildAllowMCPSessionClosePolicy : Policy where
  principals :=
    [.andIds [.header ⟨":method", .stringMatch (.exact "DELETE")⟩,
              .header ⟨mcpSessionIDHeader, .presentMatch true⟩]]
  permissions := [.any]

/-- `buildAllowAnyoneToInitializeAndListToolsPolicy`: the handshake and tool listing methods,
and every `GET`. -/
def buildAllowAnyoneToInitializeAndListToolsPolicy : Policy where
  principals := [.any]
  permissions :=
    [.orRules
      [.sourcedMetadata ⟨mcpProxyFilterName, ["method"],
        .orMatch [.stringMatch (.exact initializeMethod), .stringMatch (.exact initializedMethod),
                  .stringMatch (.exact toolsListMethod)]⟩,
       .header ⟨":method", .stringMatch (.exact "GET")⟩]]

/-! ## The configuration -/

/-- `rbacConfigFromAuthPolicy`. -/
def rbacConfigFromAuthPolicy (authPolicyLister : AuthPolicyLister) (backend : Backend) :
    Except String HttpRBAC := do
  let authPolicy ← findAuthPolicyForBackend backend authPolicyLister
  let rbacPolicies : PolicyMap :=
    match authPolicy with
    | some p => translateAuthPolicyToRBAC p backend
    | none => ∅
  let action := rbacActionFromAuthPolicy authPolicy
  let rbacPolicies :=
    if action = .ALLOW then
      (rbacPolicies.insert allowMCPSessionClosePolicyName buildAllowMCPSessionClosePolicy).insert
        allowAnyoneToInitializeAndListToolsPolicyName buildAllowAnyoneToInitializeAndListToolsPolicy
    else rbacPolicies
  return { rules := { action := action, policies := rbacPolicies } }

/-! ## Filling a Go map in a loop -/

section GoMap

variable {β : Type}

/-- Assigning `m[k] = v` for each entry, in order. -/
def insertAll (m : Finmap fun _ : String => β) (kvs : List (String × β)) :
    Finmap fun _ : String => β :=
  kvs.foldl (fun m kv => m.insert kv.1 kv.2) m

theorem lookup_insertAll_of_not_mem {k : String} :
    ∀ (m : Finmap fun _ : String => β) (kvs : List (String × β)), k ∉ kvs.map Prod.fst →
      (insertAll m kvs).lookup k = m.lookup k
  | _, [], _ => rfl
  | m, kv :: kvs, h => by
      simp only [List.map_cons, List.mem_cons, not_or] at h
      rw [insertAll, List.foldl_cons, ← insertAll, lookup_insertAll_of_not_mem _ kvs h.2,
        Finmap.lookup_insert_of_ne _ h.1]

theorem lookup_insertAll_of_mem {k : String} {v : β} :
    ∀ (m : Finmap fun _ : String => β) (kvs : List (String × β)), (kvs.map Prod.fst).Nodup →
      (k, v) ∈ kvs → (insertAll m kvs).lookup k = some v
  | _, [], _, h => absurd h (List.not_mem_nil _)
  | m, kv :: kvs, hnd, h => by
      rw [List.map_cons, List.nodup_cons] at hnd
      rw [insertAll, List.foldl_cons, ← insertAll]
      rcases List.mem_cons.mp h with rfl | h
      · rw [lookup_insertAll_of_not_mem _ kvs hnd.1, Finmap.lookup_insert]
      · exact lookup_insertAll_of_mem _ kvs hnd.2 h

theorem lookup_insertAll_eq_some {k : String} {v : β} :
    ∀ (m : Finmap fun _ : String => β) (kvs : List (String × β)),
      (insertAll m kvs).lookup k = some v → (k, v) ∈ kvs ∨ m.lookup k = some v
  | _, [], h => .inr h
  | m, kv :: kvs, h => by
      rw [insertAll, List.foldl_cons, ← insertAll] at h
      rcases lookup_insertAll_eq_some _ kvs h with h | h
      · exact .inl (List.mem_cons_of_mem _ h)
      · by_cases hk : k = kv.1
        · subst hk
          rw [Finmap.lookup_insert, Option.some.injEq] at h
          exact .inl (h ▸ List.mem_cons_self _ _)
        · rw [Finmap.lookup_insert_of_ne _ hk] at h
          exact .inr h

theorem mem_insertAll {k : String} :
    ∀ (m : Finmap fun _ : String => β) (kvs : List (String × β)),
      k ∈ insertAll m kvs ↔ k ∈ kvs.map Prod.fst ∨ k ∈ m
  | _, [] => by simp [insertAll]
  | m, kv :: kvs => by
      rw [insertAll, List.foldl_cons, ← insertAll, mem_insertAll, Finmap.mem_insert]
      simp only [List.map_cons, List.mem_cons]
      tauto

end GoMap

/-! ## The rule map -/

/-- The entries the loop of `translateAuthPolicyToRBAC` assigns, in order. -/
def ruleEntries (backend : Backend) (rules : List AuthRule) : List (String × Policy) :=
  rules.enum.map fun ir => (rbacPolicyNameFormat backend.namespace backend.name ir.1,
    authRulePolicy ir.2)

theorem translateAuthPolicyToRBAC_eq (p : AuthPolicy) (backend : Backend) :
    translateAuthPolicyToRBAC p backend = insertAll ∅ (ruleEntries backend p.spec.rules) := by
  rw [translateAuthPolicyToRBAC, insertAll, ruleEntries, List.foldl_map]

theorem ruleEntries_keys (backend : Backend) (rules : List AuthRule) :
    (ruleEntries backend rules).map Prod.fst =
      (List.range rules.length).map (rbacPolicyNameFormat backend.namespace backend.name) := by
  rw [ruleEntries, List.map_map, ← List.enum_map_fst, List.map_map]
  rfl

theorem ruleEntries_keys_nodup (backend : Backend) (rules : List AuthRule) :
    ((ruleEntries backend rules).map Prod.fst).Nodup := by
  rw [ruleEntries_keys]
  exact (List.nodup_range _).map fun _ _ => rbacPolicyNameFormat_index_inj

theorem mem_ruleEntries {backend : Backend} {rules : List AuthRule} {k : String} {v : Policy} :
    (k, v) ∈ ruleEntries backend rules ↔
      ∃ i, ∃ hi : i < rules.length,
        k = rbacPolicyNameFormat backend.namespace backend.name i ∧ v = authRulePolicy rules[i] := by
  simp only [ruleEntries, List.mem_map, List.mem_enum_iff_getElem?, Prod.mk.injEq,
    List.getElem?_eq_some_iff, Prod.exists]
  constructor
  · rintro ⟨i, r, ⟨hi, hr⟩, rfl, rfl⟩
    exact ⟨i, hi, rfl, by rw [hr]⟩
  · rintro ⟨i, hi, rfl, rfl⟩
    exact ⟨i, _, ⟨hi, rfl⟩, rfl, rfl⟩

/-- **Rule `i`'s name maps to rule `i`'s policy.** -/
theorem lookup_translateAuthPolicyToRBAC (p : AuthPolicy) (backend : Backend) (i : ℕ)
    (hi : i < p.spec.rules.length) :
    (translateAuthPolicyToRBAC p backend).lookup
        (rbacPolicyNameFormat backend.namespace backend.name i) =
      some (authRulePolicy p.spec.rules[i]) := by
  rw [translateAuthPolicyToRBAC_eq]
  exact lookup_insertAll_of_mem _ _ (ruleEntries_keys_nodup _ _) (mem_ruleEntries.mpr ⟨i, hi, rfl, rfl⟩)

/-- **Every entry of the rule map is some rule's policy, under that rule's name.** -/
theorem lookup_translateAuthPolicyToRBAC_eq_some {p : AuthPolicy} {backend : Backend}
    {k : String} {v : Policy} (h : (translateAuthPolicyToRBAC p backend).lookup k = some v) :
    ∃ i, ∃ hi : i < p.spec.rules.length,
      k = rbacPolicyNameFormat backend.namespace backend.name i ∧
        v = authRulePolicy p.spec.rules[i] := by
  rw [translateAuthPolicyToRBAC_eq] at h
  rcases lookup_insertAll_eq_some _ _ h with h | h
  · exact mem_ruleEntries.mp h
  · simp [Finmap.lookup_empty] at h

theorem mem_translateAuthPolicyToRBAC {p : AuthPolicy} {backend : Backend} {k : String} :
    k ∈ translateAuthPolicyToRBAC p backend ↔
      ∃ i < p.spec.rules.length, k = rbacPolicyNameFormat backend.namespace backend.name i := by
  rw [translateAuthPolicyToRBAC_eq, mem_insertAll, ruleEntries_keys]
  simp [Finmap.not_mem_empty, eq_comm]

/-! ## The configuration, for a successful listing -/

/-- The map before the baked-in policies are added: the rule map of the selected policy. -/
def userPolicies (backend : Backend) : Option AuthPolicy → PolicyMap
  | some p => translateAuthPolicyToRBAC p backend
  | none => ∅

/-- The two baked-in assignments. -/
def withBakedInPolicies (m : PolicyMap) : PolicyMap :=
  (m.insert allowMCPSessionClosePolicyName buildAllowMCPSessionClosePolicy).insert
    allowAnyoneToInitializeAndListToolsPolicyName buildAllowAnyoneToInitializeAndListToolsPolicy

theorem rbacActionFromAuthPolicy_eq (authPolicy : Option AuthPolicy) :
    rbacActionFromAuthPolicy authPolicy = .ALLOW := by
  unfold rbacActionFromAuthPolicy
  split
  · rfl
  · split <;> rfl

/-- **The compiler, for a successful listing `L`.** -/
theorem rbacConfigFromAuthPolicy_of_ok {lister : AuthPolicyLister} {backend : Backend}
    {L : List AuthPolicy} (hL : lister backend.namespace = .ok L) :
    rbacConfigFromAuthPolicy lister backend =
      .ok ⟨⟨.ALLOW, withBakedInPolicies
        (userPolicies backend (L.find? (targetsBackend backend)))⟩⟩ := by
  have hfind : findAuthPolicyForBackend backend lister = .ok (L.find? (targetsBackend backend)) := by
    rw [findAuthPolicyForBackend, hL]
  simp only [rbacConfigFromAuthPolicy, hfind, rbacActionFromAuthPolicy_eq, if_true]
  cases L.find? (targetsBackend backend) <;> rfl

/-! ## The baked-in names are never rule names -/

theorem rbacPolicyNameFormat_ne_allowMCPSessionClosePolicyName (ns name : String) (i : ℕ) :
    rbacPolicyNameFormat ns name i ≠ allowMCPSessionClosePolicyName :=
  rbacPolicyNameFormat_ne (s := allowMCPSessionClosePolicyName) (c := 'e') (by decide) rfl ns name i

theorem rbacPolicyNameFormat_ne_allowAnyoneToInitializeAndListToolsPolicyName
    (ns name : String) (i : ℕ) :
    rbacPolicyNameFormat ns name i ≠ allowAnyoneToInitializeAndListToolsPolicyName :=
  rbacPolicyNameFormat_ne (s := allowAnyoneToInitializeAndListToolsPolicyName) (c := 's')
    (by decide) rfl ns name i

theorem not_mem_userPolicies_allowMCPSessionClosePolicyName (backend : Backend)
    (p : Option AuthPolicy) : allowMCPSessionClosePolicyName ∉ userPolicies backend p := by
  cases p with
  | none => exact Finmap.not_mem_empty
  | some p =>
      rintro h
      obtain ⟨i, -, hk⟩ := mem_translateAuthPolicyToRBAC.mp h
      exact rbacPolicyNameFormat_ne_allowMCPSessionClosePolicyName _ _ i hk.symm

theorem not_mem_userPolicies_allowAnyoneToInitializeAndListToolsPolicyName (backend : Backend)
    (p : Option AuthPolicy) :
    allowAnyoneToInitializeAndListToolsPolicyName ∉ userPolicies backend p := by
  cases p with
  | none => exact Finmap.not_mem_empty
  | some p =>
      rintro h
      obtain ⟨i, -, hk⟩ := mem_translateAuthPolicyToRBAC.mp h
      exact rbacPolicyNameFormat_ne_allowAnyoneToInitializeAndListToolsPolicyName _ _ i hk.symm

theorem allowAnyoneToInitializeAndListToolsPolicyName_ne :
    allowAnyoneToInitializeAndListToolsPolicyName ≠ allowMCPSessionClosePolicyName := by
  decide

/-- **The final map, entry by entry**: the two baked-in policies under their names, and
otherwise exactly the rule map. -/
theorem lookup_withBakedInPolicies_eq_some {m : PolicyMap} {k : String} {v : Policy} :
    (withBakedInPolicies m).lookup k = some v ↔
      (k = allowAnyoneToInitializeAndListToolsPolicyName ∧
          v = buildAllowAnyoneToInitializeAndListToolsPolicy) ∨
        (k = allowMCPSessionClosePolicyName ∧ v = buildAllowMCPSessionClosePolicy) ∨
          (k ≠ allowAnyoneToInitializeAndListToolsPolicyName ∧ k ≠ allowMCPSessionClosePolicyName ∧
            m.lookup k = some v) := by
  unfold withBakedInPolicies
  by_cases h₁ : k = allowAnyoneToInitializeAndListToolsPolicyName
  · subst h₁
    simp [Finmap.lookup_insert, eq_comm, allowAnyoneToInitializeAndListToolsPolicyName_ne]
  · by_cases h₂ : k = allowMCPSessionClosePolicyName
    · subst h₂
      simp [Finmap.lookup_insert_of_ne _ h₁, Finmap.lookup_insert, eq_comm,
        allowAnyoneToInitializeAndListToolsPolicyName_ne]
    · simp [Finmap.lookup_insert_of_ne _ h₁, Finmap.lookup_insert_of_ne _ h₂, h₁, h₂]

/-! ## Sample inputs -/

/-- An in-cluster Backend `default/mcp`. -/
def mcpBackend : Backend := ⟨"default", "mcp", ⟨⟨"mcp-server", "", 8080⟩⟩⟩

/-- An `ALLOW` AuthPolicy with the given rules, targeting the Backend of the given name. -/
def allowPolicyFor (name : String) (rules : List AuthRule) : AuthPolicy :=
  ⟨⟨⟨"agentic.networking.x-k8s.io", "Backend", name⟩, rules, ActionAllow⟩⟩

/-- The quickstart's rule: the agent's service account may call `add`. -/
def agentAddRule : AuthRule := ⟨⟨[], ["default/adk-agent-sa"]⟩, ["add"]⟩

end AgenticNetworking.Translator
