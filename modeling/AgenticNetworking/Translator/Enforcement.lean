import AgenticNetworking.Translator.AuthPolicy

/-!
# What the compiled RBAC configuration lets through

Evaluating the compiled configuration with Envoy's `ALLOW` semantics gives a closed description
of the requests it admits, for every AuthPolicy and every request
(`rbacConfigFromAuthPolicy_allows_iff`): a request is let through exactly when it

* closes a session: `:method` is `DELETE` and an `mcp-session-id` header is present;
* is handshake or tool listing: the `mcp_proxy` method is `initialize`,
  `notifications/initialized` or `tools/list`, or `:method` is `GET`;
* or is allowed by a rule of the selected policy: its `x-user-role` is one of the rule's
  identities or service accounts, its `mcp_proxy` method is `tools/call`, and the tool it names
  is one of the rule's tools.

The description is assembled from one lemma per compiled piece — the two baked-in policies,
`principalIDs`, `permissions` and `toolsMatcher` — and from the shape of the policy map
(`Translator/AuthPolicy.lean`).

Two consequences are worked out.  A rule whose Source names nobody compiles to a policy with no
principals, which matches no request at all; the API documents an omitted Source as matching
any source (`rbacConfigFromAuthPolicy_empty_source_denies`).  And a rule policy passes Envoy's
schema validation only when its Source and its Tools are both non-empty
(`authRulePolicy_schemaValid_iff`), so Envoy loads the configuration exactly when every rule of
the selected AuthPolicy names someone and some tool
(`rbacConfigFromAuthPolicy_schemaValid_iff`).  A rule with no tools, which the API documents as
denying every tool to its Source, makes Envoy reject the Backend's whole configuration
(`rbacConfigFromAuthPolicy_empty_tools_invalid`).
-/

namespace AgenticNetworking.Translator

open Envoy

/-! ## One lemma per compiled piece -/

theorem buildAllowMCPSessionClosePolicy_matches (r : Request) :
    buildAllowMCPSessionClosePolicy.matches r = true ↔
      r.headers ":method" = some "DELETE" ∧ (r.headers "mcp-session-id").isSome = true := by
  simp [Policy.matches_iff, buildAllowMCPSessionClosePolicy, HeaderMatcher.matches_stringMatch,
    HeaderMatcher.matches_present, mcpSessionIDHeader]

theorem buildAllowAnyoneToInitializeAndListToolsPolicy_matches (r : Request) :
    buildAllowAnyoneToInitializeAndListToolsPolicy.matches r = true ↔
      (r.metadata "mcp_proxy" ["method"] = some "initialize" ∨
        r.metadata "mcp_proxy" ["method"] = some "notifications/initialized" ∨
        r.metadata "mcp_proxy" ["method"] = some "tools/list") ∨
      r.headers ":method" = some "GET" := by
  simp only [Policy.matches_iff, buildAllowAnyoneToInitializeAndListToolsPolicy,
    List.mem_singleton, exists_eq_left, Principal.matches_any, Permission.matches_orRules,
    Permission.matchesAny_iff, List.mem_cons, List.not_mem_nil, exists_eq_or_imp,
    Permission.matches_sourcedMetadata, MetadataMatcher.matches_iff,
    ValueMatcher.matches_orMatch, ValueMatcher.matchesAny_iff, ValueMatcher.matches_stringMatch,
    StringMatcher.matches_exact, Permission.matches_header, HeaderMatcher.matches_stringMatch,
    or_false, false_or, true_and, mcpProxyFilterName, initializeMethod, initializedMethod,
    toolsListMethod, exists_eq_right, or_assoc]
  constructor
  · rintro (⟨v, hv, rfl | rfl | rfl⟩ | h) <;> simp_all
  · rintro (h | h | h | h) <;> simp_all

/-- **The tool matcher matches exactly the listed tools**, in its one-tool and its many-tool
shape alike. -/
theorem toolsMatcher_matches (tools : List String) (v : String) :
    (toolsMatcher (tools.map toolValueMatcher)).matches v = true ↔ v ∈ tools := by
  match tools with
  | [t] => simp [toolsMatcher, toolValueMatcher]
  | [] => simp [toolsMatcher]
  | t₁ :: t₂ :: ts => simp [toolsMatcher, toolValueMatcher]

theorem sourcePrincipal_matches (source : String) (r : Request) :
    (sourcePrincipal source).matches r = true ↔ r.headers "x-user-role" = some source :=
  HeaderMatcher.matches_stringMatch _ _ r

theorem principalIDs_matches (rule : AuthRule) (r : Request) :
    (∃ pr ∈ principalIDs rule, pr.matches r = true) ↔
      ∃ s ∈ rule.source.identities ++ rule.source.serviceAccounts,
        r.headers "x-user-role" = some s := by
  by_cases h : rule.source.identities ++ rule.source.serviceAccounts = []
  · rw [principalIDs_of_nil h, h]
    simp
  · rw [principalIDs_of_ne_nil h]
    simp only [List.mem_singleton, exists_eq_left, Principal.matches_orIds,
      Principal.matchesAny_iff, List.mem_map]
    constructor
    · rintro ⟨_, ⟨s, hs, rfl⟩, hm⟩
      exact ⟨s, hs, (sourcePrincipal_matches s r).mp hm⟩
    · rintro ⟨s, hs, hm⟩
      exact ⟨_, ⟨s, hs, rfl⟩, (sourcePrincipal_matches s r).mpr hm⟩

theorem permissions_matches (rule : AuthRule) (r : Request) :
    (∃ pm ∈ permissions rule, pm.matches r = true) ↔
      r.metadata "mcp_proxy" ["method"] = some "tools/call" ∧
        ∃ t ∈ rule.tools, r.metadata "mcp_proxy" ["params", "name"] = some t := by
  by_cases h : rule.tools = []
  · rw [permissions_of_nil h, h]
    simp
  · rw [permissions_of_ne_nil h]
    simp only [List.mem_singleton, exists_eq_left, toolsCallPermission,
      Permission.matches_andRules, Permission.matchesAll_iff, List.mem_cons, List.not_mem_nil,
      or_false, forall_eq_or_imp, forall_eq, Permission.matches_sourcedMetadata,
      MetadataMatcher.matches_iff, ValueMatcher.matches_stringMatch, StringMatcher.matches_exact,
      toolsMatcher_matches, mcpProxyFilterName, toolsCallMethod, exists_eq_right]
    constructor
    · rintro ⟨h, v, hv, ht⟩
      exact ⟨h, v, ht, hv⟩
    · rintro ⟨h, t, ht, hv⟩
      exact ⟨h, t, hv, ht⟩

/-- **What one rule's policy admits.** -/
theorem authRulePolicy_matches (rule : AuthRule) (r : Request) :
    (authRulePolicy rule).matches r = true ↔
      (∃ s ∈ rule.source.identities ++ rule.source.serviceAccounts,
        r.headers "x-user-role" = some s) ∧
      r.metadata "mcp_proxy" ["method"] = some "tools/call" ∧
        ∃ t ∈ rule.tools, r.metadata "mcp_proxy" ["params", "name"] = some t := by
  rw [Policy.matches_iff]
  exact and_congr (principalIDs_matches rule r) (permissions_matches rule r)

/-! ## The policy map -/

theorem exists_translateAuthPolicyToRBAC_matches (p : AuthPolicy) (backend : Backend)
    (r : Request) :
    (∃ k v, (translateAuthPolicyToRBAC p backend).lookup k = some v ∧ v.matches r = true) ↔
      ∃ rule ∈ p.spec.rules, (authRulePolicy rule).matches r = true := by
  constructor
  · rintro ⟨k, v, hk, hv⟩
    obtain ⟨i, hi, -, rfl⟩ := lookup_translateAuthPolicyToRBAC_eq_some hk
    exact ⟨_, List.getElem_mem hi, hv⟩
  · rintro ⟨rule, hrule, hm⟩
    obtain ⟨i, hi, rfl⟩ := List.getElem_of_mem hrule
    exact ⟨_, _, lookup_translateAuthPolicyToRBAC p backend i hi, hm⟩

/-- The user policies keep their entries once the baked-in ones are added. -/
theorem lookup_withBakedInPolicies_userPolicies {backend : Backend} {p : Option AuthPolicy}
    {k : String} {v : Policy} (h : (userPolicies backend p).lookup k = some v) :
    (withBakedInPolicies (userPolicies backend p)).lookup k = some v := by
  have hk := Finmap.mem_of_lookup_eq_some h
  refine lookup_withBakedInPolicies_eq_some.mpr (.inr (.inr ⟨?_, ?_, h⟩)) <;> rintro rfl
  · exact not_mem_userPolicies_allowAnyoneToInitializeAndListToolsPolicyName backend p hk
  · exact not_mem_userPolicies_allowMCPSessionClosePolicyName backend p hk

/-- **Some entry of the final map matches iff a baked-in policy or a user policy does.** -/
theorem exists_withBakedInPolicies_matches (backend : Backend) (p : Option AuthPolicy)
    (r : Request) :
    (∃ k v, (withBakedInPolicies (userPolicies backend p)).lookup k = some v ∧
        v.matches r = true) ↔
      buildAllowMCPSessionClosePolicy.matches r = true ∨
        buildAllowAnyoneToInitializeAndListToolsPolicy.matches r = true ∨
          ∃ k v, (userPolicies backend p).lookup k = some v ∧ v.matches r = true := by
  constructor
  · rintro ⟨k, v, hk, hv⟩
    rcases lookup_withBakedInPolicies_eq_some.mp hk with ⟨-, rfl⟩ | ⟨-, rfl⟩ | ⟨-, -, hk⟩
    · exact .inr (.inl hv)
    · exact .inl hv
    · exact .inr (.inr ⟨k, v, hk, hv⟩)
  · rintro (hv | hv | ⟨k, v, hk, hv⟩)
    · exact ⟨_, _, lookup_withBakedInPolicies_eq_some.mpr (.inr (.inl ⟨rfl, rfl⟩)), hv⟩
    · exact ⟨_, _, lookup_withBakedInPolicies_eq_some.mpr (.inl ⟨rfl, rfl⟩), hv⟩
    · exact ⟨k, v, lookup_withBakedInPolicies_userPolicies hk, hv⟩

theorem exists_userPolicies_matches (backend : Backend) (p : Option AuthPolicy) (r : Request) :
    (∃ k v, (userPolicies backend p).lookup k = some v ∧ v.matches r = true) ↔
      ∃ P, p = some P ∧ ∃ rule ∈ P.spec.rules, (authRulePolicy rule).matches r = true := by
  cases p with
  | none => simp [userPolicies, Finmap.lookup_empty]
  | some P => simp only [userPolicies, exists_translateAuthPolicyToRBAC_matches, Option.some.injEq,
      exists_eq_left']

/-! ## The requests the configuration admits -/

/-- **What the compiled configuration lets through.**  For every listing `L` of the backend's
namespace and every request: the configuration is an `ALLOW` one, and it admits the request
exactly when the request closes a session, is handshake or tool listing, or is a `tools/call`
that a rule of the selected policy grants to the caller's `x-user-role`. -/
theorem rbacConfigFromAuthPolicy_allows_iff (lister : AuthPolicyLister) (B : Backend)
    (L : List AuthPolicy) (hL : lister B.namespace = .ok L) (r : Request) :
    ∃ cfg, rbacConfigFromAuthPolicy lister B = .ok cfg ∧ cfg.rules.action = .ALLOW ∧
      (cfg.rules.allows r ↔
        (r.headers ":method" = some "DELETE" ∧ (r.headers "mcp-session-id").isSome = true) ∨
        ((r.metadata "mcp_proxy" ["method"] = some "initialize" ∨
            r.metadata "mcp_proxy" ["method"] = some "notifications/initialized" ∨
            r.metadata "mcp_proxy" ["method"] = some "tools/list") ∨
          r.headers ":method" = some "GET") ∨
        ∃ P, L.find? (targetsBackend B) = some P ∧ ∃ rule ∈ P.spec.rules,
          (∃ s ∈ rule.source.identities ++ rule.source.serviceAccounts,
            r.headers "x-user-role" = some s) ∧
          r.metadata "mcp_proxy" ["method"] = some "tools/call" ∧
          ∃ t ∈ rule.tools, r.metadata "mcp_proxy" ["params", "name"] = some t) := by
  rw [rbacConfigFromAuthPolicy_of_ok hL]
  refine ⟨_, rfl, rfl, ?_⟩
  rw [RBAC.allows_of_ALLOW rfl, exists_withBakedInPolicies_matches,
    buildAllowMCPSessionClosePolicy_matches, buildAllowAnyoneToInitializeAndListToolsPolicy_matches,
    exists_userPolicies_matches]
  simp only [authRulePolicy_matches]

/-- A `DELETE` of session `s1`, with no MCP metadata. -/
def sessionCloseRequest : Request :=
  ⟨fun h => if h = ":method" then some "DELETE" else
      if h = "mcp-session-id" then some "s1" else none,
   fun _ _ => none⟩

/-- The quickstart policy for `default/mcp`, and a session close. -/
theorem rbacConfigFromAuthPolicy_allows_session_close :
    (fun _ : String => Except.ok [allowPolicyFor "mcp" [agentAddRule]] : AuthPolicyLister)
        mcpBackend.namespace = .ok [allowPolicyFor "mcp" [agentAddRule]] ∧
      ∃ cfg, rbacConfigFromAuthPolicy (fun _ => .ok [allowPolicyFor "mcp" [agentAddRule]])
          mcpBackend = .ok cfg ∧ cfg.rules.action = .ALLOW ∧
        (cfg.rules.allows sessionCloseRequest ↔
          (sessionCloseRequest.headers ":method" = some "DELETE" ∧
            (sessionCloseRequest.headers "mcp-session-id").isSome = true) ∨
          ((sessionCloseRequest.metadata "mcp_proxy" ["method"] = some "initialize" ∨
              sessionCloseRequest.metadata "mcp_proxy" ["method"] =
                some "notifications/initialized" ∨
              sessionCloseRequest.metadata "mcp_proxy" ["method"] = some "tools/list") ∨
            sessionCloseRequest.headers ":method" = some "GET") ∨
          ∃ P, [allowPolicyFor "mcp" [agentAddRule]].find? (targetsBackend mcpBackend) = some P ∧
            ∃ rule ∈ P.spec.rules,
              (∃ s ∈ rule.source.identities ++ rule.source.serviceAccounts,
                sessionCloseRequest.headers "x-user-role" = some s) ∧
              sessionCloseRequest.metadata "mcp_proxy" ["method"] = some "tools/call" ∧
              ∃ t ∈ rule.tools,
                sessionCloseRequest.metadata "mcp_proxy" ["params", "name"] = some t) :=
  ⟨rfl, rbacConfigFromAuthPolicy_allows_iff (fun _ => .ok [allowPolicyFor "mcp" [agentAddRule]])
    mcpBackend [allowPolicyFor "mcp" [agentAddRule]] rfl sessionCloseRequest⟩

/-! ## A Source that names nobody -/

/-- **An omitted Source matches nobody.**  A rule with no identities and no service accounts
compiles to a policy without principals.  A `tools/call` of the rule's own tool, sent as a
`POST` without a session header, is then refused whatever `x-user-role` it carries. -/
theorem rbacConfigFromAuthPolicy_empty_source_denies :
    ∃ cfg, rbacConfigFromAuthPolicy (fun _ => .ok [allowPolicyFor "mcp" [⟨⟨[], []⟩, ["add"]⟩]])
        mcpBackend = .ok cfg ∧
      ¬ cfg.rules.allows
        ⟨fun h => if h = ":method" then some "POST" else
            if h = "x-user-role" then some "default/adk-agent-sa" else none,
         fun f p => if f = "mcp_proxy" ∧ p = ["method"] then some "tools/call" else
            if f = "mcp_proxy" ∧ p = ["params", "name"] then some "add" else none⟩ :=
  ⟨_, rfl, by decide⟩

/-! ## Schema validation -/

/-- The tool-call permission of a non-empty tool list is schema-valid: one tool gives a plain
string match, two or more an `OrMatcher` with as many members. -/
theorem toolsCallPermission_schemaValid {tools : List String} (h : tools ≠ []) :
    (toolsCallPermission tools).schemaValid = true := by
  simp only [toolsCallPermission, Permission.schemaValid, List.isEmpty_cons, Bool.not_false,
    Bool.true_and, Permission.allSchemaValid_iff, List.mem_cons, List.not_mem_nil, or_false,
    forall_eq_or_imp, ValueMatcher.schemaValid, forall_eq, Bool.and_true]
  match tools, h with
  | [t], _ => simp [toolsMatcher, toolValueMatcher, ValueMatcher.schemaValid]
  | t₁ :: t₂ :: ts, _ => simp [toolsMatcher, toolValueMatcher, ValueMatcher.schemaValid]

theorem principalIDs_schemaValid (rule : AuthRule) :
    Principal.allSchemaValid (principalIDs rule) = true := by
  by_cases h : rule.source.identities ++ rule.source.serviceAccounts = []
  · rw [principalIDs_of_nil h]
    rfl
  · rw [principalIDs_of_ne_nil h]
    simp only [Principal.allSchemaValid_iff, List.mem_singleton, forall_eq, Principal.schemaValid,
      Bool.and_eq_true, Bool.not_eq_true', List.isEmpty_eq_false, List.forall_mem_map]
    exact ⟨by simpa using h, fun _ _ => rfl⟩

theorem permissions_schemaValid (rule : AuthRule) :
    Permission.allSchemaValid (permissions rule) = true := by
  by_cases h : rule.tools = []
  · rw [permissions_of_nil h]
    rfl
  · rw [permissions_of_ne_nil h]
    simp [toolsCallPermission_schemaValid h]

/-- **A rule policy is schema-valid exactly when its Source and its Tools are non-empty.** -/
theorem authRulePolicy_schemaValid_iff (rule : AuthRule) :
    (authRulePolicy rule).schemaValid = true ↔
      rule.source.identities ++ rule.source.serviceAccounts ≠ [] ∧ rule.tools ≠ [] := by
  have hpr : (principalIDs rule).isEmpty = true ↔
      rule.source.identities ++ rule.source.serviceAccounts = [] := by
    by_cases h : rule.source.identities ++ rule.source.serviceAccounts = []
    · simp [principalIDs_of_nil h, h]
    · simp [principalIDs_of_ne_nil h, h]
  have hpm : (permissions rule).isEmpty = true ↔ rule.tools = [] := by
    by_cases h : rule.tools = []
    · simp [permissions_of_nil h, h]
    · simp [permissions_of_ne_nil h, h]
  simp only [Policy.schemaValid, authRulePolicy, principalIDs_schemaValid, permissions_schemaValid,
    Bool.and_true, Bool.and_eq_true, Bool.not_eq_true', ← Bool.not_eq_true, hpr, hpm]

/-- **When Envoy accepts the configuration**: exactly when every rule of the selected
AuthPolicy names some identity or service account and some tool.  The baked-in policies are
always valid, and every rule's policy is in the map under the rule's own name. -/
theorem rbacConfigFromAuthPolicy_schemaValid_iff (lister : AuthPolicyLister) (B : Backend)
    (L : List AuthPolicy) (hL : lister B.namespace = .ok L) :
    ∃ cfg, rbacConfigFromAuthPolicy lister B = .ok cfg ∧
      (cfg.rules.schemaValid ↔ ∀ P ∈ L.find? (targetsBackend B), ∀ rule ∈ P.spec.rules,
        rule.source.identities ++ rule.source.serviceAccounts ≠ [] ∧ rule.tools ≠ []) := by
  rw [rbacConfigFromAuthPolicy_of_ok hL]
  refine ⟨_, rfl, (RBAC.schemaValid_iff _).trans ⟨fun h P hP rule hr => ?_, fun h k p hk => ?_⟩⟩
  · -- rule `i` is looked up under its own name, which no baked-in policy takes
    obtain ⟨i, hi, rfl⟩ := List.getElem_of_mem hr
    refine (authRulePolicy_schemaValid_iff _).mp (h (rbacPolicyNameFormat B.namespace B.name i) _ ?_)
    rw [lookup_withBakedInPolicies_eq_some, Option.mem_def.mp hP]
    exact .inr (.inr ⟨rbacPolicyNameFormat_ne_allowAnyoneToInitializeAndListToolsPolicyName _ _ _,
      rbacPolicyNameFormat_ne_allowMCPSessionClosePolicyName _ _ _,
      lookup_translateAuthPolicyToRBAC P B i hi⟩)
  · rcases lookup_withBakedInPolicies_eq_some.mp hk with ⟨-, rfl⟩ | ⟨-, rfl⟩ | ⟨-, -, hk⟩
    · decide
    · decide
    · cases hP : L.find? (targetsBackend B) with
      | none => simp [hP, userPolicies, Finmap.lookup_empty] at hk
      | some P =>
        rw [hP, userPolicies] at hk
        obtain ⟨i, hi, -, rfl⟩ := lookup_translateAuthPolicyToRBAC_eq_some hk
        exact (authRulePolicy_schemaValid_iff _).mpr (h P hP _ (List.getElem_mem hi))

/-- The quickstart policy for `default/mcp`: Envoy accepts its configuration. -/
theorem rbacConfigFromAuthPolicy_schemaValid_iff_quickstart :
    (fun _ : String => Except.ok [allowPolicyFor "mcp" [agentAddRule]] : AuthPolicyLister)
        mcpBackend.namespace = .ok [allowPolicyFor "mcp" [agentAddRule]] ∧
      ∃ cfg, rbacConfigFromAuthPolicy (fun _ => .ok [allowPolicyFor "mcp" [agentAddRule]])
          mcpBackend = .ok cfg ∧
        (cfg.rules.schemaValid ↔
          ∀ P ∈ [allowPolicyFor "mcp" [agentAddRule]].find? (targetsBackend mcpBackend),
            ∀ rule ∈ P.spec.rules,
              rule.source.identities ++ rule.source.serviceAccounts ≠ [] ∧ rule.tools ≠ []) :=
  ⟨rfl, rbacConfigFromAuthPolicy_schemaValid_iff
    (fun _ => .ok [allowPolicyFor "mcp" [agentAddRule]]) mcpBackend _ rfl⟩

/-- **An empty tool list makes Envoy reject the whole configuration.**  The API documents a rule
without tools as denying every tool to its Source; its policy has no permissions, which Envoy's
validation refuses, and with it every other policy of the Backend. -/
theorem rbacConfigFromAuthPolicy_empty_tools_invalid :
    ∃ cfg, rbacConfigFromAuthPolicy
        (fun _ => .ok [allowPolicyFor "mcp" [⟨⟨[], ["default/adk-agent-sa"]⟩, []⟩]]) mcpBackend =
          .ok cfg ∧
      (∃ p, cfg.rules.policies.lookup "default-mcp-rule-0" = some p ∧ p.permissions = []) ∧
      ¬cfg.rules.schemaValid :=
  ⟨_, rfl, ⟨_, rfl, rfl⟩, fun hvalid =>
    ((authRulePolicy_schemaValid_iff ⟨⟨[], ["default/adk-agent-sa"]⟩, []⟩).mp
      ((RBAC.schemaValid_iff _).mp hvalid "default-mcp-rule-0" _ rfl)).2 rfl⟩

end AgenticNetworking.Translator
