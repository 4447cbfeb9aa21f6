import AgenticNetworking.Translator.AuthPolicy

/-!
# The shape of the compiled policy map

Two facts about the map `rbacConfigFromAuthPolicy` returns, independent of what the policies
mean:

* **`rbacConfigFromAuthPolicy_policies`** — for a selected AuthPolicy with `n` rules the map
  has exactly `n + 2` keys: each rule under its own name, then the two baked-in policies, which
  overwrite nothing.  This holds for every namespace and backend name, because a rule name is
  injective in its index and ends in a digit, and the baked-in names do not.
* **Lister order.**  `findAuthPolicyForBackend` keeps the *first* AuthPolicy targeting the
  backend, so when two of them do, the lister's order decides which one is compiled
  (`rbacConfigFromAuthPolicy_order_counterexample`).  When at most one does, every order gives
  the same configuration (`rbacConfigFromAuthPolicy_perm`).
-/

namespace AgenticNetworking.Translator

open Envoy

/-! ## Keys -/

theorem keys_insertAll (m : Finmap fun _ : String => Policy) (kvs : List (String × Policy)) :
    (insertAll m kvs).keys = (kvs.map Prod.fst).toFinset ∪ m.keys := by
  ext k
  simp [Finmap.mem_keys, mem_insertAll]

theorem card_keys_translateAuthPolicyToRBAC (p : AuthPolicy) (backend : Backend) :
    (translateAuthPolicyToRBAC p backend).keys.card = p.spec.rules.length := by
  rw [translateAuthPolicyToRBAC_eq, keys_insertAll, Finmap.keys_empty, Finset.union_empty,
    List.toFinset_card_of_nodup (ruleEntries_keys_nodup _ _), ruleEntries_keys, List.length_map,
    List.length_range]

theorem keys_withBakedInPolicies (m : PolicyMap) :
    (withBakedInPolicies m).keys =
      insert allowAnyoneToInitializeAndListToolsPolicyName
        (insert allowMCPSessionClosePolicyName m.keys) := by
  ext k
  simp [withBakedInPolicies, Finmap.mem_keys, Finmap.mem_insert]

theorem card_keys_withBakedInPolicies (backend : Backend) (p : Option AuthPolicy) :
    (withBakedInPolicies (userPolicies backend p)).keys.card =
      (userPolicies backend p).keys.card + 2 := by
  rw [keys_withBakedInPolicies, Finset.card_insert_of_not_mem, Finset.card_insert_of_not_mem]
  · simpa [Finmap.mem_keys] using not_mem_userPolicies_allowMCPSessionClosePolicyName backend p
  · simpa [Finmap.mem_keys, allowAnyoneToInitializeAndListToolsPolicyName_ne] using
      not_mem_userPolicies_allowAnyoneToInitializeAndListToolsPolicyName backend p

/-- **`n` rules give `n + 2` policies**: every rule under its own name, and the baked-in
policies under theirs. -/
theorem rbacConfigFromAuthPolicy_policies (lister : AuthPolicyLister) (backend : Backend)
    (L : List AuthPolicy) (P : AuthPolicy) (hL : lister backend.namespace = .ok L)
    (hP : L.find? (targetsBackend backend) = some P) :
    ∃ cfg, rbacConfigFromAuthPolicy lister backend = .ok cfg ∧
      cfg.rules.policies.keys.card = P.spec.rules.length + 2 ∧
      (∀ i (hi : i < P.spec.rules.length),
        cfg.rules.policies.lookup (rbacPolicyNameFormat backend.namespace backend.name i) =
          some (authRulePolicy P.spec.rules[i])) ∧
      cfg.rules.policies.lookup allowMCPSessionClosePolicyName =
        some buildAllowMCPSessionClosePolicy ∧
      cfg.rules.policies.lookup allowAnyoneToInitializeAndListToolsPolicyName =
        some buildAllowAnyoneToInitializeAndListToolsPolicy := by
  rw [rbacConfigFromAuthPolicy_of_ok hL, hP]
  refine ⟨_, rfl, ?_, fun i hi => ?_, ?_, ?_⟩
  · rw [card_keys_withBakedInPolicies, userPolicies, card_keys_translateAuthPolicyToRBAC]
  · exact lookup_withBakedInPolicies_eq_some.mpr <| .inr <| .inr
      ⟨(rbacPolicyNameFormat_ne_allowAnyoneToInitializeAndListToolsPolicyName _ _ i),
       (rbacPolicyNameFormat_ne_allowMCPSessionClosePolicyName _ _ i),
       lookup_translateAuthPolicyToRBAC P backend i hi⟩
  · exact lookup_withBakedInPolicies_eq_some.mpr (.inr (.inl ⟨rfl, rfl⟩))
  · exact lookup_withBakedInPolicies_eq_some.mpr (.inl ⟨rfl, rfl⟩)

/-- Two rules for `default/mcp` give four policies. -/
theorem rbacConfigFromAuthPolicy_policies_two_rules :
    (fun _ : String => Except.ok [allowPolicyFor "mcp" [agentAddRule, ⟨⟨["spiffe://td/a"], []⟩, []⟩]]
        : AuthPolicyLister) mcpBackend.namespace =
        .ok [allowPolicyFor "mcp" [agentAddRule, ⟨⟨["spiffe://td/a"], []⟩, []⟩]] ∧
      [allowPolicyFor "mcp" [agentAddRule, ⟨⟨["spiffe://td/a"], []⟩, []⟩]].find?
          (targetsBackend mcpBackend) =
        some (allowPolicyFor "mcp" [agentAddRule, ⟨⟨["spiffe://td/a"], []⟩, []⟩]) ∧
      ∃ cfg, rbacConfigFromAuthPolicy (fun _ => .ok [allowPolicyFor "mcp"
          [agentAddRule, ⟨⟨["spiffe://td/a"], []⟩, []⟩]]) mcpBackend = .ok cfg ∧
        cfg.rules.policies.keys.card =
          (allowPolicyFor "mcp" [agentAddRule, ⟨⟨["spiffe://td/a"], []⟩, []⟩]).spec.rules.length + 2 ∧
        (∀ i (hi : i < (allowPolicyFor "mcp"
            [agentAddRule, ⟨⟨["spiffe://td/a"], []⟩, []⟩]).spec.rules.length),
          cfg.rules.policies.lookup (rbacPolicyNameFormat mcpBackend.namespace mcpBackend.name i) =
            some (authRulePolicy (allowPolicyFor "mcp"
              [agentAddRule, ⟨⟨["spiffe://td/a"], []⟩, []⟩]).spec.rules[i])) ∧
        cfg.rules.policies.lookup allowMCPSessionClosePolicyName =
          some buildAllowMCPSessionClosePolicy ∧
        cfg.rules.policies.lookup allowAnyoneToInitializeAndListToolsPolicyName =
          some buildAllowAnyoneToInitializeAndListToolsPolicy :=
  ⟨rfl, rfl, rbacConfigFromAuthPolicy_policies
    (fun _ => .ok [allowPolicyFor "mcp" [agentAddRule, ⟨⟨["spiffe://td/a"], []⟩, []⟩]]) mcpBackend
    [allowPolicyFor "mcp" [agentAddRule, ⟨⟨["spiffe://td/a"], []⟩, []⟩]]
    (allowPolicyFor "mcp" [agentAddRule, ⟨⟨["spiffe://td/a"], []⟩, []⟩]) rfl rfl⟩

/-! ## Lister order -/

/-- With at most one match, `find?` does not see the order. -/
theorem find?_eq_of_perm {α : Type} {p : α → Bool} {L₁ L₂ : List α} (hperm : L₁.Perm L₂)
    (huniq : ∀ a ∈ L₁, ∀ b ∈ L₁, p a = true → p b = true → a = b) :
    L₁.find? p = L₂.find? p := by
  cases h₁ : L₁.find? p with
  | none =>
      refine (List.find?_eq_none.mpr fun x hx => ?_).symm
      exact List.find?_eq_none.mp h₁ x (hperm.mem_iff.mpr hx)
  | some a =>
      have ha := hperm.mem_iff.mp (List.mem_of_find?_eq_some h₁)
      cases h₂ : L₂.find? p with
      | none => exact absurd (List.find?_some h₁) (List.find?_eq_none.mp h₂ a ha)
      | some b =>
          exact congrArg some (huniq a (List.mem_of_find?_eq_some h₁) b
            (hperm.mem_iff.mpr (List.mem_of_find?_eq_some h₂)) (List.find?_some h₁)
            (List.find?_some h₂))

/-- **Order does not matter when at most one AuthPolicy targets the backend.** -/
theorem rbacConfigFromAuthPolicy_perm (lister₁ lister₂ : AuthPolicyLister) (backend : Backend)
    (L₁ L₂ : List AuthPolicy) (h₁ : lister₁ backend.namespace = .ok L₁)
    (h₂ : lister₂ backend.namespace = .ok L₂) (hperm : L₁.Perm L₂)
    (huniq : ∀ p ∈ L₁, ∀ q ∈ L₁, targetsBackend backend p = true →
      targetsBackend backend q = true → p = q) :
    rbacConfigFromAuthPolicy lister₁ backend = rbacConfigFromAuthPolicy lister₂ backend := by
  rw [rbacConfigFromAuthPolicy_of_ok h₁, rbacConfigFromAuthPolicy_of_ok h₂,
    find?_eq_of_perm hperm huniq]

/-- One AuthPolicy for `default/mcp` and one for another backend, in both orders. -/
theorem rbacConfigFromAuthPolicy_perm_single :
    (fun _ : String => Except.ok [allowPolicyFor "mcp" [agentAddRule],
        allowPolicyFor "other" []] : AuthPolicyLister) mcpBackend.namespace =
        .ok [allowPolicyFor "mcp" [agentAddRule], allowPolicyFor "other" []] ∧
      (fun _ : String => Except.ok [allowPolicyFor "other" [],
        allowPolicyFor "mcp" [agentAddRule]] : AuthPolicyLister)
          mcpBackend.namespace =
        .ok [allowPolicyFor "other" [], allowPolicyFor "mcp" [agentAddRule]] ∧
      [allowPolicyFor "mcp" [agentAddRule], allowPolicyFor "other" []].Perm
        [allowPolicyFor "other" [], allowPolicyFor "mcp" [agentAddRule]] ∧
      (∀ p ∈ [allowPolicyFor "mcp" [agentAddRule], allowPolicyFor "other" []],
        ∀ q ∈ [allowPolicyFor "mcp" [agentAddRule],
          allowPolicyFor "other" []],
        targetsBackend mcpBackend p = true → targetsBackend mcpBackend q = true → p = q) ∧
      rbacConfigFromAuthPolicy (fun _ => .ok [allowPolicyFor "mcp"
          [agentAddRule], allowPolicyFor "other" []]) mcpBackend =
        rbacConfigFromAuthPolicy (fun _ => .ok [allowPolicyFor "other" [],
          allowPolicyFor "mcp" [agentAddRule]]) mcpBackend :=
  ⟨rfl, rfl, List.Perm.swap _ _ _, by decide,
    rbacConfigFromAuthPolicy_perm _ _ _ _ _ rfl rfl (List.Perm.swap _ _ _) (by decide)⟩

/-- **Two AuthPolicies targeting one backend: the lister's order decides.**  Listed one way the
backend gets a rule policy, listed the other way it gets none. -/
theorem rbacConfigFromAuthPolicy_order_counterexample :
    [allowPolicyFor "mcp" [agentAddRule], allowPolicyFor "mcp" []].Perm
        [allowPolicyFor "mcp" [], allowPolicyFor "mcp" [agentAddRule]] ∧
      rbacConfigFromAuthPolicy (fun _ => .ok [allowPolicyFor "mcp"
          [agentAddRule], allowPolicyFor "mcp" []]) mcpBackend ≠
        rbacConfigFromAuthPolicy (fun _ => .ok [allowPolicyFor "mcp" [],
          allowPolicyFor "mcp" [agentAddRule]]) mcpBackend := by
  refine ⟨List.Perm.swap _ _ _, fun h => ?_⟩
  have key := congrArg (fun r : Except String HttpRBAC =>
    r.toOption.map fun c => (c.rules.policies.lookup "default-mcp-rule-0").isSome) h
  exact absurd key (by decide)

end AgenticNetworking.Translator
