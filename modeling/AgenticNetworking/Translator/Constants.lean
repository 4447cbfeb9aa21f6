import AgenticNetworking.Go.Decimal

/-!
# Resource names (`translator/constants.go`)

The translator names Envoy resources with `fmt.Sprintf` over fixed formats.  Two of them decide
whether distinct inputs can land on the same name:

* `ClusterNameFormat = "%s-%s"` — **not injective**: the separator may also occur inside the
  namespace or the name, so `clusterNameFormat "team-a" "mcp" = clusterNameFormat "team" "a-mcp"`.
  It is injective when the namespaces agree, or when neither contains `'-'`
  (`clusterNameFormat_inj`).
* `RBACPolicyNameFormat = "%s-%s-rule-%d"` — injective in the rule index for a fixed backend
  (`rbacPolicyNameFormat_index_inj`), and always ends in a digit
  (`rbacPolicyNameFormat_getLast?`), which is what keeps rule policies apart from the baked-in
  policy names.
-/

namespace AgenticNetworking

/-- `ClusterNameFormat = "%s-%s"`: `<namespace>-<backend-name>`. -/
def clusterNameFormat (ns name : String) : String := ns ++ "-" ++ name

/-- `RBACPolicyNameFormat = "%s-%s-rule-%d"`: `<namespace>-<backend-name>-rule-<rule-index>`. -/
def rbacPolicyNameFormat (ns name : String) (i : ℕ) : String :=
  ns ++ "-" ++ name ++ "-rule-" ++ toString i

/-! ## Cluster names -/

/-- Splitting at the first occurrence of a separator that neither prefix contains. -/
theorem append_cons_inj_of_not_mem {c : Char} :
    ∀ {a₁ a₂ b₁ b₂ : List Char}, c ∉ a₁ → c ∉ a₂ → a₁ ++ c :: b₁ = a₂ ++ c :: b₂ →
      a₁ = a₂ ∧ b₁ = b₂
  | [], [], _, _, _, _, h => ⟨rfl, by simpa using h⟩
  | [], x :: _, _, _, _, h₂, h => absurd (by simp at h; exact h.1 ▸ List.mem_cons_self x _) h₂
  | x :: _, [], _, _, h₁, _, h => absurd (by simp at h; exact h.1 ▸ List.mem_cons_self x _) h₁
  | x :: a₁, y :: a₂, _, _, h₁, h₂, h => by
      simp only [List.cons_append, List.cons.injEq] at h
      obtain ⟨hxy, hrest⟩ := h
      obtain ⟨ha, hb⟩ := append_cons_inj_of_not_mem (List.not_mem_of_not_mem_cons h₁)
        (List.not_mem_of_not_mem_cons h₂) hrest
      exact ⟨by rw [hxy, ha], hb⟩

/-- **When cluster names determine the backend.**  Equal names come from equal
`(namespace, name)` pairs if the namespaces are equal, or if neither contains `'-'`. -/
theorem clusterNameFormat_inj {ns₁ ns₂ n₁ n₂ : String}
    (hns : ns₁ = ns₂ ∨ ('-' ∉ ns₁.data ∧ '-' ∉ ns₂.data))
    (h : clusterNameFormat ns₁ n₁ = clusterNameFormat ns₂ n₂) : ns₁ = ns₂ ∧ n₁ = n₂ := by
  have hd : ns₁.data ++ '-' :: n₁.data = ns₂.data ++ '-' :: n₂.data := by
    simpa [clusterNameFormat] using congrArg String.data h
  rcases hns with rfl | ⟨h₁, h₂⟩
  · exact ⟨rfl, String.ext (List.append_cancel_left hd |> List.cons.inj |>.2)⟩
  · obtain ⟨ha, hb⟩ := append_cons_inj_of_not_mem h₁ h₂ hd
    exact ⟨String.ext ha, String.ext hb⟩

/-! ## RBAC policy names -/

/-- **No two rules of one backend share a policy name.** -/
theorem rbacPolicyNameFormat_index_inj {ns name : String} {i j : ℕ}
    (h : rbacPolicyNameFormat ns name i = rbacPolicyNameFormat ns name j) : i = j := by
  have hd := congrArg String.data h
  simp only [rbacPolicyNameFormat, String.data_append] at hd
  exact Go.toString_injective (String.ext (List.append_cancel_left hd))

/-- A policy name ends in the digits of its index. -/
theorem rbacPolicyNameFormat_getLast? (ns name : String) (i : ℕ) :
    ∃ c, (rbacPolicyNameFormat ns name i).data.getLast? = some c ∧ c.isDigit = true :=
  Go.getLast?_append_toString _ i

/-- So a policy name differs from every string that does not end in a digit. -/
theorem rbacPolicyNameFormat_ne {s : String} {c : Char} (hs : s.data.getLast? = some c)
    (hc : c.isDigit = false) (ns name : String) (i : ℕ) : rbacPolicyNameFormat ns name i ≠ s := by
  rintro rfl
  obtain ⟨d, hd, hdig⟩ := rbacPolicyNameFormat_getLast? ns name i
  rw [hs, Option.some.injEq] at hd
  rw [hd] at hc
  exact absurd hdig (by simp [hc])

end AgenticNetworking
