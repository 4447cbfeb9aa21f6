import Mathlib.Data.Finmap

/-!
# Envoy's RBAC filter: what the policy compiler targets

The translator emits `envoy.extensions.filters.http.rbac.v3.RBAC` configurations.  Whether a
compiled policy means what the AuthPolicy says is a question about how Envoy evaluates that
configuration, so this file fixes the part of Envoy's data model the translator writes, and its
evaluation rules.

* **Data.**  `StringMatcher`, `HeaderMatcher`, `ValueMatcher`, `MetadataMatcher`, `Principal`,
  `Permission`, `Policy` and the two `RBAC` messages, with exactly the constructors the
  translator uses.  The policy map is a `Finmap`: a Go `map[string]*Policy` has no order, and
  two maps with the same entries are the same map.
* **Evaluation.**  `Principal.matches` and `Permission.matches` follow Envoy: `any` matches
  everything, `orIds`/`orRules` need one member and `andIds`/`andRules` need all of them.  An
  `ALLOW` configuration lets a request through iff some policy has a matching principal and a
  matching permission (`RBAC.allows`).
* **Schema.**  `Policy.schemaValid` is the protobuf validation Envoy runs on load: non-empty
  principal and permission lists, non-empty `Set`s, and at least two members in an `OrMatcher`.
  Envoy loads a configuration only if every policy of its map passes (`RBAC.schemaValid`).

Evaluation and validation are computable; `*_iff` lemmas turn them into the quantifier form the
later proofs use.
-/

namespace AgenticNetworking.Envoy

/-! ## Requests -/

/-- What the RBAC filter reads of a request: its headers, pseudo-headers such as `:method`
included, and the dynamic metadata earlier filters published, by filter name and key path. -/
structure Request where
  headers : String → Option String
  metadata : String → List String → Option String

/-! ## Matchers -/

/-- `type.matcher.v3.StringMatcher`, with the one pattern the translator emits. -/
inductive StringMatcher where
  | exact (value : String)
  deriving Repr, DecidableEq

/-- The `header_match_specifier` oneof of `route.v3.HeaderMatcher`. -/
inductive HeaderMatchSpecifier where
  | stringMatch (stringMatch : StringMatcher)
  | presentMatch (presentMatch : Bool)
  deriving Repr, DecidableEq

/-- `route.v3.HeaderMatcher`. -/
structure HeaderMatcher where
  name : String
  headerMatchSpecifier : HeaderMatchSpecifier
  deriving Repr, DecidableEq

/-- `type.matcher.v3.ValueMatcher`: a string pattern, or an `OrMatcher` over value matchers. -/
inductive ValueMatcher where
  | stringMatch (stringMatch : StringMatcher)
  | orMatch (valueMatchers : List ValueMatcher)
  deriving Repr

/-- `type.matcher.v3.MetadataMatcher`: the value a filter stored under a key path. -/
structure MetadataMatcher where
  filter : String
  path : List String
  value : ValueMatcher
  deriving Repr

/-- `config.rbac.v3.Principal`, with the identifiers the translator uses. -/
inductive Principal where
  | any
  | orIds (ids : List Principal)
  | andIds (ids : List Principal)
  | header (header : HeaderMatcher)
  deriving Repr

/-- `config.rbac.v3.Permission`, with the rules the translator uses. -/
inductive Permission where
  | any
  | andRules (rules : List Permission)
  | orRules (rules : List Permission)
  | header (header : HeaderMatcher)
  | sourcedMetadata (metadataMatcher : MetadataMatcher)
  deriving Repr

/-- `config.rbac.v3.Policy`. -/
structure Policy where
  principals : List Principal
  permissions : List Permission
  deriving Repr

/-- `config.rbac.v3.RBAC.Action`. -/
inductive Action where
  | ALLOW
  | DENY
  | LOG
  deriving Repr, DecidableEq

/-- A Go `map[string]*Policy`. -/
abbrev PolicyMap := Finmap fun _ : String => Policy

/-- `config.rbac.v3.RBAC`: the action and the named policies. -/
structure RBAC where
  action : Action
  policies : PolicyMap

/-- `extensions.filters.http.rbac.v3.RBAC`, the HTTP filter configuration. -/
structure HttpRBAC where
  rules : RBAC

/-! ## Evaluation -/

/-- A string pattern against a value. -/
def StringMatcher.matches : StringMatcher → String → Bool
  | .exact e, v => v == e

/-- A header matcher reads one header: a string match needs the header present with a matching
value, `presentMatch b` needs its presence to be `b`. -/
def HeaderMatcher.matches (h : HeaderMatcher) (r : Request) : Bool :=
  match h.headerMatchSpecifier, r.headers h.name with
  | .stringMatch m, some v => m.matches v
  | .stringMatch _, none => false
  | .presentMatch b, v => v.isSome == b

mutual
/-- A value matcher against the string a filter stored. -/
def ValueMatcher.matches : ValueMatcher → String → Bool
  | .stringMatch m, v => m.matches v
  | .orMatch vms, v => ValueMatcher.matchesAny vms v
/-- Some member of an `OrMatcher` matches. -/
def ValueMatcher.matchesAny : List ValueMatcher → String → Bool
  | [], _ => false
  | vm :: vms, v => vm.matches v || ValueMatcher.matchesAny vms v
end

/-- A metadata matcher fails when the filter stored nothing under the path. -/
def MetadataMatcher.matches (m : MetadataMatcher) (r : Request) : Bool :=
  match r.metadata m.filter m.path with
  | some v => m.value.matches v
  | none => false

mutual
/-- Whether a principal matches a request. -/
def Principal.matches (r : Request) : Principal → Bool
  | .any => true
  | .orIds ids => Principal.matchesAny r ids
  | .andIds ids => Principal.matchesAll r ids
  | .header h => h.matches r
/-- Some principal of the list matches. -/
def Principal.matchesAny (r : Request) : List Principal → Bool
  | [] => false
  | p :: ps => p.matches r || Principal.matchesAny r ps
/-- Every principal of the list matches. -/
def Principal.matchesAll (r : Request) : List Principal → Bool
  | [] => true
  | p :: ps => p.matches r && Principal.matchesAll r ps
end

mutual
/-- Whether a permission matches a request. -/
def Permission.matches (r : Request) : Permission → Bool
  | .any => true
  | .andRules rs => Permission.matchesAll r rs
  | .orRules rs => Permission.matchesAny r rs
  | .header h => h.matches r
  | .sourcedMetadata m => m.matches r
/-- Some permission of the list matches. -/
def Permission.matchesAny (r : Request) : List Permission → Bool
  | [] => false
  | p :: ps => p.matches r || Permission.matchesAny r ps
/-- Every permission of the list matches. -/
def Permission.matchesAll (r : Request) : List Permission → Bool
  | [] => true
  | p :: ps => p.matches r && Permission.matchesAll r ps
end

/-- A policy matches when one of its principals and one of its permissions do. -/
def Policy.matches (p : Policy) (r : Request) : Bool :=
  Principal.matchesAny r p.principals && Permission.matchesAny r p.permissions

/-- Some policy of the configuration matches the request. -/
def RBAC.someMatch (c : RBAC) (r : Request) : Prop :=
  ∃ e ∈ c.policies.entries, e.2.matches r = true

instance (c : RBAC) (r : Request) : Decidable (c.someMatch r) :=
  Multiset.decidableExistsMultiset

/-- Envoy's decision: `ALLOW` admits exactly the requests some policy matches, `DENY` exactly
the others, and `LOG` admits everything. -/
def RBAC.allows (c : RBAC) (r : Request) : Prop :=
  match c.action with
  | .ALLOW => c.someMatch r
  | .DENY => ¬ c.someMatch r
  | .LOG => True

instance (c : RBAC) (r : Request) : Decidable (c.allows r) :=
  match c with
  | ⟨.ALLOW, ps⟩ => inferInstanceAs (Decidable (RBAC.someMatch ⟨.ALLOW, ps⟩ r))
  | ⟨.DENY, ps⟩ => inferInstanceAs (Decidable ¬RBAC.someMatch ⟨.DENY, ps⟩ r)
  | ⟨.LOG, _⟩ => inferInstanceAs (Decidable True)

/-! ### Quantifier forms -/

@[simp] theorem StringMatcher.matches_exact (e v : String) :
    (StringMatcher.exact e).matches v = true ↔ v = e := by
  simp [StringMatcher.matches]

theorem HeaderMatcher.matches_stringMatch (n e : String) (r : Request) :
    (HeaderMatcher.mk n (.stringMatch (.exact e))).matches r = true ↔ r.headers n = some e := by
  unfold HeaderMatcher.matches
  cases r.headers n <;> simp

theorem HeaderMatcher.matches_present (n : String) (r : Request) :
    (HeaderMatcher.mk n (.presentMatch true)).matches r = true ↔ (r.headers n).isSome := by
  unfold HeaderMatcher.matches
  cases r.headers n <;> simp

@[simp] theorem ValueMatcher.matches_stringMatch (m : StringMatcher) (v : String) :
    (ValueMatcher.stringMatch m).matches v = m.matches v := by
  simp [ValueMatcher.matches]

@[simp] theorem ValueMatcher.matchesAny_iff (vms : List ValueMatcher) (v : String) :
    ValueMatcher.matchesAny vms v = true ↔ ∃ vm ∈ vms, vm.matches v = true := by
  induction vms with
  | nil => simp [ValueMatcher.matchesAny]
  | cons vm vms ih => simp [ValueMatcher.matchesAny, ih]

@[simp] theorem ValueMatcher.matches_orMatch (vms : List ValueMatcher) (v : String) :
    (ValueMatcher.orMatch vms).matches v = ValueMatcher.matchesAny vms v := by
  simp [ValueMatcher.matches]

theorem MetadataMatcher.matches_iff (m : MetadataMatcher) (r : Request) :
    m.matches r = true ↔ ∃ v, r.metadata m.filter m.path = some v ∧ m.value.matches v = true := by
  unfold MetadataMatcher.matches
  cases r.metadata m.filter m.path <;> simp

@[simp] theorem Principal.matchesAny_iff (r : Request) (ps : List Principal) :
    Principal.matchesAny r ps = true ↔ ∃ p ∈ ps, p.matches r = true := by
  induction ps with
  | nil => simp [Principal.matchesAny]
  | cons p ps ih => simp [Principal.matchesAny, ih]

@[simp] theorem Principal.matchesAll_iff (r : Request) (ps : List Principal) :
    Principal.matchesAll r ps = true ↔ ∀ p ∈ ps, p.matches r = true := by
  induction ps with
  | nil => simp [Principal.matchesAll]
  | cons p ps ih => simp [Principal.matchesAll, ih]

@[simp] theorem Permission.matchesAny_iff (r : Request) (ps : List Permission) :
    Permission.matchesAny r ps = true ↔ ∃ p ∈ ps, p.matches r = true := by
  induction ps with
  | nil => simp [Permission.matchesAny]
  | cons p ps ih => simp [Permission.matchesAny, ih]

@[simp] theorem Permission.matchesAll_iff (r : Request) (ps : List Permission) :
    Permission.matchesAll r ps = true ↔ ∀ p ∈ ps, p.matches r = true := by
  induction ps with
  | nil => simp [Permission.matchesAll]
  | cons p ps ih => simp [Permission.matchesAll, ih]

@[simp] theorem Principal.matches_any (r : Request) : Principal.any.matches r = true := rfl

@[simp] theorem Principal.matches_orIds (r : Request) (ids : List Principal) :
    (Principal.orIds ids).matches r = Principal.matchesAny r ids := rfl

@[simp] theorem Principal.matches_andIds (r : Request) (ids : List Principal) :
    (Principal.andIds ids).matches r = Principal.matchesAll r ids := rfl

@[simp] theorem Principal.matches_header (r : Request) (h : HeaderMatcher) :
    (Principal.header h).matches r = h.matches r := rfl

@[simp] theorem Permission.matches_any (r : Request) : Permission.any.matches r = true := rfl

@[simp] theorem Permission.matches_andRules (r : Request) (rs : List Permission) :
    (Permission.andRules rs).matches r = Permission.matchesAll r rs := rfl

@[simp] theorem Permission.matches_orRules (r : Request) (rs : List Permission) :
    (Permission.orRules rs).matches r = Permission.matchesAny r rs := rfl

@[simp] theorem Permission.matches_header (r : Request) (h : HeaderMatcher) :
    (Permission.header h).matches r = h.matches r := rfl

@[simp] theorem Permission.matches_sourcedMetadata (r : Request) (m : MetadataMatcher) :
    (Permission.sourcedMetadata m).matches r = m.matches r := rfl

theorem Policy.matches_iff (p : Policy) (r : Request) :
    p.matches r = true ↔
      (∃ pr ∈ p.principals, pr.matches r = true) ∧ ∃ pm ∈ p.permissions, pm.matches r = true := by
  simp [Policy.matches]

/-- **Some policy matches iff some named entry of the map does.** -/
theorem RBAC.someMatch_iff (c : RBAC) (r : Request) :
    c.someMatch r ↔ ∃ k p, c.policies.lookup k = some p ∧ p.matches r = true := by
  constructor
  · rintro ⟨⟨k, p⟩, hmem, hp⟩
    exact ⟨k, p, Finmap.lookup_eq_some_iff.mpr hmem, hp⟩
  · rintro ⟨k, p, hk, hp⟩
    exact ⟨⟨k, p⟩, Finmap.lookup_eq_some_iff.mp hk, hp⟩

theorem RBAC.allows_of_ALLOW {c : RBAC} (h : c.action = .ALLOW) (r : Request) :
    c.allows r ↔ ∃ k p, c.policies.lookup k = some p ∧ p.matches r = true := by
  rw [RBAC.allows, h, RBAC.someMatch_iff]

/-! ## Schema validation -/

mutual
/-- `OrMatcher.value_matchers` has `min_items: 2`. -/
def ValueMatcher.schemaValid : ValueMatcher → Bool
  | .stringMatch _ => true
  | .orMatch vms => decide (2 ≤ vms.length) && ValueMatcher.allSchemaValid vms
/-- Every value matcher of the list is valid. -/
def ValueMatcher.allSchemaValid : List ValueMatcher → Bool
  | [] => true
  | vm :: vms => vm.schemaValid && ValueMatcher.allSchemaValid vms
end

mutual
/-- `Principal.Set.ids` has `min_items: 1`. -/
def Principal.schemaValid : Principal → Bool
  | .any => true
  | .orIds ids => !ids.isEmpty && Principal.allSchemaValid ids
  | .andIds ids => !ids.isEmpty && Principal.allSchemaValid ids
  | .header _ => true
/-- Every principal of the list is valid. -/
def Principal.allSchemaValid : List Principal → Bool
  | [] => true
  | p :: ps => p.schemaValid && Principal.allSchemaValid ps
end

mutual
/-- `Permission.Set.rules` has `min_items: 1`; a metadata matcher's value is validated too. -/
def Permission.schemaValid : Permission → Bool
  | .any => true
  | .andRules rs => !rs.isEmpty && Permission.allSchemaValid rs
  | .orRules rs => !rs.isEmpty && Permission.allSchemaValid rs
  | .header _ => true
  | .sourcedMetadata m => m.value.schemaValid
/-- Every permission of the list is valid. -/
def Permission.allSchemaValid : List Permission → Bool
  | [] => true
  | p :: ps => p.schemaValid && Permission.allSchemaValid ps
end

/-- `Policy.principals` and `Policy.permissions` have `min_items: 1`, and every member must be
valid. -/
def Policy.schemaValid (p : Policy) : Bool :=
  !p.principals.isEmpty && !p.permissions.isEmpty &&
    Principal.allSchemaValid p.principals && Permission.allSchemaValid p.permissions

/-- The policy map is validated with its values: one invalid policy rejects the whole
configuration. -/
def RBAC.schemaValid (c : RBAC) : Prop :=
  ∀ e ∈ c.policies.entries, e.2.schemaValid = true

instance (c : RBAC) : Decidable c.schemaValid :=
  inferInstanceAs (Decidable (∀ e ∈ c.policies.entries, _))

@[simp] theorem ValueMatcher.allSchemaValid_iff (vms : List ValueMatcher) :
    ValueMatcher.allSchemaValid vms = true ↔ ∀ vm ∈ vms, vm.schemaValid = true := by
  induction vms with
  | nil => simp [ValueMatcher.allSchemaValid]
  | cons vm vms ih => simp [ValueMatcher.allSchemaValid, ih]

@[simp] theorem Principal.allSchemaValid_iff (ps : List Principal) :
    Principal.allSchemaValid ps = true ↔ ∀ p ∈ ps, p.schemaValid = true := by
  induction ps with
  | nil => simp [Principal.allSchemaValid]
  | cons p ps ih => simp [Principal.allSchemaValid, ih]

@[simp] theorem Permission.allSchemaValid_iff (ps : List Permission) :
    Permission.allSchemaValid ps = true ↔ ∀ p ∈ ps, p.schemaValid = true := by
  induction ps with
  | nil => simp [Permission.allSchemaValid]
  | cons p ps ih => simp [Permission.allSchemaValid, ih]

theorem RBAC.schemaValid_iff (c : RBAC) :
    c.schemaValid ↔ ∀ k p, c.policies.lookup k = some p → p.schemaValid = true :=
  ⟨fun h k p hk => h ⟨k, p⟩ (Finmap.lookup_eq_some_iff.mp hk),
    fun h e he => h e.1 e.2 (Finmap.lookup_eq_some_iff.mpr he)⟩

end AgenticNetworking.Envoy
