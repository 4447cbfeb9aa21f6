import Mathlib.Data.List.Basic
import AgenticNetworking.Translator.Backend

/-!
# The command-line tool's static bootstrap file

`main` translates one Gateway into xDS resources and hands them, a map from type URL to
resources, to `generateAndSaveBootstrapConfig`.  That marshals every resource of every type,
keeps the listeners and the clusters as Envoy's `static_resources`, adds the admin interface,
and writes the document as JSON and then as YAML.

The marshallers and the file system are parameters: `marshal` (protojson, which can fail),
`marshalIndent`, `JSONToYAML` and `writeFile` (the error of `os.WriteFile`, if any).  The
resource map is a list in the order Go's `range` visits it, so every result below holds for
every iteration order.

* **Marshalling.**  It fails exactly when some resource of some type fails to marshal, and its
  error names the type of a resource that failed, with that resource's error
  (`marshalResources_error_iff`, `marshalResources_error`).  When it succeeds, each type with
  resources has its resources marshalled in order, and a type with none has no entry
  (`lookup_marshalResources`): an empty listener list leaves `listeners` out of the file.
* **The files.**  The function's effect is the list of `os.WriteFile` calls it makes.  It returns
  nil only when the JSON file's write and then the YAML file's returned nil, the first with the
  document's JSON and the second with the YAML form of exactly those bytes
  (`generateAndSaveBootstrapConfig_eq_none`).  What a failed write leaves in its file (truncated,
  or part of the bytes) is `os.WriteFile`'s, and nothing here depends on it.
-/

namespace AgenticNetworking

namespace Cli

open Translator (bind_eq_ok bind_eq_error mapM_eq_ok_iff)

/-- `resourcev3.ListenerType`. -/
def ListenerType : String := "type.googleapis.com/envoy.config.listener.v3.Listener"

/-- `resourcev3.ClusterType`. -/
def ClusterType : String := "type.googleapis.com/envoy.config.cluster.v3.Cluster"

/-- The document `generateAndSaveBootstrapConfig` writes: the admin interface's socket address,
and `static_resources` with the marshalled listeners and clusters; a key the code does not set is
`none`. -/
structure BootstrapOutput (J : Type) where
  adminAddress : String
  adminPortValue : ℕ
  listeners : Option (List J)
  clusters : Option (List J)

section Generate

variable {ρ J : Type} (marshal : ρ → Except String J)

/-- One iteration of the inner loop over a type's resources: the resource marshalled, or its
error wrapped with the type. -/
def marshalOne (typeURL : String) (res : ρ) : Except String J :=
  match marshal res with
  | .ok jsonBytes => .ok jsonBytes
  | .error err => .error ("error marshaling resource of type " ++ typeURL ++ ": " ++ err)

/-- The inner loop: each resource of the type marshalled in order, up to the first failure. -/
def marshalList (typeURL : String) (resList : List ρ) : Except String (List J) :=
  resList.mapM (marshalOne marshal typeURL)

/-- `marshaledResources` as the outer loop over the resource map leaves it: a type gets an entry
with its first appended resource, so a type without resources has none. -/
def marshalResources : List (String × List ρ) → Except String (List (String × List J))
  | [] => .ok []
  | (typeURL, resList) :: resources =>
    match marshalList marshal typeURL resList, marshalResources resources with
    | .error err, _ => .error err
    | .ok _, .error err => .error err
    | .ok jsonList, .ok marshaledResources =>
      .ok (if jsonList.isEmpty then marshaledResources
        else (typeURL, jsonList) :: marshaledResources)

/-- `output`: the admin interface on `0.0.0.0:9901`, and the `listeners` and `clusters` entries
of `marshaledResources`, where it has them. -/
def bootstrapOutput (marshaledResources : List (String × List J)) : BootstrapOutput J :=
  ⟨"0.0.0.0", 9901, marshaledResources.lookup ListenerType, marshaledResources.lookup ClusterType⟩

variable (marshalIndent : BootstrapOutput J → Except String String)
  (writeFile : String → String → Option String) (JSONToYAML : String → Except String String)

/-- `generateAndSaveBootstrapConfig`: the error it returns, if any, and the `os.WriteFile` calls
it makes, in order, each with its file and the bytes it asks to write.  A failed call is listed
too: it may have truncated the file or written part of the bytes. -/
def generateAndSaveBootstrapConfig (resources : List (String × List ρ))
    (outputJSONFile outputYAMLFile : String) : Option String × List (String × String) :=
  match marshalResources marshal resources with
  | .error err => (some err, [])
  | .ok marshaledResources =>
    match marshalIndent (bootstrapOutput marshaledResources) with
    | .error err => (some err, [])
    | .ok jsonBytes =>
      match writeFile outputJSONFile jsonBytes with
      | some err =>
        (some ("error writing to output file " ++ outputJSONFile ++ ": " ++ err),
          [(outputJSONFile, jsonBytes)])
      | none =>
        match JSONToYAML jsonBytes with
        | .error err =>
          (some ("error converting JSON to YAML: " ++ err), [(outputJSONFile, jsonBytes)])
        | .ok yamlBytes =>
          match writeFile outputYAMLFile yamlBytes with
          | some err =>
            (some ("error writing to output file " ++ outputYAMLFile ++ ": " ++ err),
              [(outputJSONFile, jsonBytes), (outputYAMLFile, yamlBytes)])
          | none => (none, [(outputJSONFile, jsonBytes), (outputYAMLFile, yamlBytes)])

/-! ## Marshalling -/

theorem mapM_eq_error {ε α β : Type} {f : α → Except ε β} :
    ∀ {xs : List α} {e : ε}, xs.mapM f = .error e → ∃ x ∈ xs, f x = .error e
  | [], _, h => nomatch h
  | x :: xs, e, h => by
    rw [List.mapM_cons, bind_eq_error] at h
    rcases h with h | ⟨_, -, h⟩
    · exact ⟨x, List.mem_cons_self _ _, h⟩
    rw [bind_eq_error] at h
    rcases h with h | ⟨_, -, h⟩
    · obtain ⟨x', hx', h'⟩ := mapM_eq_error h
      exact ⟨x', List.mem_cons_of_mem _ hx', h'⟩
    · cases h

theorem mapM_ok_iff_forall {ε α β : Type} {f : α → Except ε β} :
    ∀ {xs : List α}, (∃ ys, xs.mapM f = .ok ys) ↔ ∀ x ∈ xs, ∃ y, f x = .ok y
  | [] => ⟨fun _ _ hx => (nomatch hx), fun _ => ⟨[], rfl⟩⟩
  | x :: xs => by
    rw [List.forall_mem_cons, ← mapM_ok_iff_forall]
    simp only [List.mapM_cons, bind_eq_ok]
    constructor
    · rintro ⟨_, y, hy, ys, hys, -⟩
      exact ⟨⟨y, hy⟩, ys, hys⟩
    · rintro ⟨⟨y, hy⟩, ys, hys⟩
      exact ⟨y :: ys, y, hy, ys, hys, rfl⟩

@[simp] theorem marshalOne_eq_ok (typeURL : String) (res : ρ) (j : J) :
    marshalOne marshal typeURL res = .ok j ↔ marshal res = .ok j := by
  unfold marshalOne
  cases marshal res <;> simp

theorem marshalOne_eq_error (typeURL : String) (res : ρ) (err : String) :
    marshalOne marshal typeURL res = .error err ↔
      ∃ e, marshal res = .error e ∧ err = "error marshaling resource of type " ++ typeURL ++ ": " ++ e
      := by
  unfold marshalOne
  cases marshal res <;> simp [eq_comm]

theorem marshalList_eq_ok (typeURL : String) (resList : List ρ) (jsonList : List J) :
    marshalList marshal typeURL resList = .ok jsonList ↔ resList.mapM marshal = .ok jsonList := by
  simp only [marshalList, mapM_eq_ok_iff, marshalOne_eq_ok]

theorem marshalResources_cons_eq_ok {typeURL : String} {resList : List ρ}
    {resources : List (String × List ρ)} {m : List (String × List J)} :
    marshalResources marshal ((typeURL, resList) :: resources) = .ok m ↔
      ∃ jsonList m', resList.mapM marshal = .ok jsonList ∧
        marshalResources marshal resources = .ok m' ∧
        m = if jsonList.isEmpty then m' else (typeURL, jsonList) :: m' := by
  simp only [marshalResources, ← marshalList_eq_ok marshal typeURL]
  split
  · next err hl => simp [hl]
  · next _ err hl hr => simp [hl, hr]
  · next jsonList m' hl hr => simp [hl, hr, @eq_comm _ m]

/-- **Marshalling errors name their type**: the error `marshalResources` returns is the error of
a resource that failed to marshal, wrapped with that resource's type URL. -/
theorem marshalResources_error (resources : List (String × List ρ)) (err : String)
    (h : marshalResources marshal resources = .error err) :
    ∃ typeURL resList, (typeURL, resList) ∈ resources ∧ ∃ res ∈ resList, ∃ e,
      marshal res = .error e ∧ err = "error marshaling resource of type " ++ typeURL ++ ": " ++ e
      := by
  induction resources with
  | nil => cases h
  | cons entry resources ih =>
    obtain ⟨typeURL, resList⟩ := entry
    simp only [marshalResources] at h
    split at h
    · next e hl =>
      cases h
      obtain ⟨res, hres, he⟩ := mapM_eq_error hl
      exact ⟨typeURL, resList, List.mem_cons_self _ _, res, hres,
        (marshalOne_eq_error marshal _ _ _).mp he⟩
    · next e hr =>
      cases h
      obtain ⟨t, rs, hmem, hres⟩ := ih hr
      exact ⟨t, rs, List.mem_cons_of_mem _ hmem, hres⟩
    · cases h

/-- A stand-in for protojson: it fails on the resource `bad`. -/
def marshalExample (res : String) : Except String String :=
  if res = "bad" then .error "proto: cannot marshal" else .ok res

/-- Routes that fail to marshal: the error names the route type. -/
theorem marshalResources_error_route :
    marshalResources marshalExample
        [(ListenerType, ["listener-10001"]), ("envoy.config.route.v3.RouteConfiguration", ["bad"])] =
      .error "error marshaling resource of type envoy.config.route.v3.RouteConfiguration: proto: cannot marshal" ∧
    ∃ typeURL resList, (typeURL, resList) ∈
        [(ListenerType, ["listener-10001"]), ("envoy.config.route.v3.RouteConfiguration", ["bad"])] ∧
      ∃ res ∈ resList, ∃ e, marshalExample res = .error e ∧
        "error marshaling resource of type envoy.config.route.v3.RouteConfiguration: proto: cannot marshal" =
          "error marshaling resource of type " ++ typeURL ++ ": " ++ e :=
  have h : marshalResources marshalExample
      [(ListenerType, ["listener-10001"]), ("envoy.config.route.v3.RouteConfiguration", ["bad"])] =
      .error "error marshaling resource of type envoy.config.route.v3.RouteConfiguration: proto: cannot marshal" :=
    rfl
  ⟨h, marshalResources_error marshalExample _ _ h⟩

theorem marshalResources_ok_iff (resources : List (String × List ρ)) :
    (∃ m, marshalResources marshal resources = .ok m) ↔
      ∀ entry ∈ resources, ∀ res ∈ entry.2, ∃ j, marshal res = .ok j := by
  induction resources with
  | nil => simp [marshalResources]
  | cons entry resources ih =>
    obtain ⟨typeURL, resList⟩ := entry
    rw [List.forall_mem_cons, ← ih, ← mapM_ok_iff_forall]
    constructor
    · rintro ⟨m, hm⟩
      obtain ⟨jsonList, m', hl, hr, -⟩ := (marshalResources_cons_eq_ok marshal).mp hm
      exact ⟨⟨jsonList, hl⟩, m', hr⟩
    · rintro ⟨⟨jsonList, hl⟩, m', hr⟩
      exact ⟨_, (marshalResources_cons_eq_ok marshal).mpr ⟨jsonList, m', hl, hr, rfl⟩⟩

/-- **Marshalling fails exactly when some resource does**, whatever order the map is visited in.
-/
theorem marshalResources_error_iff (resources : List (String × List ρ)) :
    (∃ err, marshalResources marshal resources = .error err) ↔
      ∃ typeURL resList, (typeURL, resList) ∈ resources ∧ ∃ res ∈ resList, ∃ e,
        marshal res = .error e := by
  -- an `Except` fails exactly when it does not succeed
  have hfails : ∀ {α : Type} (x : Except String α), (∃ e, x = .error e) ↔ ¬∃ a, x = .ok a := by
    intro α x
    cases x <;> simp
  simp only [hfails, marshalResources_ok_iff, not_forall, not_exists, Prod.exists, exists_prop]

theorem lookup_cons_of_ne {β : Type} {typeURL t : String} (b : β) (l : List (String × β))
    (h : typeURL ≠ t) : ((t, b) :: l).lookup typeURL = l.lookup typeURL := by
  have hb : (typeURL == t) = false := by simpa using h
  simp only [List.lookup_cons, hb]

/-- **Each type's entry holds its resources, marshalled in order**, and a type without resources
has none: `listeners` and `clusters` are written just when the map has resources of their type.
-/
theorem lookup_marshalResources {resources : List (String × List ρ)} {m : List (String × List J)}
    (hkeys : (resources.map Prod.fst).Nodup) (h : marshalResources marshal resources = .ok m)
    (typeURL : String) :
    m.lookup typeURL = ((resources.lookup typeURL).filter fun resList => !resList.isEmpty).bind
      fun resList => (resList.mapM marshal).toOption := by
  induction resources generalizing m with
  | nil =>
    cases h
    rfl
  | cons entry resources ih =>
    obtain ⟨t, resList⟩ := entry
    obtain ⟨jsonList, m', hl, hr, rfl⟩ := (marshalResources_cons_eq_ok marshal).mp h
    rw [List.map_cons, List.nodup_cons] at hkeys
    have hempty : jsonList.isEmpty = resList.isEmpty := by
      have := ((mapM_eq_ok_iff marshal resList jsonList).mp hl).length_eq
      cases resList <;> cases jsonList <;> simp_all
    by_cases ht : typeURL = t
    · subst ht
      rw [List.lookup_cons_self]
      cases hj : jsonList.isEmpty
      · -- the type has resources: its entry is their marshalled list
        rw [if_neg (by simp [hj])]
        simp only [List.lookup_cons_self, Option.filter, ← hempty, hj, Bool.not_false,
          if_true, Option.some_bind, hl, Except.toOption]
      · -- it has none, and no later entry has its type
        have hnone : resources.lookup typeURL = none :=
          List.lookup_eq_none_iff.mpr fun p hp => by
            have hne : typeURL ≠ p.1 := fun h => hkeys.1 (List.mem_map.mpr ⟨p, hp, h.symm⟩)
            simpa using hne
        rw [if_pos rfl, ih hkeys.2 hr, hnone]
        simp only [Option.filter, ← hempty, hj, Bool.not_true, Bool.false_eq_true, if_false,
          Option.none_bind]
    · rw [lookup_cons_of_ne _ _ ht, ← ih hkeys.2 hr]
      split_ifs
      · rfl
      · exact lookup_cons_of_ne _ _ ht

/-- A listener and no clusters. -/
def listenerOnly : List (String × List String) :=
  [(ListenerType, ["listener-10001"]), (ClusterType, [])]

/-- With no clusters at all, the file has listeners and no `clusters` key. -/
theorem lookup_marshalResources_no_clusters :
    (listenerOnly.map Prod.fst).Nodup ∧
    marshalResources marshalExample listenerOnly = .ok [(ListenerType, ["listener-10001"])] ∧
    ([(ListenerType, ["listener-10001"])] : List (String × List String)).lookup ClusterType =
      ((listenerOnly.lookup ClusterType).filter fun resList => !resList.isEmpty).bind
        fun resList => (resList.mapM marshalExample).toOption :=
  have hkeys : (listenerOnly.map Prod.fst).Nodup := by decide
  have h : marshalResources marshalExample listenerOnly =
      .ok [(ListenerType, ["listener-10001"])] := rfl
  ⟨hkeys, h, lookup_marshalResources marshalExample hkeys h ClusterType⟩

/-! ## The files -/

/-- `jsonBytes` is the document for `resources`: every resource marshalled, and the document
indented. -/
def DocumentJSON (resources : List (String × List ρ)) (jsonBytes : String) : Prop :=
  ∃ m, marshalResources marshal resources = .ok m ∧
    marshalIndent (bootstrapOutput m) = .ok jsonBytes

/-- **nil means both files were written**: when `generateAndSaveBootstrapConfig` returns nil,
it made two `os.WriteFile` calls and both returned nil, the first writing the document's JSON to
the JSON file and the second the YAML form of exactly those bytes to the YAML file. -/
theorem generateAndSaveBootstrapConfig_eq_none {resources : List (String × List ρ)}
    {outputJSONFile outputYAMLFile : String}
    (h : (generateAndSaveBootstrapConfig marshal marshalIndent writeFile JSONToYAML resources
      outputJSONFile outputYAMLFile).1 = none) :
    ∃ jsonBytes yamlBytes, DocumentJSON marshal marshalIndent resources jsonBytes ∧
      JSONToYAML jsonBytes = .ok yamlBytes ∧ writeFile outputJSONFile jsonBytes = none ∧
      writeFile outputYAMLFile yamlBytes = none ∧
      (generateAndSaveBootstrapConfig marshal marshalIndent writeFile JSONToYAML resources
        outputJSONFile outputYAMLFile).2 =
        [(outputJSONFile, jsonBytes), (outputYAMLFile, yamlBytes)] := by
  unfold generateAndSaveBootstrapConfig at h ⊢
  split at h
  · cases h
  next m hm =>
  split at h
  · cases h
  next jsonBytes hj =>
  split at h
  · cases h
  next hwj =>
  split at h
  · cases h
  next yamlBytes hy =>
  split at h
  · cases h
  next hwy =>
  simp only [hm, hj, hwj, hy, hwy]
  exact ⟨jsonBytes, yamlBytes, ⟨m, hm, hj⟩, hy, hwj, hwy, rfl⟩

end Generate

end Cli

end AgenticNetworking
