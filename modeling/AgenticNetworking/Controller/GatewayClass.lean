import Mathlib.Data.List.Nodup
import AgenticNetworking.Infra.ApiServer

/-!
# Accepting GatewayClasses

The GatewayClass handlers run `syncGatewayClass` on the class's key (its name; GatewayClasses
have no namespace).  For a class whose `controllerName` is this controller's, it sets the
`Accepted` condition to `True` at the class's generation with apimachinery's
`meta.SetStatusCondition` and sends the class to `UpdateStatus`; any other class, and a class
the lister cannot get, is left alone.  `SetStatusCondition` is a library function; it is given
here as apimachinery writes it, with `now` for `time.Now()`.

* **`SetStatusCondition`.**  Afterwards the new condition's type is found with the new
  condition's status, reason, message and generation, and with a transition time that moves only
  when the status changes (`FindStatusCondition_SetStatusCondition`); the conditions of every
  other type are untouched (`SetStatusCondition_filter`), and no type is listed twice that was
  not before (`SetStatusCondition_nodup`).
* **What a sync sends.**  Only a class of this controller is updated, with everything but its
  conditions as the lister gave it, `Accepted` true at its generation, and every other condition
  as it was (`syncGatewayClass_accepted`); a class whose condition types are unique keeps them
  unique (`syncGatewayClass_nodup`).
* **Re-syncs are no-ops.**  Once the status a sync sent is stored, the next sync of the class
  sends it unchanged, at any later time (`syncGatewayClass_idempotent`): informer resyncs never
  move the condition's transition time.
-/

namespace AgenticNetworking

namespace Controller

open Infra (APIError)

/-- `controllerName`. -/
def controllerName : String := "sig.k8s.io/kube-agentic-networking-controller"

/-! ## Conditions -/

/-- `metav1.ConditionStatus`. -/
inductive ConditionStatus
  | conditionTrue
  | conditionFalse
  | conditionUnknown
  deriving Repr, DecidableEq

/-- `metav1.Condition`; the transition time is in seconds, `0` being the zero time. -/
structure Condition where
  type : String
  status : ConditionStatus
  observedGeneration : ℤ
  lastTransitionTime : ℕ
  reason : String
  message : String
  deriving Repr, DecidableEq

/-- `meta.FindStatusCondition`: the first condition of the type. -/
def FindStatusCondition (conditions : List Condition) (conditionType : String) :
    Option Condition :=
  conditions.find? (·.type = conditionType)

/-- The transition time `SetStatusCondition` stamps: the new condition's, or `time.Now()` when
that is zero. -/
def transitionTime (now : ℕ) (newCondition : Condition) : ℕ :=
  if newCondition.lastTransitionTime = 0 then now else newCondition.lastTransitionTime

/-- `SetStatusCondition` on the existing condition of the new one's type: the status (with a new
transition time when it differs), reason, message and generation are the new condition's; the
flag says whether any of them differed. -/
def mergeCondition (now : ℕ) (existing newCondition : Condition) : Condition × Bool :=
  (⟨existing.type, newCondition.status, newCondition.observedGeneration,
      if existing.status ≠ newCondition.status then transitionTime now newCondition
      else existing.lastTransitionTime,
      newCondition.reason, newCondition.message⟩,
    existing.status ≠ newCondition.status ∨ existing.reason ≠ newCondition.reason ∨
      existing.message ≠ newCondition.message ∨
      existing.observedGeneration ≠ newCondition.observedGeneration)

/-- `meta.SetStatusCondition`: the first condition of the new one's type is updated in place, or,
with none, the new condition is appended with its transition time stamped; and whether the
conditions changed. -/
def SetStatusCondition (now : ℕ) : List Condition → Condition → List Condition × Bool
  | [], newCondition =>
    ([{ newCondition with lastTransitionTime := transitionTime now newCondition }], true)
  | existing :: conditions, newCondition =>
    if existing.type = newCondition.type then
      ((mergeCondition now existing newCondition).1 :: conditions,
        (mergeCondition now existing newCondition).2)
    else
      (existing :: (SetStatusCondition now conditions newCondition).1,
        (SetStatusCondition now conditions newCondition).2)

/-- The transition time `SetStatusCondition` leaves on the condition of the new one's type: the
old one's while the status stays, the stamped one otherwise. -/
def transitionTimeAfter (now : ℕ) (old : Option Condition) (newCondition : Condition) : ℕ :=
  match old with
  | some old =>
    if old.status = newCondition.status then old.lastTransitionTime
    else transitionTime now newCondition
  | none => transitionTime now newCondition

section SetStatusCondition

variable (now : ℕ) (newCondition : Condition)

@[simp] theorem SetStatusCondition_nil :
    SetStatusCondition now [] newCondition =
      ([{ newCondition with lastTransitionTime := transitionTime now newCondition }], true) :=
  rfl

theorem SetStatusCondition_cons_of_type {existing : Condition} (conditions : List Condition)
    (h : existing.type = newCondition.type) :
    SetStatusCondition now (existing :: conditions) newCondition =
      ((mergeCondition now existing newCondition).1 :: conditions,
        (mergeCondition now existing newCondition).2) :=
  if_pos h

theorem SetStatusCondition_cons_of_ne {existing : Condition} (conditions : List Condition)
    (h : existing.type ≠ newCondition.type) :
    SetStatusCondition now (existing :: conditions) newCondition =
      (existing :: (SetStatusCondition now conditions newCondition).1,
        (SetStatusCondition now conditions newCondition).2) :=
  if_neg h

@[simp] theorem mergeCondition_type (existing : Condition) :
    (mergeCondition now existing newCondition).1.type = existing.type :=
  rfl

/-- **The new condition is found afterwards**, with its status, reason, message and generation,
and a transition time that moves only when the status changes. -/
theorem FindStatusCondition_SetStatusCondition (conditions : List Condition) :
    FindStatusCondition (SetStatusCondition now conditions newCondition).1 newCondition.type =
      some { newCondition with
        lastTransitionTime :=
          transitionTimeAfter now (FindStatusCondition conditions newCondition.type)
            newCondition } := by
  induction conditions with
  | nil => simp [FindStatusCondition, transitionTimeAfter]
  | cons existing conditions ih =>
    by_cases h : existing.type = newCondition.type
    · rw [SetStatusCondition_cons_of_type now newCondition conditions h]
      obtain ⟨t, s, g, l, r, m⟩ := existing
      simp only at h
      subst h
      by_cases hs : s = newCondition.status <;>
        simp [FindStatusCondition, transitionTimeAfter, mergeCondition, hs]
    · rw [SetStatusCondition_cons_of_ne now newCondition conditions h]
      simpa [FindStatusCondition, h] using ih

/-- **Conditions of other types are untouched**, in number and order. -/
theorem SetStatusCondition_filter (conditions : List Condition) :
    (SetStatusCondition now conditions newCondition).1.filter (·.type ≠ newCondition.type) =
      conditions.filter (·.type ≠ newCondition.type) := by
  induction conditions with
  | nil => simp
  | cons existing conditions ih =>
    by_cases h : existing.type = newCondition.type
    · rw [SetStatusCondition_cons_of_type now newCondition conditions h]
      simp [List.filter_cons, h]
    · rw [SetStatusCondition_cons_of_ne now newCondition conditions h]
      dsimp only
      rw [List.filter_cons, List.filter_cons, ih]

/-- The types afterwards: the same, with the new type appended when it was missing. -/
theorem SetStatusCondition_map_type (conditions : List Condition) :
    (SetStatusCondition now conditions newCondition).1.map Condition.type =
      if newCondition.type ∈ conditions.map Condition.type then conditions.map Condition.type
      else conditions.map Condition.type ++ [newCondition.type] := by
  induction conditions with
  | nil => simp
  | cons existing conditions ih =>
    by_cases h : existing.type = newCondition.type
    · rw [SetStatusCondition_cons_of_type now newCondition conditions h]
      simp [h]
    · rw [SetStatusCondition_cons_of_ne now newCondition conditions h]
      simp only [List.map_cons, ih, List.mem_cons, Ne.symm h, false_or]
      split_ifs <;> rfl

/-- **No type is listed twice** that was not before. -/
theorem SetStatusCondition_nodup {conditions : List Condition}
    (h : (conditions.map Condition.type).Nodup) :
    ((SetStatusCondition now conditions newCondition).1.map Condition.type).Nodup := by
  rw [SetStatusCondition_map_type]
  split_ifs with hmem
  · exact h
  · exact List.nodup_append.mpr ⟨h, List.nodup_singleton _, by simpa using hmem⟩

/-- Setting a condition a second time changes nothing, at any time. -/
theorem SetStatusCondition_idem (now' : ℕ) (conditions : List Condition) :
    SetStatusCondition now' (SetStatusCondition now conditions newCondition).1 newCondition =
      ((SetStatusCondition now conditions newCondition).1, false) := by
  induction conditions with
  | nil => simp [SetStatusCondition, mergeCondition]
  | cons existing conditions ih =>
    by_cases h : existing.type = newCondition.type
    · rw [SetStatusCondition_cons_of_type now newCondition conditions h,
        SetStatusCondition_cons_of_type now' newCondition conditions (by rwa [mergeCondition_type])]
      simp [mergeCondition]
    · rw [SetStatusCondition_cons_of_ne now newCondition conditions h,
        SetStatusCondition_cons_of_ne now' newCondition _ h, ih]

end SetStatusCondition

/-! ## Syncing a GatewayClass -/

/-- `gatewayv1.GatewayClass`, with the fields `syncGatewayClass` reads and writes. -/
structure GatewayClass where
  name : String
  generation : ℤ
  controllerName : String
  conditions : List Condition
  deriving Repr, DecidableEq

/-- The condition `syncGatewayClass` sets: `Accepted`, `True`, at the class's generation. -/
def acceptedCondition (generation : ℤ) : Condition :=
  ⟨"Accepted", .conditionTrue, generation, 0, "Accepted",
    "GatewayClass is accepted by this controller."⟩

/-- `syncGatewayClass`: the class it sends to `UpdateStatus`, if any.  A class the lister cannot
get (deleted, or another error) and a class of another controller are left alone; a failed
`UpdateStatus` is only logged. -/
def syncGatewayClass (gatewayClassLister : String → Except APIError GatewayClass) (now : ℕ)
    (key : String) : Option GatewayClass :=
  match gatewayClassLister key with
  | .error _ => none
  | .ok gwc =>
    if gwc.controllerName ≠ controllerName then none
    else some { gwc with
      conditions := (SetStatusCondition now gwc.conditions (acceptedCondition gwc.generation)).1 }

theorem syncGatewayClass_eq_some {gatewayClassLister : String → Except APIError GatewayClass}
    {now : ℕ} {key : String} {gwc' : GatewayClass} :
    syncGatewayClass gatewayClassLister now key = some gwc' ↔
      ∃ gwc, gatewayClassLister key = .ok gwc ∧ gwc.controllerName = controllerName ∧
        gwc' = { gwc with conditions :=
          (SetStatusCondition now gwc.conditions (acceptedCondition gwc.generation)).1 } := by
  unfold syncGatewayClass
  split
  · next err hl => simp [hl]
  · next gwc hl =>
    by_cases hc : gwc.controllerName = controllerName
    · simp [hl, hc, eq_comm]
    · simp [hl, hc]

/-- This controller's class, not yet accepted. -/
def quickstartGatewayClass : GatewayClass :=
  ⟨"agentic-net-gateway-class", 1, controllerName, []⟩

/-- A lister that has one GatewayClass. -/
def listerOf (gwc : GatewayClass) : String → Except APIError GatewayClass :=
  fun key => if key = gwc.name then .ok gwc else .error .notFound

/-- The class after its first sync, at time 100. -/
def acceptedGatewayClass : GatewayClass :=
  { quickstartGatewayClass with
    conditions := [{ acceptedCondition 1 with lastTransitionTime := 100 }] }

/-- **What a sync sends**: for a class of this controller, the class as the lister gave it,
except that `Accepted` is true at its generation (its transition time moving only if it was not
true before), and every other condition is as it was. -/
theorem syncGatewayClass_accepted (gatewayClassLister : String → Except APIError GatewayClass)
    (now : ℕ) (key : String) (gwc : GatewayClass) (hl : gatewayClassLister key = .ok gwc)
    (hc : gwc.controllerName = controllerName) :
    ∃ gwc', syncGatewayClass gatewayClassLister now key = some gwc' ∧
      { gwc' with conditions := gwc.conditions } = gwc ∧
      FindStatusCondition gwc'.conditions "Accepted" =
        some { acceptedCondition gwc.generation with
          lastTransitionTime := transitionTimeAfter now
            (FindStatusCondition gwc.conditions "Accepted") (acceptedCondition gwc.generation) } ∧
      gwc'.conditions.filter (·.type ≠ "Accepted") = gwc.conditions.filter (·.type ≠ "Accepted")
      := by
  refine ⟨_, syncGatewayClass_eq_some.mpr ⟨gwc, hl, hc, rfl⟩, rfl, ?_, ?_⟩
  · exact FindStatusCondition_SetStatusCondition now (acceptedCondition gwc.generation) _
  · exact SetStatusCondition_filter now (acceptedCondition gwc.generation) _

theorem syncGatewayClass_accepted_quickstart :
    listerOf quickstartGatewayClass "agentic-net-gateway-class" = .ok quickstartGatewayClass ∧
    quickstartGatewayClass.controllerName = controllerName ∧
    ∃ gwc', syncGatewayClass (listerOf quickstartGatewayClass) 100 "agentic-net-gateway-class" =
        some gwc' ∧
      { gwc' with conditions := quickstartGatewayClass.conditions } = quickstartGatewayClass ∧
      FindStatusCondition gwc'.conditions "Accepted" =
        some { acceptedCondition quickstartGatewayClass.generation with
          lastTransitionTime := transitionTimeAfter 100
            (FindStatusCondition quickstartGatewayClass.conditions "Accepted")
            (acceptedCondition quickstartGatewayClass.generation) } ∧
      gwc'.conditions.filter (·.type ≠ "Accepted") =
        quickstartGatewayClass.conditions.filter (·.type ≠ "Accepted") :=
  ⟨rfl, rfl, syncGatewayClass_accepted (listerOf quickstartGatewayClass) 100
    "agentic-net-gateway-class" quickstartGatewayClass rfl rfl⟩

/-- **A sync never lists a condition type twice** that the class did not list twice already. -/
theorem syncGatewayClass_nodup (gatewayClassLister : String → Except APIError GatewayClass)
    (now : ℕ) (key : String) (gwc gwc' : GatewayClass) (hl : gatewayClassLister key = .ok gwc)
    (hnodup : (gwc.conditions.map Condition.type).Nodup)
    (h : syncGatewayClass gatewayClassLister now key = some gwc') :
    (gwc'.conditions.map Condition.type).Nodup := by
  obtain ⟨gwc₀, hl₀, -, rfl⟩ := syncGatewayClass_eq_some.mp h
  rw [hl, Except.ok.injEq] at hl₀
  subst hl₀
  exact SetStatusCondition_nodup now _ hnodup

theorem syncGatewayClass_nodup_quickstart :
    listerOf quickstartGatewayClass "agentic-net-gateway-class" = .ok quickstartGatewayClass ∧
    (quickstartGatewayClass.conditions.map Condition.type).Nodup ∧
    syncGatewayClass (listerOf quickstartGatewayClass) 100 "agentic-net-gateway-class" =
      some acceptedGatewayClass ∧
    (acceptedGatewayClass.conditions.map Condition.type).Nodup :=
  have h : syncGatewayClass (listerOf quickstartGatewayClass) 100 "agentic-net-gateway-class" =
      some acceptedGatewayClass := by decide
  ⟨rfl, List.nodup_nil, h, syncGatewayClass_nodup (listerOf quickstartGatewayClass) 100
    "agentic-net-gateway-class" quickstartGatewayClass acceptedGatewayClass rfl List.nodup_nil h⟩

/-- **Re-syncs are no-ops**: once the class a sync sent is what the lister returns, every later
sync sends it unchanged. -/
theorem syncGatewayClass_idempotent
    (gatewayClassLister gatewayClassLister' : String → Except APIError GatewayClass)
    (now now' : ℕ) (key : String) (gwc' : GatewayClass)
    (h : syncGatewayClass gatewayClassLister now key = some gwc')
    (hl : gatewayClassLister' key = .ok gwc') :
    syncGatewayClass gatewayClassLister' now' key = some gwc' := by
  obtain ⟨gwc, -, hc, rfl⟩ := syncGatewayClass_eq_some.mp h
  refine syncGatewayClass_eq_some.mpr ⟨_, hl, hc, ?_⟩
  simp only [SetStatusCondition_idem]

theorem syncGatewayClass_idempotent_quickstart :
    syncGatewayClass (listerOf quickstartGatewayClass) 100 "agentic-net-gateway-class" =
      some acceptedGatewayClass ∧
    listerOf acceptedGatewayClass "agentic-net-gateway-class" = .ok acceptedGatewayClass ∧
    syncGatewayClass (listerOf acceptedGatewayClass) 250 "agentic-net-gateway-class" =
      some acceptedGatewayClass :=
  have h : syncGatewayClass (listerOf quickstartGatewayClass) 100 "agentic-net-gateway-class" =
      some acceptedGatewayClass := by decide
  ⟨h, rfl, syncGatewayClass_idempotent (listerOf quickstartGatewayClass)
    (listerOf acceptedGatewayClass) 100 250 "agentic-net-gateway-class" acceptedGatewayClass h
    rfl⟩

end Controller

end AgenticNetworking
