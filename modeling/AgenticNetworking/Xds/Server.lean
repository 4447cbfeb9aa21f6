import Mathlib.Data.Finset.Card
import Mathlib.Logic.Function.Basic
import AgenticNetworking.Go.Decimal

/-!
# The xDS server's version counter under concurrent updates

`UpdateXDSServer` publishes a snapshot for one node.  Its version token comes from the server's
shared `atomic.Uint64` in two separate atomic steps:

```
s.version.Add(1)
version := s.version.Load()
```

and then the snapshot is built with `fmt.Sprintf("%d", version)` and stored.  Calls run
concurrently — one per reconciled Gateway — so this file models each call as a program counter
(`CallPhase`) and the system as the server plus one counter per call.  A *schedule* is any list
of call indices; each entry advances that call by one atomic step (`step`), so every interleaving
of the calls' steps is a schedule.

* **Duplicates.**  Two calls can both increment before either loads, and then both read the same
  value: `run_duplicate_token` is such a schedule, two nodes published with version `"2"`.  The
  code discards the value `Add(1)` returns and reads the counter again.
* **Ordering.**  What does hold is the order the spec wants between calls that do not overlap:
  if call `D` loads before call `C` increments, `C`'s token read as an integer is larger
  (`token_lt_of_load_before_add`).  It rests on the invariant `Inv`: the counter is the start
  value plus the number of calls past their increment (so it never wraps with fewer than
  `2 ^ 64` calls), and no call has read more than the counter holds.
* **The cache.**  Whatever the interleaving, the snapshot cached for a node was built by a call
  for that node that got as far as `SetSnapshot`, with that call's token and resources; such a
  call returns nil, or the error `SetSnapshot` returns after storing (from responding to the
  node's open watches).  And every call that returned nil has left a snapshot for its node
  (`run_cache`, from the invariant `CacheInv`).
-/

namespace AgenticNetworking.Xds

variable {ρ : Type}

/-! ## The server -/

/-- A snapshot as `cachev3.NewSnapshot` builds it: the version token and the resources. -/
structure Snapshot (ρ : Type) where
  version : String
  resources : ρ

/-- `cachev3.NewSnapshot(version, resources)`.  The library rejects a resource map with an
unknown type; `validate` is that check. -/
def newSnapshot (validate : ρ → Except String Unit) (version : String) (resources : ρ) :
    Except String (Snapshot ρ) :=
  (validate resources).map fun _ => ⟨version, resources⟩

/-- The `Server` fields `UpdateXDSServer` uses: the value of the `atomic.Uint64` counter and the
snapshot cache by node id. -/
structure Server (ρ : Type) where
  version : ℕ
  cache : String → Option (Snapshot ρ)

/-- `s.version.Add(1)` on a `uint64`. -/
def Server.versionAdd (s : Server ρ) : Server ρ :=
  { s with version := (s.version + 1) % 2 ^ 64 }

/-- `s.cache.SetSnapshot(ctx, nodeid, snapshot)`: the node's entry is replaced.  What it returns
afterwards, from responding to the node's open watches, is the call's `setSnapshotErr`. -/
def Server.setSnapshot (s : Server ρ) (nodeid : String) (snapshot : Snapshot ρ) : Server ρ :=
  { s with cache := Function.update s.cache nodeid (some snapshot) }

/-! ## Concurrent calls -/

/-- One call `UpdateXDSServer(ctx, nodeid, resources)`, with the error the cache's `SetSnapshot`
returns for it, if any: `SetSnapshot` stores the snapshot and then responds to the node's open
watches, which can fail.  Each call makes one `SetSnapshot`, so this covers every outcome. -/
structure Call (ρ : Type) where
  nodeid : String
  resources : ρ
  setSnapshotErr : Option String

/-- What a call returns once its snapshot is stored: nil, or `SetSnapshot`'s error, wrapped. -/
def Call.storeResult (c : Call ρ) : Option String :=
  c.setSnapshotErr.map fun err => "failed to update resource snapshot in management server: " ++ err

/-- Where a call is: before `Add(1)`, between `Add(1)` and `Load()`, after loading `version`, or
returned with `version` and its error, if any. -/
inductive CallPhase where
  | start
  | added
  | loaded (version : ℕ)
  | returned (version : ℕ) (err : Option String)
  deriving DecidableEq, Repr

/-- The counter value a call has read, once it has. -/
def CallPhase.version? : CallPhase → Option ℕ
  | .loaded v | .returned v _ => some v
  | _ => none

/-- The version token a call formats, `fmt.Sprintf("%d", version)`. -/
def CallPhase.token (p : CallPhase) : Option String :=
  p.version?.map toString

/-- The server and the program counter of every call. -/
structure State (ρ : Type) where
  server : Server ρ
  phase : ℕ → CallPhase

/-- No call has started yet. -/
def State.init (server : Server ρ) : State ρ := ⟨server, fun _ => .start⟩

section Steps

variable (validate : ρ → Except String Unit) (calls : List (Call ρ))

/-- **One atomic step of call `i`** of `UpdateXDSServer`.  A returned call, or an index with no
call, does nothing. -/
def step (st : State ρ) (i : ℕ) : State ρ :=
  match calls[i]?, st.phase i with
  | some _, .start =>
      { server := st.server.versionAdd, phase := Function.update st.phase i .added }
  | some _, .added =>
      { st with phase := Function.update st.phase i (.loaded st.server.version) }
  | some c, .loaded v =>
      match newSnapshot validate (toString v) c.resources with
      | .error err =>
          let err := "failed to create new snapshot cache: " ++ err
          { st with phase := Function.update st.phase i (.returned v (some err)) }
      | .ok snapshot =>
          { server := st.server.setSnapshot c.nodeid snapshot,
            phase := Function.update st.phase i (.returned v c.storeResult) }
  | _, _ => st

/-- The state after a schedule: each entry advances that call by one step. -/
def run (st : State ρ) (σ : List ℕ) : State ρ := σ.foldl (step validate calls) st

theorem run_cons (st : State ρ) (i : ℕ) (σ : List ℕ) :
    run validate calls st (i :: σ) = run validate calls (step validate calls st i) σ := rfl

theorem run_append (st : State ρ) (σ τ : List ℕ) :
    run validate calls st (σ ++ τ) = run validate calls (run validate calls st σ) τ :=
  List.foldl_append _ _ _ _

/-- **Everything a step can do**: nothing, or one of the three moves of the stepping call.  Only
the increment changes the counter. -/
theorem step_cases (st : State ρ) (i : ℕ) :
    step validate calls st i = st ∨
      (i < calls.length ∧ st.phase i = .start ∧
        (step validate calls st i).server.version = (st.server.version + 1) % 2 ^ 64 ∧
        (step validate calls st i).phase = Function.update st.phase i .added) ∨
      (i < calls.length ∧ st.phase i = .added ∧
        (step validate calls st i).server.version = st.server.version ∧
        (step validate calls st i).phase =
          Function.update st.phase i (.loaded st.server.version)) ∨
      (∃ v err, i < calls.length ∧ st.phase i = .loaded v ∧
        (step validate calls st i).server.version = st.server.version ∧
        (step validate calls st i).phase = Function.update st.phase i (.returned v err)) := by
  have hlen : ∀ {c}, calls[i]? = some c → i < calls.length :=
    fun hc => (List.getElem?_eq_some_iff.mp hc).1
  unfold step
  split
  · rename_i hc hp
    exact .inr (.inl ⟨hlen hc, hp, rfl, rfl⟩)
  · rename_i hc hp
    exact .inr (.inr (.inl ⟨hlen hc, hp, rfl, rfl⟩))
  · rename_i c v hc hp
    refine .inr (.inr (.inr ?_))
    split
    · exact ⟨v, _, hlen hc, hp, rfl, rfl⟩
    · exact ⟨v, _, hlen hc, hp, rfl, rfl⟩
  · exact .inl rfl

/-- A call that exists and has not started increments. -/
theorem step_of_start (st : State ρ) {i : ℕ} (hi : i < calls.length) (hp : st.phase i = .start) :
    step validate calls st i =
      { server := st.server.versionAdd, phase := Function.update st.phase i .added } := by
  simp only [step, List.getElem?_eq_getElem hi, hp]

/-- A call that exists and has incremented loads the counter. -/
theorem step_of_added (st : State ρ) {i : ℕ} (hi : i < calls.length) (hp : st.phase i = .added) :
    step validate calls st i =
      { st with phase := Function.update st.phase i (.loaded st.server.version) } := by
  simp only [step, List.getElem?_eq_getElem hi, hp]

theorem newSnapshot_eq_ok {version : String} {resources : ρ} {snapshot : Snapshot ρ}
    (h : newSnapshot validate version resources = .ok snapshot) : snapshot = ⟨version, resources⟩ := by
  unfold newSnapshot Except.map at h
  rcases hv : validate resources with _ | _ <;> rw [hv] at h <;> cases h
  rfl

/-- **Everything a step does to the cache**: nothing, and then the stepping call does not newly
return without error; or the call, having loaded `v`, stores `⟨toString v, resources⟩` under its
node and returns what `SetSnapshot` gave it. -/
theorem step_cache (st : State ρ) (i : ℕ) :
    ((step validate calls st i).server.cache = st.server.cache ∧
        ∀ v, (step validate calls st i).phase i = .returned v none → st.phase i = .returned v none) ∨
      ∃ c v, calls[i]? = some c ∧ st.phase i = .loaded v ∧
        (step validate calls st i).phase i = .returned v c.storeResult ∧
        (step validate calls st i).server.cache =
          Function.update st.server.cache c.nodeid (some ⟨toString v, c.resources⟩) := by
  unfold step
  split
  · exact .inl ⟨rfl, fun v h => by simp at h⟩
  · exact .inl ⟨rfl, fun v h => by simp at h⟩
  · rename_i c v hc hp
    split
    · exact .inl ⟨rfl, fun v h => by simp at h⟩
    · rename_i snapshot hs
      refine .inr ⟨c, v, hc, hp, Function.update_same _ _ _, ?_⟩
      rw [newSnapshot_eq_ok validate hs]
      rfl
  · exact .inl ⟨rfl, fun _ h => h⟩

/-- Frame: a step of call `i` leaves every other call where it was. -/
theorem step_phase_ne (st : State ρ) {i j : ℕ} (h : j ≠ i) :
    (step validate calls st i).phase j = st.phase j := by
  rcases step_cases validate calls st i with hs | ⟨-, -, -, hp⟩ | ⟨-, -, -, hp⟩ |
      ⟨v, err, -, -, -, hp⟩
  · rw [hs]
  all_goals rw [hp, Function.update_noteq h]

/-- A value once read is kept: later steps never change what a call has loaded. -/
theorem step_version?_of_some (st : State ρ) (i : ℕ) {j v : ℕ}
    (h : (st.phase j).version? = some v) : ((step validate calls st i).phase j).version? = some v := by
  by_cases hji : j = i
  · subst hji
    rcases step_cases validate calls st j with hs | ⟨-, hp, -, -⟩ | ⟨-, hp, -, -⟩ |
        ⟨w, err, -, hp, -, hs⟩
    · rw [hs]; exact h
    · rw [hp] at h; cases h
    · rw [hp] at h; cases h
    · rw [hp] at h
      rw [hs, Function.update_same]
      exact h
  · rw [step_phase_ne validate calls st hji]
    exact h

/-- A returned call stays returned. -/
theorem step_phase_of_returned (st : State ρ) (i : ℕ) {j v : ℕ} {err : Option String}
    (h : st.phase j = .returned v err) : (step validate calls st i).phase j = .returned v err := by
  by_cases hji : j = i
  · subst hji
    rcases step_cases validate calls st j with hs | ⟨-, hp, -, -⟩ | ⟨-, hp, -, -⟩ |
        ⟨_, _, -, hp, -, -⟩
    · rw [hs]; exact h
    all_goals rw [hp] at h; cases h
  · rw [step_phase_ne validate calls st hji]
    exact h

theorem run_version?_of_some (st : State ρ) (σ : List ℕ) {j v : ℕ}
    (h : (st.phase j).version? = some v) : ((run validate calls st σ).phase j).version? = some v := by
  induction σ generalizing st with
  | nil => exact h
  | cons i σ ih => exact ih _ (step_version?_of_some validate calls st i h)

/-! ## The counting invariant -/

/-- How many of the calls have passed their increment. -/
def started (n : ℕ) (phase : ℕ → CallPhase) : ℕ :=
  ((Finset.range n).filter fun i => phase i ≠ .start).card

theorem started_update_of_ne_start {n i : ℕ} {phase : ℕ → CallPhase} {x : CallPhase}
    (hi : phase i ≠ .start) (hx : x ≠ .start) :
    started n (Function.update phase i x) = started n phase := by
  unfold started
  congr 1
  ext j
  by_cases hji : j = i
  · subst hji; simp [hi, hx]
  · simp [Function.update_noteq hji]

theorem started_update_of_start {n i : ℕ} {phase : ℕ → CallPhase} {x : CallPhase}
    (hin : i < n) (hi : phase i = .start) (hx : x ≠ .start) :
    started n (Function.update phase i x) = started n phase + 1 := by
  have hset : ((Finset.range n).filter fun j => Function.update phase i x j ≠ .start) =
      insert i ((Finset.range n).filter fun j => phase j ≠ .start) := by
    ext j
    by_cases hji : j = i
    · subst hji; simp [hin, hx]
    · simp [Function.update_noteq hji, hji]
  unfold started
  rw [hset, Finset.card_insert_of_not_mem (by simp [hi])]

theorem started_lt {n i : ℕ} {phase : ℕ → CallPhase} (hin : i < n) (hi : phase i = .start) :
    started n phase < n := by
  calc started n phase < ((Finset.range n).filter fun j => phase j ≠ .start).card + 1 :=
        Nat.lt_succ_self _
    _ = started n (Function.update phase i .added) := (started_update_of_start hin hi (by simp)).symm
    _ ≤ (Finset.range n).card := Finset.card_filter_le _ _
    _ = n := Finset.card_range n

/-- **The invariant of every reachable state**, from a server whose counter started at `v₀`. -/
structure Inv (v₀ : ℕ) (st : State ρ) : Prop where
  /-- The counter is the start value plus one per call past its increment. -/
  version_eq : st.server.version = v₀ + started calls.length st.phase
  /-- Indices with no call never move. -/
  idle : ∀ i, calls.length ≤ i → st.phase i = .start
  /-- No call has read more than the counter holds. -/
  loaded_le : ∀ i v, (st.phase i).version? = some v → v ≤ st.server.version

/-- **The cache invariant**, from a starting cache `cache₀`. -/
structure CacheInv (cache₀ : String → Option (Snapshot ρ)) (st : State ρ) : Prop where
  /-- A cached snapshot was there at the start, or was stored by a call for its node, with that
  call's token and resources. -/
  from_call : ∀ n snap, st.server.cache n = some snap → cache₀ n = some snap ∨
    ∃ i c v, calls[i]? = some c ∧ c.nodeid = n ∧ st.phase i = .returned v c.storeResult ∧
      snap = ⟨toString v, c.resources⟩
  /-- A call that returned without error left a snapshot for its node. -/
  stored : ∀ i c v, calls[i]? = some c → st.phase i = .returned v none →
    (st.server.cache c.nodeid).isSome

variable {validate calls}

/-- Only calls that exist ever move. -/
theorem Inv.lt_length {v₀ : ℕ} {st : State ρ} (hinv : Inv calls v₀ st) {i : ℕ}
    (h : st.phase i ≠ .start) : i < calls.length :=
  Nat.lt_of_not_le fun hi => h (hinv.idle i hi)

theorem init_inv (server : Server ρ) : Inv calls server.version (State.init server) :=
  ⟨by simp [State.init, started], fun _ _ => rfl, fun _ _ h => by cases h⟩

/-- Moving an existing call to a started phase keeps the invariant, if the counter grows by one
exactly when the call was at its start, and the value the call holds is within the counter. -/
theorem Inv.update {v₀ : ℕ} {st st' : State ρ} (hinv : Inv calls v₀ st) {i : ℕ} {x : CallPhase}
    (hi : i < calls.length) (hx : x ≠ .start) (hph : st'.phase = Function.update st.phase i x)
    (hver : st'.server.version = st.server.version + if st.phase i = .start then 1 else 0)
    (hxv : ∀ v, x.version? = some v → v ≤ st'.server.version) : Inv calls v₀ st' := by
  have hle : st.server.version ≤ st'.server.version := hver ▸ Nat.le_add_right _ _
  refine ⟨?_, fun j hj => ?_, fun j v h => ?_⟩
  · rw [hver, hph, hinv.version_eq]
    by_cases hp : st.phase i = .start
    · rw [if_pos hp, started_update_of_start hi hp hx, Nat.add_assoc]
    · rw [if_neg hp, started_update_of_ne_start hp hx, Nat.add_zero]
  · rw [hph, Function.update_noteq (by omega)]
    exact hinv.idle j hj
  · rw [hph] at h
    by_cases hji : j = i
    · subst hji
      rw [Function.update_same] at h
      exact hxv v h
    · rw [Function.update_noteq hji] at h
      exact (hinv.loaded_le j v h).trans hle

/-- **One step keeps the invariant**, as long as the counter cannot wrap. -/
theorem step_inv {v₀ : ℕ} {st : State ρ} (hn : v₀ + calls.length < 2 ^ 64) (hinv : Inv calls v₀ st)
    (i : ℕ) : Inv calls v₀ (step validate calls st i) := by
  rcases step_cases validate calls st i with hs | ⟨hi, hp, hv, hph⟩ | ⟨hi, hp, hv, hph⟩ |
      ⟨w, err, hi, hp, hv, hph⟩
  · rw [hs]; exact hinv
  · have hwrap : st.server.version + 1 < 2 ^ 64 := by
      have := started_lt hi hp
      have := hinv.version_eq
      omega
    refine hinv.update hi (by simp) hph ?_ fun _ h => by cases h
    rw [hv, Nat.mod_eq_of_lt hwrap, if_pos hp]
  · refine hinv.update hi (by simp) hph (by simp [hv, hp]) ?_
    rintro v ⟨⟩
    exact hv.ge
  · refine hinv.update hi (by simp) hph (by simp [hv, hp]) ?_
    rintro v ⟨⟩
    exact hv ▸ hinv.loaded_le i w (by rw [hp]; rfl)

theorem run_inv {v₀ : ℕ} {st : State ρ} (hn : v₀ + calls.length < 2 ^ 64) (hinv : Inv calls v₀ st)
    (σ : List ℕ) : Inv calls v₀ (run validate calls st σ) := by
  induction σ generalizing st with
  | nil => exact hinv
  | cons i σ ih => exact ih (step_inv hn hinv i)

/-! ## The counter only grows -/

theorem step_version_le {v₀ : ℕ} {st : State ρ} (hn : v₀ + calls.length < 2 ^ 64)
    (hinv : Inv calls v₀ st) (i : ℕ) :
    st.server.version ≤ (step validate calls st i).server.version := by
  rcases step_cases validate calls st i with hs | ⟨hi, hp, hv, -⟩ | ⟨-, -, hv, -⟩ |
      ⟨_, _, -, -, hv, -⟩
  · rw [hs]
  · have := started_lt hi hp
    have := hinv.version_eq
    rw [hv, Nat.mod_eq_of_lt (by omega)]
    omega
  all_goals rw [hv]

theorem run_version_le {v₀ : ℕ} {st : State ρ} (hn : v₀ + calls.length < 2 ^ 64)
    (hinv : Inv calls v₀ st) (σ : List ℕ) :
    st.server.version ≤ (run validate calls st σ).server.version := by
  induction σ generalizing st with
  | nil => exact le_rfl
  | cons i σ ih => exact (step_version_le hn hinv i).trans (ih (step_inv hn hinv i))

/-- **A call that has incremented reads at least the counter of that moment**, whatever runs in
between. -/
theorem run_version?_ge_of_added {v₀ : ℕ} {st : State ρ} (hn : v₀ + calls.length < 2 ^ 64)
    (hinv : Inv calls v₀ st) {C : ℕ} (hC : st.phase C = .added) (σ : List ℕ) {v : ℕ}
    (h : ((run validate calls st σ).phase C).version? = some v) : st.server.version ≤ v := by
  induction σ generalizing st with
  | nil => rw [run, List.foldl_nil, hC] at h; cases h
  | cons i σ ih =>
      rw [run_cons] at h
      by_cases hCi : C = i
      · subst hCi
        rcases step_cases validate calls st C with hs | ⟨-, hp, -, -⟩ | ⟨-, -, hv, hph⟩ |
            ⟨_, _, -, hp, -, -⟩
        · rw [hs] at h; exact ih hinv hC h
        · rw [hp] at hC; cases hC
        · have hload : ((step validate calls st C).phase C).version? = some st.server.version := by
            rw [hph, Function.update_same]; rfl
          rw [run_version?_of_some validate calls _ σ hload] at h
          exact (Option.some.inj h).le
        · rw [hp] at hC; cases hC
      · exact (step_version_le hn hinv i).trans
          (ih (step_inv hn hinv i) (by rw [step_phase_ne validate calls st hCi]; exact hC) h)

/-- **A call that loads reads the counter**, and keeps that value whatever runs after. -/
theorem run_version?_of_load {v₀ : ℕ} {st : State ρ} (hinv : Inv calls v₀ st) {D : ℕ}
    (hD : st.phase D = .added) (σ : List ℕ) :
    ((run validate calls st (D :: σ)).phase D).version? = some st.server.version := by
  rw [run_cons]
  refine run_version?_of_some validate calls _ σ ?_
  rw [step_of_added validate calls st (hinv.lt_length (by rw [hD]; decide)) hD]
  show (Function.update st.phase D _ D).version? = _
  rw [Function.update_same]
  rfl

/-- **A call that increments later reads more than the counter holds now.** -/
theorem run_version?_gt_of_start {v₀ : ℕ} {st : State ρ} (hn : v₀ + calls.length < 2 ^ 64)
    (hinv : Inv calls v₀ st) {C : ℕ} (hC : st.phase C = .start) (σ : List ℕ) {v : ℕ}
    (h : ((run validate calls st (C :: σ)).phase C).version? = some v) : st.server.version < v := by
  rw [run_cons] at h
  have hCn : C < calls.length := by
    by_contra hC'
    rw [(run_inv hn (step_inv hn hinv C) σ).idle C (by omega)] at h
    cases h
  have hstep := step_of_start validate calls st hCn hC
  have hge := run_version?_ge_of_added hn (step_inv hn hinv C)
    (by rw [hstep]; exact Function.update_same _ _ _) σ h
  rw [hstep] at hge
  change (st.server.version + 1) % 2 ^ 64 ≤ v at hge
  have := started_lt hCn hC
  have := hinv.version_eq
  rw [Nat.mod_eq_of_lt (by omega)] at hge
  omega

/-! ## Tokens -/

theorem token_eq_some {p : CallPhase} {t : String} (h : p.token = some t) :
    ∃ v, p.version? = some v ∧ t = toString v := by
  unfold CallPhase.token at h
  cases hv : p.version? with
  | none => rw [hv] at h; cases h
  | some v => rw [hv] at h; exact ⟨v, rfl, (Option.some.inj h).symm⟩

/-- **Calls that do not overlap get increasing tokens.**  Start the counter at `0`, take any
schedule of fewer than `2 ^ 64` calls, and split it where call `D` loads (it is past its
increment) and, later, where call `C` increments (it has not started).  Then if `C` has a token
at the end, so does `D`, and `C`'s token read as an integer is larger. -/
theorem token_lt_of_load_before_add (server : Server ρ) (h₀ : server.version = 0)
    (hn : calls.length < 2 ^ 64) (σ₁ σ₂ σ₃ : List ℕ) (C D : ℕ)
    (hD : (run validate calls (.init server) σ₁).phase D = .added)
    (hC : (run validate calls (.init server) (σ₁ ++ D :: σ₂)).phase C = .start) (tC : String)
    (htC : ((run validate calls (.init server) (σ₁ ++ D :: σ₂ ++ C :: σ₃)).phase C).token =
      some tC) :
    ∃ tD vD vC,
      ((run validate calls (.init server) (σ₁ ++ D :: σ₂ ++ C :: σ₃)).phase D).token = some tD ∧
      tD.toNat? = some vD ∧ tC.toNat? = some vC ∧ vD < vC := by
  have hn' : server.version + calls.length < 2 ^ 64 := by omega
  have hinv₁ : Inv calls server.version (run validate calls (.init server) σ₁) :=
    run_inv hn' (init_inv server) σ₁
  have hinv₂ : Inv calls server.version (run validate calls (.init server) (σ₁ ++ D :: σ₂)) :=
    run_inv hn' (init_inv server) _
  -- `D` reads the counter after `σ₁`; `C` reads more than the counter after `σ₁ ++ D :: σ₂`
  have hfinD : run validate calls (.init server) (σ₁ ++ D :: σ₂ ++ C :: σ₃) =
      run validate calls (run validate calls (.init server) σ₁) (D :: (σ₂ ++ C :: σ₃)) := by
    rw [List.append_assoc, run_append, List.cons_append]
  rw [run_append _ _ _ (σ₁ ++ D :: σ₂)] at htC
  obtain ⟨vC, hvC, rfl⟩ := token_eq_some htC
  have hlt := run_version?_gt_of_start hn' hinv₂ hC σ₃ hvC
  have hle : (run validate calls (.init server) σ₁).server.version ≤
      (run validate calls (.init server) (σ₁ ++ D :: σ₂)).server.version := by
    rw [run_append]
    exact run_version_le hn' hinv₁ _
  exact ⟨_, _, _, by rw [CallPhase.token, hfinD, run_version?_of_load hinv₁ hD]; rfl,
    Go.toNat?_toString _, Go.toNat?_toString _, by omega⟩

/-! ## Where cached snapshots come from -/

theorem init_cacheInv (server : Server ρ) : CacheInv calls server.cache (State.init server) :=
  ⟨fun _ _ h => .inl h, fun _ _ _ _ h => by cases h⟩

theorem step_cacheInv {cache₀ : String → Option (Snapshot ρ)} {st : State ρ}
    (hinv : CacheInv calls cache₀ st) (i : ℕ) : CacheInv calls cache₀ (step validate calls st i) := by
  -- a witness call of the old state is still returned after the step
  have keep : ∀ n snap, (cache₀ n = some snap ∨ ∃ j c v, calls[j]? = some c ∧ c.nodeid = n ∧
      st.phase j = .returned v c.storeResult ∧ snap = ⟨toString v, c.resources⟩) →
      (cache₀ n = some snap ∨ ∃ j c v, calls[j]? = some c ∧ c.nodeid = n ∧
        (step validate calls st i).phase j = .returned v c.storeResult ∧
        snap = ⟨toString v, c.resources⟩) := by
    rintro n snap (h₀ | ⟨j, c, v, hj, hn, hp, rfl⟩)
    · exact .inl h₀
    · exact .inr ⟨j, c, v, hj, hn, step_phase_of_returned validate calls st i hp, rfl⟩
  rcases step_cache validate calls st i with ⟨hc, hret⟩ | ⟨c, v, hci, -, hret, hc⟩
  · refine ⟨fun n snap h => keep n snap (hinv.from_call n snap (hc ▸ h)), fun j c v hj hp => ?_⟩
    rw [hc]
    by_cases hji : j = i
    · subst hji; exact hinv.stored j c v hj (hret v hp)
    · exact hinv.stored j c v hj (by rwa [step_phase_ne validate calls st hji] at hp)
  · refine ⟨fun n snap h => ?_, fun j c' v' hj hp => ?_⟩
    · rw [hc] at h
      by_cases hn : n = c.nodeid
      · subst hn
        rw [Function.update_same] at h
        cases h
        exact .inr ⟨i, c, v, hci, rfl, hret, rfl⟩
      · rw [Function.update_noteq hn] at h
        exact keep n snap (hinv.from_call n snap h)
    · rw [hc]
      by_cases hn : c'.nodeid = c.nodeid
      · rw [hn, Function.update_same]; rfl
      · rw [Function.update_noteq hn]
        have hji : j ≠ i := by
          rintro rfl
          rw [hci, Option.some.injEq] at hj
          exact hn (hj ▸ rfl)
        exact hinv.stored j c' v' hj (by rwa [step_phase_ne validate calls st hji] at hp)

theorem run_cacheInv {cache₀ : String → Option (Snapshot ρ)} {st : State ρ}
    (hinv : CacheInv calls cache₀ st) (σ : List ℕ) :
    CacheInv calls cache₀ (run validate calls st σ) := by
  induction σ generalizing st with
  | nil => exact hinv
  | cons i σ ih => exact ih (step_cacheInv hinv i)

end Steps

/-! ## Two calls -/

/-- Two calls, for two nodes. -/
def twoNodeCalls : List (Call Unit) := [⟨"node-a", (), none⟩, ⟨"node-b", (), none⟩]

/-- A snapshot check that accepts everything. -/
def acceptAll : Unit → Except String Unit := fun _ => .ok ()

/-- A server whose counter is still `0` and whose cache is empty. -/
def freshServer : Server Unit := ⟨0, fun _ => none⟩

/-- Two calls for two nodes, interleaved, where responding to `node-a`'s open watches fails. -/
def watchFailCalls : List (Call Unit) := [⟨"node-a", (), some "watch closed"⟩, ⟨"node-b", (), none⟩]

/-- Call `0` completes with token `"1"` before call `1` increments; call `1` gets `"2"`. -/
theorem token_lt_of_load_before_add_sequential :
    freshServer.version = 0 ∧ twoNodeCalls.length < 2 ^ 64 ∧
      (run acceptAll twoNodeCalls (.init freshServer) [0]).phase 0 = .added ∧
      (run acceptAll twoNodeCalls (.init freshServer) ([0] ++ 0 :: [0])).phase 1 = .start ∧
      ((run acceptAll twoNodeCalls (.init freshServer) ([0] ++ 0 :: [0] ++ 1 :: [1, 1])).phase
        1).token = some "2" ∧
      ∃ tD vD vC,
        ((run acceptAll twoNodeCalls (.init freshServer) ([0] ++ 0 :: [0] ++ 1 :: [1, 1])).phase
          0).token = some tD ∧
        tD.toNat? = some vD ∧ "2".toNat? = some vC ∧ vD < vC :=
  ⟨rfl, by decide, by decide, by decide, by decide,
    token_lt_of_load_before_add freshServer rfl (by decide) [0] [0] [1, 1] 1 0 (by decide)
      (by decide) "2" (by decide)⟩

/-- **Two calls, one token.**  Both calls increment, then both load: each reads `2`, and the two
nodes are published with the same version. -/
theorem run_duplicate_token :
    ((run acceptAll twoNodeCalls (.init freshServer) [0, 1, 0, 1, 0, 1]).phase 0).token =
        some "2" ∧
      ((run acceptAll twoNodeCalls (.init freshServer) [0, 1, 0, 1, 0, 1]).phase 1).token =
        some "2" ∧
      ((run acceptAll twoNodeCalls (.init freshServer) [0, 1, 0, 1, 0, 1]).server.cache
        "node-a").map Snapshot.version = some "2" ∧
      ((run acceptAll twoNodeCalls (.init freshServer) [0, 1, 0, 1, 0, 1]).server.cache
        "node-b").map Snapshot.version = some "2" := by
  decide

end AgenticNetworking.Xds
