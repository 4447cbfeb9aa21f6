import Mathlib.Data.Finset.Basic
import AgenticNetworking.Controller.Keys
import AgenticNetworking.Infra.ApiServer

/-!
# The gateway work queue and its workers

The controller's informer handlers add keys to `gatewayqueue`, a client-go rate-limiting work
queue, and `Run` starts workers that loop on `processNextWorkItem`: `Get` a key, run
`syncHandler` on it, `AddRateLimited` it on an error and `Forget` it otherwise, and `Done` it
(deferred).  Handlers and workers run concurrently; each queue method is atomic.

The queue is client-go's `workqueue.Typed`: a FIFO of keys, the set of keys marked dirty (added
and not handed out since) and the set being processed.  An `Add` of a dirty key does nothing, an
`Add` of a key being processed only marks it dirty, and `Done` queues a key again if it was
marked dirty meanwhile.  `AddRateLimited` re-adds the key after a backoff, which is always
positive for the default controller rate limiter; the keys waiting for their backoff are
`State.delayed`.

`step` takes one event: a handler run, one of the three steps of a worker's
`processNextWorkItem`, a backoff that elapses, or `ShutDown`.  A run is any sequence of events,
so every interleaving of handlers and workers is a run.  The Gateway handlers add the Gateway's
key; the HTTPRoute handlers go through `enqueueHTTPRoute`, which adds none.

* **Mutual exclusion.**  No two workers ever hold the same key (`run_exclusive`): a Gateway is
  never synced by two workers at once.  It follows from the run invariant `Inv`: the keys being
  processed are exactly the keys the workers hold, each held by one worker.  A key is queued at
  most once, and never while a worker holds it (`run_queue_nodup`).
* **No Gateway event is lost.**  A key that is dirty stays dirty until a worker's `Get` hands it
  out (`run_dirty`), and the invariant places every dirty key in the FIFO or with a worker whose
  `Done` queues it again.  After a Gateway handler runs, the Gateway is therefore synced again,
  by a `Get` after the event, even when a worker was syncing it meanwhile (`gateway_resyncs`).
* **A failed sync is retried.**  After `syncHandler` fails on a running queue, the key is
  waiting for its backoff or dirty until a worker takes it again (`sync_error_retried`).
* **First in, first out.**  From any state, the keys a run hands out begin with the keys queued
  in that state, in their order (`handedOut_fifo`): a queued Gateway is synced after exactly the
  keys ahead of it, and no key added later overtakes it.
* **ShutDown drains the queue.**  Once `Run` returns and shuts the queue down, the workers'
  `Get`s hand out only keys that were dirty at that moment, each at most once
  (`shutDown_drains`): no `Add` marks a key after `ShutDown`, and each hand-out takes one mark
  away.
-/

namespace AgenticNetworking

namespace Controller

open Infra (APIError)

/-! ## The work queue -/

/-- client-go's `workqueue.Typed`: the FIFO of keys, the keys marked dirty, the keys being
processed, and whether `ShutDown` was called. -/
structure Queue where
  queue : List String
  dirty : Finset String
  processing : Finset String
  shuttingDown : Bool
  deriving DecidableEq

namespace Queue

/-- An empty queue. -/
def empty : Queue := ⟨[], ∅, ∅, false⟩

/-- `Add`: nothing after `ShutDown` or for a dirty key; a key being processed is only marked
dirty; any other key is marked dirty and queued. -/
def add (q : Queue) (item : String) : Queue :=
  if q.shuttingDown ∨ item ∈ q.dirty then q
  else if item ∈ q.processing then { q with dirty := insert item q.dirty }
  else { q with dirty := insert item q.dirty, queue := q.queue ++ [item] }

/-- `Get` when a key is queued: the head, now processing and no longer dirty.  With nothing
queued, `Get` blocks, or reports the shutdown. -/
def get (q : Queue) : Option (String × Queue) :=
  match q.queue with
  | [] => none
  | item :: rest =>
    some (item,
      { q with queue := rest, processing := insert item q.processing, dirty := q.dirty.erase item })

/-- `Done`: the key is no longer processing, and is queued again if it was marked dirty. -/
def done (q : Queue) (item : String) : Queue :=
  if item ∈ q.dirty then
    { q with processing := q.processing.erase item, queue := q.queue ++ [item] }
  else { q with processing := q.processing.erase item }

/-- `ShutDown`. -/
def shutDown (q : Queue) : Queue := { q with shuttingDown := true }

/-- What client-go keeps true of its queue: the FIFO has no duplicate, every queued key is dirty
and not processing, and every dirty key is queued or processing. -/
structure WF (q : Queue) : Prop where
  nodup : q.queue.Nodup
  queued_dirty : ∀ k ∈ q.queue, k ∈ q.dirty
  queued_not_processing : ∀ k ∈ q.queue, k ∉ q.processing
  dirty_waiting : ∀ k ∈ q.dirty, k ∈ q.queue ∨ k ∈ q.processing

theorem empty_wf : empty.WF :=
  ⟨List.nodup_nil, by simp [empty], by simp [empty], by simp [empty]⟩

theorem get_eq_some {q q' : Queue} {item : String} :
    q.get = some (item, q') ↔ ∃ rest, q.queue = item :: rest ∧ q' =
      { q with queue := rest, processing := insert item q.processing, dirty := q.dirty.erase item }
      := by
  cases hq : q.queue with
  | nil => simp [get, hq]
  | cons i rest =>
    simp only [get, hq, Option.some.injEq, Prod.mk.injEq, List.cons.injEq]
    constructor
    · rintro ⟨rfl, rfl⟩
      exact ⟨rest, ⟨rfl, rfl⟩, rfl⟩
    · rintro ⟨_, ⟨rfl, rfl⟩, rfl⟩
      exact ⟨rfl, rfl⟩

@[simp] theorem add_processing (q : Queue) (item : String) :
    (q.add item).processing = q.processing := by
  unfold add
  split_ifs <;> rfl

@[simp] theorem add_shuttingDown (q : Queue) (item : String) :
    (q.add item).shuttingDown = q.shuttingDown := by
  unfold add
  split_ifs <;> rfl

theorem dirty_subset_add (q : Queue) (item : String) : q.dirty ⊆ (q.add item).dirty := by
  unfold add
  split_ifs <;> simp [Finset.subset_insert]

theorem mem_dirty_add {q : Queue} {item : String} (h : q.shuttingDown = false) :
    item ∈ (q.add item).dirty := by
  unfold add
  split_ifs with h₁ <;> simp_all

@[simp] theorem done_dirty (q : Queue) (item : String) : (q.done item).dirty = q.dirty := by
  unfold done
  split_ifs <;> rfl

@[simp] theorem done_processing (q : Queue) (item : String) :
    (q.done item).processing = q.processing.erase item := by
  unfold done
  split_ifs <;> rfl

@[simp] theorem done_shuttingDown (q : Queue) (item : String) :
    (q.done item).shuttingDown = q.shuttingDown := by
  unfold done
  split_ifs <;> rfl

theorem WF.add {q : Queue} (h : q.WF) (item : String) : (q.add item).WF := by
  unfold Queue.add
  split_ifs with h₁ h₂
  · exact h
  · refine ⟨h.nodup, fun k hk => Finset.mem_insert_of_mem (h.queued_dirty k hk),
      h.queued_not_processing, fun k hk => ?_⟩
    rcases Finset.mem_insert.mp hk with rfl | hk
    · exact .inr h₂
    · exact h.dirty_waiting k hk
  · have hq : item ∉ q.queue := fun hi => h₁ (.inr (h.queued_dirty _ hi))
    refine ⟨List.nodup_append.mpr ⟨h.nodup, List.nodup_singleton _, by simpa using hq⟩,
      fun k hk => ?_, fun k hk => ?_, fun k hk => ?_⟩
    · rcases List.mem_append.mp hk with hk | hk
      · exact Finset.mem_insert_of_mem (h.queued_dirty k hk)
      · simp_all
    · rcases List.mem_append.mp hk with hk | hk
      · exact h.queued_not_processing k hk
      · simp_all
    · rcases Finset.mem_insert.mp hk with rfl | hk
      · simp
      · rcases h.dirty_waiting k hk with h' | h'
        · exact .inl (List.mem_append_left _ h')
        · exact .inr h'

theorem WF.get {q q' : Queue} {item : String} (h : q.WF) (hg : q.get = some (item, q')) :
    q'.WF := by
  obtain ⟨rest, hq, rfl⟩ := get_eq_some.mp hg
  have hnd := List.nodup_cons.mp (hq ▸ h.nodup)
  have hrest : ∀ k ∈ rest, k ∈ q.queue := fun k hk => hq ▸ List.mem_cons_of_mem _ hk
  refine ⟨hnd.2, fun k hk => ?_, fun k hk => ?_, fun k hk => ?_⟩
  · exact Finset.mem_erase.mpr ⟨fun he => hnd.1 (he ▸ hk), h.queued_dirty k (hrest k hk)⟩
  · simp only [Finset.mem_insert, not_or]
    exact ⟨fun he => hnd.1 (he ▸ hk), h.queued_not_processing k (hrest k hk)⟩
  · obtain ⟨hne, hk⟩ := Finset.mem_erase.mp hk
    rcases h.dirty_waiting k hk with h' | h'
    · rw [hq] at h'
      exact .inl ((List.mem_cons.mp h').resolve_left hne)
    · exact .inr (Finset.mem_insert_of_mem h')

theorem WF.done {q : Queue} {item : String} (h : q.WF) (hi : item ∈ q.processing) :
    (q.done item).WF := by
  have hq : item ∉ q.queue := fun h' => h.queued_not_processing _ h' hi
  unfold Queue.done
  split_ifs with hd
  · refine ⟨List.nodup_append.mpr ⟨h.nodup, List.nodup_singleton _, by simpa using hq⟩,
      fun k hk => ?_, fun k hk => ?_, fun k hk => ?_⟩
    · rcases List.mem_append.mp hk with hk | hk
      · exact h.queued_dirty k hk
      · simp_all
    · simp only [Finset.mem_erase, not_and]
      rcases List.mem_append.mp hk with hk | hk
      · exact fun _ => h.queued_not_processing k hk
      · simp_all
    · by_cases hk' : k = item
      · simp [hk']
      · rcases h.dirty_waiting k hk with h' | h'
        · exact .inl (List.mem_append_left _ h')
        · exact .inr (Finset.mem_erase.mpr ⟨hk', h'⟩)
  · refine ⟨h.nodup, h.queued_dirty, fun k hk => ?_, fun k hk => ?_⟩
    · simp only [Finset.mem_erase, not_and]
      exact fun _ => h.queued_not_processing k hk
    · have hk' : k ≠ item := fun he => hd (he ▸ hk)
      rcases h.dirty_waiting k hk with h' | h'
      · exact .inl h'
      · exact .inr (Finset.mem_erase.mpr ⟨hk', h'⟩)

/-- `ShutDown` only sets the flag. -/
theorem WF.shutDown {q : Queue} (h : q.WF) : q.shutDown.WF :=
  ⟨h.nodup, h.queued_dirty, h.queued_not_processing, h.dirty_waiting⟩

/-! ### A handler's keys, one `Add` after another -/

theorem WF.foldl_add {q : Queue} (h : q.WF) (keys : List String) :
    (keys.foldl Queue.add q).WF := by
  induction keys generalizing q with
  | nil => exact h
  | cons k keys ih => exact ih (h.add k)

@[simp] theorem foldl_add_processing (q : Queue) (keys : List String) :
    (keys.foldl add q).processing = q.processing := by
  induction keys generalizing q with
  | nil => rfl
  | cons k keys ih => rw [List.foldl_cons, ih, add_processing]

@[simp] theorem foldl_add_shuttingDown (q : Queue) (keys : List String) :
    (keys.foldl add q).shuttingDown = q.shuttingDown := by
  induction keys generalizing q with
  | nil => rfl
  | cons k keys ih => rw [List.foldl_cons, ih, add_shuttingDown]

theorem dirty_subset_foldl_add (q : Queue) (keys : List String) :
    q.dirty ⊆ (keys.foldl add q).dirty := by
  induction keys generalizing q with
  | nil => exact Finset.Subset.refl _
  | cons k keys ih => exact (dirty_subset_add q k).trans (ih _)

/-- On a running queue, every key a handler adds is dirty afterwards. -/
theorem mem_dirty_foldl_add {q : Queue} {keys : List String} {k : String}
    (hs : q.shuttingDown = false) (hk : k ∈ keys) : k ∈ (keys.foldl add q).dirty := by
  induction keys generalizing q with
  | nil => cases hk
  | cons k' keys ih =>
    rcases List.mem_cons.mp hk with rfl | hk
    · exact dirty_subset_foldl_add _ keys (mem_dirty_add hs)
    · exact ih (by rwa [add_shuttingDown]) hk

/-- After `ShutDown`, `Add` does nothing. -/
theorem add_of_shuttingDown {q : Queue} (h : q.shuttingDown = true) (item : String) :
    q.add item = q := by
  simp [add, h]

theorem foldl_add_of_shuttingDown {q : Queue} (h : q.shuttingDown = true) (keys : List String) :
    keys.foldl add q = q := by
  induction keys with
  | nil => rfl
  | cons k keys ih => rwa [List.foldl_cons, add_of_shuttingDown h]

/-! ### Only `Get` takes keys off the FIFO -/

theorem queue_prefix_add (q : Queue) (item : String) : q.queue <+: (q.add item).queue := by
  unfold add
  split_ifs
  exacts [List.prefix_refl _, List.prefix_refl _, List.prefix_append _ _]

theorem queue_prefix_foldl_add (q : Queue) (keys : List String) :
    q.queue <+: (keys.foldl add q).queue := by
  induction keys generalizing q with
  | nil => exact List.prefix_refl _
  | cons k keys ih => exact (queue_prefix_add q k).trans (ih _)

theorem queue_prefix_done (q : Queue) (item : String) : q.queue <+: (q.done item).queue := by
  unfold done
  split_ifs
  exacts [List.prefix_append _ _, List.prefix_refl _]

end Queue

/-! ## The controller -/

/-- `syncHandler`: split the key and get the Gateway from the lister.  An invalid key is
reported with `HandleError` and dropped, a Gateway that is not found is taken as deleted, and the
reconciliation of a found Gateway is still a `TODO` in the source; only another lister error is
returned. -/
def syncHandler (gatewayLister : String → String → Except APIError Gateway) (key : String) :
    Option APIError :=
  match SplitMetaNamespaceKey key with
  | none => none
  | some («namespace», name) =>
    match gatewayLister «namespace» name with
    | .ok _ => none
    | .error .notFound => none
    | .error err => some err

/-- Where a worker's `processNextWorkItem` is: about to `Get`, running `syncHandler` on the key
`Get` returned, or past `AddRateLimited`/`Forget` with the deferred `Done` next. -/
inductive Phase
  | idle
  | syncing (key : String)
  | finishing (key : String)
  deriving DecidableEq

/-- The key a worker holds between `Get` and `Done`. -/
def Phase.key? : Phase → Option String
  | .idle => none
  | .syncing key => some key
  | .finishing key => some key

@[simp] theorem Phase.key?_idle : Phase.idle.key? = none := rfl
@[simp] theorem Phase.key?_syncing (key : String) : (Phase.syncing key).key? = some key := rfl
@[simp] theorem Phase.key?_finishing (key : String) : (Phase.finishing key).key? = some key := rfl

/-- The controller's queue, the keys waiting for their backoff, and each worker's phase (worker
ids index the goroutines `Run` starts; the results hold for any number of them). -/
structure State where
  queue : Queue
  delayed : Finset String
  workers : ℕ → Phase

/-- Before any event: an empty queue and idle workers. -/
def State.init : State := ⟨Queue.empty, ∅, fun _ => .idle⟩

/-- One event of a run. -/
inductive Event
  /-- `addHTTPRoute`. -/
  | addHTTPRoute (route : HTTPRoute)
  /-- `updateHTTPRoute`. -/
  | updateHTTPRoute (old new : HTTPRoute)
  /-- `deleteHTTPRoute`. -/
  | deleteHTTPRoute (obj : HTTPRouteDeletion)
  /-- A gateway handler, for the Gateway `namespace/name`. -/
  | gateway («namespace» name : String)
  /-- A worker's `Get`. -/
  | get (worker : ℕ)
  /-- A worker's `syncHandler` with the lister as it is then, and `AddRateLimited` or
  `Forget`. -/
  | sync (worker : ℕ) (gatewayLister : String → String → Except APIError Gateway)
  /-- A worker's deferred `Done`. -/
  | done (worker : ℕ)
  /-- The backoff of a rate-limited key elapses: it is added. -/
  | fire (key : String)
  /-- `ShutDown`, when `Run` returns. -/
  | shutDown

/-- `ShutDown`? -/
def Event.isShutDown : Event → Bool
  | .shutDown => true
  | _ => false

/-- The handler's keys added to the queue, one `Add` after another. -/
def State.addAll (s : State) (keys : List String) : State :=
  { s with queue := keys.foldl Queue.add s.queue }

/-- The state after one event. -/
def step (s : State) : Event → State
  | .addHTTPRoute route => s.addAll (addHTTPRoute route)
  | .updateHTTPRoute old new => s.addAll (updateHTTPRoute old new)
  | .deleteHTTPRoute obj => s.addAll (deleteHTTPRoute obj)
  | .gateway «namespace» name => s.addAll [gatewayHandlerKey «namespace» name]
  | .get w =>
    match s.workers w, s.queue.get with
    | .idle, some (key, q) =>
      { s with queue := q, workers := Function.update s.workers w (.syncing key) }
    | _, _ => s
  | .sync w gatewayLister =>
    match s.workers w with
    | .syncing key =>
      { s with
        workers := Function.update s.workers w (.finishing key)
        delayed :=
          if (syncHandler gatewayLister key).isSome ∧ s.queue.shuttingDown = false then
            insert key s.delayed
          else s.delayed }
    | _ => s
  | .done w =>
    match s.workers w with
    | .finishing key =>
      { s with queue := s.queue.done key, workers := Function.update s.workers w .idle }
    | _ => s
  | .fire key =>
    if key ∈ s.delayed then { s with delayed := s.delayed.erase key, queue := s.queue.add key }
    else s
  | .shutDown => { s with queue := s.queue.shutDown }

/-- The state after a sequence of events. -/
def run (s : State) (events : List Event) : State :=
  events.foldl step s

theorem run_cons (s : State) (e : Event) (events : List Event) :
    run s (e :: events) = run (step s e) events :=
  rfl

theorem run_append (s : State) (pre post : List Event) :
    run s (pre ++ post) = run (run s pre) post :=
  List.foldl_append _ _ _ _

/-- **What one event can do**: add a handler's keys, hand the head of the FIFO to an idle
worker, end a worker's sync (a failure on a running queue puts the key to wait for its backoff),
release a worker's key with `Done`, add a key whose backoff elapsed, or shut the queue down; an
event whose worker is in another phase, or a `Get` on an empty FIFO, changes nothing. -/
theorem step_cases (s : State) (e : Event) :
    (∃ keys, step s e = s.addAll keys) ∨
    (∃ w key q, e = .get w ∧ s.workers w = .idle ∧ s.queue.get = some (key, q) ∧
      step s e = ⟨q, s.delayed, Function.update s.workers w (.syncing key)⟩) ∨
    (∃ w gatewayLister key, e = .sync w gatewayLister ∧ s.workers w = .syncing key ∧
      step s e = ⟨s.queue,
        if (syncHandler gatewayLister key).isSome ∧ s.queue.shuttingDown = false then
          insert key s.delayed
        else s.delayed,
        Function.update s.workers w (.finishing key)⟩) ∨
    (∃ w key, s.workers w = .finishing key ∧
      step s e = ⟨s.queue.done key, s.delayed, Function.update s.workers w .idle⟩) ∨
    (∃ key, e = .fire key ∧ key ∈ s.delayed ∧
      step s e = ⟨s.queue.add key, s.delayed.erase key, s.workers⟩) ∨
    (e = .shutDown ∧ step s e = ⟨s.queue.shutDown, s.delayed, s.workers⟩) ∨
    step s e = s := by
  cases e with
  | addHTTPRoute route => exact .inl ⟨_, rfl⟩
  | updateHTTPRoute old new => exact .inl ⟨_, rfl⟩
  | deleteHTTPRoute obj => exact .inl ⟨_, rfl⟩
  | gateway «namespace» name => exact .inl ⟨_, rfl⟩
  | get w =>
    simp only [step]
    split
    · next key q hw hg => exact .inr (.inl ⟨w, key, q, rfl, hw, hg, rfl⟩)
    · exact .inr (.inr (.inr (.inr (.inr (.inr rfl)))))
  | sync w gatewayLister =>
    simp only [step]
    split
    · next key hw => exact .inr (.inr (.inl ⟨w, gatewayLister, key, rfl, hw, rfl⟩))
    · exact .inr (.inr (.inr (.inr (.inr (.inr rfl)))))
  | done w =>
    simp only [step]
    split
    · next key hw => exact .inr (.inr (.inr (.inl ⟨w, key, hw, rfl⟩)))
    · exact .inr (.inr (.inr (.inr (.inr (.inr rfl)))))
  | fire key =>
    simp only [step]
    split_ifs with hk
    · exact .inr (.inr (.inr (.inr (.inl ⟨key, rfl, hk, rfl⟩))))
    · exact .inr (.inr (.inr (.inr (.inr (.inr rfl)))))
  | shutDown => exact .inr (.inr (.inr (.inr (.inr (.inl ⟨rfl, rfl⟩)))))

/-! ## Mutual exclusion -/

@[simp] theorem key?_update (workers : ℕ → Phase) (w w' : ℕ) (p : Phase) :
    (Function.update workers w p w').key? = if w' = w then p.key? else (workers w').key? := by
  rw [Function.update_apply]
  split_ifs <;> rfl

/-- **The run invariant**: the queue is well formed, the keys being processed are exactly the
keys the workers hold, and no key is held by two workers. -/
structure Inv (s : State) : Prop where
  queue : s.queue.WF
  processing_iff : ∀ k, k ∈ s.queue.processing ↔ ∃ w, (s.workers w).key? = some k
  exclusive : ∀ w w' k, (s.workers w).key? = some k → (s.workers w').key? = some k → w = w'

theorem init_inv : Inv State.init :=
  ⟨Queue.empty_wf, by simp [State.init, Queue.empty], by simp [State.init]⟩

section Inv

variable {s : State}

/-- A step that changes only the queue, and not which keys are processing, keeps the invariant. -/
theorem Inv.of_queue (h : Inv s) {q : Queue} (hq : q.WF)
    (hp : q.processing = s.queue.processing) (delayed : Finset String) :
    Inv ⟨q, delayed, s.workers⟩ :=
  ⟨hq, fun k => hp ▸ h.processing_iff k, h.exclusive⟩

/-- A step that changes phases but not the keys the workers hold keeps the invariant. -/
theorem Inv.of_key? (h : Inv s) {workers : ℕ → Phase}
    (hw : ∀ w, (workers w).key? = (s.workers w).key?) (delayed : Finset String) :
    Inv ⟨s.queue, delayed, workers⟩ :=
  ⟨h.queue, fun k => by simpa only [hw] using h.processing_iff k,
    fun w w' k => by simpa only [hw] using h.exclusive w w' k⟩

/-- An idle worker's `Get` hands out a key no worker holds, since a queued key is not processing.
-/
theorem Inv.get (h : Inv s) {w : ℕ} {key : String} {q : Queue} (hw : s.workers w = .idle)
    (hg : s.queue.get = some (key, q)) :
    Inv ⟨q, s.delayed, Function.update s.workers w (.syncing key)⟩ := by
  obtain ⟨rest, hq, rfl⟩ := Queue.get_eq_some.mp hg
  have hfree : ∀ w', (s.workers w').key? ≠ some key := fun w' hw' =>
    h.queue.queued_not_processing key (hq ▸ List.mem_cons_self _ _)
      ((h.processing_iff key).mpr ⟨w', hw'⟩)
  refine ⟨h.queue.get hg, fun k => ?_, fun w₁ w₂ k h₁ h₂ => ?_⟩
  · simp only [Finset.mem_insert, h.processing_iff, key?_update, Phase.key?_syncing,
      Phase.key?_idle]
    constructor
    · rintro (rfl | ⟨w', hw'⟩)
      · exact ⟨w, by simp⟩
      · refine ⟨w', ?_⟩
        rwa [if_neg (by rintro rfl; simp [hw] at hw')]
    · rintro ⟨w', hw'⟩
      split_ifs at hw' with he
      · exact .inl (Option.some.inj hw').symm
      · exact .inr ⟨w', hw'⟩
  · simp only [key?_update, Phase.key?_syncing] at h₁ h₂
    split_ifs at h₁ h₂ with he₁ he₂ he₂
    · exact he₁.trans he₂.symm
    · exact absurd (Option.some.inj h₁ ▸ h₂) (hfree w₂)
    · exact absurd (Option.some.inj h₂ ▸ h₁) (hfree w₁)
    · exact h.exclusive w₁ w₂ k h₁ h₂

/-- A worker's `Done` releases its key: no other worker holds it, by exclusion. -/
theorem Inv.done (h : Inv s) {w : ℕ} {key : String} (hw : s.workers w = .finishing key) :
    Inv ⟨s.queue.done key, s.delayed, Function.update s.workers w .idle⟩ := by
  have hheld : (s.workers w).key? = some key := by rw [hw, Phase.key?_finishing]
  refine ⟨h.queue.done ((h.processing_iff key).mpr ⟨w, hheld⟩), fun k => ?_,
    fun w₁ w₂ k h₁ h₂ => ?_⟩
  · simp only [Queue.done_processing, Finset.mem_erase, h.processing_iff, key?_update,
      Phase.key?_idle]
    constructor
    · rintro ⟨hne, w', hw'⟩
      refine ⟨w', ?_⟩
      rwa [if_neg (by rintro rfl; exact hne (Option.some.inj (hheld.symm.trans hw')).symm)]
    · rintro ⟨w', hw'⟩
      -- the released worker holds nothing: only the other branch is left
      split_ifs at hw' with he
      exact ⟨fun hk => he (h.exclusive w' w k hw' (hk ▸ hheld)), w', hw'⟩
  · simp only [key?_update, Phase.key?_idle] at h₁ h₂
    split_ifs at h₁ h₂
    exact h.exclusive w₁ w₂ k h₁ h₂

/-- **Every event keeps the invariant.** -/
theorem step_inv (h : Inv s) (e : Event) : Inv (step s e) := by
  rcases step_cases s e with ⟨keys, he⟩ | ⟨w, key, q, -, hw, hg, he⟩ | ⟨w, _, key, -, hw, he⟩ |
      ⟨w, key, hw, he⟩ | ⟨key, -, -, he⟩ | ⟨-, he⟩ | he <;> rw [he]
  · exact h.of_queue (h.queue.foldl_add keys) (by simp) _
  · exact h.get hw hg
  · exact h.of_key? (fun w' => by by_cases hw' : w' = w <;> simp [hw', hw]) _
  · exact h.done hw
  · exact h.of_queue (h.queue.add key) (Queue.add_processing _ _) _
  · exact h.of_queue h.queue.shutDown rfl _
  · exact h

end Inv

theorem run_inv {s : State} (h : Inv s) (events : List Event) : Inv (run s events) := by
  induction events generalizing s with
  | nil => exact h
  | cons e events ih => exact ih (step_inv h e)

/-- **Mutual exclusion**: in every run of the controller, whatever its handlers' and workers'
interleaving, no two workers hold the same key, so no Gateway is synced by two workers at once.
-/
theorem run_exclusive (events : List Event) (w w' : ℕ) (key : String)
    (h : ((run State.init events).workers w).key? = some key)
    (h' : ((run State.init events).workers w').key? = some key) : w = w' :=
  (run_inv init_inv events).exclusive w w' key h h'

/-- A worker that has just taken the Gateway `default/gateway-a` off the queue. -/
theorem run_exclusive_handOut :
    ((run State.init [.gateway "default" "gateway-a", .get 0]).workers 0).key? =
      some "default/gateway-a" ∧ 0 = 0 :=
  ⟨by decide, run_exclusive [.gateway "default" "gateway-a", .get 0] 0 0 "default/gateway-a"
    (by decide) (by decide)⟩

/-- **Changes coalesce**: in every run a key is queued at most once, and never while a worker
holds it, so changes that arrive while a Gateway waits or syncs lead to one more sync of it, not
one each. -/
theorem run_queue_nodup (events : List Event) :
    (run State.init events).queue.queue.Nodup ∧
      ∀ k ∈ (run State.init events).queue.queue, ∀ w,
        ((run State.init events).workers w).key? ≠ some k := by
  have h := run_inv init_inv events
  exact ⟨h.queue.nodup, fun k hk w hw =>
    h.queue.queued_not_processing k hk ((h.processing_iff k).mpr ⟨w, hw⟩)⟩

/-! ## No update is lost -/

/-- `e` is a `Get` that hands `k` out: an idle worker's, while `k` heads the FIFO. -/
def HandsOut (s : State) (e : Event) (k : String) : Prop :=
  ∃ w, e = .get w ∧ s.workers w = .idle ∧ s.queue.queue.head? = some k

/-- `k` will be handed out again: it is queued, or a worker holds it and it is marked dirty, so
that the worker's `Done` queues it. -/
def Pending (s : State) (k : String) : Prop :=
  k ∈ s.queue.queue ∨ k ∈ s.queue.dirty ∧ ∃ w, (s.workers w).key? = some k

/-- Under the invariant every dirty key is pending. -/
theorem Inv.pending_of_dirty {s : State} (h : Inv s) {k : String} (hk : k ∈ s.queue.dirty) :
    Pending s k :=
  (h.queue.dirty_waiting k hk).imp_right fun hp => ⟨hk, (h.processing_iff k).mp hp⟩

/-- Only a `Get` that hands a key out takes its dirty mark away. -/
theorem step_dirty {s : State} {e : Event} {k : String} (hk : k ∈ s.queue.dirty)
    (hn : ¬HandsOut s e k) : k ∈ (step s e).queue.dirty := by
  rcases step_cases s e with ⟨keys, he⟩ | ⟨w, key, q, rfl, hw, hg, he⟩ | ⟨_, _, _, -, -, he⟩ |
      ⟨_, key, -, he⟩ | ⟨key, -, -, he⟩ | ⟨-, he⟩ | he <;> rw [he]
  · exact Queue.dirty_subset_foldl_add _ _ hk
  · obtain ⟨rest, hq, rfl⟩ := Queue.get_eq_some.mp hg
    refine Finset.mem_erase.mpr ⟨?_, hk⟩
    rintro rfl
    exact hn ⟨w, rfl, hw, by rw [hq, List.head?_cons]⟩
  · exact hk
  · simpa using hk
  · exact Queue.dirty_subset_add _ _ hk
  · exact hk
  · exact hk

/-- **A dirty key stays dirty until a `Get` hands it out.** -/
theorem run_dirty {s : State} {k : String} (hk : k ∈ s.queue.dirty) (events : List Event) :
    k ∈ (run s events).queue.dirty ∨
      ∃ pre e post, events = pre ++ e :: post ∧ HandsOut (run s pre) e k := by
  induction events generalizing s with
  | nil => exact .inl hk
  | cons e events ih =>
    by_cases hn : HandsOut s e k
    · exact .inr ⟨[], e, events, rfl, hn⟩
    · rcases ih (step_dirty hk hn) with h | ⟨pre, e', post, rfl, h⟩
      · exact .inl h
      · exact .inr ⟨e :: pre, e', post, rfl, h⟩

/-- **No Gateway event is lost**: after a Gateway handler runs on a running controller, the
Gateway is synced again: its key is still pending, or a `Get` after the event hands it out (and
the sync then reads the Gateway as the event left it). -/
theorem gateway_resyncs (history events : List Event) («namespace» name : String)
    (hrun : (run State.init history).queue.shuttingDown = false) :
    Pending (run State.init (history ++ .gateway «namespace» name :: events))
        (gatewayHandlerKey «namespace» name) ∨
      ∃ pre e post, events = pre ++ e :: post ∧
        HandsOut (run State.init (history ++ .gateway «namespace» name :: pre)) e
          (gatewayHandlerKey «namespace» name) := by
  have hdirty : gatewayHandlerKey «namespace» name ∈
      (step (run State.init history) (.gateway «namespace» name)).queue.dirty :=
    Queue.mem_dirty_foldl_add hrun (List.mem_singleton_self _)
  simp only [run_append, run_cons]
  rcases run_dirty hdirty events with h | h
  · exact .inl ((run_inv (step_inv (run_inv init_inv history) _) events).pending_of_dirty h)
  · exact .inr h

/-- A Gateway added on a fresh controller, then taken by a worker's `Get`. -/
theorem gateway_resyncs_added :
    (run State.init []).queue.shuttingDown = false ∧
    (Pending (run State.init ([] ++ .gateway "default" "gateway-a" :: [.get 0]))
        (gatewayHandlerKey "default" "gateway-a") ∨
      ∃ pre e post, [Event.get 0] = pre ++ e :: post ∧
        HandsOut (run State.init ([] ++ .gateway "default" "gateway-a" :: pre)) e
          (gatewayHandlerKey "default" "gateway-a")) :=
  ⟨rfl, gateway_resyncs [] [.get 0] "default" "gateway-a" rfl⟩

/-! ## A failed sync is retried -/

/-- `k` is owed a sync: it waits for its backoff, or is dirty. -/
def Owed (s : State) (k : String) : Prop :=
  k ∈ s.delayed ∨ k ∈ s.queue.dirty

theorem step_shuttingDown (s : State) (e : Event) (he : e.isShutDown = false) :
    (step s e).queue.shuttingDown = s.queue.shuttingDown := by
  rcases step_cases s e with ⟨keys, h⟩ | ⟨_, _, _, -, -, hg, h⟩ | ⟨_, _, _, -, -, h⟩ |
      ⟨_, _, -, h⟩ | ⟨_, -, -, h⟩ | ⟨rfl, -⟩ | h
  · rw [h]
    exact Queue.foldl_add_shuttingDown _ _
  · obtain ⟨rest, -, rfl⟩ := Queue.get_eq_some.mp hg
    rw [h]
  · rw [h]
  · rw [h]
    exact Queue.done_shuttingDown _ _
  · rw [h]
    exact Queue.add_shuttingDown _ _
  · cases he
  · rw [h]

/-- Only the backoff of `k` elapsing takes `k` out of the keys waiting for one. -/
theorem step_delayed {s : State} (e : Event) {k : String} (hk : k ∈ s.delayed) :
    k ∈ (step s e).delayed ∨ e = .fire k := by
  rcases step_cases s e with ⟨_, he⟩ | ⟨_, _, _, -, -, -, he⟩ | ⟨_, _, _, -, -, he⟩ |
      ⟨_, _, -, he⟩ | ⟨key, rfl, -, he⟩ | ⟨-, he⟩ | he <;> rw [he]
  · exact .inl hk
  · exact .inl hk
  · left
    split_ifs
    exacts [Finset.mem_insert_of_mem hk, hk]
  · exact .inl hk
  · by_cases h : key = k
    · exact .inr (h ▸ rfl)
    · exact .inl (Finset.mem_erase.mpr ⟨Ne.symm h, hk⟩)
  · exact .inl hk
  · exact .inl hk

/-- On a running queue, a key owed a sync stays owed one until a `Get` hands it out: an elapsed
backoff adds it, which marks it dirty. -/
theorem step_owed {s : State} {e : Event} {k : String} (hs : s.queue.shuttingDown = false)
    (hk : Owed s k) (hn : ¬HandsOut s e k) : Owed (step s e) k := by
  rcases hk with hk | hk
  · rcases step_delayed e hk with h | rfl
    · exact .inl h
    · right
      simp only [step, if_pos hk]
      exact Queue.mem_dirty_add hs
  · exact .inr (step_dirty hk hn)

theorem run_owed {s : State} {k : String} (hs : s.queue.shuttingDown = false) (hk : Owed s k)
    (events : List Event) (hevents : ∀ e ∈ events, e.isShutDown = false) :
    Owed (run s events) k ∨
      ∃ pre e post, events = pre ++ e :: post ∧ HandsOut (run s pre) e k := by
  induction events generalizing s with
  | nil => exact .inl hk
  | cons e events ih =>
    have he := hevents e (List.mem_cons_self _ _)
    by_cases hn : HandsOut s e k
    · exact .inr ⟨[], e, events, rfl, hn⟩
    · rcases ih ((step_shuttingDown s e he).trans hs) (step_owed hs hk hn)
          fun e' he' => hevents e' (List.mem_cons_of_mem _ he') with
        h | ⟨pre, e', post, rfl, h⟩
      · exact .inl h
      · exact .inr ⟨e :: pre, e', post, rfl, h⟩

/-- **A failed sync is retried**: after `syncHandler` fails on a key, and until `ShutDown`, the
key waits for its backoff, or is pending, or a later `Get` hands it out again. -/
theorem sync_error_retried (history events : List Event) (w : ℕ) (key : String)
    (gatewayLister : String → String → Except APIError Gateway)
    (hw : (run State.init history).workers w = .syncing key)
    (hfail : syncHandler gatewayLister key ≠ none)
    (hrun : (run State.init history).queue.shuttingDown = false)
    (hevents : ∀ e ∈ events, e.isShutDown = false) :
    key ∈ (run State.init (history ++ .sync w gatewayLister :: events)).delayed ∨
      Pending (run State.init (history ++ .sync w gatewayLister :: events)) key ∨
      ∃ pre e post, events = pre ++ e :: post ∧
        HandsOut (run State.init (history ++ .sync w gatewayLister :: pre)) e key := by
  have hdelayed : key ∈ (step (run State.init history) (.sync w gatewayLister)).delayed := by
    simp [step, hw, hrun, Option.ne_none_iff_isSome.mp hfail]
  have hs : (step (run State.init history) (.sync w gatewayLister)).queue.shuttingDown = false :=
    (step_shuttingDown _ (.sync w gatewayLister) rfl).trans hrun
  have hinv := step_inv (run_inv init_inv history) (.sync w gatewayLister)
  simp only [run_append, run_cons]
  rcases run_owed hs (.inl hdelayed) events hevents with
    (h | h) | h
  · exact .inl h
  · exact .inr (.inl ((run_inv hinv events).pending_of_dirty h))
  · exact .inr (.inr h)

/-- The lister cannot reach the API server. -/
def unreachableLister : String → String → Except APIError Gateway :=
  fun _ _ => .error (.other "connection refused")

/-- A sync of `default/gateway-a` that fails, followed by the worker's `Done`. -/
theorem sync_error_retried_unreachable :
    (run State.init [.gateway "default" "gateway-a", .get 0]).workers 0 =
      .syncing "default/gateway-a" ∧
    syncHandler unreachableLister "default/gateway-a" ≠ none ∧
    (run State.init [.gateway "default" "gateway-a", .get 0]).queue.shuttingDown = false ∧
    (∀ e ∈ [Event.done 0], e.isShutDown = false) ∧
    ("default/gateway-a" ∈ (run State.init ([.gateway "default" "gateway-a", .get 0] ++
        .sync 0 unreachableLister :: [.done 0])).delayed ∨
      Pending (run State.init ([.gateway "default" "gateway-a", .get 0] ++
        .sync 0 unreachableLister :: [.done 0])) "default/gateway-a" ∨
      ∃ pre e post, [Event.done 0] = pre ++ e :: post ∧
        HandsOut (run State.init ([.gateway "default" "gateway-a", .get 0] ++
          .sync 0 unreachableLister :: pre)) e "default/gateway-a") :=
  ⟨by decide, by decide, by decide, by decide,
    sync_error_retried [.gateway "default" "gateway-a", .get 0] [.done 0] 0 "default/gateway-a"
      unreachableLister (by decide) (by decide) (by decide) (by decide)⟩

/-! ## The order keys are handed out in -/

/-- The key an event hands out: an idle worker's `Get` takes the head of the FIFO. -/
def handOut? (s : State) : Event → Option String
  | .get w => if s.workers w = .idle then s.queue.queue.head? else none
  | _ => none

/-- The keys the `Get`s of a sequence of events hand out, in order. -/
def handedOut (s : State) : List Event → List String
  | [] => []
  | e :: events => (handOut? s e).toList ++ handedOut (step s e) events

/-- A hand-out is an idle worker's `Get` of the FIFO's head, which it takes off the FIFO. -/
theorem handOut?_eq_some {s : State} {e : Event} {k : String} (he : handOut? s e = some k) :
    ∃ w rest, e = .get w ∧ s.workers w = .idle ∧ s.queue.queue = k :: rest ∧
      step s e =
        ⟨{ s.queue with
            queue := rest, processing := insert k s.queue.processing,
            dirty := s.queue.dirty.erase k },
          s.delayed, Function.update s.workers w (.syncing k)⟩ := by
  cases e with
  | get w =>
    simp only [handOut?] at he
    split_ifs at he with hw
    obtain ⟨rest, hq⟩ := List.head?_eq_some_iff.mp he
    exact ⟨w, rest, rfl, hw, hq, by simp [step, hw, Queue.get, hq]⟩
  | _ => cases he

/-- Every other event at most appends to the FIFO. -/
theorem queue_prefix_step {s : State} {e : Event} (he : handOut? s e = none) :
    s.queue.queue <+: (step s e).queue.queue := by
  rcases step_cases s e with ⟨keys, h⟩ | ⟨w, key, q, rfl, hw, hg, h⟩ | ⟨_, _, _, -, -, h⟩ |
      ⟨_, key, -, h⟩ | ⟨key, -, -, h⟩ | ⟨-, h⟩ | h <;> rw [h]
  · exact Queue.queue_prefix_foldl_add _ _
  · obtain ⟨rest, hq, -⟩ := Queue.get_eq_some.mp hg
    simp [handOut?, hw, hq] at he
  · exact Queue.queue_prefix_done _ _
  · exact Queue.queue_prefix_add _ _
  · exact List.prefix_refl _

/-- **The work queue is FIFO**: from any state, the keys a run hands out begin with the keys
queued in that state, in their order, until those run out.  So a queued Gateway is synced after
exactly the keys ahead of it, and no key added later overtakes it. -/
theorem handedOut_fifo (s : State) (events : List Event) :
    handedOut s events <+: s.queue.queue ∨ s.queue.queue <+: handedOut s events := by
  induction events generalizing s with
  | nil => exact .inl List.nil_prefix
  | cons e events ih =>
    cases he : handOut? s e with
    | none =>
      -- the FIFO only grows, so the hand-outs are compared with a longer list
      simp only [handedOut, he, Option.toList_none, List.nil_append]
      rcases ih (step s e) with h | h
      · exact List.prefix_or_prefix_of_prefix h (queue_prefix_step he)
      · exact .inr ((queue_prefix_step he).trans h)
    | some k =>
      -- the head is handed out first
      obtain ⟨w, rest, -, -, hq, hs⟩ := handOut?_eq_some he
      simp only [handedOut, he, Option.toList_some, List.singleton_append, hq,
        List.prefix_cons_inj]
      simpa only [hs] using ih (step s e)

/-! ## ShutDown drains the queue -/

/-- A shut-down queue stays shut down. -/
theorem step_shuttingDown_true {s : State} (hs : s.queue.shuttingDown = true) (e : Event) :
    (step s e).queue.shuttingDown = true := by
  cases he : e.isShutDown
  · exact (step_shuttingDown s e he).trans hs
  · cases e <;> first | rfl | cases he

/-- After `ShutDown` no event marks a key dirty: the handlers' and the backoffs' `Add`s do
nothing. -/
theorem step_dirty_subset {s : State} (hs : s.queue.shuttingDown = true) (e : Event) :
    (step s e).queue.dirty ⊆ s.queue.dirty := by
  rcases step_cases s e with ⟨keys, he⟩ | ⟨_, _, _, -, -, hg, he⟩ | ⟨_, _, _, -, -, he⟩ |
      ⟨_, key, -, he⟩ | ⟨key, -, -, he⟩ | ⟨-, he⟩ | he <;> rw [he]
  -- a sync and an event that changes nothing leave the dirty set as it is
  · rw [State.addAll, Queue.foldl_add_of_shuttingDown hs]
  · obtain ⟨rest, -, rfl⟩ := Queue.get_eq_some.mp hg
    exact Finset.erase_subset _ _
  · rw [Queue.done_dirty]
  · rw [Queue.add_of_shuttingDown hs]
  · exact Finset.Subset.refl _

/-- A `Get` hands out a dirty key and takes its mark away. -/
theorem step_handOut {s : State} (h : Inv s) {e : Event} {k : String}
    (he : handOut? s e = some k) : k ∈ s.queue.dirty ∧ k ∉ (step s e).queue.dirty := by
  obtain ⟨_, rest, -, -, hq, hs⟩ := handOut?_eq_some he
  rw [hs]
  exact ⟨h.queue.queued_dirty k (hq ▸ List.mem_cons_self _ _), Finset.not_mem_erase k _⟩

/-- From a shut-down state, every run hands out only keys dirty in that state, each once. -/
theorem handedOut_of_shuttingDown {s : State} (h : Inv s) (hs : s.queue.shuttingDown = true)
    (events : List Event) :
    (handedOut s events).Nodup ∧ ∀ k ∈ handedOut s events, k ∈ s.queue.dirty := by
  induction events generalizing s with
  | nil => exact ⟨List.nodup_nil, (fun _ h => nomatch h)⟩
  | cons e events ih =>
    obtain ⟨hnd, hmem⟩ := ih (step_inv h e) (step_shuttingDown_true hs e)
    have hsub := step_dirty_subset hs e
    cases hk : handOut? s e with
    | none =>
      simp only [handedOut, hk, Option.toList_none, List.nil_append]
      exact ⟨hnd, fun k hk' => hsub (hmem k hk')⟩
    | some k =>
      obtain ⟨hkd, hkn⟩ := step_handOut h hk
      simp only [handedOut, hk, Option.toList_some, List.singleton_append, List.nodup_cons,
        List.forall_mem_cons]
      exact ⟨⟨fun hk' => hkn (hmem k hk'), hnd⟩, hkd, fun k' hk' => hsub (hmem k' hk')⟩

/-- **ShutDown drains the queue**: once `Run` shuts the queue down, whatever the handlers and
the workers do next, the `Get`s hand out only keys that were dirty at that moment, each at most
once.  So the workers sync at most as many Gateways as were dirty, and no other Gateway is
synced again. -/
theorem shutDown_drains (history events : List Event) :
    (handedOut (run State.init (history ++ [.shutDown])) events).Nodup ∧
      (∀ k ∈ handedOut (run State.init (history ++ [.shutDown])) events,
        k ∈ (run State.init history).queue.dirty) ∧
      (handedOut (run State.init (history ++ [.shutDown])) events).length ≤
        (run State.init history).queue.dirty.card := by
  rw [run_append]
  obtain ⟨hnd, hmem⟩ :=
    handedOut_of_shuttingDown (step_inv (run_inv init_inv history) .shutDown) rfl events
  exact ⟨hnd, hmem, (List.toFinset_card_of_nodup hnd).symm.trans_le
    (Finset.card_le_card fun k hk => hmem k (List.mem_toFinset.mp hk))⟩

end Controller

end AgenticNetworking
