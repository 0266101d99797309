import Mathlib.Algebra.BigOperators.Group.Finset.Piecewise
import Mathlib.Data.Fintype.Basic
import WorkflowPod.Proofs.Cluster.System
import WorkflowPod.Proofs.Reconcile.Session

/-!
Reconciles of one workflow at the same time. Each is told that the pod is new exactly when the pod
is stored at its own request, and reports just what it was told.
-/
namespace WorkflowPod

open Cluster Manifest Reconcile

namespace Cluster

/-- Whether a request is the report of a new pod. -/
def Request.reports : Request → Bool
  | .publish event => event.reason = "PodCreated"
  | .read _ | .create .. => false

/-- Whether a reply is taken to mean that a pod is new. -/
def Reply.tellsNew (reply : Reply) : Bool :=
  match reply.created Pod.codec with
  | .ok isNew => isNew
  | .error _ => false

/-- Whether a session is told that the pod under `key` is new. -/
def Exchange.tells (key : Key) (exchange : Exchange) : Bool :=
  match exchange.request with
  | .create .pods key' _ => key' = key ∧ exchange.reply.tellsNew
  | .create .configMaps .. | .read _ | .publish _ => false

theorem Exchange.tells_of_tellsNew_eq_false {key : Key} {exchange : Exchange}
    (h : exchange.reply.tellsNew = false) : exchange.tells key = false := by
  unfold tells
  split
  · simp [h]
  all_goals rfl

/-- Whether a pod is stored under `key` between two stores. -/
def Store.gainsPod (key : Key) (before after : Store) : Bool :=
  (before.get? .pods key).isNone && (after.get? .pods key).isSome

theorem Store.gainsPod_self (key : Key) (store : Store) : store.gainsPod key store = false := by
  unfold gainsPod
  cases store.get? .pods key <;> rfl

theorem Store.toNat_gainsPod_le {key : Key} {before after : Store}
    (hkeeps : ∀ pod, before.get? .pods key = some pod → after.get? .pods key = some pod) :
    (before.gainsPod key after).toNat + (after.get? .pods key).isNone.toNat ≤
      (before.get? .pods key).isNone.toNat := by
  unfold gainsPod
  cases hbefore : before.get? .pods key with
  | none => cases after.get? .pods key <;> simp
  | some pod => simp [hkeeps pod hbefore]

theorem Store.gainsPod_remove (key : Key) (store : Store) (resource : Resource) (key' : Key) :
    store.gainsPod key (store.remove resource key') = false := by
  have hself := gainsPod_self key store
  unfold gainsPod at hself ⊢
  rw [get?_remove]
  split
  · simp
  · exact hself

/-- The requests whose objects a cluster is bound to understand. -/
def Request.IsPlanned : Request → Prop
  | .create .pods _ object => ∃ plan : Plan, object = plan.object .pods
  | .create .configMaps .. | .read _ | .publish _ => True

/-- A session is told that a pod is new just when it is stored. -/
theorem Store.gainsPod_serve (key : Key) (store : Store) {request : Request}
    (hrequest : request.IsPlanned) :
    store.gainsPod key (store.serve request).1 =
      Exchange.tells key ⟨request, (store.serve request).2⟩ := by
  cases request with
  | read key' => rw [serve_read_store, gainsPod_self, Exchange.tells]
  | publish event => exact gainsPod_self key store
  | create resource key' object =>
    cases resource with
    | configMaps =>
      have hget : (store.serve (.create .configMaps key' object)).1.get? .pods key =
          store.get? .pods key := by
        rw [serve_create, get?_offer, if_neg (by simp)]
      rw [gainsPod, hget]
      exact gainsPod_self key store
    | pods =>
      obtain ⟨plan, rfl⟩ := hrequest
      have hget := store.get?_offer .pods key' (plan.object .pods) .pods key
      have hcreated := plan.createdAs_serve .pods store key'
      simp only [Reply.createdAs] at hcreated
      simp only [Exchange.tells, Reply.tellsNew, hcreated]
      rw [gainsPod, serve_create, hget]
      by_cases hkey : key' = key
      · subst hkey
        cases store.get? .pods key' <;> simp
      · rw [if_neg (by simp [Ne.symm hkey])]
        have hself := gainsPod_self key store
        rw [gainsPod] at hself
        simp [hself, hkey]

end Cluster

namespace Cluster.Session

variable {α : Type}

/-- Sessions that report a new pod exactly when they have just been told of it. A session that
`owes` has been told and is to report it next. -/
inductive Reporting (key : Key) : Bool → Session α → Prop where
  | done (result : α) : Reporting key false (.done result)
  | ask {owes : Bool} {request : Request} {next : Reply → Session α}
      (howes : owes = request.reports) (hrequest : request.IsPlanned)
      (hnext : ∀ reply, Reporting key (Exchange.tells key ⟨request, reply⟩) (next reply)) :
      Reporting key owes (.ask request next)

theorem Reporting.of_ask {key : Key} {owes : Bool} {request : Request} {next : Reply → Session α}
    (h : (Session.ask request next).Reporting key owes) :
    owes = request.reports ∧ request.IsPlanned ∧
      ∀ reply, (next reply).Reporting key (Exchange.tells key ⟨request, reply⟩) := by
  cases h with
  | ask howes hrequest hnext => exact ⟨howes, hrequest, hnext⟩

theorem Reporting.owes_eq_false {key : Key} {owes : Bool} {session : Session α}
    (h : session.Reporting key owes) (hover : session.result?.isSome) : owes = false := by
  cases h with
  | done => rfl
  | ask => cases hover

end Cluster.Session

namespace Reconcile

variable {setting : Setting} {workflow : Workflow} {space : String} {key : Key}

theorem announce_reporting {owes : Bool} {event : Event}
    (howes : owes = (Request.publish event).reports) (outcome : Outcome) :
    (announce event outcome).Reporting key owes :=
  .ask howes trivial fun _ => .done outcome

theorem createPod_reporting {plan : Plan} (hkey : Plan.objectKey space plan.name .pods = key) :
    (createPod setting workflow space plan).Reporting key false := by
  refine .ask rfl ⟨plan, rfl⟩ fun reply => ?_
  have htells : Exchange.tells key ⟨.create .pods ⟨space, plan.name⟩ (Pod.codec.encode plan.pod),
      reply⟩ = reply.tellsNew := by
    have hkey' : Key.mk space plan.name = key := hkey
    simp [Exchange.tells, hkey']
  rw [htells, Reply.tellsNew]
  cases reply.created Pod.codec with
  | error fault => exact .done _
  | ok isNew =>
    cases isNew with
    | false => exact .done _
    | true => exact announce_reporting (by rfl) _

theorem createObjects_reporting {plan : Plan} (hkey : Plan.objectKey space plan.name .pods = key) :
    (createObjects setting workflow space plan).Reporting key false := by
  refine .ask rfl trivial fun reply => ?_
  split
  · exact .done _
  · exact createPod_reporting hkey

theorem reconcile_reporting
    (hkey : ∀ space, workflow.metadata.namespaceName = some space →
      Plan.objectKey space workflow.name .pods = key) :
    (reconcile setting workflow).Reporting key false := by
  unfold reconcile
  split
  · exact .done _
  · rename_i space hspace
    split
    · exact .done _
    · refine .ask rfl trivial fun reply => ?_
      rw [compileAndCreate_eq]
      split
      · exact announce_reporting (by rfl) _
      · rename_i plan hplan
        have hname : plan.name = workflow.name := compile_name hplan
        exact createObjects_reporting (hname ▸ hkey space hspace)

end Reconcile

namespace Cluster

variable {ι α : Type}

namespace Moment

def reports (moment : Moment ι) : Bool :=
  moment.exchange?.any fun (_, exchange) => exchange.request.reports

def tells (key : Key) (moment : Moment ι) : Bool :=
  moment.exchange?.any fun (_, exchange) => exchange.tells key

def stores (key : Key) (moment : Moment ι) : Bool := moment.before.gainsPod key moment.after

end Moment

/-- A failure that tells no one of a new pod. -/
def Move.IsHonest : Move ι → Prop
  | .fail _ reply => reply.tellsNew = false
  | .serve _ | .remove .. => True

namespace System

/-- How many reports were made. Nothing waits for them: one that is lost was made as well. -/
def reported (system : System ι α) : ℕ := system.history.countP Moment.reports

/-- How many times a session was told that the pod under `key` is new. -/
def told (key : Key) (system : System ι α) : ℕ := system.history.countP (Moment.tells key)

/-- How many times the pod was stored. -/
def stored (key : Key) (system : System ι α) : ℕ := system.history.countP (Moment.stores key)

private theorem countP_concat {β : Type} (p : β → Bool) (l : List β) (b : β) :
    (l ++ [b]).countP p = l.countP p + (p b).toNat := by
  rw [List.countP_append, List.countP_singleton]
  cases p b <;> rfl

section Counts

variable [DecidableEq ι] (system : System ι α) (key : Key) (i : ι) (exchange : Exchange)
  (session : Session α) (store : Store) (resource : Resource) (key' : Key)

@[simp] theorem reported_advance : (system.advance i exchange session store).reported =
    system.reported + exchange.request.reports.toNat :=
  countP_concat ..

@[simp] theorem told_advance : (system.advance i exchange session store).told key =
    system.told key + (exchange.tells key).toNat :=
  countP_concat ..

@[simp] theorem stored_advance : (system.advance i exchange session store).stored key =
    system.stored key + (system.store.gainsPod key store).toNat :=
  countP_concat ..

omit [DecidableEq ι]

@[simp] theorem reported_remove : (system.remove resource key').reported = system.reported :=
  countP_concat ..

@[simp] theorem told_remove : (system.remove resource key').told key = system.told key :=
  countP_concat ..

@[simp] theorem stored_remove : (system.remove resource key').stored key = system.stored key := by
  have hcount : (system.remove resource key').stored key = system.stored key +
      (system.store.gainsPod key (system.store.remove resource key')).toNat := countP_concat ..
  rw [hcount, Store.gainsPod_remove]
  rfl

end Counts

/-- Whoever was told of a new pod has reported it or `owes` the report. -/
structure Balanced [Fintype ι] (key : Key) (owes : ι → Bool) (system : System ι α) : Prop where
  reporting : ∀ i, (system.sessions i).Reporting key (owes i)
  told_eq : system.told key = system.reported + ∑ i, (owes i).toNat
  stored_eq : system.stored key = system.told key

section Balance

variable [Fintype ι] [DecidableEq ι] {key : Key} {owes : ι → Bool} {system : System ι α}

private theorem sum_toNat_update (f : ι → Bool) (i : ι) (b : Bool) :
    ∑ j, (Function.update f i b j).toNat + (f i).toNat = ∑ j, (f j).toNat + b.toNat := by
  have hupdate : ∀ j, (Function.update f i b j).toNat =
      Function.update (fun j => (f j).toNat) i b.toNat j :=
    Function.apply_update (fun _ => Bool.toNat) f i b
  have herase := Finset.sum_erase_add Finset.univ (fun j => (f j).toNat) (Finset.mem_univ i)
  simp only [hupdate, Finset.sum_update_of_mem (Finset.mem_univ i),
    Finset.sdiff_singleton_eq_erase]
  omega

/-- An exchange keeps the balance if it tells of a new pod just when the pod is stored. -/
theorem Balanced.advance (h : system.Balanced key owes) {i : ι} {request : Request}
    {next : Reply → Session α} (hsession : system.sessions i = .ask request next) {reply : Reply}
    {store : Store}
    (hgains : request.IsPlanned →
      system.store.gainsPod key store = Exchange.tells key ⟨request, reply⟩) :
    (system.advance i ⟨request, reply⟩ (next reply) store).Balanced key
      (Function.update owes i (Exchange.tells key ⟨request, reply⟩)) := by
  have hreporting := h.reporting i
  rw [hsession] at hreporting
  obtain ⟨howes, hrequest, hnext⟩ := hreporting.of_ask
  constructor
  · intro j
    by_cases hj : j = i
    · subst hj
      simpa using hnext reply
    · simpa [sessions_advance_of_ne _ _ _ _ _ hj, hj] using h.reporting j
  · -- What the session owed is reported now, and what it is told now it owes.
    have hsum := sum_toNat_update owes i (Exchange.tells key ⟨request, reply⟩)
    have htold := h.told_eq
    rw [told_advance, reported_advance, ← howes]
    omega
  · rw [stored_advance, told_advance, h.stored_eq, hgains hrequest]

theorem Balanced.step (h : system.Balanced key owes) {move : Move ι} (hmove : move.IsHonest) :
    ∃ owes', (system.step move).Balanced key owes' := by
  rcases system.step_cases move with heq |
    ⟨i, request, next, reply, store, hsession, hserved, heq⟩ | ⟨resource, key', -, heq⟩
  · rw [heq]
    exact ⟨owes, h⟩
  · rw [heq]
    refine ⟨_, h.advance hsession fun hrequest => ?_⟩
    rcases hserved with ⟨-, hserve⟩ | ⟨rfl, rfl⟩
    · have hgains := system.store.gainsPod_serve key hrequest
      rwa [hserve] at hgains
    · have hreply : reply.tellsNew = false := hmove
      rw [Store.gainsPod_self, Exchange.tells_of_tellsNew_eq_false hreply]
  · rw [heq]
    refine ⟨owes, h.reporting, ?_, ?_⟩
    · simpa using h.told_eq
    · simpa using h.stored_eq

/-- The balance is kept all along. -/
theorem Balanced.play (h : system.Balanced key owes) {moves : List (Move ι)}
    (hmoves : ∀ move ∈ moves, move.IsHonest) : ∃ owes', (system.play moves).Balanced key owes' :=
  play_induction (fun system => ∃ owes, system.Balanced key owes) ⟨owes, h⟩
    fun _ move hmove ⟨_, hsystem⟩ => hsystem.step (hmoves move hmove)

end Balance

section Removal

variable [DecidableEq ι] {key : Key} {system : System ι α}

/-- As long as the pod is not removed it is stored only where it is missing. -/
theorem stored_step_le {move : Move ι} (hmove : move ≠ .remove .pods key) :
    (system.step move).stored key + ((system.step move).store.get? .pods key).isNone.toNat ≤
      system.stored key + (system.store.get? .pods key).isNone.toNat := by
  rcases system.step_cases move with heq |
    ⟨i, request, next, reply, store, -, hserved, heq⟩ | ⟨resource, key', rfl, heq⟩
  · rw [heq]
  · have hgains : (system.store.gainsPod key store).toNat + (store.get? .pods key).isNone.toNat ≤
        (system.store.get? .pods key).isNone.toNat := by
      refine Store.toNat_gainsPod_le fun pod hpod => ?_
      rcases hserved with ⟨-, hserve⟩ | ⟨-, rfl⟩
      · have hkept : (system.store.serve request).1.get? .pods key = some pod :=
          Store.get?_serve_of_eq_some hpod
        rwa [hserve] at hkept
      · exact hpod
    rw [heq, stored_advance, store_advance]
    omega
  · have hother : ¬(Resource.pods = resource ∧ key = key') := by
      rintro ⟨rfl, rfl⟩
      exact hmove rfl
    rw [heq, stored_remove]
    simp only [System.remove, Store.get?_remove, if_neg hother, le_refl]

/-- Between two moments without a removal of the pod it is stored once at most. -/
theorem stored_play_le {moves : List (Move ι)} (hmoves : ∀ move ∈ moves, move ≠ .remove .pods key) :
    (system.play moves).stored key ≤ system.stored key + 1 := by
  have hinvariant : (system.play moves).stored key +
      ((system.play moves).store.get? .pods key).isNone.toNat ≤
        system.stored key + (system.store.get? .pods key).isNone.toNat :=
    play_induction (fun system' => system'.stored key +
      (system'.store.get? .pods key).isNone.toNat ≤
        system.stored key + (system.store.get? .pods key).isNone.toNat) le_rfl
      fun _ move hmove hsystem => (stored_step_le (hmoves move hmove)).trans hsystem
  have hle := Bool.toNat_le (system.store.get? .pods key).isNone
  omega

end Removal

end System

end Cluster

namespace Reconcile

variable {ι : Type} [Fintype ι] [DecidableEq ι]

/-- The pod under `key` is reported as often as it is stored, with a delay while reconciles are
under way. Until it is removed one reconcile at most is told that it is new, and none replaces or
removes what is there. -/
theorem pod_reported_once {key : Key} {settings : ι → Setting} {workflows : ι → Workflow}
    (hkey : ∀ i space, (workflows i).metadata.namespaceName = some space →
      Plan.objectKey space (workflows i).name .pods = key)
    {store : Store} {moves : List (Move ι)} (hmoves : ∀ move ∈ moves, move.IsHonest) :
    let start : System ι Outcome :=
      { store, sessions := fun i => reconcile (settings i) (workflows i) }
    let system := start.play moves
    system.reported ≤ system.stored key ∧
      ((∀ i, (system.sessions i).result?.isSome) → system.reported = system.stored key) ∧
      (∀ before during after, moves = before ++ during ++ after →
        (∀ move ∈ during, move ≠ .remove .pods key) →
          (start.play (before ++ during)).told key ≤ (start.play before).told key + 1) ∧
      ∀ moment ∈ system.history, moment.exchange?.isSome → moment.Keeps := by
  intro start system
  have hstart : start.Balanced key fun _ => false := by
    refine ⟨fun i => reconcile_reporting (hkey i), ?_, rfl⟩
    simp [start, System.told, System.reported]
  have hbalanced (moves : List (Move ι)) (hmoves : ∀ move ∈ moves, move.IsHonest) :
      ∃ owes, (start.play moves).Balanced key owes := hstart.play hmoves
  obtain ⟨owes, hreporting, htold, hstored⟩ : ∃ owes, system.Balanced key owes :=
    hbalanced moves hmoves
  refine ⟨?_, fun hover => ?_, fun before during after heq hduring => ?_, ?_⟩
  · omega
  · have howes : ∀ i, owes i = false := fun i => (hreporting i).owes_eq_false (hover i)
    simp only [howes, Bool.toNat_false, Finset.sum_const_zero] at htold
    omega
  · subst heq
    obtain ⟨_, -, -, hbefore⟩ := hbalanced before fun move hmove => hmoves move (by simp [hmove])
    obtain ⟨_, -, -, hlater⟩ := hbalanced (before ++ during) fun move hmove =>
      hmoves move (List.mem_append_left _ hmove)
    have hle : ((start.play before).play during).stored key ≤ (start.play before).stored key + 1 :=
      System.stored_play_le hduring
    rw [← System.play_append] at hle
    omega
  · exact System.keeps_of_mem_history rfl

/-- Two reconciles at the same time, while the pod is removed. The second is refused in between. -/
def overlapping : List (Move Bool) :=
  [.serve false, .serve true, .serve true, .serve false, .fail true (.refusal 500 "injected"),
    .serve false, .remove .pods ⟨"space", "w"⟩, .serve false]

theorem pod_reported_once_overlapping :
    let start : System Bool Outcome :=
      { store := {}, sessions := fun _ => reconcile (plainSetting "image") (plainWorkflow "w") }
    let system := start.play overlapping
    (∀ i, (system.sessions i).result?.isSome) ∧ system.stored ⟨"space", "w"⟩ = 1 ∧
      system.reported = system.stored ⟨"space", "w"⟩ := by
  intro start system
  have hover : ∀ i, (system.sessions i).result?.isSome := by decide +kernel
  have hkey (_ : Bool) (space : String)
      (hspace : (plainWorkflow "w").metadata.namespaceName = some space) :
      Plan.objectKey space (plainWorkflow "w").name .pods = ⟨"space", "w"⟩ := by
    cases hspace
    rfl
  have hmoves : ∀ move ∈ overlapping, move.IsHonest := by
    simp [overlapping, Move.IsHonest, Reply.tellsNew, Reply.created, Reply.result]
  have hstored : system.stored ⟨"space", "w"⟩ = 1 := by decide +kernel
  exact ⟨hover, hstored, (pod_reported_once hkey hmoves).2.1 hover⟩

end Reconcile

end WorkflowPod
