import Mathlib.Logic.Function.Basic
import WorkflowPod.Proofs.Cluster.Store

/-!
Sessions that talk to one cluster, each making its next request at its own time. A request is served
or fails, and objects are removed in between.
-/
namespace WorkflowPod.Cluster

variable {ι α : Type}

def Session.result? : Session α → Option α
  | done result => some result
  | ask _ _ => none

/-- What can happen next where the sessions `ι` talk to a cluster. -/
inductive Move (ι : Type) where
  /-- The next request of a session is served. -/
  | serve (i : ι)
  /-- The next request of a session fails: nothing is kept. -/
  | fail (i : ι) (reply : Reply)
  /-- An object is removed. -/
  | remove (resource : Resource) (key : Key)

/-- What happened between two stores: an exchange, or else the removal of an object. -/
structure Moment (ι : Type) where
  before : Store
  exchange? : Option (ι × Exchange)
  after : Store

/-- A cluster, what is left of the sessions that talk to it, and what has happened so far. -/
structure System (ι α : Type) where
  store : Store
  sessions : ι → Session α
  history : List (Moment ι) := []

namespace System

variable [DecidableEq ι] (system : System ι α)

/-- An exchange of a session, which goes on as `session`, and the store it leaves. -/
def advance (i : ι) (exchange : Exchange) (session : Session α) (store : Store) : System ι α where
  store := store
  sessions := Function.update system.sessions i session
  history := system.history ++ [⟨system.store, some (i, exchange), store⟩]

/-- A session makes its next request, if it is not over. -/
def exchange (serve : Store → Request → Store × Reply) (i : ι) : System ι α :=
  match system.sessions i with
  | .done _ => system
  | .ask request next =>
    let (store, reply) := serve system.store request
    system.advance i ⟨request, reply⟩ (next reply) store

def remove (resource : Resource) (key : Key) : System ι α :=
  let store := system.store.remove resource key
  { system with store, history := system.history ++ [⟨system.store, none, store⟩] }

/-- What a move changes. A session that is over makes none. -/
def step : Move ι → System ι α
  | .serve i => system.exchange Store.serve i
  | .fail i reply => system.exchange (fun store _ => (store, reply)) i
  | .remove resource key => system.remove resource key

/-- What moves change, one after the other. -/
def play (moves : List (Move ι)) : System ι α := moves.foldl step system

theorem play_append (moves more : List (Move ι)) :
    system.play (moves ++ more) = (system.play moves).play more := List.foldl_append

section Advance

variable (i : ι) (exchange : Exchange) (session : Session α) (store : Store)

@[simp] theorem store_advance : (system.advance i exchange session store).store = store := rfl

@[simp] theorem sessions_advance_self :
    (system.advance i exchange session store).sessions i = session :=
  Function.update_self ..

theorem sessions_advance_of_ne {j : ι} (h : j ≠ i) :
    (system.advance i exchange session store).sessions j = system.sessions j :=
  Function.update_of_ne h ..

end Advance

variable {system}

theorem exchange_of_done (serve : Store → Request → Store × Reply) {i : ι} {result : α}
    (h : system.sessions i = .done result) : system.exchange serve i = system := by
  rw [exchange, h]

theorem exchange_of_ask (serve : Store → Request → Store × Reply) {i : ι} {request : Request}
    {next : Reply → Session α} (h : system.sessions i = .ask request next) :
    system.exchange serve i = system.advance i ⟨request, (serve system.store request).2⟩
      (next (serve system.store request).2) (serve system.store request).1 := by
  rw [exchange, h]

/-- All that a move can come to. -/
theorem step_cases (system : System ι α) (move : Move ι) :
    system.step move = system ∨
    (∃ i request next reply store, system.sessions i = .ask request next ∧
      (move = .serve i ∧ system.store.serve request = (store, reply) ∨
        move = .fail i reply ∧ system.store = store) ∧
      system.step move = system.advance i ⟨request, reply⟩ (next reply) store) ∨
    ∃ resource key, move = .remove resource key ∧
      system.step move = system.remove resource key := by
  cases move with
  | serve i =>
    cases h : system.sessions i with
    | done result => exact .inl (exchange_of_done Store.serve h)
    | ask request next =>
      refine .inr (.inl ⟨i, request, next, (system.store.serve request).2,
        (system.store.serve request).1, h, .inl ⟨rfl, rfl⟩, ?_⟩)
      exact exchange_of_ask Store.serve h
  | fail i reply =>
    cases h : system.sessions i with
    | done result => exact .inl (exchange_of_done (fun store _ => (store, reply)) h)
    | ask request next =>
      refine .inr (.inl ⟨i, request, next, reply, system.store, h, .inr ⟨rfl, rfl⟩, ?_⟩)
      exact exchange_of_ask (fun store _ => (store, reply)) h
  | remove resource key => exact .inr (.inr ⟨resource, key, rfl, rfl⟩)

/-- What holds at the start and is kept by every move holds after all of them. -/
theorem play_induction (P : System ι α → Prop) {moves : List (Move ι)} (hstart : P system)
    (hstep : ∀ system, ∀ move ∈ moves, P system → P (system.step move)) :
    P (system.play moves) :=
  List.foldlRecOn moves step hstart fun system hsystem move hmove => hstep system move hmove hsystem

end System

/-- A moment that leaves every object where it is. -/
def Moment.Keeps (moment : Moment ι) : Prop :=
  ∀ resource key object, moment.before.get? resource key = some object →
    moment.after.get? resource key = some object

/-- Whatever is served or fails, only removals take an object away. -/
theorem System.keeps_of_mem_history [DecidableEq ι] {system : System ι α} {moves : List (Move ι)}
    (hstart : system.history = []) :
    ∀ moment ∈ (system.play moves).history, moment.exchange?.isSome → moment.Keeps := by
  refine System.play_induction (fun system =>
    ∀ moment ∈ system.history, moment.exchange?.isSome → moment.Keeps) (by simp [hstart]) ?_
  intro system move _ hsystem
  rcases system.step_cases move with h |
    ⟨i, request, next, reply, store, -, hserved, h⟩ | ⟨resource, key, -, h⟩
  · rwa [h]
  · rw [h]
    intro moment hmoment hsome
    rcases List.mem_append.1 hmoment with hmoment | hmoment
    · exact hsystem moment hmoment hsome
    · cases List.mem_singleton.1 hmoment
      intro resource key object hobject
      rcases hserved with ⟨-, hserve⟩ | ⟨-, rfl⟩
      · have hkept : (system.store.serve request).1.get? resource key = some object :=
          Store.get?_serve_of_eq_some hobject
        rwa [hserve] at hkept
      · exact hobject
  · rw [h]
    intro moment hmoment hsome
    rcases List.mem_append.1 hmoment with hmoment | hmoment
    · exact hsystem moment hmoment hsome
    · cases List.mem_singleton.1 hmoment
      cases hsome

end WorkflowPod.Cluster
