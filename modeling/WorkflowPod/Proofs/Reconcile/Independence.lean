import WorkflowPod.Proofs.Cluster.System
import WorkflowPod.Proofs.Reconcile.Session

/-!
Reconciles of different workflows. They share the config maps, where each keeps its own and reads
the stored defaults, but what one of them keeps the other cannot tell from nothing. So they come to
the same in whatever order their requests are served.
-/
namespace WorkflowPod

open Cluster Manifest Reconcile

namespace Cluster

/-- Whether a request is for more than to read. -/
def Request.isPost : Request → Bool
  | .create .. | .publish _ => true
  | .read _ => false

/-- The exchanges that are for more than to read. -/
def posts (exchanges : List Exchange) : List Exchange :=
  exchanges.filter (·.request.isPost)

theorem posts_append (exchanges more : List Exchange) :
    posts (exchanges ++ more) = posts exchanges ++ posts more := List.filter_append ..

theorem posts_cons (exchange : Exchange) (exchanges : List Exchange) :
    posts (exchange :: exchanges) = posts [exchange] ++ posts exchanges :=
  posts_append [exchange] exchanges

/-- Two stores that differ neither in the objects under the keys of some session's `own` objects nor
in the document of any config map. -/
structure Store.Agree (own : Resource → Key → Json → Prop) (store store' : Store) : Prop where
  get?_eq : ∀ resource key object, own resource key object →
    store.get? resource key = store'.get? resource key
  documentIn_eq : ∀ key, documentIn store key = documentIn store' key

namespace Store.Agree

variable {own : Resource → Key → Json → Prop} {store store' store'' : Store}

theorem refl (store : Store) : Agree own store store := ⟨fun _ _ _ _ => rfl, fun _ => rfl⟩

theorem symm (h : Agree own store store') : Agree own store' store :=
  ⟨fun resource key object hown => (h.get?_eq resource key object hown).symm,
    fun key => (h.documentIn_eq key).symm⟩

theorem trans (h : Agree own store store') (h' : Agree own store' store'') :
    Agree own store store'' :=
  ⟨fun resource key object hown =>
      (h.get?_eq resource key object hown).trans (h'.get?_eq resource key object hown),
    fun key => (h.documentIn_eq key).trans (h'.documentIn_eq key)⟩

/-- Stores that look the same still do so with one more object. -/
theorem offer (h : Agree own store store') {resource : Resource} {key : Key} {plan : Plan}
    (hown : own resource key (plan.object resource)) :
    Agree own (store.offer resource key (plan.object resource))
      (store'.offer resource key (plan.object resource)) := by
  constructor
  · intro resource' key' object' hown'
    rw [get?_offer, get?_offer, h.get?_eq resource key _ hown, h.get?_eq resource' key' _ hown']
  · intro key'
    rw [documentIn_offer, documentIn_offer, h.documentIn_eq]

/-- An object under someone else's key makes no difference. -/
theorem offer_right {resource : Resource} {key : Key} {plan : Plan}
    (hother : ∀ object, ¬own resource key object) (h : Agree own store store') :
    Agree own store (store'.offer resource key (plan.object resource)) := by
  constructor
  · intro resource' key' object' hown'
    rw [get?_offer, if_neg, h.get?_eq resource' key' object' hown']
    rintro ⟨rfl, rfl⟩
    exact hother object' hown'
  · intro key'
    rw [documentIn_offer, h.documentIn_eq]

end Store.Agree

namespace Session.Confined

variable {α : Type} {own : Resource → Key → Json → Prop} {session : Session α}

/-- A session comes to the same where its cluster looks the same. -/
theorem run_agree (h : session.Confined own)
    (hplan : ∀ resource key object, own resource key object →
      ∃ plan : Plan, object = plan.object resource)
    {store store' : Store} (hagree : Store.Agree own store store') :
    (session.run Store.serve store).result = (session.run Store.serve store').result ∧
      posts (session.run Store.serve store).exchanges =
        posts (session.run Store.serve store').exchanges ∧
      Store.Agree own (session.run Store.serve store).store
        (session.run Store.serve store').store := by
  induction h generalizing store store' with
  | done result => exact ⟨rfl, rfl, hagree⟩
  | @read key next _ hsame ih =>
    have hnext : next (store.serve (.read key)).2 = next (store'.serve (.read key)).2 :=
      hsame _ _ (hagree.documentIn_eq key)
    simp only [run_ask_result, run_ask_exchanges, run_ask_store, Store.serve_read_store, hnext]
    simpa [posts, Request.isPost] using ih _ hagree
  | @create resource key object next hown _ ih =>
    obtain ⟨plan, rfl⟩ := hplan resource key object hown
    have hreply : (store.serve (.create resource key (plan.object resource))).2 =
        (store'.serve (.create resource key (plan.object resource))).2 := by
      rw [Store.serve_create, Store.serve_create, hagree.get?_eq resource key _ hown]
    have hagree' := hagree.offer hown
    simp only [run_ask_result, run_ask_exchanges, run_ask_store, hreply]
    simp only [Store.serve_create] at hreply ⊢
    simpa [posts, Request.isPost] using ih _ hagree'
  | @publish event next _ ih =>
    simp only [run_ask_result, run_ask_exchanges, run_ask_store]
    simpa [posts, Request.isPost, Store.serve] using ih _ hagree

theorem of_ask {request : Request} {next : Reply → Session α}
    (h : (Session.ask request next).Confined own) (reply : Reply) : (next reply).Confined own := by
  cases h with
  | read hnext => exact hnext reply
  | create _ hnext => exact hnext reply
  | publish hnext => exact hnext reply

/-- No request of a session makes a difference to those who own other keys. -/
theorem agree_serve {own' : Resource → Key → Json → Prop} {request : Request}
    {next : Reply → Session α} (h : (Session.ask request next).Confined own)
    (hplan : ∀ resource key object, own resource key object →
      ∃ plan : Plan, object = plan.object resource)
    (hother : ∀ resource key object object', own resource key object →
      ¬own' resource key object') (store : Store) :
    Store.Agree own' store (store.serve request).1 := by
  cases h with
  | read => simpa using Store.Agree.refl store
  | @create resource key object _ hown =>
    obtain ⟨plan, rfl⟩ := hplan resource key object hown
    rw [Store.serve_create]
    exact (Store.Agree.refl store).offer_right fun object' => hother resource key _ object' hown
  | publish => exact .refl store

/-- Nor does all that a session does alone. -/
theorem agree_run {own' : Resource → Key → Json → Prop} (h : session.Confined own)
    (hplan : ∀ resource key object, own resource key object →
      ∃ plan : Plan, object = plan.object resource)
    (hother : ∀ resource key object object', own resource key object →
      ¬own' resource key object') (store : Store) :
    Store.Agree own' store (session.run Store.serve store).store := by
  rw [← Store.serveFaulty_none]
  refine h.run_invariant (fun store' resource key object hown hstore' => ?_) _ (.refl store)
  obtain ⟨plan, rfl⟩ := hplan resource key object hown
  exact hstore'.offer_right fun object' => hother resource key _ object' hown

end Session.Confined

namespace System

variable {ι α : Type} [DecidableEq ι]

/-- The exchanges of a session so far. -/
def exchanges (system : System ι α) (i : ι) : List Exchange :=
  system.history.filterMap fun moment =>
    moment.exchange?.bind fun (j, exchange) => if j = i then some exchange else none

theorem exchanges_advance_self (system : System ι α) (i : ι) (exchange : Exchange)
    (session : Session α) (store : Store) :
    (system.advance i exchange session store).exchanges i = system.exchanges i ++ [exchange] := by
  simp [exchanges, advance]

theorem exchanges_advance_of_ne (system : System ι α) {i j : ι} (h : j ≠ i) (exchange : Exchange)
    (session : Session α) (store : Store) :
    (system.advance i exchange session store).exchanges j = system.exchanges j := by
  simp [exchanges, advance, h.symm]

/-- What a session has done, and would do if it went on alone, is what it does `alone`. -/
structure Isolated (own : Resource → Key → Json → Prop) (alone : Run α) (i : ι)
    (system : System ι α) : Prop where
  confined : (system.sessions i).Confined own
  result_eq : ((system.sessions i).run Store.serve system.store).result = alone.result
  posts_eq : posts (system.exchanges i) ++
    posts ((system.sessions i).run Store.serve system.store).exchanges = posts alone.exchanges
  agree : Store.Agree own ((system.sessions i).run Store.serve system.store).store alone.store

variable {own own' : Resource → Key → Json → Prop} {alone : Run α} {i j : ι} {system : System ι α}

theorem Isolated.serve_self (h : system.Isolated own alone i) :
    (system.step (.serve i)).Isolated own alone i := by
  change (system.exchange Store.serve i).Isolated own alone i
  obtain ⟨hconfined, hresult, hposts, hagree⟩ := h
  cases hsession : system.sessions i with
  | done result =>
    rw [exchange_of_done _ hsession]
    exact ⟨hconfined, hresult, hposts, hagree⟩
  | ask request next =>
    rw [exchange_of_ask _ hsession]
    rw [hsession] at hconfined hresult hposts hagree
    simp only [Session.run_ask_result, Session.run_ask_exchanges, Session.run_ask_store]
      at hresult hposts hagree
    rw [posts_cons, ← List.append_assoc] at hposts
    constructor
    · simpa using hconfined.of_ask _
    · simpa using hresult
    · rw [exchanges_advance_self, posts_append]
      simpa using hposts
    · simpa using hagree

theorem Isolated.serve_other (h : system.Isolated own alone i)
    (hplan : ∀ resource key object, own resource key object →
      ∃ plan : Plan, object = plan.object resource)
    (hj : (system.sessions j).Confined own') (hne : i ≠ j)
    (hplan' : ∀ resource key object, own' resource key object →
      ∃ plan : Plan, object = plan.object resource)
    (hother : ∀ resource key object object', own' resource key object →
      ¬own resource key object') :
    (system.step (.serve j)).Isolated own alone i := by
  change (system.exchange Store.serve j).Isolated own alone i
  cases hsession : system.sessions j with
  | done result =>
    rw [exchange_of_done _ hsession]
    exact h
  | ask request next =>
    rw [hsession] at hj
    obtain ⟨hconfined, hresult, hposts, hagree⟩ := h
    obtain ⟨hresult', hposts', hagree'⟩ :=
      hconfined.run_agree hplan (hj.agree_serve hplan' hother system.store)
    rw [exchange_of_ask _ hsession]
    have hsame : (system.advance j ⟨request, (system.store.serve request).2⟩
        (next (system.store.serve request).2) (system.store.serve request).1).sessions i =
          system.sessions i := sessions_advance_of_ne _ _ _ _ _ hne
    constructor
    · rwa [hsame]
    · rw [hsame, store_advance, ← hresult', hresult]
    · rw [hsame, store_advance, exchanges_advance_of_ne _ hne, ← hposts', hposts]
    · rw [hsame, store_advance]
      exact hagree'.symm.trans hagree

/-- A session that is over has come to what it comes to alone. -/
theorem Isolated.of_over (h : system.Isolated own alone i)
    (hover : (system.sessions i).result?.isSome) :
    (system.sessions i).result? = some alone.result ∧
      posts (system.exchanges i) = posts alone.exchanges ∧
      Store.Agree own system.store alone.store := by
  obtain ⟨-, hresult, hposts, hagree⟩ := h
  cases hsession : system.sessions i with
  | ask request next =>
    rw [hsession] at hover
    cases hover
  | done result =>
    rw [hsession] at hresult hposts hagree
    exact ⟨congrArg some hresult, (List.append_nil _).symm.trans hposts, hagree⟩

/-- What every session comes to does not depend on the others, and what no session owns stays. -/
theorem isolated_play (system : System ι α) {own : ι → Resource → Key → Json → Prop}
    (hplan : ∀ i resource key object, own i resource key object →
      ∃ plan : Plan, object = plan.object resource)
    (hdisjoint : ∀ i j, i ≠ j → ∀ resource key object object', own i resource key object →
      ¬own j resource key object')
    (hconfined : ∀ i, (system.sessions i).Confined (own i)) (hstart : system.history = [])
    (schedule : List ι) :
    (∀ i, (system.play (schedule.map .serve)).Isolated (own i)
      ((system.sessions i).run Store.serve system.store) i) ∧
    Store.Agree (fun resource key _ => ∀ i object, ¬own i resource key object) system.store
      (system.play (schedule.map .serve)).store := by
  refine play_induction (fun system' => (∀ i, system'.Isolated (own i)
    ((system.sessions i).run Store.serve system.store) i) ∧
      Store.Agree (fun resource key _ => ∀ i object, ¬own i resource key object) system.store
        system'.store) ⟨fun i => ?_, .refl _⟩ ?_
  · exact ⟨hconfined i, rfl, by simp [exchanges, hstart, posts], .refl _⟩
  · intro system' move hmove ⟨hisolated, hunowned⟩
    obtain ⟨j, -, rfl⟩ := List.mem_map.1 hmove
    have hj : (system'.sessions j).Confined (own j) := (hisolated j).confined
    constructor
    · intro i
      by_cases hne : i = j
      · subst hne
        exact (hisolated i).serve_self
      · exact (hisolated i).serve_other (hplan i) hj hne (hplan j)
          (hdisjoint j i (Ne.symm hne))
    · change Store.Agree _ _ (system'.exchange Store.serve j).store
      cases hsession : system'.sessions j with
      | done result =>
        rw [exchange_of_done _ hsession]
        exact hunowned
      | ask request next =>
        rw [exchange_of_ask _ hsession]
        rw [hsession] at hj
        exact hunowned.trans (hj.agree_serve (hplan j)
          (fun resource key object object' hown hnone => hnone j object hown) system'.store)

end System

end Cluster

namespace Reconcile

/-- What the attempts to reconcile a workflow create, whatever they read. -/
def Owns (setting : Setting) (workflow : Workflow) (resource : Resource) (key : Key)
    (object : Json) : Prop :=
  ∃ document, (Attempt.mk setting workflow document).Creates resource key object

theorem Owns.exists_plan {setting : Setting} {workflow : Workflow} {resource : Resource} {key : Key}
    {object : Json} (h : Owns setting workflow resource key object) :
    ∃ plan : Plan, object = plan.object resource := by
  obtain ⟨document, space, plan, -, -, -, rfl⟩ := h
  exact ⟨plan, rfl⟩

/-- Different workflows own different keys. -/
theorem Owns.disjoint {setting setting' : Setting} {workflow workflow' : Workflow}
    (hne : (workflow.metadata.namespaceName, workflow.name) ≠
      (workflow'.metadata.namespaceName, workflow'.name))
    (resource : Resource) (key : Key) (object object' : Json)
    (h : Owns setting workflow resource key object) :
    ¬Owns setting' workflow' resource key object' := by
  rintro ⟨document', space', plan', hspace', -, hkey', -⟩
  obtain ⟨document, space, plan, hspace, -, hkey, -⟩ := h
  obtain ⟨rfl, hname⟩ := Plan.objectKey_inj (hkey.symm.trans hkey')
  exact hne (Prod.ext (hspace.trans hspace'.symm) hname)

/-- Two reconciles at one cluster. -/
def pair (settings : Bool → Setting) (workflows : Bool → Workflow) (store : Store) :
    System Bool Outcome :=
  { store, sessions := fun i => reconcile (settings i) (workflows i) }

/-- Reconciles of two workflows come to the same one after the other, whichever is the first, and in
any order of their requests: the same objects, results, posts with their answers, and events. -/
theorem pair_play_eq_sequence {settings : Bool → Setting} {workflows : Bool → Workflow}
    (hne : ∀ i, ((workflows i).metadata.namespaceName, (workflows i).name) ≠
      ((workflows !i).metadata.namespaceName, (workflows !i).name))
    {store : Store} {schedule : List Bool}
    (hover : ∀ i, (((pair settings workflows store).play (schedule.map .serve)).sessions
      i).result?.isSome) (i : Bool) :
    let system := (pair settings workflows store).play (schedule.map .serve)
    let early := (reconcile (settings i) (workflows i)).run Store.serve store
    let late := (reconcile (settings !i) (workflows !i)).run Store.serve early.store
    system.store = late.store ∧
      ((system.sessions i).result? = some early.result ∧
        posts (system.exchanges i) = posts early.exchanges) ∧
      (system.sessions !i).result? = some late.result ∧
        posts (system.exchanges !i) = posts late.exchanges := by
  intro system early late
  have hplan (i : Bool) (resource : Resource) (key : Key) (object : Json)
      (h : Owns (settings i) (workflows i) resource key object) :
      ∃ plan : Plan, object = plan.object resource := h.exists_plan
  have hdisjoint (i j : Bool) (hij : i ≠ j) (resource : Resource) (key : Key)
      (object object' : Json) (h : Owns (settings i) (workflows i) resource key object) :
      ¬Owns (settings j) (workflows j) resource key object' := by
    obtain rfl : j = !i := by cases i <;> cases j <;> simp_all
    exact h.disjoint (hne i) resource key object object'
  have hconfined (i : Bool) :
      (reconcile (settings i) (workflows i)).Confined (Owns (settings i) (workflows i)) :=
    reconcile_confined (settings i) (workflows i)
  obtain ⟨hisolated, hunowned⟩ := System.isolated_play (pair settings workflows store) hplan
    hdisjoint hconfined rfl schedule
  obtain ⟨hresult, hposts, hagree⟩ := (hisolated i).of_over (hover i)
  obtain ⟨hresult', hposts', hagree'⟩ := (hisolated !i).of_over (hover !i)
  have hi : i ≠ !i := by simp
  -- The later reconcile does not notice the earlier, nor does the earlier lose anything by it.
  have hearly : Store.Agree (Owns (settings !i) (workflows !i)) store early.store :=
    (hconfined i).agree_run (hplan i) (hdisjoint i (!i) hi) store
  obtain ⟨hresult'', hposts'', hagree''⟩ := (hconfined !i).run_agree (hplan !i) hearly
  have hlate : Store.Agree (Owns (settings i) (workflows i)) early.store late.store :=
    (hconfined !i).agree_run (hplan !i) (hdisjoint (!i) i hi.symm) early.store
  have hrest : Store.Agree (fun resource key _ =>
      ∀ j object, ¬Owns (settings j) (workflows j) resource key object) store late.store :=
    ((hconfined i).agree_run (hplan i) (fun _ _ object _ h hnone => hnone i object h) store).trans
      ((hconfined !i).agree_run (hplan !i) (fun _ _ object _ h hnone => hnone (!i) object h)
        early.store)
  refine ⟨Store.ext_get? fun resource key => ?_, ⟨hresult, hposts⟩,
    hresult'.trans (congrArg some hresult''), hposts'.trans hposts''⟩
  by_cases hfirst : ∃ object, Owns (settings i) (workflows i) resource key object
  · obtain ⟨object, hown⟩ := hfirst
    exact (hagree.trans hlate).get?_eq resource key object hown
  · by_cases hsecond : ∃ object, Owns (settings !i) (workflows !i) resource key object
    · obtain ⟨object, hown⟩ := hsecond
      exact (hagree'.trans hagree'').get?_eq resource key object hown
    · refine (hunowned.symm.trans hrest).get?_eq resource key .null fun j object => ?_
      by_cases hj : j = i
      · subst hj
        exact fun h => hfirst ⟨object, h⟩
      · obtain rfl : j = !i := by cases i <;> cases j <;> simp_all
        exact fun h => hsecond ⟨object, h⟩

/-- A setting whose stored defaults have the name of another workflow's config map. -/
def entangledSetting : Setting where
  environment := { defaultsName := Plan.configMapName "a" }
  reporter := ⟨controllerName, controllerName⟩

theorem pair_play_eq_sequence_entangled :
    let settings (_ : Bool) := entangledSetting
    let workflows (i : Bool) := plainWorkflow (if i then "a" else "b")
    let schedule := [false, true, true, false, true, false, true, false]
    (∀ i, (((pair settings workflows {}).play (schedule.map .serve)).sessions i).result?.isSome) ∧
      ∀ i,
        let system := (pair settings workflows {}).play (schedule.map .serve)
        let early := (reconcile (settings i) (workflows i)).run Store.serve {}
        let late := (reconcile (settings !i) (workflows !i)).run Store.serve early.store
        system.store = late.store ∧
          ((system.sessions i).result? = some early.result ∧
            posts (system.exchanges i) = posts early.exchanges) ∧
          (system.sessions !i).result? = some late.result ∧
            posts (system.exchanges !i) = posts late.exchanges := by
  intro settings workflows schedule
  have hne : ∀ i, ((workflows i).metadata.namespaceName, (workflows i).name) ≠
      ((workflows !i).metadata.namespaceName, (workflows !i).name) := by decide
  have hover : ∀ i, (((pair settings workflows {}).play (schedule.map .serve)).sessions
      i).result?.isSome := by decide +kernel
  exact ⟨hover, @pair_play_eq_sequence settings workflows hne {} schedule hover⟩

end Reconcile

end WorkflowPod
