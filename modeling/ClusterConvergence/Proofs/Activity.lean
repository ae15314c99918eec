import ClusterConvergence.Cluster.Site

/-!
# What an activity ensures

An activity is a function on the whole site, but nothing that it does depends on the journal.  So it
is described by what holds of its result and of the cluster that it leaves, whatever stood in the
journal before: `Yields`.  An activity that can end early has two such descriptions, one for each
way in which it ends: `Ensures`.

There is one rule for every way to put activities together; a function that is made of them gets one
rule of its own, and its callers use that.
-/

namespace ClusterConvergence

theorem eq_ok_of_toOption {ε α : Type} {x : Except ε α} {a : α} (h : x.toOption = some a) :
    x = .ok a := by
  cases x with
  | error => cases h
  | ok => exact congrArg Except.ok (Option.some.inj h)

theorem exists_of_bind_eq_ok {ε α β : Type} {x : Except ε α} {f : α → Except ε β} {b : β}
    (h : (x >>= f) = .ok b) : ∃ a, x = .ok a ∧ f a = .ok b := by
  rcases x with e | a
  · cases h
  · exact ⟨a, rfl, h⟩

theorem cases_of_bind_eq_error {ε α β : Type} {x : Except ε α} {f : α → Except ε β} {e : ε}
    (h : (x >>= f) = .error e) : x = .error e ∨ ∃ a, x = .ok a ∧ f a = .error e := by
  rcases x with e' | a
  · cases h
    exact Or.inl rfl
  · exact Or.inr ⟨a, rfl, h⟩

namespace Activity

variable {α β ε : Type} {cluster : Cluster}

/-- Begun at `cluster`, an activity ends with a result and a cluster of which `post` holds. -/
def Yields (cluster : Cluster) (act : Activity α) (post : α → Cluster → Prop) : Prop :=
  ∀ journal : Journal,
    post (act.run ⟨cluster, journal⟩).1 (act.run ⟨cluster, journal⟩).2.cluster

namespace Yields

variable {act : Activity α} {post post' : α → Cluster → Prop}

theorem mono (h : Yields cluster act post) (himp : ∀ a c, post a c → post' a c) :
    Yields cluster act post' :=
  fun journal => himp _ _ (h journal)

theorem of_forall (h : ∀ a c, post a c) : Yields cluster act post :=
  fun _ => h _ _

/-- What is ensured holds of every single run. -/
theorem of_run {site : Site} (h : Yields site.cluster act post) :
    post (act.run site).1 (act.run site).2.cluster :=
  h site.journal

theorem pure {a : α} (h : post a cluster) : Yields cluster (Pure.pure a) post :=
  fun _ => h

theorem bind {f : α → Activity β} {post : β → Cluster → Prop}
    (h : Yields cluster act fun a c => Yields c (f a) post) :
    Yields cluster (act >>= f) post :=
  fun journal => h journal (act.run ⟨cluster, journal⟩).2.journal

theorem report {event : Event} {fields : Fields} {post : Unit → Cluster → Prop}
    (h : post () cluster) : Yields cluster (Activity.report event fields) post :=
  fun _ => h

theorem trace {event : String} {fields : Fields} {post : Unit → Cluster → Prop}
    (h : post () cluster) : Yields cluster (Activity.trace event fields) post :=
  fun _ => h

theorem onJournal {step : Journal → α × Journal} (h : ∀ journal, post (step journal).1 cluster) :
    Yields cluster (Activity.onJournal step) post :=
  fun journal => h journal

theorem openSession {address : String} {post : Except Failure Session → Cluster → Prop}
    (h : post (cluster.openSession address).1 (cluster.openSession address).2) :
    Yields cluster (Activity.openSession address) post :=
  fun _ => h

theorem send {session : Session} {command : AdminCommand}
    {post : Except Failure Reply → Cluster → Prop}
    (h : post (cluster.run session command).1 (cluster.run session command).2) :
    Yields cluster (Activity.send session command) post :=
  fun _ => h

theorem release {session : Session} {post : Unit → Cluster → Prop}
    (h : post () cluster.release) : Yields cluster (Activity.release session) post :=
  fun _ => h

end Yields

/-- Begun at `cluster`, an activity goes on with a result and a cluster of which `post` holds, or
ends early with a cause and a cluster of which `halt` holds. -/
def Ensures (cluster : Cluster) (act : ExceptT ε Activity α) (post : α → Cluster → Prop)
    (halt : ε → Cluster → Prop) : Prop :=
  Yields cluster act.run fun result c =>
    match result with
    | .ok a => post a c
    | .error e => halt e c

namespace Ensures

variable {act : ExceptT ε Activity α} {post post' : α → Cluster → Prop}
  {halt halt' : ε → Cluster → Prop}

theorem mono (h : Ensures cluster act post halt) (hpost : ∀ a c, post a c → post' a c)
    (hhalt : ∀ e c, halt e c → halt' e c) : Ensures cluster act post' halt' := by
  refine Yields.mono h ?_
  rintro (e | a) c h
  · exact hhalt e c h
  · exact hpost a c h

theorem of_forall (hpost : ∀ a c, post a c) (hhalt : ∀ e c, halt e c) :
    Ensures cluster act post halt := by
  refine Yields.of_forall ?_
  rintro (e | a) c
  · exact hhalt e c
  · exact hpost a c

theorem of_ok {site : Site} {a : α} (h : Ensures site.cluster act post halt)
    (hrun : (act.run.run site).1 = .ok a) : post a (act.run.run site).2.cluster := by
  have hensured := Yields.of_run h
  rwa [hrun] at hensured

theorem of_error {site : Site} {e : ε} (h : Ensures site.cluster act post halt)
    (hrun : (act.run.run site).1 = .error e) : halt e (act.run.run site).2.cluster := by
  have hensured := Yields.of_run h
  rwa [hrun] at hensured

/-- An activity that cannot end early has a result. -/
theorem exists_ok {site : Site} (h : Ensures site.cluster act post fun _ _ => False) :
    ∃ a, (act.run.run site).1 = .ok a ∧ post a (act.run.run site).2.cluster := by
  rcases hrun : (act.run.run site).1 with e | a
  · exact absurd (h.of_error hrun) id
  · exact ⟨a, rfl, h.of_ok hrun⟩

/-- What holds of the cluster however the activity ends. -/
theorem leaves {site : Site} {post : Cluster → Prop}
    (h : Ensures site.cluster act (fun _ c => post c) fun _ c => post c) :
    post (act.run.run site).2.cluster := by
  rcases hrun : (act.run.run site).1 with e | a
  · exact h.of_error hrun
  · exact h.of_ok hrun

theorem pure {a : α} (h : post a cluster) :
    Ensures cluster (Pure.pure a : ExceptT ε Activity α) post halt :=
  fun _ => h

theorem throw {e : ε} (h : halt e cluster) :
    Ensures cluster (MonadExcept.throw e : ExceptT ε Activity α) post halt :=
  fun _ => h

theorem lift {act : Activity α} (h : Yields cluster act post) :
    Ensures cluster (liftM act : ExceptT ε Activity α) post halt :=
  fun journal => h journal

theorem bind {f : α → ExceptT ε Activity β} {post : β → Cluster → Prop}
    (h : Ensures cluster act (fun a c => Ensures c (f a) post halt) halt) :
    Ensures cluster (act >>= f) post halt := by
  show Yields cluster (act.run >>= ExceptT.bindCont f) _
  refine Yields.bind (Yields.mono h ?_)
  rintro (e | a) c h
  · exact Yields.pure h
  · exact h

end Ensures

end Activity

end ClusterConvergence
