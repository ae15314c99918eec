import ClusterConvergence.Proofs.Journal.Marks
import ClusterConvergence.Proofs.Run.Course

/-!
# The phases of a run

A run passes through its phases one after the other.  `Run.Passage` is one phase with what it came
to, and `Run.Passing` a row of phases, each of which begins where the one before it ended.

Main statement: `Run.traverses_phases`.  Every run is such a row.  A report tells what each phase of
it came to, and an error is the one that the last phase was left behind for.
-/

namespace ClusterConvergence

open Activity

namespace Run

/-- A phase of a run, and what it came to. -/
inductive Passage where
  | replicaSet (result : Except Abort ReplicaSetOutcome)
  | shards (result : Except Abort (List ItemOutcome))
  | collections (result : Except Abort (List ItemOutcome))

namespace Passage

/-- The name of the phase. -/
def name : Passage → String
  | .replicaSet _ => "REPLICA_SET"
  | .shards _ => "SHARDS"
  | .collections _ => "COLLECTIONS"

/-- Whether an outcome of the phase is a failure, unless the phase was left behind. -/
def verdict : Passage → Except Abort Bool
  | .replicaSet result => result.map (·.isFailed)
  | .shards result | .collections result => result.map fun outcomes => outcomes.any (·.isFailed)

end Passage

/-- From one site to another, a run passes through a phase. -/
def Passes (settings : Settings) (answers : Answers) (before : Site) (passage : Passage)
    (after : Site) : Prop :=
  match passage with
  | .replicaSet result => ∃ name, settings.replicaSet = some name ∧
      (replicaSetPhase settings answers (if settings.daemon.isRouter then 1 else 0) name).run.run
        before = (result, after)
  | .shards result =>
      (shardsPhase settings answers (if settings.replicaSet.isSome then 2 else 1)).run.run before =
        (result, after)
  | .collections result => (collectionsPhase settings).run.run before = (result, after)

/-- Between two sites nothing was said to the cluster, and no mark was left. -/
def Quiet (before after : Site) : Prop :=
  after.cluster = before.cluster ∧ before.journal.Gains [] after.journal

theorem Quiet.refl (site : Site) : Quiet site site :=
  ⟨rfl, .refl site.journal⟩

theorem Quiet.trans {a b c : Site} (hab : Quiet a b) (hbc : Quiet b c) : Quiet a c :=
  ⟨hbc.1.trans hab.1, hab.2.trans hbc.2⟩

/-- From one site to another, a run passes through some phases, one after the other, and is quiet
between them. -/
inductive Passing (settings : Settings) (answers : Answers) : Site → List Passage → Site → Prop where
  | done {before after : Site} (hquiet : Quiet before after) :
      Passing settings answers before [] after
  | next {before begun between after : Site} {passage : Passage} {passages : List Passage}
      (hquiet : Quiet before begun) (hhead : Passes settings answers begun passage between)
      (htail : Passing settings answers between passages after) :
      Passing settings answers before (passage :: passages) after

namespace Passing

variable {settings : Settings} {answers : Answers} {before between after : Site}

theorem single {passage : Passage} (h : Passes settings answers before passage after) :
    Passing settings answers before [passage] after :=
  .next (.refl before) h (.done (.refl after))

theorem append {front back : List Passage} (hfront : Passing settings answers before front between)
    (hback : Passing settings answers between back after) :
    Passing settings answers before (front ++ back) after := by
  induction hfront with
  | done hquiet =>
    cases hback with
    | done hlater => exact .done (hquiet.trans hlater)
    | next hlater hhead htail => exact .next (hquiet.trans hlater) hhead htail
  | next hquiet hhead _ ih => exact .next hquiet hhead (ih hback)

end Passing

/-! ## Every run is a row of phases -/

/-- A part of a run passes through some phases.  Of these and of its result `post` holds, or `halt`
if it is stopped. -/
def Traverses {α : Type} (settings : Settings) (answers : Answers) (act : Part α)
    (post : α → List Passage → Prop) (halt : Abort → List Passage → Prop) : Prop :=
  ∀ site result after, act.run.run site = (result, after) →
    ∃ passages, Passing settings answers site passages after ∧
      match result with
      | .ok a => post a passages
      | .error cause => halt cause passages

namespace Traverses

variable {α β : Type} {settings : Settings} {answers : Answers} {act : Part α}
  {post post' : α → List Passage → Prop} {halt halt' : Abort → List Passage → Prop}

theorem mono (h : Traverses settings answers act post halt)
    (hpost : ∀ a passages, post a passages → post' a passages)
    (hhalt : ∀ cause passages, halt cause passages → halt' cause passages) :
    Traverses settings answers act post' halt' := by
  rintro site (cause | a) after hrun <;> obtain ⟨passages, hpassing, h⟩ := h site _ after hrun
  · exact ⟨passages, hpassing, hhalt cause passages h⟩
  · exact ⟨passages, hpassing, hpost a passages h⟩

theorem pure {a : α} (h : post a []) : Traverses settings answers (Pure.pure a) post halt := by
  intro site result after hrun
  cases hrun
  exact ⟨[], .done (.refl site), h⟩

theorem orStop {x : Except RunError α} (hok : ∀ a, x = .ok a → post a [])
    (herror : ∀ cause, halt cause []) : Traverses settings answers (Run.orStop x) post halt := by
  intro site result after hrun
  rcases x with cause | a <;> cases hrun
  · exact ⟨[], .done (.refl site), herror _⟩
  · exact ⟨[], .done (.refl site), hok a rfl⟩

theorem onJournal {step : Journal → α × Journal}
    (hgains : ∀ journal : Journal, journal.Gains [] (step journal).2) (hpost : ∀ a, post a []) :
    Traverses settings answers (liftM (Activity.onJournal step) : Part α) post halt := by
  intro site result after hrun
  cases hrun
  exact ⟨[], .done ⟨rfl, hgains site.journal⟩, hpost _⟩

theorem bind {f : α → Part β} {post : β → List Passage → Prop}
    (h : Traverses settings answers act (fun a passages =>
      Traverses settings answers (f a) (fun b more => post b (passages ++ more))
        fun cause more => halt cause (passages ++ more)) halt) :
    Traverses settings answers (act >>= f) post halt := by
  intro site result after hrun
  have hbind : (act >>= f).run.run site =
      (ExceptT.bindCont f (act.run.run site).1).run (act.run.run site).2 := rfl
  rw [hbind] at hrun
  rcases hact : act.run.run site with ⟨cause | a, between⟩ <;> rw [hact] at hrun
  · cases hrun
    exact h site _ _ hact
  · obtain ⟨passages, hpassing, hrest⟩ := h site _ _ hact
    obtain ⟨more, hmore, hpost⟩ := hrest between result after hrun
    exact ⟨passages ++ more, hpassing.append hmore, hpost⟩

/-- A phase by itself. -/
theorem passage {passage : Except Abort α → Passage}
    (h : ∀ before result after, act.run.run before = (result, after) →
      Passes settings answers before (passage result) after) :
    Traverses settings answers act (fun a passages => passages = [passage (.ok a)])
      fun cause passages => passages = [passage (.error cause)] := by
  intro site result after hrun
  refine ⟨[passage result], .single (h site result after hrun), ?_⟩
  rcases result with cause | a <;> rfl

end Traverses

/-- What a report says of the phases. -/
def reported (settings : Settings) (report : Report) : List Passage :=
  (report.replicaSet.map fun own => .replicaSet (.ok own.outcome)).toList ++
    if settings.daemon.isRouter then
      .shards (.ok report.shards) ::
        if settings.givenCollections.isEmpty then [] else [.collections (.ok report.sharding)]
    else []

/-- Whether a phase came to its outcomes. -/
def Passage.Ends (passage : Passage) : Prop :=
  ∃ failed, passage.verdict = .ok failed

/-- What an error says of the phases: it is that of the last one, or it came before all of them. -/
def Stopped (cause : Abort) (passages : List Passage) : Prop :=
  passages = [] ∨ ∃ earlier last, passages = earlier ++ [last] ∧ last.verdict = .error cause ∧
    ∀ passage ∈ earlier, passage.Ends

theorem Stopped.append {cause : Abort} {earlier : List Passage} {last : Passage}
    (hearlier : ∀ passage ∈ earlier, passage.Ends) (hlast : last.verdict = .error cause) :
    Stopped cause (earlier ++ [last]) :=
  Or.inr ⟨earlier, last, rfl, hlast, hearlier⟩

/-- What the result of a run says of its phases. -/
def Recounts (settings : Settings) (result : Except Abort Report) (passages : List Passage) :
    Prop :=
  match result with
  | .ok report => passages = reported settings report
  | .error cause => Stopped cause passages

section Whole

variable {settings : Settings} {answers : Answers}

/-- Counting the config servers leaves no mark. -/
theorem gains_countConfigServers (settings : Settings) (answers : Answers) (place : Nat)
    (journal : Journal) : journal.Gains [] (countConfigServers settings answers place journal).2 := by
  rw [countConfigServers]
  split
  · exact .refl journal
  · dsimp only
    split
    · exact .refl journal
    · exact .log_of_not_mem (by decide)

theorem traverses_replicaSetPhase {name : String} (hname : settings.replicaSet = some name) :
    Traverses settings answers
      (replicaSetPhase settings answers (if settings.daemon.isRouter then 1 else 0) name)
      (fun outcome passages => passages = [.replicaSet (.ok outcome)])
      fun cause passages => passages = [.replicaSet (.error cause)] :=
  Traverses.passage fun _ _ _ hrun => ⟨name, hname, hrun⟩

theorem traverses_shardsPhase :
    Traverses settings answers
      (shardsPhase settings answers (if settings.replicaSet.isSome then 2 else 1))
      (fun shards passages => passages = [.shards (.ok shards)])
      fun cause passages => passages = [.shards (.error cause)] :=
  Traverses.passage fun _ _ _ hrun => hrun

theorem traverses_collectionsPhase :
    Traverses settings answers (collectionsPhase settings)
      (fun sharding passages => passages = [.collections (.ok sharding)])
      fun cause passages => passages = [.collections (.error cause)] :=
  Traverses.passage fun _ _ _ hrun => hrun

/-- The phase of the replica set, if there is one. -/
theorem traverses_convergeOwn {place : Nat}
    (hplace : place = if settings.daemon.isRouter then 1 else 0) :
    Traverses settings answers (convergeOwn settings answers place)
      (fun own passages =>
        passages = (own.map fun own => Passage.replicaSet (.ok own.outcome)).toList)
      Stopped := by
  subst hplace
  rw [convergeOwn]
  rcases hname : settings.replicaSet with - | name
  · exact Traverses.pure rfl
  · refine Traverses.bind ((traverses_replicaSetPhase hname).mono ?_ ?_)
    · rintro outcome passages rfl
      exact Traverses.pure rfl
    · rintro cause passages rfl
      exact Or.inr ⟨[], _, rfl, rfl, List.forall_mem_nil _⟩

/-- Every run is a row of phases, which its result tells of. -/
theorem traverses_phases (runId : String) :
    Traverses settings answers (phases runId settings answers)
      (fun report passages => report.runId = runId ∧ passages = reported settings report)
      Stopped := by
  rw [phases]
  refine Traverses.bind (Traverses.orStop (fun collections hparsed => ?_) fun _ => Or.inl rfl)
  have hgiven : settings.givenCollections = collections :=
    (ShardedCollection.eq_of_parseAll hparsed).symm
  cases hrouter : settings.daemon.isRouter with
  | false =>
    refine Traverses.bind ((traverses_convergeOwn (by simp [hrouter])).mono ?_ fun _ _ h => h)
    rintro own passages rfl
    refine Traverses.pure ⟨rfl, ?_⟩
    simp [reported, hrouter]
  | true =>
    refine Traverses.bind (Traverses.onJournal (gains_countConfigServers settings answers 0) ?_)
    intro counted
    refine Traverses.bind (Traverses.orStop (fun count _ => ?_) fun _ => Or.inl rfl)
    refine Traverses.bind ((traverses_convergeOwn (by simp [hrouter])).mono ?_ fun _ _ h => h)
    rintro own passages rfl
    have hended : ∀ passage ∈ (own.map fun own => Passage.replicaSet (.ok own.outcome)).toList,
        passage.Ends := by
      simp only [Option.mem_toList, Option.map_eq_some_iff]
      rintro passage ⟨own, -, rfl⟩
      exact ⟨_, rfl⟩
    refine Traverses.bind (traverses_shardsPhase.mono ?_ ?_)
    · rintro shards passages rfl
      cases hempty : collections.isEmpty with
      | true =>
        refine Traverses.bind (Traverses.pure (Traverses.pure ⟨rfl, ?_⟩))
        simp [reported, hrouter, hgiven, hempty]
      | false =>
        refine Traverses.bind (traverses_collectionsPhase.mono ?_ ?_)
        · rintro sharding passages rfl
          refine Traverses.pure ⟨rfl, ?_⟩
          simp [reported, hrouter, hgiven, hempty]
        · rintro cause passages rfl
          have hshards : ∀ passage ∈ [Passage.shards (.ok shards)], passage.Ends :=
            List.forall_mem_singleton.2 ⟨_, rfl⟩
          have hstopped : Stopped cause (_ ++ [Passage.collections (.error cause)]) :=
            Stopped.append (List.forall_mem_append.2 ⟨hended, hshards⟩) rfl
          simpa using hstopped
    · rintro cause passages rfl
      exact Stopped.append hended rfl

end Whole

end Run

end ClusterConvergence
