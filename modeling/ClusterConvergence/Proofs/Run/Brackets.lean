import ClusterConvergence.Proofs.Journal.Discretion
import ClusterConvergence.Proofs.Run.Forecast
import ClusterConvergence.Proofs.Run.Passage

/-!
# The brackets of a run

On the journal a run and each of its phases ought to be bracketed: it begins, and it ends once.
`Run.Shows` says so of the lines that a run adds, with `Run.Passage.bracket` for the marks of a phase.

What a phase leaves is `Run.Passage.marks`.  It is the same but for a replica set that could not be
converged: that is told of under the very name with which its phase ends, so this end stands twice on
the journal.

Main statement: `Run.bracketed_iff`.
-/

namespace ClusterConvergence

open Activity

namespace Run

/-! ## Marks of a phase -/

/-- The mark with which a phase ends: `failed` says whether an outcome is a failure, if there are
outcomes. -/
def endMark (name : String) (failed : Except Abort Bool) : String :=
  name ++
    match failed with
    | .ok false => "_COMPLETE"
    | .ok true => "_FAILED"
    | .error _ => "_INCOMPLETE"

namespace Passage

/-- The event that ends the phase. -/
def ending (passage : Passage) : String :=
  endMark passage.name passage.verdict

/-- The marks that a phase ought to leave: it begins, and it ends once. -/
def bracket (passage : Passage) : List String :=
  [passage.name ++ "_BEGIN", passage.ending]

/-- Whether the replica set could not be converged. -/
def isEchoed : Passage → Bool
  | .replicaSet (.ok outcome) => outcome.isFailed
  | _ => false

/-- The marks that a phase leaves: a replica set that could not be converged is told of under the
name of the end before the phase ends. -/
def marks (passage : Passage) : List String :=
  (passage.name ++ "_BEGIN") ::
    ((if passage.isEchoed then [passage.ending] else []) ++ [passage.ending])

end Passage

/-! ## What a phase writes -/

section Phases

variable {α : Type} {settings : Settings} {answers : Answers}

theorem gains_complete {name : String} {phase : Phase} {fields : Fields} {journal : Journal}
    (hname : name ∈ bracketNames) (hphase : phase.name = name) (hleast : journal.least ≤ .info) :
    journal.Gains [endMark name (.ok false)] (phase.complete fields journal) := by
  subst hphase
  exact .log hleast (mem_markNames hname (by decide))

theorem gains_fail {name reason : String} {phase : Phase} {journal : Journal}
    (hname : name ∈ bracketNames) (hphase : phase.name = name) (hleast : journal.least ≤ .info) :
    journal.Gains [endMark name (.ok true)] (phase.fail reason journal) := by
  subst hphase
  exact .log (Nat.le_trans hleast (by decide)) (mem_markNames hname (by decide))

theorem gains_abandon {name : String} {phase : Phase} {journal : Journal} {cause : Abort}
    (hname : name ∈ bracketNames) (hphase : phase.name = name) (hleast : journal.least ≤ .info) :
    journal.Gains [endMark name (.error cause)] (phase.abandon journal) := by
  subst hphase
  exact .log (Nat.le_trans hleast (by decide))
    (mem_markNames hname (show "_INCOMPLETE" ∈ markSuffixes by decide))

/-- A phase is bracketed by the marks of its name, whatever goes on inside. -/
theorem writes_inPhase {name : String} {close : α → Phase → Journal → Journal} {body : Part α}
    {post : Except Abort α → List String → Prop} (failed : α → Bool) (hname : name ∈ bracketNames)
    (hclose : ∀ a phase (journal : Journal), phase.name = name → journal.least ≤ .info →
      journal.Gains [endMark name (.ok (failed a))] (close a phase journal))
    (hbody : Writes body.run fun result marks =>
      post result ((name ++ "_BEGIN") :: (marks ++ [endMark name (result.map failed)]))) :
    Writes (inPhase name close body).run post := by
  have hbegin : Writes (onJournal (Phase.begin name)) fun phase marks =>
      phase.name = name ∧ marks = [name ++ "_BEGIN"] :=
    Writes.onJournal fun journal hleast =>
      ⟨.log hleast (mem_markNames hname (by decide)), rfl, rfl⟩
  refine Writes.bind (hbegin.mono ?_)
  rintro phase - ⟨hphase, rfl⟩
  refine Writes.bind (hbody.mono ?_)
  rintro (cause | a) marks hpost
  · refine Writes.bind ((Writes.onJournal_of_gains fun journal hleast =>
      @gains_abandon name phase journal cause hname hphase hleast).mono ?_)
    rintro - - rfl
    exact Writes.pure (by simpa [Except.map] using hpost)
  · refine Writes.bind ((Writes.onJournal_of_gains fun journal hleast =>
      hclose a phase journal hphase hleast).mono ?_)
    rintro - - rfl
    exact Writes.pure (by simpa [Except.map] using hpost)

theorem discreet_orStop (x : Except RunError α) : Discreet (orStop x).run := by
  rcases x with cause | a
  · exact Discreet.throw
  · exact Discreet.pure

theorem discreet_discover (place : Nat) (query : Query) (what : String) :
    Discreet (discover answers place query what).run := by
  refine (discreet_orStop _).exceptSeq fun nodes => ?_
  exact (Discreet.lift (Discreet.report (by decide))).exceptSeq fun _ => Discreet.pure

theorem writes_replicaSetPhase (place : Nat) (name : String) :
    Writes (replicaSetPhase settings answers place name).run fun result marks =>
      marks = (Passage.replicaSet result).marks := by
  refine writes_inPhase ReplicaSetOutcome.isFailed (by decide) ?_ ?_
  · intro outcome phase journal hphase hleast
    cases outcome with
    | failed reason => exact gains_fail (by decide) hphase hleast
    | configCurrent | pendingConvergence | connectionFailed | noMembersFound =>
      exact gains_complete (by decide) hphase hleast
  · refine (discreet_discover _ _ _).exceptBind (fun candidates => ?_) fun _ => rfl
    refine (writes_convergeReplicaSet _ _ _ _).mono ?_
    rintro (cause | outcome) marks rfl
    · rfl
    · cases hfailed : outcome.isFailed <;>
        simp [ReplicaSetOutcome.marks, Passage.marks, Passage.isEchoed, Passage.ending,
          Passage.verdict, Passage.name, Except.map, hfailed, endMark]

theorem gains_closeItems {name : String} (hname : name ∈ bracketNames)
    (outcomes : List ItemOutcome) {phase : Phase} {journal : Journal} (hphase : phase.name = name)
    (hleast : journal.least ≤ .info) :
    journal.Gains [endMark name (.ok (outcomes.any (·.isFailed)))]
      (closeItems outcomes phase journal) := by
  rw [closeItems]
  split
  · next hfailed =>
    rw [show outcomes.any (·.isFailed) = true by simpa [List.countP_pos_iff] using hfailed]
    exact gains_fail hname hphase hleast
  · next hfailed =>
    rw [show outcomes.any (·.isFailed) = false by simpa [List.countP_eq_zero] using hfailed]
    exact gains_complete hname hphase hleast

/-- A phase of items is bracketed, and nothing else. -/
theorem writes_itemsPhase {name : String} (hname : name ∈ bracketNames)
    {body : Part (List ItemOutcome)} (hbody : Discreet body.run) :
    Writes (inPhase name closeItems body).run fun result marks =>
      marks = [name ++ "_BEGIN",
        endMark name (result.map fun outcomes => outcomes.any (·.isFailed))] := by
  refine writes_inPhase (fun outcomes => outcomes.any (·.isFailed)) hname ?_ ?_
  · intro outcomes phase journal hphase hleast
    exact gains_closeItems hname outcomes hphase hleast
  · refine hbody.mono ?_
    rintro result - rfl
    rfl

theorem writes_shardsPhase (place : Nat) :
    Writes (shardsPhase settings answers place).run fun result marks =>
      marks = (Passage.shards result).marks := by
  refine writes_itemsPhase (by decide) ?_
  exact (discreet_discover _ _ _).exceptSeq fun nodes => Discreet.lift (discreet_registerShards _ _)

theorem writes_collectionsPhase :
    Writes (collectionsPhase settings).run fun result marks =>
      marks = (Passage.collections result).marks := by
  refine writes_itemsPhase (by decide) ?_
  refine (Discreet.lift (discreet_shardCollections _ _)).exceptSeq fun result => ?_
  exact discreet_orStop result

end Phases

section Passing

variable {settings : Settings} {answers : Answers} {before after : Site}

/-- What a single phase leaves on the journal. -/
theorem Passes.gains {passage : Passage} (h : Passes settings answers before passage after)
    (hleast : before.journal.least ≤ .info) :
    before.journal.Gains passage.marks after.journal := by
  cases passage with
  | replicaSet result =>
    obtain ⟨name, -, hrun⟩ := h
    exact (writes_replicaSetPhase _ name).gains hleast hrun
  | shards result => exact (writes_shardsPhase _).gains hleast h
  | collections result => exact writes_collectionsPhase.gains hleast h

/-- What a row of phases leaves on the journal. -/
theorem Passing.gains {passages : List Passage}
    (h : Passing settings answers before passages after) (hleast : before.journal.least ≤ .info) :
    before.journal.Gains (passages.flatMap Passage.marks) after.journal := by
  induction h with
  | done hquiet => exact hquiet.2
  | next hquiet hhead _ ih =>
    have hgains := hquiet.2.trans (hhead.gains (hquiet.2.least_eq ▸ hleast))
    exact hgains.trans (ih (hgains.least_eq ▸ hleast))

end Passing

/-! ## Marks of a run -/

/-- The mark with which a run ends: it failed if it was stopped, and if there is a failure among its
outcomes. -/
def ending : Except Abort Report → String
  | .ok report => if report.hasFailures then "RUN_FAILED" else "RUN_COMPLETE"
  | .error _ => "RUN_FAILED"

theorem ending_mem_markNames (result : Except Abort Report) : ending result ∈ markNames := by
  rcases result with cause | report
  · exact show "RUN_FAILED" ∈ markNames by decide
  · rw [ending]
    split <;> decide

/-- The lines that a run added, and the journal that it left, show the run as bracketed.  Between its
beginning and its end, which are the first and the last line, there are no marks but those of its
phases, phase after phase. -/
structure Shows (phaseMarks : Passage → List String) (runId : String)
    (result : Except Abort Report) (passages : List Passage) (log : List Line) (after : Journal) :
    Prop where
  begins : log.head?.map Line.event = some "RUN_BEGIN"
  ends : log.getLast?.map Line.event = some (ending result)
  marks : marksOf log = "RUN_BEGIN" :: (passages.flatMap phaseMarks ++ [ending result])
  owned : ∀ line ∈ log, line.runId = some runId
  reported : ∀ report, result = .ok report → report.runId = runId
  unset : after.runId = none

/-- Each phase of a replica set that could not be converged leaves one mark too many. -/
theorem length_flatMap_marks (passages : List Passage) :
    (passages.flatMap Passage.marks).length =
      (passages.flatMap Passage.bracket).length + passages.countP Passage.isEchoed := by
  induction passages with
  | nil => rfl
  | cons passage passages ih =>
    rw [List.flatMap_cons, List.flatMap_cons, List.length_append, List.length_append, ih,
      List.countP_cons]
    cases hechoed : passage.isEchoed <;>
      simp [Passage.marks, Passage.bracket, hechoed] <;> omega

/-- Nothing else tells a row of phases from what they ought to leave. -/
theorem flatMap_marks_eq_iff {passages : List Passage} :
    passages.flatMap Passage.marks = passages.flatMap Passage.bracket ↔
      ∀ passage ∈ passages, passage.isEchoed = false := by
  constructor
  · intro heq
    have hlength := length_flatMap_marks passages
    rw [heq] at hlength
    have hnone : passages.countP Passage.isEchoed = 0 := by omega
    simpa using List.countP_eq_zero.1 hnone
  · intro hnone
    have hsame : passages.map Passage.marks = passages.map Passage.bracket :=
      List.map_congr_left fun passage hmem => by
        simp [Passage.marks, Passage.bracket, hnone passage hmem]
    rw [List.flatMap_def, List.flatMap_def, hsame]

theorem Passage.isEchoed_iff {passage : Passage} :
    passage.isEchoed = true ↔ ∃ reason, passage = .replicaSet (.ok (.failed reason)) := by
  constructor
  · intro hechoed
    rcases passage with (cause | outcome) | result | result
    · cases hechoed
    · cases outcome with
      | failed reason => exact ⟨reason, rfl⟩
      | configCurrent | pendingConvergence | connectionFailed | noMembersFound => cases hechoed
    · cases hechoed
    · cases hechoed
  · rintro ⟨reason, rfl⟩
    rfl

/-- Lines that begin and end a run show it. -/
theorem Shows.of_lines {phaseMarks : Passage → List String} {runId : String}
    {result : Except Abort Report} {passages : List Passage} {front back : Line}
    {middle : List Line} {after : Journal} (hfront : front.event = "RUN_BEGIN")
    (hback : back.event = ending result) (hmiddle : marksOf middle = passages.flatMap phaseMarks)
    (howned : ∀ line ∈ front :: (middle ++ [back]), line.runId = some runId)
    (hreported : ∀ report, result = .ok report → report.runId = runId)
    (hunset : after.runId = none) :
    Shows phaseMarks runId result passages (front :: (middle ++ [back])) after where
  begins := by simp [hfront]
  ends := by
    rw [← List.cons_append, List.getLast?_concat]
    exact congrArg some hback
  marks := by
    have hfirst : marksOf [front] = [front.event] :=
      marksOf_singleton_of_mem (by rw [hfront]; decide)
    have hlast : marksOf [back] = [back.event] :=
      marksOf_singleton_of_mem (hback ▸ ending_mem_markNames result)
    rw [← List.singleton_append, marksOf_append, marksOf_append, hfirst, hlast, hmiddle, hfront,
      hback]
    rfl
  owned := howned
  reported := hreported
  unset := hunset

/-- A run is shown as it ought to be unless its replica set could not be converged. -/
theorem Shows.bracket_iff {runId : String} {result : Except Abort Report}
    {passages : List Passage} {log : List Line} {after : Journal}
    (h : Shows Passage.marks runId result passages log after) :
    Shows Passage.bracket runId result passages log after ↔
      ∀ reason, .replicaSet (.ok (.failed reason)) ∉ passages := by
  have hechoed : (∀ passage ∈ passages, passage.isEchoed = false) ↔
      ∀ reason, .replicaSet (.ok (.failed reason)) ∉ passages := by
    simp only [← Bool.not_eq_true, Passage.isEchoed_iff]
    grind
  rw [← hechoed, ← flatMap_marks_eq_iff]
  constructor
  · intro hbracket
    have hsame := h.marks.symm.trans hbracket.marks
    exact List.append_cancel_right (List.cons.inj hsame).2
  · intro hsame
    exact { h with marks := hsame ▸ h.marks }

/-- The site at which the first phase of a run can begin: the run has said that it begins. -/
def begun (runId : String) (settings : Settings) (site : Site) : Site :=
  { site with
    journal := { site.journal with runId := some runId }.report .runStart
      [("node", settings.nodeName), ("instance_type", settings.daemon.name)] }

/-- A run is its phases between a beginning and an end. -/
theorem executeWith_run (runId : String) (settings : Settings) (answers : Answers) (site : Site) :
    (executeWith runId settings answers).run site =
      let (result, ended) := (phases runId settings answers).run.run (begun runId settings site)
      (result, ((conclude result).run ended).2) :=
  rfl

/-- A run that was not cut short by an overflow ends with its mark, and is not going on any more. -/
theorem conclude_run {result : Except Abort Report} (hfits : result ≠ .error .overflow)
    (site : Site) :
    ∃ event fields, event.name = ending result ∧ ((conclude result).run site).2 =
      { site with journal := { site.journal.report event fields with runId := none } } := by
  rcases result with (cause | -) | report
  · exact ⟨.runFailed, [("error", cause.message)], rfl, rfl⟩
  · exact absurd rfl hfits
  · refine ⟨if report.hasFailures then .runFailed else .runComplete, [], ?_, rfl⟩
    rw [ending]
    split <;> rfl

/-- What stands on the journal when the last phase is over. -/
theorem exists_lines {runId : String} {settings : Settings} {answers : Answers}
    {site ended : Site} {passages : List Passage} (hleast : site.journal.least ≤ .info)
    (h : Passing settings answers (begun runId settings site) passages ended) :
    ∃ front middle, front.event = "RUN_BEGIN" ∧
      ended.journal = { site.journal with
        runId := some runId, lines := site.journal.lines ++ front :: middle } ∧
      (∀ line ∈ front :: middle, line.runId = some runId) ∧
      marksOf middle = passages.flatMap Passage.marks := by
  let front : Line := ⟨.info, "RUN_BEGIN", some runId,
    [("node", settings.nodeName), ("instance_type", settings.daemon.name)]⟩
  have hbegun : (begun runId settings site).journal =
      { site.journal with runId := some runId, lines := site.journal.lines ++ [front] } :=
    if_pos hleast
  obtain ⟨middle, hended, howned, hmarks⟩ := h.gains (by rw [hbegun]; exact hleast)
  rw [hbegun] at hended howned
  refine ⟨front, middle, rfl, ?_, List.forall_mem_cons.2 ⟨rfl, howned⟩, hmarks⟩
  simpa using hended

/-- A run that is not cut short adds the lines that show it. -/
theorem shows_conclude {runId : String} {result : Except Abort Report} {passages : List Passage}
    {before : List Line} {front : Line} {middle : List Line} {journal : Journal} {ended : Site}
    (hfits : result ≠ .error .overflow) (hleast : journal.least ≤ .info)
    (hended : ended.journal =
      { journal with runId := some runId, lines := before ++ front :: middle })
    (hfront : front.event = "RUN_BEGIN") (howned : ∀ line ∈ front :: middle, line.runId = some runId)
    (hmiddle : marksOf middle = passages.flatMap Passage.marks)
    (hreported : ∀ report, result = .ok report → report.runId = runId) :
    let after := ((conclude result).run ended).2
    after.cluster = ended.cluster ∧ ∃ log, after.journal.lines = before ++ log ∧
      Shows Passage.marks runId result passages log after.journal := by
  obtain ⟨event, fields, hevent, hconclude⟩ := conclude_run hfits ended
  let back : Line := ⟨event.severity, event.name, some runId, fields⟩
  have hback : ended.journal.report event fields =
      { journal with runId := some runId, lines := before ++ (front :: middle) ++ [back] } := by
    rw [hended]
    exact if_pos (Nat.le_trans hleast event.info_le_severity)
  rw [hconclude, hback]
  refine ⟨rfl, front :: (middle ++ [back]), by simp, ?_⟩
  refine Shows.of_lines hfront hevent hmiddle ?_ hreported rfl
  rw [← List.cons_append]
  exact List.forall_mem_append.2 ⟨howned, List.forall_mem_singleton.2 rfl⟩

/-- A run leaves its beginning on the journal, then the marks of its phases, phase after phase, and
then its end, which says that it failed exactly if it was stopped or its report has failures.  All
lines that it adds are its own, and after it no run is going on.  An overflow cuts that short: there
is no end, and the run is left as the one that is going on.

So the journal shows a run as it ought to exactly if there was no overflow and no failure to converge
its replica set.  This holds of every run, whoever answers its queries and whatever faults hit its
commands, if lines of information are kept. -/
theorem bracketed_iff (runId : String) (settings : Settings) (answers : Answers) (site : Site)
    (hleast : site.journal.least ≤ .info) :
    let run := (Run.executeWith runId settings answers).run site
    ∃ log passages ended,
      run.2.journal.lines = site.journal.lines ++ log ∧
      Passing settings answers (begun runId settings site) passages ended ∧
      run.2.cluster = ended.cluster ∧ Recounts settings run.1 passages ∧
      (run.1 ≠ .error .overflow → Shows Passage.marks runId run.1 passages log run.2.journal) ∧
      (run.1 = .error .overflow →
        marksOf log = "RUN_BEGIN" :: passages.flatMap Passage.marks ∧
        (∀ line ∈ log, line.runId = some runId) ∧ run.2.journal.runId = some runId) ∧
      (Shows Passage.bracket runId run.1 passages log run.2.journal ↔
        run.1 ≠ .error .overflow ∧ ∀ reason, .replicaSet (.ok (.failed reason)) ∉ passages) := by
  intro run
  rcases hphases : (phases runId settings answers).run.run (begun runId settings site) with
    ⟨result, ended⟩
  obtain ⟨passages, hpassing, htold⟩ := traverses_phases runId _ _ _ hphases
  obtain ⟨front, middle, hfront, hended, howned, hmiddle⟩ := exists_lines hleast hpassing
  have hreported : ∀ report, result = .ok report → report.runId = runId := by
    rintro report rfl
    exact htold.1
  have hrecounts : Recounts settings result passages := by
    rcases result with cause | report
    · exact htold
    · exact htold.2
  have hrun : run = (result, ((conclude result).run ended).2) := by
    rw [show run = _ from executeWith_run runId settings answers site, hphases]
  clear_value run
  subst hrun
  dsimp only
  by_cases hfits : result = .error .overflow
  · subst hfits
    refine ⟨front :: middle, passages, ended, congrArg Journal.lines hended, hpassing, rfl,
      hrecounts, absurd rfl, fun _ => ⟨?_, howned, congrArg Journal.runId hended⟩, ?_⟩
    · rw [← List.singleton_append, marksOf_append, hmiddle,
        marksOf_singleton_of_mem (by rw [hfront]; decide), hfront]
      rfl
    · constructor
      · intro hshows
        cases hshows.unset.symm.trans (congrArg Journal.runId hended)
      · exact fun h => absurd rfl h.1
  · obtain ⟨hcluster, log, hlog, hshows⟩ :=
      shows_conclude hfits hleast hended hfront howned hmiddle hreported
    refine ⟨log, passages, ended, hlog, hpassing, hcluster, hrecounts, fun _ => hshows,
      fun h => absurd h hfits, ?_⟩
    rw [hshows.bracket_iff]
    exact (and_iff_right hfits).symm

/-- The connection is lost while a shard is registered, and all three phases are bracketed. -/
theorem bracketed_iff_with_lost_connection :
    let site : Site := { cluster := { faults := [("addShard", .drop)] } }
    let run := (Run.executeWith "r" busySettings (Discovery.list { nodes := busyNodes })).run site
    site.journal.least ≤ .info ∧ ∃ log passages, run.2.journal.lines = [] ++ log ∧
      passages.map Passage.name = ["REPLICA_SET", "SHARDS", "COLLECTIONS"] ∧
      Shows Passage.bracket "r" run.1 passages log run.2.journal := by
  intro site run
  have hleast : site.journal.least ≤ .info := by decide
  obtain ⟨log, passages, ended, hlog, -, -, hrecounts, -, -, hiff⟩ :=
    bracketed_iff "r" busySettings (Discovery.list { nodes := busyNodes }) site hleast
  have hreturns : run.1.toOption.isSome = true := by decide +kernel
  obtain ⟨report, hsome⟩ := Option.isSome_iff_exists.1 hreturns
  have hreport : run.1 = .ok report := eq_ok_of_toOption hsome
  have hcurrent : run.1.toOption.all
      (fun report => report.replicaSet.any fun own => !own.outcome.isFailed) = true := by
    decide +kernel
  rw [hsome] at hcurrent
  obtain ⟨own, hown, hfine⟩ := (Option.any_eq_true _ _).1 hcurrent
  have hpassages : passages = [.replicaSet (.ok own.outcome), .shards (.ok report.shards),
      .collections (.ok report.sharding)] := by
    rw [hreport] at hrecounts
    have hcollections : busySettings.givenCollections.isEmpty = false := by decide
    have hrouter : busySettings.daemon.isRouter = true := rfl
    simpa [Recounts, reported, hown, hrouter, hcollections] using hrecounts
  have hfits : run.1 ≠ .error .overflow := by simp [hreport]
  refine ⟨hleast, log, passages, hlog, by rw [hpassages]; rfl, hiff.2 ⟨hfits, ?_⟩⟩
  intro reason hmem
  have houtcome : own.outcome = .failed reason := by simpa [hpassages, eq_comm] using hmem
  simp [houtcome, ReplicaSetOutcome.isFailed] at hfine

/-- A node of the replica set `rs0`. -/
def strayNode : Node :=
  { name := "a", fqdn := "a.cluster", ipAddress := "10.0.0.1", roles := [.replicaset] }

/-- The daemon of a node belongs to another replica set.  The failure is told twice under one name,
and there are no phases whose brackets the journal could show. -/
theorem tells_failure_twice :
    let settings : Settings := { nodeName := "a", daemon := .mongod, replicaSet := some "rs0" }
    let site : Site :=
      { cluster := { replicaSet := some ⟨"rs1", 1, [⟨0, "a.cluster:27017"⟩]⟩ } }
    let run := (Run.execute "r" settings { nodes := [strayNode] }).run site
    run.2.journal.lines.map Line.event =
        ["RUN_BEGIN", "REPLICA_SET_BEGIN", "NODES_DISCOVERED", "REPLICA_SET_CONFIGURING",
          "REPLICA_SET_FAILED", "REPLICA_SET_FAILED", "RUN_FAILED"] ∧
      ¬ ∃ passages, Shows Passage.bracket "r" run.1 passages run.2.journal.lines run.2.journal := by
  intro settings site run
  refine ⟨by decide +kernel, ?_⟩
  rintro ⟨passages, hshows⟩
  have hfive : (marksOf run.2.journal.lines).length = 5 := by decide +kernel
  have hpairs : (passages.flatMap Passage.bracket).length = passages.length * 2 := by
    simp [List.length_flatMap, Passage.bracket, List.map_const']
  -- phases leave an even number of marks, and so do all of them with the run
  rw [hshows.marks, List.length_cons, List.length_append, hpairs, List.length_singleton] at hfive
  omega

end Run

end ClusterConvergence
