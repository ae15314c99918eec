import ClusterConvergence.Cluster.Site

/-!
# What an activity writes

While a run is going on, lines are added to the journal and nothing else there is changed, so all of
them belong to this run.  Most lines tell what happens inside of a phase.  The others are marks: the
run or one of its phases begins or ends there.  `Writes` describes an activity by its result and the marks that it adds, and
a `Discreet` one adds none.

There is one rule for every way to put activities together, as there is for what they ensure of the
cluster.
-/

namespace ClusterConvergence

/-! ## Marks -/

/-- The names of whatever begins and ends: the run and its phases. -/
def bracketNames : List String :=
  ["RUN", "REPLICA_SET", "SHARDS", "COLLECTIONS"]

/-- How the events are named that say that something begins or ends. -/
def markSuffixes : List String :=
  ["_BEGIN", "_COMPLETE", "_FAILED", "_INCOMPLETE"]

/-- The events that say that the run or a phase begins or ends. -/
def markNames : List String :=
  bracketNames.flatMap fun name => markSuffixes.map (name ++ ·)

theorem mem_markNames {name suffix : String} (hname : name ∈ bracketNames)
    (hsuffix : suffix ∈ markSuffixes) : name ++ suffix ∈ markNames :=
  List.mem_flatMap.2 ⟨name, hname, List.mem_map_of_mem hsuffix⟩

/-- The marks among some lines, in their order. -/
def marksOf (lines : List Line) : List String :=
  (lines.map Line.event).filter (· ∈ markNames)

@[simp] theorem marksOf_append (front back : List Line) :
    marksOf (front ++ back) = marksOf front ++ marksOf back := by
  simp [marksOf]

theorem marksOf_singleton_of_mem {line : Line} (h : line.event ∈ markNames) :
    marksOf [line] = [line.event] := by
  simp [marksOf, h]

theorem marksOf_singleton_of_not_mem {line : Line} (h : line.event ∉ markNames) :
    marksOf [line] = [] := by
  simp [marksOf, h]

/-- Whether the name of an event is that of a mark. -/
def Event.IsMark (event : Event) : Prop :=
  event.name ∈ markNames

instance (event : Event) : Decidable event.IsMark :=
  inferInstanceAs (Decidable (event.name ∈ markNames))

theorem Event.info_le_severity (event : Event) : .info ≤ event.severity := by
  cases event <;> decide

namespace Journal

/-- One journal comes from another by lines that were added.  They belong to the run that is going
on, and the marks among them are given. -/
def Gains (marks : List String) (before after : Journal) : Prop :=
  ∃ log, after = { before with lines := before.lines ++ log } ∧
    (∀ line ∈ log, line.runId = before.runId) ∧ marksOf log = marks

namespace Gains

variable {marks marks' : List String} {a b c : Journal}

theorem refl (journal : Journal) : Gains [] journal journal :=
  ⟨[], by simp, by simp, rfl⟩

theorem trans (hab : Gains marks a b) (hbc : Gains marks' b c) : Gains (marks ++ marks') a c := by
  obtain ⟨first, rfl, hfirst, rfl⟩ := hab
  obtain ⟨second, rfl, hsecond, rfl⟩ := hbc
  refine ⟨first ++ second, by simp, ?_, marksOf_append first second⟩
  exact List.forall_mem_append.2 ⟨hfirst, hsecond⟩

theorem least_eq (h : Gains marks a b) : b.least = a.least := by
  obtain ⟨log, rfl, -, -⟩ := h
  rfl

variable {severity : Severity} {event : String} {fields : Fields}

/-- A mark is added wherever lines of its severity are kept. -/
theorem log (hkept : a.least ≤ severity) (hmark : event ∈ markNames) :
    Gains [event] a (a.log severity event fields) := by
  rw [Journal.log, if_pos hkept]
  exact ⟨[⟨severity, event, a.runId, fields⟩], rfl, by simp, marksOf_singleton_of_mem hmark⟩

/-- Anything else leaves no mark, whether or not it is kept. -/
theorem log_of_not_mem (hother : event ∉ markNames) :
    Gains [] a (a.log severity event fields) := by
  rw [Journal.log]
  split
  · exact ⟨[⟨severity, event, a.runId, fields⟩], rfl, by simp, marksOf_singleton_of_not_mem hother⟩
  · exact refl a

end Gains

end Journal

/-! ## Rules -/

namespace Activity

variable {α β ε : Type}

/-- Wherever lines of information are kept, an activity has a result and adds marks of which `post`
holds. -/
def Writes (act : Activity α) (post : α → List String → Prop) : Prop :=
  ∀ site : Site, site.journal.least ≤ .info →
    ∃ marks, site.journal.Gains marks (act.run site).2.journal ∧ post (act.run site).1 marks

/-- An activity that adds no marks. -/
def Discreet (act : Activity α) : Prop :=
  Writes act fun _ marks => marks = []

namespace Writes

variable {act : Activity α} {post post' : α → List String → Prop}

theorem mono (h : Writes act post) (himp : ∀ a marks, post a marks → post' a marks) :
    Writes act post' := by
  intro site hleast
  obtain ⟨marks, hgains, hpost⟩ := h site hleast
  exact ⟨marks, hgains, himp _ _ hpost⟩

/-- What is written in every run is written in a single one. -/
theorem gains {marks : α → List String} {before after : Site} {a : α}
    (h : Writes act fun a written => written = marks a) (hleast : before.journal.least ≤ .info)
    (hrun : act.run before = (a, after)) : before.journal.Gains (marks a) after.journal := by
  obtain ⟨written, hgains, hwritten⟩ := h before hleast
  rw [hrun] at hgains hwritten
  exact hwritten ▸ hgains

theorem pure {a : α} (h : post a []) : Writes (Pure.pure a) post :=
  fun site _ => ⟨[], .refl site.journal, h⟩

theorem bind {f : α → Activity β} {post : β → List String → Prop}
    (h : Writes act fun a marks => Writes (f a) fun b more => post b (marks ++ more)) :
    Writes (act >>= f) post := by
  intro site hleast
  obtain ⟨marks, hgains, hrest⟩ := h site hleast
  obtain ⟨more, hmore, hpost⟩ := hrest (act.run site).2 (hgains.least_eq ▸ hleast)
  exact ⟨marks ++ more, hgains.trans hmore, hpost⟩

theorem onJournal {step : Journal → α × Journal} {marks : List String}
    (h : ∀ journal : Journal, journal.least ≤ .info →
      journal.Gains marks (step journal).2 ∧ post (step journal).1 marks) :
    Writes (Activity.onJournal step) post :=
  fun site hleast => ⟨marks, h site.journal hleast⟩

/-- A change of the journal that always leaves the same marks. -/
theorem onJournal_of_gains {step : Journal → α × Journal} {marks : List String}
    (h : ∀ journal : Journal, journal.least ≤ .info → journal.Gains marks (step journal).2) :
    Writes (Activity.onJournal step) fun _ written => written = marks :=
  onJournal fun journal hleast => ⟨h journal hleast, rfl⟩

/-- No event is of less severity than information, so a mark is kept. -/
theorem report {event : Event} {fields : Fields} {post : Unit → List String → Prop}
    (hmark : event.IsMark) (h : post () [event.name]) :
    Writes (Activity.report event fields) post :=
  fun _ hleast => ⟨[event.name], .log (Nat.le_trans hleast event.info_le_severity) hmark, h⟩

theorem lift {act : Activity α} {post : Except ε α → List String → Prop}
    (h : Writes act fun a marks => post (.ok a) marks) :
    Writes (liftM act : ExceptT ε Activity α).run post :=
  fun site hleast => h site hleast

/-- An end leaves the rest out. -/
theorem exceptBind {act : ExceptT ε Activity α} {f : α → ExceptT ε Activity β}
    {post : Except ε β → List String → Prop}
    (h : Writes act.run fun result marks =>
      match result with
      | .ok a => Writes (f a).run fun b more => post b (marks ++ more)
      | .error e => post (.error e) marks) :
    Writes (act >>= f).run post := by
  show Writes (act.run >>= ExceptT.bindCont f) post
  refine Writes.bind (h.mono ?_)
  rintro (e | a) marks h
  · exact Writes.pure ((List.append_nil marks).symm ▸ h)
  · exact h

end Writes

namespace Discreet

variable {act : Activity α}

theorem pure {a : α} : Discreet (Pure.pure a) :=
  Writes.pure rfl

/-- What is written after a discreet activity is all that is written. -/
theorem bind {f : α → Activity β} {post : β → List String → Prop} (h : Discreet act)
    (hf : ∀ a, Writes (f a) post) : Writes (act >>= f) post := by
  refine Writes.bind (h.mono ?_)
  rintro a - rfl
  exact hf a

theorem onCluster {step : Cluster → α × Cluster} : Discreet (Activity.onCluster step) :=
  fun site _ => ⟨[], .refl site.journal, rfl⟩

theorem report {event : Event} {fields : Fields} (hother : ¬ event.IsMark) :
    Discreet (Activity.report event fields) :=
  fun _ _ => ⟨[], .log_of_not_mem hother, rfl⟩

theorem trace {event : String} {fields : Fields} (hother : event ∉ markNames) :
    Discreet (Activity.trace event fields) :=
  fun _ _ => ⟨[], .log_of_not_mem hother, rfl⟩

/-! ### Activities that can end early -/

theorem lift {act : Activity α} (h : Discreet act) :
    Discreet (liftM act : ExceptT ε Activity α).run :=
  Writes.lift h

theorem throw {e : ε} : Discreet (MonadExcept.throw e : ExceptT ε Activity α).run :=
  pure

/-- When a discreet part ends early, nothing was written. -/
theorem exceptBind {act : ExceptT ε Activity α} {f : α → ExceptT ε Activity β}
    {post : Except ε β → List String → Prop} (h : Discreet act.run)
    (hf : ∀ a, Writes (f a).run post) (hearly : ∀ e, post (.error e) []) :
    Writes (act >>= f).run post := by
  refine Writes.exceptBind (h.mono ?_)
  rintro (e | a) - rfl
  · exact hearly e
  · exact hf a

/-- Two discreet parts, one after the other, are discreet. -/
theorem exceptSeq {act : ExceptT ε Activity α} {f : α → ExceptT ε Activity β}
    (h : Discreet act.run) (hf : ∀ a, Discreet (f a).run) : Discreet (act >>= f).run :=
  h.exceptBind hf fun _ => rfl

end Discreet

end Activity

end ClusterConvergence
