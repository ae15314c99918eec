import ClusterConvergence.Proofs.Cluster.Landing

/-!
# One submission for each command

Commands are run one after the other through one router.  Each of them meets a fate (`Router.Fate`):
as long as the routing layer is reached, it is sent and there is an answer or a late one; once no
session can be opened, or one is lost during a command, nothing is sent any more.  So the results of
a row of commands fall into two parts, and what was sent can be told from them (`Router.Account`).

A session is looked for at the first command, and again after each answer that was late.  What that
takes is counted by searches (`Target.Spent`); a search at a single address says nothing and opens one
connection, and a search through a list says hello to the members and opens a connection to each of
them.  Since a session is open only if a connection was opened for it, the connections that are opened
on the way also tell how many sessions are open at most at a time (`Cluster.peak`).

Main statement: `router_sends_each_once`.
-/

namespace ClusterConvergence

namespace Routed

/-- Whether the routing layer was reached: there is an answer, or it is late. -/
def isReached : Routed → Bool
  | .reply _ => true
  | .timeout _ => true
  | .unreachable _ => false

/-- Whether there was no answer in time. -/
def isLate : Routed → Bool
  | .timeout _ => true
  | _ => false

end Routed

/-! ## What a search takes -/

namespace Target

/-- How many hellos are said at most while a session is looked for. -/
def hellos : Target → Nat
  | .single _ => 0
  | .members hosts => hosts.length

/-- How many connections are opened at most while a session is looked for: one to each member, and
one to the primary that they tell of. -/
def openings : Target → Nat
  | .single _ => 1
  | .members hosts => hosts.length + 1

/-- No session could be opened at a target, for this reason. -/
inductive Shut : Target → String → Prop where
  | single (address : String) : Shut (.single address) (Failure.refused address).message
  | empty : Shut (.members []) emptyList.message
  | members (hosts : List String) (last : String) :
    Shut (.members hosts) (noMember hosts last).message

/-- What is sent and opened with so many searches for a session: nothing is said besides the commands
but hellos, and the commands are sent in their order. -/
structure Spent (target : Target) (searches : Nat) (before : Cluster) (sent : List AdminCommand)
    (after : Cluster) : Prop where
  log : ∃ gained hellos, after.commands = before.commands ++ gained ∧ sent.Sublist gained ∧
    gained.Perm (sent ++ List.replicate hellos .hello) ∧ hellos ≤ target.hellos * searches
  connections : after.connections.length ≤ before.connections.length + target.openings * searches

namespace Spent

variable {target : Target} {a b c : Cluster} {m n : Nat} {sent sent' : List AdminCommand}

theorem refl (target : Target) (cluster : Cluster) : target.Spent 0 cluster [] cluster where
  log := ⟨[], 0, (List.append_nil _).symm, .refl _, .refl _, Nat.zero_le _⟩
  connections := Nat.le_add_right _ _

theorem trans (hab : target.Spent m a sent b) (hbc : target.Spent n b sent' c) :
    target.Spent (m + n) a (sent ++ sent') c where
  log := by
    obtain ⟨gained, hellos, hcommands, hsub, hperm, hle⟩ := hab.log
    obtain ⟨gained', hellos', hcommands', hsub', hperm', hle'⟩ := hbc.log
    refine ⟨gained ++ gained', hellos + hellos', ?_, hsub.append hsub', ?_, ?_⟩
    · rw [hcommands', hcommands, List.append_assoc]
    · refine (hperm.append hperm').trans ?_
      rw [← List.replicate_append_replicate, List.append_assoc, List.append_assoc]
      refine List.Perm.append_left _ ?_
      rw [← List.append_assoc, ← List.append_assoc]
      exact List.Perm.append_right _ List.perm_append_comm
    · rw [Nat.mul_add]
      exact Nat.add_le_add hle hle'
  connections := by
    have hab := hab.connections
    have hbc := hbc.connections
    rw [Nat.mul_add]
    omega

theorem mono (h : target.Spent m a sent b) (hle : m ≤ n) : target.Spent n a sent b where
  log := by
    obtain ⟨gained, hellos, hcommands, hsub, hperm, hhellos⟩ := h.log
    exact ⟨gained, hellos, hcommands, hsub, hperm,
      Nat.le_trans hhellos (Nat.mul_le_mul_left _ hle)⟩
  connections :=
    Nat.le_trans h.connections (Nat.add_le_add_left (Nat.mul_le_mul_left _ hle) _)

/-- At a single address nothing is said but the commands. -/
theorem said {address : String} (h : (single address).Spent n a sent b) :
    b.commands = a.commands ++ sent := by
  obtain ⟨gained, hellos, hcommands, hsub, hperm, hle⟩ := h.log
  obtain rfl : hellos = 0 := Nat.le_zero.1 (Nat.le_trans hle (Nat.le_of_eq (Nat.zero_mul n)))
  have hlength : sent.length = gained.length := by
    rw [hperm.length_eq]
    exact congrArg List.length (List.append_nil sent).symm
  rw [hcommands, hsub.eq_of_length hlength]

end Spent

end Target

namespace Cluster

variable {cluster : Cluster}

theorem run_spent (target : Target) (session : Session) (command : AdminCommand) :
    target.Spent 0 cluster [command] (cluster.run session command).2 where
  log := ⟨[command], 0, cluster.run_commands session command, .refl _, .refl _, Nat.zero_le _⟩
  connections := Nat.le_of_eq (congrArg List.length (cluster.run_connections session command))

theorem release_spent (target : Target) (cluster : Cluster) :
    target.Spent 0 cluster [] cluster.release where
  log := (Target.Spent.refl target cluster).log
  connections := (Target.Spent.refl target cluster).connections

/-- A connection that is lost is lost during a command. -/
theorem message_of_lost {session : Session} {command : AdminCommand} {failure : Failure}
    (hrun : (cluster.run session command).1 = .error failure) (hlost : ¬ failure.isTimeout = true) :
    failure.message = (Failure.dropped session.address command).message := by
  rcases cluster.run_cases session command with ⟨-, hc⟩ | ⟨reply, -, hc⟩ |
    ⟨fault, failure', -, hfailure, hc⟩ <;> rw [hc] at hrun
  · cases hrun
  · cases hrun
  · cases hrun
    -- the other faults let the command run late
    cases fault <;> cases hfailure
    · exact absurd rfl hlost
    · exact absurd rfl hlost
    · rfl
    · rfl

end Cluster

namespace Activity

open Cluster

variable {cluster : Cluster}

theorem connectMembers_shut (hosts : List String) :
    Yields cluster (connectMembers hosts) fun result _ =>
      ∀ failure, result = .error failure → (Target.members hosts).Shut failure.message := by
  have hsettle : ∀ search failure, settle hosts search = .error failure →
      (Target.members hosts).Shut failure.message := by
    intro search failure h
    rw [settle] at h
    split at h
    · cases h
    · cases h
      exact .members hosts _
  rw [connectMembers]
  split
  · next hempty =>
    obtain rfl : hosts = [] := List.isEmpty_iff.1 hempty
    refine Yields.pure ?_
    rintro _ ⟨⟩
    exact .empty
  · refine Yields.bind (Yields.of_forall ?_)
    rintro (search | session) c
    · dsimp only
      split
      · exact Yields.pure (hsettle search)
      · refine Yields.bind (Yields.of_forall ?_)
        rintro (- | session) d
        · exact Yields.pure (hsettle search)
        · refine Yields.bind (Yields.of_forall fun _ _ => Yields.pure ?_)
          rintro _ ⟨⟩
    · refine Yields.pure ?_
      rintro _ ⟨⟩

/-- A search for a session, and why it finds none. -/
theorem yields_connect_spent (target : Target) :
    Yields cluster (connect target) fun result after =>
      target.Spent 1 cluster [] after ∧
        ∀ failure, result = .error failure → target.Shut failure.message := by
  cases target with
  | single address =>
    refine Yields.openSession ⟨⟨⟨[], 0, ?_, .refl _, .refl _, Nat.zero_le _⟩, ?_⟩, ?_⟩
    · rw [openSession_commands, List.append_nil]
    · rw [length_openSession_connections]
      exact Nat.add_le_add_left (held_le_one _) _
    · intro failure hfailure
      rcases haccepts : cluster.accepts address with - | -
      · rw [openSession_of_not_accepts haccepts] at hfailure
        cases hfailure
        exact .single address
      · cases (openSession_of_accepts haccepts).symm.trans hfailure
  | members hosts =>
    intro journal
    obtain ⟨-, hasks⟩ := @yields_connectMembers_lands cluster hosts journal
    have hcommands := hasks.commands
    rw [List.map_const'] at hcommands
    refine ⟨⟨⟨_, _, hcommands, List.nil_sublist _, .refl _, ?_⟩, ?_⟩,
      connectMembers_shut hosts journal⟩
    · rw [Target.hellos, Nat.mul_one]
      exact cluster.length_asked_searched_le hosts
    · rw [Target.openings, Nat.mul_one]
      exact hasks.connections_le

end Activity

/-! ## The fate of a command -/

namespace Router

open Activity

/-- How many times a session has to be looked for at the next command. -/
def searches (router : Router) : Nat :=
  match router.lost, router.session with
  | none, none => 1
  | _, _ => 0

/-- What becomes of a command: what is known of it, the next state of the router, and what was sent. -/
inductive Fate (router : Router) (command : AdminCommand) :
    Routed → Router → List AdminCommand → Prop where
  /-- The routing layer was lost before. -/
  | skipped {reason : String} (hlost : router.lost = some reason) :
    Fate router command (.unreachable reason) router []
  /-- No session can be opened. -/
  | refused {reason : String} (hlost : router.lost = none) (hshut : router.target.Shut reason) :
    Fate router command (.unreachable reason)
      { router with session := none, lost := some reason } []
  /-- There is an answer, and the session is kept. -/
  | answered {reply : Reply} (hlost : router.lost = none) (session : Session) :
    Fate router command (.reply reply) { router with session := some session } [command]
  /-- There is no answer in time, and the session is given back. -/
  | late {reason : String} (hlost : router.lost = none) :
    Fate router command (.timeout reason) { router with session := none } [command]
  /-- The connection is lost while the command is in flight. -/
  | dropped {address reason : String} (hlost : router.lost = none)
    (hreason : reason = (Failure.dropped address command).message) :
    Fate router command (.unreachable reason)
      { router with session := none, lost := some reason } [command]

variable {cluster : Cluster} {router next : Router} {command : AdminCommand} {routed : Routed}
  {sent : List AdminCommand}

/-- After an answer that was late, and only then, another session is looked for. -/
theorem Fate.searches_le (h : Fate router command routed next sent) :
    next.searches ≤ [routed].countP Routed.isLate := by
  cases h with
  | skipped hlost => rw [searches, hlost]; exact Nat.le_refl 0
  | refused => exact Nat.le_refl 0
  | answered hlost session => rw [searches]; simp [hlost]
  | late hlost => rw [searches]; simp [hlost, Routed.isLate]
  | dropped => exact Nat.le_refl 0

/-- A command is sent once at most. -/
theorem Fate.sent_prefix (h : Fate router command routed next sent) : sent <+: [command] := by
  cases h with
  | skipped => exact List.nil_prefix
  | refused => exact List.nil_prefix
  | answered => exact List.prefix_refl _
  | late => exact List.prefix_refl _
  | dropped => exact List.prefix_refl _

theorem Fate.target_eq (h : Fate router command routed next sent) :
    next.target = router.target := by
  cases h <;> rfl

theorem yields_sendOver_fate (hlost : router.lost = none) (session : Session)
    (command : AdminCommand) :
    Yields cluster (router.sendOver session command) fun result after =>
      ∃ sent, Fate router command result.1 result.2 sent ∧
        router.target.Spent 0 cluster sent after := by
  have hspent := cluster.run_spent router.target session command
  have hreleased := hspent.trans (Cluster.release_spent router.target _)
  refine Yields.bind (Yields.send ?_)
  rcases hrun : (cluster.run session command).1 with failure | reply
  · refine Yields.bind (Yields.release ?_)
    split
    · exact Yields.pure ⟨[command], .late hlost, hreleased⟩
    · next hloss =>
      refine Yields.bind (Yields.report (Yields.pure ⟨[command], ?_, hreleased⟩))
      exact .dropped hlost (Cluster.message_of_lost hrun hloss)
  · exact Yields.pure ⟨[command], .answered hlost session, hspent⟩

/-- Every command meets its fate, and a session is looked for only if none is there. -/
theorem yields_run_fate (router : Router) (command : AdminCommand) :
    Yields cluster (router.run command) fun result after =>
      ∃ sent, Fate router command result.1 result.2 sent ∧
        router.target.Spent router.searches cluster sent after := by
  rw [run]
  split
  · next hlost =>
    have hnone : router.searches = 0 := by rw [searches, hlost]
    rw [hnone]
    exact Yields.pure ⟨[], .skipped hlost, .refl _ _⟩
  · next session hlost hsession =>
    have hnone : router.searches = 0 := by rw [searches, hlost, hsession]
    rw [hnone]
    exact yields_sendOver_fate hlost session command
  · next hlost hsession =>
    have hone : router.searches = 1 := by rw [searches, hlost, hsession]
    rw [hone]
    refine Yields.bind ((yields_connect_spent router.target).mono ?_)
    rintro (failure | session) reached ⟨hspent, hshut⟩
    · exact Yields.bind (Yields.report (Yields.pure ⟨[], .refused hlost (hshut _ rfl), hspent⟩))
    · refine (yields_sendOver_fate hlost session command).mono ?_
      rintro result after ⟨sent, hfate, hrest⟩
      exact ⟨sent, hfate, hspent.trans hrest⟩

/-! ## A row of commands -/

/-- Run commands one after the other. -/
def runAll (router : Router) : List AdminCommand → Activity (List Routed × Router)
  | [] => return ([], router)
  | command :: commands => do
    let (routed, router) ← router.run command
    let (results, router) ← router.runAll commands
    return (routed :: results, router)

/-- The results of a row of commands, and which of the commands were sent: those in front for which
the routing layer was reached, and besides them only one during which the connection was lost.  All
results behind the front give one and the same reason. -/
inductive Account (target : Target) :
    List AdminCommand → List Routed → List AdminCommand → Prop where
  /-- The routing layer was reached for all of them. -/
  | reached {commands : List AdminCommand} {results : List Routed}
    (hreached : ∀ routed ∈ results, routed.isReached = true)
    (hlength : results.length = commands.length) : Account target commands results commands
  /-- No session could be opened for one of them. -/
  | shut {front back : List AdminCommand} {command : AdminCommand} {heard : List Routed}
    {reason : String} (hreached : ∀ routed ∈ heard, routed.isReached = true)
    (hlength : heard.length = front.length) (hshut : target.Shut reason) :
    Account target (front ++ command :: back)
      (heard ++ (command :: back).map fun _ => .unreachable reason) front
  /-- The connection was lost while one of them was in flight. -/
  | lost {front back : List AdminCommand} {command : AdminCommand} {heard : List Routed}
    {address reason : String} (hreached : ∀ routed ∈ heard, routed.isReached = true)
    (hlength : heard.length = front.length)
    (hreason : reason = (Failure.dropped address command).message) :
    Account target (front ++ command :: back)
      (heard ++ (command :: back).map fun _ => .unreachable reason) (front ++ [command])

variable {commands : List AdminCommand} {results : List Routed}

theorem Account.cons {target : Target} (h : Account target commands results sent)
    (hreached : routed.isReached = true) :
    Account target (command :: commands) (routed :: results) (command :: sent) := by
  cases h with
  | reached hall hlength =>
    exact .reached (List.forall_mem_cons.2 ⟨hreached, hall⟩) (congrArg (· + 1) hlength)
  | @shut front back c heard reason hheard hlength hshut =>
    simp only [← List.cons_append]
    exact .shut (List.forall_mem_cons.2 ⟨hreached, hheard⟩) (congrArg (· + 1) hlength) hshut
  | @lost front back c heard address reason hheard hlength hreason =>
    simp only [← List.cons_append]
    exact .lost (List.forall_mem_cons.2 ⟨hreached, hheard⟩) (congrArg (· + 1) hlength) hreason

/-- Each command is sent at most once, and in its turn. -/
theorem Account.sent_prefix {target : Target} (h : Account target commands results sent) :
    sent <+: commands := by
  cases h with
  | reached => exact List.prefix_refl _
  | shut => exact List.prefix_append _ _
  | @lost front back command => exact ⟨back, by simp⟩

/-- Either the routing layer is reached and stays so, or nothing more is sent. -/
theorem Fate.reached_or_lost (h : Fate router command routed next sent)
    (hlost : router.lost = none) :
    (routed.isReached = true ∧ sent = [command] ∧ next.lost = none ∧
      next.target = router.target) ∨
    ∃ reason, routed = .unreachable reason ∧ next.lost = some reason ∧
      ∀ back, Account router.target (command :: back)
        ((command :: back).map fun _ => .unreachable reason) sent := by
  have hnobody := List.forall_mem_nil fun routed : Routed => routed.isReached = true
  have hlength : ([] : List Routed).length = ([] : List AdminCommand).length := rfl
  cases h with
  | skipped hskip => cases hskip.symm.trans hlost
  | refused _ hshut => exact Or.inr ⟨_, rfl, rfl, fun back => .shut hnobody hlength hshut⟩
  | answered => exact Or.inl ⟨rfl, rfl, hlost, rfl⟩
  | late => exact Or.inl ⟨rfl, rfl, hlost, rfl⟩
  | dropped _ hreason => exact Or.inr ⟨_, rfl, rfl, fun back => .lost hnobody hlength hreason⟩

/-- Once the routing layer is lost, nothing happens any more. -/
theorem yields_runAll_of_lost {reason : String} (hlost : router.lost = some reason)
    (commands : List AdminCommand) :
    Yields cluster (router.runAll commands) fun result after =>
      result = (commands.map fun _ => .unreachable reason, router) ∧ after = cluster := by
  induction commands with
  | nil => exact Yields.pure ⟨rfl, rfl⟩
  | cons command commands ih =>
    have hskipped : router.run command = pure (.unreachable reason, router) := by
      rw [run, hlost]
    rw [runAll, hskipped, pure_bind]
    refine Yields.bind (ih.mono ?_)
    rintro _ _ ⟨rfl, rfl⟩
    exact Yields.pure ⟨rfl, rfl⟩

/-- What comes of a row of commands: their account, and no more searches for a session than there are
late answers, and one more if no session is there in the beginning. -/
def Manages (router : Router) (before : Cluster) (commands : List AdminCommand)
    (results : List Routed) (after : Cluster) : Prop :=
  ∃ sent, Account router.target commands results sent ∧
    router.target.Spent (router.searches + results.countP Routed.isLate) before sent after

theorem yields_runAll (commands : List AdminCommand) (router : Router)
    (hlost : router.lost = none) :
    Yields cluster (router.runAll commands) fun result after =>
      router.Manages cluster commands result.1 after := by
  induction commands generalizing router cluster with
  | nil =>
    have hnothing := (Target.Spent.refl router.target cluster).mono (Nat.zero_le router.searches)
    exact Yields.pure ⟨[], .reached (List.forall_mem_nil _) rfl, hnothing⟩
  | cons command commands ih =>
    refine Yields.bind ((yields_run_fate router command).mono ?_)
    rintro ⟨routed, next⟩ between ⟨sent, hfate, hspent⟩
    have hsearches : next.searches ≤ [routed].countP Routed.isLate := hfate.searches_le
    rcases hfate.reached_or_lost hlost with
      ⟨hreached, rfl, hnext, htarget⟩ | ⟨reason, rfl, hnext, haccount⟩
    · refine Yields.bind ((ih next hnext).mono ?_)
      rintro ⟨results, last⟩ after ⟨more, haccount, hmore⟩
      rw [htarget] at haccount hmore
      refine Yields.pure ⟨command :: more, haccount.cons hreached, (hspent.trans hmore).mono ?_⟩
      show _ ≤ router.searches + ([routed] ++ results).countP Routed.isLate
      rw [List.countP_append]
      dsimp only
      omega
    · refine Yields.bind ((yields_runAll_of_lost hnext commands).mono ?_)
      rintro _ _ ⟨rfl, rfl⟩
      exact Yields.pure ⟨sent, haccount commands, hspent.mono (Nat.le_add_right _ _)⟩

/-- Where nothing interferes and the target can be reached, every command is answered. -/
theorem yields_runAll_undisturbed (commands : List AdminCommand) (router : Router)
    (hlost : router.lost = none) (hquiet : cluster.Quiet) (hreaches : cluster.Reaches router.target) :
    Yields cluster (router.runAll commands) fun result _ =>
      ∀ routed ∈ result.1, ∃ reply, routed = .reply reply := by
  induction commands generalizing router cluster with
  | nil => exact Yields.pure (List.forall_mem_nil _)
  | cons command commands ih =>
    refine Yields.bind ((yields_run router command).mono ?_)
    rintro ⟨routed, next⟩ between hhandles
    obtain ⟨hreply, hnext, hquiet', hreaches'⟩ := hhandles.undisturbed hlost hquiet hreaches
    rw [← hhandles.target_eq] at hreaches'
    refine Yields.bind ((ih next hnext hquiet' hreaches').mono ?_)
    rintro ⟨results, last⟩ after hrest
    exact Yields.pure (List.forall_mem_cons.2 ⟨hreply, hrest⟩)

end Router

/-! ## How many sessions are open at a time -/

namespace Cluster

/-- No more sessions than this are open at any time on the way from one cluster to another: those of
the first one, and one for each connection that is opened. -/
def peak (before after : Cluster) : Nat :=
  before.openSessions + (after.connections.length - before.connections.length)

end Cluster

/-- The cluster when a search has tried some members. -/
def Site.tried (site : Site) (hosts : List String) : Cluster :=
  ((Activity.tryMembers {} hosts).run site).2.cluster

namespace Activity

open Cluster

variable {cluster : Cluster} {n : Nat}

/-- While a list is searched, no more than so many sessions are open at any time. -/
structure Searching (site : Site) (hosts : List String) (most : Nat) : Prop where
  /-- While one more member is tried. -/
  member : ∀ front host back, hosts = front ++ host :: back →
    (site.tried front).peak (site.tried (front ++ [host])) ≤ most
  /-- While the primary is tried that the members told of. -/
  told : (site.tried hosts).peak ((connectMembers hosts).run site).2.cluster ≤ most

theorem tryMembers_append (search : Search) (front back : List String) :
    tryMembers search (front ++ back) = tryMembers search front >>= fun result =>
      match result with
      | .ok session => pure (.ok session)
      | .error left => tryMembers left back := by
  induction front generalizing search with
  | nil => rfl
  | cons host front ih =>
    rw [List.cons_append, tryMembers, tryMembers, bind_assoc]
    refine bind_congr fun opened => ?_
    cases opened with
    | error failure => simp only [bind_assoc, ih]
    | ok session =>
      simp only [bind_assoc]
      refine bind_congr fun answer => ?_
      cases answer with
      | error failure => simp only [bind_assoc, ih]
      | ok reply =>
        dsimp only
        split
        · simp only [bind_assoc, pure_bind]
        · split
          · exact ih _
          · simp only [bind_assoc, ih]

/-- Each member costs one connection at most. -/
theorem Tried.connections_le {search : Search} {hosts : List String}
    {result : Except Search Session} {after : Cluster}
    (h : Tried cluster n search hosts result after) :
    after.connections.length ≤ cluster.connections.length + hosts.length := by
  cases h with
  | primary =>
    show (cluster.visited (cluster.searched hosts)).connections.length ≤ _
    rw [(cluster.visited_greets _).connections, List.length_append]
    exact Nat.add_le_add_left (cluster.length_asked_searched_le hosts) _
  | nobody =>
    show (cluster.visited hosts).connections.length ≤ _
    rw [(cluster.visited_greets _).connections, List.length_append]
    exact Nat.add_le_add_left (cluster.asked_sublist hosts).length_le _

theorem releaseAny_connections (session : Option Session) :
    Yields cluster (releaseAny session) fun _ after => after.connections = cluster.connections := by
  cases session with
  | none => exact Yields.pure rfl
  | some session =>
    show Yields cluster (release session) _
    exact Yields.release rfl

/-- An activity that opens at most one connection adds at most one to the sessions that are open. -/
theorem peak_le_of_bind {α β : Type} {act : Activity α} {f : α → Activity β} {site : Site}
    (h : Yields site.cluster act fun a c => c.openSessions ≤ n ∧
      Yields c (f a) fun _ after => after.connections.length ≤ c.connections.length + 1) :
    (act.run site).2.cluster.peak ((act >>= f).run site).2.cluster ≤ n + 1 := by
  obtain ⟨hopen, hnext⟩ := h.of_run
  have hconnections := hnext.of_run
  show (act.run site).2.cluster.openSessions +
    (((f (act.run site).1).run (act.run site).2).2.cluster.connections.length -
      (act.run site).2.cluster.connections.length) ≤ n + 1
  omega

/-- While a list is searched, at most two sessions are open: one at the member that answered first,
and one at the member, or the primary, that is tried just now. -/
theorem at_most_two_while_searching (site : Site) (hosts : List String) :
    Searching site hosts (site.cluster.openSessions + 2) where
  member := by
    rintro front host back rfl
    rw [Site.tried, Site.tried, tryMembers_append]
    refine peak_le_of_bind ((tryMembers_sessions front {} rfl).mono ?_)
    rintro (left | session) c hopen
    · refine ⟨?_, ?_⟩
      · exact Nat.le_trans (Nat.le_of_eq hopen) (Nat.add_le_add_left (held_le_one _) _)
      · have hfits : c.withOpen (site.cluster.openSessions + held left.fallback) = c := by
          rw [← hopen, withOpen_openSessions]
        have htried := @yields_tryMembers_visits c site.cluster.openSessions [host] left
        rw [hfits] at htried
        exact htried.mono fun _ _ h => h.connections_le
    · exact ⟨Nat.le_of_eq hopen, Yields.pure (Nat.le_succ _)⟩
  told := by
    rw [connectMembers]
    split
    · next hempty =>
      obtain rfl : hosts = [] := List.isEmpty_iff.1 hempty
      show site.cluster.openSessions +
        (site.cluster.connections.length - site.cluster.connections.length) ≤ _
      omega
    · refine peak_le_of_bind ((tryMembers_sessions hosts {} rfl).mono ?_)
      rintro (left | session) c hopen
      · refine ⟨?_, ?_⟩
        · exact Nat.le_trans (Nat.le_of_eq hopen) (Nat.add_le_add_left (held_le_one _) _)
        · dsimp only
          split
          · exact Yields.pure (Nat.le_succ _)
          · next primary _ =>
            have hopened := c.length_openSession_connections primary
            have hheld := held_le_one (c.openSession primary).1.toOption
            refine Yields.bind (Yields.openSession ?_)
            split
            · refine Yields.bind ((releaseAny_connections left.fallback).mono fun _ after h => ?_)
              rw [← h] at hopened
              exact Yields.pure (by omega)
            · exact Yields.pure (by omega)
      · exact ⟨Nat.le_of_eq hopen, Yields.pure (Nat.le_succ _)⟩

end Activity

namespace Router

open Activity

variable {cluster : Cluster} {n : Nat}

theorem runAll_sessions (commands : List AdminCommand) (router : Router)
    (h : cluster.openSessions = n + held router.session) :
    Yields cluster (router.runAll commands) fun result after =>
      after.openSessions = n + held result.2.session := by
  induction commands generalizing router cluster with
  | nil => exact Yields.pure h
  | cons command commands ih =>
    refine Yields.bind ((run_sessions router command h).mono ?_)
    rintro ⟨routed, next⟩ between hheld
    exact Yields.bind ((ih next hheld).mono fun _ _ h => Yields.pure h)

/-- The last command of a row is run by the router that is left by the others. -/
theorem run_runAll_concat (router : Router) (commands : List AdminCommand) (command : AdminCommand)
    (site : Site) :
    ((router.runAll (commands ++ [command])).run site).2 =
      ((((router.runAll commands).run site).1.2.run command).run
        ((router.runAll commands).run site).2).2 := by
  induction commands generalizing router site with
  | nil => rfl
  | cons first commands ih => exact ih _ _

theorem runAll_target (commands : List AdminCommand) (router : Router) :
    Yields cluster (router.runAll commands) fun result _ => result.2.target = router.target := by
  induction commands generalizing router cluster with
  | nil => exact Yields.pure rfl
  | cons command commands ih =>
    refine Yields.bind ((yields_run_fate router command).mono ?_)
    rintro ⟨routed, next⟩ between ⟨sent, hfate, -⟩
    exact Yields.bind ((ih next).mono fun _ _ h => Yields.pure (h.trans hfate.target_eq))

/-- A router that has a session does not look for another one. -/
theorem held_add_searches_le (router : Router) :
    held router.session + router.target.openings * router.searches ≤ router.target.openings := by
  have hone : 1 ≤ router.target.openings := by
    cases router.target with
    | single => exact Nat.le_refl 1
    | members hosts => exact Nat.le_add_left 1 hosts.length
  rw [searches]
  split
  · next hsession => rw [hsession, held]; omega
  · have hheld := Cluster.held_le_one router.session
    omega

/-- What one command takes: it is sent once at most, and a session is looked for once at most. -/
theorem run_takes (router : Router) (command : AdminCommand)
    (h : cluster.openSessions = n + held router.session) :
    Yields cluster (router.run command) fun _ after =>
      (∃ sent, sent <+: [command] ∧ router.target.Spent router.searches cluster sent after) ∧
        cluster.peak after ≤ n + router.target.openings := by
  refine (yields_run_fate router command).mono ?_
  rintro _ after ⟨sent, hfate, hspent⟩
  refine ⟨⟨sent, hfate.sent_prefix, hspent⟩, ?_⟩
  have hmost := router.held_add_searches_le
  have hconnections := hspent.connections
  rw [Cluster.peak]
  omega

end Router

/-- Commands are run one after the other through one router.  For some of the first of them the
routing layer is reached, each of them is sent in its turn, and none of them twice; for all others
there is one and the same reason why it is not.  Besides them only the command is sent that was in
flight when the connection was lost.  At a single address nothing else is said, at most one session is
open at any time, and there are at most as many connections as late answers, and one more.

One command takes no search while a session is kept or once the routing layer is lost, and otherwise
one; so the whole row takes as many searches as there are late answers at most, and one more.  Where a
list is searched, no more hellos are said in a search than the list has members, no more connections
are opened than that and one for the primary that they told of, and at most one session more is open
meanwhile.  If nothing interferes and the target can be reached, all commands are answered. -/
theorem router_sends_each_once (site : Site) (target : Target) (commands : List AdminCommand) :
    let router : Router := { target := target }
    let run := (router.runAll commands).run site
    let late := run.1.1.countP Routed.isLate
    (∃ sent, Router.Account target commands run.1.1 sent ∧
      target.Spent (1 + late) site.cluster sent run.2.cluster ∧
      ∀ address, target = .single address →
        run.2.cluster.commands = site.cluster.commands ++ sent ∧
        run.2.cluster.connections.length ≤ site.cluster.connections.length + (1 + late)) ∧
    run.2.cluster.openSessions ≤ site.cluster.openSessions + 1 ∧
    (∀ command,
      let next := ((router.runAll (commands ++ [command])).run site).2.cluster
      (∃ more, more <+: [command] ∧ target.Spent run.1.2.searches run.2.cluster more next) ∧
        run.2.cluster.peak next ≤ site.cluster.openSessions + target.openings) ∧
    (∀ hosts, target = .members hosts → run.1.2.session = none →
      Activity.Searching run.2 hosts (site.cluster.openSessions + 2)) ∧
    (site.cluster.Quiet → site.cluster.Reaches target →
      ∀ routed ∈ run.1.1, ∃ reply, routed = .reply reply) := by
  intro router run late
  have hmanages : router.Manages site.cluster commands run.1.1 run.2.cluster :=
    (router.yields_runAll commands rfl).of_run
  have htarget : run.1.2.target = target := (router.runAll_target commands).of_run
  have hopen : run.2.cluster.openSessions = site.cluster.openSessions + held run.1.2.session :=
    (router.runAll_sessions commands rfl).of_run
  refine ⟨?_, ?_, ?_, ?_, ?_⟩
  · obtain ⟨sent, haccount, hspent⟩ := hmanages
    have hspent : target.Spent (1 + late) site.cluster sent run.2.cluster := hspent
    refine ⟨sent, haccount, hspent, ?_⟩
    rintro address rfl
    have hconnections := hspent.connections
    rw [Target.openings, Nat.one_mul] at hconnections
    exact ⟨hspent.said, hconnections⟩
  · have hheld := Cluster.held_le_one run.1.2.session
    omega
  · intro command next
    have hnext : next = _ := congrArg Site.cluster (router.run_runAll_concat commands command site)
    rw [hnext, ← htarget]
    exact (run.1.2.run_takes command hopen).of_run
  · intro hosts _ hnone
    have hbefore : run.2.cluster.openSessions = site.cluster.openSessions := by
      rw [hopen, hnone]
      rfl
    rw [← hbefore]
    exact Activity.at_most_two_while_searching run.2 hosts
  · intro hquiet hreaches
    exact (router.yields_runAll_undisturbed commands rfl hquiet hreaches).of_run

/-- Through a list more is said and opened than that: both members are asked who the primary is, the
session at the first one is kept while the second one is asked, and the command is sent to a third
one. -/
theorem list_takes_hellos_and_connections :
    let target : Target := .members ["a:27017", "b:27017"]
    let commands : List AdminCommand := [.addShard "d:27018"]
    let site : Site := { cluster := { primary := some "c:27017" } }
    let run := (Router.runAll { target := target } commands).run site
    (¬ ∃ sent, Router.Account target commands run.1.1 sent ∧
      run.2.cluster.commands = site.cluster.commands ++ sent) ∧
    ¬ run.2.cluster.connections.length ≤
      site.cluster.connections.length + (1 + run.1.1.countP Routed.isLate) ∧
    ¬ ((site.tried ["a:27017"]).openSession "b:27017").2.openSessions ≤
      site.cluster.openSessions + 1 := by
  intro target commands site run
  have hsaid : run.2.cluster.commands = [.hello, .hello, .addShard "d:27018"] := by decide +kernel
  have hopened : run.2.cluster.connections = ["a:27017", "b:27017", "c:27017"] := by decide +kernel
  have hlate : run.1.1.countP Routed.isLate = 0 := by decide +kernel
  have hopen : ((site.tried ["a:27017"]).openSession "b:27017").2.openSessions = 2 := by
    decide +kernel
  refine ⟨?_, ?_, ?_⟩
  · rintro ⟨sent, haccount, hcommands⟩
    have hlength := haccount.sent_prefix.length_le
    rw [hsaid] at hcommands
    rw [← hcommands.trans (List.nil_append sent)] at hlength
    exact absurd hlength (by decide)
  · rw [hopened, hlate]
    decide
  · rw [hopen]
    decide

end ClusterConvergence
