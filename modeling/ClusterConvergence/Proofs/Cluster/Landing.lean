import ClusterConvergence.Proofs.Sessions

/-!
# Where a search among members lands

A search through a list of members keeps three things in mind: the session at the member that
answered first, the primary that was told of first, and the last failure.  Whoever remembers nothing
can visit the members instead: at each of them he opens a session, says hello over it and gives it
back (`Cluster.visit`).  The visits do not depend on how many sessions are open meanwhile, so a search
and a row of visits hear the same answers (`Activity.yields_tryMembers_visits`).

So it can be said in terms of the visits alone where a search lands (`Lands`), which members it tries
(`Cluster.searched`), to which of them it says hello (`Cluster.asked`), and what it leaves open.  Main
statement: `member_search_lands`.
-/

namespace ClusterConvergence

/-- What came of a visit to a host: whether a session could be opened, and the answer if one came. -/
structure Greeting where
  host : String
  opened : Bool
  answer : Option Reply

namespace Greeting

/-- Whether the host says that it is the primary. -/
def isPrimary (greeting : Greeting) : Bool :=
  greeting.answer.any fun reply => reply.isWritablePrimary == some true

/-- The primary that the host tells of. -/
def told? (greeting : Greeting) : Option String :=
  greeting.answer.bind Reply.primary

/-- The session that is kept at a host that answers. -/
def session? (greeting : Greeting) : Option Session :=
  greeting.answer.map fun _ => ⟨greeting.host⟩

end Greeting

namespace Cluster

/-! ## Visits -/

/-- Open a session at a host, say hello over it and give it back. -/
def visit (cluster : Cluster) (host : String) : Greeting × Cluster :=
  match cluster.openSession host with
  | (.error _, refused) => (⟨host, false, none⟩, refused)
  | (.ok session, opened) =>
    let (answer, asked) := opened.run session .hello
    (⟨host, true, answer.toOption⟩, asked.release)

/-- What comes of visiting hosts one after the other. -/
def greetings (cluster : Cluster) : List String → List Greeting
  | [] => []
  | host :: hosts => (cluster.visit host).1 :: (cluster.visit host).2.greetings hosts

/-- The cluster after hosts were visited. -/
def visited (cluster : Cluster) : List String → Cluster
  | [] => cluster
  | host :: hosts => (cluster.visit host).2.visited hosts

/-- The members that a search tries: those up to the first one that says that it is the primary. -/
def searched (cluster : Cluster) (hosts : List String) : List String :=
  hosts.take ((cluster.greetings hosts).findIdx Greeting.isPrimary + 1)

/-- The visited hosts to which hello is said: those at which a session can be opened. -/
def asked (cluster : Cluster) (hosts : List String) : List String :=
  ((cluster.greetings hosts).filter Greeting.opened).map Greeting.host

/-- The cluster with another number of open sessions. -/
def withOpen (cluster : Cluster) (count : Nat) : Cluster :=
  { cluster with openSessions := count }

variable {cluster : Cluster} {host : String} {hosts : List String}

@[simp] theorem withOpen_openSessions (cluster : Cluster) :
    cluster.withOpen cluster.openSessions = cluster := rfl

theorem withOpen_release (cluster : Cluster) (n : Nat) :
    (cluster.withOpen (n + 1)).release = cluster.withOpen n := rfl

theorem openSession_withOpen (cluster : Cluster) (host : String) (n : Nat) :
    (cluster.withOpen n).openSession host =
      ((cluster.openSession host).1,
        (cluster.openSession host).2.withOpen
          (n + held (cluster.openSession host).1.toOption)) := by
  have haccepts : (cluster.withOpen n).accepts host = cluster.accepts host := rfl
  rw [openSession, openSession, haccepts]
  split <;> rfl

/-- How many sessions are open makes no difference to a hello. -/
theorem run_hello_withOpen (cluster : Cluster) (session : Session) (n : Nat) :
    (cluster.withOpen n).run session .hello =
      ((cluster.run session .hello).1, (cluster.run session .hello).2.withOpen n) := by
  have hreceive : cluster.receive .hello =
      (cluster.pendingFault .hello, cluster.received .hello) := rfl
  have hreceive' : (cluster.withOpen n).receive .hello =
      (cluster.pendingFault .hello, (cluster.received .hello).withOpen n) := rfl
  rw [run, run, hreceive, hreceive']
  rcases cluster.pendingFault .hello with - | fault
  · rfl
  · cases fault <;> rfl

/-! ### What comes of one visit -/

theorem openSession_eq_ok_iff {session : Session} :
    (cluster.openSession host).1 = .ok session ↔
      cluster.accepts host = true ∧ session = ⟨host⟩ := by
  rw [openSession]
  split
  · next haccepts => simp [haccepts, eq_comm]
  · next haccepts => simp [haccepts]

theorem visit_of_refused {failure : Failure} (h : (cluster.openSession host).1 = .error failure) :
    cluster.visit host = (⟨host, false, none⟩, (cluster.openSession host).2) := by
  rw [visit]
  split
  · next heq => rw [heq]
  · next heq => rw [heq] at h; cases h

theorem visit_of_opened {session : Session} (h : (cluster.openSession host).1 = .ok session) :
    cluster.visit host =
      (⟨host, true, ((cluster.openSession host).2.run session .hello).1.toOption⟩,
        ((cluster.openSession host).2.run session .hello).2.release) := by
  rw [visit]
  split
  · next heq => rw [heq] at h; cases h
  · next heq => rw [heq] at h ⊢; cases h; rfl

/-! ### Which hosts are tried, and which are asked -/

theorem visit_host (cluster : Cluster) (host : String) : (cluster.visit host).1.host = host := by
  rcases hsession : (cluster.openSession host).1 with failure | session
  · rw [visit_of_refused hsession]
  · rw [visit_of_opened hsession]

theorem greetings_map_host (cluster : Cluster) (hosts : List String) :
    (cluster.greetings hosts).map Greeting.host = hosts := by
  induction hosts generalizing cluster with
  | nil => rfl
  | cons host hosts ih => rw [greetings, List.map_cons, visit_host, ih]

/-- Each host is asked in its turn, and at most as often as it is listed. -/
theorem asked_sublist (cluster : Cluster) (hosts : List String) :
    (cluster.asked hosts).Sublist hosts := by
  have hsub : ((cluster.greetings hosts).filter Greeting.opened).Sublist (cluster.greetings hosts) :=
    List.filter_sublist
  have hhosts := hsub.map Greeting.host
  rw [greetings_map_host] at hhosts
  exact hhosts

theorem length_asked_searched_le (cluster : Cluster) (hosts : List String) :
    (cluster.asked (cluster.searched hosts)).length ≤ hosts.length :=
  ((cluster.asked_sublist _).trans (List.take_sublist _ hosts)).length_le

theorem asked_cons (cluster : Cluster) (host : String) (hosts : List String) :
    cluster.asked (host :: hosts) = cluster.asked [host] ++ (cluster.visit host).2.asked hosts := by
  rw [asked, asked, asked, ← List.map_append, ← List.filter_append]
  rfl

theorem searched_cons {greeting : Greeting} {visited : Cluster}
    (hvisit : cluster.visit host = (greeting, visited)) :
    cluster.searched (host :: hosts) =
      host :: if greeting.isPrimary then [] else visited.searched hosts := by
  rw [searched, greetings, hvisit, List.take_succ_cons, List.findIdx_cons]
  dsimp only
  cases greeting.isPrimary <;> rfl

/-- If nobody says that it is the primary, all members are tried. -/
theorem searched_of_nobody (hnobody : (cluster.greetings hosts).find? Greeting.isPrimary = none) :
    cluster.searched hosts = hosts := by
  have hlength := congrArg List.length (cluster.greetings_map_host hosts)
  rw [List.length_map] at hlength
  have hindex : (cluster.greetings hosts).findIdx Greeting.isPrimary = hosts.length := by
    rw [← hlength]
    exact List.findIdx_eq_length_of_false fun greeting hmem =>
      Bool.eq_false_iff.2 (List.find?_eq_none.1 hnobody greeting hmem)
  rw [searched, hindex]
  exact List.take_of_length_le (Nat.le_succ _)

/-! ### What visits cost -/

theorem held_le_one (session : Option Session) : held session ≤ 1 := by
  cases session with
  | none => exact Nat.zero_le 1
  | some => exact Nat.le_refl 1

theorem openSession_connections (cluster : Cluster) (host : String) :
    (cluster.openSession host).2.connections = cluster.connections ++
      ((cluster.openSession host).1.toOption.map Session.address).toList := by
  rw [openSession]
  split
  · rfl
  · exact (List.append_nil _).symm

theorem length_openSession_connections (cluster : Cluster) (host : String) :
    (cluster.openSession host).2.connections.length =
      cluster.connections.length + held (cluster.openSession host).1.toOption := by
  rw [openSession_connections, List.length_append]
  cases (cluster.openSession host).1 <;> rfl

theorem run_connections (cluster : Cluster) (session : Session) (command : AdminCommand) :
    (cluster.run session command).2.connections = cluster.connections := by
  obtain ⟨_, _, _, _, h⟩ := cluster.run_frame session command
  rw [h]
  rfl

/-- A connection was opened to each of these hosts, one after the other, and hello was said over it. -/
structure Greets (before : Cluster) (asked : List String) (after : Cluster) : Prop where
  commands : after.commands = before.commands ++ asked.map fun _ => .hello
  connections : after.connections = before.connections ++ asked

theorem Greets.refl (cluster : Cluster) : Greets cluster [] cluster :=
  ⟨(List.append_nil _).symm, (List.append_nil _).symm⟩

theorem Greets.trans {a b c : Cluster} {asked more : List String} (hab : Greets a asked b)
    (hbc : Greets b more c) : Greets a (asked ++ more) c where
  commands := by
    rw [hbc.commands, hab.commands, List.append_assoc, List.map_append]
  connections := by
    rw [hbc.connections, hab.connections, List.append_assoc]

theorem visit_greets (cluster : Cluster) (host : String) :
    Greets cluster (cluster.asked [host]) (cluster.visit host).2 := by
  have hcommands := cluster.openSession_commands host
  have hconnections := cluster.openSession_connections host
  rcases hsession : (cluster.openSession host).1 with failure | session <;>
    rw [hsession] at hconnections
  · have hasked : cluster.asked [host] = [] := by
      rw [asked, greetings, visit_of_refused hsession]
      rfl
    rw [hasked, visit_of_refused hsession]
    exact ⟨hcommands.trans (List.append_nil _).symm, hconnections⟩
  · have hasked : cluster.asked [host] = [host] := by
      rw [asked, greetings, visit_of_opened hsession]
      rfl
    obtain ⟨-, rfl⟩ := openSession_eq_ok_iff.1 hsession
    rw [hasked, visit_of_opened hsession]
    refine ⟨?_, ?_⟩
    · show ((cluster.openSession host).2.run ⟨host⟩ .hello).2.commands = _
      rw [run_commands, hcommands]
      rfl
    · show ((cluster.openSession host).2.run ⟨host⟩ .hello).2.connections = _
      rw [run_connections, hconnections]
      rfl

theorem visited_greets (cluster : Cluster) (hosts : List String) :
    Greets cluster (cluster.asked hosts) (cluster.visited hosts) := by
  induction hosts generalizing cluster with
  | nil => exact .refl cluster
  | cons host hosts ih =>
    rw [asked_cons]
    exact (cluster.visit_greets host).trans (ih _)

end Cluster

/-! ## A search hears what visits hear -/

namespace Activity

open Cluster

variable {cluster : Cluster} {n : Nat}

theorem yields_releaseAny_withOpen (session : Option Session) :
    Yields (cluster.withOpen (n + held session)) (releaseAny session) fun _ after =>
      after = cluster.withOpen n := by
  cases session with
  | none => exact Yields.pure rfl
  | some session =>
    show Yields _ (release session) _
    exact Yields.release (cluster.withOpen_release n)

/-- How trying members ends, and the cluster that it leaves, told by what visits to them would give.
At any time one session is held at the member that answered first, besides `n` other ones. -/
inductive Tried (cluster : Cluster) (n : Nat) (search : Search) (hosts : List String) :
    Except Search Session → Cluster → Prop where
  /-- The members behind the one that says that it is the primary are not tried. -/
  | primary {greeting : Greeting}
    (hfirst : (cluster.greetings hosts).find? Greeting.isPrimary = some greeting) :
    Tried cluster n search hosts (.ok ⟨greeting.host⟩)
      ((cluster.visited (cluster.searched hosts)).withOpen (n + 1))
  /-- All of them are tried. -/
  | nobody {left : Search}
    (hnobody : (cluster.greetings hosts).find? Greeting.isPrimary = none)
    (hfallback : left.fallback =
      search.fallback.or ((cluster.greetings hosts).findSome? Greeting.session?))
    (hprimary : left.primary =
      search.primary.or ((cluster.greetings hosts).findSome? Greeting.told?)) :
    Tried cluster n search hosts (.error left)
      ((cluster.visited hosts).withOpen (n + held left.fallback))

theorem findSome?_cons_eq_or {α β : Type} (f : α → Option β) (a : α) (l : List α) :
    (a :: l).findSome? f = (f a).or (l.findSome? f) := by
  rw [List.findSome?_cons]
  cases f a <;> rfl

theorem Tried.of_visit {search : Search} {greeting : Greeting} {visited : Cluster} {host : String}
    {hosts : List String} (hvisit : cluster.visit host = (greeting, visited))
    (hprimary : greeting.isPrimary = true) :
    Tried cluster n search (host :: hosts) (.ok ⟨greeting.host⟩) (visited.withOpen (n + 1)) := by
  have hvisited : cluster.visited (cluster.searched (host :: hosts)) = visited := by
    rw [searched_cons hvisit, hprimary, Cluster.visited, hvisit]
    rfl
  rw [← hvisited]
  refine .primary ?_
  rw [greetings, hvisit]
  exact List.find?_cons_of_pos hprimary

/-- A member that is not the primary is remembered, and the others are tried. -/
theorem Tried.cons {search next : Search} {greeting : Greeting} {visited after : Cluster}
    {host : String} {hosts : List String} {result : Except Search Session}
    (hvisit : cluster.visit host = (greeting, visited)) (hother : greeting.isPrimary = false)
    (hfallback : next.fallback = search.fallback.or greeting.session?)
    (hprimary : next.primary = search.primary.or greeting.told?)
    (h : Tried visited n next hosts result after) :
    Tried cluster n search (host :: hosts) result after := by
  have hgreetings : cluster.greetings (host :: hosts) = greeting :: visited.greetings hosts := by
    rw [greetings, hvisit]
  have hfind : (cluster.greetings (host :: hosts)).find? Greeting.isPrimary =
      (visited.greetings hosts).find? Greeting.isPrimary := by
    rw [hgreetings]
    exact List.find?_cons_of_neg (Bool.eq_false_iff.1 hother)
  have hvisited : ∀ hosts, cluster.visited (host :: hosts) = visited.visited hosts := by
    intro hosts
    rw [Cluster.visited, hvisit]
  cases h with
  | primary hfirst =>
    have hsearched : cluster.searched (host :: hosts) = host :: visited.searched hosts := by
      rw [searched_cons hvisit, hother]
      rfl
    rw [← hvisited, ← hsearched]
    exact .primary (hfind.trans hfirst)
  | nobody hnobody hfallback' hprimary' =>
    rw [← hvisited]
    refine .nobody (hfind.trans hnobody) ?_ ?_
    · rw [hfallback', hfallback, hgreetings, findSome?_cons_eq_or, Option.or_assoc]
    · rw [hprimary', hprimary, hgreetings, findSome?_cons_eq_or, Option.or_assoc]

theorem yields_tryMembers_visits (hosts : List String) (search : Search) :
    Yields (cluster.withOpen (n + held search.fallback)) (tryMembers search hosts)
      (Tried cluster n search hosts) := by
  induction hosts generalizing search cluster with
  | nil =>
    exact Yields.pure
      (.nobody rfl Option.or_none.symm Option.or_none.symm)
  | cons host hosts ih =>
    -- the rest of the search, after a visit to a member that is not the primary
    have hrest : ∀ {greeting : Greeting} {visited : Cluster} (next : Search),
        cluster.visit host = (greeting, visited) → greeting.isPrimary = false →
        next.fallback = search.fallback.or greeting.session? →
        next.primary = search.primary.or greeting.told? →
        Yields (visited.withOpen (n + held next.fallback)) (tryMembers next hosts)
          (Tried cluster n search (host :: hosts)) :=
      fun next hvisit hother hfallback hprimary =>
        (ih next).mono fun _ _ h => h.cons hvisit hother hfallback hprimary
    rw [tryMembers]
    refine Yields.bind (Yields.openSession ?_)
    rw [openSession_withOpen]
    rcases hsession : (cluster.openSession host).1 with failure | session
    · have hothers := hrest { search with failure := some failure } (visit_of_refused hsession) rfl
        Option.or_none.symm Option.or_none.symm
      exact Yields.bind (Yields.trace hothers)
    · have hvisit := visit_of_opened hsession
      obtain ⟨-, rfl⟩ := openSession_eq_ok_iff.1 hsession
      refine Yields.bind (Yields.send ?_)
      rw [run_hello_withOpen]
      rcases hanswer : ((cluster.openSession host).2.run ⟨host⟩ .hello).1 with failure | reply <;>
        rw [hanswer] at hvisit
      · have hothers := hrest { search with failure := some failure } hvisit rfl
          Option.or_none.symm Option.or_none.symm
        exact Yields.bind (Yields.release hothers)
      · dsimp only
        split
        · -- the primary takes the place of whoever answered first
          next hwritable =>
          have hheld : n + held search.fallback + held (some (Session.mk host)) =
              n + 1 + held search.fallback := Nat.add_right_comm _ _ _
          refine Yields.bind ?_
          show Yields (Cluster.withOpen _ (n + held search.fallback + held (some ⟨host⟩))) _ _
          rw [hheld]
          refine (yields_releaseAny_withOpen _).mono ?_
          rintro - _ rfl
          exact Yields.pure (.of_visit hvisit (beq_iff_eq.2 hwritable))
        · next hwritable =>
          have hother : Greeting.isPrimary ⟨host, true, some reply⟩ = false :=
            beq_eq_false_iff_ne.2 hwritable
          split
          · next hnone =>
            have hothers := hrest
              { search with fallback := some ⟨host⟩, primary := search.primary.or reply.primary }
              hvisit hother (by rw [hnone]; rfl) rfl
            rw [hnone]
            exact hothers
          · next kept hkept =>
            have hothers := hrest { search with primary := search.primary.or reply.primary } hvisit
              hother (by rw [hkept]; rfl) rfl
            exact Yields.bind (Yields.release hothers)

end Activity

/-! ## Where it lands -/

namespace Cluster

/-- Where a search among members lands, by what visits to all of them would give. -/
inductive Lands (cluster : Cluster) (hosts : List String) : Except Failure Session → Prop where
  /-- At the first member that says that it is the primary. -/
  | atPrimary {greeting : Greeting}
    (hfirst : (cluster.greetings hosts).find? Greeting.isPrimary = some greeting) :
    Lands cluster hosts (.ok ⟨greeting.host⟩)
  /-- At the primary that is told of first, if nobody says it himself and it lets one in. -/
  | atTold {primary : String}
    (hnobody : (cluster.greetings hosts).find? Greeting.isPrimary = none)
    (htold : (cluster.greetings hosts).findSome? Greeting.told? = some primary)
    (haccepts : (cluster.visited hosts).accepts primary = true) :
    Lands cluster hosts (.ok ⟨primary⟩)
  /-- At the first member that answers, if no primary is told of or it lets nobody in. -/
  | atFirst {session : Session}
    (hnobody : (cluster.greetings hosts).find? Greeting.isPrimary = none)
    (hshut : ∀ primary, (cluster.greetings hosts).findSome? Greeting.told? = some primary →
      (cluster.visited hosts).accepts primary = false)
    (hfirst : (cluster.greetings hosts).findSome? Greeting.session? = some session) :
    Lands cluster hosts (.ok session)
  /-- Nowhere, if no member answers. -/
  | nowhere {failure : Failure}
    (hsilent : ∀ greeting ∈ cluster.greetings hosts, greeting.answer = none)
    (hkind : failure.kind = .connectionFailed) :
    Lands cluster hosts (.error failure)

variable {cluster : Cluster} {hosts : List String} {result : Except Failure Session}

/-- A search fails exactly if no member answers. -/
theorem Lands.error_iff (h : Lands cluster hosts result) :
    (∃ failure, result = .error failure) ↔
      ∀ greeting ∈ cluster.greetings hosts, greeting.answer = none := by
  have hloud : ∀ {greeting : Greeting}, greeting ∈ cluster.greetings hosts →
      greeting.answer ≠ none → ¬ ∀ greeting ∈ cluster.greetings hosts, greeting.answer = none :=
    fun hmem hanswer hsilent => hanswer (hsilent _ hmem)
  cases h with
  | @atPrimary greeting hfirst =>
    refine iff_of_false (by rintro ⟨_, ⟨⟩⟩) (hloud (List.mem_of_find?_eq_some hfirst) ?_)
    intro hnone
    have hprimary := List.find?_some hfirst
    rw [Greeting.isPrimary, hnone] at hprimary
    cases hprimary
  | atTold _ htold =>
    obtain ⟨greeting, hmem, htells⟩ := List.exists_of_findSome?_eq_some htold
    refine iff_of_false (by rintro ⟨_, ⟨⟩⟩) (hloud hmem fun hnone => ?_)
    rw [Greeting.told?, hnone] at htells
    cases htells
  | atFirst _ _ hfirst =>
    obtain ⟨greeting, hmem, hsession⟩ := List.exists_of_findSome?_eq_some hfirst
    refine iff_of_false (by rintro ⟨_, ⟨⟩⟩) (hloud hmem fun hnone => ?_)
    rw [Greeting.session?, hnone] at hsession
    cases hsession
  | @nowhere failure hsilent => exact iff_of_true ⟨failure, rfl⟩ hsilent

/-- What a search among members says and opens on its way. -/
structure Asks (before : Cluster) (hosts : List String) (after : Cluster) : Prop where
  /-- Nothing but hello is said, to those of the members it tries that can be opened. -/
  commands : after.commands =
    before.commands ++ (before.asked (before.searched hosts)).map fun _ => .hello
  /-- A connection is opened to each of them, and perhaps one to the primary that they told of. -/
  connections : ∃ told, told <+: ((before.greetings hosts).findSome? Greeting.told?).toList ∧
    after.connections = before.connections ++ before.asked (before.searched hosts) ++ told

theorem Asks.connections_le {after : Cluster} (h : Asks cluster hosts after) :
    after.connections.length ≤ cluster.connections.length + (hosts.length + 1) := by
  obtain ⟨told, htold, hconnections⟩ := h.connections
  have hasked := cluster.length_asked_searched_le hosts
  have hone := Nat.le_trans htold.length_le Option.length_toList_le
  rw [hconnections, List.append_assoc, List.length_append, List.length_append]
  exact Nat.add_le_add_left (Nat.add_le_add hasked hone) _

end Cluster

namespace Activity

open Cluster

variable {cluster : Cluster} {hosts : List String}

theorem asks_of_nobody {told : List String} {after : Cluster}
    (hnobody : (cluster.greetings hosts).find? Greeting.isPrimary = none)
    (htold : told <+: ((cluster.greetings hosts).findSome? Greeting.told?).toList)
    (hcommands : after.commands = (cluster.visited hosts).commands)
    (hconnections : after.connections = (cluster.visited hosts).connections ++ told) :
    Asks cluster hosts after := by
  have hgreets := cluster.visited_greets hosts
  refine ⟨?_, told, htold, ?_⟩ <;> rw [searched_of_nobody hnobody]
  · rw [hcommands, hgreets.commands]
  · rw [hconnections, hgreets.connections]

/-- The primary that the members told of takes one connection more. -/
theorem asks_of_told {primary : String}
    (hnobody : (cluster.greetings hosts).find? Greeting.isPrimary = none)
    (htold : (cluster.greetings hosts).findSome? Greeting.told? = some primary)
    (haccepts : (cluster.visited hosts).accepts primary = true) (n : Nat) :
    Asks cluster hosts (((cluster.visited hosts).openSession primary).2.withOpen n) := by
  have hone : [primary] <+: ((cluster.greetings hosts).findSome? Greeting.told?).toList := by
    rw [htold]
    exact List.prefix_refl _
  have hconnections := (cluster.visited hosts).openSession_connections primary
  rw [openSession_of_accepts haccepts] at hconnections
  exact asks_of_nobody hnobody hone (openSession_commands _ _) hconnections

/-- If no primary can be had, the search lands at the first member that answered, if there is one. -/
theorem lands_of_settle {left : Search}
    (hnobody : (cluster.greetings hosts).find? Greeting.isPrimary = none)
    (hfallback : left.fallback = (cluster.greetings hosts).findSome? Greeting.session?)
    (hshut : ∀ primary, (cluster.greetings hosts).findSome? Greeting.told? = some primary →
      (cluster.visited hosts).accepts primary = false) :
    Lands cluster hosts (settle hosts left) := by
  rw [settle]
  split
  · next session hsession =>
    exact .atFirst hnobody hshut (hfallback.symm.trans hsession)
  · next hnone =>
    refine .nowhere (fun greeting hmem => ?_) rfl
    have hsilent := List.findSome?_eq_none_iff.1 (hfallback.symm.trans hnone) greeting hmem
    exact Option.map_eq_none_iff.1 hsilent

theorem yields_connectMembers_lands (hosts : List String) :
    Yields cluster (connectMembers hosts) fun result after =>
      Lands cluster hosts result ∧ Asks cluster hosts after := by
  rw [connectMembers]
  split
  · next hempty =>
    obtain rfl : hosts = [] := List.isEmpty_iff.1 hempty
    have hsilent := List.forall_mem_nil fun greeting : Greeting => greeting.answer = none
    exact Yields.pure
      ⟨.nowhere hsilent rfl, asks_of_nobody rfl List.nil_prefix rfl (List.append_nil _).symm⟩
  · refine Yields.bind ((yields_tryMembers_visits hosts {}).mono ?_)
    intro result after htried
    cases htried with
    | primary hfirst =>
      have hgreets := cluster.visited_greets (cluster.searched hosts)
      refine Yields.pure ⟨.atPrimary hfirst, hgreets.commands, [], List.nil_prefix, ?_⟩
      exact hgreets.connections.trans (List.append_nil _).symm
    | @nobody left hnobody hfallback hprimary =>
      -- nothing is said or opened any more
      have hasks : ∀ n, Asks cluster hosts ((cluster.visited hosts).withOpen n) := fun n =>
        asks_of_nobody hnobody List.nil_prefix rfl (List.append_nil _).symm
      dsimp only
      split
      · next hnone =>
        refine Yields.pure ⟨lands_of_settle hnobody hfallback ?_, hasks _⟩
        intro primary htold
        cases (hnone.symm.trans hprimary).trans htold
      · next primary hsome =>
        have htold : (cluster.greetings hosts).findSome? Greeting.told? = some primary :=
          hprimary.symm.trans hsome
        refine Yields.bind (Yields.openSession ?_)
        rw [openSession_withOpen]
        split
        · next session hsession =>
          -- whoever answered first is let go
          obtain ⟨haccepts, rfl⟩ := openSession_eq_ok_iff.1 hsession
          have hopened : cluster.openSessions + held left.fallback +
              held ((cluster.visited hosts).openSession primary).1.toOption =
              cluster.openSessions + 1 + held left.fallback := by
            rw [hsession]
            exact Nat.add_right_comm _ _ _
          rw [hopened]
          refine Yields.bind ((yields_releaseAny_withOpen left.fallback).mono ?_)
          rintro - _ rfl
          exact Yields.pure
            ⟨.atTold hnobody htold haccepts, asks_of_told hnobody htold haccepts _⟩
        · next failure hrefused =>
          have hshut : (cluster.visited hosts).accepts primary = false := by
            refine Bool.eq_false_iff.2 fun haccepts => ?_
            cases (openSession_of_accepts haccepts).symm.trans hrefused
          rw [openSession_of_not_accepts hshut]
          refine Yields.pure ⟨lands_of_settle hnobody hfallback ?_, hasks _⟩
          intro other hother
          cases htold.symm.trans hother
          exact hshut

end Activity

/-- A session among members lands at the first member that says that it is the primary; if nobody
does, at the primary that is told of first, provided that it lets one in; and otherwise at the first
member that answers.  The search fails, with the connection, exactly if no member answers.  The
members behind the first one that says that it is the primary are not tried.  Of those that are tried,
the ones at which a session can be opened are asked, each of them once for every time that it is
listed: one hello is said to each, and nothing else, and a connection is opened to each, and at most one
more, to the primary that is told of first.  One more session is left open if one was found, and else
none.  Any faults may hit the hellos, forged replies included. -/
theorem member_search_lands (site : Site) (hosts : List String) :
    let run := (Activity.connect (.members hosts)).run site
    let tried := site.cluster.searched hosts
    let asked := site.cluster.asked tried
    site.cluster.Lands hosts run.1 ∧
    ((∃ failure, run.1 = .error failure) ↔
      ∀ greeting ∈ site.cluster.greetings hosts, greeting.answer = none) ∧
    (asked.Sublist tried ∧
      run.2.cluster.commands = site.cluster.commands ++ (asked.map fun _ => .hello) ∧
      ∃ told, told <+: ((site.cluster.greetings hosts).findSome? Greeting.told?).toList ∧
        run.2.cluster.connections = site.cluster.connections ++ asked ++ told) ∧
    run.2.cluster.openSessions = site.cluster.openSessions + held run.1.toOption := by
  intro run tried asked
  obtain ⟨hlands, hasks⟩ := (Activity.yields_connectMembers_lands hosts).of_run
  exact ⟨hlands, hlands.error_iff,
    ⟨site.cluster.asked_sublist tried, hasks.commands, hasks.connections⟩,
    (Activity.connectMembers_sessions hosts).of_run⟩

/-- Neither a member that lets nobody in is asked, nor one behind the primary. -/
example :
    let cluster : Cluster :=
      { primary := some "p:1", unreachable := Dict.empty.insert "x:1" () }
    cluster.asked (cluster.searched ["x:1", "p:1", "q:1"]) = ["p:1"] := by
  rfl

/-- The sessions at the two members leave none for the primary that they tell of. -/
example :
    ((Activity.connect (.members ["a:1", "b:1"])).run
      { cluster := { primary := some "c:1", budget := some 2 } }).1 = .ok ⟨"a:1"⟩ := by
  rfl

end ClusterConvergence
