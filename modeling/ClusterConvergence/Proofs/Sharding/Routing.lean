import ClusterConvergence.Proofs.Cluster.Probe
import ClusterConvergence.Sharding.Routing

/-!
# What becomes of items

An item that is submitted meets one of five fates (`Router.Handles`): it is skipped because the
routing layer was lost before, there is no session for it, it is answered, the answer is late, or the
connection is lost.  Items that are submitted one after the other meet theirs in turn
(`Router.Routing`).  Whatever holds of a whole list of items is proved by induction on this relation,
from what holds of one of them.

The first such fact is about what is sent to a routing layer at a single address: the commands of the
items in their order, until the first one that is not sent (`Router.Routing.said`).
-/

namespace ClusterConvergence

open Activity

namespace Router

/-- What may happen to a command at the cluster `before`, given the state of the router: what is
known of it afterwards, the next state of the router, and the cluster that is left. -/
inductive Handles (router : Router) (command : AdminCommand) (before : Cluster) :
    Routed → Router → Cluster → Prop where
  /-- The routing layer was lost before. -/
  | skipped {reason : String} (hlost : router.lost = some reason) :
    Handles router command before (.unreachable reason) router before
  /-- No session could be opened; something must have interfered. -/
  | refused {reached : Cluster} {reason : String} (hlost : router.lost = none)
    (hsought : Sought router.target before reached)
    (hdisturbed : before.Quiet → ¬ before.Reaches router.target) :
    Handles router command before (.unreachable reason)
      { router with session := none, lost := some reason } reached
  /-- There is an answer, and the session is kept. -/
  | answered {reached : Cluster} {session : Session} {reply : Reply} (hlost : router.lost = none)
    (hsought : Sought router.target before reached)
    (hrun : (reached.run session command).1 = .ok reply) :
    Handles router command before (.reply reply) { router with session := some session }
      (reached.run session command).2
  /-- There is no answer in time, and the session is given back. -/
  | late {reached : Cluster} {session : Session} {failure : Failure} (hlost : router.lost = none)
    (hsought : Sought router.target before reached)
    (hrun : (reached.run session command).1 = .error failure) :
    Handles router command before (.timeout failure.message) { router with session := none }
      (reached.run session command).2.release
  /-- The connection is lost, and the routing layer with it. -/
  | dropped {reached : Cluster} {session : Session} {failure : Failure} (hlost : router.lost = none)
    (hsought : Sought router.target before reached)
    (hrun : (reached.run session command).1 = .error failure) :
    Handles router command before (.unreachable failure.message)
      { router with session := none, lost := some failure.message }
      (reached.run session command).2.release

/-- What happens to items that are submitted one after the other. -/
inductive Routing : Router → Cluster → List (Item × Routed) → Router → Cluster → Prop where
  | done (router : Router) (cluster : Cluster) : Routing router cluster [] router cluster
  | next {router next last : Router} {before between after : Cluster} {item : Item}
    {routed : Routed} {rest : List (Item × Routed)}
    (hhead : Handles router item.command before routed next between)
    (htail : Routing next between rest last after) :
    Routing router before ((item, routed) :: rest) last after

variable {cluster before after : Cluster} {router next : Router} {command : AdminCommand}
  {routed : Routed} {handled : List (Item × Routed)}

theorem Handles.target_eq (h : Handles router command before routed next after) :
    next.target = router.target := by
  cases h <;> rfl

/-- A forged reply was arranged before. -/
theorem Handles.forges {name : String} (h : Handles router command before routed next after)
    (hforges : after.Forges name) : before.Forges name := by
  cases h with
  | skipped => exact hforges
  | refused _ hsought => exact hsought.forges hforges
  | answered _ hsought | late _ hsought | dropped _ hsought =>
    exact hsought.forges (Cluster.Forges.of_run hforges)

/-- If nothing interferes and the routing layer can be reached, the command is answered, and it
remains so. -/
theorem Handles.undisturbed (h : Handles router command before routed next after)
    (hlost : router.lost = none) (hquiet : before.Quiet) (hreaches : before.Reaches router.target) :
    (∃ reply, routed = .reply reply) ∧
      next.lost = none ∧ after.Quiet ∧ after.Reaches router.target := by
  cases h with
  | skipped hskip => cases hskip.symm.trans hlost
  | refused _ _ hdisturbed => exact absurd hreaches (hdisturbed hquiet)
  | @answered reached session reply _ hsought _ =>
    have hreached := hreaches.congr hsought.unreachable
    exact ⟨⟨reply, rfl⟩, hlost, (hsought.quiet hquiet).run session command,
      hreached.congr (reached.run_unreachable session command)⟩
  | @late reached session failure _ hsought hrun | @dropped reached session failure _ hsought hrun =>
    cases hrun.symm.trans ((hsought.quiet hquiet).run_fst session command)

theorem Routing.undisturbed {last : Router} (h : Routing router before handled last after)
    (hlost : router.lost = none) (hquiet : before.Quiet) (hreaches : before.Reaches router.target) :
    (∀ e ∈ handled, ∃ reply, e.2 = .reply reply) ∧
      after.Quiet ∧ after.Reaches router.target := by
  induction h with
  | done => exact ⟨List.forall_mem_nil _, hquiet, hreaches⟩
  | next hhead _ ih =>
    obtain ⟨hreply, hnext, hquiet', hreaches'⟩ := hhead.undisturbed hlost hquiet hreaches
    rw [hhead.target_eq] at ih
    obtain ⟨hreplies, hleft⟩ := ih hnext hquiet' hreaches'
    exact ⟨List.forall_mem_cons.2 ⟨hreply, hreplies⟩, hleft⟩

/-! ## The router keeps to them -/

/-- A command that is sent over a session is answered, late or dropped. -/
theorem yields_sendOver (hlost : router.lost = none)
    (hsought : Sought router.target before cluster) (session : Session) (command : AdminCommand) :
    Yields cluster (router.sendOver session command) fun result after =>
      Handles router command before result.1 result.2 after := by
  refine Yields.bind (Yields.send ?_)
  rcases hrun : (cluster.run session command).1 with failure | reply
  · refine Yields.bind (Yields.release ?_)
    split
    · exact Yields.pure (.late hlost hsought hrun)
    · exact Yields.bind (Yields.report (Yields.pure (.dropped hlost hsought hrun)))
  · exact Yields.pure (.answered hlost hsought hrun)

theorem yields_run (router : Router) (command : AdminCommand) :
    Yields cluster (router.run command) fun result after =>
      Handles router command cluster result.1 result.2 after := by
  rw [run]
  split
  · next hlost => exact Yields.pure (.skipped hlost)
  · next session hlost _ => exact yields_sendOver hlost (Sought.refl _ _) session command
  · next hlost _ =>
    refine Yields.bind ((yields_connect router.target).mono ?_)
    rintro (failure | session) reached ⟨hsought, hfinds⟩
    · refine Yields.bind (Yields.report (Yields.pure (.refused hlost hsought ?_)))
      intro hquiet hreaches
      obtain ⟨session, hsession⟩ := hfinds hquiet hreaches
      cases hsession
    · exact yields_sendOver hlost hsought session command

theorem yields_settle (item : Item) (routed : Routed) :
    Yields cluster (item.settle routed) fun outcome after =>
      outcome = item.outcome routed ∧ after = cluster := by
  rw [Item.settle]
  cases item.event? (item.outcome routed).status with
  | none => exact Yields.bind (Yields.pure (Yields.pure ⟨rfl, rfl⟩))
  | some event => exact Yields.bind (Yields.report (Yields.pure ⟨rfl, rfl⟩))

/-- Every item that is submitted is handled, and settled by what happened to its command. -/
theorem yields_submit (items : List Item) (router : Router) :
    Yields cluster (router.submit items) fun result after =>
      ∃ handled, handled.map Prod.fst = items ∧
        result.1 = handled.map (fun h => h.1.outcome h.2) ∧
        Routing router cluster handled result.2 after := by
  induction items generalizing router cluster with
  | nil => exact Yields.pure ⟨[], rfl, rfl, .done router cluster⟩
  | cons item items ih =>
    refine Yields.bind ((yields_run router item.command).mono ?_)
    rintro ⟨routed, next⟩ between hhead
    refine Yields.bind ((yields_settle item routed).mono ?_)
    rintro outcome c ⟨rfl, rfl⟩
    refine Yields.bind ((ih next).mono ?_)
    rintro ⟨outcomes, last⟩ after ⟨rest, rfl, rfl, htail⟩
    exact Yields.pure ⟨(item, routed) :: rest, rfl, rfl, .next hhead htail⟩

end Router

/-- Items are submitted, and then the routing layer is let go. -/
theorem yields_submitItems {cluster : Cluster} (target : Target) (items : List Item) :
    Yields cluster (submitItems target items) fun outcomes after =>
      ∃ handled router left, handled.map Prod.fst = items ∧
        outcomes = handled.map (fun h => h.1.outcome h.2) ∧
        Router.Routing { target := target } cluster handled router left ∧
        Sought target left after := by
  refine Yields.bind ((Router.yields_submit items { target := target }).mono ?_)
  rintro ⟨outcomes, router⟩ left ⟨handled, hitems, houtcomes, hrouting⟩
  refine Yields.bind ((yields_releaseAny router.session target).mono fun _ after hclosed => ?_)
  exact Yields.pure ⟨handled, router, left, hitems, houtcomes, hrouting, hclosed⟩

@[simp] theorem Item.item_outcome (item : Item) (routed : Routed) :
    (item.outcome routed).item = item := by
  cases routed with
  | reply reply =>
    simp only [outcome]
    split
    · rfl
    · split <;> rfl
  | timeout reason => rfl
  | unreachable reason => rfl

/-- An item that is answered is in place, or failed. -/
theorem Item.isSuccess_or_failed (item : Item) (reply : Reply) :
    (item.outcome (.reply reply)).status.isSuccess = true ∨
      (item.outcome (.reply reply)).status = .failed := by
  simp only [outcome]
  split
  · exact Or.inl rfl
  · split
    · exact Or.inl rfl
    · exact Or.inr rfl

/-- There is one outcome for each item that was submitted, in the same order. -/
theorem outcome_items (handled : List (Item × Routed)) :
    (handled.map fun h => h.1.outcome h.2).map ItemOutcome.item = handled.map Prod.fst := by
  simp

/-! ## What is sent to a single address -/

namespace Router

variable {address : String}

/-- A command is sent once, unless the routing layer is lost. -/
theorem Handles.said (h : Handles router command before routed next after)
    (htarget : router.target = .single address) :
    (next.lost.isSome = true ∧ Dialogue before [] after) ∨
      (router.lost = none ∧ ∃ answer, Dialogue before [⟨command, answer⟩] after) := by
  cases h with
  | skipped hlost => exact Or.inl ⟨by simp [hlost], .nil before⟩
  | refused _ hsought => exact Or.inl ⟨rfl, hsought.silent address htarget⟩
  | answered hlost hsought hrun =>
    exact Or.inr ⟨hlost, _, (hsought.silent address htarget).sent hrun⟩
  | late hlost hsought hrun | dropped hlost hsought hrun =>
    exact Or.inr ⟨hlost, _, ((hsought.silent address htarget).sent hrun).released⟩

/-- The commands of the items are sent in their order until one of them is not sent.  After the
routing layer was lost, nothing is. -/
theorem Routing.said {last : Router} (h : Routing router before handled last after)
    (htarget : router.target = .single address) :
    ∃ exchanges, Dialogue before exchanges after ∧
      exchanges.map Exchange.command <+: handled.map (·.1.command) ∧
      (router.lost.isSome = true → exchanges = []) := by
  induction h with
  | done router cluster => exact ⟨[], .nil cluster, List.nil_prefix, fun _ => rfl⟩
  | @next router next last before between after item routed rest hhead _ ih =>
    obtain ⟨later, hlater, hfront, hidle⟩ := ih (hhead.target_eq.trans htarget)
    rcases hhead.said htarget with ⟨hlost, hsilent⟩ | ⟨hlost, answer, hsent⟩
    · rw [hidle hlost] at hlater
      exact ⟨[], hsilent.trans hlater, List.nil_prefix, fun _ => rfl⟩
    · refine ⟨⟨item.command, answer⟩ :: later, hsent.trans hlater, ?_, by simp [hlost]⟩
      exact (List.prefix_cons_inj item.command).2 hfront

end Router

/-- What is sent to submit items at a single address: the commands of some of the first of them. -/
theorem submitItems_said {cluster : Cluster} (address : String) (items : List Item) :
    Yields cluster (submitItems (.single address) items) fun outcomes after =>
      outcomes.map ItemOutcome.item = items ∧
        Said cluster (fun exchanges =>
          exchanges.map Exchange.command <+: items.map Item.command) after := by
  refine (yields_submitItems (.single address) items).mono ?_
  rintro outcomes after ⟨handled, router, left, rfl, rfl, hrouting, hclosed⟩
  obtain ⟨exchanges, hsaid, hfront, -⟩ := hrouting.said rfl
  refine ⟨outcome_items handled, exchanges, ?_, by rwa [List.map_map]⟩
  have hall := hsaid.trans (hclosed.silent address rfl)
  rwa [List.append_nil] at hall

end ClusterConvergence
