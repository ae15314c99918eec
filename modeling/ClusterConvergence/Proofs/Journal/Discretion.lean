import ClusterConvergence.Proofs.Journal.Marks
import ClusterConvergence.Run.Basic

/-!
# Discreet activities

What goes on inside of a phase tells of itself under names of its own, so a phase is the only one to
say that it begins or ends.  There is one exception: when a replica set cannot be converged, that is
told under the name under which its phase fails (`writes_convergeReplicaSet`).
-/

namespace ClusterConvergence

open Activity

/-! ## Looking for a session -/

namespace Activity

theorem discreet_releaseAny (session : Option Session) : Discreet (releaseAny session) := by
  cases session with
  | none => exact Discreet.pure
  | some session => exact Discreet.onCluster

theorem discreet_tryMembers (hosts : List String) (search : Search) :
    Discreet (tryMembers search hosts) := by
  induction hosts generalizing search with
  | nil => exact Discreet.pure
  | cons host hosts ih =>
    refine Discreet.onCluster.bind ?_
    rintro (failure | session)
    · exact (Discreet.trace (by decide)).bind fun _ => ih _
    · refine Discreet.onCluster.bind ?_
      rintro (failure | reply)
      · exact Discreet.onCluster.bind fun _ => ih _
      · dsimp only
        split
        · exact (discreet_releaseAny _).bind fun _ => Discreet.pure
        · split
          · exact ih _
          · exact Discreet.onCluster.bind fun _ => ih _

theorem discreet_connect (target : Target) : Discreet (connect target) := by
  cases target with
  | single address => exact Discreet.onCluster
  | members hosts =>
    show Discreet (connectMembers hosts)
    rw [connectMembers]
    split
    · exact Discreet.pure
    · refine (discreet_tryMembers hosts {}).bind ?_
      rintro (search | session)
      · dsimp only
        split
        · exact Discreet.pure
        · refine Discreet.onCluster.bind ?_
          rintro (failure | session)
          · exact Discreet.pure
          · exact (discreet_releaseAny _).bind fun _ => Discreet.pure
      · exact Discreet.pure

end Activity

/-! ## Converging a replica set -/

namespace Step

variable {α : Type} {session : Session} {name : String} {port : UInt16}
  {live next : ReplicaConfig} {action : ReplicaSetAction} {desired : DesiredMembers}

theorem discreet_settle {outcome : ReplicaSetOutcome} :
    Discreet (settle outcome : Step α).run :=
  Discreet.throw

/-- Nothing comes after an end. -/
theorem discreet_settle_bind {β : Type} {outcome : ReplicaSetOutcome} {f : α → Step β} :
    Discreet (settle outcome >>= f).run :=
  fun site _ => ⟨[], .refl site.journal, rfl⟩

/-- Something is told before the rest. -/
theorem discreet_told {event : Event} {fields : Fields} {act : Step α} (hother : ¬ event.IsMark)
    (h : Discreet act.run) :
    Discreet ((do report event fields; act : Step α)).run :=
  (Discreet.lift (Discreet.report hother)).exceptSeq fun _ => h

theorem discreet_fitting {x : Except Overflow α} : Discreet (fitting x).run := by
  rcases x with - | a
  · exact Discreet.throw
  · exact Discreet.pure

theorem discreet_holding {use : Step α} (h : Discreet use.run) :
    Discreet (holding session use).run :=
  h.bind fun _ => Discreet.onCluster.bind fun _ => Discreet.pure

theorem discreet_unreachable {target reason : String} :
    Discreet (unreachable target reason : Step α).run :=
  discreet_told (by decide) discreet_settle

theorem discreet_openAt (target : Target) : Discreet (openAt target).run := by
  refine (Discreet.lift (discreet_connect target)).exceptSeq ?_
  rintro (failure | session)
  · exact discreet_unreachable
  · exact Discreet.pure

theorem discreet_ask {command : AdminCommand} {pending : Event} (hother : ¬ pending.IsMark) :
    Discreet (ask session command pending name).run := by
  refine (Discreet.lift Discreet.onCluster).exceptSeq ?_
  rintro (failure | reply)
  · dsimp only
    split
    · exact discreet_told hother discreet_settle
    · exact discreet_unreachable
  · exact Discreet.pure

theorem discreet_fetch : Discreet (fetch session name).run := by
  refine (discreet_ask (by decide)).exceptSeq fun reply => ?_
  cases reply.isOk with
  | false => exact discreet_settle_bind
  | true =>
    simp only [Bool.not_true, Bool.false_eq_true, if_false]
    split
    · exact discreet_settle
    · split
      · exact Discreet.pure
      · exact discreet_settle

theorem discreet_initiateOrFetch {members : List Member} :
    Discreet (initiateOrFetch session name members).run := by
  refine (discreet_ask (by decide)).exceptSeq fun reply => ?_
  split
  · exact discreet_told (by decide) Discreet.pure
  · split
    · exact discreet_fetch.exceptSeq fun _ => Discreet.pure
    · exact discreet_settle

theorem discreet_readBack {lost : Failure} :
    Discreet (readBack session next action lost).run := by
  refine (Discreet.lift Discreet.onCluster).exceptSeq ?_
  rintro (failure | reply)
  · exact discreet_settle
  · dsimp only
    split
    · split
      · exact discreet_told (by decide) Discreet.pure
      · exact discreet_settle
    · exact discreet_settle

theorem discreet_verify {lost : Failure} : Discreet (verify port next action lost).run := by
  refine (Discreet.lift (discreet_connect _)).exceptSeq ?_
  rintro (failure | session)
  · exact discreet_settle
  · exact discreet_holding discreet_readBack

theorem discreet_submit : Discreet (submit session next action).run := by
  refine (Discreet.lift Discreet.onCluster).exceptSeq ?_
  rintro (failure | reply)
  · dsimp only
    split
    · exact discreet_told (by decide) discreet_settle
    · exact Discreet.pure
  · dsimp only
    split
    · exact discreet_told (by decide) Discreet.pure
    · exact discreet_settle

theorem discreet_reconfigure : Discreet (reconfigure port live next action).run := by
  refine discreet_fitting.exceptSeq fun follows => ?_
  cases follows with
  | false => exact discreet_settle_bind
  | true =>
    refine (discreet_openAt _).exceptSeq fun session => ?_
    refine (discreet_holding discreet_submit).exceptSeq ?_
    rintro (lost | outcome)
    · exact discreet_verify
    · exact Discreet.pure

theorem discreet_keep : Discreet (keep live name).run :=
  discreet_told (by decide) Discreet.pure

theorem discreet_adjust : Discreet (adjust port name desired live).run := by
  rw [adjust]
  split
  · exact discreet_keep
  · rw [migrate]
    split
    · exact Discreet.throw
    · exact discreet_settle
    · exact discreet_told (by decide) discreet_reconfigure
  · refine discreet_fitting.exceptSeq fun prepared => ?_
    dsimp only
    split
    · exact discreet_keep
    · exact discreet_told (by decide) discreet_reconfigure

theorem discreet_converge : Discreet (converge port name desired).run := by
  refine (discreet_openAt _).exceptSeq fun session => ?_
  refine (discreet_holding discreet_initiateOrFetch).exceptSeq ?_
  rintro (- | live)
  · exact Discreet.pure
  · exact discreet_adjust

end Step

/-- The marks of converging a replica set: a failed outcome is told like the failure of a phase. -/
def ReplicaSetOutcome.marks (outcome : ReplicaSetOutcome) : List String :=
  if outcome.isFailed then ["REPLICA_SET_FAILED"] else []

theorem writes_convergeReplicaSet (port : UInt16) (solo : Bool) (name : String)
    (candidates : List Node) :
    Writes (convergeReplicaSet port solo name candidates).run fun result marks =>
      match result with
      | .ok outcome => marks = outcome.marks
      | .error _ => marks = [] := by
  rw [convergeReplicaSet]
  split
  · refine (Discreet.lift (Discreet.report (by decide))).exceptBind (fun _ => ?_) fun _ => rfl
    cases solo with
    | false => exact Writes.pure rfl
    | true => exact fun site _ => ⟨[], .refl site.journal, rfl⟩
  · refine (Discreet.lift (Discreet.report (by decide))).exceptBind (fun _ => ?_) fun _ => rfl
    refine (Discreet.lift Step.discreet_converge).exceptBind ?_ fun _ => rfl
    rintro ((outcome | -) | outcome)
    case error.overflow => exact Writes.pure rfl
    -- whichever way there is an outcome, only a failure is told
    all_goals
      cases outcome with
      | failed reason =>
        exact Writes.exceptBind (Writes.lift (Writes.report (by decide) (Writes.pure rfl)))
      | configCurrent | pendingConvergence | connectionFailed | noMembersFound =>
        exact Writes.pure rfl

/-! ## The routing layer -/

namespace Item

theorem not_isMark_of_event? {item : Item} {status : ItemStatus} {event : Event}
    (h : item.event? status = some event) : ¬ event.IsMark := by
  cases item <;> cases status <;> cases h <;> decide

theorem discreet_settle (item : Item) (routed : Routed) : Discreet (item.settle routed) := by
  rw [settle]
  dsimp only
  split
  · next event hevent =>
    exact (Discreet.report (not_isMark_of_event? hevent)).bind fun _ => Discreet.pure
  · exact Discreet.pure

end Item

namespace Router

theorem discreet_abandon (router : Router) (reason : String) : Discreet (router.abandon reason) :=
  (Discreet.report (by decide)).bind fun _ => Discreet.pure

theorem discreet_sendOver (router : Router) (session : Session) (command : AdminCommand) :
    Discreet (router.sendOver session command) := by
  refine Discreet.onCluster.bind ?_
  rintro (failure | reply)
  · refine Discreet.onCluster.bind fun _ => ?_
    split
    · exact Discreet.pure
    · exact discreet_abandon _ _
  · exact Discreet.pure

theorem discreet_run (router : Router) (command : AdminCommand) :
    Discreet (router.run command) := by
  rw [run]
  split
  · exact Discreet.pure
  · exact discreet_sendOver _ _ _
  · refine (discreet_connect _).bind ?_
    rintro (failure | session)
    · exact discreet_abandon _ _
    · exact discreet_sendOver _ _ _

theorem discreet_submit (items : List Item) (router : Router) : Discreet (router.submit items) := by
  induction items generalizing router with
  | nil => exact Discreet.pure
  | cons item items ih =>
    refine (discreet_run router item.command).bind fun routed => ?_
    refine (Item.discreet_settle item routed.1).bind fun outcome => ?_
    exact (ih routed.2).bind fun _ => Discreet.pure

end Router

theorem discreet_submitItems (target : Target) (items : List Item) :
    Discreet (submitItems target items) :=
  (Router.discreet_submit items { target := target }).bind fun routed =>
    (discreet_releaseAny routed.2.session).bind fun _ => Discreet.pure

theorem discreet_registerShards (target : Target) (nodes : List Node) :
    Discreet (registerShards target nodes) :=
  (Discreet.report (by decide)).bind fun _ => discreet_submitItems target _

theorem discreet_shardCollections (target : Target) (collections : Dict String) :
    Discreet (shardCollections target collections).run := by
  rw [shardCollections]
  rcases ShardedCollection.parseAll collections with cause | parsed
  · exact Discreet.throw
  · exact Discreet.pure.exceptSeq fun _ => Discreet.lift (discreet_submitItems target _)

end ClusterConvergence
