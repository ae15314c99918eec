import Mathlib.Data.List.Nodup
import ClusterConvergence.Proofs.Sharding.Routing
import ClusterConvergence.Sharding.Convergence

/-!
# Shards stay registered

The routing layer lists a shard once: to register it adds it at the end of the list, or is refused
because it is there.  A run learns which of the two it was from the reply, and may learn nothing at
all; `Registers` says what a status is worth.  `Registrations` is the same for a list of outcomes, and
everything that is claimed of a run is read off it.

Main statement: `registers_and_stays`.
-/

namespace ClusterConvergence

open Activity

/-! ## One shard -/

theorem ItemStatus.isSuccess_iff {status : ItemStatus} :
    status.isSuccess = true ↔ status = .applied ∨ status = .alreadyApplied := by
  cases status <;> decide

/-- The reason that the routing layer gives, in letters of any case, says that the shard exists. -/
theorem Reply.reports_alreadyExists (shard : String) (code : Option Int32) :
    (failure ("shard '" ++ shard ++ "' " ++ alreadyExists) code).reports alreadyExists = true := by
  rw [reports, isOk_failure]
  show occursIn alreadyExists.toList
    (("shard '" ++ shard ++ "' " ++ alreadyExists).toList.map Char.toLower) = true
  have hlower : alreadyExists.toList.map Char.toLower = alreadyExists.toList := by decide
  rw [occursIn_iff, String.toList_append, List.map_append, hlower]
  exact (List.suffix_append _ _).isInfix

namespace Cluster

variable {cluster : Cluster} {session : Session} {shard : String}

/-- A shard is added at the end of the list unless it is in it. -/
theorem addShard_cases (cluster : Cluster) (shard : String) :
    (shard ∉ cluster.shards ∧ (cluster.addShard shard).1.isOk = true ∧
      (cluster.addShard shard).2.shards = cluster.shards ++ [shard]) ∨
    (shard ∈ cluster.shards ∧ (cluster.addShard shard).1.isOk = false ∧
      (cluster.addShard shard).1.reports Reply.alreadyExists = true ∧
      (cluster.addShard shard).2 = cluster) := by
  rw [addShard]
  by_cases hmem : shard ∈ cluster.shards
  · rw [if_pos (List.contains_iff_mem.2 hmem)]
    exact Or.inr ⟨hmem, Reply.isOk_failure _ _, Reply.reports_alreadyExists _ _, rfl⟩
  · rw [if_neg (mt List.contains_iff_mem.1 hmem)]
    exact Or.inl ⟨hmem, Reply.isOk_success, rfl⟩

/-- All that a command can do to the list of shards. -/
theorem run_addShard_shards (cluster : Cluster) (session : Session) (shard : String) :
    (cluster.run session (.addShard shard)).2.shards = cluster.shards ∨
    (shard ∉ cluster.shards ∧
      (cluster.run session (.addShard shard)).2.shards = cluster.shards ++ [shard]) := by
  cases hcarried : cluster.carriesOut session (.addShard shard) with
  | false =>
    rw [run_of_not_carriesOut hcarried]
    exact Or.inl rfl
  | true =>
    rw [run_of_carriesOut hcarried]
    rcases (cluster.received (.addShard shard)).addShard_cases shard with
      ⟨hnew, -, hadded⟩ | ⟨-, -, -, hsame⟩
    · exact Or.inr ⟨hnew, hadded⟩
    · rw [apply, hsame]
      exact Or.inl rfl

/-- Where replies are not forged, the reply tells whether the shard was added now or before. -/
theorem run_addShard_of_reply {reply : Reply} (hforges : ¬ cluster.Forges "addShard")
    (hrun : (cluster.run session (.addShard shard)).1 = .ok reply) :
    (reply.isOk = true ∧ shard ∉ cluster.shards ∧
      (cluster.run session (.addShard shard)).2.shards = cluster.shards ++ [shard]) ∨
    (reply.isOk = false ∧ reply.reports Reply.alreadyExists = true ∧ shard ∈ cluster.shards ∧
      (cluster.run session (.addShard shard)).2.shards = cluster.shards) := by
  rcases cluster.run_cases session (.addShard shard) with ⟨-, hc⟩ | ⟨reply', hfault, -⟩ |
    ⟨fault, failure, -, -, hc⟩
  · rw [hc] at hrun ⊢
    cases hrun
    rcases (cluster.received (.addShard shard)).addShard_cases shard with
      ⟨hnew, hok, hadded⟩ | ⟨hmem, hrefused, hreports, hsame⟩
    · exact Or.inl ⟨hok, hnew, hadded⟩
    · refine Or.inr ⟨hrefused, hreports, hmem, ?_⟩
      rw [apply, hsame]
      rfl
  · exact absurd ⟨reply', mem_of_takeFault hfault⟩ hforges
  · rw [hc] at hrun
    cases hrun

end Cluster

/-- What a status says of the list of shards, before and after the shard was submitted. -/
inductive Registers (shard : String) (shards : List String) : ItemStatus → List String → Prop where
  /-- The shard was added. -/
  | added (hnew : shard ∉ shards) : Registers shard shards .applied (shards ++ [shard])
  /-- The shard was there. -/
  | found (hmem : shard ∈ shards) : Registers shard shards .alreadyApplied shards
  /-- Nothing is known, and nothing was changed. -/
  | untouched {status : ItemStatus} (h : status = .pending ∨ status = .connectionFailed) :
    Registers shard shards status shards
  /-- Nothing is known, and yet the shard was added. -/
  | unheard {status : ItemStatus} (h : status = .pending ∨ status = .connectionFailed)
    (hnew : shard ∉ shards) : Registers shard shards status (shards ++ [shard])

namespace Registers

variable {shard : String} {shards next : List String} {status : ItemStatus}

theorem isPrefix (h : Registers shard shards status next) : shards <+: next := by
  cases h with
  | added | unheard => exact List.prefix_append shards [shard]
  | found | untouched => exact List.prefix_refl shards

theorem nodup (h : Registers shard shards status next) (hnodup : shards.Nodup) : next.Nodup := by
  cases h with
  | added hnew | unheard _ hnew =>
    rw [← List.concat_eq_append]
    exact hnodup.concat hnew
  | found | untouched => exact hnodup

theorem not_failed (h : Registers shard shards status next) : status ≠ .failed := by
  cases h with
  | added | found => decide
  | untouched hstatus | unheard hstatus => rcases hstatus with rfl | rfl <;> decide

theorem not_mem_of_applied (h : Registers shard shards status next) (hstatus : status = .applied) :
    shard ∉ shards := by
  subst hstatus
  cases h with
  | added hnew => exact hnew
  | untouched h | unheard h => rcases h with h | h <;> cases h

theorem mem_of_isSuccess (h : Registers shard shards status next)
    (hstatus : status.isSuccess = true) : shard ∈ next := by
  cases h with
  | added => exact List.mem_concat_self
  | found hmem => exact hmem
  | untouched h | unheard h => rcases h with rfl | rfl <;> cases hstatus

/-- A shard that is listed is not added again. -/
theorem eq_of_mem (h : Registers shard shards status next) (hmem : shard ∈ shards) :
    next = shards := by
  cases h with
  | added hnew | unheard _ hnew => exact absurd hmem hnew
  | found | untouched => rfl

end Registers

/-- Where replies are not forged, the status of a shard says what it is meant to say. -/
theorem Router.Handles.registers {router next : Router} {before after : Cluster} {shard : String}
    {routed : Routed} (h : Handles router (.addShard shard) before routed next after)
    (hforges : ¬ before.Forges "addShard") :
    Registers shard before.shards ((Item.shard shard).outcome routed).status after.shards := by
  -- whatever became of a command without an answer, the list shows it
  have hlost : ∀ {reached : Cluster} {session : Session} {status : ItemStatus},
      Sought router.target before reached → status = .pending ∨ status = .connectionFailed →
      Registers shard before.shards status
        (reached.run session (.addShard shard)).2.release.shards := by
    intro reached session status hsought hstatus
    rw [← hsought.shards]
    show Registers shard reached.shards status (reached.run session (.addShard shard)).2.shards
    rcases reached.run_addShard_shards session shard with hsame | ⟨hnew, hadded⟩
    · rw [hsame]
      exact .untouched hstatus
    · rw [hadded]
      exact .unheard hstatus hnew
  cases h with
  | skipped => exact .untouched (Or.inr rfl)
  | refused _ hsought =>
    rw [hsought.shards]
    exact .untouched (Or.inr rfl)
  | answered _ hsought hrun =>
    rw [← hsought.shards]
    rcases Cluster.run_addShard_of_reply (mt hsought.forges hforges) hrun with
      ⟨hok, hnew, hadded⟩ | ⟨hrefused, hreports, hmem, hsame⟩
    · rw [hadded, Item.outcome, if_pos hok]
      exact .added hnew
    · rw [hsame, Item.outcome, hrefused, Item.marker, if_pos hreports]
      exact .found hmem
  | late _ hsought _ => exact hlost hsought (Or.inl rfl)
  | dropped _ hsought _ => exact hlost hsought (Or.inr rfl)

/-! ## Many shards -/

/-- The outcomes of shards that were submitted one after the other, with the list of shards before and
after. -/
inductive Registrations : List String → List ItemOutcome → List String → Prop where
  | done (shards : List String) : Registrations shards [] shards
  | next {shard : String} {shards next last : List String} {outcome : ItemOutcome}
    {outcomes : List ItemOutcome} (hitem : outcome.item = .shard shard)
    (hhead : Registers shard shards outcome.status next)
    (htail : Registrations next outcomes last) : Registrations shards (outcome :: outcomes) last

namespace Registrations

variable {shards last : List String} {outcomes : List ItemOutcome}

theorem isPrefix (h : Registrations shards outcomes last) : shards <+: last := by
  induction h with
  | done => exact List.prefix_refl _
  | next _ hhead _ ih => exact hhead.isPrefix.trans ih

theorem nodup (h : Registrations shards outcomes last) (hnodup : shards.Nodup) : last.Nodup := by
  induction h with
  | done => exact hnodup
  | next _ hhead _ ih => exact ih (hhead.nodup hnodup)

theorem not_failed (h : Registrations shards outcomes last) :
    ∀ outcome ∈ outcomes, outcome.status ≠ .failed := by
  induction h with
  | done => exact List.forall_mem_nil _
  | next _ hhead _ ih => exact List.forall_mem_cons.2 ⟨hhead.not_failed, ih⟩

theorem not_mem_of_applied (h : Registrations shards outcomes last) :
    ∀ outcome ∈ outcomes, outcome.status = .applied → outcome.item.name ∉ shards := by
  induction h with
  | done => exact List.forall_mem_nil _
  | next hitem hhead _ ih =>
    refine List.forall_mem_cons.2 ⟨fun happlied => ?_, fun outcome hmem happlied => ?_⟩
    · rw [hitem]
      exact hhead.not_mem_of_applied happlied
    · exact mt (fun h => hhead.isPrefix.subset h) (ih outcome hmem happlied)

theorem mem_of_isSuccess (h : Registrations shards outcomes last) :
    ∀ outcome ∈ outcomes, outcome.status.isSuccess = true → outcome.item.name ∈ last := by
  induction h with
  | done => exact List.forall_mem_nil _
  | next hitem hhead htail ih =>
    refine List.forall_mem_cons.2 ⟨fun hsuccess => ?_, ih⟩
    rw [hitem]
    exact htail.isPrefix.subset (hhead.mem_of_isSuccess hsuccess)

/-- If all shards are in place, they are all listed. -/
theorem mem_last {specs : List String} (h : Registrations shards outcomes last)
    (hitems : outcomes.map ItemOutcome.item = specs.map Item.shard)
    (hsuccess : ∀ outcome ∈ outcomes, outcome.status.isSuccess = true) :
    ∀ spec ∈ specs, spec ∈ last := by
  intro spec hspec
  have hitem : Item.shard spec ∈ outcomes.map ItemOutcome.item := by
    rw [hitems]
    exact List.mem_map_of_mem hspec
  obtain ⟨outcome, hmem, heq⟩ := List.mem_map.1 hitem
  have hlisted := h.mem_of_isSuccess outcome hmem (hsuccess outcome hmem)
  rwa [heq] at hlisted

/-- Where all shards are listed, the list stays as it is. -/
theorem eq_of_mem (h : Registrations shards outcomes last)
    (hmem : ∀ outcome ∈ outcomes, outcome.item.name ∈ shards) : last = shards := by
  induction h with
  | done => rfl
  | next hitem hhead _ ih =>
    obtain ⟨hfirst, hrest⟩ := List.forall_mem_cons.1 hmem
    rw [hitem] at hfirst
    rw [hhead.eq_of_mem hfirst] at ih
    exact ih hrest

end Registrations

theorem Router.Routing.registrations {router last : Router} {before after : Cluster}
    {handled : List (Item × Routed)} (h : Routing router before handled last after)
    (hshards : ∀ e ∈ handled, ∃ shard, e.1 = .shard shard)
    (hforges : ¬ before.Forges "addShard") :
    Registrations before.shards (handled.map fun e => e.1.outcome e.2) after.shards := by
  induction h with
  | done => exact .done _
  | next hhead _ ih =>
    obtain ⟨⟨shard, rfl⟩, hrest⟩ := List.forall_mem_cons.1 hshards
    refine .next (Item.item_outcome _ _) (hhead.registers hforges) (ih hrest ?_)
    exact mt hhead.forges hforges

/-! ## Whole runs -/

/-- What comes of registering the shards that nodes make up. -/
theorem yields_registerShards {cluster : Cluster} (target : Target) (nodes : List Node)
    (hforges : ¬ cluster.Forges "addShard") :
    Yields cluster (registerShards target nodes) fun outcomes after =>
      outcomes.map ItemOutcome.item = ((ShardSpec.ofNodes nodes).map ShardSpec.text).map .shard ∧
        Registrations cluster.shards outcomes after.shards ∧
        (cluster.Quiet → cluster.Reaches target →
          (∀ outcome ∈ outcomes, outcome.status.isSuccess = true) ∧
            after.Quiet ∧ after.Reaches target) := by
  refine Yields.bind (Yields.report ((yields_submitItems target _).mono ?_))
  rintro outcomes after ⟨handled, router, left, hitems, rfl, hrouting, hclosed⟩
  have hshards : ∀ e ∈ handled, ∃ shard, e.1 = .shard shard := by
    intro e hmem
    have hitem := List.mem_map_of_mem (f := Prod.fst) hmem
    rw [hitems] at hitem
    obtain ⟨spec, -, hspec⟩ := List.mem_map.1 hitem
    exact ⟨spec.text, hspec.symm⟩
  have hregistrations := hrouting.registrations hshards hforges
  rw [← hclosed.shards] at hregistrations
  refine ⟨?_, hregistrations, fun hquiet hreaches => ?_⟩
  · rw [outcome_items, hitems, List.map_map]
    rfl
  · obtain ⟨hreplies, hquiet', hreaches'⟩ := hrouting.undisturbed rfl hquiet hreaches
    refine ⟨fun outcome hmem => ?_, hclosed.quiet hquiet', hreaches'.congr hclosed.unreachable⟩
    obtain ⟨e, he, rfl⟩ := List.mem_map.1 hmem
    obtain ⟨reply, hreply⟩ := hreplies e he
    have hfailed := hregistrations.not_failed _ hmem
    rw [hreply] at hfailed ⊢
    exact (e.1.isSuccess_or_failed reply).resolve_right hfailed

/-- Registering shards keeps the list of shards in order: it grows at its end, and no shard is in it
twice.  There is one outcome for each shard, in their order, and none of them is a failure.  A shard
that was applied was not listed before; whatever was applied now or before is listed afterwards.  This
holds for any faults except forged replies.

Once nothing interferes any more, the next run brings all shards into the list, and the run after it
finds them there and changes nothing. -/
theorem registers_and_stays (target : Target) (nodes : List Node) (site : Site)
    (hnodup : site.cluster.shards.Nodup) (hforges : ¬ site.cluster.Forges "addShard") :
    let specs := (ShardSpec.ofNodes nodes).map ShardSpec.text
    let first := (registerShards target nodes).run site
    let registered := first.2.cluster.shards
    first.1.map ItemOutcome.item = specs.map Item.shard ∧
    (∀ outcome ∈ first.1, outcome.status ≠ .failed) ∧
    (∀ outcome ∈ first.1, outcome.status.isSuccess = true → outcome.item.name ∈ registered) ∧
    (∀ outcome ∈ first.1, outcome.status = .applied → outcome.item.name ∉ site.cluster.shards) ∧
    site.cluster.shards <+: registered ∧ registered.Nodup ∧
    ∀ again : Site, again.cluster.shards = registered → again.cluster.Quiet →
      again.cluster.Reaches target →
      let second := (registerShards target nodes).run again
      let third := (registerShards target nodes).run second.2
      second.1.map ItemOutcome.item = specs.map Item.shard ∧
      (∀ outcome ∈ second.1, outcome.status.isSuccess = true) ∧
      (∀ spec ∈ specs, second.2.cluster.shards.count spec = 1) ∧
      third.1.map ItemOutcome.item = specs.map Item.shard ∧
      (∀ outcome ∈ third.1, outcome.status = .alreadyApplied) ∧
      third.2.cluster.shards = second.2.cluster.shards := by
  intro specs first registered
  obtain ⟨hitems, hfirst, -⟩ := (yields_registerShards target nodes hforges).of_run
  have hregistered : registered.Nodup := hfirst.nodup hnodup
  refine ⟨hitems, hfirst.not_failed, hfirst.mem_of_isSuccess, hfirst.not_mem_of_applied,
    hfirst.isPrefix, hregistered, ?_⟩
  intro again hshards hquiet hreaches second third
  obtain ⟨hitems₂, hsecond, hcalm₂⟩ :=
    (yields_registerShards target nodes (hquiet.not_forges _)).of_run
  obtain ⟨hsuccess₂, hquiet₂, hreaches₂⟩ := hcalm₂ hquiet hreaches
  obtain ⟨hitems₃, hthird, hcalm₃⟩ :=
    (yields_registerShards target nodes (hquiet₂.not_forges _)).of_run
  obtain ⟨hsuccess₃, -, -⟩ := hcalm₃ hquiet₂ hreaches₂
  have hlisted : ∀ spec ∈ specs, spec ∈ second.2.cluster.shards :=
    hsecond.mem_last hitems₂ hsuccess₂
  have hlisted₃ : ∀ outcome ∈ third.1, outcome.item.name ∈ second.2.cluster.shards := by
    intro outcome hmem
    have hitem := List.mem_map_of_mem (f := ItemOutcome.item) hmem
    rw [hitems₃] at hitem
    obtain ⟨spec, hspec, heq⟩ := List.mem_map.1 hitem
    rw [← heq]
    exact hlisted spec hspec
  refine ⟨hitems₂, hsuccess₂, fun spec hspec => ?_, hitems₃, fun outcome hmem => ?_,
    hthird.eq_of_mem hlisted₃⟩
  · have hnodup₂ : second.2.cluster.shards.Nodup := hsecond.nodup (hshards ▸ hregistered)
    exact List.count_eq_one_of_mem hnodup₂ (hlisted spec hspec)
  · -- it is in place, and it was not added
    rcases ItemStatus.isSuccess_iff.1 (hsuccess₃ outcome hmem) with happlied | halready
    · exact absurd (hlisted₃ outcome hmem) (hthird.not_mem_of_applied outcome hmem happlied)
    · exact halready

/-- The first answer of this routing layer is late, and the shard is added all the same. -/
def lateSite : Site where
  cluster :=
    { shards := ["old.cluster:27018"], faults := [("addShard", .timeoutAfterApply)] }

/-- Two nodes that are shards on their own. -/
def loneShards : List Node :=
  [{ name := "a", fqdn := "a.cluster", ipAddress := "10.0.0.1", roles := [.shard] },
    { name := "b", fqdn := "b.cluster", ipAddress := "10.0.0.2", roles := [.shard] }]

/-- What nobody heard of in the first run is found by the second one. -/
theorem registers_and_stays_after_late_answer :
    let target := Target.localhost 27017
    let first := (registerShards target loneShards).run lateSite
    let second := (registerShards target loneShards).run first.2
    let third := (registerShards target loneShards).run second.2
    lateSite.cluster.shards.Nodup ∧ ¬ lateSite.cluster.Forges "addShard" ∧
      first.2.cluster.Quiet ∧ first.2.cluster.Reaches target ∧
      first.1.map ItemOutcome.status = [.pending, .applied] ∧
      first.2.cluster.shards = ["old.cluster:27018", "a.cluster:27017", "b.cluster:27017"] ∧
      second.1.map ItemOutcome.status = [.alreadyApplied, .alreadyApplied] ∧
      (∀ outcome ∈ third.1, outcome.status = .alreadyApplied) ∧
      third.2.cluster.shards = second.2.cluster.shards := by
  intro target first second third
  have hnodup : lateSite.cluster.shards.Nodup := List.pairwise_singleton _ _
  have hforges : ¬ lateSite.cluster.Forges "addShard" := by
    rintro ⟨reply, hmem⟩
    simp [lateSite] at hmem
  have hspecs : ShardSpec.ofNodes loneShards =
      [.standalone "a.cluster:27017", .standalone "b.cluster:27017"] := by
    have hsorted : Node.sorted loneShards = loneShards := List.mergeSort_of_pairwise (by decide)
    rw [ShardSpec.ofNodes, hsorted]
    decide
  have hruns : (first.2.cluster.faults.isEmpty = true ∧ first.2.cluster.budget = none) ∧
      first.2.cluster.unreachable.contains "localhost:27017" = false ∧
      first.1.map ItemOutcome.status = [.pending, .applied] ∧
      first.2.cluster.shards = ["old.cluster:27018", "a.cluster:27017", "b.cluster:27017"] ∧
      second.1.map ItemOutcome.status = [.alreadyApplied, .alreadyApplied] := by
    simp only [second, first, registerShards, hspecs]
    decide +kernel
  obtain ⟨⟨hfaults, hbudget⟩, hreaches, hfirst, hlisted, hsecond⟩ := hruns
  have hquiet : first.2.cluster.Quiet := ⟨List.isEmpty_iff.1 hfaults, hbudget⟩
  obtain ⟨-, -, -, -, -, -, hagain⟩ := registers_and_stays target loneShards lateSite hnodup hforges
  obtain ⟨-, -, -, -, halready, hsame⟩ := hagain first.2 rfl hquiet hreaches
  exact ⟨hnodup, hforges, hquiet, hreaches, hfirst, hlisted, hsecond, halready, hsame⟩

end ClusterConvergence
