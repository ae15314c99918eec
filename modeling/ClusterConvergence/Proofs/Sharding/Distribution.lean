import ClusterConvergence.Proofs.Sessions
import ClusterConvergence.Proofs.Sharding.Collection
import ClusterConvergence.Proofs.Sharding.Registration

/-!
# Collections stay sharded

The routing layer distributes a collection only if its database was enabled before, so a collection
depends on what became of its database.  `Settles` says what the status of one item is worth, and
`Distributions` is the same for a list of outcomes, with one fact more: once the routing layer is
lost, it is lost for all items that come later.

A refusal is told from the others by what its reason says, and the reason holds the name of the
database.  No name that passes the check can be mistaken for a reason, because there is no blank in
it (`Reply.reports_notEnabled`).

Main statement: `distributes_and_stays`.
-/

namespace ClusterConvergence

open Activity

/-! ## The reasons of a refusal -/

theorem toLower_eq_blank {c : Char} (h : c.toLower = ' ') : c = ' ' := by
  delta Char.toLower at h
  split at h
  · next hupper =>
    -- a letter stays a letter
    have hlow : 65 ≤ c.toNat := UInt32.le_iff_toNat_le.1 hupper.1
    have hhigh : c.toNat ≤ 90 := UInt32.le_iff_toNat_le.1 hupper.2
    have hval : (c.toNat + 32) % 4294967296 = 32 := by simpa using congrArg Char.toNat h
    omega
  · exact h

namespace Reply

theorem reports_of_lower {marker : String}
    (hlower : marker.toList.map Char.toLower = marker.toList) (code : Option Int32) :
    (failure marker code).reports marker = true := by
  rw [reports, isOk_failure]
  show occursIn marker.toList (marker.toList.map Char.toLower) = true
  rw [hlower]
  exact occursIn_iff.2 List.infix_rfl

/-- That a database is not enabled does not say that a collection is sharded, unless there is a blank
in the name of the database. -/
theorem reports_notEnabled {database : String} (hblank : ' ' ∉ database.toList)
    (code : Option Int32) :
    (failure ("sharding not enabled for db " ++ database) code).reports alreadySharded = false := by
  have hoccurs : ¬ alreadySharded.toList <:+:
      ("sharding not enabled for db " ++ database).toList.map Char.toLower := by
    rintro ⟨front, back, heq⟩
    have hparts : alreadySharded.toList = "already".toList ++ ' ' :: "sharded".toList := by decide
    rw [String.toList_append, List.map_append, hparts, List.append_assoc, List.append_assoc,
      ← List.append_assoc, List.cons_append] at heq
    rcases List.append_eq_append_iff.1 heq with ⟨a, hfront, -⟩ | ⟨a, -, hback⟩
    · -- the first word would stand in what is said of every database
      have hfirst : "already".toList <:+:
          "sharding not enabled for db ".toList.map Char.toLower := ⟨front, a, hfront.symm⟩
      rw [← occursIn_iff] at hfirst
      revert hfirst
      decide
    · have hmem : ' ' ∈ database.toList.map Char.toLower := by
        rw [hback]
        exact List.mem_append_right _ List.mem_cons_self
      obtain ⟨c, hc, hlower⟩ := List.mem_map.1 hmem
      exact hblank (toLower_eq_blank hlower ▸ hc)
  rw [reports, isOk_failure]
  exact Bool.eq_false_iff.2 (mt occursIn_iff.1 hoccurs)

end Reply

/-! ## What is distributed -/

/-- What the routing layer distributes. -/
structure Distribution where
  databases : NameSet
  collections : Dict (Dict Int32)

/-- What a cluster distributes. -/
def Cluster.distribution (cluster : Cluster) : Distribution :=
  ⟨cluster.databases, cluster.collections⟩

/-- A database, or a collection that cannot be mistaken; a shard is neither. -/
def Item.IsDistributed : Item → Prop
  | .shard _ => False
  | .database _ => True
  | .collection c => ' ' ∉ c.database.toList

namespace Distribution

/-- Whether an item is in place. -/
def Has (d : Distribution) : Item → Prop
  | .shard _ => False
  | .database name => d.databases.contains name = true
  | .collection c => d.collections.contains c.ns = true

/-- Whether an item may be put in place: a collection needs its database. -/
def Admits (d : Distribution) : Item → Prop
  | .collection c => d.databases.contains c.database = true
  | _ => True

/-- The distribution with one more item. -/
def put (d : Distribution) : Item → Distribution
  | .shard _ => d
  | .database name => { d with databases := d.databases.add name }
  | .collection c => { d with collections := d.collections.insert c.ns c.keyDocument }

/-- Nothing is taken away, and no collection gets another key. -/
structure Grows (before after : Distribution) : Prop where
  databases : ∀ name, before.databases.contains name = true → after.databases.contains name = true
  collections : ∀ ns key, before.collections.get? ns = some key → after.collections.get? ns = some key

namespace Grows

variable {a b c : Distribution}

theorem refl (d : Distribution) : Grows d d :=
  ⟨fun _ => id, fun _ _ => id⟩

theorem trans (hab : Grows a b) (hbc : Grows b c) : Grows a c :=
  ⟨fun name h => hbc.databases name (hab.databases name h),
    fun ns key h => hbc.collections ns key (hab.collections ns key h)⟩

theorem has {item : Item} (h : Grows a b) (hhas : a.Has item) : b.Has item := by
  cases item with
  | shard spec => exact hhas
  | database name => exact h.databases name hhas
  | collection c =>
    obtain ⟨key, hkey⟩ := Option.isSome_iff_exists.1 hhas
    exact Option.isSome_iff_exists.2 ⟨key, h.collections c.ns key hkey⟩

theorem admits {item : Item} (h : Grows a b) (hadmits : a.Admits item) : b.Admits item := by
  cases item with
  | collection c => exact h.databases c.database hadmits
  | _ => trivial

theorem enable (d : Distribution) (name : String) :
    Grows d { d with databases := d.databases.add name } := by
  refine ⟨fun other hother => ?_, fun _ _ => id⟩
  rw [NameSet.add, Dict.contains, Dict.get?_insert]
  split
  · rfl
  · exact hother

/-- A new collection disturbs no other one. -/
theorem shard {d : Distribution} {ns : String} (hnew : ¬ d.collections.contains ns = true)
    (key : Dict Int32) : Grows d { d with collections := d.collections.insert ns key } := by
  refine ⟨fun _ => id, fun other key' hkey => ?_⟩
  rw [Dict.get?_insert, if_neg]
  · exact hkey
  · rintro rfl
    exact hnew (Option.isSome_iff_exists.2 ⟨key', hkey⟩)

/-- An item that was not in place disturbs nothing. -/
theorem put {item : Item} (hnew : ¬ a.Has item) : Grows a (a.put item) := by
  cases item with
  | shard spec => exact refl a
  | database name => exact enable a name
  | collection c => exact shard hnew c.keyDocument

end Grows

theorem has_put (d : Distribution) {item : Item} (hitem : item.IsDistributed) :
    (d.put item).Has item := by
  cases item with
  | shard spec => exact hitem
  | database name => simp [put, Has, NameSet.add, Dict.contains]
  | collection c => simp [put, Has, Dict.contains]

end Distribution

/-! ## One item -/

namespace Cluster

variable {cluster : Cluster} {session : Session} {item : Item}

/-- An item is put in place unless it is there; a collection is turned away if its database is not
enabled.  A refusal says which of the two it was. -/
theorem apply_distributes (cluster : Cluster) (address : String) (hitem : item.IsDistributed) :
    (¬ cluster.distribution.Has item ∧ cluster.distribution.Admits item ∧
      (cluster.apply address item.command).1.isOk = true ∧
      (cluster.apply address item.command).2.distribution = cluster.distribution.put item) ∨
    ((cluster.apply address item.command).1.isOk = false ∧
      (cluster.apply address item.command).2 = cluster ∧
      ((cluster.distribution.Has item ∧
          (cluster.apply address item.command).1.reports item.marker = true) ∨
        (¬ cluster.distribution.Admits item ∧
          (cluster.apply address item.command).1.reports item.marker = false))) := by
  cases item with
  | shard spec => exact absurd hitem id
  | database name =>
    rw [Item.command, apply, enableSharding]
    split
    · next hhas =>
      refine Or.inr ⟨Reply.isOk_failure _ _, rfl, Or.inl ⟨hhas, ?_⟩⟩
      exact Reply.reports_of_lower (by decide) _
    · next hnew => exact Or.inl ⟨hnew, trivial, Reply.isOk_success, rfl⟩
  | collection c =>
    rw [Item.command, apply, shardCollection]
    dsimp only
    split
    · next hdb =>
      have hdb : cluster.databases.contains (splitNamespace c.ns).1 = false := by simpa using hdb
      refine Or.inr ⟨Reply.isOk_failure _ _, rfl, Or.inr ⟨?_, Reply.reports_notEnabled hitem _⟩⟩
      exact fun hadmits => Bool.false_ne_true (hdb.symm.trans hadmits)
    · next hdb =>
      have hadmits : cluster.databases.contains (splitNamespace c.ns).1 = true := by
        simpa using hdb
      split
      · next hhas =>
        refine Or.inr ⟨Reply.isOk_failure _ _, rfl, Or.inl ⟨hhas, ?_⟩⟩
        exact Reply.reports_of_lower (by decide) _
      · next hnew => exact Or.inl ⟨hnew, hadmits, Reply.isOk_success, rfl⟩

/-- All that the command of an item can do to the distribution. -/
theorem run_distribution (cluster : Cluster) (session : Session) (hitem : item.IsDistributed) :
    (cluster.run session item.command).2.distribution = cluster.distribution ∨
    (¬ cluster.distribution.Has item ∧ cluster.distribution.Admits item ∧
      (cluster.run session item.command).2.distribution = cluster.distribution.put item) := by
  cases hcarried : cluster.carriesOut session item.command with
  | false =>
    rw [run_of_not_carriesOut hcarried]
    exact Or.inl rfl
  | true =>
    rw [run_of_carriesOut hcarried]
    rcases (cluster.received item.command).apply_distributes session.address hitem with
      ⟨hnew, hadmits, -, hput⟩ | ⟨-, hsame, -⟩
    · exact Or.inr ⟨hnew, hadmits, hput⟩
    · rw [hsame]
      exact Or.inl rfl

/-- Where replies are not forged, the reply tells what became of the item. -/
theorem run_distribution_of_reply {reply : Reply} (hforges : ¬ cluster.Forges item.command.name)
    (hitem : item.IsDistributed)
    (hrun : (cluster.run session item.command).1 = .ok reply) :
    (¬ cluster.distribution.Has item ∧ cluster.distribution.Admits item ∧ reply.isOk = true ∧
      (cluster.run session item.command).2.distribution = cluster.distribution.put item) ∨
    (reply.isOk = false ∧
      (cluster.run session item.command).2 = cluster.received item.command ∧
      ((cluster.distribution.Has item ∧ reply.reports item.marker = true) ∨
        (¬ cluster.distribution.Admits item ∧ reply.reports item.marker = false))) := by
  rcases cluster.run_cases session item.command with ⟨-, hc⟩ | ⟨reply', hfault, -⟩ |
    ⟨fault, failure, -, -, hc⟩
  · rw [hc] at hrun ⊢
    cases hrun
    exact (cluster.received item.command).apply_distributes session.address hitem
  · exact absurd ⟨reply', mem_of_takeFault hfault⟩ hforges
  · rw [hc] at hrun
    cases hrun

/-- Replies to what distributes are not forged. -/
def Truthful (cluster : Cluster) : Prop :=
  ∀ item : Item, item.IsDistributed → ¬ cluster.Forges item.command.name

theorem truthful_of_not_forges (hdatabase : ¬ cluster.Forges "enablesharding")
    (hcollection : ¬ cluster.Forges "shardcollection") : cluster.Truthful := by
  intro item hitem
  cases item with
  | shard spec => exact absurd hitem id
  | database name => exact hdatabase
  | collection c => exact hcollection

end Cluster

/-- What a status says of the distribution, before and after the item was submitted. -/
inductive Settles (item : Item) (before : Distribution) : ItemStatus → Distribution → Prop where
  /-- The item was put in place. -/
  | put (hnew : ¬ before.Has item) (hadmits : before.Admits item) :
    Settles item before .applied (before.put item)
  /-- The item was there. -/
  | found (hhas : before.Has item) : Settles item before .alreadyApplied before
  /-- The database of the collection is not enabled. -/
  | rejected (hnot : ¬ before.Admits item) : Settles item before .failed before
  /-- Nothing is known, and nothing was changed. -/
  | untouched {status : ItemStatus} (h : status = .pending ∨ status = .connectionFailed) :
    Settles item before status before
  /-- Nothing is known, and yet the item was put in place. -/
  | unheard {status : ItemStatus} (h : status = .pending ∨ status = .connectionFailed)
    (hnew : ¬ before.Has item) (hadmits : before.Admits item) :
    Settles item before status (before.put item)

namespace Settles

variable {item : Item} {before after : Distribution} {status : ItemStatus}

theorem grows (h : Settles item before status after) : before.Grows after := by
  cases h with
  | put hnew | unheard _ hnew => exact .put hnew
  | found | rejected | untouched => exact .refl _

/-- Only a database that is not enabled makes an item fail. -/
theorem not_admits_of_failed (h : Settles item before status after) (hfailed : status = .failed) :
    ¬ before.Admits item := by
  subst hfailed
  cases h with
  | rejected hnot => exact hnot
  | untouched h | unheard h => rcases h with h | h <;> cases h

/-- An item is in place afterwards, or nothing is known of it, or it failed. -/
theorem has_or (h : Settles item before status after) (hitem : item.IsDistributed) :
    after.Has item ∨ status = .failed ∨ status = .pending ∨ status = .connectionFailed := by
  cases h with
  | put => exact Or.inl (before.has_put hitem)
  | found hhas => exact Or.inl hhas
  | rejected => exact Or.inr (Or.inl rfl)
  | untouched h | unheard h => exact Or.inr (Or.inr h)

theorem has_of_isSuccess (h : Settles item before status after) (hitem : item.IsDistributed)
    (hsuccess : status.isSuccess = true) : after.Has item := by
  rcases h.has_or hitem with hhas | rfl | rfl | rfl
  · exact hhas
  all_goals cases hsuccess

/-- An item that is in place is not put there again. -/
theorem not_applied_of_has (h : Settles item before status after) (hhas : before.Has item) :
    status ≠ .applied := by
  rintro rfl
  cases h with
  | put hnew => exact hnew hhas
  | untouched h | unheard h => rcases h with h | h <;> cases h

/-- The distribution stays, or it gets this item. -/
theorem eq_or_eq_put (h : Settles item before status after) :
    after = before ∨ (after = before.put item ∧ before.Admits item) := by
  cases h with
  | put _ hadmits | unheard _ _ hadmits => exact Or.inr ⟨rfl, hadmits⟩
  | found | rejected | untouched => exact Or.inl rfl

end Settles

namespace Router

variable {router next : Router} {before after : Cluster} {item : Item} {routed : Routed}

/-- Where replies are not forged, the status of an item says what it is meant to say. -/
theorem Handles.settles (h : Handles router item.command before routed next after)
    (hitem : item.IsDistributed) (htruthful : before.Truthful) :
    Settles item before.distribution (item.outcome routed).status after.distribution := by
  have hreached : ∀ {reached : Cluster}, Sought router.target before reached →
      reached.distribution = before.distribution := fun hsought => by
    rw [Cluster.distribution, hsought.databases, hsought.collections, Cluster.distribution]
  -- whatever became of a command without an answer, the distribution shows it
  have hlost : ∀ {reached : Cluster} {session : Session} {status : ItemStatus},
      Sought router.target before reached → status = .pending ∨ status = .connectionFailed →
      Settles item before.distribution status
        (reached.run session item.command).2.release.distribution := by
    intro reached session status hsought hstatus
    rw [← hreached hsought]
    show Settles item reached.distribution status
      (reached.run session item.command).2.distribution
    rcases reached.run_distribution session hitem with hsame | ⟨hnew, hadmits, hput⟩
    · rw [hsame]
      exact .untouched hstatus
    · rw [hput]
      exact .unheard hstatus hnew hadmits
  cases h with
  | skipped => exact .untouched (Or.inr rfl)
  | refused _ hsought =>
    rw [hreached hsought]
    exact .untouched (Or.inr rfl)
  | answered _ hsought hrun =>
    rw [← hreached hsought]
    rcases Cluster.run_distribution_of_reply (mt hsought.forges (htruthful item hitem)) hitem hrun
      with ⟨hnew, hadmits, hok, hput⟩ |
        ⟨hrefused, hsame, ⟨hhas, hreports⟩ | ⟨hnot, hreports⟩⟩
    · rw [hput, Item.outcome, if_pos hok]
      exact .put hnew hadmits
    · rw [hsame, Item.outcome, hrefused, if_pos hreports]
      exact .found hhas
    · rw [hsame, Item.outcome, hrefused, hreports]
      exact .rejected hnot
  | late _ hsought _ => exact hlost hsought (Or.inl rfl)
  | dropped _ hsought _ => exact hlost hsought (Or.inr rfl)

theorem Handles.truthful (h : Handles router item.command before routed next after)
    (htruthful : before.Truthful) : after.Truthful :=
  fun other hother => mt h.forges (htruthful other hother)

/-- The routing layer is lost when its connection fails. -/
theorem Handles.lost {command : AdminCommand} (h : Handles router command before routed next after)
    (hfailed : (item.outcome routed).status = .connectionFailed) : next.lost.isSome = true := by
  cases h with
  | skipped hlost => exact Option.isSome_iff_exists.2 ⟨_, hlost⟩
  | refused | dropped => rfl
  | @answered _ _ reply =>
    rcases item.isSuccess_or_failed reply with h | h <;> rw [hfailed] at h <;> cases h
  | late => cases hfailed

/-- Once it is lost, nothing is sent any more. -/
theorem Routing.connectionFailed {last : Router} {handled : List (Item × Routed)}
    (h : Routing router before handled last after) (hlost : router.lost.isSome = true) :
    ∀ e ∈ handled, (e.1.outcome e.2).status = .connectionFailed := by
  induction h with
  | done => exact List.forall_mem_nil _
  | @next router _ _ _ _ _ _ _ _ hhead _ ih =>
    obtain ⟨reason, hreason⟩ := Option.isSome_iff_exists.1 hlost
    cases hhead with
    | skipped => exact List.forall_mem_cons.2 ⟨rfl, ih hlost⟩
    | refused hnone | answered hnone | late hnone | dropped hnone =>
      cases hnone.symm.trans hreason

end Router

/-! ## Many items -/

/-- The outcomes of items that were submitted one after the other, with the distribution before and
after. -/
inductive Distributions : Distribution → List ItemOutcome → Distribution → Prop where
  | done (d : Distribution) : Distributions d [] d
  | next {before between after : Distribution} {outcome : ItemOutcome} {rest : List ItemOutcome}
    (hitem : outcome.item.IsDistributed)
    (hhead : Settles outcome.item before outcome.status between)
    (hlost : outcome.status = .connectionFailed → ∀ o ∈ rest, o.status = .connectionFailed)
    (htail : Distributions between rest after) : Distributions before (outcome :: rest) after

namespace Distributions

variable {before after : Distribution} {outcomes : List ItemOutcome}

theorem grows (h : Distributions before outcomes after) : before.Grows after := by
  induction h with
  | done => exact .refl _
  | next _ hhead _ _ ih => exact hhead.grows.trans ih

theorem has_of_isSuccess (h : Distributions before outcomes after) :
    ∀ o ∈ outcomes, o.status.isSuccess = true → after.Has o.item := by
  induction h with
  | done => exact List.forall_mem_nil _
  | next hitem hhead _ htail ih =>
    exact List.forall_mem_cons.2
      ⟨fun hsuccess => htail.grows.has (hhead.has_of_isSuccess hitem hsuccess), ih⟩

/-- What fails was not admitted before either. -/
theorem not_admits_of_failed (h : Distributions before outcomes after) :
    ∀ o ∈ outcomes, o.status = .failed → ¬ before.Admits o.item := by
  induction h with
  | done => exact List.forall_mem_nil _
  | next _ hhead _ _ ih =>
    refine List.forall_mem_cons.2 ⟨hhead.not_admits_of_failed, fun o hmem hfailed => ?_⟩
    exact mt hhead.grows.admits (ih o hmem hfailed)

theorem not_failed_of_database (h : Distributions before outcomes after) {name : String} :
    ∀ o ∈ outcomes, o.item = .database name → o.status ≠ .failed := by
  intro o hmem hitem hfailed
  refine h.not_admits_of_failed o hmem hfailed ?_
  rw [hitem]
  trivial

/-- A collection fails only behind a database of which nothing is known; the routing layer cannot have
been lost there, or the collection would not have been sent. -/
theorem pending_of_failed (h : Distributions before outcomes after) :
    outcomes.Pairwise fun first later => ∀ c, first.item = .database c.database →
      later.item = .collection c → later.status = .failed → first.status = .pending := by
  induction h with
  | done => exact List.Pairwise.nil
  | next hitem hhead hlost htail ih =>
    refine List.pairwise_cons.2 ⟨fun later hmem c hfirst hlater hfailed => ?_, ih⟩
    have hnot := htail.not_admits_of_failed later hmem hfailed
    rw [hlater] at hnot
    -- had the database been put in place or found, the collection would have been admitted
    rcases hhead.has_or hitem with hhas | hstatus | hstatus | hstatus
    · rw [hfirst] at hhas
      exact absurd hhas hnot
    · have hdatabase := hhead.not_admits_of_failed hstatus
      rw [hfirst] at hdatabase
      exact absurd trivial hdatabase
    · exact hstatus
    · cases hfailed.symm.trans (hlost hstatus later hmem)

/-- A database that came in was submitted. -/
theorem of_new_database (h : Distributions before outcomes after) {name : String}
    (hnew : before.databases.contains name = false)
    (hin : after.databases.contains name = true) :
    ∃ o ∈ outcomes, o.item = .database name := by
  induction h with
  | done => cases hnew.symm.trans hin
  | @next before between after outcome rest _ hhead _ _ ih =>
    have hrest : between.databases.contains name = false →
        ∃ o ∈ outcome :: rest, o.item = .database name := fun hbetween => by
      obtain ⟨o, hmem, heq⟩ := ih hbetween hin
      exact ⟨o, List.mem_cons_of_mem _ hmem, heq⟩
    rcases hhead.eq_or_eq_put with rfl | ⟨rfl, -⟩
    · exact hrest hnew
    · rcases hitem : outcome.item with spec | other | c <;> rw [hitem] at hrest
      · exact hrest hnew
      · by_cases hother : other = name
        · exact ⟨outcome, List.mem_cons_self, by rw [hitem, hother]⟩
        · refine hrest ?_
          rw [Distribution.put, NameSet.add, Dict.contains, Dict.get?_insert, if_neg hother]
          exact hnew
      · exact hrest hnew

/-- A collection that came in was submitted, has the key that was submitted, and its database is
enabled. -/
theorem of_new_collection (h : Distributions before outcomes after) {ns : String}
    {key : Dict Int32} (hnew : before.collections.get? ns = none)
    (hin : after.collections.get? ns = some key) :
    ∃ c, (∃ o ∈ outcomes, o.item = .collection c) ∧ c.ns = ns ∧ key = c.keyDocument ∧
      after.databases.contains c.database = true := by
  induction h with
  | done => cases hnew.symm.trans hin
  | @next before between after outcome rest _ hhead _ htail ih =>
    have hrest : between.collections.get? ns = none →
        ∃ c, (∃ o ∈ outcome :: rest, o.item = .collection c) ∧ c.ns = ns ∧ key = c.keyDocument ∧
          after.databases.contains c.database = true := fun hbetween => by
      obtain ⟨c, ⟨o, hmem, heq⟩, hc⟩ := ih hbetween hin
      exact ⟨c, ⟨o, List.mem_cons_of_mem _ hmem, heq⟩, hc⟩
    rcases hhead.eq_or_eq_put with rfl | ⟨rfl, hadmits⟩
    · exact hrest hnew
    · rcases hitem : outcome.item with spec | name | c <;> rw [hitem] at hrest hadmits htail
      · exact hrest hnew
      · exact hrest hnew
      · by_cases hns : c.ns = ns
        · -- it came in here, and it keeps its key
          refine ⟨c, ⟨outcome, List.mem_cons_self, hitem⟩, hns, ?_,
            htail.grows.databases _ hadmits⟩
          have hkept := htail.grows.collections ns c.keyDocument
            (by rw [Distribution.put, hns, Dict.get?_insert_self])
          exact Option.some.inj (hin.symm.trans hkept)
        · refine hrest ?_
          rw [Distribution.put, Dict.get?_insert, if_neg hns]
          exact hnew

/-- Databases come before collections, so whatever fails is a collection whose database is pending. -/
theorem exists_pending (h : Distributions before outcomes after) {parsed : List ShardedCollection}
    (hitems : outcomes.map ItemOutcome.item = shardingItems parsed) :
    ∀ o ∈ outcomes, o.status = .failed → ∃ c, o.item = .collection c ∧
      ∃ d ∈ outcomes, d.item = .database c.database ∧ d.status = .pending := by
  intro o hmem hfailed
  obtain ⟨first, second, rfl, hfirst, hsecond⟩ := List.map_eq_append_iff.1 hitems
  rcases List.mem_append.1 hmem with ho | ho
  · have hitem := List.mem_map_of_mem (f := ItemOutcome.item) ho
    rw [hfirst] at hitem
    obtain ⟨name, -, hname⟩ := List.mem_map.1 hitem
    exact absurd hfailed (h.not_failed_of_database o hmem hname.symm)
  · have hitem := List.mem_map_of_mem (f := ItemOutcome.item) ho
    rw [hsecond] at hitem
    obtain ⟨c, hc, hcollection⟩ := List.mem_map.1 hitem
    have hdatabase : Item.database c.database ∈ first.map ItemOutcome.item := by
      rw [hfirst]
      exact List.mem_map_of_mem
        (ShardedCollection.mem_databases.2 (List.mem_map_of_mem hc))
    obtain ⟨d, hd, hditem⟩ := List.mem_map.1 hdatabase
    have hpending := (List.pairwise_append.1 h.pending_of_failed).2.2 d hd o ho c hditem
      hcollection.symm hfailed
    exact ⟨c, hcollection.symm, d, List.mem_append_left _ hd, hditem, hpending⟩

/-- Items that are in place are found there. -/
theorem alreadyApplied_of_has (h : Distributions before outcomes after)
    (hhas : ∀ o ∈ outcomes, before.Has o.item)
    (hsuccess : ∀ o ∈ outcomes, o.status.isSuccess = true) :
    ∀ o ∈ outcomes, o.status = .alreadyApplied := by
  induction h with
  | done => exact List.forall_mem_nil _
  | next _ hhead _ _ ih =>
    obtain ⟨hfirst, hrest⟩ := List.forall_mem_cons.1 hhas
    obtain ⟨hsuccess, hsuccesses⟩ := List.forall_mem_cons.1 hsuccess
    refine List.forall_mem_cons.2 ⟨?_, ih (fun o hmem => ?_) hsuccesses⟩
    · exact (ItemStatus.isSuccess_iff.1 hsuccess).resolve_left (hhead.not_applied_of_has hfirst)
    · exact hhead.grows.has (hrest o hmem)

end Distributions

/-- Apart from what it remembers, a cluster is as it was. -/
structure Unmoved (before after : Cluster) : Prop where
  replicaSet : after.replicaSet = before.replicaSet
  shards : after.shards = before.shards
  databases : after.databases = before.databases
  collections : after.collections = before.collections
  primary : after.primary = before.primary
  unreachable : after.unreachable = before.unreachable

namespace Unmoved

variable {a b c : Cluster}

theorem refl (cluster : Cluster) : Unmoved cluster cluster :=
  ⟨rfl, rfl, rfl, rfl, rfl, rfl⟩

theorem received (cluster : Cluster) (command : AdminCommand) :
    Unmoved cluster (cluster.received command) :=
  ⟨rfl, rfl, rfl, rfl, rfl, rfl⟩

theorem trans (hab : Unmoved a b) (hbc : Unmoved b c) : Unmoved a c where
  replicaSet := hbc.replicaSet.trans hab.replicaSet
  shards := hbc.shards.trans hab.shards
  databases := hbc.databases.trans hab.databases
  collections := hbc.collections.trans hab.collections
  primary := hbc.primary.trans hab.primary
  unreachable := hbc.unreachable.trans hab.unreachable

theorem of_probed (h : Probed a b) : Unmoved a b :=
  ⟨h.replicaSet, h.shards, h.databases, h.collections, h.primary, h.unreachable⟩

/-- Where nothing interferes and no session is left open, only the memory of a cluster grows. -/
theorem eq_of_quiet (h : Unmoved a b) (ha : a.Quiet) (hb : b.Quiet)
    (hsessions : b.openSessions = a.openSessions) :
    b = { a with commands := b.commands, connections := b.connections } := by
  obtain ⟨hreplicaSet, hshards, hdatabases, hcollections, hprimary, hunreachable⟩ := h
  have hbudget : b.budget = a.budget := hb.budget.trans ha.budget.symm
  have hfaults : b.faults = a.faults := hb.faults.trans ha.faults.symm
  cases a
  cases b
  subst hreplicaSet hshards hdatabases hcollections hprimary hunreachable hbudget hfaults hsessions
  rfl

end Unmoved

namespace Router

variable {router next last : Router} {before after : Cluster} {item : Item} {routed : Routed}
  {handled : List (Item × Routed)}

/-- An item that was in place before leaves everything as it is. -/
theorem Handles.unmoved (h : Handles router item.command before routed next after)
    (hitem : item.IsDistributed) (htruthful : before.Truthful)
    (halready : (item.outcome routed).status = .alreadyApplied) : Unmoved before after := by
  cases h with
  | skipped | refused | late | dropped => cases halready
  | @answered reached session reply _ hsought hrun =>
    refine (Unmoved.of_probed hsought.toProbed).trans ?_
    rcases Cluster.run_distribution_of_reply (mt hsought.forges (htruthful item hitem)) hitem hrun
      with ⟨-, -, hok, -⟩ | ⟨-, hsame, -⟩
    · rw [Item.outcome, if_pos hok] at halready
      cases halready
    · rw [hsame]
      exact .received reached item.command

theorem Routing.distributions (h : Routing router before handled last after)
    (hitems : ∀ e ∈ handled, e.1.IsDistributed) (htruthful : before.Truthful) :
    Distributions before.distribution (handled.map fun e => e.1.outcome e.2) after.distribution ∧
      ((∀ e ∈ handled, (e.1.outcome e.2).status = .alreadyApplied) → Unmoved before after) := by
  induction h with
  | done => exact ⟨.done _, fun _ => .refl _⟩
  | @next router next last before between after item routed rest hhead htail ih =>
    obtain ⟨hitem, hrest⟩ := List.forall_mem_cons.1 hitems
    obtain ⟨hdistributions, hunmoved⟩ := ih hrest (hhead.truthful htruthful)
    constructor
    · refine .next ?_ ?_ (fun hfailed o hmem => ?_) hdistributions
      · rwa [Item.item_outcome]
      · rw [Item.item_outcome]
        exact hhead.settles hitem htruthful
      · obtain ⟨e, he, rfl⟩ := List.mem_map.1 hmem
        exact htail.connectionFailed (hhead.lost hfailed) e he
    · intro halready
      obtain ⟨hfirst, halready⟩ := List.forall_mem_cons.1 halready
      exact (hhead.unmoved hitem htruthful hfirst).trans (hunmoved halready)

end Router

/-- There is nothing to be said of an item that is in place. -/
theorem Item.detail_eq_none (item : Item) {routed : Routed}
    (hsuccess : (item.outcome routed).status.isSuccess = true) :
    (item.outcome routed).detail = none := by
  cases routed with
  | reply reply =>
    revert hsuccess
    simp only [outcome]
    split
    · exact fun _ => rfl
    · split
      · exact fun _ => rfl
      · rintro ⟨⟩
  | timeout reason => cases hsuccess
  | unreachable reason => cases hsuccess

/-! ## Whole runs -/

section Whole

variable {cluster : Cluster} {collections : Dict String} {parsed : List ShardedCollection}

/-- What is submitted to shard collections that were checked. -/
theorem isDistributed_of_mem_shardingItems
    (hparsed : ShardedCollection.parseAll collections = .ok parsed) :
    ∀ item ∈ shardingItems parsed, item.IsDistributed := by
  refine List.forall_mem_append.2 ⟨fun item hmem => ?_, fun item hmem => ?_⟩
  · obtain ⟨name, -, rfl⟩ := List.mem_map.1 hmem
    trivial
  · obtain ⟨c, hc, rfl⟩ := List.mem_map.1 hmem
    exact ShardedCollection.blank_not_mem_database hparsed c hc

/-- What comes of sharding collections. -/
theorem ensures_shardCollections (target : Target)
    (hparsed : ShardedCollection.parseAll collections = .ok parsed)
    (htruthful : cluster.Truthful) :
    Ensures cluster (shardCollections target collections)
      (fun outcomes after =>
        outcomes.map ItemOutcome.item = shardingItems parsed ∧
        Distributions cluster.distribution outcomes after.distribution ∧
        ((∀ o ∈ outcomes, o.status = .alreadyApplied) →
          (∀ o ∈ outcomes, o.detail = none) ∧ Unmoved cluster after) ∧
        (cluster.Quiet → cluster.Reaches target →
          (∀ o ∈ outcomes, o.status.isSuccess = true) ∧ after.Quiet ∧ after.Reaches target))
      fun _ _ => False := by
  rw [shardCollections, hparsed]
  refine Ensures.bind (Ensures.pure (Ensures.lift ((yields_submitItems target _).mono ?_)))
  rintro outcomes after ⟨handled, router, left, hitems, rfl, hrouting, hclosed⟩
  have hdistributed : ∀ e ∈ handled, e.1.IsDistributed := fun e he =>
    isDistributed_of_mem_shardingItems hparsed e.1 (hitems ▸ List.mem_map_of_mem he)
  obtain ⟨hdistributions, hunmoved⟩ := hrouting.distributions hdistributed htruthful
  have hleft : after.distribution = left.distribution := by
    rw [Cluster.distribution, hclosed.databases, hclosed.collections, Cluster.distribution]
  rw [← hleft] at hdistributions
  refine ⟨(outcome_items handled).trans hitems, hdistributions, fun halready => ?_,
    fun hquiet hreaches => ?_⟩
  · rw [List.forall_mem_map] at halready
    refine ⟨List.forall_mem_map.2 fun e he => ?_,
      (hunmoved halready).trans (.of_probed hclosed.toProbed)⟩
    exact e.1.detail_eq_none (congrArg ItemStatus.isSuccess (halready e he))
  · obtain ⟨hreplies, hquiet', hreaches'⟩ := hrouting.undisturbed rfl hquiet hreaches
    have hanswered : ∀ o ∈ handled.map (fun e => e.1.outcome e.2),
        o.status.isSuccess = true ∨ o.status = .failed := by
      refine List.forall_mem_map.2 fun e he => ?_
      obtain ⟨reply, hreply⟩ := hreplies e he
      rw [hreply]
      exact e.1.isSuccess_or_failed reply
    refine ⟨fun o ho => (hanswered o ho).resolve_right fun hfailed => ?_,
      hclosed.quiet hquiet', hreaches'.congr hclosed.unreachable⟩
    -- a database that was answered is not pending
    obtain ⟨-, -, d, hd, -, hpending⟩ :=
      hdistributions.exists_pending ((outcome_items handled).trans hitems) o ho hfailed
    rcases hanswered d hd with h | h <;> rw [hpending] at h <;> cases h

/-- Where nothing interferes, a first run puts everything in place, and a second one finds it there. -/
theorem finds_again (target : Target)
    (hparsed : ShardedCollection.parseAll collections = .ok parsed) {site : Site}
    (hquiet : site.cluster.Quiet) (hreaches : site.cluster.Reaches target) :
    let first := (shardCollections target collections).run.run site
    let second := (shardCollections target collections).run.run first.2
    ∃ outcomes, first.1 = .ok outcomes ∧
      outcomes.map ItemOutcome.item = shardingItems parsed ∧
      (∀ o ∈ outcomes, o.status.isSuccess = true) ∧
      second.1 = .ok (outcomes.map fun o => ⟨o.item, .alreadyApplied, none⟩) ∧
      second.2.cluster = { first.2.cluster with
        commands := second.2.cluster.commands
        connections := second.2.cluster.connections } := by
  intro first second
  obtain ⟨outcomes, hfirst, hitems, hdistributions, -, hcalm⟩ :=
    (ensures_shardCollections target hparsed fun _ _ => hquiet.not_forges _).exists_ok
  obtain ⟨hsuccess, hquiet', hreaches'⟩ := hcalm hquiet hreaches
  obtain ⟨again, hsecond, hitems', hdistributions', hunmoved, hcalm'⟩ :=
    (ensures_shardCollections target hparsed fun _ _ => hquiet'.not_forges _).exists_ok
  obtain ⟨hsuccess', hquiet'', -⟩ := hcalm' hquiet' hreaches'
  have hhas : ∀ o ∈ again, first.2.cluster.distribution.Has o.item := by
    intro o ho
    have hitem := List.mem_map_of_mem (f := ItemOutcome.item) ho
    rw [hitems', ← hitems] at hitem
    obtain ⟨o', ho', heq⟩ := List.mem_map.1 hitem
    rw [← heq]
    exact hdistributions.has_of_isSuccess o' ho' (hsuccess o' ho')
  have halready := hdistributions'.alreadyApplied_of_has hhas hsuccess'
  obtain ⟨hdetail, hsame⟩ := hunmoved halready
  have hsessions : second.2.cluster.openSessions = first.2.cluster.openSessions :=
    (shardCollections_sessions target collections).leaves
  refine ⟨outcomes, hfirst, hitems, hsuccess, hsecond.trans (congrArg Except.ok ?_),
    hsame.eq_of_quiet hquiet' hquiet'' hsessions⟩
  calc again = again.map fun o => ⟨o.item, .alreadyApplied, none⟩ := by
        refine (List.map_id again).symm.trans (List.map_congr_left fun o ho => ?_)
        rw [← halready o ho, ← hdetail o ho]
        rfl
    _ = (again.map ItemOutcome.item).map fun item => ⟨item, .alreadyApplied, none⟩ := by
        rw [List.map_map]
        rfl
    _ = (outcomes.map ItemOutcome.item).map fun item => ⟨item, .alreadyApplied, none⟩ := by
        rw [hitems', hitems]
    _ = outcomes.map fun o => ⟨o.item, .alreadyApplied, none⟩ := by
        rw [List.map_map]
        rfl

/-- Sharding collections puts every database and every collection in place, or says why not.  There is
one outcome for each database, in ascending order, and then one for each collection.  Whatever was
applied now or before is in place afterwards.  Nothing fails but a collection whose database is
pending.  What was distributed before stays as it was; what is new was asked for, has the key that was
asked for, and its database is enabled.  This holds for any faults except forged replies.

Where nothing interferes, everything is put in place, and the next run finds it there and changes
nothing: the cluster only remembers that it was asked. -/
theorem distributes_and_stays (target : Target)
    (hparsed : ShardedCollection.parseAll collections = .ok parsed) (site : Site)
    (hdatabases : ¬ site.cluster.Forges "enablesharding")
    (hcollections : ¬ site.cluster.Forges "shardcollection") :
    let run := fun s : Site => (shardCollections target collections).run.run s
    let before := site.cluster
    let after := (run site).2.cluster
    let databases := ShardedCollection.databases parsed
    let items := databases.map Item.database ++
      collections.entries.map fun e => Item.collection ⟨e.1, e.2⟩
    (databases.Pairwise (· < ·) ∧
      ∀ db, db ∈ databases ↔ ∃ ns ∈ collections.keys, (splitNamespace ns).1 = db) ∧
    (∃ outcomes, (run site).1 = .ok outcomes ∧ outcomes.map ItemOutcome.item = items ∧
      (∀ o ∈ outcomes, o.status.isSuccess = true → after.distribution.Has o.item) ∧
      ∀ o ∈ outcomes, o.status = .failed → ∃ c, o.item = .collection c ∧
        ∃ d ∈ outcomes, d.item = .database c.database ∧ d.status = .pending) ∧
    before.distribution.Grows after.distribution ∧
    (∀ db, before.databases.contains db = false → after.databases.contains db = true →
      db ∈ databases) ∧
    (∀ ns doc, before.collections.get? ns = none → after.collections.get? ns = some doc →
      (∃ key, collections.get? ns = some key ∧ doc = Dict.empty.insert key 1) ∧
        after.databases.contains (splitNamespace ns).1 = true) ∧
    ∀ again : Site, again.cluster.Quiet → again.cluster.Reaches target →
      let second := run again
      let third := run second.2
      ∃ outcomes, second.1 = .ok outcomes ∧ outcomes.map ItemOutcome.item = items ∧
        (∀ o ∈ outcomes, o.status.isSuccess = true) ∧
        third.1 = .ok (outcomes.map fun o => ⟨o.item, .alreadyApplied, none⟩) ∧
        third.2.cluster = { second.2.cluster with
          commands := third.2.cluster.commands
          connections := third.2.cluster.connections } := by
  intro run before after databases items
  have hitems : shardingItems parsed = items := by
    simp only [items, databases, shardingItems]
    rw [ShardedCollection.eq_of_parseAll hparsed, List.map_map]
    rfl
  have hmem : ∀ db, db ∈ databases ↔ ∃ ns ∈ collections.keys, (splitNamespace ns).1 = db := by
    intro db
    rw [ShardedCollection.mem_databases, ShardedCollection.eq_of_parseAll hparsed, List.map_map,
      Dict.keys, ← List.mem_map, List.map_map]
    rfl
  obtain ⟨outcomes, hrun, hsubmitted, hdistributions, -, -⟩ :=
    (ensures_shardCollections target hparsed
      (Cluster.truthful_of_not_forges hdatabases hcollections)).exists_ok
  have hitem : ∀ {item : Item}, (∃ o ∈ outcomes, o.item = item) → item ∈ shardingItems parsed := by
    rintro item ⟨o, ho, rfl⟩
    exact hsubmitted ▸ List.mem_map_of_mem ho
  refine ⟨⟨ShardedCollection.pairwise_databases parsed, hmem⟩,
    ⟨outcomes, hrun, hsubmitted.trans hitems, hdistributions.has_of_isSuccess,
      hdistributions.exists_pending hsubmitted⟩, hdistributions.grows, ?_, ?_, ?_⟩
  · intro db hnew hin
    have hsubmitted := hitem (hdistributions.of_new_database hnew hin)
    simpa [shardingItems] using hsubmitted
  · intro ns doc hnew hin
    obtain ⟨c, hc, rfl, rfl, henabled⟩ := hdistributions.of_new_collection hnew hin
    have hsubmitted : c ∈ parsed := by simpa [shardingItems] using hitem hc
    exact ⟨⟨c.key, (ShardedCollection.mem_of_parseAll hparsed).1 hsubmitted, rfl⟩, henabled⟩
  · intro again hquiet hreaches
    rw [← hitems]
    exact finds_again target hparsed hquiet hreaches

/-- One database and one of its collections are in place, and the first answer of the routing layer
does not come in time. -/
def hastySite : Site where
  cluster :=
    { databases := NameSet.ofNames ["old"]
      collections := Dict.empty.insert "old.log" (Dict.empty.insert "t" 1)
      faults := [("enablesharding", .timeout)] }

/-- A collection in each of two new databases. -/
def hastyCollections : Dict String :=
  (Dict.empty.insert "app.users" "user_id").insert "logs.raw" "_id"

/-- The collection of the database that is pending fails, and the next run makes up for it. -/
theorem distributes_and_stays_after_late_database :
    let run := fun s : Site =>
      (shardCollections (Target.localhost 27017) hastyCollections).run.run s
    let first := run hastySite
    let second := run first.2
    let third := run second.2
    ShardedCollection.parseAll hastyCollections =
        .ok [⟨"app.users", "user_id"⟩, ⟨"logs.raw", "_id"⟩] ∧
      ¬ hastySite.cluster.Forges "enablesharding" ∧ ¬ hastySite.cluster.Forges "shardcollection" ∧
      first.2.cluster.Quiet ∧ first.2.cluster.Reaches (Target.localhost 27017) ∧
      first.1.map (List.map ItemOutcome.status) = .ok [.pending, .applied, .failed, .applied] ∧
      ∃ outcomes, second.1 = .ok outcomes ∧ outcomes.map ItemOutcome.item =
          [.database "app", .database "logs", .collection ⟨"app.users", "user_id"⟩,
            .collection ⟨"logs.raw", "_id"⟩] ∧
        third.1 = .ok (outcomes.map fun o => ⟨o.item, .alreadyApplied, none⟩) := by
  intro run first second third
  have hparsed : ShardedCollection.parseAll hastyCollections =
      .ok [⟨"app.users", "user_id"⟩, ⟨"logs.raw", "_id"⟩] := rfl
  have hdatabases : ¬ hastySite.cluster.Forges "enablesharding" := by
    rintro ⟨reply, hmem⟩
    simp [hastySite] at hmem
  have hcollections : ¬ hastySite.cluster.Forges "shardcollection" := by
    rintro ⟨reply, hmem⟩
    simp [hastySite] at hmem
  have hruns : (first.2.cluster.faults.isEmpty = true ∧ first.2.cluster.budget = none) ∧
      first.2.cluster.unreachable.contains "localhost:27017" = false ∧
      first.1.map (List.map ItemOutcome.status) = .ok [.pending, .applied, .failed, .applied] := by
    decide +kernel
  obtain ⟨⟨hfaults, hbudget⟩, hreaches, hfirst⟩ := hruns
  have hquiet : first.2.cluster.Quiet := ⟨List.isEmpty_iff.1 hfaults, hbudget⟩
  obtain ⟨-, -, -, -, -, hagain⟩ := distributes_and_stays (Target.localhost 27017) hparsed hastySite
    hdatabases hcollections
  obtain ⟨outcomes, hsecond, hitems, -, hthird, -⟩ := hagain first.2 hquiet hreaches
  exact ⟨hparsed, hdatabases, hcollections, hquiet, hreaches, hfirst, outcomes, hsecond, hitems,
    hthird⟩

end Whole

end ClusterConvergence
