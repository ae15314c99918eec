import Mathlib
import ClusterConvergence.Admin.Document
import ClusterConvergence.Proofs.Json.Decode

/-!
# Commands and replies on the wire

Each record is read from its document field by field, and the values in it keep within the limits of
the format: identifiers and versions fit 64 bits, and no argument of a command is nested too deep to
be taken out as a value.  What the names are made of does not matter, since every character is
written in a form that is read back and that stays on the line.

Main statement: `wire_round_trip`.
-/

namespace ClusterConvergence

open Decoder Json

/-! ## Numbers -/

theorem legible_int32 (n : Int32) : (Json.integer n.toInt).Legible :=
  ⟨Int.le_trans (by decide) n.le_toInt, Int.lt_of_le_of_lt n.toInt_le (by decide)⟩

/-- Zero, with either sign, and one are read back from their text. -/
theorem restorable_of_beq {x : Float} (h : (x == 0.0) = true ∨ (x == 1.0) = true) :
    Restorable x := by
  rcases h with h | h
  · -- two doubles are equal to zero
    rcases (Float.beq_iff_ne_nan_and_eq.1 h).2.2 with rfl | ⟨rfl, -⟩ | ⟨rfl, -⟩
    · exact restorable_zero
    · exact restorable_zero
    · exact restorable_negative_zero
  · rcases (Float.beq_iff_ne_nan_and_eq.1 h).2.2 with rfl | ⟨-, hzero⟩ | ⟨-, hzero⟩
    · exact restorable_one
    · exact absurd hzero (by decide +kernel)
    · exact absurd hzero (by decide +kernel)

/-! ## Replica sets -/

namespace Member

theorem reads (member : Member) : Reads decode member member.toJson := by
  intro source
  show shape.fromMembers source [] _ [(some "_id", _), (some "host", _)] = _
  rw [Shape.fromMembers_field rfl (by decide) (reads_uint32 member.id),
    Shape.fromMembers_field rfl (by decide) (reads_string member.host)]
  rfl

theorem legible (member : Member) : member.toJson.Legible := by
  have hid : member.id.toNat < 2 ^ 32 := member.id.toNat_lt_size
  exact ⟨⟨by omega, by omega⟩, trivial, trivial⟩

end Member

namespace ReplicaConfig

theorem reads (config : ReplicaConfig) : Reads decode config config.toJson := by
  intro source
  show shape.fromMembers source [] _ [(some "_id", _), (some "version", _), (some "members", _)] = _
  rw [Shape.fromMembers_field rfl (by decide) (reads_string config.id),
    Shape.fromMembers_field rfl (by decide) (reads_uint64 config.version),
    Shape.fromMembers_field rfl (by decide) (Reads.list fun member _ => member.reads)]
  rfl

theorem legible (config : ReplicaConfig) : config.toJson.Legible := by
  have hversion : config.version.toNat < 2 ^ 64 := config.version.toNat_lt_size
  have hmembers : LegibleItems (config.members.map Member.toJson) :=
    legibleItems_iff.2 (List.forall_mem_map.2 fun member _ => member.legible)
  exact ⟨trivial, ⟨by omega, by omega⟩, hmembers, trivial⟩

theorem height_le (config : ReplicaConfig) : config.toJson.height ≤ 3 := by
  have hmembers : heightItems (config.members.map Member.toJson) ≤ 1 :=
    heightItems_le_iff.2 (List.forall_mem_map.2 fun _ _ => Nat.le_refl 1)
  simp only [toJson, nat, height, heightMembers]
  omega

end ReplicaConfig

/-! ## Replies -/

namespace Reply

/-- A reply is read from its document, whatever was left out of it. -/
theorem reads (reply : Reply) : Reads decode reply reply.toJson := by
  intro source
  obtain ⟨ok, errmsg, code, config, shardAdded, collectionSharded, isWritablePrimary, primary⟩ :=
    reply
  show shape.fromMembers source [] _ ((some "ok", _) :: memberDocs _) = _
  rw [Shape.fromMembers_field rfl (by decide) (reads_float ok)]
  simp only [memberDocs_append, List.append_assoc]
  -- the members that may be left out, in the order in which they are written
  refine Shape.fromMembers_member? (List.Subset.refl ["ok"]) rfl (by decide) rfl reads_string nofun
    fun _ h => ?_
  refine Shape.fromMembers_member? h rfl (by decide) rfl reads_int32 nofun fun _ h => ?_
  refine Shape.fromMembers_member? h rfl (by decide) rfl ReplicaConfig.reads nofun fun _ h => ?_
  refine Shape.fromMembers_member? h rfl (by decide) rfl reads_string nofun fun _ h => ?_
  refine Shape.fromMembers_member? h rfl (by decide) rfl reads_string nofun fun _ h => ?_
  refine Shape.fromMembers_member? h rfl (by decide) rfl reads_bool nofun fun _ h => ?_
  rw [← List.append_nil (memberDocs _)]
  exact Shape.fromMembers_member? h rfl (by decide) rfl reads_string nofun fun _ _ => rfl

theorem legible {reply : Reply} (h : Restorable reply.ok) : reply.toJson.Legible := by
  refine ⟨h, legibleMembers_iff.2 ?_⟩
  simp only [List.forall_mem_append]
  exact ⟨⟨⟨⟨⟨⟨legible_member? fun _ => trivial, legible_member? legible_int32⟩,
    legible_member? ReplicaConfig.legible⟩, legible_member? fun _ => trivial⟩,
    legible_member? fun _ => trivial⟩, legible_member? fun _ => trivial⟩,
    legible_member? fun _ => trivial⟩

end Reply

/-! ## Commands -/

namespace AdminCommand

/-- The arguments of a command are set apart from its tag as they are. -/
theorem splitTag_arguments {decode : Decoder AdminCommand} {arguments : List (String × Json)}
    (hnames : ∀ e ∈ arguments, e.1 ≠ tagName)
    (hvalues : ∀ e ∈ arguments, e.2.height ≤ Doc.depthLimit - 1) :
    splitTag (some decode) (memberDocs arguments) = .ok (decode, memberDocs arguments) := by
  induction arguments with
  | nil => rfl
  | cons e arguments ih =>
    obtain ⟨hname, hnames⟩ := List.forall_mem_cons.1 hnames
    obtain ⟨hvalue, hvalues⟩ := List.forall_mem_cons.1 hvalues
    have hargument : isArgument e.2.toDoc = true := by
      rw [isArgument, value?_toDoc e.2 hvalue]
      rfl
    rw [memberDocs, splitTag, if_neg hname, if_pos hargument, ih hnames hvalues]
    rfl

theorem reads_oneArgument {α : Type} {name : String} {decode : Decoder α} {initial a : α}
    {command : α → AdminCommand} {j : Json} (h : Reads decode a j) :
    Reads (oneArgument name decode initial command) (command a) (.object [(name, j)]) := by
  intro source
  let shape : Shape α := { fields := [field name decode fun _ x => x] }
  have hfield : shape.field? name = some (field name decode fun _ x => x) := by
    simp [shape, Shape.field?, field]
  have hmissing : shape.missing? [name] = none := by
    simp [shape, Shape.missing?, field]
  show (shape.fromMembers source [] initial [(some name, j.toDoc)]).map command = _
  rw [Shape.fromMembers_field hfield List.not_mem_nil h, Shape.fromMembers, hmissing]
  rfl

/-- The tag of a command stands for a decoder of its arguments. -/
theorem exists_decodeArguments (command : AdminCommand) :
    ∃ decode, decodeArguments? command.name = some decode ∧
      Reads decode command (.object command.arguments) := by
  cases command with
  | hello => exact ⟨_, rfl, fun _ => rfl⟩
  | initiate config => exact ⟨_, rfl, reads_oneArgument config.reads⟩
  | getConfig name => exact ⟨_, rfl, reads_oneArgument (reads_string name)⟩
  | reconfig config => exact ⟨_, rfl, reads_oneArgument config.reads⟩
  | addShard shard => exact ⟨_, rfl, reads_oneArgument (reads_string shard)⟩
  | enableSharding database => exact ⟨_, rfl, reads_oneArgument (reads_string database)⟩
  | shardCollection ns key =>
    refine ⟨_, rfl, fun source => ?_⟩
    have hshape : collectionShape.decode ("", Dict.empty) source
        (Json.object (shardCollection ns key).arguments).toDoc = .ok (ns, key) := by
      show collectionShape.fromMembers source [] _ [(some "namespace", _), (some "key", _)] = _
      rw [Shape.fromMembers_field rfl (by decide) (reads_string ns),
        Shape.fromMembers_field rfl (by decide) (Reads.dict reads_int32 key)]
      rfl
    rw [hshape]
    rfl

theorem arguments_name_ne (command : AdminCommand) :
    ∀ e ∈ command.arguments, e.1 ≠ tagName := by
  cases command <;> simp [arguments, tagName]

theorem arguments_height_le (command : AdminCommand) :
    ∀ e ∈ command.arguments, e.2.height ≤ Doc.depthLimit - 1 := by
  have hconfig : ∀ config : ReplicaConfig, config.toJson.height ≤ Doc.depthLimit - 1 :=
    fun config => Nat.le_trans config.height_le (by decide)
  have hstring : ∀ s : String, (Json.string s).height ≤ Doc.depthLimit - 1 := fun _ => Nat.zero_le _
  cases command with
  | hello => exact List.forall_mem_nil _
  | initiate config | reconfig config => exact List.forall_mem_singleton.2 (hconfig config)
  | getConfig text | addShard text | enableSharding text =>
    exact List.forall_mem_singleton.2 (hstring text)
  | shardCollection ns key =>
    have hkey : (ofDict (fun x : Int32 => .integer x.toInt) key).height ≤ Doc.depthLimit - 1 := by
      refine Nat.succ_le_succ (heightMembers_le_iff.2 (List.forall_mem_map.2 fun _ _ => ?_))
      exact Nat.zero_le _
    exact List.forall_mem_cons.2 ⟨hstring ns, List.forall_mem_singleton.2 hkey⟩

/-- A command is read from its document. -/
theorem reads (command : AdminCommand) : Reads decode command command.toJson := by
  intro source
  obtain ⟨decodeArguments, htag, hreads⟩ := command.exists_decodeArguments
  have hdecodeTag : decodeTag (Json.string command.name).toDoc = .ok decodeArguments := by
    have htext : Decoder.string .text (.string command.name) = .ok command.name := rfl
    simp only [toDoc, decodeTag, htext, bind, Except.bind, htag]
    rfl
  have hsplit : splitTag none (memberDocs ((tagName, .string command.name) :: command.arguments)) =
      .ok (decodeArguments, memberDocs command.arguments) := by
    rw [memberDocs, splitTag, if_pos rfl, hdecodeTag]
    exact splitTag_arguments command.arguments_name_ne command.arguments_height_le
  show splitTag none (memberDocs _) >>= _ = _
  rw [hsplit]
  exact hreads .value

theorem legible (command : AdminCommand) : command.toJson.Legible := by
  refine ⟨trivial, legibleMembers_iff.2 ?_⟩
  cases command with
  | hello => exact List.forall_mem_nil _
  | initiate config | reconfig config => exact List.forall_mem_singleton.2 config.legible
  | getConfig | addShard | enableSharding => exact List.forall_mem_singleton.2 trivial
  | shardCollection ns key =>
    have hkey : (ofDict (fun x : Int32 => .integer x.toInt) key).Legible :=
      legibleMembers_iff.2 (List.forall_mem_map.2 fun e _ => legible_int32 e.2)
    exact List.forall_mem_cons.2 ⟨trivial, List.forall_mem_singleton.2 hkey⟩

end AdminCommand

/-! ## Texts -/

/-- A text takes up one line: there is nothing below the blank in it, and whoever reads up to the
line break behind it gets the text and nothing else. -/
def IsLine (text : String) : Prop :=
  Unbroken text.toList ∧
    ∀ later, (text.toList ++ '\n' :: later).takeWhile (· != '\n') = text.toList

theorem isLine_render (j : Json) : IsLine j.render := by
  have hunbroken : Unbroken j.render.toList := by
    rw [render, String.toList_ofList]
    exact unbroken_chars j
  refine ⟨hunbroken, fun later => ?_⟩
  have hvisible : ∀ c ∈ j.render.toList, (c != '\n') = true := by
    rintro c hc
    refine bne_iff_ne.2 ?_
    rintro rfl
    exact absurd (hunbroken _ hc) (by decide)
  rw [List.takeWhile_append_of_pos hvisible]
  simp

/-- Every command is decoded from its text, and so is every reply that says yes or no.  Either text
is exactly one line, whatever characters the names in it have. -/
theorem wire_round_trip :
    (∀ command : AdminCommand,
      Decoder.run AdminCommand.decode command.wire = .ok command ∧ IsLine command.wire) ∧
    ∀ reply : Reply, (reply.ok == 0.0) = true ∨ (reply.ok == 1.0) = true →
      Decoder.run Reply.decode reply.summary = .ok reply ∧ IsLine reply.summary := by
  constructor
  · intro command
    exact ⟨command.reads.run_render command.legible, isLine_render _⟩
  · intro reply hok
    exact ⟨reply.reads.run_render (Reply.legible (restorable_of_beq hok)), isLine_render _⟩

/-- A reply with the greatest numbers there are, whose reason holds line breaks, quotes, a control
character and characters beyond the first plane. -/
def awkwardReply : Reply where
  ok := -0.0
  errmsg := some "host \"a\\b\"\nis already\r\n\t\x01 in use 𝄞 é"
  code := some (-2147483648)
  config := some { id := "rs\n0", version := 18446744073709551615, members := [⟨4294967295, ""⟩] }
  isWritablePrimary := some false

theorem wire_round_trip_of_awkward_reply :
    (awkwardReply.ok == 0.0) = true ∧
      Decoder.run Reply.decode awkwardReply.summary = .ok awkwardReply ∧
      IsLine awkwardReply.summary := by
  have hok : (awkwardReply.ok == 0.0) = true := by decide +kernel
  exact ⟨hok, wire_round_trip.2 awkwardReply (Or.inl hok)⟩

end ClusterConvergence
