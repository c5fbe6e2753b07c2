import Haptics.Proofs.NodeFiles

/-!
# The nodes of a CS40L25

Each channel of the driver writes one node, mode and sequencer that of the effect index
(`Cs40l25.target`), and the nodes have names of their own.  So what stands at a node changes by
writes that do not spare it (`Cs40l25.Spares`) and by nothing else (`found_write`, `found_serve`).
Between calls files may be edited from outside (`Event`).
-/

namespace Haptics

/-! ## Nodes -/

namespace Cs40l25

/-- The node for a name, as it was found when the driver was opened. -/
def nodeAt (files : FileTree) (base name : String) : Node :=
  ⟨name, FileTree.join base name, files.contains (FileTree.join base name)⟩

/-- The driver as it was opened on some files, which may have been edited since. -/
def Opened (files : FileTree) (base : String) (s : Cs40l25) : Prop :=
  s.nodes.nodes = (attach files base).nodes.nodes

/-- What stands at the path of a name, and where that is. -/
def found (s : Cs40l25) (base name : String) : Except FileFault (Location × Entry) :=
  s.nodes.files.resolve (FileTree.join base name)

def text (s : Cs40l25) (base name : String) : Except FileFault String :=
  s.nodes.files.readText (FileTree.join base name)

/-- The channel whose node a write to a channel goes to. -/
def target : Channel → Channel
  | .mode => .effectIndex
  | .sequencer => .effectIndex
  | channel => channel

/-- A write leaves the node of a channel alone: it goes to another node, or chooses the mode of
waveforms. -/
def Spares (watched : Channel) (write : Write) : Prop :=
  target write.channel ≠ watched ∨
    write.channel = .mode ∧ write.value = .text PlayMode.waveform.name

theorem mem_nodeNames {channel : Channel} {name : String}
    (h : nodeNames.lookup channel = some name) : (channel, name) ∈ nodeNames := by
  obtain ⟨before, after, he, -⟩ := List.lookup_eq_some_iff.1 h
  rw [he]
  exact List.mem_append_right _ List.mem_cons_self

/-- Every node has a last name of its own. -/
theorem leaf?_ne {channel other : Channel} {name otherName : String}
    (h : nodeNames.lookup channel = some name) (ho : nodeNames.lookup other = some otherName)
    (hne : channel ≠ other) :
    ∃ leaf otherLeaf, FileTree.leaf? name = some leaf ∧
      FileTree.leaf? otherName = some otherLeaf ∧ leaf ≠ otherLeaf := by
  have hsome : ∀ item ∈ nodeNames, FileTree.leaf? item.2 ≠ none := by decide
  have hnodup : ∀ item ∈ nodeNames, ∀ second ∈ nodeNames, item.1 ≠ second.1 →
      FileTree.leaf? item.2 ≠ FileTree.leaf? second.2 := by decide
  have hm := mem_nodeNames h
  have hmo := mem_nodeNames ho
  obtain ⟨leaf, hl⟩ := Option.ne_none_iff_exists'.1 (hsome _ hm)
  obtain ⟨otherLeaf, hlo⟩ := Option.ne_none_iff_exists'.1 (hsome _ hmo)
  refine ⟨leaf, otherLeaf, hl, hlo, fun e => ?_⟩
  have hdiff := hnodup _ hm _ hmo hne
  rw [hl, hlo, e] at hdiff
  exact hdiff rfl

section
variable {files : FileTree} {base : String} {s : Cs40l25} {channel watched : Channel}
  {name : String} {value : RegisterValue}

/-- Being opened on some files is lasting. -/
theorem lasting_opened (files : FileTree) (base : String) : Lasting (Opened files base) where
  read channel s h := (s.nodes.get_nodes channel).trans h
  write channel value s h := (write_nodes channel value s).trans h

theorem node?_of_opened (h : Opened files base s) (channel : Channel) :
    s.nodes.node? channel = (nodeNames.lookup channel).map (nodeAt files base) := by
  rw [NodeTable.node?, h]
  cases channel <;> rfl

/-- A node in use is the one that the driver was opened with. -/
theorem present?_of_opened (h : Opened files base s) {node : Node}
    (hp : s.nodes.present? channel = some node) :
    ∃ name, nodeNames.lookup channel = some name ∧ node.path = FileTree.join base name := by
  obtain ⟨hn, -⟩ := Option.filter_eq_some_iff.1 hp
  rw [node?_of_opened h] at hn
  obtain ⟨name, hname, rfl⟩ := Option.map_eq_some_iff.1 hn
  exact ⟨name, hname, rfl⟩

/-- What stood at a node when the driver was opened decides whether its channel can be used. -/
theorem has_node_of_opened (channel : Channel) (h : Opened files base s)
    (hname : nodeNames.lookup channel = some name) :
    s.nodes.has channel = files.contains (FileTree.join base name) := by
  rw [NodeTable.has, NodeTable.present?, node?_of_opened h, hname, Option.map_some,
    Option.filter_some]
  change (if files.contains (FileTree.join base name) = true then _ else _ : Option Node).isSome = _
  cases files.contains (FileTree.join base name) <;> rfl

theorem has_eq_false_of_opened (channel : Channel) (h : Opened files base s)
    (hname : nodeNames.lookup channel = none) :
    s.nodes.has channel = false := by
  rw [NodeTable.has, NodeTable.present?, node?_of_opened h, hname]
  rfl

/-- What stood at the trigger nodes when the driver was opened decides which channels it has. -/
theorem has_of_opened (h : Opened files base s) :
    Device.has s .mode = files.contains (FileTree.join base "device/cp_trigger_index") ∧
      Device.has s .effectQueue =
        files.contains (FileTree.join base "device/cp_trigger_queue") :=
  ⟨has_node_of_opened .effectIndex h rfl, has_node_of_opened .effectQueue h rfl⟩

/-! ## Single writes -/

/-- A write that succeeds leaves its value in the node. -/
theorem text_set (h : Opened files base s) (hname : nodeNames.lookup channel = some name)
    (hok : (s.set channel value).1 = .ok ()) :
    (s.set channel value).2.text base name = .ok (value.toText ++ "\n") := by
  obtain ⟨node, hn, hf⟩ := NodeTable.set_ok hok
  obtain ⟨_, hother, hpath⟩ := present?_of_opened h hn
  obtain rfl := Option.some.inj (hname.symm.trans hother)
  rw [hpath] at hf
  exact FileTree.readText_overwrite hf

/-- A write to a node that is a file succeeds and leaves its value there. -/
theorem set_of_file (channel : Channel) (h : Opened files base s)
    (hname : nodeNames.lookup channel = some name)
    (hp : files.contains (FileTree.join base name) = true) {place : Location} {contents : Contents}
    (hfile : s.found base name = .ok (place, .file contents)) (value : RegisterValue) :
    (s.set channel value).1 = .ok () ∧ (s.set channel value).2.found base name =
      .ok (place, .file (.text (value.toText ++ "\n"))) := by
  obtain ⟨node, hn⟩ := Option.isSome_iff_exists.1 ((has_node_of_opened channel h hname).trans hp)
  obtain ⟨_, hother, hpath⟩ := present?_of_opened h hn
  obtain rfl := Option.some.inj (hname.symm.trans hother)
  have hw := FileTree.overwrite_of_file hfile (value.toText ++ "\n")
  rw [← hpath] at hw
  have hset : s.set channel value = (.ok (), ⟨{ s.nodes.note .set node value.toText with
      files := s.nodes.files.replace place (value.toText ++ "\n") }⟩) := by
    rw [set, NodeTable.set, hn]
    simp only [hw]
  rw [hset]
  rw [hpath] at hw
  exact ⟨rfl, FileTree.resolve_overwrite hw hfile⟩

/-- A write leaves the other nodes alone. -/
theorem found_set_of_ne (h : Opened files base s)
    (hname : nodeNames.lookup watched = some name) (hne : channel ≠ watched) :
    (s.set channel value).2.found base name = s.found base name := by
  rcases s.nodes.set_files channel value with he | ⟨node, hn, hf⟩
  · exact congrArg (fun files => files.resolve (FileTree.join base name)) he
  · obtain ⟨otherName, hother, hpath⟩ := present?_of_opened h hn
    obtain ⟨leaf, watchedLeaf, hl, hw, hdiff⟩ := leaf?_ne hother hname hne
    rw [hpath] at hf
    exact FileTree.resolve_overwrite_of_ne hf (FileTree.leaf?_join base hl)
      (FileTree.leaf?_join base hw) hdiff

/-- Whatever is written to a channel, it changes nothing but the node that is the target. -/
theorem write_target (channel : Channel) (value : RegisterValue) (s : Cs40l25) :
    (write channel value s).2 = s ∨
      ∃ written, (write channel value s).2 = (s.set (target channel) written).2 := by
  cases channel with
  | mode =>
    simp only [write]
    split
    · exact .inr ⟨_, rfl⟩
    · exact .inl rfl
    · exact .inl rfl
  | sequencer =>
    simp only [write]
    split
    · exact .inr ⟨_, rfl⟩
    · exact .inl rfl
  | ctrlLoop | waveShape | odClamp | lraPeriod | autocal | rtpInput | lpTrigger | temperature =>
    exact .inl rfl
  | _ => exact .inr ⟨value, rfl⟩

/-- A write that spares a node leaves it alone. -/
theorem found_write (h : Opened files base s) (hname : nodeNames.lookup watched = some name)
    {made : Write} (hs : Spares watched made) :
    (Device.write made.channel made.value s).2.found base name = s.found base name := by
  change (write made.channel made.value s).2.found base name = s.found base name
  rcases hs with hne | ⟨hc, hv⟩
  · rcases write_target made.channel made.value s with he | ⟨written, he⟩
    · rw [he]
    · rw [he]
      exact found_set_of_ne h hname hne
  · rw [hc, hv]
    rfl

theorem text_write (h : Opened files base s) (hname : nodeNames.lookup watched = some name)
    {made : Write} (hs : Spares watched made) :
    (Device.write made.channel made.value s).2.text base name = s.text base name :=
  FileTree.readText_congr (found_write h hname hs)

theorem found_read (channel : Channel) (s : Cs40l25) (base name : String) :
    (Device.read channel s).2.found base name = s.found base name :=
  congrArg (fun files => files.resolve (FileTree.join base name)) (s.nodes.get_files channel)

/-- A channel that can be used is read from the text of its node. -/
theorem read_of_opened (channel : Channel) (h : Opened files base s)
    (hname : nodeNames.lookup channel = some name)
    (hp : files.contains (FileTree.join base name) = true) :
    (Device.read channel s).1 =
      ((s.text base name).map RegisterValue.ofText).mapError Fault.node := by
  obtain ⟨node, hn⟩ := Option.isSome_iff_exists.1 ((has_node_of_opened channel h hname).trans hp)
  obtain ⟨_, hother, hpath⟩ := present?_of_opened h hn
  obtain rfl := Option.some.inj (hname.symm.trans hother)
  change (s.nodes.get channel).1 = _
  rw [NodeTable.get, hn]
  simp only [text, ← hpath]
  cases s.nodes.files.readText node.path <;> rfl

/-- A node that is a file stays one, whatever is read and written. -/
theorem lasting_file (base name : String) :
    Lasting fun s : Cs40l25 => ∃ place contents,
      s.found base name = .ok (place, .file contents) where
  read channel s h := by
    rw [found_read]
    exact h
  write channel value s h := by
    obtain ⟨place, contents, hfile⟩ := h
    change ∃ place contents,
      (write channel value s).2.found base name = .ok (place, .file contents)
    rcases write_target channel value s with he | ⟨written, he⟩
    · rw [he]
      exact ⟨place, contents, hfile⟩
    · rw [he]
      rcases s.nodes.set_files (target channel) written with hn | ⟨node, -, hf⟩
      · exact ⟨place, contents,
          (congrArg (fun files => files.resolve (FileTree.join base name)) hn).trans hfile⟩
      · exact ⟨place, FileTree.resolve_overwrite_file hf hfile⟩

/-! ## Scripts -/

/-- What a script writes to a node stays there if the rest of the script spares it. -/
theorem text_run (before : Script) (watched : Channel) (value : RegisterValue) {after : Script}
    {made : Write} (h : Opened files base s) (hname : nodeNames.lookup watched = some name)
    (hok : ((before ++ made :: after).run s).1 = .ok ()) (hm : made.mandatory = true)
    (hset : ∀ s : Cs40l25, Device.write made.channel made.value s = s.set watched value)
    (hs : ∀ write ∈ after, Spares watched write) :
    ((before ++ made :: after).run s).2.text base name = .ok (value.toText ++ "\n") := by
  have hl := lasting_opened files base
  have hb : Opened files base (before.run s).2 :=
    Script.run_keeps (fun write _ => hl.write write.channel write.value) h
  refine (Script.run_brings (P := fun s => Opened files base s ∧
    s.text base name = .ok (value.toText ++ "\n")) hok hm (fun hwrite => ?_) fun write hw s hp => ?_).2
  · refine ⟨hl.write _ _ _ hb, ?_⟩
    rw [hset] at hwrite ⊢
    exact text_set hb hname hwrite
  · exact ⟨hl.write _ _ _ hp.1, (text_write hp.1 hname (hs write hw)).trans hp.2⟩

end

end Cs40l25

/-! ## Calls and edits -/

def Cs40l25.edit (s : Cs40l25) (files : FileTree) : Cs40l25 :=
  ⟨{ s.nodes with files := files }⟩

/-- What happens to a vibrator: it is asked for something, or files are edited. -/
inductive Event where
  | request (request : Request)
  | edit (files : FileTree)

namespace Vibrator
open Cs40l25

def meet (v : Vibrator Cs40l25) : Event → Vibrator Cs40l25
  | .request request => (v.serve request).2
  | .edit files => { v with device := v.device.edit files }

def meetAll (v : Vibrator Cs40l25) (events : List Event) : Vibrator Cs40l25 :=
  events.foldl meet v

section
variable {v : Vibrator Cs40l25} {files : FileTree} {base : String}

theorem opened_meetAll (h : Opened files base v.device) (events : List Event) :
    Opened files base (v.meetAll events).device := by
  induction events generalizing v with
  | nil => exact h
  | cons event rest ih =>
    cases event with
    | request request => exact ih ((lasting_opened files base).serve h request)
    | edit files => exact ih h

theorem catalog_meetAll (v : Vibrator Cs40l25) (events : List Event) :
    (v.meetAll events).catalog = v.catalog := by
  induction events generalizing v with
  | nil => rfl
  | cons event rest ih =>
    cases event with
    | request request => exact (ih _).trans (v.serve_catalog request)
    | edit files => exact ih _

end
end Vibrator
end Haptics
