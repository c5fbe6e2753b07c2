import Haptics.Proofs.NodeFiles

/-!
# What node files hold

A driver of this library keeps nothing of what it is told but the files of its nodes: a write puts
one value into the node of one channel, or nothing anywhere (`NodeDriver.put?`).  So of a run of
calls the files keep, each by itself, the value that last arrived there, in place of what it held
(`Call.find?_runAll`); nothing is created or removed, and where paths lead stays the same
(`Call.place?_run`).
-/

namespace Haptics

theorem Channel.mem_all (channel : Channel) : channel ∈ Channel.all := by
  cases channel <;> decide

/-! ## Files at nodes -/

/-- What is left of a file by writing a value to it. -/
def Contents.ofValue (value : RegisterValue) : Contents :=
  .text (value.toText ++ "\n")

/-- An entry that the given value, if any, was written to; directories take none. -/
def Entry.taking (value : Option RegisterValue) : Entry → Entry
  | .directory => .directory
  | .file contents => .file (value.elim contents Contents.ofValue)

theorem Entry.map_taking_none (found : Option Entry) : found.map (Entry.taking none) = found := by
  rcases found with _ | _ | _ <;> rfl

/-- Of two values written in turn the later one stays. -/
theorem Entry.taking_taking (entry : Entry) (earlier later : Option RegisterValue) :
    (entry.taking earlier).taking later = entry.taking (later.or earlier) := by
  cases entry <;> cases later <;> rfl

namespace FileTree

/-- Where the file at a path stands, if there is one. -/
def place? (tree : FileTree) (path : String) : Option Location :=
  match tree.resolve path with
  | .ok (place, .file _) => some place
  | _ => none

section
variable {tree : FileTree} {location : Location} {contents : Contents}

theorem place?_eq_some {path : String} :
    tree.place? path = some location ↔
      ∃ contents, tree.resolve path = .ok (location, .file contents) := by
  unfold place?
  rcases tree.resolve path with _ | ⟨place, _ | _⟩ <;> simp

/-- Files are where they were after one of them was overwritten. -/
theorem place?_replace (h : tree.find? location = some (.file contents)) (value path : String) :
    (tree.replace location value).place? path = tree.place? path := by
  rw [place?, place?, resolve_replace h]
  rcases tree.resolve path with _ | ⟨place, _ | _⟩ <;> rfl

end
end FileTree

namespace NodeTable

/-- Where the file of a channel's node stands, if the channel can be used and its node is a
file. -/
def place? (table : NodeTable) (channel : Channel) : Option Location :=
  (table.present? channel).bind fun node => table.files.place? node.path

/-- A write that fails changes no file, and one that succeeds overwrites the file of its node. -/
theorem set_cases (table : NodeTable) (channel : Channel) (value : RegisterValue) :
    ((∃ fault, (table.set channel value).1 = .error fault) ∧
        (table.set channel value).2.files = table.files) ∨
      ((table.set channel value).1 = .ok () ∧
        ∃ place contents, table.place? channel = some place ∧
          table.files.find? place = some (.file contents) ∧
          (table.set channel value).2.files =
            table.files.replace place (value.toText ++ "\n")) := by
  unfold set place?
  cases hn : table.present? channel with
  | none => exact .inl ⟨⟨_, rfl⟩, rfl⟩
  | some node =>
    cases hw : table.files.overwrite node.path (value.toText ++ "\n") with
    | error fault =>
      simp only [hw]
      exact .inl ⟨⟨_, rfl⟩, rfl⟩
    | ok files =>
      simp only [hw, true_and]
      obtain ⟨place, contents, hr, rfl⟩ := FileTree.overwrite_ok hw
      have hp : table.files.place? node.path = some place :=
        FileTree.place?_eq_some.2 ⟨contents, hr⟩
      exact .inr ⟨place, contents, hp, FileTree.find?_of_resolve hr, rfl⟩

section
variable {table other : NodeTable}

/-- A write to a node that is a file succeeds. -/
theorem set_ok_of_place? {channel : Channel} {place : Location}
    (h : table.place? channel = some place) (value : RegisterValue) :
    (table.set channel value).1 = .ok () := by
  obtain ⟨node, hn, hp⟩ := Option.bind_eq_some_iff.1 h
  obtain ⟨contents, hr⟩ := FileTree.place?_eq_some.1 hp
  simp only [set, hn, FileTree.overwrite_of_file hr]

theorem place?_congr (hn : other.nodes = table.nodes)
    (hf : ∀ path, other.files.place? path = table.files.place? path) :
    other.place? = table.place? := by
  funext channel
  simp only [place?, present?, node?, hn, hf]

/-- Where the files of nodes stand does not change by writing to one. -/
theorem place?_set (table : NodeTable) (channel : Channel) (value : RegisterValue) :
    (table.set channel value).2.place? = table.place? := by
  refine place?_congr (table.set_nodes channel value) fun path => ?_
  rcases table.set_cases channel value with ⟨-, hf⟩ | ⟨-, place, contents, -, hfile, hf⟩
  · rw [hf]
  · rw [hf, FileTree.place?_replace hfile]

/-- A write that succeeds puts its value into the file of its node and nowhere else. -/
theorem find?_set_ok {channel : Channel} {value : RegisterValue}
    (h : (table.set channel value).1 = .ok ()) (place : Location) :
    (table.set channel value).2.files.find? place = (table.files.find? place).map
      (Entry.taking (if table.place? channel = some place then some value else none)) := by
  rcases table.set_cases channel value with ⟨⟨fault, hfault⟩, -⟩ | ⟨-, at_, contents, hp, hfile, hf⟩
  · rw [h] at hfault
    cases hfault
  · rw [hf, FileTree.find?_replace hfile, hp]
    congr 1
    funext entry
    cases entry with
    | directory => rfl
    | file contents =>
      by_cases he : place = at_
      · simp [FileTree.overwritten, Entry.taking, Contents.ofValue, he]
      · have hne : ¬ (some at_ = some place) := fun e => he (Option.some.inj e).symm
        simp [FileTree.overwritten, Entry.taking, he, hne]

/-- A write to a node that is a file leaves its value there and nothing new anywhere else. -/
theorem find?_set_of_place? {channel : Channel} {place : Location}
    (h : table.place? channel = some place) (value : RegisterValue) (location : Location) :
    (table.set channel value).2.files.find? location =
      if location = place then some (.file (.ofValue value))
      else table.files.find? location := by
  obtain ⟨node, -, hp⟩ := Option.bind_eq_some_iff.1 h
  obtain ⟨contents, hr⟩ := FileTree.place?_eq_some.1 hp
  rw [find?_set_ok (set_ok_of_place? h value), h]
  by_cases he : location = place
  · rw [if_pos he, he, if_pos rfl, FileTree.find?_of_resolve hr]
    rfl
  · rw [if_neg he, if_neg fun e => he (Option.some.inj e).symm, Entry.map_taking_none]

end
end NodeTable

/-! ## Drivers on node tables -/

/-- A driver that keeps what it is told in the nodes of a table.  A write puts one value into the
node of one channel, or none anywhere. -/
class NodeDriver (σ : Type) [Device σ] where
  nodes : σ → NodeTable
  /-- The driver on other files. -/
  edit : σ → FileTree → σ
  /-- The channel whose node a write goes to, and the value that is put there. -/
  put? : Channel → RegisterValue → Option (Channel × RegisterValue)
  nodes_edit (s : σ) (files : FileTree) : nodes (edit s files) = { nodes s with files := files }
  write_some (s : σ) {channel target : Channel} {value written : RegisterValue} :
    put? channel value = some (target, written) →
      (Device.write channel value s).1 = ((nodes s).set target written).1 ∧
        nodes (Device.write channel value s).2 = ((nodes s).set target written).2
  write_none (s : σ) {channel : Channel} {value : RegisterValue} :
    put? channel value = none → nodes (Device.write channel value s).2 = nodes s
  nodes_read (s : σ) (channel : Channel) :
    nodes (Device.read channel s).2 = ((nodes s).get channel).2
  has_congr {s t : σ} : (nodes s).nodes = (nodes t).nodes → Device.has s = Device.has t

/-- On a DRV2624 every channel has its own node; of an attenuation the nearest step is put into
the scale's. -/
instance NodeDriver.drv2624 : NodeDriver Drv2624 where
  nodes s := s.nodes
  edit s files := ⟨{ s.nodes with files := files }⟩
  put?
    | .effectQueue, _ => none
    | .effectIndex, _ => none
    | .aspEnable, _ => none
    | .scale, value => value.toInt?.map fun steps => (.scale, .ofWord (Drv2624.scaleRegister steps))
    | channel, value => some (channel, value)
  nodes_edit _ _ := rfl
  write_some s {channel target value written} h := by
    cases channel with
    | effectQueue | effectIndex | aspEnable => cases h
    | scale =>
      obtain ⟨steps, hv, e⟩ := Option.map_eq_some_iff.1 h
      obtain ⟨rfl, rfl⟩ := Prod.mk.inj e
      simp only [Device.write, Drv2624.write, hv, and_self]
    | _ =>
      obtain ⟨rfl, rfl⟩ := Prod.mk.inj (Option.some.inj h)
      exact ⟨rfl, rfl⟩
  write_none s {channel value} h := by
    cases channel with
    | effectQueue | effectIndex | aspEnable => rfl
    | scale =>
      have hv : value.toInt? = none := Option.map_eq_none_iff.1 h
      simp only [Device.write, Drv2624.write, hv]
    | _ => cases h
  nodes_read _ _ := rfl
  has_congr h := NodeTable.has_congr h

/-- On a CS40L25 the mode of steady vibration and the index that a program starts with are put into
the node of the effect index; the mode of waveforms is put nowhere. -/
instance NodeDriver.cs40l25 : NodeDriver Cs40l25 where
  nodes s := s.nodes
  edit s files := ⟨{ s.nodes with files := files }⟩
  put?
    | .mode, value =>
      if value = .text PlayMode.realTime.name then
        some (.effectIndex, .ofWord Cs40l25.steadyWaveform)
      else none
    | .sequencer, value =>
      (Cs40l25.programIndex? value).map fun index => (.effectIndex, .ofWord index)
    | .ctrlLoop, _ => none
    | .waveShape, _ => none
    | .odClamp, _ => none
    | .lraPeriod, _ => none
    | .autocal, _ => none
    | .rtpInput, _ => none
    | .lpTrigger, _ => none
    | .temperature, _ => none
    | channel, value => some (channel, value)
  nodes_edit _ _ := rfl
  write_some s {channel target value written} h := by
    cases channel with
    | mode =>
      by_cases hv : value = .text PlayMode.realTime.name
      · subst hv
        obtain ⟨rfl, rfl⟩ := Prod.mk.inj (Option.some.inj h)
        exact ⟨rfl, rfl⟩
      · simp [hv] at h
    | sequencer =>
      obtain ⟨index, hv, e⟩ := Option.map_eq_some_iff.1 h
      obtain ⟨rfl, rfl⟩ := Prod.mk.inj e
      simp only [Device.write, Cs40l25.write, hv]
      exact ⟨rfl, rfl⟩
    | ctrlLoop | waveShape | odClamp | lraPeriod | autocal | rtpInput | lpTrigger | temperature =>
      cases h
    | _ =>
      obtain ⟨rfl, rfl⟩ := Prod.mk.inj (Option.some.inj h)
      exact ⟨rfl, rfl⟩
  write_none s {channel value} h := by
    cases channel with
    | mode =>
      simp only [Device.write, Cs40l25.write]
      split
      · simp [PlayMode.name] at h
      · rfl
      · rfl
    | sequencer =>
      have hv : Cs40l25.programIndex? value = none := Option.map_eq_none_iff.1 h
      simp only [Device.write, Cs40l25.write, hv]
    | ctrlLoop | waveShape | odClamp | lraPeriod | autocal | rtpInput | lpTrigger | temperature =>
      rfl
    | _ => cases h
  nodes_read _ _ := rfl
  has_congr h := Cs40l25.has_congr h

/-! ## Calls -/

inductive Call where
  | write (channel : Channel) (value : RegisterValue)
  | read (channel : Channel)
  | report

namespace Call
section
variable {σ : Type} [Device σ]

def run (s : σ) : Call → σ
  | write channel value => (Device.write channel value s).2
  | read channel => (Device.read channel s).2
  | report => s

def runAll (s : σ) (calls : List Call) : σ :=
  calls.foldl run s

def Fails (s : σ) : Call → Prop
  | write channel value => ∃ fault, (Device.write channel value s).1 = .error fault
  | read channel => ∃ fault, (Device.read channel s).1 = .error fault
  | report => False

end

section
variable {σ : Type} [Device σ] [NodeDriver σ]

/-- The value that a call puts into the node of a channel, if it succeeds and puts one anywhere. -/
def arrival? (s : σ) : Call → Option (Channel × RegisterValue)
  | write channel value =>
    match (Device.write channel value s).1 with
    | .ok _ => NodeDriver.put? σ channel value
    | .error _ => none
  | _ => none

/-- The values that calls put into nodes, the first one first. -/
def arrivals (s : σ) : List Call → List (Channel × RegisterValue)
  | [] => []
  | call :: rest => (call.arrival? s).toList ++ arrivals (call.run s) rest

/-- Of some arrivals the last one in a file. -/
def lastIn (table : NodeTable) (place : Location) (arrived : List (Channel × RegisterValue)) :
    Option RegisterValue :=
  (arrived.filter fun arrival => table.place? arrival.1 = some place).getLast?.map (·.2)

theorem lastIn_append (table : NodeTable) (place : Location)
    (earlier later : List (Channel × RegisterValue)) :
    lastIn table place (earlier ++ later) =
      (lastIn table place later).or (lastIn table place earlier) := by
  rw [lastIn, List.filter_append, List.getLast?_append, Option.map_or]
  rfl

/-! ### One call -/

/-- A call puts nothing anywhere and changes no file, or it succeeds in putting one value into the
node of one channel. -/
theorem run_cases (s : σ) (call : Call) :
    (call.arrival? s = none ∧
        (NodeDriver.nodes (call.run s)).files = (NodeDriver.nodes s).files) ∨
      (¬ call.Fails s ∧ ∃ target written, call.arrival? s = some (target, written) ∧
        ((NodeDriver.nodes s).set target written).1 = .ok () ∧
        NodeDriver.nodes (call.run s) = ((NodeDriver.nodes s).set target written).2) := by
  cases call with
  | read channel => exact .inl ⟨rfl, by rw [run, NodeDriver.nodes_read, NodeTable.get_files]⟩
  | report => exact .inl ⟨rfl, rfl⟩
  | write channel value =>
    cases hput : NodeDriver.put? σ channel value with
    | none =>
      refine .inl ⟨?_, by rw [run, NodeDriver.write_none s hput]⟩
      simp only [arrival?, hput]
      split <;> rfl
    | some put =>
      obtain ⟨target, written⟩ := put
      obtain ⟨ho, hn⟩ := NodeDriver.write_some s hput
      rcases (NodeDriver.nodes s).set_cases target written with ⟨⟨fault, hf⟩, hfiles⟩ | ⟨hok, -⟩
      · refine .inl ⟨?_, by rw [run, hn, hfiles]⟩
        simp only [arrival?, ho, hf]
      · refine .inr ⟨?_, target, written, ?_, hok, hn⟩
        · rintro ⟨fault, hf⟩
          rw [ho, hok] at hf
          cases hf
        · simp only [arrival?, ho, hok, hput]

/-- A call that fails changes no file. -/
theorem files_run_of_fails {s : σ} {call : Call} (h : call.Fails s) :
    (NodeDriver.nodes (call.run s)).files = (NodeDriver.nodes s).files := by
  rcases run_cases s call with ⟨-, hf⟩ | ⟨hn, -⟩
  · exact hf
  · exact absurd h hn

theorem nodes_run (s : σ) (call : Call) :
    (NodeDriver.nodes (call.run s)).nodes = (NodeDriver.nodes s).nodes := by
  cases call with
  | write channel value =>
    cases hput : NodeDriver.put? σ channel value with
    | none => rw [run, NodeDriver.write_none s hput]
    | some put => rw [run, (NodeDriver.write_some s hput).2, NodeTable.set_nodes]
  | read channel => rw [run, NodeDriver.nodes_read, NodeTable.get_nodes]
  | report => rfl

/-- Where the files of nodes stand does not change by a call. -/
theorem place?_run (s : σ) (call : Call) :
    (NodeDriver.nodes (call.run s)).place? = (NodeDriver.nodes s).place? := by
  rcases run_cases s call with ⟨-, hf⟩ | ⟨-, target, written, -, -, hn⟩
  · exact NodeTable.place?_congr (nodes_run s call) fun path => by rw [hf]
  · rw [hn, NodeTable.place?_set]

/-- A call changes at most the file that its value arrives in. -/
theorem find?_run (s : σ) (call : Call) (place : Location) :
    (NodeDriver.nodes (call.run s)).files.find? place =
      ((NodeDriver.nodes s).files.find? place).map
        (Entry.taking (lastIn (NodeDriver.nodes s) place (call.arrival? s).toList)) := by
  rcases run_cases s call with ⟨ha, hf⟩ | ⟨-, target, written, ha, hok, hn⟩
  · rw [ha, hf]
    exact (Entry.map_taking_none _).symm
  · rw [ha, hn, NodeTable.find?_set_ok hok]
    by_cases hp : (NodeDriver.nodes s).place? target = some place <;> simp [lastIn, hp]

/-! ### Runs -/

/-- After any calls each file holds what last arrived in it, or what it held before. -/
theorem find?_runAll (s : σ) (calls : List Call) (place : Location) :
    (NodeDriver.nodes (runAll s calls)).files.find? place =
      ((NodeDriver.nodes s).files.find? place).map
        (Entry.taking (lastIn (NodeDriver.nodes s) place (arrivals s calls))) := by
  induction calls generalizing s with
  | nil => exact (Entry.map_taking_none _).symm
  | cons call rest ih =>
    have hlast : lastIn (NodeDriver.nodes (call.run s)) place (arrivals (call.run s) rest) =
        lastIn (NodeDriver.nodes s) place (arrivals (call.run s) rest) := by
      simp only [lastIn, place?_run]
    rw [arrivals, lastIn_append, ← hlast]
    change (NodeDriver.nodes (runAll (call.run s) rest)).files.find? place = _
    rw [ih, find?_run, Option.map_map]
    congr 1
    funext entry
    exact entry.taking_taking _ _

end
end Call

/-! ## Calls and edits -/

/-- What happens to a driver: it is called, or files are edited from outside. -/
inductive Touch where
  | call (call : Call)
  | edit (files : FileTree)

section
variable {σ : Type} [Device σ] [NodeDriver σ]

/-- The driver after what happened to it. -/
def touched (s : σ) : Touch → σ
  | .call call => call.run s
  | .edit files => NodeDriver.edit s files

/-- Whatever happens, the driver keeps the nodes that it was opened with. -/
theorem nodes_touched (s : σ) (touches : List Touch) :
    (NodeDriver.nodes (touches.foldl touched s)).nodes = (NodeDriver.nodes s).nodes := by
  induction touches generalizing s with
  | nil => rfl
  | cons touch rest ih =>
    refine (ih (touched s touch)).trans ?_
    cases touch with
    | call call => exact Call.nodes_run s call
    | edit files => rw [touched, NodeDriver.nodes_edit]

/-- **Node files hold what was last written to them, and nothing else changes.**  After any run of
calls to a driver on a node table no file or directory has come or gone.  Every file holds the value
of the last write that succeeded and reached it through some node, with a newline, or else what it
held before; where a file belongs to one channel only, this is the last write that reached that
channel's node.  A file that belongs to no node is as it was, and so are all files after a call
that fails.  Whatever is called and edited, the driver exposes the same channels. -/
theorem node_files_hold_last_arrival (s : σ) (calls : List Call) :
    let table := NodeDriver.nodes s
    let after := (NodeDriver.nodes (Call.runAll s calls)).files
    (∀ place, (after.find? place = none ↔ table.files.find? place = none) ∧
      (after.find? place = some .directory ↔ table.files.find? place = some .directory)) ∧
    (∀ place contents, table.files.find? place = some (.file contents) →
      after.find? place = some (.file
        ((Call.lastIn table place (Call.arrivals s calls)).elim contents Contents.ofValue))) ∧
    (∀ channel place contents, table.place? channel = some place →
      (∀ other, table.place? other = some place → other = channel) →
      table.files.find? place = some (.file contents) →
        after.find? place = some (.file
          ((((Call.arrivals s calls).filter fun arrival => arrival.1 = channel).getLast?.map
            (·.2)).elim contents Contents.ofValue))) ∧
    (∀ place, (∀ channel, table.place? channel ≠ some place) →
      after.find? place = table.files.find? place) ∧
    (∀ call : Call, call.Fails (Call.runAll s calls) →
      (NodeDriver.nodes (call.run (Call.runAll s calls))).files = after) ∧
    ∀ touches : List Touch, Device.has (touches.foldl touched s) = Device.has s := by
  intro table after
  have hafter (place : Location) : after.find? place = (table.files.find? place).map
      (Entry.taking (Call.lastIn table place (Call.arrivals s calls))) :=
    Call.find?_runAll s calls place
  refine ⟨fun place => ?_, fun place contents hfile => ?_,
    fun channel place contents hp halone hfile => ?_, fun place hnone => ?_,
    fun call hfails => Call.files_run_of_fails hfails,
    fun touches => NodeDriver.has_congr (nodes_touched s touches)⟩
  · rw [hafter]
    rcases table.files.find? place with _ | _ | _ <;> simp [Entry.taking]
  · rw [hafter, hfile]
    rfl
  · have hone : ((Call.arrivals s calls).filter fun arrival =>
        table.place? arrival.1 = some place) =
          (Call.arrivals s calls).filter fun arrival => arrival.1 = channel := by
      refine List.filter_congr fun arrival _ => ?_
      exact decide_eq_decide.2 ⟨fun h => halone _ h, fun h => h ▸ hp⟩
    rw [hafter, hfile, Call.lastIn, hone]
    rfl
  · have hno : Call.lastIn table place (Call.arrivals s calls) = none := by
      simp [Call.lastIn, hnone]
    rw [hafter, hno, Entry.map_taking_none]

end

/-- A tree that either driver can be opened on, with a few of their nodes. -/
def sharedBench : FileTree :=
  { entries :=
      [(["device"], .directory), (["activate"], .file (.text "0\n")),
       (["device", "scale"], .file (.text "0\n")),
       (["device", "cp_trigger_index"], .file (.text "0\n"))]
    workingDirectory := [] }

theorem scale_and_index_hold_last_arrival :
    (NodeDriver.nodes (Call.runAll (Drv2624.attach sharedBench "" "temp")
        [.write .scale (.int 30), .write .scale (.text "loud"), .read .scale])).files.find?
      ["device", "scale"] = some (.file (.text "1\n")) ∧
    (NodeDriver.nodes (Call.runAll (Cs40l25.attach sharedBench "")
        [.write .mode (.text "rtp"), .write .sequencer (.text "4 0"),
         .write .mode (.text "waveform"), .write .activate (.bool true)])).files.find?
      ["device", "cp_trigger_index"] = some (.file (.text "4\n")) := by
  have hscale : ∀ other ∈ Channel.all,
      (Drv2624.attach sharedBench "" "temp").nodes.place? other = some ["device", "scale"] →
        other = .scale := by decide
  have hindex : ∀ other ∈ Channel.all,
      (Cs40l25.attach sharedBench "").nodes.place? other = some ["device", "cp_trigger_index"] →
        other = .effectIndex := by decide
  exact ⟨(node_files_hold_last_arrival _ _).2.2.1 .scale ["device", "scale"] (.text "0\n") rfl
      (fun other => hscale other (Channel.mem_all other)) rfl,
    (node_files_hold_last_arrival _ _).2.2.1 .effectIndex ["device", "cp_trigger_index"]
      (.text "0\n") rfl (fun other => hindex other (Channel.mem_all other)) rfl⟩

end Haptics
