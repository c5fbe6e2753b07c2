import Haptics.Proofs.Exposure
import Haptics.Proofs.HiddenChannels
import Mathlib.Data.List.DropRight

/-!
# The history of a node table

A history keeps the last entries of all that was ever noted.  Which entries these are is said
without the table: an access is noted if its channel was last mapped to a node that was there at
that time (`lastMapped?`), with the value that it wrote or was answered (`noted`).  One step appends
at most one entry and drops at most one (`history_step`), and the induction over a run needs only
that what a history dropped once it never needs again (`rtake_append_rtake`).
-/

namespace Haptics.NodeTable

/-! ## Steps -/

/-- What happens to a node table: a channel is mapped, written or read, or files are edited from
outside. -/
inductive Step where
  | attach (channel : Channel) (name : String)
  | set (channel : Channel) (value : RegisterValue)
  | get (channel : Channel)
  | edit (files : FileTree)

def step (table : NodeTable) : Step → NodeTable
  | .attach channel name => table.attach channel name
  | .set channel value => (table.set channel value).2
  | .get channel => (table.get channel).2
  | .edit files => { table with files := files }

def stepAll (table : NodeTable) (steps : List Step) : NodeTable :=
  steps.foldl step table

/-! ## What should be kept -/

/-- The node that a step maps a channel to, present if its path led anywhere at that time. -/
def Step.mapped? (table : NodeTable) (channel : Channel) : Step → Option Node
  | .attach other name =>
    if other = channel then
      some { name := name, path := FileTree.join table.base name,
             present := table.files.contains (FileTree.join table.base name) }
    else none
  | _ => none

/-- The node that the last of some steps mapped a channel to. -/
def mapping? (table : NodeTable) (channel : Channel) : List Step → Option Node
  | [] => none
  | first :: rest => (mapping? (table.step first) channel rest).or (first.mapped? table channel)

/-- The node that a channel was last mapped to, if it was present then. -/
def lastMapped? (table : NodeTable) (steps : List Step) (channel : Channel) : Option Node :=
  (table.mapping? channel steps).filter fun node => node.present

/-- The value that was read, or nothing of a read that failed. -/
def answerText : Except Fault RegisterValue → String
  | .ok value => value.toText
  | .error _ => ""

/-- What a step after others leaves behind. -/
def leaves? (table : NodeTable) (past : List Step) : Step → Option Traffic
  | .set channel value => (table.lastMapped? past channel).map fun node =>
      { operation := .set, node := node.name, value := value.toText }
  | .get channel => (table.lastMapped? past channel).map fun node =>
      { operation := .get, node := node.name,
        value := answerText ((table.stepAll past).get channel).1 }
  | .attach _ _ => none
  | .edit _ => none

/-- All that some steps after others leave behind, the oldest first. -/
def noted (table : NodeTable) (past : List Step) : List Step → List Traffic
  | [] => []
  | first :: rest => (table.leaves? past first).toList ++ noted table (past ++ [first]) rest

/-! ## Mapped nodes -/

section
variable {table : NodeTable}

theorem node?_attach (table : NodeTable) (other : Channel) (name : String) (channel : Channel) :
    (table.attach other name).node? channel =
      (Step.mapped? table channel (.attach other name)).or (table.node? channel) := by
  rw [node?, attach, Step.mapped?, List.lookup_cons]
  by_cases hc : other = channel
  · subst hc
    simp
  · have hb : (channel == other) = false := beq_false_of_ne (Ne.symm hc)
    rw [hb, if_neg hc, Option.none_or]
    rfl

/-- Only mapping a channel changes the node it has. -/
theorem node?_step (table : NodeTable) (s : Step) (channel : Channel) :
    (table.step s).node? channel = (s.mapped? table channel).or (table.node? channel) := by
  cases s with
  | attach other name => exact table.node?_attach other name channel
  | set other value =>
    rw [node?, step, set_nodes]
    rfl
  | get other =>
    rw [node?, step, get_nodes]
    rfl
  | edit files => rfl

theorem node?_stepAll (table : NodeTable) (steps : List Step) (channel : Channel) :
    (table.stepAll steps).node? channel =
      (table.mapping? channel steps).or (table.node? channel) := by
  induction steps generalizing table with
  | nil => rfl
  | cons first rest ih =>
    calc ((table.step first).stepAll rest).node? channel
        = ((table.step first).mapping? channel rest).or ((table.step first).node? channel) := ih _
      _ = ((table.step first).mapping? channel rest).or
            ((first.mapped? table channel).or (table.node? channel)) := by rw [node?_step]
      _ = (table.mapping? channel (first :: rest)).or (table.node? channel) :=
          (Option.or_assoc ..).symm

/-- In a table that started empty, the nodes that can be used are those that were present when
they were last mapped. -/
theorem present?_stepAll (hnew : table.nodes = []) (steps : List Step) (channel : Channel) :
    (table.stepAll steps).present? channel = table.lastMapped? steps channel := by
  have hnone : table.node? channel = none := by
    rw [node?, hnew]
    rfl
  rw [present?, node?_stepAll, hnone, Option.or_none, lastMapped?]

theorem has_eq_false_of_lastMapped? (hnew : table.nodes = []) {steps : List Step}
    {channel : Channel} (h : table.lastMapped? steps channel = none) :
    (table.stepAll steps).has channel = false := by
  rw [has, present?_stepAll hnew, h]
  rfl

end

/-! ## Bounded histories -/

/-- What a history dropped once is never needed again. -/
theorem rtake_append_rtake {α : Type} (n : Nat) (first second : List α) :
    (first.rtake n ++ second).rtake n = (first ++ second).rtake n := by
  simp only [List.rtake_eq_reverse_take_reverse, List.reverse_append, List.reverse_reverse,
    List.take_append, List.take_take]
  congr 2
  rw [Nat.min_eq_left (by omega)]

theorem remember_rtake (all : List Traffic) (access : Traffic) :
    remember (all.rtake historySize) access = (all ++ [access]).rtake historySize :=
  rtake_append_rtake historySize all [access]

theorem history_set {table : NodeTable} (channel : Channel) (value : RegisterValue) {node : Node}
    (h : table.present? channel = some node) :
    (table.set channel value).2.history =
      remember table.history ⟨.set, node.name, value.toText⟩ := by
  rw [set, h]
  dsimp only
  split <;> rfl

theorem history_get {table : NodeTable} (channel : Channel) {node : Node}
    (h : table.present? channel = some node) :
    (table.get channel).2.history =
      remember table.history ⟨.get, node.name, answerText (table.get channel).1⟩ := by
  rw [get, h]
  dsimp only
  split <;> rfl

section
variable {table : NodeTable} {past : List Step} {all : List Traffic}

/-- A step that leaves nothing behind leaves the history as it was. -/
theorem history_of_leaves?_eq_none (hnew : table.nodes = []) {s : Step}
    (h : table.leaves? past s = none) :
    ((table.stepAll past).step s).history = (table.stepAll past).history := by
  cases s with
  | attach channel name | edit files => rfl
  | set channel value =>
    have hhidden := has_eq_false_of_lastMapped? hnew (Option.map_eq_none_iff.1 h)
    rw [step, set_hidden hhidden]
  | get channel =>
    have hhidden := has_eq_false_of_lastMapped? hnew (Option.map_eq_none_iff.1 h)
    rw [step, get_hidden hhidden]

/-- What a step leaves behind is remembered. -/
theorem history_of_leaves?_eq_some (hnew : table.nodes = []) {s : Step} {access : Traffic}
    (h : table.leaves? past s = some access) :
    ((table.stepAll past).step s).history = remember (table.stepAll past).history access := by
  cases s with
  | attach channel name | edit files => cases h
  | set channel value =>
    obtain ⟨node, hnode, rfl⟩ := Option.map_eq_some_iff.1 h
    exact history_set channel value ((present?_stepAll hnew past channel).trans hnode)
  | get channel =>
    obtain ⟨node, hnode, rfl⟩ := Option.map_eq_some_iff.1 h
    exact history_get channel ((present?_stepAll hnew past channel).trans hnode)

/-- A step appends what it leaves behind, and drops no more than the oldest entry. -/
theorem history_step (hnew : table.nodes = [])
    (hkept : (table.stepAll past).history = all.rtake historySize) (s : Step) :
    (table.stepAll (past ++ [s])).history =
      (all ++ (table.leaves? past s).toList).rtake historySize := by
  have hlast : table.stepAll (past ++ [s]) = (table.stepAll past).step s := List.foldl_concat ..
  rw [hlast]
  cases hleft : table.leaves? past s with
  | none =>
    rw [history_of_leaves?_eq_none hnew hleft, Option.toList_none, List.append_nil]
    exact hkept
  | some access =>
    rw [history_of_leaves?_eq_some hnew hleft, hkept]
    exact remember_rtake all access

/-- A run keeps the last entries of all that its steps leave behind. -/
theorem history_stepAll (hnew : table.nodes = [])
    (hkept : (table.stepAll past).history = all.rtake historySize) (steps : List Step) :
    (table.stepAll (past ++ steps)).history =
      (all ++ table.noted past steps).rtake historySize := by
  induction steps generalizing past all with
  | nil =>
    rw [List.append_nil, noted, List.append_nil]
    exact hkept
  | cons first rest ih =>
    have hrest := ih (history_step hnew hkept first)
    rw [List.append_assoc, List.append_assoc] at hrest
    exact hrest

end

theorem length_rtake {α : Type} (n : Nat) (items : List α) :
    (items.rtake n).length = min n items.length := by
  rw [List.rtake, List.length_drop]
  omega

/-- **The history is the last thirty-two accesses**, or all of them if there were fewer, the oldest
first.  The accesses are the writes and reads of channels whose last mapping led to something at
that time, whatever became of it since; a write is kept with its value and a read with its answer,
also where they failed.  A channel without such a mapping is refused, and nothing is kept of it. -/
theorem history_keeps_last_accesses (files : FileTree) (base : String) (steps : List Step) :
    let start : NodeTable := { files := files, base := base }
    let table := start.stepAll steps
    let all := start.noted [] steps
    (∃ kept, kept <:+ all ∧ kept.length = min 32 all.length ∧
      table.records = kept.map Traffic.text) ∧
    table.records.length ≤ 32 ∧
    ∀ channel, start.lastMapped? steps channel = none →
      (∀ value, table.set channel value = (.error (.notExposed channel), table)) ∧
      table.get channel = (.error (.notExposed channel), table) := by
  intro start table all
  have hrun : (start.stepAll ([] ++ steps)).history = ([] ++ all).rtake 32 :=
    history_stepAll rfl rfl steps
  have hkept : table.history = all.rtake 32 := hrun
  have hlength : (all.rtake 32).length = min 32 all.length := length_rtake 32 all
  refine ⟨⟨all.rtake 32, List.drop_suffix _ _, hlength, by rw [records, hkept]⟩, ?_,
    fun channel hlast => ?_⟩
  · rw [records, List.length_map, hkept]
    omega
  · have hhidden := has_eq_false_of_lastMapped? rfl hlast
    exact ⟨set_hidden hhidden, get_hidden hhidden⟩

/-- A node that is gone is still written and read in vain, and one that was missing when it was
mapped is not. -/
theorem lost_node_leaves_entries :
    let start : NodeTable :=
      { files := { entries := [(["duration"], .file (.text "0\n"))], workingDirectory := [] }
        base := "" }
    let steps : List Step :=
      [.attach .duration "duration", .attach .scale "scale", .set .duration (.int 12),
        .get .duration, .edit { entries := [], workingDirectory := [] },
        .set .duration (.int 13), .get .duration, .set .scale (.int 1), .get .mode]
    (start.stepAll steps).records =
      ["set 'duration' = '12'", "get 'duration' = '12'", "set 'duration' = '13'",
        "get 'duration' = ''"] ∧
    (start.stepAll steps).get .scale = (.error (.notExposed .scale), start.stepAll steps) := by
  intro start steps
  obtain ⟨⟨kept, hsuffix, hlength, hrecords⟩, -, hrefused⟩ :=
    history_keeps_last_accesses start.files start.base steps
  have hall : start.noted [] steps =
      [⟨.set, "duration", "12"⟩, ⟨.get, "duration", "12"⟩, ⟨.set, "duration", "13"⟩,
        ⟨.get, "duration", ""⟩] := by decide
  have hkept : kept = start.noted [] steps := by
    refine hsuffix.eq_of_length (hlength.trans ?_)
    change min 32 (start.noted [] steps).length = (start.noted [] steps).length
    rw [hall]
    rfl
  refine ⟨?_, (hrefused .scale (by decide)).2⟩
  rw [hkept, hall] at hrecords
  exact hrecords

end Haptics.NodeTable
