import Haptics.Proofs.Exposure
import Haptics.Proofs.Paths

/-!
# Files below nodes

Overwriting a file changes what stands at its own path, and nothing at a path with another last
name (`resolve_overwrite`, `resolve_overwrite_of_ne`).  A write to a node table overwrites the file
of its channel's node or changes no file (`set_files`), and a read changes none (`get_files`).
-/

namespace Haptics
namespace FileTree

/-! ## Overwriting -/

/-- What stands at a place once the file at a location holds another value. -/
def overwritten (location : Location) (value : String) (place : Location) : Entry → Entry
  | .directory => .directory
  | .file contents => .file (if place = location then .text value else contents)

section
variable {tree files : FileTree} {location : Location} {contents : Contents} {path other value : String}

theorem lookup_replace (entries : List (Location × Entry)) (location place : Location)
    (value : String) :
    (entries.map fun item =>
        if item.1 = location then (location, Entry.file (.text value)) else item).lookup place =
      if place = location then (entries.lookup place).map fun _ => Entry.file (.text value)
      else entries.lookup place := by
  induction entries with
  | nil => simp
  | cons item rest ih =>
    obtain ⟨at_, entry⟩ := item
    rw [List.map_cons]
    by_cases ha : at_ = location
    · subst ha
      by_cases hp : place = at_
      · simp [hp]
      · have hb : (place == at_) = false := beq_false_of_ne hp
        rw [if_pos rfl, List.lookup_cons, hb, List.lookup_cons, hb]
        exact ih
    · rw [if_neg ha]
      by_cases hp : place = at_
      · subst hp
        simp [ha]
      · have hb : (place == at_) = false := beq_false_of_ne hp
        rw [List.lookup_cons, hb, List.lookup_cons, hb]
        exact ih

theorem find?_replace (h : tree.find? location = some (.file contents)) (value : String)
    (place : Location) :
    (tree.replace location value).find? place =
      (tree.find? place).map (overwritten location value place) := by
  rw [find?, find?]
  by_cases hroot : place = []
  · simp [hroot, overwritten]
  · rw [if_neg hroot, if_neg hroot, replace, lookup_replace]
    by_cases hp : place = location
    · subst hp
      rw [find?, if_neg hroot] at h
      simp [h, overwritten]
    · rw [if_neg hp]
      cases tree.entries.lookup place with
      | none => rfl
      | some entry => cases entry <;> simp [overwritten, hp]

/-- Paths lead to the same places after a file was overwritten. -/
theorem follow_replace (h : tree.find? location = some (.file contents)) (value : String)
    (start : Location) (entry : Entry) (path : List String) :
    (tree.replace location value).follow start (overwritten location value start entry) path =
      (tree.follow start entry path).map fun found =>
        (found.1, overwritten location value found.1 found.2) := by
  induction path generalizing start entry with
  | nil => rfl
  | cons name rest ih =>
    cases entry with
    | file contents => rfl
    | directory =>
      rw [overwritten, follow, follow]
      split
      · exact ih start .directory
      · split
        · exact ih start.dropLast .directory
        · rw [find?_replace h]
          cases tree.find? (start ++ [name]) with
          | none => rfl
          | some next => exact ih (start ++ [name]) next

theorem resolve_replace (h : tree.find? location = some (.file contents)) (value path : String) :
    (tree.replace location value).resolve path =
      (tree.resolve path).map fun found =>
        (found.1, overwritten location value found.1 found.2) := by
  rw [resolve, resolve]
  split
  · rfl
  · exact follow_replace h value _ .directory _

theorem overwrite_ok (h : tree.overwrite path value = .ok files) :
    ∃ location contents, tree.resolve path = .ok (location, .file contents) ∧
      files = tree.replace location value := by
  unfold overwrite at h
  split at h
  · cases h
  · cases h
  · rename_i location contents hr
    exact ⟨location, contents, hr, (Except.ok.inj h).symm⟩

theorem overwrite_of_file (h : tree.resolve path = .ok (location, .file contents))
    (value : String) : tree.overwrite path value = .ok (tree.replace location value) := by
  rw [overwrite, h]

/-- What is written to a file stands there. -/
theorem resolve_overwrite (h : tree.overwrite path value = .ok files)
    (hfile : tree.resolve path = .ok (location, .file contents)) :
    files.resolve path = .ok (location, .file (.text value)) := by
  rw [overwrite_of_file hfile] at h
  obtain rfl := Except.ok.inj h
  rw [resolve_replace (find?_of_resolve hfile), hfile]
  simp [Except.map, overwritten]

/-- Files stay files where they are, whatever is overwritten. -/
theorem resolve_overwrite_file (h : tree.overwrite path value = .ok files)
    (hfile : tree.resolve other = .ok (location, .file contents)) :
    ∃ contents, files.resolve other = .ok (location, .file contents) := by
  obtain ⟨_, _, hr, rfl⟩ := overwrite_ok h
  rw [resolve_replace (find?_of_resolve hr), hfile]
  exact ⟨_, rfl⟩

/-- What stands at paths with another last name stays. -/
theorem resolve_overwrite_of_ne (h : tree.overwrite path value = .ok files)
    {leaf otherLeaf : String} (hleaf : leaf? path = some leaf)
    (hother : leaf? other = some otherLeaf) (hne : leaf ≠ otherLeaf) :
    files.resolve other = tree.resolve other := by
  obtain ⟨location, contents, hr, rfl⟩ := overwrite_ok h
  have hlocation := getLast?_of_resolve hr hleaf
  rw [resolve_replace (find?_of_resolve hr)]
  cases ho : tree.resolve other with
  | error fault => rfl
  | ok found =>
    obtain ⟨place, entry⟩ := found
    have hp : place ≠ location := by
      intro e
      have hplace := getLast?_of_resolve ho hother
      rw [e, hlocation] at hplace
      exact hne (Option.some.inj hplace)
    cases entry <;> simp [Except.map, overwritten, hp]

/-- What is read at a path is what stands there. -/
theorem readText_congr (h : files.resolve path = tree.resolve path) :
    files.readText path = tree.readText path := by
  rw [readText, readText, h]

/-- What is written to a file is read there. -/
theorem readText_overwrite (h : tree.overwrite path value = .ok files) :
    files.readText path = .ok value := by
  obtain ⟨location, contents, hr, -⟩ := overwrite_ok h
  rw [readText, resolve_overwrite h hr]

end
end FileTree

/-! ## Node tables -/

namespace NodeTable

/-- A write to a channel overwrites the file of its node, or changes no file. -/
theorem set_files (table : NodeTable) (channel : Channel) (value : RegisterValue) :
    (table.set channel value).2.files = table.files ∨
      ∃ node, table.present? channel = some node ∧
        table.files.overwrite node.path (value.toText ++ "\n") =
          .ok (table.set channel value).2.files := by
  unfold set
  split
  · exact .inl rfl
  · rename_i node hn
    split
    · rename_i files hf
      exact .inr ⟨node, hn, hf⟩
    · exact .inl rfl

/-- A write that succeeds has overwritten the file of the channel's node. -/
theorem set_ok {table : NodeTable} {channel : Channel} {value : RegisterValue}
    (h : (table.set channel value).1 = .ok ()) :
    ∃ node, table.present? channel = some node ∧
      table.files.overwrite node.path (value.toText ++ "\n") =
        .ok (table.set channel value).2.files := by
  unfold set at h ⊢
  split at h
  · cases h
  · rename_i node hn
    split at h
    · rename_i files hf
      exact ⟨node, hn, hf⟩
    · cases h

theorem get_files (table : NodeTable) (channel : Channel) :
    (table.get channel).2.files = table.files := by
  unfold get
  split
  · rfl
  · split <;> rfl

end NodeTable
end Haptics
