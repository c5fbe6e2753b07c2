import Haptics.FileTree

/-!
# Where paths lead

A path below a base is followed like the base and then on by its own names (`names_join`).
Whatever stands on the way, the place reached is called by the last name of the path
(`getLast?_of_follow`), so that paths with different last names lead to different places.
-/

namespace Haptics

/-! ## Cutting -/

namespace Text

theorem cutAt_ne_nil (test : Char → Bool) (cs : List Char) : cutAt test cs ≠ [] := by
  cases cs with
  | nil => simp [cutAt]
  | cons c rest =>
    rw [cutAt]
    split
    · simp
    · split <;> simp

/-- A separator ends one piece and starts another. -/
theorem cutAt_separator {test : Char → Bool} {c : Char} (h : test c = true)
    (before after : List Char) :
    cutAt test (before ++ c :: after) = cutAt test before ++ cutAt test after := by
  induction before with
  | nil => simp [cutAt, h]
  | cons first rest ih =>
    rw [List.cons_append, cutAt, cutAt, ih]
    split
    · rfl
    · -- the first piece of `rest` takes in the character, whatever follows
      cases hc : cutAt test rest with
      | nil => exact absurd hc (cutAt_ne_nil test rest)
      | cons piece pieces => rfl

theorem runs_separator {test : Char → Bool} {c : Char} (h : test c = true)
    (before after : List Char) :
    runs test (before ++ c :: after) = runs test before ++ runs test after := by
  rw [runs, cutAt_separator h, List.filter_append]
  rfl

end Text

/-! ## Names -/

namespace FileTree

theorem names_of_separator {before after : List Char} {path : String}
    (hp : path.toList = before ++ '/' :: after) (hne : after ≠ []) :
    names path = (Text.runs (· == '/') before).map String.ofList ++ names (String.ofList after) := by
  have hlast : path.toList.getLast? = after.getLast? := by
    rw [hp, List.getLast?_append, List.getLast?_cons_of_ne_nil hne]
    cases hl : after.getLast? with
    | none => exact absurd (List.getLast?_eq_none_iff.1 hl) hne
    | some c => rfl
  rw [names, names, hlast, hp, Text.runs_separator (by simp), String.toList_ofList, List.map_append]
  split <;> simp

/-- A path below a base goes on where the base leads. -/
theorem names_join (base name : String) (hne : name.toList ≠ []) :
    ∃ before, names (join base name) = before ++ names name := by
  have hname : String.ofList name.toList = name := String.ofList_toList
  unfold join
  split
  · exact ⟨[], rfl⟩
  · split
    · rename_i hslash
      obtain ⟨before, hb⟩ : ∃ before, base.toList = before ++ ['/'] :=
        List.getLast?_eq_some_iff.1 hslash
      have hp : (base ++ name).toList = before ++ '/' :: name.toList := by
        rw [String.toList_append, hb, List.append_assoc]
        rfl
      exact ⟨_, by rw [names_of_separator hp hne, hname]⟩
    · have hp : (base ++ "/" ++ name).toList = base.toList ++ '/' :: name.toList := by
        rw [String.toList_append, String.toList_append, List.append_assoc]
        rfl
      exact ⟨_, by rw [names_of_separator hp hne, hname]⟩

/-- The last name of a path, where it is neither a dot nor two. -/
def leaf? (path : String) : Option String :=
  (names path).getLast?.filter fun name => name ≠ "." ∧ name ≠ ".."

theorem leaf?_eq_some {path leaf : String} (h : leaf? path = some leaf) :
    (names path).getLast? = some leaf ∧ leaf ≠ "." ∧ leaf ≠ ".." := by
  obtain ⟨hl, hd⟩ := Option.filter_eq_some_iff.1 h
  exact ⟨hl, by simpa using hd⟩

/-- The last name of a path is also that of the path below a base. -/
theorem leaf?_join (base : String) {name leaf : String} (h : leaf? name = some leaf) :
    leaf? (join base name) = some leaf := by
  have hleaf := (leaf?_eq_some h).1
  have hne : name.toList ≠ [] := by
    intro hnil
    rw [names, hnil] at hleaf
    cases hleaf
  obtain ⟨before, hb⟩ := names_join base name hne
  have hlast : (names (join base name)).getLast? = (names name).getLast? := by
    rw [hb, List.getLast?_append, hleaf]
    rfl
  rw [leaf?, hlast]
  exact h

/-! ## Places -/

/-- The place that a path leads to is called by the path's last name, unless this is a dot or two. -/
theorem getLast?_of_follow {tree : FileTree} {start place : Location} {entry found : Entry}
    {path : List String} {leaf : String} (h : tree.follow start entry path = .ok (place, found))
    (hleaf : path.getLast? = some leaf) (hdot : leaf ≠ ".") (hdots : leaf ≠ "..") :
    place.getLast? = some leaf := by
  induction path generalizing start entry with
  | nil => cases hleaf
  | cons name rest ih =>
    cases entry with
    | file contents => cases h
    | directory =>
      cases rest with
      | nil =>
        obtain rfl : name = leaf := Option.some.inj hleaf
        rw [follow, if_neg hdot, if_neg hdots] at h
        split at h
        · obtain ⟨rfl, -⟩ := Prod.mk.inj (Except.ok.inj h)
          exact List.getLast?_concat
        · cases h
      | cons next rest =>
        rw [List.getLast?_cons_cons] at hleaf
        rw [follow] at h
        split at h
        · exact ih h hleaf
        · split at h
          · exact ih h hleaf
          · split at h
            · exact ih h hleaf
            · cases h

theorem getLast?_of_resolve {tree : FileTree} {path leaf : String} {place : Location}
    {found : Entry} (h : tree.resolve path = .ok (place, found)) (hleaf : leaf? path = some leaf) :
    place.getLast? = some leaf := by
  obtain ⟨hlast, hdot, hdots⟩ := leaf?_eq_some hleaf
  unfold resolve at h
  split at h
  · cases h
  · exact getLast?_of_follow h hlast hdot hdots

/-- What is found as a file stands in the tree as that file. -/
theorem find?_of_follow {tree : FileTree} {start place : Location} {entry : Entry}
    {contents : Contents} {path : List String}
    (h : tree.follow start entry path = .ok (place, .file contents)) :
    (place = start ∧ entry = .file contents) ∨ tree.find? place = some (.file contents) := by
  induction path generalizing start entry with
  | nil =>
    obtain ⟨rfl, rfl⟩ := Prod.mk.inj (Except.ok.inj h)
    exact .inl ⟨rfl, rfl⟩
  | cons name rest ih =>
    cases entry with
    | file contents => cases h
    | directory =>
      rw [follow] at h
      split at h
      · rcases ih h with ⟨-, hfile⟩ | hfound
        · cases hfile
        · exact .inr hfound
      · split at h
        · rcases ih h with ⟨-, hfile⟩ | hfound
          · cases hfile
          · exact .inr hfound
        · split at h
          · rename_i next hnext
            rcases ih h with ⟨rfl, rfl⟩ | hfound
            · exact .inr hnext
            · exact .inr hfound
          · cases h

theorem find?_of_resolve {tree : FileTree} {path : String} {place : Location}
    {contents : Contents} (h : tree.resolve path = .ok (place, .file contents)) :
    tree.find? place = some (.file contents) := by
  unfold resolve at h
  split at h
  · cases h
  · rcases find?_of_follow h with ⟨-, hfile⟩ | hfound
    · cases hfile
    · exact hfound

end FileTree
end Haptics
