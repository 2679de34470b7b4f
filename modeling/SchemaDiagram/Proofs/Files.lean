import SchemaDiagram.FileTree
import SchemaDiagram.Proofs.Results

/-!
# Reading what has been written

A file that has been written is read back under the path by which it was written
(`FileTree.read_write`). Writing only adds to a tree: a path that could be followed before leads
to the same place afterwards (`FileTree.LeadsTo.put`). So, after several files have been written,
what stands at a place is what was written last by a path that leads to it
(`FileTree.file?_writeAll_last`), and other places are as before
(`FileTree.file?_writeAll_of_not_leadsTo`).
-/

namespace SchemaDiagram

namespace FileTree

variable {tree : FileTree} {place inner : List String}

/-- Directories stay. -/
theorem hasDirectory_put (file : List String) (content : String) (h : tree.hasDirectory place) :
    (tree.put file content).hasDirectory place := by
  rw [hasDirectory, Bool.or_eq_true, List.any_eq_true] at h ⊢
  rcases h with h | ⟨⟨other, text⟩, hmem, hbelow⟩
  · exact .inl h
  · right
    -- The file that made a directory of the place may be the one that is overwritten.
    by_cases hother : other = file
    · subst hother
      exact ⟨(other, content), List.mem_cons_self, hbelow⟩
    · refine ⟨(other, text), List.mem_cons_of_mem _ ?_, hbelow⟩
      exact List.mem_filter.2 ⟨hmem, decide_eq_true hother⟩

/-- A step along a path that succeeded succeeds with one more file. -/
theorem enter_put (file : List String) (content : String) {component : Path.Component}
    (h : tree.enter place component = .ok inner) :
    (tree.put file content).enter place component = .ok inner := by
  cases component with
  -- Roots, dots and two dots are followed without a look at the files.
  | root => exact h
  | current => exact h
  | parent => exact h
  | name text =>
    -- A name is followed only into a directory, and directories stay.
    unfold enter at h ⊢
    dsimp only at h ⊢
    split at h
    · exact absurd h (by simp)
    · next hlong =>
      split at h
      · next hdirectory =>
        rw [if_neg hlong, if_pos (hasDirectory_put file content hdirectory)]
        exact h
      · split at h <;> exact absurd h (by simp)

/-- A path along directories that could be followed still leads to the same directory. -/
theorem enterAll_put (file : List String) (content : String) {components : List Path.Component}
    (h : tree.enterAll components = .ok place) :
    (tree.put file content).enterAll components = .ok place := by
  -- The place changes with every step, so the induction is over all places to start from.
  have hsteps : ∀ (components : List Path.Component) (start : List String),
      components.foldlM tree.enter start = .ok place →
        components.foldlM (tree.put file content).enter start = .ok place := by
    intro components
    induction components with
    | nil => exact fun _ h => h
    | cons component components ih =>
      intro start h
      rw [List.foldlM_cons] at h ⊢
      obtain ⟨next, hnext, h⟩ := bind_eq_ok.1 h
      exact bind_eq_ok.2 ⟨next, enter_put file content hnext, ih next h⟩
  exact hsteps components tree.home h

/-- A path to a file still leads to the same directory and name. -/
theorem locate_put (file : List String) (content : String) {path name : String}
    (h : tree.locate path = .ok (place, name)) :
    (tree.put file content).locate path = .ok (place, name) := by
  -- The check of the text of the path does not see the files.
  obtain ⟨_, hcheck, h⟩ := bind_eq_ok.1 h
  refine bind_eq_ok.2 ⟨(), hcheck, ?_⟩
  dsimp only at h ⊢
  split at h
  · obtain ⟨directory, hdirectory, h⟩ := bind_eq_ok.1 h
    exact bind_eq_ok.2 ⟨directory, enterAll_put file content hdirectory, h⟩
  · obtain ⟨directory, -, h⟩ := bind_eq_ok.1 h
    exact absurd h throw_ne_ok

/-! ### Places -/

/-- **Leading to a place:** the path names a file, and the file stands at this place. -/
def LeadsTo (tree : FileTree) (path : String) (place : List String) : Prop :=
  ∃ directory name, tree.locate path = .ok (directory, name) ∧ directory ++ [name] = place

/-- **Paths lead to the same places** after a file has been written. -/
theorem LeadsTo.put {path : String} (h : tree.LeadsTo path place) (file : List String)
    (content : String) : (tree.put file content).LeadsTo path place := by
  obtain ⟨directory, name, hlocate, hplace⟩ := h
  exact ⟨directory, name, locate_put file content hlocate, hplace⟩

/-- What has been written stands there. -/
theorem file?_put (tree : FileTree) (file : List String) (content : String) :
    (tree.put file content).file? file = some content := by
  rw [file?, put, List.lookup_cons, beq_self_eq_true]

/-- Writing a file touches no other place. -/
theorem file?_put_of_ne {file : List String} (h : place ≠ file) (content : String) :
    (tree.put file content).file? place = tree.file? place := by
  -- The file itself is another entry, and so is the one that it replaces.
  have hothers : ∀ files : List (List String × String),
      (files.filter (·.1 ≠ file)).lookup place = files.lookup place := by
    intro files
    induction files with
    | nil => rfl
    | cons entry files ih =>
      by_cases hentry : entry.1 = file
      · have hne : (place == entry.1) = false := beq_false_of_ne (hentry ▸ h)
        rw [List.filter_cons_of_neg (by simpa using hentry), ih, List.lookup_cons, hne]
      · rw [List.filter_cons_of_pos (by simpa using hentry), List.lookup_cons, ih,
          List.lookup_cons]
  rw [file?, file?, put, List.lookup_cons, beq_false_of_ne h]
  exact hothers tree.files

/-- A path reads what stands at the place to which it leads. -/
theorem read_of_leadsTo {path content : String} (h : tree.LeadsTo path place)
    (hfile : tree.file? place = some content) : tree.read path = .ok content := by
  obtain ⟨directory, name, hlocate, rfl⟩ := h
  refine bind_eq_ok.2 ⟨(directory, name), hlocate, ?_⟩
  dsimp only
  rw [hfile]
  rfl

/-! ### Writing -/

/-- A file is written at the place to which its path leads. -/
theorem write_eq_ok {tree' : FileTree} {path content : String}
    (h : tree.write path content = .ok tree') :
    ∃ place, tree.LeadsTo path place ∧ tree' = tree.put place content := by
  -- Before it writes, the system follows the path, and it refuses what it would not find.
  unfold write at h
  dsimp only at h
  -- Only a path that names a file can have been written.
  split at h
  · obtain ⟨_, -, h⟩ := bind_eq_ok.1 h
    obtain ⟨_, -, h⟩ := bind_eq_ok.1 h
    obtain ⟨_, h, -⟩ := bind_eq_ok.1 h
    exact absurd h throw_ne_ok
  · obtain ⟨⟨directory, name⟩, hplace, h⟩ := bind_eq_ok.1 h
    dsimp only at h
    split at h
    · obtain ⟨_, h, -⟩ := bind_eq_ok.1 h
      exact absurd h throw_ne_ok
    · exact ⟨directory ++ [name], ⟨directory, name, hplace, rfl⟩, (Except.ok.inj h).symm⟩

/-- **Reading after writing.** -/
theorem read_write {tree' : FileTree} {path content : String}
    (h : tree.write path content = .ok tree') : tree'.read path = .ok content := by
  obtain ⟨place, hplace, rfl⟩ := write_eq_ok h
  exact read_of_leadsTo (hplace.put place content) (file?_put tree place content)

/-- **Writing several files** one after the other, each with its path and its content. -/
def writeAll (tree : FileTree) (writes : List (String × String)) : Except SystemError FileTree :=
  writes.foldlM (fun tree write => tree.write write.1 write.2) tree

variable {after : FileTree} {writes : List (String × String)}

/-- Paths lead to the same places after several files have been written. -/
theorem LeadsTo.writeAll {path : String} (h : tree.LeadsTo path place)
    (hwrites : tree.writeAll writes = .ok after) : after.LeadsTo path place := by
  induction writes generalizing tree with
  | nil =>
    obtain rfl : tree = after := Except.ok.inj hwrites
    exact h
  | cons write writes ih =>
    rw [FileTree.writeAll, List.foldlM_cons] at hwrites
    obtain ⟨next, hnext, hwrites⟩ := bind_eq_ok.1 hwrites
    -- The tree after the first file is one with one more file.
    obtain ⟨file, -, rfl⟩ := write_eq_ok hnext
    exact ih (h.put file write.2) hwrites

/-- A place to which none of the paths leads is left alone. -/
theorem file?_writeAll_of_not_leadsTo (hwrites : tree.writeAll writes = .ok after)
    (h : ∀ write ∈ writes, ¬after.LeadsTo write.1 place) :
    after.file? place = tree.file? place := by
  induction writes generalizing tree with
  | nil =>
    obtain rfl : tree = after := Except.ok.inj hwrites
    rfl
  | cons write writes ih =>
    obtain ⟨hfirst, hothers⟩ := List.forall_mem_cons.1 h
    rw [FileTree.writeAll, List.foldlM_cons] at hwrites
    obtain ⟨next, hnext, hwrites⟩ := bind_eq_ok.1 hwrites
    obtain ⟨file, hfile, rfl⟩ := write_eq_ok hnext
    -- The path of the first file still leads to its place in the end.
    have hafter : after.LeadsTo write.1 file := (hfile.put file write.2).writeAll hwrites
    have hne : place ≠ file := fun heq => hfirst (heq ▸ hafter)
    rw [ih hwrites hothers, file?_put_of_ne hne]

/-- **The last write counts.** -/
theorem file?_writeAll_last {before later : List (String × String)} {path content : String}
    (hwrites : tree.writeAll (before ++ (path, content) :: later) = .ok after) :
    ∃ place, after.LeadsTo path place ∧
      ((∀ write ∈ later, ¬after.LeadsTo write.1 place) → after.file? place = some content) := by
  -- The run is cut behind the file in question: its path leads to the place from then on, and the
  -- later writes leave the place alone.
  rw [FileTree.writeAll, List.foldlM_append] at hwrites
  obtain ⟨first, -, hwrites⟩ := bind_eq_ok.1 hwrites
  rw [List.foldlM_cons] at hwrites
  obtain ⟨next, hnext, hwrites⟩ := bind_eq_ok.1 hwrites
  obtain ⟨place, hplace, rfl⟩ := write_eq_ok hnext
  refine ⟨place, (hplace.put place content).writeAll hwrites, fun hlater => ?_⟩
  rw [file?_writeAll_of_not_leadsTo hwrites hlater, file?_put]

end FileTree

end SchemaDiagram
