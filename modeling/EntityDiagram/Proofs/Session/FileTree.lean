import EntityDiagram.Session.FileTree

/-! # Files that were written are read back

Writing puts a file at the place of a path, which is a name in a directory. The way to that place
leads through directories only, and a file is never put where a directory is, so the way is the same
afterwards and ends at the new file.
-/

namespace EntityDiagram.FileTree

/-! ## Ways through a tree -/

/-- The names `parts` lead from one location to another. -/
inductive Leads (tree : FileTree) : Location → List String → Location → Prop where
  | stay {here : Location} : Leads tree here [] here
  | up {here there : Location} {rest : List String} (hhere : tree.node? here = some .directory)
      (hrest : Leads tree here.dropLast rest there) : Leads tree here (".." :: rest) there
  | down {here there : Location} {part : String} {rest : List String}
      (hhere : tree.node? here = some .directory) (hpart : part ≠ "..")
      (hsize : part.utf8ByteSize ≤ maxName) (hnext : (tree.node? (here ++ [part])).isSome = true)
      (hrest : Leads tree (here ++ [part]) rest there) : Leads tree here (part :: rest) there

theorem follow_of_leads {tree : FileTree} {here there : Location} {parts : List String}
    (h : tree.Leads here parts there) : tree.follow here parts = .ok there := by
  induction h with
  | stay => rfl
  | up hhere hrest ih => rw [follow, hhere]; simpa using ih
  | down hhere hpart hsize hnext hrest ih =>
      obtain ⟨node, hnode⟩ := Option.isSome_iff_exists.mp hnext
      have hshort := Nat.not_lt.mpr hsize
      rw [follow, hhere]
      simp only [if_neg hpart, if_neg hshort, hnode, ih]

theorem leads_of_follow {tree : FileTree} {here there : Location} {parts : List String}
    (h : tree.follow here parts = .ok there) : tree.Leads here parts there := by
  induction parts generalizing here with
  | nil =>
      cases h
      exact .stay
  | cons part rest ih =>
      rw [follow] at h
      split at h
      · contradiction
      · contradiction
      · next hhere =>
          by_cases hpart : part = ".."
          · subst hpart
            rw [if_pos rfl] at h
            exact .up hhere (ih h)
          · rw [if_neg hpart] at h
            split at h
            · contradiction
            · next hsize =>
                split at h
                · contradiction
                · next hnode =>
                    exact .down hhere hpart (Nat.not_lt.mp hsize) (by simp [hnode]) (ih h)

theorem Leads.append {tree : FileTree} {here between there : Location} {parts more : List String}
    (h : tree.Leads here parts between) (hmore : tree.Leads between more there) :
    tree.Leads here (parts ++ more) there := by
  induction h with
  | stay => exact hmore
  | up hhere _ ih => exact .up hhere (ih hmore)
  | down hhere hpart hsize hnext _ ih => exact .down hhere hpart hsize hnext (ih hmore)

theorem isSome_node?_put {tree : FileTree} {location other : Location} (node : Node)
    (h : (tree.node? other).isSome = true) :
    ((tree.put location node).node? other).isSome = true := by
  by_cases hsame : other = location
  · subst hsame
    by_cases hroot : other = []
    · subst hroot
      rfl
    · rw [node?_put_self tree node hroot]
      rfl
  · rw [node?_put_of_ne tree node hsame]
    exact h

/-- A file that is put where no directory is blocks no way. -/
theorem Leads.put_file {tree : FileTree} {location here there : Location} {parts : List String}
    (hvacant : tree.node? location ≠ some .directory) (content : ByteArray)
    (h : tree.Leads here parts there) :
    (tree.put location (.file content)).Leads here parts there := by
  -- Every location that the way goes on from is a directory, so it is not where the file is put.
  have hkeep : ∀ {place}, tree.node? place = some .directory →
      (tree.put location (.file content)).node? place = some .directory := by
    intro place hplace
    have hne : place ≠ location := by
      rintro rfl
      exact hvacant hplace
    rw [node?_put_of_ne tree _ hne, hplace]
  induction h with
  | stay => exact .stay
  | up hhere _ ih => exact .up (hkeep hhere) ih
  | down hhere hpart hsize hnext _ ih =>
      exact .down (hkeep hhere) hpart hsize (isSome_node?_put _ hnext) ih

/-! ## Writing -/

/-- Where a file may be put for a path: a name in a directory that the names before it lead to,
unless a directory is there. -/
inductive IsFilePlace (tree : FileTree) (here : Location) (path : Path) : Location → Prop where
  | intro {front : List String} {name : String} {directory : Location}
      (hadmissible : admissible path = .ok ()) (hparts : path.parts = front ++ [name])
      (hfront : tree.Leads (start here path) front directory)
      (hdirectory : tree.node? directory = some .directory) (hname : name ≠ "..")
      (hsize : name.utf8ByteSize ≤ maxName)
      (hvacant : tree.node? (directory ++ [name]) ≠ some .directory) :
      IsFilePlace tree here path (directory ++ [name])

theorem place_eq_ok {tree : FileTree} {here location : Location} {path : Path}
    (h : tree.IsFilePlace here path location) :
    tree.place here path = .ok (location, tree.node? location) := by
  obtain @⟨front, name, directory, hadmissible, hparts, hfront, hdirectory, hname, hsize, -⟩ := h
  have hshort := Nat.not_lt.mpr hsize
  simp only [place, hadmissible, hparts, List.getLast?_concat, List.dropLast_concat,
    follow_of_leads hfront, hdirectory, if_neg hname, if_neg hshort]

theorem isFilePlace_of_place {tree : FileTree} {here location : Location} {path : Path}
    {node : Option Node} (h : tree.place here path = .ok (location, node))
    (hvacant : node ≠ some .directory) : tree.IsFilePlace here path location := by
  unfold place at h
  split at h
  · contradiction
  · next hadmissible =>
      split at h
      · cases h
        exact absurd rfl hvacant
      · next name hlast =>
          split at h
          · contradiction
          · next directory hfollow =>
              split at h
              · contradiction
              · contradiction
              · next hdirectory =>
                  split at h
                  · cases h
                    exact absurd rfl hvacant
                  · next hname =>
                      split at h
                      · contradiction
                      · next hsize =>
                          cases h
                          obtain ⟨front, hparts⟩ := List.getLast?_eq_some_iff.mp hlast
                          rw [hparts, List.dropLast_concat] at hfollow
                          exact .intro hadmissible hparts (leads_of_follow hfollow) hdirectory hname
                            (Nat.not_lt.mp hsize) hvacant

theorem IsFilePlace.vacant {tree : FileTree} {here location : Location} {path : Path}
    (h : tree.IsFilePlace here path location) : tree.node? location ≠ some .directory := by
  cases h with
  | intro _ _ _ _ _ _ hvacant => exact hvacant

theorem IsFilePlace.ne_root {tree : FileTree} {here location : Location} {path : Path}
    (h : tree.IsFilePlace here path location) : location ≠ [] := by
  cases h with
  | intro => simp

theorem write_of_isFilePlace {tree : FileTree} {here location : Location} {path : Path}
    (h : tree.IsFilePlace here path location) (content : ByteArray) :
    tree.write here path content = .ok (tree.put location (.file content)) := by
  rw [write, place_eq_ok h]
  match hnode : tree.node? location with
  | none => rfl
  | some (.file _) => rfl
  | some .directory => exact absurd hnode h.vacant

theorem exists_isFilePlace_of_write {tree after : FileTree} {here : Location} {path : Path}
    {content : ByteArray} (h : tree.write here path content = .ok after) :
    ∃ location, tree.IsFilePlace here path location := by
  unfold write at h
  split at h
  · contradiction
  · contradiction
  · next location node hvacant hplace => exact ⟨location, isFilePlace_of_place hplace hvacant⟩

/-- The way to a new file. -/
theorem leads_put_file {tree : FileTree} {here location : Location} {path : Path}
    (h : tree.IsFilePlace here path location) (content : ByteArray) :
    (tree.put location (.file content)).Leads (start here path) path.parts location := by
  have hself := node?_put_self tree (.file content) h.ne_root
  obtain @⟨front, name, directory, -, hparts, hfront, hdirectory, hname, hsize, hvacant⟩ := h
  have hne : directory ≠ directory ++ [name] := by simp
  rw [hparts]
  refine (hfront.put_file hvacant content).append (.down ?_ hname hsize ?_ .stay)
  · rw [node?_put_of_ne tree _ hne, hdirectory]
  · rw [hself]
    rfl

theorem find_put_file {tree : FileTree} {here location : Location} {path : Path}
    (h : tree.IsFilePlace here path location) (content : ByteArray) :
    (tree.put location (.file content)).find here path = .ok (location, .file content) := by
  have hself := node?_put_self tree (.file content) h.ne_root
  have hfollow := follow_of_leads (leads_put_file h content)
  cases h with
  | intro hadmissible => simp only [find, hadmissible, hfollow, hself]

end EntityDiagram.FileTree
