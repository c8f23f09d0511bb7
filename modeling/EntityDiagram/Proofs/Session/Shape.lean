import EntityDiagram.Proofs.Session.FileTree
import EntityDiagram.Proofs.Session.SchemaFile

/-! # What can be written does not depend on what files hold

Two trees have the same shape if they have files and directories at the same locations. Ways, places
and new directories are the same in trees of the same shape. Adding to a file keeps the shape, so
logging takes away no path that a file can be written at.
-/

namespace EntityDiagram

def Node.isDirectory : Node → Bool
  | .file _ => false
  | .directory => true

namespace FileTree

/-! ## Shapes -/

/-- The trees have files at the same locations, and directories at the same locations. -/
def SameShape (tree other : FileTree) : Prop :=
  ∀ location, (tree.node? location).map Node.isDirectory =
    (other.node? location).map Node.isDirectory

variable {tree other : FileTree}

theorem SameShape.refl (tree : FileTree) : tree.SameShape tree := fun _ => rfl

theorem SameShape.trans {last : FileTree} (h : tree.SameShape other)
    (hlast : other.SameShape last) : tree.SameShape last :=
  fun location => (h location).trans (hlast location)

/-- What two trees of the same shape have at a location. -/
theorem SameShape.cases (h : tree.SameShape other) (location : Location) :
    (tree.node? location = none ∧ other.node? location = none) ∨
      (tree.node? location = some .directory ∧ other.node? location = some .directory) ∨
      ∃ content content', tree.node? location = some (.file content) ∧
        other.node? location = some (.file content') := by
  have hnode := h location
  match htree : tree.node? location, hother : other.node? location with
  | none, none => exact .inl ⟨rfl, rfl⟩
  | some .directory, some .directory => exact .inr (.inl ⟨rfl, rfl⟩)
  | some (.file content), some (.file content') => exact .inr (.inr ⟨content, content', rfl, rfl⟩)
  | none, some _ => simp [htree, hother] at hnode
  | some _, none => simp [htree, hother] at hnode
  | some .directory, some (.file _) => simp [htree, hother, Node.isDirectory] at hnode
  | some (.file _), some .directory => simp [htree, hother, Node.isDirectory] at hnode

theorem isDirectory_node?_put (tree : FileTree) (location place : Location) (node : Node) :
    ((tree.put location node).node? place).map Node.isDirectory =
      if place ≠ [] ∧ place = location then some node.isDirectory
      else (tree.node? place).map Node.isDirectory := by
  by_cases hplace : place = location
  · subst hplace
    by_cases hroot : place = []
    · subst hroot
      rfl
    · rw [node?_put_self tree node hroot, if_pos ⟨hroot, rfl⟩]
      rfl
  · rw [node?_put_of_ne tree node hplace, if_neg fun h => hplace h.2]

theorem SameShape.put (h : tree.SameShape other) (location : Location) {node node' : Node}
    (hnode : node.isDirectory = node'.isDirectory) :
    (tree.put location node).SameShape (other.put location node') := by
  intro place
  rw [isDirectory_node?_put, isDirectory_node?_put, hnode, h place]

theorem sameShape_append (tree : FileTree) (location : Location) (content : ByteArray) :
    tree.SameShape (tree.append location content) := by
  unfold append
  split
  · next old hfile =>
      intro place
      rw [isDirectory_node?_put]
      split
      · next hplace =>
          rw [hplace.2, hfile]
          rfl
      · rfl
  · exact .refl tree

/-! ## Ways and places -/

theorem SameShape.follow (h : tree.SameShape other) (here : Location) (parts : List String) :
    tree.follow here parts = other.follow here parts := by
  induction parts generalizing here with
  | nil => rfl
  | cons part rest ih =>
      rw [FileTree.follow, FileTree.follow]
      rcases h.cases here with ⟨htree, hother⟩ | ⟨htree, hother⟩ | ⟨_, _, htree, hother⟩
      · simp only [htree, hother]
      · simp only [htree, hother, ih]
        -- The name leads on in both trees or in neither.
        rcases h.cases (here ++ [part]) with ⟨hnext, hnext'⟩ | ⟨hnext, hnext'⟩ |
          ⟨_, _, hnext, hnext'⟩ <;> simp only [hnext, hnext']
      · simp only [htree, hother]

theorem SameShape.isDirectory (h : tree.SameShape other) (here : Location) (path : Path) :
    tree.isDirectory here path = other.isDirectory here path := by
  unfold FileTree.isDirectory find
  rw [h.follow]
  cases admissible path with
  | error error => rfl
  | ok _ =>
      cases other.follow (start here path) path.parts with
      | error error => rfl
      | ok location =>
          rcases h.cases location with ⟨htree, hother⟩ | ⟨htree, hother⟩ | ⟨_, _, htree, hother⟩ <;>
            simp only [htree, hother]

theorem SameShape.isFile (h : tree.SameShape other) (here : Location) (path : Path) :
    tree.isFile here path = other.isFile here path := by
  unfold FileTree.isFile probe find
  rw [h.follow]
  cases admissible path with
  | error error => rfl
  | ok _ =>
      cases other.follow (start here path) path.parts with
      | error error => rfl
      | ok location =>
          rcases h.cases location with ⟨htree, hother⟩ | ⟨htree, hother⟩ | ⟨_, _, htree, hother⟩ <;>
            simp only [htree, hother]

/-- The places of a path in two trees: one location, with the same kind of node at it, or one
error. -/
inductive SamePlace : Except FileError (Location × Option Node) →
    Except FileError (Location × Option Node) → Prop where
  | error (error : FileError) : SamePlace (.error error) (.error error)
  | ok (location : Location) {node node' : Option Node}
      (h : node.map Node.isDirectory = node'.map Node.isDirectory) :
      SamePlace (.ok (location, node)) (.ok (location, node'))

theorem SameShape.place (h : tree.SameShape other) (here : Location) (path : Path) :
    SamePlace (tree.place here path) (other.place here path) := by
  unfold FileTree.place
  rw [h.follow]
  cases admissible path with
  | error error => exact .error error
  | ok _ =>
      cases path.parts.getLast? with
      | none => exact .ok _ rfl
      | some name =>
          cases other.follow (start here path) path.parts.dropLast with
          | error error => exact .error error
          | ok directory =>
              rcases h.cases directory with ⟨htree, hother⟩ | ⟨htree, hother⟩ |
                ⟨_, _, htree, hother⟩
              · simp only [htree, hother]
                exact .error .notFound
              · simp only [htree, hother]
                split
                · exact .ok _ rfl
                · split
                  · exact .error .nameTooLong
                  · exact .ok _ (h _)
              · simp only [htree, hother]
                exact .error .notDirectory

/-! ## Making directories -/

/-- Two operations on trees end alike: with one error, or with trees of the same shape. -/
inductive SameOutcome : Except FileError FileTree → Except FileError FileTree → Prop where
  | error (error : FileError) : SameOutcome (.error error) (.error error)
  | ok {tree other : FileTree} (h : tree.SameShape other) : SameOutcome (.ok tree) (.ok other)

theorem SameShape.makeDirectory (h : tree.SameShape other) (here : Location) (path : Path) :
    SameOutcome (tree.makeDirectory here path) (other.makeDirectory here path) := by
  have hplace := h.place here path
  unfold FileTree.makeDirectory
  generalize tree.place here path = found at hplace ⊢
  generalize other.place here path = found' at hplace ⊢
  cases hplace with
  | error error => exact .error error
  | @ok location node node' hnode =>
      match node, node' with
      | none, none => exact .ok (h.put location rfl)
      | some _, some _ => exact .error .alreadyExists
      | none, some _ => simp at hnode
      | some _, none => simp at hnode

theorem SameShape.ensureDirectory (h : tree.SameShape other) (here : Location) (path : Path) :
    SameOutcome (tree.ensureDirectory here path) (other.ensureDirectory here path) := by
  have hmade := h.makeDirectory here path
  unfold FileTree.ensureDirectory
  rw [h.isDirectory]
  generalize tree.makeDirectory here path = made at hmade ⊢
  generalize other.makeDirectory here path = made' at hmade ⊢
  cases hmade with
  | ok hmade => exact .ok hmade
  | error error =>
      -- Any error but that of a missing directory is excused by a directory at the path.
      cases other.isDirectory here path <;> cases error <;> first | exact .error _ | exact .ok h

/-- Two operations that keep what they changed before an error end alike. -/
inductive SameEnd : Except FileError Unit × FileTree → Except FileError Unit × FileTree → Prop where
  | intro (result : Except FileError Unit) {tree other : FileTree} (h : tree.SameShape other) :
      SameEnd (result, tree) (result, other)

theorem SameShape.ensureDirectories (h : tree.SameShape other) (here : Location) (slashes : Nat)
    (names : List String) :
    SameEnd (tree.ensureDirectories here slashes names)
      (other.ensureDirectories here slashes names) := by
  induction names with
  | nil => exact .intro _ h
  | cons name front ih =>
      have hfirst := h.ensureDirectory here ⟨slashes, (name :: front).reverse⟩
      rw [FileTree.ensureDirectories, FileTree.ensureDirectories]
      generalize tree.ensureDirectory here ⟨slashes, (name :: front).reverse⟩ = made at hfirst ⊢
      generalize other.ensureDirectory here ⟨slashes, (name :: front).reverse⟩ = made' at hfirst ⊢
      cases hfirst with
      | ok hmade => exact .intro _ hmade
      | error error =>
          by_cases hmissing : error = .notFound
          · subst hmissing
            generalize tree.ensureDirectories here slashes front = way at ih ⊢
            generalize other.ensureDirectories here slashes front = way' at ih ⊢
            cases ih with
            | @intro result way way' hway =>
                cases result with
                | error error => exact .intro _ hway
                | ok _ =>
                    have hlast := hway.ensureDirectory here ⟨slashes, (name :: front).reverse⟩
                    dsimp only
                    generalize way.ensureDirectory here ⟨slashes, (name :: front).reverse⟩ = made
                      at hlast ⊢
                    generalize way'.ensureDirectory here ⟨slashes, (name :: front).reverse⟩ = made'
                      at hlast ⊢
                    cases hlast with
                    | ok hmade => exact .intro _ hmade
                    | error error => exact .intro _ hway
          · cases error <;> first | exact .intro _ h | exact absurd rfl hmissing

theorem SameShape.isFilePlace (h : tree.SameShape other) {here location : Location} {path : Path}
    (hplace : tree.IsFilePlace here path location) : other.IsFilePlace here path location := by
  have hsame := h.place here path
  rw [place_eq_ok hplace] at hsame
  generalize hfound : other.place here path = found at hsame
  cases hsame with
  | @ok _ _ node' hnode =>
      refine isFilePlace_of_place hfound ?_
      rintro rfl
      match hnode' : tree.node? location with
      | none => simp [hnode'] at hnode
      | some (.file _) => simp [hnode', Node.isDirectory] at hnode
      | some .directory => exact hplace.vacant hnode'

end FileTree

/-! ## Sessions -/

namespace Session

/-- Paths lead to the same places in both sessions. -/
structure SamePlaces (session later : Session) : Prop where
  here : later.here = session.here
  files : session.files.SameShape later.files

theorem SamePlaces.refl (session : Session) : session.SamePlaces session := ⟨rfl, .refl _⟩

theorem SamePlaces.trans {session later last : Session} (h : session.SamePlaces later)
    (hlast : later.SamePlaces last) : session.SamePlaces last :=
  ⟨hlast.here.trans h.here, h.files.trans hlast.files⟩

theorem CanWrite.of_samePlaces {session later : Session} {path : Path} (h : session.CanWrite path)
    (h' : session.SamePlaces later) : later.CanWrite path := by
  obtain ⟨made, location, hmade, hplace⟩ := h.exists_isFilePlace
  have hend : FileTree.SameEnd (session.files.makeDirectories session.here path.parent)
      (later.files.makeDirectories later.here path.parent) := by
    rw [h'.here]
    exact h'.files.ensureDirectories session.here path.parent.slashes path.parent.parts.reverse
  unfold makeDirectories at hmade
  generalize session.files.makeDirectories session.here path.parent = done at hend hmade
  generalize hlater : later.files.makeDirectories later.here path.parent = done' at hend
  cases hend with
  | @intro result files files' hshape =>
      cases result with
      | error error => cases hmade
      | ok _ =>
          cases hmade
          have hmade' : makeDirectories path.parent later =
              (.ok (), { later with files := files' }) := by
            rw [makeDirectories, hlater]
          have hplace' : files'.IsFilePlace later.here path location := by
            rw [h'.here]
            exact hshape.isFilePlace hplace
          have hwrite : writeBytes path .empty { later with files := files' } = _ :=
            writeBytes_of_ok (FileTree.write_of_isFilePlace hplace' .empty)
          refine ⟨.empty, ?_⟩
          rw [writeFile, Run.bind_of_ok hmade', hwrite]

theorem samePlaces_deliver (line : String) (session : Session) (target : Log.Target) :
    session.SamePlaces (deliver line session target) := by
  cases target with
  | standardError => exact ⟨rfl, .refl _⟩
  | file location => exact ⟨rfl, FileTree.sameShape_append _ location _⟩

theorem samePlaces_logAll (messages : List Log.Message) (session : Session) :
    session.SamePlaces (logAll messages session).2 :=
  logAll_of_log .refl .trans (fun message _ _ => log_of_deliver .refl .trans
    fun target _ before => samePlaces_deliver message.line before target) session

end Session

end EntityDiagram
