import EntityDiagram.Proofs.Schema.File
import EntityDiagram.Proofs.Session.FileTree
import EntityDiagram.Proofs.Session.Run
import EntityDiagram.Session.Source

/-! # Loading a schema undoes saving it

Whether a file can be written depends on its path and the files there are, not on what is written.
Where one can be, every schema can be saved, and loading it gives the same schema.
-/

namespace EntityDiagram

namespace Session

/-! ## Writing -/

theorem writeBytes_of_ok {session : Session} {path : Path} {content : ByteArray} {files : FileTree}
    (h : session.files.write session.here path content = .ok files) :
    writeBytes path content session = (.ok (), { session with files := files }) := by
  have hwrite : Run.ofFile (session.files.write session.here path content) session =
      (.ok files, session) := by
    rw [h]
    rfl
  exact (Run.bind_of_ok rfl).trans (Run.bind_of_ok hwrite)

theorem writeBytes_of_error {session : Session} {path : Path} {content : ByteArray}
    {error : FileError} (h : session.files.write session.here path content = .error error) :
    writeBytes path content session = (.error (.file error), session) := by
  have hwrite : Run.ofFile (session.files.write session.here path content) session =
      (.error (.file error), session) := by
    rw [h]
    rfl
  exact (Run.bind_of_ok rfl).trans (Run.bind_of_error hwrite)

/-- Some file can be written at a path, directories on the way to it being made as needed. -/
def CanWrite (session : Session) (path : Path) : Prop :=
  ∃ content, (writeFile path content session).1 = .ok ()

theorem CanWrite.exists_isFilePlace {session : Session} {path : Path} (h : session.CanWrite path) :
    ∃ made location, makeDirectories path.parent session = (.ok (), made) ∧
      made.files.IsFilePlace made.here path location := by
  obtain ⟨content, hcontent⟩ := h
  match hmade : makeDirectories path.parent session with
  | (.error failure, made) =>
      have hfail : writeFile path content session = (.error failure, made) :=
        Run.bind_of_error hmade
      rw [hfail] at hcontent
      cases hcontent
  | (.ok (), made) =>
      have hnext : writeFile path content session = writeBytes path content made :=
        Run.bind_of_ok hmade
      rw [hnext] at hcontent
      cases hwrite : made.files.write made.here path content with
      | error error =>
          rw [writeBytes_of_error hwrite] at hcontent
          cases hcontent
      | ok files =>
          obtain ⟨location, hplace⟩ := FileTree.exists_isFilePlace_of_write hwrite
          exact ⟨made, location, rfl, hplace⟩

/-- What is written where a file can be written is found there. -/
theorem CanWrite.exists_find {session : Session} {path : Path} (h : session.CanWrite path)
    (content : ByteArray) :
    ∃ after location, writeFile path content session = (.ok (), after) ∧
      after.files.find after.here path = .ok (location, .file content) := by
  obtain ⟨made, location, hmade, hplace⟩ := h.exists_isFilePlace
  have hwrite := writeBytes_of_ok (FileTree.write_of_isFilePlace hplace content)
  exact ⟨_, location, (Run.bind_of_ok hmade).trans hwrite, FileTree.find_put_file hplace content⟩

/-! ## Reading -/

theorem textOf_toUTF8 (s : String) (session : Session) :
    textOf s.toUTF8 session = (.ok (String.ofList (Text.unifyNewlines s.toList)), session) := by
  have hdecode : String.fromUTF8? s.toUTF8 = some s := dif_pos s.isValidUTF8
  rw [textOf, hdecode]
  rfl

theorem readText_of_find {session : Session} {path : Path} {location : Location} {s : String}
    (hfind : session.files.find session.here path = .ok (location, .file s.toUTF8))
    (hs : Text.unifyNewlines s.toList = s.toList) :
    readText path session = (.ok s, session) := by
  have hread : Run.ofFile (session.files.read session.here path) session =
      (.ok s.toUTF8, session) := by
    rw [FileTree.read, hfind]
    rfl
  refine (Run.bind_of_ok rfl).trans ((Run.bind_of_ok hread).trans ?_)
  rw [textOf_toUTF8, hs, String.ofList_toList]

theorem loadSchema_of_find {session : Session} {path : Path} {location : Location}
    {schema : Schema}
    (hfind : session.files.find session.here path =
      .ok (location, .file schema.fileText.toUTF8)) :
    loadSchema path session = (.ok schema, session) := by
  have hprobe : Run.ofFile (session.files.probe session.here path) session =
      (.ok (some (.file schema.fileText.toUTF8)), session) := by
    rw [FileTree.probe, hfind]
    rfl
  have hread := readText_of_find hfind schema.unifyNewlines_fileText
  refine (Run.bind_of_ok rfl).trans ((Run.bind_of_ok hprobe).trans ?_)
  refine (Run.bind_of_ok hread).trans ?_
  rw [SchemaFile.read_fileText]
  rfl

/-- A schema that is saved where a file can be written is loaded as it was. -/
theorem loadSchema_saveSchema {session : Session} {path : Path} (h : session.CanWrite path)
    (schema : Schema) :
    ∃ after, saveSchema schema path session = (.ok (), after) ∧
      loadSchema path after = (.ok schema, after) := by
  obtain ⟨after, location, hsave, hfind⟩ := h.exists_find schema.fileText.toUTF8
  exact ⟨after, hsave, loadSchema_of_find hfind⟩

theorem loadSchema_saveSchema_of_hard_texts :
    let path : Path := ⟨0, ["out", "schema.json"]⟩
    let session : Session := {}
    let entity : Entity :=
      { name := "a\r\nb\x00\"\\\x7f", displayName := some "",
        attributes := [⟨"\t𝄞", " ", [.unique, .unique], some "\u2028é"⟩] }
    let schema : Schema :=
      ⟨[entity, entity], [⟨"", "nowhere", .zeroOrOne, .oneOrMore, true, "\x1f"⟩]⟩
    session.CanWrite path ∧
      ∃ after, saveSchema schema path session = (.ok (), after) ∧
        loadSchema path after = (.ok schema, after) := by
  intro path session entity schema
  have hwrite : session.CanWrite path := ⟨.empty, by decide +kernel⟩
  exact ⟨hwrite, loadSchema_saveSchema hwrite schema⟩

end Session

end EntityDiagram
