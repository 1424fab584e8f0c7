import AuthRelay.Credential.Resolver
import AuthRelay.Files.Edit
import AuthRelay.Proofs.Secrets.InStep
import AuthRelay.Text.Utf8.Lemmas
/-!
# Trees with secret files

Two trees that have the same places, directories and links, and files that differ in the secrets
that they hold. A path leads to the same place in both, and the same edits succeed. What a secret
file holds is either blank in both or in neither.
-/
namespace AuthRelay

/-- The secret in a text file: the text with line ends unified and without the blanks around it. -/
def secretOf (text : String) : String :=
  String.ofList (Text.trim (Text.unifyNewlines text.toList))

/-- Two contents of a secret file: the same, or two texts of which both are blank or neither is. -/
def ContentTwins (content content' : Bytes) : Prop :=
  content = content' ∨ ∃ s t, Text.Utf8.decode? content = some s ∧
    Text.Utf8.decode? content' = some t ∧ (secretOf s = "" ↔ secretOf t = "")

theorem ContentTwins.refl (content : Bytes) : ContentTwins content content :=
  .inl rfl

/-- Two texts, both blank or neither. -/
theorem ContentTwins.of_texts {s t : String} (h : secretOf s = "" ↔ secretOf t = "") :
    ContentTwins (Text.Utf8.encode s) (Text.Utf8.encode t) :=
  .inr ⟨s, t, Text.Utf8.decode?_encode s, Text.Utf8.decode?_encode t, h⟩

/-- Two entries of one kind, with the same target if they are links. -/
inductive Entry.Twins : Entry → Entry → Prop
  | file {content content' : Bytes} (h : ContentTwins content content') :
    Twins (.file content) (.file content')
  | unreadable (reason : FileReason) : Twins (.unreadable reason) (.unreadable reason)
  | directory : Twins .directory .directory
  | link (target : String) : Twins (.link target) (.link target)

theorem Entry.Twins.eq_directory_iff {entry entry' : Entry} (h : entry.Twins entry') :
    entry = .directory ↔ entry' = .directory := by
  cases h with
  | directory => rfl
  | _ => simp

theorem Entry.Twins.isFile_eq {entry entry' : Entry} (h : entry.Twins entry') :
    entry.isFile = entry'.isFile := by
  cases h <;> rfl

namespace Files

/-- Two trees that differ in the contents of secret files only. -/
structure Twins (files files' : Files) : Prop where
  entries : List.Forall₂ (fun e e' => e.1 = e'.1 ∧ Entry.Twins e.2 e'.2) files.entries
    files'.entries
  workingDirectory : files.workingDirectory = files'.workingDirectory

variable {files files' : Files}

/-! ## Where paths lead -/

theorem lookup_twins {entries entries' : List (Place × Entry)}
    (h : List.Forall₂ (fun e e' => e.1 = e'.1 ∧ Entry.Twins e.2 e'.2) entries entries')
    (place : Place) : Option.Rel Entry.Twins (entries.lookup place) (entries'.lookup place) := by
  induction h with
  | nil => exact .none
  | @cons e e' rest rest' he _ ih =>
    obtain ⟨p, entry⟩ := e
    obtain ⟨_, entry'⟩ := e'
    obtain ⟨rfl, htwins⟩ := he
    simp only [List.lookup_cons]
    cases place == p with
    | true => exact .some htwins
    | false => exact ih

theorem Twins.entry? (h : files.Twins files') (place : Place) :
    Option.Rel Entry.Twins (files.entry? place) (files'.entry? place) := by
  unfold Files.entry?
  by_cases hroot : place = []
  · rw [if_pos hroot, if_pos hroot]
    exact .some .directory
  · rw [if_neg hroot, if_neg hroot]
    exact lookup_twins h.entries place

/-- What stands at a place is a directory in both, or in neither. -/
theorem Twins.directory_iff (h : files.Twins files') (place : Place) :
    files.entry? place = some .directory ↔ files'.entry? place = some .directory := by
  have hentry := h.entry? place
  generalize files.entry? place = found, files'.entry? place = found' at hentry ⊢
  cases hentry with
  | none => rfl
  | some htwins => rw [Option.some.injEq, Option.some.injEq, htwins.eq_directory_iff]

theorem Twins.isSome_entry?_eq (h : files.Twins files') (place : Place) :
    (files.entry? place).isSome = (files'.entry? place).isSome := by
  have hentry := h.entry? place
  generalize files.entry? place = found, files'.entry? place = found' at hentry ⊢
  cases hentry <;> rfl

theorem Twins.walkBy_eq (h : files.Twins files')
    (follow : Place → List String → Except FileReason Place) (here : Place) (names : List String) :
    files.walkBy follow here names = files'.walkBy follow here names := by
  induction names generalizing here with
  | nil => rfl
  | cons name rest ih =>
    -- a walk looks at the kind of an entry and at the target of a link, never into a file
    have hentry := h.entry? (here ++ [name])
    unfold Files.walkBy
    simp only [ih]
    generalize files.entry? (here ++ [name]) = found, files'.entry? (here ++ [name]) = found'
      at hentry
    cases hentry with
    | none => rfl
    | some htwins => cases htwins <;> rfl

theorem Twins.walk_eq (h : files.Twins files') (links : Nat) :
    files.walk links = files'.walk links := by
  induction links with
  | zero =>
    funext here names
    exact h.walkBy_eq _ here names
  | succ links ih =>
    funext here names
    rw [Files.walk, Files.walk, ih]
    exact h.walkBy_eq _ here names

theorem Twins.walkFrom_eq (h : files.Twins files') (here : Place) (lost : Nat)
    (names : List String) :
    files.walkFrom here lost names = files'.walkFrom here lost names := by
  induction names generalizing here lost with
  | nil =>
    cases lost with
    | zero => simp only [Files.walkFrom, h.walk_eq]
    | succ lost => rfl
  | cons name rest ih =>
    cases lost with
    | zero => simp only [Files.walkFrom, h.walk_eq]
    | succ lost => simp only [Files.walkFrom, ih]

/-- A path leads to the same place. -/
theorem Twins.resolve_eq (h : files.Twins files') (path : String) :
    files.resolve path = files'.resolve path := by
  simp only [Files.resolve, h.walkFrom_eq, h.workingDirectory]

theorem Twins.read (h : files.Twins files') (path : String) :
    Corresponds ContentTwins (files.read path) (files'.read path) := by
  unfold Files.read
  rw [h.resolve_eq]
  cases files'.resolve path with
  | error reason => exact .error reason
  | ok destination =>
    cases destination with
    | removed => exact .error _
    | place place =>
      have hentry := h.entry? place
      dsimp only
      generalize files.entry? place = found, files'.entry? place = found' at hentry ⊢
      cases hentry with
      | none => exact .error _
      | some htwins =>
        cases htwins with
        | file hcontent => exact .ok hcontent
        | _ => exact .error _

theorem Twins.isFile_eq (h : files.Twins files') (path : String) :
    files.isFile path = files'.isFile path := by
  unfold Files.isFile
  rw [h.resolve_eq]
  cases files'.resolve path with
  | error reason => rfl
  | ok destination =>
    cases destination with
    | removed => rfl
    | place place =>
      have hentry := h.entry? place
      dsimp only
      generalize files.entry? place = found, files'.entry? place = found' at hentry ⊢
      cases hentry with
      | none => rfl
      | some htwins => exact htwins.isFile_eq

/-! ## Edits -/

theorem Twins.put (h : files.Twins files') (place : Place) {entry entry' : Entry}
    (hentry : entry.Twins entry') : (files.put place entry).Twins (files'.put place entry') := by
  refine ⟨.cons ⟨rfl, hentry⟩ (List.rel_filter ?_ h.entries), h.workingDirectory⟩
  rintro ⟨p, e⟩ ⟨_, e'⟩ ⟨rfl, -⟩
  exact .rfl

/-- Two edits with the same fault, or none, which leave trees that differ in secrets only. -/
structure Edited.Twins (edited edited' : Edited) : Prop where
  files : edited.files.Twins edited'.files
  fault : edited.fault = edited'.fault

theorem Twins.edited (h : files.Twins files') {x y : Except FileFault Files}
    (hxy : Corresponds Files.Twins x y) :
    (Edited.ofExcept files x).Twins (Edited.ofExcept files' y) := by
  cases hxy with
  | ok hchanged => exact ⟨hchanged, rfl⟩
  | error fault => exact ⟨h, rfl⟩

theorem Twins.isDirectory_eq (h : files.Twins files') (path : String) :
    files.isDirectory path = files'.isDirectory path := by
  simp only [Files.isDirectory, h.resolve_eq, h.directory_iff]

theorem Twins.placeOfEntry_eq (h : files.Twins files') (path : String) :
    files.placeOfEntry path = files'.placeOfEntry path := by
  simp only [Files.placeOfEntry, h.walk_eq, ne_eq, h.directory_iff]

theorem Twins.vacantPlace_eq (h : files.Twins files') (path : String) :
    files.vacantPlace path = files'.vacantPlace path := by
  simp only [Files.vacantPlace, h.placeOfEntry_eq, h.isSome_entry?_eq]

theorem Twins.makeDirectory (h : files.Twins files') (path : String) :
    (files.makeDirectory path).Twins (files'.makeDirectory path) := by
  unfold Files.makeDirectory
  rw [h.vacantPlace_eq, h.isDirectory_eq]
  cases files'.vacantPlace path with
  | ok place => exact ⟨h.put place .directory, rfl⟩
  | error reason => exact ⟨h, rfl⟩

theorem Twins.makeDirectoriesAlong (h : files.Twins files') (names : List String) :
    (files.makeDirectoriesAlong names).Twins (files'.makeDirectoriesAlong names) := by
  induction names with
  | nil => exact ⟨h, rfl⟩
  | cons name above ih =>
    unfold Files.makeDirectoriesAlong
    simp only [h.resolve_eq]
    split
    · exact (Files.Twins.makeDirectory h _)
    · rw [ih.fault]
      split
      · exact ih.files.makeDirectory _
      · exact ih

theorem Twins.putFile (h : files.Twins files') (path : String) {content content' : Bytes}
    (hcontent : ContentTwins content content') :
    Corresponds Files.Twins (files.putFile path content) (files'.putFile path content') := by
  unfold Files.putFile
  rw [h.resolve_eq, h.placeOfEntry_eq]
  cases files'.resolve path with
  | error reason =>
    cases reason
    case missing =>
      cases files'.placeOfEntry path with
      | error reason => exact .error reason
      | ok place => exact .ok (h.put place (.file hcontent))
    all_goals exact .error _
  | ok destination =>
    cases destination with
    | removed => exact .error _
    | place place =>
      simp only [h.directory_iff]
      split
      · exact .error _
      · exact .ok (h.put place (.file hcontent))

theorem Twins.write (h : files.Twins files') (path : String) {content content' : Bytes}
    (hcontent : ContentTwins content content') :
    (files.write path content).Twins (files'.write path content') := by
  -- the directories on the way are made first, and their fault ends the edit
  have hmade := h.makeDirectoriesAlong (splitLast path).1.reverse
  unfold Files.write
  simp only [hmade.fault]
  split
  · exact hmade
  · exact hmade.files.edited ((hmade.files.putFile path hcontent).mapError _)

theorem Twins.link (h : files.Twins files') (path target : String) :
    (files.link path target).Twins (files'.link path target) := by
  refine h.edited ?_
  have hplace : files.placeOfLink path target = files'.placeOfLink path target := by
    simp only [Files.placeOfLink, h.vacantPlace_eq]
  rw [hplace]
  cases files'.placeOfLink path target with
  | error reason => exact .error _
  | ok place => exact .ok (h.put place (.link target))

theorem Twins.remove (h : files.Twins files') (path : String) :
    (files.remove path).Twins (files'.remove path) := by
  refine h.edited ?_
  rw [h.placeOfEntry_eq]
  cases files'.placeOfEntry path with
  | error reason => exact .error _
  | ok place =>
    have hsome := h.isSome_entry?_eq place
    simp only [Except.mapError, bind, Except.bind]
    cases hentry : files'.entry? place with
    | none =>
      rw [hentry, Option.isSome_none, Option.isSome_eq_false_iff] at hsome
      simp only [hsome, if_true]
      exact .error _
    | some entry =>
      rw [hentry, Option.isSome_some] at hsome
      have hnot : (files.entry? place).isNone = false := by
        rw [← Option.not_isSome, hsome]
        rfl
      simp only [hnot, Option.isNone_some, Bool.false_eq_true, if_false]
      refine .ok ⟨List.rel_filter ?_ h.entries, ?_⟩
      · rintro ⟨p, e⟩ ⟨_, e'⟩ ⟨rfl, -⟩
        exact .rfl
      · rw [h.workingDirectory]

theorem Twins.changeDirectory (h : files.Twins files') (path : String) :
    (files.changeDirectory path).Twins (files'.changeDirectory path) := by
  refine h.edited ?_
  have hplace : files.directoryAt path = files'.directoryAt path := by
    simp only [Files.directoryAt, h.resolve_eq, h.workingDirectory, h.directory_iff]
  rw [hplace]
  cases files'.directoryAt path with
  | error reason => exact .error _
  | ok here => exact .ok ⟨h.entries, rfl⟩

theorem Twins.loseDirectory (h : files.Twins files') (path : String) :
    (files.loseDirectory path).Twins (files'.loseDirectory path) := by
  refine h.edited ?_
  rw [h.vacantPlace_eq]
  cases files'.vacantPlace path with
  | error reason => exact .error _
  | ok place => exact .ok ⟨h.entries, rfl⟩

end Files
end AuthRelay
