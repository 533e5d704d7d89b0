import CompileDesk.Files.Operation

/-! # What is written is there

Writing to a path puts a file where no folder was. A path that could be followed passes through folders
only, so it leads to the same place as before, and there to what was written. A device takes
what is written and holds nothing.
-/

namespace CompileDesk.FileTree

variable {t : FileTree} {place : Place} {content : ByteArray} {executable : Bool}

theorem get?_of_named {folder : Place} {name : String} {entry : Option Entry}
    (h : t.named folder name = .ok entry) : t.get? (folder ++ [name]) = entry := by
  unfold named at h
  split at h
  · cases h
  · exact Except.ok.inj h

theorem named_put_self {folder : Place} {name : String} {entry : Option Entry}
    (h : t.named folder name = .ok entry) (new : Entry) :
    (t.put (folder ++ [name]) new).named folder name = .ok (some new) := by
  unfold named at h ⊢
  split at h
  · cases h
  · rename_i short
    rw [if_neg short, get?_put_self]

section Put

variable {new : Entry} (noFolder : t.get? place ≠ some .folder)
include noFolder

/-- A step into a folder is the same after something was put where no folder was. -/
theorem enter_put {here there : Place} {part : String} (entered : t.enter here part = .ok there) :
    (t.put place new).enter here part = .ok there := by
  unfold enter at entered ⊢
  split at entered
  · rename_i idle
    rwa [if_pos idle]
  · rename_i named
    rw [if_neg named]
    split at entered
    · rename_i above
      rwa [if_pos above]
    · rename_i below
      rw [if_neg below]
      cases found : t.named here part with
      | error e => simp [found] at entered
      | ok entry =>
        have other : here ++ [part] ≠ place := by
          rintro rfl
          rw [get?_of_named found] at noFolder
          rw [found] at entered
          cases entry with
          | none => cases entered
          | some entry => cases entry <;> first | exact noFolder rfl | cases entered
        have same : (t.put place new).named here part = t.named here part := by
          simp only [FileTree.named, get?_put_of_ne t other]
        rw [same]
        exact entered

theorem foldlM_enter_put {parts : List String} {here there : Place}
    (entered : parts.foldlM t.enter here = .ok there) :
    parts.foldlM (t.put place new).enter here = .ok there := by
  induction parts generalizing here with
  | nil => exact entered
  | cons part parts ih =>
    rw [List.foldlM_cons] at entered ⊢
    cases first : t.enter here part with
    | error e =>
      rw [first] at entered
      cases entered
    | ok next =>
      rw [first] at entered
      rw [enter_put noFolder first]
      exact ih entered

theorem goal_put {path : String} {g : Goal} (reached : t.goal path = .ok g) :
    (t.put place new).goal path = .ok g := by
  unfold goal at reached ⊢
  split at reached
  · cases reached
  · rename_i noNul
    rw [if_neg noNul]
    split at reached
    · cases reached
    · rename_i nonempty
      rw [if_neg nonempty]
      split at reached
      · cases reached
      · rename_i short
        rw [if_neg short]
        simp only at reached ⊢
        split at reached
        · exact reached
        · rename_i last before _
          cases walked : before.reverse.foldlM t.enter
              (if Path.isAbsolute path then Place.root else []) with
          | error e =>
            rw [walked] at reached
            cases reached
          | ok folder =>
            rw [walked] at reached
            rw [foldlM_enter_put noFolder walked]
            simp only [Except.bind] at reached ⊢
            split at reached
            · rename_i dots
              rw [if_pos dots]
              cases entered : t.enter folder last with
              | error e =>
                rw [entered] at reached
                cases reached
              | ok there =>
                rw [entered] at reached
                rwa [enter_put noFolder entered]
            · rename_i named
              rwa [if_neg named]

end Put

/-- Writing goes to a name in a folder, where no folder stands. -/
theorem writing_eq_ok {path : String} {entry : Option Entry} (h : t.writing path = .ok (place, entry)) :
    ∃ folder name, t.goal path = .ok ⟨folder, some name, false⟩ ∧ t.named folder name = .ok entry ∧
      place = folder ++ [name] ∧ entry ≠ some .folder := by
  unfold writing at h
  cases reached : t.goal path with
  | error e =>
    rw [reached] at h
    cases h
  | ok g =>
    obtain ⟨folder, name, slash⟩ := g
    rw [reached] at h
    simp only [Except.bind] at h
    split at h
    · rename_i name
      cases found : t.named folder name with
      | error e =>
        rw [found] at h
        cases h
      | ok there =>
        rw [found] at h
        refine ⟨folder, name, rfl, ?_⟩
        simp only at h
        split at h
        · cases h
        · rename_i other
          cases h
          exact ⟨found, rfl, other⟩
    · cases h

/-- A file that was put where a path leads is found there. -/
theorem find_put {path : String} {entry : Option Entry} (h : t.writing path = .ok (place, entry))
    (content : ByteArray) (executable : Bool) :
    (t.put place (.file content executable)).find path = .ok (place, .file content executable) := by
  obtain ⟨folder, name, reached, found, rfl, noFolder⟩ := writing_eq_ok h
  have noFolder : t.get? (folder ++ [name]) ≠ some .folder := by rwa [get?_of_named found]
  rw [find, goal_put noFolder reached]
  simp only [Except.bind, named_put_self found]
  rfl

theorem at?_of_writing {path : String} {entry : Entry}
    (h : t.writing path = .ok (place, some entry)) : t.at? path = some entry := by
  obtain ⟨folder, name, reached, found, rfl, noFolder⟩ := writing_eq_ok h
  have there : t.find path = .ok (folder ++ [name], entry) := by
    rw [find, reached]
    simp only [Except.bind, found]
    cases entry with
    | folder => exact absurd rfl noFolder
    | _ => rfl
  simp [at?, there, Except.toOption]

/-- What was written to a path is read there. -/
theorem readText_of_writeText {t' : FileTree} {path text : String}
    (written : t.writeText path text = .ok t') (noDevice : t'.at? path ≠ some .device) :
    t'.pathExists path = true ∧ t'.readText path = .ok text := by
  unfold writeText writeBytes at written
  cases h : t.writing path with
  | error e =>
    rw [h] at written
    cases written
  | ok goal =>
    obtain ⟨place, entry⟩ := goal
    rw [h] at written
    obtain ⟨executable, rfl⟩ : ∃ executable, t' = t.put place (.file (Text.bytesOf text) executable) := by
      cases entry with
      | none => exact ⟨_, (Except.ok.inj written).symm⟩
      | some entry =>
        cases entry with
        | device =>
          obtain rfl : t = t' := Except.ok.inj written
          exact absurd (at?_of_writing h) noDevice
        | _ => exact ⟨_, (Except.ok.inj written).symm⟩
    have found := find_put h (Text.bytesOf text) executable
    refine ⟨by simp [pathExists, at?, found, Except.toOption], ?_⟩
    simp [readText, readBytes, found, Except.bind]

section File

variable {path : String} (there : t.at? path = some (.file content executable))
include there

theorem find_of_at? : ∃ place, t.find path = .ok (place, .file content executable) := by
  unfold at? at there
  cases found : t.find path with
  | error e => simp [found, Except.toOption] at there
  | ok goal =>
    obtain ⟨place, entry⟩ := goal
    obtain rfl : entry = .file content executable := by simpa [found, Except.toOption] using there
    exact ⟨place, rfl⟩

theorem readText_of_at? {text : String} (decoded : Text.strict? content = some text) :
    t.pathExists path = true ∧ t.readText path = .ok text := by
  obtain ⟨place, found⟩ := find_of_at? there
  refine ⟨by simp [pathExists, there], ?_⟩
  simp [readText, readBytes, found, Except.bind, decoded]

end File

end CompileDesk.FileTree
