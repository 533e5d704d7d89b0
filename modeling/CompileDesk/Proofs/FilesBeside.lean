import CompileDesk.Proofs.FileWrites
import CompileDesk.Proofs.FolderPaths

/-!
# Files beside those that are written

Making folders puts something only where nothing was, and writing a file goes to a place that ends with the
name of that file. So what a path leads to is still found there after folders were made and files of
other names were written, unless it is a folder itself.
-/

namespace CompileDesk

namespace Path

/-- A name that a path can end with to lead to a file. -/
structure IsFileName (name : String) : Prop extends IsName name where
  noDot : name ≠ "."
  noDots : name ≠ ".."

theorem exists_rawParts_join (folder : String) {name : String} (named : IsName name) :
    ∃ front, rawParts (join folder name) = front ++ [name] := by
  by_cases inside : folder = ""
  · subst inside
    refine ⟨[], ?_⟩
    simp [join, rawParts, Text.pieces_of_notMem named.noSlash]
  · obtain ⟨front, -, whole⟩ := rawParts_join inside named
    exact ⟨front, whole⟩

end Path

namespace FileTree

variable {t t' : FileTree} {path other : String} {place : Place} {entry : Entry}

/-- What a path leads to, unless it is a folder, has a name in a folder, and no slash follows the name. -/
theorem find_eq_ok_iff (noFolder : entry ≠ .folder) : t.find path = .ok (place, entry) ↔
    ∃ folder name, t.goal path = .ok ⟨folder, some name, false⟩ ∧
      t.named folder name = .ok (some entry) ∧ place = folder ++ [name] := by
  constructor
  · intro found
    unfold find at found
    cases reached : t.goal path with
    | error e =>
      rw [reached] at found
      cases found
    | ok g =>
      obtain ⟨folder, name, slash⟩ := g
      rw [reached] at found
      cases name with
      | none =>
        cases found
        exact absurd rfl noFolder
      | some name =>
        simp only [Except.bind] at found
        cases named : t.named folder name with
        | error e =>
          rw [named] at found
          cases found
        | ok there =>
          rw [named] at found
          cases there with
          | none => cases found
          | some there =>
            cases there with
            | folder =>
              cases found
              exact absurd rfl noFolder
            | _ =>
              cases slash with
              | true => cases found
              | false =>
                cases found
                exact ⟨folder, name, rfl, named, rfl⟩
  · rintro ⟨folder, name, reached, named, rfl⟩
    rw [find, reached]
    simp only [Except.bind, named]
    cases entry with
    | folder => exact absurd rfl noFolder
    | _ => rfl

theorem get?_of_find (noFolder : entry ≠ .folder) (found : t.find path = .ok (place, entry)) :
    t.get? place = some entry := by
  obtain ⟨folder, name, -, named, rfl⟩ := (find_eq_ok_iff noFolder).mp found
  exact get?_of_named named

/-- What was found is found again after something was put elsewhere, where no folder was. -/
theorem find_put_of_ne {changed : Place} (isFree : t.get? changed ≠ some .folder) (elsewhere : changed ≠ place)
    (noFolder : entry ≠ .folder) (found : t.find path = .ok (place, entry)) (new : Entry) :
    (t.put changed new).find path = .ok (place, entry) := by
  obtain ⟨folder, name, reached, named, rfl⟩ := (find_eq_ok_iff noFolder).mp found
  refine (find_eq_ok_iff noFolder).mpr ⟨folder, name, goal_put isFree reached, ?_, rfl⟩
  have same : (t.put changed new).named folder name = t.named folder name := by
    simp only [FileTree.named, get?_put_of_ne t elsewhere.symm]
  rw [same, named]

/-- What the path leads to is found there in both trees, unless it is a folder. -/
def Keeps (path : String) (t t' : FileTree) : Prop :=
  ∀ place entry, entry ≠ .folder → t.find path = .ok (place, entry) → t'.find path = .ok (place, entry)

theorem Keeps.refl (path : String) (t : FileTree) : Keeps path t t := fun _ _ _ found => found

theorem Keeps.trans {t₁ t₂ t₃ : FileTree} (h : Keeps path t₁ t₂) (h' : Keeps path t₂ t₃) :
    Keeps path t₁ t₃ :=
  fun place entry noFolder found => h' place entry noFolder (h place entry noFolder found)

/-! ## Making folders -/

theorem Keeps.of_makeFolder (made : t.makeFolder other = .ok t') : Keeps path t t' := by
  unfold makeFolder at made
  cases reached : t.goal other with
  | error e =>
    rw [reached] at made
    cases made
  | ok g =>
    obtain ⟨folder, name, slash⟩ := g
    rw [reached] at made
    cases name with
    | none => cases made
    | some name =>
      simp only [Except.bind] at made
      cases named : t.named folder name with
      | error e =>
        rw [named] at made
        cases made
      | ok there =>
        rw [named] at made
        cases there with
        | some there => cases made
        | none =>
          cases made
          have missing : t.get? (folder ++ [name]) = none := get?_of_named named
          intro place entry noFolder found
          refine find_put_of_ne (by rw [Goal.place]; simp [missing]) ?_ noFolder found _
          rintro rfl
          have there := get?_of_find noFolder found
          simp [Goal.place, missing] at there

theorem Keeps.of_makeFoldersGo {fuel : Nat} (made : makeFoldersGo fuel t other = .ok t') :
    Keeps path t t' := by
  -- whichever folder comes last, it is made now or was there before
  have settled {t t' : FileTree} (other : String) (last : t.makeFolder other = .ok t' ∨ t' = t) :
      Keeps path t t' := by
    rcases last with made | rfl
    · exact .of_makeFolder made
    · exact .refl path t'
  induction fuel generalizing t other t' with
  | zero =>
    cases made
    exact .refl path t
  | succ fuel ih =>
    unfold makeFoldersGo at made
    split at made
    · cases made
      exact .refl path t
    · simp only at made
      split at made
      · split at made
        · rename_i parent _
          cases before : makeFoldersGo fuel t parent with
          | error e =>
            rw [before] at made
            cases made
          | ok t'' =>
            rw [before] at made
            simp only [Except.bind] at made
            exact (ih before).trans (settled other (by grind))
        · cases made
      · exact settled other (by grind)

theorem Keeps.of_makeFolders (made : t.makeFolders other = .ok t') : Keeps path t t' :=
  .of_makeFoldersGo made

theorem Keeps.of_makeParent (made : t.makeParent other = .ok t') : Keeps path t t' := by
  unfold makeParent at made
  split at made
  · exact .of_makeFolders made
  · cases made
    exact .refl path t

/-! ## Writing files of other names -/

theorem name_of_goal_join {folder name : String} {g : Goal} (isName : Path.IsFileName name)
    (reached : t.goal (Path.join folder name) = .ok g) : g.name = some name := by
  obtain ⟨front, parts⟩ := Path.exists_rawParts_join folder isName.toIsName
  have stops : (front ++ [name]).reverse.dropWhile (· == "") = name :: front.reverse := by
    simp [isName.nonempty]
  rw [goal_of_followable (followable_of_goal reached), parts, stops] at reached
  dsimp only at reached
  rw [List.reverse_reverse] at reached
  cases walked : front.foldlM t.enter (start (Path.join folder name)) with
  | error e =>
    rw [walked] at reached
    cases reached
  | ok there =>
    rw [walked] at reached
    simp only [Except.bind] at reached
    rw [if_neg (by simp [isName.noDot, isName.noDots])] at reached
    cases reached
    rfl

theorem exists_place_of_find_join {folder name : String} (isName : Path.IsFileName name)
    (noFolder : entry ≠ .folder) (found : t.find (Path.join folder name) = .ok (place, entry)) :
    ∃ inside, place = inside ++ [name] := by
  obtain ⟨inside, name', reached, -, rfl⟩ := (find_eq_ok_iff noFolder).mp found
  obtain rfl : name' = name := Option.some.inj (name_of_goal_join isName reached)
  exact ⟨inside, rfl⟩

/-- A file is written to a place that ends with its name, where no folder was. -/
theorem Keeps.of_writeText {folder name folder' name' text : String} (isName : Path.IsFileName name)
    (isName' : Path.IsFileName name') (different : name' ≠ name)
    (written : t.writeText (Path.join folder' name') text = .ok t') :
    Keeps (Path.join folder name) t t' := by
  unfold writeText writeBytes at written
  cases goal : t.writing (Path.join folder' name') with
  | error e =>
    rw [goal] at written
    cases written
  | ok target =>
    obtain ⟨changed, before⟩ := target
    rw [goal] at written
    obtain ⟨inside, own, reached, named, rfl, isFree⟩ := writing_eq_ok goal
    obtain rfl : own = name' := Option.some.inj (name_of_goal_join isName' reached)
    have isFree : t.get? (inside ++ [own]) ≠ some .folder := by rwa [get?_of_named named]
    have put (new : Entry) : Keeps (Path.join folder name) t (t.put (inside ++ [own]) new) := by
      intro place entry noFolder found
      obtain ⟨inside', rfl⟩ := exists_place_of_find_join isName noFolder found
      refine find_put_of_ne isFree ?_ noFolder found new
      intro same
      exact different (List.singleton_inj.mp (List.append_inj' same rfl).2)
    cases before with
    | none =>
      cases written
      exact put _
    | some there =>
      cases there with
      | device =>
        cases written
        exact .refl _ t
      | _ =>
        cases written
        exact put _

/-- What was written to a path is found there; a device stays a device. -/
theorem exists_find_of_writeText {text : String} (written : t.writeText path text = .ok t') :
    ∃ place entry, entry ≠ .folder ∧ t'.find path = .ok (place, entry) := by
  unfold writeText writeBytes at written
  cases goal : t.writing path with
  | error e =>
    rw [goal] at written
    cases written
  | ok target =>
    obtain ⟨place, before⟩ := target
    rw [goal] at written
    have put (executable : Bool) : ∃ place' entry, entry ≠ .folder ∧
        (t.put place (.file (Text.bytesOf text) executable)).find path = .ok (place', entry) :=
      ⟨place, .file (Text.bytesOf text) executable, nofun, find_put goal _ executable⟩
    cases before with
    | none =>
      cases written
      exact put false
    | some there =>
      cases there with
      | device =>
        cases written
        obtain ⟨inside, name, reached, named, rfl, isFree⟩ := writing_eq_ok goal
        have noFolder : Entry.device ≠ .folder := nofun
        exact ⟨_, _, noFolder, (find_eq_ok_iff noFolder).mpr ⟨inside, name, reached, named, rfl⟩⟩
      | _ =>
        cases written
        exact put _

/-- Where something other than a folder is found a text can be written, and it is found there afterwards
unless that is a device. -/
theorem exists_writeText_of_find (noFolder : entry ≠ .folder) (found : t.find path = .ok (place, entry))
    (text : String) : ∃ t', t.writeText path text = .ok t' ∧
      (entry ≠ .device → ∃ executable, t'.find path = .ok (place, .file (Text.bytesOf text) executable)) := by
  obtain ⟨folder, name, reached, named, rfl⟩ := (find_eq_ok_iff noFolder).mp found
  have goal : t.writing path = .ok (folder ++ [name], some entry) := by
    simp only [writing, reached, Except.bind, named]
    cases entry with
    | folder => exact absurd rfl noFolder
    | _ => rfl
  rw [writeText, writeBytes, goal]
  cases entry with
  | folder => exact absurd rfl noFolder
  | device => exact ⟨t, rfl, fun noDevice => absurd rfl noDevice⟩
  | file _ executable => exact ⟨_, rfl, fun _ => ⟨executable, find_put goal _ _⟩⟩
  | program _ => exact ⟨_, rfl, fun _ => ⟨false, find_put goal _ _⟩⟩

end FileTree
end CompileDesk
