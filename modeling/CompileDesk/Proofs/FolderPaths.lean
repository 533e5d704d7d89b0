import CompileDesk.Files.Operation

/-! # The folder that a path leads through

A path to a name in a folder can be followed only if the folder is there. The folder is then found
by its own path as well, so that making it together with the folders that lead to it changes nothing.
-/

namespace CompileDesk

namespace Text

theorem pieces_ne_nil (sep : Char) (s : List Char) : pieces sep s ≠ [] := by
  cases s with
  | nil => simp [pieces]
  | cons c rest =>
    rw [pieces]
    split
    · simp
    · split <;> simp

/-- A separator between two texts separates their pieces. -/
theorem pieces_append (sep : Char) (before after : List Char) :
    pieces sep (before ++ sep :: after) = pieces sep before ++ pieces sep after := by
  induction before with
  | nil => simp [pieces]
  | cons c before ih =>
    rw [List.cons_append, pieces, pieces, ih]
    split
    · rfl
    · cases first : pieces sep before with
      | nil => exact absurd first (pieces_ne_nil sep before)
      | cons piece more => rfl

theorem pieces_of_notMem {sep : Char} {s : List Char} (h : sep ∉ s) : pieces sep s = [s] := by
  induction s with
  | nil => rfl
  | cons c rest ih =>
    have other : c ≠ sep := fun same => h (same ▸ List.mem_cons_self)
    have later : sep ∉ rest := fun there => h (List.mem_cons_of_mem c there)
    rw [pieces, if_neg (by simpa using other), ih later]

end Text

namespace Path

/-- A name between two slashes of a path that says where to go. -/
structure IsName (name : String) : Prop where
  nonempty : name ≠ ""
  noSlash : '/' ∉ name.toList

theorem IsName.relative {name : String} (h : IsName name) : isAbsolute name = false := by
  rw [isAbsolute, beq_eq_false_iff_ne]
  intro slash
  exact h.noSlash (List.mem_of_head? slash)

/-- The pieces of a path below a folder are those of the folder and the name; a slash at the end of the
folder is not doubled. -/
theorem rawParts_join {folder name : String} (inside : folder ≠ "") (named : IsName name) :
    ∃ front, (rawParts folder = front ∨ rawParts folder = front ++ [""]) ∧
      rawParts (join folder name) = front ++ [name] := by
  have last : Text.pieces '/' name.toList = [name.toList] := Text.pieces_of_notMem named.noSlash
  rw [join, named.relative, if_neg (by simpa using inside)]
  by_cases ends : folder.toList.getLast? = some '/'
  · obtain ⟨front, whole⟩ := List.getLast?_eq_some_iff.mp ends
    refine ⟨(Text.pieces '/' front).map String.ofList, .inr ?_, ?_⟩
    · rw [rawParts, whole, Text.pieces_append, List.map_append]
      rfl
    · rw [if_pos (by simpa using ends), rawParts, String.toList_append, whole,
        List.append_assoc, List.singleton_append, Text.pieces_append, last, List.map_append]
      simp
  · refine ⟨rawParts folder, .inl rfl, ?_⟩
    have slash : "/".toList = ['/'] := rfl
    rw [if_neg (by simpa using ends), rawParts, rawParts, String.toList_append, String.toList_append,
      slash, List.append_assoc, List.singleton_append, Text.pieces_append, last, List.map_append]
    simp

theorem join_eq_append {folder : String} (inside : folder ≠ "") {name : String} (named : IsName name) :
    ∃ rest, join folder name = folder ++ rest := by
  rw [join, named.relative, if_neg (by simpa using inside)]
  split
  · exact ⟨name, rfl⟩
  · exact ⟨"/" ++ name, String.append_assoc ..⟩

end Path

namespace FileTree

variable {t : FileTree} {path : String}

/-- The place at which a path starts. -/
def start (path : String) : Place := if Path.isAbsolute path then Place.root else []

/-- A path that can be followed at all. -/
structure Followable (path : String) : Prop where
  noNul : '\x00' ∉ path.toList
  nonempty : path ≠ ""
  short : path.utf8ByteSize ≤ longestPath

theorem followable_of_goal {g : Goal} (reached : t.goal path = .ok g) : Followable path := by
  unfold goal at reached
  split at reached
  · cases reached
  · rename_i noNul
    split at reached
    · cases reached
    · rename_i nonempty
      split at reached
      · cases reached
      · rename_i short
        exact ⟨by simpa using noNul, by simpa using nonempty, Nat.le_of_not_lt short⟩

theorem Followable.of_append {rest : String} (h : Followable (path ++ rest)) (nonempty : path ≠ "") :
    Followable path := by
  refine ⟨?_, nonempty, ?_⟩
  · have noNul := h.noNul
    rw [String.toList_append] at noNul
    exact fun there => noNul (List.mem_append_left _ there)
  · have short := h.short
    rw [String.utf8ByteSize_append] at short
    omega

theorem goal_of_followable (h : Followable path) :
    t.goal path = match (Path.rawParts path).reverse.dropWhile (· == "") with
      | [] => .ok ⟨start path, none, true⟩
      | last :: before =>
        (before.reverse.foldlM t.enter (start path)).bind fun folder =>
          if last == "." || last == ".." then
            (t.enter folder last).map fun folder => ⟨folder, none, true⟩
          else .ok ⟨folder, some last, (Path.rawParts path).reverse.head? == some ""⟩ := by
  unfold goal
  rw [if_neg (by simpa using h.noNul), if_neg (by simpa using h.nonempty),
    if_neg (Nat.not_lt.mpr h.short)]
  rfl

theorem named_of_enter {here there : Place} {part : String} (entered : t.enter here part = .ok there)
    (nonempty : part ≠ "") (plain : (part == "." || part == "..") = false) :
    t.named here part = .ok (some .folder) := by
  obtain ⟨dot, dots⟩ := Bool.or_eq_false_iff.mp plain
  unfold enter at entered
  rw [if_neg (by simpa [dot] using nonempty), if_neg (by simp [dots])] at entered
  split at entered
  · cases entered
  · assumption
  · cases entered
  · cases entered

theorem walk_append {before after : List String} {here place : Place}
    (walked : (before ++ after).foldlM t.enter here = .ok place) :
    ∃ there, before.foldlM t.enter here = .ok there ∧ after.foldlM t.enter there = .ok place := by
  rw [List.foldlM_append] at walked
  cases first : before.foldlM t.enter here with
  | error e =>
    rw [first] at walked
    cases walked
  | ok there =>
    rw [first] at walked
    exact ⟨there, rfl, walked⟩

/-- A path has no part that says where to go, or such a part with nothing but slashes behind it. -/
theorem rawParts_cases (path : String) :
    (Path.rawParts path).reverse.dropWhile (· == "") = [] ∨
    ∃ before last idle, (Path.rawParts path).reverse.dropWhile (· == "") = last :: before ∧
      Path.rawParts path = before.reverse ++ last :: idle ∧ last ≠ "" := by
  have parts := List.takeWhile_append_dropWhile (p := (· == "")) (l := (Path.rawParts path).reverse)
  have stops := List.head?_dropWhile_not (· == "") (Path.rawParts path).reverse
  generalize (Path.rawParts path).reverse.takeWhile (· == "") = idle at parts
  generalize (Path.rawParts path).reverse.dropWhile (· == "") = rest at parts stops ⊢
  cases rest with
  | nil => exact .inl rfl
  | cons last before =>
    refine .inr ⟨before, last, idle.reverse, rfl, ?_, by simpa using stops⟩
    rw [← List.reverse_reverse (Path.rawParts path), ← parts]
    simp

/-- A path whose parts lead from folder to folder ends at a folder. -/
theorem goal_of_walk {place : Place} (h : Followable path)
    (walked : (Path.rawParts path).foldlM t.enter (start path) = .ok place) :
    ∃ g, t.goal path = .ok g ∧
      ∀ name, g.name = some name → t.named g.folder name = .ok (some .folder) := by
  rw [goal_of_followable h]
  obtain noPart | ⟨before, last, idle, stops, whole, nonempty⟩ := rawParts_cases path
  · rw [noPart]
    exact ⟨_, rfl, nofun⟩
  · rw [whole] at walked
    obtain ⟨folder, first, walked⟩ := walk_append walked
    have step : (last :: idle) = [last] ++ idle := rfl
    rw [step] at walked
    obtain ⟨there, second, _⟩ := walk_append walked
    have entered : t.enter folder last = .ok there := by simpa using second
    rw [stops]
    simp only [first, Except.bind]
    cases plain : last == "." || last == ".." with
    | true =>
      rw [entered]
      exact ⟨_, rfl, nofun⟩
    | false =>
      refine ⟨_, rfl, ?_⟩
      intro name same
      cases same
      exact named_of_enter entered nonempty plain

/-- A folder that a path leads to need not be made. -/
theorem folder_of_walk {place : Place} (h : Followable path)
    (walked : (Path.rawParts path).foldlM t.enter (start path) = .ok place) :
    t.isFolder path = true ∧ t.makeFolder path = .error .alreadyExists := by
  obtain ⟨⟨folder, name, slash⟩, reached, there⟩ := goal_of_walk h walked
  rw [isFolder, at?, find, makeFolder, reached]
  cases name with
  | none => exact ⟨rfl, rfl⟩
  | some name => simp [Except.bind, there name rfl, Except.toOption]

/-- The folder of a name that a path leads to is there; making it changes nothing. -/
theorem makeFolders_of_goal {folder name : String} {g : Goal} (named : Path.IsName name)
    (reached : t.goal (Path.join folder name) = .ok g) : t.makeFolders folder = .ok t := by
  by_cases inside : folder = ""
  · subst inside
    rfl
  · obtain ⟨front, own, below⟩ := Path.rawParts_join inside named
    obtain ⟨rest, whole⟩ := Path.join_eq_append inside named
    have followable := followable_of_goal reached
    have same : start (Path.join folder name) = start folder := by
      obtain ⟨c, cs, begins⟩ := List.exists_cons_of_ne_nil
        (fun none => inside (String.toList_eq_nil_iff.mp none) : folder.toList ≠ [])
      simp [start, Path.isAbsolute, whole, begins]
    rw [goal_of_followable followable, below, same] at reached
    have stops : (front ++ [name]).reverse.dropWhile (· == "") = name :: front.reverse := by
      simp [named.nonempty]
    rw [stops] at reached
    dsimp only at reached
    rw [List.reverse_reverse] at reached
    cases walked : front.foldlM t.enter (start folder) with
    | error e =>
      rw [walked] at reached
      cases reached
    | ok place =>
      -- a slash at the end of the folder adds a piece that leads nowhere else
      have through : (Path.rawParts folder).foldlM t.enter (start folder) = .ok place := by
        obtain own | own := own
        · rw [own, walked]
        · rw [own, List.foldlM_append, walked]
          rfl
      rw [whole] at followable
      obtain ⟨there, made⟩ := folder_of_walk (followable.of_append inside) through
      simp [makeFolders, makeFoldersGo, inside, made, there]

end FileTree
end CompileDesk
