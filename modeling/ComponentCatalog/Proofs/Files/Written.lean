import ComponentCatalog.Files.Tree

/-! # What was written is read

A file that is written holds what was written, and everything else is of the kind that it was: directories
stay directories and links stay as they are. So the path that was written through, which may go over links
and back up, leads to the file that was written.
-/

namespace ComponentCatalog.Files

namespace Node

/-- Both are files, or directories, or links to the same path. -/
inductive Alike : Node → Node → Prop where
  | file (bytes bytes' : ByteArray) : Alike (.file bytes) (.file bytes')
  | link (target : String) : Alike (.link target) (.link target)
  | dir (entries entries' : List (String × Node)) : Alike (.dir entries) (.dir entries')

theorem Alike.refl (node : Node) : Alike node node := by
  cases node with
  | file bytes => exact .file bytes bytes
  | link target => exact .link target
  | dir entries => exact .dir entries entries

theorem Alike.isDir_eq {node other : Node} (alike : Alike node other) : other.isDir = node.isDir := by
  cases alike <;> rfl

theorem get?_append (node : Node) (names more : List String) :
    node.get? (names ++ more) = (node.get? names).bind (get? · more) := by
  induction names generalizing node with
  | nil => rfl
  | cons name names ih =>
    rw [List.cons_append, get?, get?, Option.bind_assoc]
    exact congrArg _ (funext fun below => ih below)

/-- What stands under a name of a directory. -/
theorem get?_concat {node : Node} {names : List String} {entries : List (String × Node)}
    (dir : node.get? names = some (.dir entries)) (name : String) :
    node.get? (names ++ [name]) = Table.get? entries name := by
  rw [get?_append, dir]
  exact Option.bind_fun_some _

/-- What is put into a tree stands there. -/
theorem get?_put (node : Node) (names : List String) (new : Node) :
    (node.put names new).get? names = some new := by
  induction names generalizing node with
  | nil => rfl
  | cons name names ih =>
    change (Table.get? (Table.set node.entries name _) name).bind _ = _
    rw [Table.get?_set, if_pos rfl, Option.bind_some]
    exact ih _

/-- Names lead to a file, or to nothing in a directory that is there. -/
def Takes (node : Node) : List String → Prop
  | [] => ∃ bytes, node = .file bytes
  | name :: names => ∃ entries, node = .dir entries ∧
      ((∃ below, Table.get? entries name = some below ∧ below.Takes names) ∨
        Table.get? entries name = none ∧ names = [])

theorem takes_of_file {node : Node} {names : List String} {bytes : ByteArray}
    (file : node.get? names = some (.file bytes)) : node.Takes names := by
  induction names generalizing node with
  | nil => exact ⟨bytes, Option.some.inj file⟩
  | cons name names ih =>
    obtain ⟨below, there, inside⟩ := Option.bind_eq_some_iff.mp file
    cases node with
    | dir entries => exact ⟨entries, rfl, .inl ⟨below, there, ih inside⟩⟩
    | _ => cases there

theorem takes_of_free {node : Node} {names : List String} {name : String}
    {entries : List (String × Node)} (dir : node.get? names = some (.dir entries))
    (free : Table.get? entries name = none) : node.Takes (names ++ [name]) := by
  induction names generalizing node with
  | nil => exact ⟨entries, Option.some.inj dir, .inr ⟨free, rfl⟩⟩
  | cons first names ih =>
    obtain ⟨below, there, inside⟩ := Option.bind_eq_some_iff.mp dir
    cases node with
    | dir others => exact ⟨others, rfl, .inl ⟨below, there, ih inside⟩⟩
    | _ => cases there

/-- All that is in a tree is in another one, of the kind that it is. -/
def KeptIn (root other : Node) : Prop :=
  ∀ path found, root.get? path = some found → ∃ found', other.get? path = some found' ∧ Alike found found'

/-- Putting a file keeps all that was in a tree. -/
theorem keptIn_put {node : Node} {names : List String} (takes : node.Takes names) (bytes : ByteArray) :
    node.KeptIn (node.put names (.file bytes)) := by
  intro path found there
  induction names generalizing node path with
  | nil =>
    obtain ⟨before, rfl⟩ := takes
    cases path with
    | nil =>
      cases there
      exact ⟨_, rfl, .file before bytes⟩
    | cons name path => cases there
  | cons name names ih =>
    obtain ⟨entries, rfl, takes⟩ := takes
    cases path with
    | nil =>
      cases there
      exact ⟨_, rfl, .dir ..⟩
    | cons other path =>
      obtain ⟨below, beneath, inside⟩ := Option.bind_eq_some_iff.mp there
      replace beneath : Table.get? entries other = some below := beneath
      change ∃ found', (Table.get? (Table.set entries name _) other).bind _ = some found' ∧ _
      rw [Table.get?_set]
      split
      · next same =>
        subst same
        rcases takes with ⟨_, here, takes⟩ | ⟨free, -⟩
        · obtain rfl := Option.some.inj (here.symm.trans beneath)
          simp only [Node.entries, here, Option.getD_some, Option.bind_some]
          exact ih takes path inside
        · cases free.symm.trans beneath
      · rw [beneath]
        exact ⟨found, inside, .refl found⟩

end Node

open Node

/-! ## Following a path -/

section

variable {root : Node} {links : Nat} {base : List String} {name : String} {rest : List PathPart}
  {entries : List (String × Node)}

theorem follow_here (dir : ((root.get? base).map isDir).getD false = true) :
    follow root true links base (.here :: rest) = follow root true links base rest := by
  rw [follow, if_pos dir]

theorem follow_up (dir : ((root.get? base).map isDir).getD false = true) :
    follow root true links base (.up :: rest) = follow root true links base.dropLast rest := by
  rw [follow, if_pos dir]

/-- A name that stands for no link leads to what stands under it. -/
theorem follow_name (dir : root.get? base = some (.dir entries)) (short : ¬ nameLimit < name.utf8ByteSize)
    {found : Node} (there : root.get? (base ++ [name]) = some found)
    (plain : ∀ target, found ≠ .link target) :
    follow root true links base (.name name :: rest) = follow root true links (base ++ [name]) rest := by
  rw [get?_concat dir] at there
  rw [follow, dir]
  simp only [short, if_false, there]

/-- A name that stands for a link leads where the link does. -/
theorem follow_link (dir : root.get? base = some (.dir entries)) (short : ¬ nameLimit < name.utf8ByteSize)
    {target : String} (there : root.get? (base ++ [name]) = some (.link target))
    (whole : ¬ target.isEmpty = true) :
    follow root true (links + 1) base (.name name :: rest) =
      follow root true links base (steps target ++ rest) := by
  rw [get?_concat dir] at there
  rw [follow, dir]
  simp [short, there, whole]

end

namespace Place

/-- The names that a file is written to at a place. -/
def target : Place → List String
  | found names _ => names
  | free names name => names ++ [name]

/-- A place is what a tree has there: something, or a directory without the name. -/
def IsIn (root : Node) : Place → Prop
  | found names node => root.get? names = some node
  | free names name => ∃ entries, root.get? names = some (.dir entries) ∧ Table.get? entries name = none

end Place

theorem isIn_of_follow {root : Node} {links : Nat} {base : List String} {parts : List PathPart}
    {place : Place} (leads : follow root true links base parts = .ok place) : place.IsIn root := by
  fun_induction follow root true links base parts with
  | case1 links base node there =>
    cases leads
    exact there
  | case9 links base name rest entries there short free last =>
    cases leads
    exact ⟨entries, there, free⟩
  | case11 links base name rest entries there short target link last => simp at last
  | case3 _ _ _ ih | case4 _ _ _ _ ih | case6 _ _ _ _ ih => exact ih leads
  | case14 _ _ _ _ _ _ _ _ _ _ _ ih => exact ih leads
  | case15 _ _ _ _ _ _ _ _ _ _ ih => exact ih leads
  | _ => cases leads

/-- In a tree that keeps all of another one, a path leads to the same place, if there is a file now. -/
theorem follow_of_keptIn {root other : Node} (kept : root.KeptIn other) {links : Nat} {base : List String}
    {parts : List PathPart} {place : Place} (leads : follow root true links base parts = .ok place)
    {bytes : ByteArray} (there : other.get? place.target = some (.file bytes)) :
    follow other true links base parts = .ok (.found place.target (.file bytes)) := by
  have dirs {base : List String} (dir : ((root.get? base).map isDir).getD false = true) :
      ((other.get? base).map isDir).getD false = true := by
    cases at_ : root.get? base with
    | none => simp [at_] at dir
    | some found =>
      obtain ⟨found', now, alike⟩ := kept base found at_
      simpa [at_, now, alike.isDir_eq] using dir
  have dir {base : List String} {entries : List (String × Node)}
      (at_ : root.get? base = some (.dir entries)) :
      ∃ entries', other.get? base = some (.dir entries') := by
    obtain ⟨_, now, alike⟩ := kept base _ at_
    cases alike
    exact ⟨_, now⟩
  -- Every step that was taken is taken again; only the last one may find a file where nothing was.
  fun_induction follow root true links base parts with
  | case1 links base node found =>
    cases leads
    rw [follow, show other.get? base = some (.file bytes) from there]
    rfl
  | case3 links base rest ih =>
    rw [follow]
    exact ih leads
  | case4 links base rest isDir ih =>
    rw [follow_here (dirs isDir)]
    exact ih leads
  | case6 links base rest isDir ih =>
    rw [follow_up (dirs isDir)]
    exact ih leads
  | case9 links base name rest entries before short free last =>
    cases leads
    obtain ⟨entries', now⟩ := dir before
    obtain rfl := List.isEmpty_iff.mp last
    rw [follow_name now short there (by simp), follow, show other.get? (base ++ [name]) = _ from there]
    rfl
  | case11 links base name rest entries before short target link last => simp at last
  | case14 base name rest entries before short target link _ links whole ih =>
    obtain ⟨entries', now⟩ := dir before
    obtain ⟨_, at_, alike⟩ := kept (base ++ [name]) _ ((get?_concat before name).trans link)
    cases alike
    rw [follow_link now short at_ whole]
    exact ih leads
  | case15 links base name rest entries before short found plain beneath ih =>
    obtain ⟨entries', now⟩ := dir before
    obtain ⟨found', at_, alike⟩ := kept (base ++ [name]) _ ((get?_concat before name).trans beneath)
    rw [follow_name now short at_ (by rintro target rfl; cases alike; exact plain _ rfl)]
    exact ih leads
  | _ => cases leads

/-! ## Reading what was written -/

/-- Whether a path can be followed at all is a matter of its text. -/
private theorem place_eq_follow {files : Files} {path : Path} {place : Place}
    (leads : files.place true path = .ok place) (other : Files) :
    other.place true path = follow other.root true linkLimit other.here (steps path.text) := by
  unfold Files.place at leads ⊢
  split at leads
  · cases leads
  split at leads
  · cases leads
  split at leads
  · cases leads
  simp only [*, if_false, Bool.false_eq_true]

/-- What a path leads to is in the tree. -/
theorem isIn_of_place {files : Files} {path : Path} {place : Place}
    (leads : files.place true path = .ok place) : place.IsIn files.root :=
  isIn_of_follow ((place_eq_follow leads files).symm.trans leads)

/-- A file that can be written is written where the path leads. -/
theorem write_eq {files changed : Files} {path : Path} {bytes : ByteArray}
    (written : files.write path bytes = .ok changed) :
    ∃ place, files.place true path = .ok place ∧ files.root.Takes place.target ∧
      changed = { files with root := files.root.put place.target (.file bytes) } := by
  unfold write at written
  cases leads : files.place true path with
  | error fault => simp [leads, bind, Except.bind] at written
  | ok place =>
    have there : place.IsIn files.root := isIn_of_place leads
    simp only [leads, bind, Except.bind] at written
    cases place with
    | found names node =>
      cases node with
      | file before =>
        cases written
        exact ⟨_, rfl, takes_of_file there, rfl⟩
      | _ => cases written
    | free names name =>
      obtain ⟨entries, directory, none⟩ := there
      cases written
      exact ⟨_, rfl, takes_of_free directory none, rfl⟩

/-- A file that was written is read back. -/
theorem read_of_write {files changed : Files} {path : Path} {bytes : ByteArray}
    (written : files.write path bytes = .ok changed) : changed.read path = .ok bytes := by
  obtain ⟨place, leads, takes, rfl⟩ := write_eq written
  have again := follow_of_keptIn (keptIn_put takes bytes) ((place_eq_follow leads files).symm.trans leads)
    (get?_put files.root place.target (.file bytes))
  rw [read, place_eq_follow leads, again]
  rfl

end ComponentCatalog.Files
