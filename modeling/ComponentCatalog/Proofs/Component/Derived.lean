import ComponentCatalog.Proofs.Component.Discovered
import Mathlib.Data.List.TakeWhile

/-! # Names made of directories

The name of a component has the words of the directories on the way to its file and those of the file behind
them, less what the file repeats. A directory that the file repeats ends the name's directories, so those
behind it are missing too. Only repeated directories are missing if and only if each one behind a repeated one
is repeated as well.
-/

namespace ComponentCatalog.Component

open Files

/-- Does the name of a file repeat a directory? Then it starts with its words, but for case. -/
def repeats (file dir : String) : Bool :=
  (Unicode.lowerText (pascalCase dir).toList).isPrefixOf (Unicode.lowerText file.toList)

/-- The words of directories and those of a file behind them. -/
def spelled (file : String) (dirs : List String) : String :=
  dirs.foldr (fun dir name => pascalCase dir ++ name) file

section

variable {file dir : String} {dirs : List String}

/-- A text in lower case has characters if the text has any. -/
theorem lowerText_eq_nil_iff {text : List Char} : Unicode.lowerText text = [] ↔ text = [] := by
  cases text with
  | nil => exact iff_of_true rfl rfl
  | cons c rest =>
    refine iff_of_false ?_ (List.cons_ne_nil _ _)
    rw [Unicode.lowerText, Unicode.lowerFrom]
    split_ifs <;> exact List.cons_ne_nil _ _

theorem repeats_empty_iff : repeats "" dir = true ↔ pascalCase dir = "" := by
  rw [repeats, List.isPrefixOf_iff_prefix, String.toList_empty, lowerText_eq_nil_iff.mpr rfl, List.prefix_nil,
    lowerText_eq_nil_iff, String.toList_eq_nil_iff]

/-- A directory without words is repeated by any file. -/
theorem pascalCase_ne_of_not_repeats (apart : repeats file dir = false) : pascalCase dir ≠ "" := by
  intro wordless
  rw [repeats, wordless, String.toList_empty, lowerText_eq_nil_iff.mpr rfl, List.isPrefixOf] at apart
  cases apart

/-- A directory that a file repeats ends the directories of its name. -/
theorem nameFrom_eq_spelled : nameFrom file dirs =
    spelled file (dirs.takeWhile fun dir => file.isEmpty || !repeats file dir) := by
  induction dirs with
  | nil => rfl
  | cons dir dirs ih =>
    have step : nameFrom file (dir :: dirs) =
        if !file.isEmpty && repeats file dir then file else pascalCase dir ++ nameFrom file dirs := rfl
    rw [step, ih, List.takeWhile_cons]
    cases file.isEmpty <;> cases repeats file dir <;> rfl

/-- Without a file no directory is missing: those that are repeated have no words. -/
theorem spelled_empty : spelled "" dirs = spelled "" (dirs.filter fun dir => !repeats "" dir) := by
  induction dirs with
  | nil => rfl
  | cons dir dirs ih =>
    rw [List.filter_cons]
    split
    · exact congrArg (pascalCase dir ++ ·) ih
    · next repeated =>
      have wordless : pascalCase dir = "" := repeats_empty_iff.mp (by simpa using repeated)
      rw [← ih, spelled, List.foldr_cons, wordless, String.empty_append]
      rfl

theorem length_le_length_spelled (file : String) (dirs : List String) : file.length ≤ (spelled file dirs).length := by
  induction dirs with
  | nil => exact Nat.le_refl _
  | cons dir dirs ih =>
    rw [spelled, List.foldr_cons, String.length_append]
    exact Nat.le_add_left_of_le ih

/-- The name of a file alone has the words of no directory. -/
theorem spelled_eq_iff (worded : ∀ dir ∈ dirs, pascalCase dir ≠ "") : spelled file dirs = file ↔ dirs = [] := by
  cases dirs with
  | nil => exact iff_of_true rfl rfl
  | cons dir dirs =>
    refine iff_of_false (fun same => worded dir (List.mem_cons_self ..) ?_) (List.cons_ne_nil _ _)
    have length : (pascalCase dir).length + (spelled file dirs).length = file.length := by
      rw [← String.length_append]
      exact congrArg String.length same
    have least := length_le_length_spelled file dirs
    exact String.length_eq_zero_iff.mp (by omega)

/-- The directories before a repeated one make the name that those not repeated make if and only if behind a repeated
one all are repeated. -/
theorem spelled_takeWhile_eq_iff :
    spelled file (dirs.takeWhile fun dir => !repeats file dir) =
      spelled file (dirs.filter fun dir => !repeats file dir) ↔
    dirs.Pairwise fun dir later => repeats file dir = true → repeats file later = true := by
  induction dirs with
  | nil => exact iff_of_true rfl List.Pairwise.nil
  | cons dir dirs ih =>
    rw [List.takeWhile_cons, List.filter_cons, List.pairwise_cons]
    cases here : repeats file dir with
    | false =>
      have cancel (name other : String) : pascalCase dir ++ name = pascalCase dir ++ other ↔ name = other := by
        simp [← String.toList_inj]
      simpa [spelled, cancel] using ih
    | true =>
      have worded : ∀ other ∈ dirs.filter fun dir => !repeats file dir, pascalCase other ≠ "" := fun other member =>
        pascalCase_ne_of_not_repeats (by simpa using (List.mem_filter.mp member).2)
      have nobody : (dirs.filter fun dir => !repeats file dir) = [] ↔ ∀ later ∈ dirs, repeats file later = true := by
        simp
      have alone : spelled file [] = file := rfl
      simp only [Bool.not_true, Bool.false_eq_true, if_false, alone, eq_comm (a := file), spelled_eq_iff worded,
        nobody, forall_const]
      refine ⟨fun all => ⟨all, ?_⟩, And.left⟩
      exact List.pairwise_of_forall_mem_list fun _ _ later member _ => all later member

theorem nameFrom_eq_iff : nameFrom file dirs = spelled file (dirs.filter fun dir => !repeats file dir) ↔
    file = "" ∨ dirs.Pairwise fun dir later => repeats file dir = true → repeats file later = true := by
  rw [nameFrom_eq_spelled]
  rcases Decidable.em (file = "") with rfl | worded
  · have all : (dirs.takeWhile fun dir => "".isEmpty || !repeats "" dir) = dirs :=
      List.takeWhile_eq_self_iff.mpr fun _ _ => rfl
    rw [all]
    exact iff_of_true spelled_empty (Or.inl rfl)
  · have named : file.isEmpty = false := eq_false_of_ne_true (mt String.isEmpty_iff.mp worded)
    simp only [named, Bool.false_or]
    rw [spelled_takeWhile_eq_iff, or_iff_right worded]

/-- There are words with those that are missing if and only if there are some without. -/
theorem nameFrom_eq_empty_iff :
    nameFrom file dirs = "" ↔ spelled file (dirs.filter fun dir => !repeats file dir) = "" := by
  rcases Decidable.em (file = "") with rfl | worded
  · rw [nameFrom_eq_iff.mpr (Or.inl rfl)]
  · have named (dirs : List String) : spelled file dirs ≠ "" := by
      intro empty
      have least := length_le_length_spelled file dirs
      rw [empty] at least
      exact worded (String.length_eq_zero_iff.mp (Nat.le_zero.mp least))
    rw [nameFrom_eq_spelled]
    exact iff_of_false (named _) (named _)

end

/-- The component at the path of a file has the words of the directories on the way to it, but those called global,
up to the first one that the file repeats, and those of the file. It has the words of all directories that the file
does not repeat if and only if the file has no words of its own or repeats every directory behind one
that it repeats. A component is there if and only if there are any words. -/
theorem displayName_eq_iff {files : Files} (wellNamed : files.root.WellNamed) {dir : Path} {base below : List String}
    (holds : Holds files dir base below) :
    ∃ stem, (pathOf (base ++ below)).stem? = some stem ∧
      let file := filePart stem
      let dirs := below.dropLast.filter (· != globalDir)
      let unrepeated := spelled file (dirs.filter fun dir => !repeats file dir)
      ((∃ descriptor ∈ (discover files [dir]).1, descriptor.resolvedPath = pathOf (base ++ below)) ↔
        unrepeated ≠ "") ∧
      ∀ descriptor ∈ (discover files [dir]).1, descriptor.resolvedPath = pathOf (base ++ below) →
        descriptor.displayName = spelled file (dirs.takeWhile fun dir => file.isEmpty || !repeats file dir) ∧
        (descriptor.displayName = unrepeated ↔
          file = "" ∨ dirs.Pairwise fun dir later => repeats file dir = true → repeats file later = true) := by
  obtain ⟨stem, found⟩ := holds.exists_stem
  have there (descriptor : Descriptor) :
      descriptor ∈ (discover files [dir]).1 ∧ descriptor.resolvedPath = pathOf (base ++ below) ↔
        nameOf below.dropLast stem ≠ "" ∧ descriptor = ⟨nameOf below.dropLast stem, pathOf (base ++ below),
          globalSuffix.isSuffixOf stem.toList || below.dropLast.contains globalDir⟩ := by
    rw [mem_discover_singleton_iff wellNamed, ← describeFile_eq_some_iff]
    have derived : derived? base below = describeFile (pathOf (base ++ below)) below.dropLast stem := by
      rw [derived?, found, Option.bind_some]
    rw [← derived, ← holds.shows_iff wellNamed]
    refine and_congr_right fun shows => ⟨congrArg Path.parts, fun same => ?_⟩
    exact derived?_path ((holds.shows_iff wellNamed).mp ⟨shows, same⟩)
  refine ⟨stem, found, ?_, fun descriptor member path => ?_⟩
  · rw [ne_eq, ← nameFrom_eq_empty_iff]
    constructor
    · rintro ⟨descriptor, member, path⟩
      exact ((there descriptor).mp ⟨member, path⟩).1
    · intro worded
      exact ⟨_, (there _).mpr ⟨worded, rfl⟩⟩
  · obtain ⟨-, rfl⟩ := (there descriptor).mp ⟨member, path⟩
    exact ⟨nameFrom_eq_spelled, nameFrom_eq_iff⟩

/-- A file that repeats the outer one of the two directories on the way to it. -/
def groupedButton : Files := ⟨.dir [("button", .dir [("icons", .dir [("ButtonGroup.vue", .file ⟨#[]⟩)])])], []⟩

private theorem wellNamed_groupedButton : groupedButton.root.WellNamed := by
  have file : (Node.file ⟨#[]⟩).WellNamed := Node.wellNamed_of_not_isDir rfl
  simp +decide [groupedButton, Node.wellNamed_dir_iff, file]

private theorem canonical_groupedButton :
    groupedButton.canonical ⟨"/"⟩ = .ok (pathOf [], groupedButton.root) := by
  have way : steps "/" = [.root, .here] := by decide +kernel
  rw [canonical, place, way]
  simp +decide [follow, Node.get?, groupedButton, bind, Except.bind]
  rfl

/-- The inner directory is missing. -/
theorem displayName_eq_iff_grouped : groupedButton.root.WellNamed ∧
    Holds groupedButton ⟨"/"⟩ [] ["button", "icons", "ButtonGroup.vue"] ∧
    ∃ descriptor ∈ (discover groupedButton [⟨"/"⟩]).1,
      descriptor.resolvedPath = ⟨"/button/icons/ButtonGroup.vue"⟩ ∧
      descriptor.displayName ≠ spelled "ButtonGroup" ["icons"] := by
  have holds : Holds groupedButton ⟨"/"⟩ [] ["button", "icons", "ButtonGroup.vue"] :=
    ⟨⟨_, canonical_groupedButton⟩, ⟨.file ⟨#[]⟩, rfl, trivial⟩, by decide +kernel, by decide⟩
  obtain ⟨stem, found, there, named⟩ := displayName_eq_iff wellNamed_groupedButton holds
  obtain rfl : "ButtonGroup" = stem := Option.some.inj (by rw [← found]; decide +kernel)
  obtain ⟨descriptor, member, path⟩ := there.mpr (by decide +kernel)
  refine ⟨wellNamed_groupedButton, holds, descriptor, member, path, fun whole => ?_⟩
  have behind := (named descriptor member path).2.mp (whole.trans (by decide +kernel))
  revert behind
  decide +kernel

/-- The name is that of the file alone, though the file does not repeat the inner directory. -/
theorem displayName_grouped :
    (discover groupedButton [⟨"/"⟩]).1 = [⟨"ButtonGroup", ⟨"/button/icons/ButtonGroup.vue"⟩, false⟩] ∧
    spelled "ButtonGroup" (["button", "icons"].filter fun dir => !repeats "ButtonGroup" dir) =
      "IconsButtonGroup" := by
  have visited : (visits groupedButton ⟨"/"⟩).filterMap Visited.describe =
      [⟨"ButtonGroup", ⟨"/button/icons/ButtonGroup.vue"⟩, false⟩] := by
    rw [visits, canonical_groupedButton]
    simp only [groupedButton, walk, walkEntries]
    decide +kernel
  constructor
  · simp [discover_eq, arranged, visited, discover.single]
  · decide +kernel

end ComponentCatalog.Component
