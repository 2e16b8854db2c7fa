import ComponentCatalog.Analyzer.Command
import ComponentCatalog.Proofs.Store.Keys
import Mathlib.Data.List.Nodup

/-! # What the key of a program tells

The key of an analyzer that runs as a program is one line, in which the arguments stand behind the program
with a blank before each. A blank within one of these texts looks the same. So the key tells the words of
the line, but not which of them make up one argument; and engines share what they store just if the words
are the same.
-/

namespace ComponentCatalog

namespace Analyzer.Command

variable {program program' : String} {args args' : List String}

/-- The words of a program with its arguments: what stands between blanks and the ends of the texts. -/
def words (program : String) (args : List String) : List (List Char) :=
  (program :: args).flatMap fun text => text.toList.splitOn ' '

/-- The line that a program makes with its arguments. -/
private def line (program : String) (args : List String) : String :=
  program ++ String.join (args.map (" " ++ ·))

private theorem key_eq_line : key program args = "command/" ++ line program args :=
  String.append_assoc

private theorem line_cons (arg : String) :
    (line program (arg :: args)).toList = program.toList ++ ' ' :: (line arg args).toList := by
  simp [line, String.toList_join]

private theorem words_cons (arg : String) :
    words program (arg :: args) = program.toList.splitOn ' ' ++ words arg args :=
  List.flatMap_cons

/-- The blanks split the line into the words. -/
private theorem splitOn_line (program : String) (args : List String) :
    (line program args).toList.splitOn ' ' = words program args := by
  induction args generalizing program with
  | nil => simp [line, words]
  | cons arg args ih => rw [line_cons, List.splitOn_append_cons_self, ih arg, words_cons]

/-- Programs have the same key with their arguments if and only if they have the same words. -/
theorem key_eq_iff : key program args = key program' args' ↔ words program args = words program' args' := by
  rw [key_eq_line, key_eq_line, String.append_right_inj, ← splitOn_line, ← splitOn_line]
  constructor
  · intro same
    rw [same]
  · intro same
    have chars := congrArg (List.intercalate [' ']) same
    rw [List.intercalate_splitOn, List.intercalate_splitOn] at chars
    exact String.toList_injective chars

/-- Neither the program nor an argument holds a blank. -/
def Plain (program : String) (args : List String) : Prop :=
  ∀ text ∈ program :: args, ' ' ∉ text.toList

instance : Decidable (Plain program args) :=
  inferInstanceAs (Decidable (∀ text ∈ program :: args, ' ' ∉ text.toList))

/-- Texts without blanks are words. -/
theorem Plain.words_eq (plain : Plain program args) :
    words program args = (program :: args).map String.toList := by
  rw [words, List.map_eq_flatMap]
  exact List.flatMap_congr fun text member => List.splitOn_eq_singleton (plain text member)

/-- Words tell a program and its arguments apart if none of them holds a blank. -/
theorem Plain.eq_of_words (plain : Plain program args) (plain' : Plain program' args')
    (same : words program args = words program' args') : program = program' ∧ args = args' := by
  rw [plain.words_eq, plain'.words_eq] at same
  exact List.cons_eq_cons.mp (List.map_injective_iff.mpr (fun _ _ => String.toList_injective) same)

end Analyzer.Command

namespace Engine

/-- What is hashed to name the file of a component in the store of an engine. -/
def fileHashed (options : Options) (key pipelineKey : String) (store : Store) (path : Path) :
    List ByteArray :=
  [options.keyText.toUTF8, storeHashed options key pipelineKey, store.hashed path]

variable {options other : Options} {key key' pipelineKey : String} {pipeline : Pipeline}
  {store store' : Store} {path path' : Path}

/-- Unless two of the hashed strings have the same digest, engines with the same steps have files at the same
place only if the component is one, the options agree in what matters and the analyzers have the same key. -/
theorem agree_of_file (keyed : pipeline.cacheKey? = some pipelineKey)
    (plan : storePlan options (some key) pipeline = .use store)
    (plan' : storePlan other (some key') pipeline = .use store')
    (free : Set.InjOn Digest.digest64 {bytes | bytes ∈ fileHashed options key pipelineKey store path ++
      fileHashed other key' pipelineKey store' path'})
    (same : store.file path = store'.file path') :
    path = path' ∧ options.keyText = other.keyText ∧ key = key' := by
  obtain ⟨paths, stores⟩ := hashed_of_file keyed keyed plan plan' (free.mono (by simp [fileHashed])) same
  obtain ⟨digests, keys⟩ := storeHashed_inj stores
  simp only [Options.analysisDigest] at digests
  have texts := free (by simp [fileHashed]) (by simp [fileHashed]) digests
  exact ⟨paths, String.toByteArray_inj.mp texts, keys rfl⟩

end Engine

namespace Analyzer.Command

open Engine

/-- The key of a program tells its words and, where there are no blanks, the program and its arguments. Take
two engines with such analyzers and the same steps, under options that differ at most in the analyzer that
they ask for. Unless two of the hashed strings have the same digest, the files of the engines are at the same
place if and only if the component is one, the same analyzer is asked for and the words are the same. -/
theorem key_tells_words (program program' : String) (args args' : List String) :
    (key program args = key program' args' ↔ words program args = words program' args') ∧
    (Plain program args → Plain program' args' →
      (key program args = key program' args' ↔ program = program' ∧ args = args')) ∧
    ∀ options analyzer pipeline pipelineKey store store' path path',
      pipeline.cacheKey? = some pipelineKey →
      storePlan options (some (key program args)) pipeline = .use store →
      storePlan { options with analyzer } (some (key program' args')) pipeline = .use store' →
      Set.InjOn Digest.digest64 {bytes | bytes ∈
        fileHashed options (key program args) pipelineKey store path ++
          fileHashed { options with analyzer } (key program' args') pipelineKey store' path'} →
      (store.file path = store'.file path' ↔
        path = path' ∧ options.analyzer = analyzer ∧ words program args = words program' args') := by
  refine ⟨key_eq_iff, fun plain plain' => ?_, ?_⟩
  · rw [key_eq_iff]
    constructor
    · exact plain.eq_of_words plain'
    · rintro ⟨rfl, rfl⟩
      rfl
  · intro options analyzer pipeline pipelineKey store store' path path' keyed plan plan' free
    constructor
    · intro same
      obtain ⟨paths, texts, keys⟩ := agree_of_file keyed plan plan' free same
      obtain ⟨-, -, -, analyzers⟩ := Options.keyText_inj texts
      exact ⟨paths, analyzers, key_eq_iff.mp keys⟩
    · rintro ⟨rfl, rfl, same⟩
      rw [key_eq_iff.mpr same, plan'] at plan
      cases plan
      rfl

/-- Options under which there is a store. -/
def storeOptions : Options :=
  { cacheDir? := some ⟨"/store"⟩, transformers := [], checkerOptions := { ignore := [] }, exclude := [] }

/-- The arguments of a program that is run with a flag. -/
def flagged (flag : String) : List String := ["meta.mjs", flag]

/-- The store of an engine without steps, by the flag with which the program is run. -/
private def flagStore (flag : String) : Store :=
  ⟨⟨"/store"⟩, storeDigest storeOptions (key "node" (flagged flag)) ""⟩

/-- What is hashed for the file of a component there. -/
private def flagHashed (flag : String) : List ByteArray :=
  fileHashed storeOptions (key "node" (flagged flag)) "" (flagStore flag) ⟨"/Card.vue"⟩

private theorem nodup_digests :
    ((flagHashed "--strict" ++ (flagHashed "--loose").tail).map Digest.digest64).Nodup := by
  decide +kernel

private theorem injOn_digest :
    Set.InjOn Digest.digest64 {bytes | bytes ∈ flagHashed "--strict" ++ flagHashed "--loose"} := by
  -- The options are the same, so that their text is there twice.
  have all : ∀ bytes, bytes ∈ flagHashed "--strict" ++ flagHashed "--loose" →
      bytes ∈ flagHashed "--strict" ++ (flagHashed "--loose").tail := by
    simp [flagHashed, fileHashed]
  intro bytes member other member' same
  exact List.inj_on_of_nodup_map nodup_digests (all _ member) (all _ member') same

/-- With another flag a program has another file for the same component. -/
theorem key_tells_words_flags :
    Plain "node" (flagged "--strict") ∧ Plain "node" (flagged "--loose") ∧
      key "node" (flagged "--strict") ≠ key "node" (flagged "--loose") ∧
      ∃ store store', storePlan storeOptions (some (key "node" (flagged "--strict"))) [] = .use store ∧
        storePlan storeOptions (some (key "node" (flagged "--loose"))) [] = .use store' ∧
        store.file ⟨"/Card.vue"⟩ ≠ store'.file ⟨"/Card.vue"⟩ := by
  have plain : Plain "node" (flagged "--strict") := by decide
  have plain' : Plain "node" (flagged "--loose") := by decide
  have words : words "node" (flagged "--strict") ≠ words "node" (flagged "--loose") := by decide
  obtain ⟨-, plainly, files⟩ := key_tells_words "node" "node" (flagged "--strict") (flagged "--loose")
  refine ⟨plain, plain', ?_, flagStore "--strict", flagStore "--loose", rfl, rfl, ?_⟩
  · intro same
    exact absurd ((plainly plain plain').mp same).2 (by decide)
  · intro same
    have told := files storeOptions .builtin [] "" _ _ ⟨"/Card.vue"⟩ ⟨"/Card.vue"⟩ rfl rfl rfl injOn_digest
    exact words (told.mp same).2.2

/-- An argument that holds a blank and two arguments make the same key, and whatever the options and the steps
are, an engine with the one program has the store of an engine with the other one. -/
theorem key_shared_by_blank :
    key "node" ["meta.mjs --strict"] = key "node" ["meta.mjs", "--strict"] ∧
      ["meta.mjs --strict"] ≠ ["meta.mjs", "--strict"] ∧
      ∀ options pipeline, storePlan options (some (key "node" ["meta.mjs --strict"])) pipeline =
        storePlan options (some (key "node" ["meta.mjs", "--strict"])) pipeline := by
  have same : key "node" ["meta.mjs --strict"] = key "node" ["meta.mjs", "--strict"] := by decide
  exact ⟨same, by decide, fun options pipeline => by rw [same]⟩

end Analyzer.Command

end ComponentCatalog
