import ComponentCatalog.Proofs.Digest.Fingerprint
import ComponentCatalog.Proofs.Files.Written
import ComponentCatalog.Proofs.Json.Cut
import ComponentCatalog.Proofs.Metadata.Json
import ComponentCatalog.Store.Basic

/-! # What is saved is loaded

An entry is read back from its text as it was, with absent categories apart from empty ones. So a store
gives back just what was saved, to those alone who ask with the fingerprint that it was saved under, for as
long as the file is left alone. A file of the store whose writing failed can hold the beginning of an entry's
text. Nothing is read from it unless it holds the whole text, and then the entry is read.
-/

namespace ComponentCatalog

open Doc

/-! ## The text of an entry -/

namespace Store.Entry

/-- The fingerprint has 128 bits, and the time 64. -/
structure Fits (entry : Entry) : Prop where
  fingerprint : entry.fingerprint.value < Fingerprint.bound
  storedAt : entry.storedAt ≤ greatestWord

variable {entry : Entry}

theorem Fits.whole_toJson (fits : entry.Fits) : entry.toJson.Whole := by
  have time : FitsWord entry.storedAt := ⟨by omega, by exact_mod_cast fits.storedAt⟩
  exact ⟨trivial, time, entry.metadata.whole_toJson, trivial⟩

private theorem decoder_toJson (fits : entry.Fits) : decoder (ofJson 0 entry.toJson) = .ok entry := by
  have fingerprint := Fingerprint.decoder_toJson fits.fingerprint 1
  have metadata := entry.metadata.decoder_toJson (show 1 + 2 < depthLimit by decide)
  have time : asWord (ofJson 1 (.int entry.storedAt)) = .ok entry.storedAt := rfl
  rw [toJson, ofJson, atDepth_of_lt (by decide), decoder, record]
  simp only [ofEntries]
  rw [readEntriesInto_cons rfl rfl fingerprint, readEntriesInto_cons rfl rfl time,
    readEntriesInto_cons rfl rfl metadata]
  rfl

/-- What is stored is read back. -/
theorem Fits.ofBytes_text (fits : entry.Fits) : ofBytes entry.text.toUTF8 = .ok entry := by
  rw [ofBytes, decodeBytes_toUTF8, Entry.text, decode_compact fits.whole_toJson, decoder_toJson fits]

end Store.Entry

/-! ## The beginning of a text -/

theorem Fingerprint.strict_decoder : Strict Fingerprint.decoder := by
  refine ⟨fun {doc value} read => ?_⟩
  obtain ⟨text, taken, -⟩ := of_bind_ok read
  exact (strict_text _).ended taken

namespace Metadata

theorem PropInfo.strict_decoder : Strict PropInfo.decoder := by
  apply strict_record
  simp only [List.forall_mem_cons]
  have text : Strict asString := strict_text _
  exact ⟨text.field .., text.field .., strict_asBool.field .., text.optional.field ..,
    text.optional.field .., nofun⟩

theorem MemberInfo.strict_decoder (category : String) : Strict (MemberInfo.decoder category) := by
  apply strict_record
  simp only [List.forall_mem_cons]
  have text : Strict asString := strict_text _
  exact ⟨text.field .., text.field .., nofun⟩

theorem strict_decoder : Strict decoder := by
  apply strict_record
  simp only [List.forall_mem_cons]
  have members (category : String) := (MemberInfo.strict_decoder category).list.optional
  exact ⟨PropInfo.strict_decoder.list.optional.field .., (members _).field .., (members _).field ..,
    (members _).field .., nofun⟩

end Metadata

namespace Store.Entry

theorem strict_decoder : Strict decoder := by
  apply strict_record
  simp only [List.forall_mem_cons]
  exact ⟨Fingerprint.strict_decoder.field .., strict_asWord.field .., Metadata.strict_decoder.field ..,
    nofun⟩

/-- Bytes with which the text of an entry begins. -/
def Begins (entry : Entry) (bytes : ByteArray) : Prop := ∃ behind, bytes ++ behind = entry.text.toUTF8

variable {entry : Entry} {bytes : ByteArray}

/-- From the beginning of an entry's text nothing else than the entry is read. -/
theorem Fits.ofBytes_begins (fits : entry.Fits) (begins : entry.Begins bytes) {found : Entry}
    (read : ofBytes bytes = .ok found) : found = entry := by
  obtain ⟨behind, same⟩ := begins
  obtain ⟨result, decoded, ended⟩ := of_bind_ok read
  split at ended
  · next valid =>
    obtain ⟨cut, rfl⟩ : ∃ cut : String, cut.toUTF8 = bytes :=
      ⟨String.fromUTF8 bytes (ByteArray.validateUTF8_eq_true_iff.mp valid), rfl⟩
    by_cases whole : cut = entry.text
    · rw [whole, fits.ofBytes_text] at read
      exact (Except.ok.inj read).symm
    · rw [lossy_toUTF8] at decoded
      have before : cut.toList <+: Json.compactText entry.toJson := by
        apply List.isPrefix_of_utf8Encode_append_eq_utf8Encode behind
        rw [String.utf8Encode_toList, ← String.toByteArray_ofList]
        exact same
      exact absurd decoded (strict_decoder.decode_cut fits.whole_toJson before whole _)
  · cases ended

/-- So the metadata that are found in it are those of the entry. -/
theorem Fits.metadataFor?_begins (fits : entry.Fits) (begins : entry.Begins bytes)
    {fingerprint : Fingerprint} {metadata : Metadata}
    (read : metadataFor? fingerprint bytes = some metadata) :
    entry.fingerprint = fingerprint ∧ entry.metadata = metadata := by
  unfold metadataFor? at read
  split at read
  · next found decoded =>
    obtain rfl := fits.ofBytes_begins begins decoded
    split at read
    · next same => exact ⟨beq_iff_eq.mp same, Option.some.inj read⟩
    · cases read
  · cases read

end Store.Entry

/-! ## The file of an entry -/

namespace Store

/-- What is loaded from the bytes of an entry. -/
theorem Entry.metadataFor?_text {entry : Entry} (fits : entry.Fits) (fingerprint : Fingerprint) :
    Entry.metadataFor? fingerprint entry.text.toUTF8 =
      if fingerprint = entry.fingerprint then some entry.metadata else none := by
  rw [Entry.metadataFor?, fits.ofBytes_text]
  by_cases same : fingerprint = entry.fingerprint
  · exact (if_pos (beq_iff_eq.mpr same.symm)).trans (if_pos same).symm
  · exact (if_neg fun equal => same (beq_iff_eq.mp equal).symm).trans (if_neg same).symm

/-- An entry that was saved holds its text. -/
theorem read_of_save {store : Store} {files saved : Files} {component : Path} {entry : Entry}
    (save : store.save files component entry = .ok saved) :
    saved.read (store.file component) = .ok entry.text.toUTF8 := by
  have written : files.write (store.file component) entry.text.toUTF8 = .ok saved := by
    unfold Store.save at save
    dsimp only at save
    generalize files.write (store.file component) entry.text.toUTF8 = result at save ⊢
    cases result with
    | error fault => cases save
    | ok changed =>
      cases save
      rfl
  exact Files.read_of_write written

/-- Every entry is read back from its bytes as it was. After it was saved, and while its file stays as it
was left, loading gives its metadata for its own fingerprint and nothing for any other. -/
theorem load_saved {entry : Entry} (fits : entry.Fits) :
    Entry.ofBytes entry.text.toUTF8 = .ok entry ∧
    ∀ (store : Store) (files saved : Files) (component : Path),
      store.save files component entry = .ok saved →
      ∀ later : Files, later.read (store.file component) = saved.read (store.file component) →
        ∀ fingerprint, store.load later component fingerprint =
          if fingerprint = entry.fingerprint then some entry.metadata else none := by
  refine ⟨fits.ofBytes_text, fun store files saved component save later untouched fingerprint => ?_⟩
  rw [load, untouched, read_of_save save]
  exact Entry.metadataFor?_text fits fingerprint

/-- A tree with a directory that a link leads to. -/
def linkedFiles : Files := { root := .dir [("data", .dir []), ("cache", .link "data/../data")] }

/-- An entry with an empty category and absent ones, and with an empty text and an absent one. -/
def emptyEntry : Entry :=
  ⟨⟨Fingerprint.bound - 1⟩, Doc.greatestWord,
    { props? := some [⟨"\"size\"\n", "", true, some "", none⟩], slots? := some [] }⟩

/-- The store behind the link. -/
def linkedStore : Store := ⟨⟨"/cache"⟩, 7⟩

private theorem place_linkedStore :
    linkedFiles.place true (linkedStore.file ⟨"/Card.vue"⟩) =
      .ok (.free ["data"] "1043425ca614a05e.json") := by
  have file : linkedStore.file ⟨"/Card.vue"⟩ = ⟨"/cache/1043425ca614a05e.json"⟩ := by decide +kernel
  have way : Files.steps "/cache/1043425ca614a05e.json" =
      [.root, .name "cache", .name "1043425ca614a05e.json"] := by decide +kernel
  have around : Files.steps "data/../data" = [.name "data", .up, .name "data"] := by decide +kernel
  rw [file, Files.place, way]
  simp +decide [Files.follow, Files.linkLimit, Files.Node.get?, Files.Node.entries, Table.get?,
    linkedFiles, around]

/-- The entry is loaded through the link as it was saved, and not for another fingerprint. -/
theorem load_saved_linked :
    emptyEntry.Fits ∧ ∃ saved, linkedStore.save linkedFiles ⟨"/Card.vue"⟩ emptyEntry = .ok saved ∧
      linkedStore.load saved ⟨"/Card.vue"⟩ emptyEntry.fingerprint = some emptyEntry.metadata ∧
      linkedStore.load saved ⟨"/Card.vue"⟩ ⟨0⟩ = none := by
  have fits : emptyEntry.Fits := ⟨by decide, by decide⟩
  obtain ⟨saved, save⟩ :
      ∃ saved, linkedStore.save linkedFiles ⟨"/Card.vue"⟩ emptyEntry = .ok saved := by
    rw [Store.save, Files.write, place_linkedStore]
    exact ⟨_, rfl⟩
  have loads := (load_saved fits).2 linkedStore linkedFiles saved ⟨"/Card.vue"⟩ save saved rfl
  refine ⟨fits, saved, save, (loads _).trans (if_pos rfl), (loads _).trans (if_neg ?_)⟩
  decide

end Store

end ComponentCatalog
