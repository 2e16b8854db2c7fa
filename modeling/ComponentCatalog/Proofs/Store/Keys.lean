import ComponentCatalog.Engine.Basic
import ComponentCatalog.Proofs.Digest.Fingerprint
import ComponentCatalog.Proofs.Engine.Site
import ComponentCatalog.Proofs.Options.Written
import Mathlib.Algebra.GroupWithZero.Nat
import Mathlib.Data.Set.Function

/-! # What tells stored entries apart

The file of an entry is named by a digest of the component's path and of the digest of the store, and that
is one of the options that matter, of the analyzer and of the steps. What is hashed says where each of
these ends. So unless two of the hashed strings have the same digest, one file is that of one component
under one configuration.
-/

namespace ComponentCatalog

/-! ## Files of a store -/

namespace Store

private theorem size_wordBytes (word : UInt64) : (wordBytes word).size = 8 := by
  simp [wordBytes, ByteArray.size]

/-- A number is told by its bytes. -/
private theorem eq_of_bytes {count n m : Nat} (fits : n < 256 ^ count) (fits' : m < 256 ^ count)
    (bytes : ∀ i < count, n / 256 ^ i % 256 = m / 256 ^ i % 256) : n = m := by
  induction count generalizing n m with
  | zero => omega
  | succ count ih =>
    have last := bytes 0 (Nat.succ_pos count)
    have front : n / 256 = m / 256 := by
      rw [Nat.pow_succ'] at fits fits'
      refine ih (Nat.div_lt_of_lt_mul fits) (Nat.div_lt_of_lt_mul fits') fun i inside => ?_
      rw [Nat.div_div_eq_div_mul, Nat.div_div_eq_div_mul, ← Nat.pow_succ']
      exact bytes (i + 1) (Nat.succ_lt_succ inside)
    rw [Nat.pow_zero, Nat.div_one, Nat.div_one] at last
    omega

private theorem toNat_byte (word : UInt64) {i : Nat} (inside : i < 8) :
    (word >>> (8 * i).toUInt64).toUInt8.toNat = word.toNat / 256 ^ i % 256 := by
  have place : (8 * i).toUInt64.toNat % 64 = 8 * i := by
    have small : (8 * i).toUInt64.toNat = 8 * i := Nat.mod_eq_of_lt (by omega)
    omega
  rw [UInt64.toNat_toUInt8, UInt64.toNat_shiftRight, place, Nat.shiftRight_eq_div_pow, Nat.pow_mul]

/-- The bytes of a word tell it. -/
theorem wordBytes_injective : Function.Injective wordBytes := by
  intro word other same
  refine UInt64.toNat_inj.mp (@eq_of_bytes 8 _ _ word.toNat_lt other.toNat_lt fun i inside => ?_)
  have at_ := congrArg (fun bytes => bytes.data[i]?) same
  simp only [wordBytes, Array.getElem?_ofFn, inside, ↓reduceDIte, Option.some.injEq] at at_
  rw [← toNat_byte word inside, ← toNat_byte other inside, at_]

/-- The bytes that the name of a component's file is the digest of. -/
def hashed (store : Store) (component : Path) : ByteArray :=
  component.text.toUTF8 ++ version.toUTF8 ++ wordBytes store.digest

theorem fileName_eq (store : Store) (component : Path) : store.fileName component =
    Digest.hexText 16 (Digest.digest64 (store.hashed component)).toNat ++ ".json" := rfl

theorem hashed_inj {store other : Store} {path path' : Path}
    (same : store.hashed path = other.hashed path') : path = path' ∧ store.digest = other.digest := by
  have sizes : (wordBytes store.digest).size = (wordBytes other.digest).size := by
    rw [size_wordBytes, size_wordBytes]
  obtain ⟨front, digests⟩ := (ByteArray.append_eq_append_iff_of_size_eq_right sizes).mp same
  have texts := (ByteArray.append_left_inj _).mp front
  exact ⟨congrArg Path.mk (String.toByteArray_inj.mp texts), wordBytes_injective digests⟩

/-- Files at the same place are named by the same digest. -/
theorem digest_of_file {store other : Store} {path path' : Path}
    (same : store.file path = other.file path') :
    Digest.digest64 (store.hashed path) = Digest.digest64 (other.hashed path') := by
  obtain ⟨front, text⟩ := store.dir.text_join (store.fileName path)
  obtain ⟨front', text'⟩ := other.dir.text_join (other.fileName path')
  have texts : front ++ store.fileName path = front' ++ other.fileName path' := by
    rw [← text, ← text', ← file, ← file, same]
  rw [fileName_eq, fileName_eq, ← String.append_assoc, ← String.append_assoc] at texts
  have names := congrArg String.toList ((String.append_left_inj _).mp texts)
  simp only [String.toList_append] at names
  have width (word : UInt64) : (Digest.hexText 16 word.toNat).toList.length = 16 :=
    Digest.length_hexText (by decide) word.toNat_lt
  have digits := (List.append_inj' names (by rw [width, width])).2
  have small : ∀ word : UInt64, word.toNat < Fingerprint.bound := fun word =>
    Nat.lt_trans word.toNat_lt (by decide)
  have read := Fingerprint.readDigits_hexText 16 (small (Digest.digest64 (store.hashed path)))
  rw [digits, Fingerprint.readDigits_hexText 16 (small _)] at read
  exact (UInt64.toNat_inj.mp (Except.ok.inj read)).symm

end Store

namespace Engine

/-- The bytes that the digest of a store is made from. -/
def storeHashed (options : Options) (analyzerKey pipelineKey : String) : ByteArray :=
  Store.wordBytes options.analysisDigest ++ analyzerKey.toUTF8.push 0 ++ pipelineKey.toUTF8

theorem storeDigest_eq (options : Options) (analyzerKey pipelineKey : String) :
    storeDigest options analyzerKey pipelineKey =
      Digest.digest64 (storeHashed options analyzerKey pipelineKey) := rfl

variable {options other : Options} {key key' pipelineKey pipelineKey' : String}

private theorem storeHashed_split
    (same : storeHashed options key pipelineKey = storeHashed other key' pipelineKey') :
    options.analysisDigest = other.analysisDigest ∧
      key.toUTF8.push 0 ++ pipelineKey.toUTF8 = key'.toUTF8.push 0 ++ pipelineKey'.toUTF8 := by
  rw [storeHashed, storeHashed, ByteArray.append_assoc, ByteArray.append_assoc] at same
  have sizes : (Store.wordBytes options.analysisDigest).size =
      (Store.wordBytes other.analysisDigest).size := by rw [Store.size_wordBytes, Store.size_wordBytes]
  obtain ⟨digests, keys⟩ := (ByteArray.append_eq_append_iff_of_size_eq_left sizes).mp same
  exact ⟨Store.wordBytes_injective digests, keys⟩

/-- What is hashed tells the options, and for the same steps the analyzer. -/
theorem storeHashed_inj
    (same : storeHashed options key pipelineKey = storeHashed other key' pipelineKey') :
    options.analysisDigest = other.analysisDigest ∧ (pipelineKey = pipelineKey' → key = key') := by
  obtain ⟨digests, keys⟩ := storeHashed_split same
  refine ⟨digests, ?_⟩
  rintro rfl
  have ended := (ByteArray.append_left_inj _).mp keys
  rw [← ByteArray.append_toByteArray_singleton, ← ByteArray.append_toByteArray_singleton] at ended
  exact String.toByteArray_inj.mp ((ByteArray.append_left_inj _).mp ended)

/-- What is hashed tells analyzer and steps, if the keys of the analyzers hold equally many zeros. -/
theorem storeHashed_keys (zeros : key'.toList.count '\x00' = key.toList.count '\x00')
    (same : storeHashed options key pipelineKey = storeHashed other key' pipelineKey') :
    key = key' ∧ pipelineKey = pipelineKey' :=
  Fingerprint.eq_of_zero_between zeros (storeHashed_split same).2

private theorem digest_of_storePlan {pipeline : Pipeline} {store : Store}
    (keyed : pipeline.cacheKey? = some pipelineKey)
    (plan : storePlan options (some key) pipeline = .use store) :
    store.digest = Digest.digest64 (storeHashed options key pipelineKey) := by
  unfold storePlan at plan
  rw [keyed] at plan
  cases dir : options.cacheDir? with
  | none =>
    rw [dir] at plan
    cases plan
  | some dir' =>
    rw [dir] at plan
    cases plan
    rw [← storeDigest_eq]

/-- Unless two of the hashed strings have the same digest, files of engines are at the same place only if they
are files of one component and the same was hashed for the stores. -/
theorem hashed_of_file {pipeline pipeline' : Pipeline} {store store' : Store} {path path' : Path}
    (keyed : pipeline.cacheKey? = some pipelineKey) (keyed' : pipeline'.cacheKey? = some pipelineKey')
    (plan : storePlan options (some key) pipeline = .use store)
    (plan' : storePlan other (some key') pipeline' = .use store')
    (free : Set.InjOn Digest.digest64 {bytes | bytes ∈ [storeHashed options key pipelineKey,
      storeHashed other key' pipelineKey', store.hashed path, store'.hashed path']})
    (same : store.file path = store'.file path') :
    path = path' ∧ storeHashed options key pipelineKey = storeHashed other key' pipelineKey' := by
  have names := free (by simp) (by simp) (Store.digest_of_file same)
  obtain ⟨paths, digests⟩ := Store.hashed_inj names
  rw [digest_of_storePlan keyed plan, digest_of_storePlan keyed' plan'] at digests
  exact ⟨paths, free (by simp) (by simp) digests⟩

end Engine

end ComponentCatalog
