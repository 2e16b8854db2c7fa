import ComponentCatalog.Path
import Mathlib.Data.List.Basic
import Mathlib.Order.Basic

/-! # Orders

Texts are compared by their characters. That is the order of their encodings, compared byte by byte: of two
characters the encoding of the earlier one has the smaller byte at the first place where the two differ.

Paths are ordered by their parts from left to right, and parts by their kinds and then by their texts. So the
order is linear, and of two paths one comes before the other unless they have the same parts.

What is sorted by an order keeps its place among all that neither comes before it nor behind it.
-/

namespace ComponentCatalog

/-! ## The order of texts -/

namespace Text

/-- The bytes in which a text is encoded. -/
def bytes (text : String) : List UInt8 := text.toUTF8.data.toList

theorem bytes_eq (text : String) : bytes text = text.toList.flatMap String.utf8EncodeChar := by
  have encoded : (String.ofList text.toList).toByteArray = text.toList.utf8Encode :=
    String.toByteArray_ofList
  rw [String.ofList_toList] at encoded
  rw [bytes, String.toUTF8_eq_toByteArray, encoded, List.utf8Encode]
  simp

section Byte

variable {m n : Nat} (fits : m < 256) (fits' : n < 256)
include fits fits'

private theorem ofNat_lt_ofNat_iff : UInt8.ofNat m < UInt8.ofNat n ↔ m < n := by
  rw [UInt8.lt_iff_toNat_lt, UInt8.toNat_ofNat', UInt8.toNat_ofNat', Nat.mod_eq_of_lt fits,
    Nat.mod_eq_of_lt fits']

private theorem ofNat_eq_ofNat_iff : UInt8.ofNat m = UInt8.ofNat n ↔ m = n := by
  rw [← UInt8.toNat_inj, UInt8.toNat_ofNat', UInt8.toNat_ofNat', Nat.mod_eq_of_lt fits,
    Nat.mod_eq_of_lt fits']

end Byte

/-- Two numbers compare as their digits to the base sixty-four do, of which here the last three are told. -/
private theorem digits_of_lt {m n : Nat} (less : m < n) :
    m / 262144 < n / 262144 ∨ m / 262144 = n / 262144 ∧
      (m / 4096 % 64 < n / 4096 % 64 ∨ m / 4096 % 64 = n / 4096 % 64 ∧
        (m / 64 % 64 < n / 64 % 64 ∨ m / 64 % 64 = n / 64 % 64 ∧ m % 64 < n % 64)) := by
  have last (k l : Nat) (less : k < l) : k / 64 < l / 64 ∨ k / 64 = l / 64 ∧ k % 64 < l % 64 := by
    omega
  have fewer (k : Nat) : k / 64 / 64 = k / 4096 ∧ k / 4096 / 64 = k / 262144 := by omega
  obtain ⟨middle, high⟩ := fewer m
  obtain ⟨middle', high'⟩ := fewer n
  rcases last m n less with less | ⟨same, lastLess⟩
  · rcases last _ _ less with less | ⟨same, thirdLess⟩
    · have := last _ _ less
      omega
    · omega
  · omega

/-- Of two different characters the encodings differ, whatever stands behind them. -/
private theorem utf8EncodeChar_append_lt {c d : Char} (lt : c < d) (rest rest' : List UInt8) :
    String.utf8EncodeChar c ++ rest < String.utf8EncodeChar d ++ rest' := by
  have below : d.val.toNat < 1114112 := by
    rcases d.valid with plain | ⟨-, high⟩
    · exact Nat.lt_trans plain (by decide)
    · exact high
  have less : c.val.toNat < d.val.toNat := lt
  simp only [String.utf8EncodeChar]
  generalize c.val.toNat = m at less ⊢
  generalize d.val.toNat = n at less below ⊢
  have digits := digits_of_lt less
  have first : m / 262144 % 8 = m / 262144 := Nat.mod_eq_of_lt (by omega)
  have first' : n / 262144 % 8 = n / 262144 := Nat.mod_eq_of_lt (by omega)
  -- The first bytes tell encodings of different length apart; those of one length go by their digits.
  split_ifs <;> first
    | omega
    | simp (disch := omega) only [List.cons_append, List.nil_append, List.cons_lt_cons_iff,
        ofNat_lt_ofNat_iff, ofNat_eq_ofNat_iff]
      omega

private theorem flatMap_utf8EncodeChar_lt {chars others : List Char} (lt : chars < others) :
    chars.flatMap String.utf8EncodeChar < others.flatMap String.utf8EncodeChar := by
  induction chars generalizing others with
  | nil =>
    cases others with
    | nil => exact absurd lt (List.lt_irrefl _)
    | cons d rest =>
      have started : (d :: rest).flatMap String.utf8EncodeChar ≠ [] := by simp
      obtain ⟨first, more, cons⟩ := List.exists_cons_of_ne_nil started
      rw [cons]
      exact List.nil_lt_cons _ _
  | cons c chars ih =>
    cases others with
    | nil => exact absurd lt (List.not_lt_nil _)
    | cons d rest =>
      rw [List.flatMap_cons, List.flatMap_cons]
      rcases List.cons_lt_cons_iff.mp lt with less | ⟨rfl, behind⟩
      · exact utf8EncodeChar_append_lt less _ _
      · exact List.append_left_lt (ih behind)

theorem bytes_lt_bytes {text other : String} (lt : text < other) : bytes text < bytes other := by
  rw [bytes_eq, bytes_eq]
  exact flatMap_utf8EncodeChar_lt lt

/-- Texts are in the order of their bytes. -/
theorem bytes_le_bytes_iff {text other : String} : bytes text ≤ bytes other ↔ text ≤ other := by
  constructor
  · intro le
    by_contra later
    exact le (bytes_lt_bytes (String.not_le.mp later))
  · intro le
    rcases Decidable.em (text = other) with rfl | different
    · exact List.le_refl _
    · have less : text < other := String.not_le.mp fun ge => different (String.le_antisymm le ge)
      exact List.le_of_lt (bytes_lt_bytes less)

end Text

/-! ## The order of paths -/

section Order

open Std

theorem PathPart.compare_eq_lex :
    compare = compareLex (compareOn compare.rank) (compareOn fun part => match part with
      | name text => text
      | _ => "") := by
  funext part other
  cases part <;> cases other <;> rfl

instance : TransCmp PathPart.compare := by
  rw [PathPart.compare_eq_lex]
  infer_instance

instance : LawfulEqCmp PathPart.compare where
  eq_of_compare := by
    intro part other same
    cases part with
    | name text =>
      cases other with
      | name label => exact congrArg PathPart.name (Std.compare_eq_iff_eq.mp same)
      | _ => cases same
    | _ => cases other <;> first | rfl | cases same

namespace Path

theorem compareParts_eq_lex : compareParts = List.compareLex PathPart.compare := by
  funext parts others
  induction parts generalizing others with
  | nil => cases others <;> rfl
  | cons part rest ih =>
    cases others with
    | nil => rfl
    | cons other others => rw [compareParts, List.compareLex_cons_cons, ih]

variable {a b c : Path}

theorem compare_eq_eq_iff : a.compare b = .eq ↔ a.parts = b.parts := by
  rw [compare, compareParts_eq_lex]
  exact LawfulEqCmp.compare_eq_iff_eq

theorem compare_ne_gt_trans (first : a.compare b ≠ .gt) (second : b.compare c ≠ .gt) : a.compare c ≠ .gt := by
  rw [compare, compareParts_eq_lex] at *
  exact Ordering.isLE_iff_ne_gt.mp (TransCmp.isLE_trans (Ordering.isLE_iff_ne_gt.mpr first)
    (Ordering.isLE_iff_ne_gt.mpr second))

theorem compare_eq_lt_of_ne_gt (first : a.compare b ≠ .gt) (second : b.compare c = .lt) : a.compare c = .lt := by
  rw [compare, compareParts_eq_lex] at *
  exact TransCmp.lt_of_isLE_of_lt (Ordering.isLE_iff_ne_gt.mpr first) second

theorem compare_total (a b : Path) : a.compare b ≠ .gt ∨ b.compare a ≠ .gt := by
  rw [compare, compare, compareParts_eq_lex]
  have swapped : List.compareLex PathPart.compare a.parts b.parts =
      (List.compareLex PathPart.compare b.parts a.parts).swap := OrientedCmp.eq_swap
  rw [swapped]
  cases List.compareLex PathPart.compare b.parts a.parts <;> simp

theorem compare_eq_lt_iff : a.compare b = .lt ↔ a.compare b ≠ .gt ∧ a.parts ≠ b.parts := by
  rw [ne_eq (a.parts), ← compare_eq_eq_iff]
  cases a.compare b <;> simp

/-- What is in the strict order of its paths is told by its items. -/
theorem eq_of_ordered {α : Type} (path : α → Path) {items others : List α}
    (ordered : items.Pairwise fun a b => (path a).compare (path b) = .lt)
    (ordered' : others.Pairwise fun a b => (path a).compare (path b) = .lt)
    (same : ∀ item, item ∈ items ↔ item ∈ others) : items = others := by
  have apart {a b : α} (less : (path a).compare (path b) = .lt) : a ≠ b := by
    rintro rfl
    exact (compare_eq_lt_iff.mp less).2 rfl
  refine List.Perm.eq_of_pairwise (fun a b _ _ ab ba => ?_) ordered ordered'
    ((List.perm_ext_iff_of_nodup (ordered.imp apart) (ordered'.imp apart)).mpr same)
  have le : (path a).compare (path b) ≠ .gt := by simp [ab]
  exact absurd rfl (compare_eq_lt_iff.mp (compare_eq_lt_of_ne_gt le ba)).2

end Path

end Order

/-! ## Sorting -/

/-- Sorting leaves alone what is alike: all of one kind stand in the order in which they were given. -/
theorem filter_mergeSort {α : Type} {le : α → α → Bool} (trans : ∀ a b c, le a b → le b c → le a c)
    (total : ∀ a b, (le a b || le b a) = true) {kind : α → Bool}
    (alike : ∀ a b, kind a → kind b → le a b) (given : List α) :
    (given.mergeSort le).filter kind = given.filter kind := by
  have sorted : (given.filter kind).Pairwise (le · ·) := by
    refine List.pairwise_of_forall_mem_list fun a member b member' => ?_
    exact alike a b (List.mem_filter.mp member).2 (List.mem_filter.mp member').2
  -- What is in order already is not taken apart, and no other item of the kind is there.
  have kept := (List.sublist_mergeSort trans total sorted List.filter_sublist).filter kind
  rw [List.filter_filter] at kept
  simp only [Bool.and_self] at kept
  exact (kept.eq_of_length ((List.mergeSort_perm given le).filter _).length_eq.symm).symm

end ComponentCatalog
