import Starring.Foundation.Text

/-! Fields of a text, between separators, and numbers written in decimal. -/

namespace Starring.Foundation
open List

/-- `str::split`. -/
def splitFields (separator : Char) (text : String) : List String := (text.toList.splitOn separator).map String.ofList

section Fields
variable {separator : Char} {text field : String}

theorem not_mem_of_mem_splitOn {chars part : List Char} (mem : part ∈ chars.splitOn separator) : separator ∉ part := by
  induction chars generalizing part with
  | nil =>
    obtain rfl := mem_singleton.mp mem
    exact not_mem_nil
  | cons char chars ih =>
    rw [splitOn_cons_eq_if_modifyHead] at mem
    split at mem
    · rcases mem_cons.mp mem with rfl | mem
      · exact not_mem_nil
      · exact ih mem
    · rename_i other
      cases parts : chars.splitOn separator with
      | nil => exact absurd parts (splitOn_ne_nil _ _)
      | cons first rest =>
        rw [parts] at mem ih
        rcases mem_cons.mp mem with rfl | mem
        · have apart : separator ≠ char := by
            rintro rfl
            simp at other
          exact not_mem_cons_of_ne_of_not_mem apart (ih mem_cons_self)
        · exact ih (mem_cons_of_mem _ mem)

theorem not_mem_of_mem_splitFields (mem : field ∈ splitFields separator text) : separator ∉ field.toList := by
  obtain ⟨part, split, rfl⟩ := mem_map.mp mem
  rw [String.toList_ofList]
  exact not_mem_of_mem_splitOn split

/-- Fields that do not contain the separator are found again. -/
theorem splitFields_of_intercalate {fields : List String} (some_ : fields ≠ [])
    (apart : ∀ field ∈ fields, separator ∉ field.toList)
    (written : text.toList = [separator].intercalate (fields.map String.toList)) : splitFields separator text = fields := by
  have parts : text.toList.splitOn separator = fields.map String.toList := by
    rw [written]
    refine splitOn_intercalate separator ?_ (by simpa using some_)
    simpa using apart
  rw [splitFields, parts, map_map]
  exact (map_congr_left fun field _ => String.ofList_toList).trans (map_id fields)

/-- A text is its fields, joined by the separator. -/
theorem toList_of_splitFields {fields : List String} (split : splitFields separator text = fields) :
    text.toList = [separator].intercalate (fields.map String.toList) := by
  have chars : fields.map String.toList = text.toList.splitOn separator := by
    rw [← split, splitFields, map_map]
    exact (map_congr_left fun part _ => String.toList_ofList).trans (map_id _)
  rw [chars, intercalate_splitOn]

end Fields

section Decimal

theorem toNat_of_isDigit {char : Char} (digit : char.isDigit = true) : 48 ≤ char.toNat ∧ char.toNat ≤ 57 := by
  simp only [Char.isDigit, Bool.and_eq_true, decide_eq_true_eq] at digit
  exact ⟨UInt32.le_iff_toNat_le.mp digit.1, UInt32.le_iff_toNat_le.mp digit.2⟩

theorem utf8EncodeChar_of_isDigit {char : Char} (digit : char.isDigit = true) :
    ∃ byte : UInt8, String.utf8EncodeChar char = [byte] ∧ byte.toNat = char.toNat := by
  obtain ⟨low, high⟩ := toNat_of_isDigit digit
  have size : char.utf8Size = 1 := by
    rw [Char.utf8Size_eq_one_iff, UInt32.le_iff_toNat_le]
    exact Nat.le_trans high (by decide)
  refine ⟨_, String.utf8EncodeChar_eq_singleton size, ?_⟩
  rw [UInt32.toNat_toUInt8]
  exact Nat.mod_eq_of_lt (Nat.lt_of_le_of_lt high (by decide))

theorem parseDigits_chars {chars : List Char} (digits : ∀ char ∈ chars, char.isDigit = true) (value : Nat) :
    parseDigits (chars.flatMap String.utf8EncodeChar) value = some (Nat.ofDigitChars 10 chars value) := by
  induction chars generalizing value with
  | nil => rfl
  | cons char chars ih =>
    obtain ⟨digit, digits⟩ := forall_mem_cons.mp digits
    obtain ⟨byte, encoded, same⟩ := utf8EncodeChar_of_isDigit digit
    obtain ⟨low, high⟩ := toNat_of_isDigit digit
    have counts : isAsciiDigit byte = true := by simp [isAsciiDigit, same, low, high]
    rw [flatMap_cons, encoded, singleton_append, parseDigits, if_pos counts, ih digits, Nat.ofDigitChars_cons,
      same, Nat.mul_comm value 10]
    rfl

theorem isDigit_of_mem_toString {number : Nat} {char : Char} (mem : char ∈ (toString number).toList) :
    char.isDigit = true := by
  rw [Nat.toString_eq_ofList_toDigits, String.toList_ofList] at mem
  exact Nat.isDigit_of_mem_toDigits (by decide) (by decide) mem

/-- A number is read back as it has been written. -/
theorem parseU64_toString (number : UInt64) : parseU64 (toString number.toNat) = some number := by
  have written : utf8 (toString number.toNat) = (Nat.toDigits 10 number.toNat).flatMap String.utf8EncodeChar := by
    rw [Nat.toString_eq_ofList_toDigits, utf8_ofList]
  have digits : ∀ char ∈ Nat.toDigits 10 number.toNat, char.isDigit = true :=
    fun char mem => Nat.isDigit_of_mem_toDigits (by decide) (by decide) mem
  have value := parseDigits_chars digits 0
  rw [Nat.ofDigitChars_ten_toDigits] at value
  obtain ⟨first, rest, chars⟩ := exists_cons_of_ne_nil (@Nat.toDigits_ne_nil number.toNat 10)
  obtain ⟨byte, encoded, same⟩ := utf8EncodeChar_of_isDigit (digits first (chars ▸ mem_cons_self))
  obtain ⟨low, high⟩ := toNat_of_isDigit (digits first (chars ▸ mem_cons_self))
  rw [chars, flatMap_cons, encoded, singleton_append] at written value
  have unsigned : byte ≠ 43 := by
    rintro rfl
    have : first.toNat = 43 := same.symm
    omega
  have bounded : number.toNat < 2 ^ 64 := number.toNat_lt
  rw [parseU64, written]
  simpa [unsigned, value] using bounded

end Decimal

end Starring.Foundation
