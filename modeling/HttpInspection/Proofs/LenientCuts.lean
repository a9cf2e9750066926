import HttpInspection.Proofs.QueryEscaping
import Mathlib.Data.Bool.AllAny

/-!
# Where a text may be cut before it is read leniently

The lenient reading looks ahead for the digits of an escape, and the bytes that it gives are read as
UTF-8 as a whole.  A cut at an ASCII character is safe on both accounts, whatever stands on either
side of it, exactly if the character has no part in escapes and is not read as a blank.
-/

set_option autoImplicit false

namespace HttpInspection

/-- The hexadecimal digits of either case, as characters. -/
def Hex.characters : List Char := "0123456789ABCDEFabcdef".toList

theorem Hex.value_eq_none_of_notMem :
    ∀ n < 0x80, Char.ofNat n ∉ characters → value? n.toUInt8 = none := by
  decide +kernel

namespace Query

/-- A character that neither begins nor continues an escape, and that is not read as a blank. -/
structure StandsForItself (plusIsBlank : Bool) (d : Char) : Prop where
  notPercent : d ≠ '%'
  notPlus : plusIsBlank = true → d ≠ '+'
  notDigit : d ∉ Hex.characters

/-! ## A cut is safe -/

theorem toUInt8_eq_iff (d e : Char) (ascii : d.toNat < 0x80) (other : e.toNat < 0x80) :
    d.toNat.toUInt8 = e.toNat.toUInt8 ↔ d = e := by
  constructor
  · intro same
    have numbers := congrArg UInt8.toNat same
    rw [Utf8.toNat_toUInt8 _ (by omega), Utf8.toNat_toUInt8 _ (by omega)] at numbers
    exact Char.toNat_inj.mp numbers
  · rintro rfl
    rfl

theorem delimiter_of_standsForItself (plusIsBlank : Bool) (d : Char) (ascii : d.toNat < 0x80)
    (stands : StandsForItself plusIsBlank d) : Delimiter plusIsBlank d.toNat.toUInt8 := by
  constructor
  · change d.toNat.toUInt8.toNat < 0x80
    rw [Utf8.toNat_toUInt8 _ (by omega)]
    exact ascii
  · intro same
    exact stands.notPercent ((toUInt8_eq_iff d '%' ascii (by decide)).mp same)
  · cases plusIsBlank with
    | false => rfl
    | true =>
        have other : d.toNat.toUInt8 ≠ plus := by
          intro same
          exact stands.notPlus rfl ((toUInt8_eq_iff d '+' ascii (by decide)).mp same)
        simp [other]
  · apply Hex.value_eq_none_of_notMem d.toNat ascii
    rw [Char.ofNat_toNat]
    exact stands.notDigit

theorem unescapeTextLenient_cut (plusIsBlank : Bool) (d : Char) (ascii : d.toNat < 0x80)
    (stands : StandsForItself plusIsBlank d) (front back : String) :
    unescapeTextLenient plusIsBlank (front ++ String.singleton d ++ back) =
      unescapeTextLenient plusIsBlank front ++ String.singleton d ++
        unescapeTextLenient plusIsBlank back := by
  have whole : front ++ String.singleton d ++ back =
      String.ofList (front.toList ++ d :: back.toList) := by
    apply String.toList_injective
    simp
  apply String.toList_injective
  rw [whole, unescapeTextLenient_append plusIsBlank d ascii
    (delimiter_of_standsForItself plusIsBlank d ascii stands)]
  simp

/-! ## No other cut is -/

theorem no_cut_at_digit (plusIsBlank : Bool) : ∀ d ∈ Hex.characters,
    unescapeTextLenient plusIsBlank ("%4" ++ String.singleton d ++ "") ≠
      unescapeTextLenient plusIsBlank "%4" ++ String.singleton d ++
        unescapeTextLenient plusIsBlank "" := by
  cases plusIsBlank <;> exact List.all_iff_forall_prop.mp (by decide +kernel)

/-- At an ASCII character the lenient reading is that of the text in front and that of the text
behind, whatever is cut short on either side, exactly if the character stands for itself. -/
theorem lenient_reading_splits_iff (plusIsBlank : Bool) (d : Char) (ascii : d.toNat < 0x80) :
    (∀ front back : String,
      unescapeTextLenient plusIsBlank (front ++ String.singleton d ++ back) =
        unescapeTextLenient plusIsBlank front ++ String.singleton d ++
          unescapeTextLenient plusIsBlank back) ↔
      StandsForItself plusIsBlank d := by
  constructor
  · intro splits
    constructor
    · rintro rfl
      have cut := splits "" "41"
      revert cut
      cases plusIsBlank <;> decide
    · rintro rfl rfl
      have cut := splits "" ""
      revert cut
      decide
    · intro digit
      exact no_cut_at_digit plusIsBlank d digit (splits "%4" "")
  · intro stands
    exact unescapeTextLenient_cut plusIsBlank d ascii stands

/-- Two bytes of one scalar on either side of an ampersand, and an escape cut short in front of it
that the text behind would complete. -/
theorem lenient_reading_splits_iff_truncated :
    '&'.toNat < 0x80 ∧ StandsForItself true '&' ∧
      unescapeTextLenient true "%C3" = "\uFFFD" ∧ unescapeTextLenient true "%A9+%4" = "\uFFFD %4" ∧
      unescapeTextLenient true ("%C3" ++ String.singleton '&' ++ "%A9+%4") = "\uFFFD&\uFFFD %4" ∧
      unescapeTextLenient true ("%A9+%4" ++ String.singleton '&' ++ "1") = "\uFFFD %4&1" ∧
      'c'.toNat < 0x80 ∧ ¬ ∀ front back : String,
        unescapeTextLenient true (front ++ String.singleton 'c' ++ back) =
          unescapeTextLenient true front ++ String.singleton 'c' ++
            unescapeTextLenient true back := by
  have stands : StandsForItself true '&' := ⟨by decide, by decide, by decide⟩
  have splits := (lenient_reading_splits_iff true '&' (by decide)).mpr stands
  have first : unescapeTextLenient true "%C3" = "\uFFFD" := by decide
  have second : unescapeTextLenient true "%A9+%4" = "\uFFFD %4" := by decide
  refine ⟨by decide, stands, first, second, ?_, ?_, by decide, ?_⟩
  · rw [splits, first, second]
    decide
  · rw [splits, second]
    decide
  · intro digit
    exact ((lenient_reading_splits_iff true 'c' (by decide)).mp digit).notDigit (by decide)

end Query

end HttpInspection
