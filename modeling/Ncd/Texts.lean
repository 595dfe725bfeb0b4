import Mathlib.Data.String.Basic
import Mathlib.Data.List.DropRight

/- Texts as lists of characters, with what a program in Rust does to them: slices at byte
   positions, blanks at the ends, and decimal numbers of 16 bits. -/
namespace Texts
open String

abbrev Text := List Char

/-- A text before and after byte n; no byte inside a character or past the end will do. -/
def cutAt : Text → Nat → Option (Text × Text)
  | text, 0 => some ([], text)
  | [], _ + 1 => none
  | c :: text, n + 1 =>
    if c.utf8Size ≤ n + 1 then
      (cutAt text (n + 1 - c.utf8Size)).map fun parts => (c :: parts.1, parts.2)
    else none

def slice (text : Text) (start stop : Nat) : Option Text :=
  if stop < start then none
  else (cutAt text start).bind fun parts => (cutAt parts.2 (stop - start)).map Prod.fst

/-- The characters with the Unicode property White_Space. -/
def isWhitespace (c : Char) : Bool :=
  let n := c.toNat
  (0x09 ≤ n && n ≤ 0x0D) || n = 0x20 || n = 0x85 || n = 0xA0 || n = 0x1680 ||
    (0x2000 ≤ n && n ≤ 0x200A) || n = 0x2028 || n = 0x2029 || n = 0x202F || n = 0x205F ||
    n = 0x3000

def trim (text : Text) : Text := (text.dropWhile isWhitespace).rdropWhile isWhitespace

def startsWith (text : Text) (c : Char) : Bool := text.head? = some c

def endsWith (text : Text) (c : Char) : Bool := text.getLast? = some c

def toText (n : UInt16) : Text := Nat.toDigits 10 n.toNat

def plusSign : Char := '+'

/-- A plus sign may stand in front of the digits; there is at least one of them. -/
def parseU16 (text : Text) : Option UInt16 :=
  let digits := if startsWith text plusSign then text.tail else text
  if digits = [] ∨ ¬ digits.all Char.isDigit then none
  else
    let n := Nat.ofDigitChars 10 digits 0
    if n < 2 ^ 16 then some (UInt16.ofNat n) else none

theorem cutAt_append (before after : Text) :
    cutAt (before ++ after) (utf8Len before) = some (before, after) := by
  induction before with
  | nil => simp [cutAt]
  | cons c before ih =>
    have size := c.utf8Size_pos
    obtain ⟨n, total⟩ : ∃ n, utf8Len (c :: before) = n + 1 :=
      Nat.exists_eq_add_one.mpr (by rw [utf8Len_cons]; omega)
    have rest : n + 1 - c.utf8Size = utf8Len before := by
      rw [← total, utf8Len_cons, Nat.add_sub_cancel]
    rw [total, List.cons_append, cutAt, if_pos (by rw [← total, utf8Len_cons]; omega), rest, ih]
    rfl

theorem slice_append (before here after : Text) :
    slice (before ++ here ++ after) (utf8Len before) (utf8Len before + utf8Len here) =
      some here := by
  unfold slice
  rw [if_neg (by omega), List.append_assoc, cutAt_append, Option.bind_some, Nat.add_sub_cancel_left,
    cutAt_append]
  rfl

theorem slice_front (text : Text) (n : Nat) : slice text 0 n = (cutAt text n).map Prod.fst := by
  cases text <;> rfl

theorem trim_length (text : Text) : (trim text).length ≤ text.length :=
  Nat.le_trans (List.rdropWhile_prefix _ _).length_le (List.dropWhile_suffix _).length_le

theorem trim_trim (text : Text) : trim (trim text) = trim text := by
  have front : (trim text).dropWhile isWhitespace = trim text := by
    cases here : trim text with
    | nil => rfl
    | cons c rest =>
      obtain ⟨more, whole⟩ := List.rdropWhile_prefix isWhitespace (text.dropWhile isWhitespace)
      rw [← trim, here] at whole
      have visible := List.head?_dropWhile_not isWhitespace text
      rw [← whole] at visible
      simp only [List.cons_append, List.head?_cons] at visible
      rw [List.dropWhile_cons_of_neg (by simp [visible])]
  rw [trim, front, trim, List.rdropWhile_idempotent]

theorem toText_isDigit {n : UInt16} {c : Char} (member : c ∈ toText n) : c.isDigit = true :=
  Nat.isDigit_of_mem_toDigits (by decide) (by decide) member

theorem parseU16_toText (n : UInt16) : parseU16 (toText n) = some n := by
  have unsigned : startsWith (toText n) plusSign = false := by
    rw [startsWith, decide_eq_false_iff_not]
    intro plus
    have digit := toText_isDigit (List.mem_of_head? plus)
    revert digit
    decide
  have digits : (toText n).all Char.isDigit = true :=
    List.all_eq_true.mpr fun c member => toText_isDigit member
  have number : Nat.ofDigitChars 10 (toText n) 0 = n.toNat := Nat.ofDigitChars_ten_toDigits
  have nonempty : toText n ≠ [] := Nat.toDigits_ne_nil
  have small := n.toNat_lt
  simp only [parseU16, unsigned, digits, number, nonempty, small, Bool.false_eq_true, if_false,
    not_true_eq_false, or_self, if_true, UInt16.ofNat_toNat]

end Texts
