/-! # Blank characters

Two sets of blanks are in use.  Around a text, and anywhere inside a byte
string written in hexadecimal, every Unicode blank and the four information
separators U+001C to U+001F are dropped.  Around an integer the separators are
no blanks.  Between the bytes of a hexadecimal dump only the six ASCII blanks
may stand.
-/

namespace Signet.Text

/-- The six ASCII blanks: tab, line feed, vertical tab, form feed, carriage
return and space. -/
def isAsciiBlank (c : Char) : Bool :=
  (9 ≤ c.toNat && c.toNat ≤ 13) || c.toNat == 32

/-- A Unicode white space character outside ASCII. -/
def isWideBlank (c : Char) : Bool :=
  let n := c.toNat
  n == 0x85 || n == 0xA0 || n == 0x1680 || (0x2000 ≤ n && n ≤ 0x200A) ||
    n == 0x2028 || n == 0x2029 || n == 0x202F || n == 0x205F || n == 0x3000

/-- A blank that may stand around an integer. -/
def isNumeralBlank (c : Char) : Bool :=
  isAsciiBlank c || isWideBlank c

/-- A blank that may stand around any text. -/
def isBlank (c : Char) : Bool :=
  isNumeralBlank c || (0x1C ≤ c.toNat && c.toNat ≤ 0x1F)

/-- `s` without the characters of `p` at its two ends. -/
def trim (p : Char → Bool) (s : List Char) : List Char :=
  ((s.dropWhile p).reverse.dropWhile p).reverse

/-- `s` without the blanks at its two ends. -/
def strip (s : List Char) : List Char :=
  trim isBlank s

/-- `s` without any blank. -/
def removeBlanks (s : List Char) : List Char :=
  s.filter (!isBlank ·)

/-- A blank is removed. -/
theorem removeBlanks_cons_of_blank {c : Char} (h : isBlank c = true) (s : List Char) :
    removeBlanks (c :: s) = removeBlanks s :=
  List.filter_cons_of_neg (by simp [h])

/-- What is no blank stays. -/
theorem removeBlanks_cons_of_not_blank {c : Char} (h : isBlank c = false) (s : List Char) :
    removeBlanks (c :: s) = c :: removeBlanks s :=
  List.filter_cons_of_pos (by simp [h])

end Signet.Text
