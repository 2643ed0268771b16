import OralExam.Text.WordChar

/-! Texts cut at separators, and the ends of a text cut back to what is not blank. -/

set_option autoImplicit false

namespace OralExam.Text

/-- The parts between separators; one more than there are separators, and possibly empty. -/
def fields (isSeparator : Char → Bool) : List Char → List (List Char)
  | [] => [[]]
  | c :: cs =>
    if isSeparator c then [] :: fields isSeparator cs
    else match fields isSeparator cs with
      | first :: rest => (c :: first) :: rest
      | [] => [[c]]

theorem fields_ne_nil (isSeparator : Char → Bool) (cs : List Char) :
    fields isSeparator cs ≠ [] := by
  cases cs with
  | nil => simp [fields]
  | cons c cs =>
    simp only [fields]
    split
    · simp
    · split <;> simp

theorem fields_append_separator {isSeparator : Char → Bool} {c : Char} (h : isSeparator c = true)
    (before after : List Char) :
    fields isSeparator (before ++ c :: after) =
      fields isSeparator before ++ fields isSeparator after := by
  induction before with
  | nil => simp [fields, h]
  | cons d ds ih =>
    by_cases hd : isSeparator d = true
    · simp [fields, hd, ih]
    · have same := fields_ne_nil isSeparator ds
      cases hf : fields isSeparator ds with
      | nil => exact absurd hf same
      | cons first rest => simp [fields, hd, ih, hf]

/-- Code points with the property White_Space. -/
def blankRanges : List (Nat × Nat) := [
  (0x9, 0xD), (0x20, 0x20), (0x85, 0x85), (0xA0, 0xA0), (0x1680, 0x1680), (0x2000, 0x200A),
  (0x2028, 0x2029), (0x202F, 0x202F), (0x205F, 0x205F), (0x3000, 0x3000)
]

def isBlankChar (c : Char) : Bool := inRanges c.toNat blankRanges

/-- The text without blank characters at either end. -/
def trimmed (cs : List Char) : List Char :=
  ((cs.dropWhile isBlankChar).reverse.dropWhile isBlankChar).reverse

def isBlank (s : String) : Bool := s.toList.all isBlankChar

/-- Letters of the basic Latin alphabet in lower case, all else unchanged. -/
def lowerLatin (s : String) : String := s.map Char.toLower

def upperLatin (s : String) : String := s.map Char.toUpper

end OralExam.Text
