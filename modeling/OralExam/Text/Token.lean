import OralExam.Text.Fields
import OralExam.Text.LowerCase

/-! Texts as sequences of words, and phrases found in them.

Words are compared in lower case; what stands between words does not count.
-/

set_option autoImplicit false

namespace OralExam.Text

def isSeparator (c : Char) : Bool := !isWordChar c

/-- The words of a text as they are written. -/
def words (cs : List Char) : List (List Char) :=
  (fields isSeparator cs).filter (!·.isEmpty)

theorem words_append_separator {c : Char} (h : isSeparator c = true) (before after : List Char) :
    words (before ++ c :: after) = words before ++ words after := by
  simp [words, fields_append_separator h]

/-- The words of a text in lower case. -/
def tokens (s : String) : List String :=
  (words s.toList).map fun word => String.ofList (lower word)

/-- `needle` stands in the list as one block. -/
def hasBlock (needle : List String) : List String → Bool
  | [] => needle.isEmpty
  | t :: ts => needle.isPrefixOf (t :: ts) || hasBlock needle ts

/-- The phrase has a token, and its tokens stand in the transcript as one block. -/
def containsPhrase (transcript : List String) (phrase : String) : Bool :=
  let needle := tokens phrase
  !needle.isEmpty && hasBlock needle transcript

/-- The alternatives of a keyword entry. -/
def alternatives (entry : String) : List String :=
  (fields (· = '|') entry.toList).map String.ofList

def matchesKeyword (transcript : List String) (entry : String) : Bool :=
  (alternatives entry).any (containsPhrase transcript)

/-- A keyword entry is named by its first alternative. -/
def keywordLabel (entry : String) : String :=
  String.ofList (trimmed ((fields (· = '|') entry.toList).headD []))

end OralExam.Text
