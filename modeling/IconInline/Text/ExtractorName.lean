import IconInline.Text.Letter

/-!
# Names of extractor functions

A configured extractor name is a letter, `_` or `$` followed by letters, numbers, `_` and `$`.
-/

namespace IconInline.Text

/-- May stand in an extractor name after its first character. -/
def isExtractorChar (c : Char) : Bool := isAlphanumeric c || c == '_' || c == '$'

/-- May begin an extractor name. -/
def isExtractorStart (c : Char) : Bool := isLetter c || c == '_' || c == '$'

/-- Is a well-formed extractor name. -/
def isExtractorName (name : String) : Bool :=
  match name.toList with
  | [] => false
  | c :: rest => isExtractorStart c && rest.all isExtractorChar

end IconInline.Text
