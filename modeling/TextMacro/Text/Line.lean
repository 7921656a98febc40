import TextMacro.Text.Basic

/-!
# Line ends

A line may end in a line feed, a carriage return, or both. Here texts are brought to the form in
which every line ends in a line feed, and are freed of a byte order mark in front.
-/

namespace TextMacro.Text

/-- The text with every carriage return, alone or before a line feed, turned into a line feed. -/
def lineFeedsOnly : Text → Text
  | [] => []
  | '\r' :: '\n' :: cs => '\n' :: lineFeedsOnly cs
  | c :: cs => (if c = '\r' then '\n' else c) :: lineFeedsOnly cs

/-- The text without a byte order mark in front. -/
def dropMark : Text → Text
  | [] => []
  | c :: cs => if c = '\uFEFF' then cs else c :: cs

end TextMacro.Text
