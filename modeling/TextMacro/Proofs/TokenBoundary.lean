import TextMacro.Token

/-!
# Tokens up to a blank

A directive and a word end before a blank, and a blank is a token of its own. Only a string may hold
blanks, so what comes after a blank bears on a token before it only if a quote is looking for its
partner. Such a quote does not look beyond its line.

So a text before a line feed has the tokens that it has on its own, and a text before any other
blank does if every quote in it has found its partner.
-/

namespace TextMacro

namespace Text

variable {quote blank : Char} {text inside after : Text}

/-- A run at the front of a text goes no further than a character that is not part of it. -/
theorem takeWhile_append_cons {p : Char → Bool} {c : Char} (h : p c = false)
    (text after : Text) : (text ++ c :: after).takeWhile p = text.takeWhile p := by
  induction text with
  | nil => simp [h]
  | cons d text ih =>
    rw [List.cons_append, List.takeWhile_cons, List.takeWhile_cons, ih]

/-- What a run leaves of a text goes on with a character that is not part of it. -/
theorem dropWhile_append_cons {p : Char → Bool} {c : Char} (h : p c = false)
    (text after : Text) :
    (text ++ c :: after).dropWhile p = text.dropWhile p ++ c :: after := by
  induction text with
  | nil => simp [h]
  | cons d text ih =>
    rw [List.cons_append, List.dropWhile_cons, List.dropWhile_cons, ih]
    split <;> rfl

/-- A quote that is closed is closed at the same place whatever follows. -/
theorem closeQuote?_append (h : closeQuote? quote text = some (inside, after)) (more : Text) :
    closeQuote? quote (text ++ more) = some (inside, after ++ more) := by
  induction text generalizing inside with
  | nil => simp [closeQuote?] at h
  | cons c text ih =>
    rw [closeQuote?] at h
    rw [List.cons_append, closeQuote?]
    by_cases hquote : c = quote
    · rw [if_pos hquote] at h ⊢
      obtain ⟨rfl, rfl⟩ := Prod.mk.inj (Option.some.inj h)
      rfl
    · rw [if_neg hquote] at h ⊢
      by_cases hline : c = '\n'
      · rw [if_pos hline] at h
        cases h
      · rw [if_neg hline] at h ⊢
        obtain ⟨parts, hparts, hsame⟩ := Option.map_eq_some_iff.mp h
        obtain ⟨rfl, rfl⟩ := Prod.mk.inj hsame
        rw [ih hparts, Option.map_some]

/-- A quote that is not closed is not closed beyond the end of its line either. -/
theorem closeQuote?_append_lineFeed (hquote : quote ≠ '\n') (h : closeQuote? quote text = none)
    (after : Text) : closeQuote? quote (text ++ '\n' :: after) = none := by
  induction text with
  | nil => rw [List.nil_append, closeQuote?, if_neg (Ne.symm hquote), if_pos rfl]
  | cons c text ih =>
    rw [closeQuote?] at h
    rw [List.cons_append, closeQuote?]
    by_cases hclosed : c = quote
    · rw [if_pos hclosed] at h
      cases h
    · rw [if_neg hclosed] at h ⊢
      by_cases hline : c = '\n'
      · rw [if_pos hline]
      · rw [if_neg hline] at h ⊢
        rw [ih (Option.map_eq_none_iff.mp h), Option.map_none]

/-- A string is the same whatever follows it. -/
theorem quoted?_append (h : quoted? text = some (inside, after)) (more : Text) :
    quoted? (text ++ more) = some (inside, after ++ more) := by
  cases text with
  | nil => cases h
  | cons c text =>
    rw [quoted?] at h
    rw [List.cons_append, quoted?]
    by_cases hquote : c = '"' ∨ c = '\''
    · rw [if_pos hquote] at h ⊢
      exact closeQuote?_append h more
    · rw [if_neg hquote] at h
      cases h

/-- The blank characters, one by one. -/
theorem isBlank_iff (c : Char) : isBlank c = true ↔ c = ' ' ∨ c = '\t' ∨ c = '\n' ∨ c = '\r' := by
  simp [isBlank, or_assoc]

/-- A blank is no part of a word. -/
theorem isNamePart_of_isBlank (h : isBlank blank = true) : isNamePart blank = false := by
  rcases (isBlank_iff blank).mp h with rfl | rfl | rfl | rfl <;> decide

/-- A blank is no word character. -/
theorem isWord_of_isBlank (h : isBlank blank = true) : isWord blank = false :=
  (Bool.or_eq_false_iff.mp (isNamePart_of_isBlank h)).1

end Text

namespace Token

variable {c blank : Char} {rest : Text}

/-- Whether the token is a quote that has found no partner. -/
def isLoneQuote (token : Token) : Bool :=
  token.kind == .char && (token.value == ['"'] || token.value == ['\''])

/-- A quote that opens no string is a token of its own. -/
theorem isLoneQuote_first (hquote : c = '"' ∨ c = '\'') (h : Text.quoted? (c :: rest) = none) :
    (first c rest).1.isLoneQuote = true := by
  have hat : ¬ (c = '@' ∧ rest.takeWhile Text.isWord ≠ []) := by
    rintro ⟨rfl, -⟩
    simp at hquote
  have hpart : Text.isNamePart c = false := by
    rcases hquote with rfl | rfl <;> decide
  rw [first, if_neg hat, h]
  rcases hquote with rfl | rfl <;> simp [hpart, isLoneQuote]

/-- A text that starts with no string does so before a blank as well, unless it starts with a quote
and the blank is on its line. -/
theorem quoted?_append_eq_none (h : Text.quoted? (c :: rest) = none)
    (hsealed : blank = '\n' ∨ (first c rest).1.isLoneQuote = false) (after : Text) :
    Text.quoted? (c :: (rest ++ blank :: after)) = none := by
  rw [Text.quoted?]
  by_cases hquote : c = '"' ∨ c = '\''
  · rw [if_pos hquote]
    rcases hsealed with rfl | hpartner
    · have hline : c ≠ '\n' := by
        rintro rfl
        simp at hquote
      rw [Text.quoted?, if_pos hquote] at h
      exact Text.closeQuote?_append_lineFeed hline h after
    · rw [isLoneQuote_first hquote h] at hpartner
      cases hpartner
  · rw [if_neg hquote]

/-- The first token of a text before a blank is that of the text, unless it is a quote that may find
its partner after the blank. -/
theorem first_append_blank (hblank : Text.isBlank blank = true)
    (hsealed : blank = '\n' ∨ (first c rest).1.isLoneQuote = false) (after : Text) :
    first c (rest ++ blank :: after) = ((first c rest).1, (first c rest).2 ++ blank :: after) := by
  have htake : (rest ++ blank :: after).takeWhile Text.isWord = rest.takeWhile Text.isWord :=
    Text.takeWhile_append_cons (Text.isWord_of_isBlank hblank) rest after
  have hpart := Text.isNamePart_of_isBlank hblank
  by_cases hdirective : c = '@' ∧ rest.takeWhile Text.isWord ≠ []
  · rw [first, first, htake, if_pos hdirective, if_pos hdirective,
      Text.dropWhile_append_cons (Text.isWord_of_isBlank hblank)]
  · cases hquoted : Text.quoted? (c :: rest) with
    | some string =>
      have hlonger := Text.quoted?_append hquoted (blank :: after)
      rw [List.cons_append] at hlonger
      rw [first, first, htake, if_neg hdirective, if_neg hdirective, hquoted, hlonger]
    | none =>
      have hlonger := quoted?_append_eq_none hquoted hsealed after
      rw [first, first, htake, if_neg hdirective, if_neg hdirective, hquoted, hlonger]
      by_cases hname : Text.isNamePart c = true
      · simp only [if_pos hname, Text.takeWhile_append_cons hpart, Text.dropWhile_append_cons hpart]
      · simp only [if_neg hname]

/-- A blank at the front is the first token. -/
theorem first_of_isBlank (h : Text.isBlank blank = true) (after : Text) :
    first blank after = (⟨.char, [blank]⟩, after) := by
  have hat : ¬ (blank = '@' ∧ after.takeWhile Text.isWord ≠ []) := by
    rintro ⟨rfl, -⟩
    cases h
  have hquoted : Text.quoted? (blank :: after) = none := by
    rw [Text.quoted?, if_neg]
    rintro (rfl | rfl) <;> cases h
  rw [first, if_neg hat, hquoted]
  simp [Text.isNamePart_of_isBlank h]

end Token

variable {blank : Char} {text : Text}

/-- A blank at the front of a text is a token of its own. -/
theorem tokenize_cons_of_isBlank (h : Text.isBlank blank = true) (after : Text) :
    tokenize (blank :: after) = ⟨.char, [blank]⟩ :: tokenize after := by
  rw [tokenize_cons, Token.first_of_isBlank h]

/-- A text before a blank has the tokens that it has on its own, and so has the text after it,
unless a quote before the blank may find its partner after it. -/
theorem tokenize_append_blank (hblank : Text.isBlank blank = true)
    (hsealed : blank = '\n' ∨ ∀ token ∈ tokenize text, token.isLoneQuote = false) (after : Text) :
    tokenize (text ++ blank :: after) = tokenize text ++ ⟨.char, [blank]⟩ :: tokenize after := by
  induction text using tokenize.induct with
  | case1 => rw [List.nil_append, tokenize_cons_of_isBlank hblank, tokenize_nil, List.nil_append]
  | case2 c rest ih =>
    rw [tokenize_cons] at hsealed
    have hfirst : blank = '\n' ∨ (Token.first c rest).1.isLoneQuote = false :=
      hsealed.imp_right fun h => h _ List.mem_cons_self
    have hlater : blank = '\n' ∨
        ∀ token ∈ tokenize (Token.first c rest).2, token.isLoneQuote = false :=
      hsealed.imp_right fun h token htoken => h token (List.mem_cons_of_mem _ htoken)
    rw [List.cons_append, tokenize_cons, tokenize_cons, Token.first_append_blank hblank hfirst,
      List.cons_append, ih hlater]

end TextMacro
