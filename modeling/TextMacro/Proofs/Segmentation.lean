import TextMacro.Proofs.BodyJoin

/-!
# The only segmentation of a text

What the next token is can be said without saying how it is found: a directive has the longest run
of word characters after its at sign, a string goes up to the next quote of its kind, which has to
stand on the same line, a word is the longest run of its characters, and any other character is a
token of its own; each of these applies only where none before it does. A text has exactly one
sequence of tokens that makes it up and in which each token is the one that the text from there on
calls for.

As the text before a token has no say in this, the tokens from a boundary on are those of the text
from there on.
-/

namespace TextMacro

namespace Text

/-- A run of characters at the front of a text which is as long as can be. -/
structure IsLongestRun (p : Char → Bool) (text run : Text) : Prop where
  front : run <+: text
  holds : ∀ c ∈ run, p c = true
  longest : ∀ longer, longer <+: text → (∀ c ∈ longer, p c = true) → longer.length ≤ run.length

/-- The longest run is taken from the front. -/
theorem isLongestRun_takeWhile (p : Char → Bool) (text : Text) :
    IsLongestRun p text (text.takeWhile p) where
  front := List.takeWhile_prefix p
  holds := List.all_eq_true.mp List.all_takeWhile
  longest := by
    rintro longer ⟨rest, rfl⟩ hlonger
    rw [List.takeWhile_append_of_pos hlonger, List.length_append]
    exact Nat.le_add_right _ _

/-- There is one longest run. -/
theorem isLongestRun_iff (p : Char → Bool) (text run : Text) :
    IsLongestRun p text run ↔ run = text.takeWhile p := by
  constructor
  · intro h
    have htaken := isLongestRun_takeWhile p text
    have hle : run.length ≤ (text.takeWhile p).length := htaken.longest run h.front h.holds
    have hge : (text.takeWhile p).length ≤ run.length := h.longest _ htaken.front htaken.holds
    exact (List.prefix_of_prefix_length_le h.front htaken.front hle).eq_of_length_le hge
  · rintro rfl
    exact isLongestRun_takeWhile p text

/-- A text starts with an at sign and a word character. -/
def StartsDirective (text : Text) : Prop :=
  ∃ c rest, text = '@' :: c :: rest ∧ isWord c = true

/-- A text starts with a quote that recurs before the end of the line, and the string goes up to the
next such quote. -/
def StartsString (text string : Text) : Prop :=
  ∃ quote inside after, (quote = '"' ∨ quote = '\'') ∧ quote ∉ inside ∧ '\n' ∉ inside ∧
    text = quote :: (inside ++ quote :: after) ∧ string = quote :: (inside ++ [quote])

/-- Word characters after an at sign are taken as its run. -/
theorem startsDirective_cons_iff (c : Char) (rest : Text) :
    StartsDirective (c :: rest) ↔ c = '@' ∧ rest.takeWhile isWord ≠ [] := by
  constructor
  · rintro ⟨d, others, heq, hword⟩
    obtain ⟨rfl, rfl⟩ := List.cons.inj heq
    simp [hword]
  · rintro ⟨rfl, hrun⟩
    cases rest with
    | nil => simp at hrun
    | cons d others =>
      cases hword : isWord d with
      | true => exact ⟨d, others, rfl, hword⟩
      | false => simp [hword] at hrun

/-- A string is closed at its quote if it holds neither that quote nor the end of a line. -/
theorem closeQuote?_append_quote {quote : Char} {inside : Text} (hquote : quote ∉ inside)
    (hline : '\n' ∉ inside) (after : Text) :
    closeQuote? quote (inside ++ quote :: after) = some (inside, after) := by
  induction inside with
  | nil => simp [closeQuote?]
  | cons c inside ih =>
    rw [List.mem_cons, not_or] at hquote hline
    rw [List.cons_append, closeQuote?, if_neg (Ne.symm hquote.1), if_neg (Ne.symm hline.1),
      ih hquote.2 hline.2, Option.map_some]

/-- What is inside a closed string holds neither its quote nor the end of a line. -/
theorem notMem_of_closeQuote? {quote : Char} {text inside after : Text}
    (h : closeQuote? quote text = some (inside, after)) : quote ∉ inside ∧ '\n' ∉ inside := by
  induction text generalizing inside with
  | nil => cases h
  | cons c text ih =>
    rw [closeQuote?] at h
    by_cases hquote : c = quote
    · rw [if_pos hquote] at h
      obtain ⟨rfl, rfl⟩ := Prod.mk.inj (Option.some.inj h)
      exact ⟨List.not_mem_nil, List.not_mem_nil⟩
    · rw [if_neg hquote] at h
      by_cases hline : c = '\n'
      · rw [if_pos hline] at h
        cases h
      · rw [if_neg hline] at h
        obtain ⟨parts, hparts, hsame⟩ := Option.map_eq_some_iff.mp h
        obtain ⟨rfl, rfl⟩ := Prod.mk.inj hsame
        obtain ⟨hnoQuote, hnoLine⟩ := ih hparts
        exact ⟨List.not_mem_cons_of_ne_of_not_mem (Ne.symm hquote) hnoQuote,
          List.not_mem_cons_of_ne_of_not_mem (Ne.symm hline) hnoLine⟩

/-- The string that a text starts with is the one that its first quote opens. -/
theorem startsString_cons_iff (c : Char) (rest string : Text) :
    StartsString (c :: rest) string ↔
      ∃ inside after, quoted? (c :: rest) = some (inside, after) ∧
        string = c :: (inside ++ [c]) := by
  rw [quoted?]
  constructor
  · rintro ⟨quote, inside, after, hkind, hquote, hline, heq, rfl⟩
    obtain ⟨rfl, rfl⟩ := List.cons.inj heq
    rw [if_pos hkind]
    exact ⟨inside, after, closeQuote?_append_quote hquote hline after, rfl⟩
  · rintro ⟨inside, after, hclosed, rfl⟩
    by_cases hkind : c = '"' ∨ c = '\''
    · rw [if_pos hkind] at hclosed
      obtain ⟨hquote, hline⟩ := notMem_of_closeQuote? hclosed
      exact ⟨c, inside, after, hkind, hquote, hline, by rw [append_of_closeQuote? hclosed], rfl⟩
    · rw [if_neg hkind] at hclosed
      cases hclosed

/-- A text starts with one string at most. -/
theorem StartsString.unique {text string string' : Text} (h : StartsString text string)
    (h' : StartsString text string') : string = string' := by
  cases text with
  | nil =>
    obtain ⟨quote, inside, after, -, -, -, heq, -⟩ := h
    cases heq
  | cons c rest =>
    obtain ⟨inside, after, hquoted, rfl⟩ := (startsString_cons_iff c rest string).mp h
    obtain ⟨inside', after', hquoted', rfl⟩ := (startsString_cons_iff c rest string').mp h'
    obtain ⟨rfl, -⟩ := Prod.mk.inj (Option.some.inj (hquoted.symm.trans hquoted'))
    rfl

end Text

namespace Token

/-- The token that a text calls for. Each kind comes into question only where those before it do
not. -/
inductive CalledFor : Text → Token → Prop
  /-- An at sign and the longest run of word characters after it, if there is one. -/
  | directive {rest run : Text} : Text.StartsDirective ('@' :: rest) →
    Text.IsLongestRun Text.isWord rest run → CalledFor ('@' :: rest) ⟨.directive, '@' :: run⟩
  /-- A string up to the next quote of its kind, if that stands on the same line. -/
  | string {text string : Text} : ¬ Text.StartsDirective text → Text.StartsString text string →
    CalledFor text ⟨.string, string⟩
  /-- The longest run of characters of a word, if there is one. -/
  | word {text run : Text} : ¬ Text.StartsDirective text →
    (∀ string, ¬ Text.StartsString text string) → Text.IsLongestRun Text.isNamePart text run →
    run ≠ [] → CalledFor text ⟨.word, run⟩
  /-- One character, where nothing else applies. -/
  | char {c : Char} {rest : Text} : ¬ Text.StartsDirective (c :: rest) →
    (∀ string, ¬ Text.StartsString (c :: rest) string) →
    Text.IsLongestRun Text.isNamePart (c :: rest) [] → CalledFor (c :: rest) ⟨.char, [c]⟩

/-- The first token of a text is the one that it calls for. -/
theorem calledFor_first (c : Char) (rest : Text) : CalledFor (c :: rest) (first c rest).1 := by
  by_cases hdirective : c = '@' ∧ rest.takeWhile Text.isWord ≠ []
  · have hstarts := (Text.startsDirective_cons_iff c rest).mpr hdirective
    rw [first, if_pos hdirective]
    obtain ⟨rfl, -⟩ := hdirective
    exact .directive hstarts (Text.isLongestRun_takeWhile _ _)
  · have hstarts := mt (Text.startsDirective_cons_iff c rest).mp hdirective
    rw [first, if_neg hdirective]
    cases hquoted : Text.quoted? (c :: rest) with
    | some parts =>
      obtain ⟨inside, after⟩ := parts
      exact .string hstarts ((Text.startsString_cons_iff c rest _).mpr
        ⟨inside, after, hquoted, rfl⟩)
    | none =>
      have hstring : ∀ string, ¬ Text.StartsString (c :: rest) string := by
        intro string h
        obtain ⟨inside, after, hsome, -⟩ := (Text.startsString_cons_iff c rest string).mp h
        rw [hquoted] at hsome
        cases hsome
      have hrun := Text.isLongestRun_takeWhile Text.isNamePart (c :: rest)
      dsimp only
      by_cases hname : Text.isNamePart c = true
      · rw [List.takeWhile_cons_of_pos hname] at hrun
        rw [if_pos hname]
        exact .word hstarts hstring hrun (List.cons_ne_nil _ _)
      · rw [List.takeWhile_cons_of_neg hname] at hrun
        rw [if_neg hname]
        exact .char hstarts hstring hrun

/-- A text calls for one token. -/
theorem CalledFor.unique {text : Text} {token token' : Token} (h : CalledFor text token)
    (h' : CalledFor text token') : token = token' := by
  cases h with
  | directive hstarts hrun =>
    cases h' with
    | directive _ hrun' =>
      rw [Text.isLongestRun_iff] at hrun hrun'
      rw [hrun, hrun']
    | string hnot => exact absurd hstarts hnot
    | word hnot => exact absurd hstarts hnot
    | char hnot => exact absurd hstarts hnot
  | string hnot hstring =>
    cases h' with
    | directive hstarts => exact absurd hstarts hnot
    | string _ hstring' => rw [hstring.unique hstring']
    | word _ hnone => exact absurd hstring (hnone _)
    | char _ hnone => exact absurd hstring (hnone _)
  | word hnot hnone hrun hne =>
    cases h' with
    | directive hstarts => exact absurd hstarts hnot
    | string _ hstring => exact absurd hstring (hnone _)
    | word _ _ hrun' =>
      rw [Text.isLongestRun_iff] at hrun hrun'
      rw [hrun, hrun']
    | char _ _ hrun' =>
      rw [Text.isLongestRun_iff] at hrun hrun'
      exact absurd (hrun.trans hrun'.symm) hne
  | char hnot hnone hrun =>
    cases h' with
    | directive hstarts => exact absurd hstarts hnot
    | string _ hstring => exact absurd hstring (hnone _)
    | word _ _ hrun' hne =>
      rw [Text.isLongestRun_iff] at hrun hrun'
      exact absurd (hrun'.trans hrun.symm) hne
    | char => rfl

/-- A token that is called for is not empty. -/
theorem CalledFor.value_ne_nil {text : Text} {token : Token} (h : CalledFor text token) :
    token.value ≠ [] := by
  cases h with
  | directive => exact List.cons_ne_nil _ _
  | string _ hstring =>
    obtain ⟨quote, inside, after, -, -, -, -, rfl⟩ := hstring
    exact List.cons_ne_nil _ _
  | word _ _ _ hne => exact hne
  | char => exact List.cons_ne_nil _ _

/-- A token that begins with a character which has no part in directives, strings and words is that
character. -/
theorem CalledFor.eq_char {text : Text} {token : Token} {c : Char} (h : CalledFor text token)
    (hhead : token.value.head? = some c) (hat : c ≠ '@') (hquote : ¬ (c = '"' ∨ c = '\''))
    (hname : Text.isNamePart c = false) : token = ⟨.char, [c]⟩ := by
  cases h with
  | directive => exact absurd (Option.some.inj hhead).symm hat
  | string _ hstring =>
    obtain ⟨quote, inside, after, hkind, -, -, -, rfl⟩ := hstring
    obtain rfl := Option.some.inj hhead
    exact absurd hkind hquote
  | word _ _ hrun =>
    have hpart := hrun.holds c (List.mem_of_head? hhead)
    rw [hname] at hpart
    cases hpart
  | char =>
    obtain rfl := Option.some.inj hhead
    rfl

/-- A blank token is one blank character. -/
theorem CalledFor.of_isBlank {text : Text} {token : Token} (h : CalledFor text token)
    (hblank : token.isBlank = true) : ∃ c, Text.isBlank c = true ∧ token = ⟨.char, [c]⟩ := by
  obtain ⟨c, value, hvalue⟩ := List.exists_cons_of_ne_nil h.value_ne_nil
  rw [isBlank, hvalue, List.all_cons, Bool.and_eq_true, Bool.and_eq_true] at hblank
  have hc : Text.isBlank c = true := hblank.2.1
  refine ⟨c, hc, h.eq_char (by rw [hvalue, List.head?_cons]) ?_ ?_ (Text.isNamePart_of_isBlank hc)⟩
  · rintro rfl
    cases hc
  · rintro (rfl | rfl) <;> cases hc

/-- A token that is a bracket is one character. -/
theorem CalledFor.of_bracket {text : Text} {token : Token} (h : CalledFor text token)
    (bracket : Bracket)
    (hvalue : token.value = [bracket.opening] ∨ token.value = [bracket.closing]) :
    token.kind = .char := by
  rcases hvalue with hvalue | hvalue
  · have hhead : token.value.head? = some bracket.opening := by rw [hvalue, List.head?_cons]
    rw [h.eq_char hhead] <;> cases bracket <;> decide
  · have hhead : token.value.head? = some bracket.closing := by rw [hvalue, List.head?_cons]
    rw [h.eq_char hhead] <;> cases bracket <;> decide

end Token

/-- The tokens from a boundary on are those of the text that they make up. -/
theorem tokenize_of_append {text : Text} {front back : List Token}
    (h : tokenize text = front ++ back) : tokenize (back.flatMap Token.value) = back := by
  induction front generalizing text with
  | nil =>
    obtain rfl : tokenize text = back := h
    rw [flatMap_value_tokenize]
  | cons token front ih =>
    cases text with
    | nil => simp at h
    | cons c rest =>
      rw [tokenize_cons, List.cons_append, List.cons.injEq] at h
      exact ih h.2

/-- The first token from a boundary on is the one that the text from there on calls for. -/
theorem calledFor_of_append {text : Text} {front back : List Token} {token : Token}
    (h : tokenize text = front ++ token :: back) :
    Token.CalledFor ((token :: back).flatMap Token.value) token := by
  have hback := tokenize_of_append h
  cases htext : (token :: back).flatMap Token.value with
  | nil =>
    rw [htext, tokenize_nil] at hback
    cases hback
  | cons c rest =>
    rw [htext, tokenize_cons, List.cons.injEq] at hback
    rw [← hback.1]
    exact Token.calledFor_first c rest

/-- Tokens each of which is called for by the text from there on are those of the text. -/
theorem tokenize_eq_of_calledFor {tokens : List Token}
    (h : ∀ front token back, tokens = front ++ token :: back →
      Token.CalledFor ((token :: back).flatMap Token.value) token) :
    tokenize (tokens.flatMap Token.value) = tokens := by
  induction tokens with
  | nil => exact tokenize_nil
  | cons token tokens ih =>
    have hcalled := h [] token tokens rfl
    have hlater := ih fun front other back hsplit =>
      h (token :: front) other back (congrArg (token :: ·) hsplit)
    cases htext : (token :: tokens).flatMap Token.value with
    | nil =>
      rw [List.flatMap_cons, List.append_eq_nil_iff] at htext
      exact absurd htext.1 hcalled.value_ne_nil
    | cons c rest =>
      rw [htext] at hcalled
      have hfirst : (Token.first c rest).1 = token := (Token.calledFor_first c rest).unique hcalled
      have happend := Token.first_append c rest
      rw [hfirst, ← htext, List.flatMap_cons] at happend
      rw [tokenize_cons, hfirst, List.append_cancel_left happend, hlater]

/-- The number of characters of placed tokens. -/
def totalLength (tokens : List PlacedToken) : Nat :=
  (tokens.map fun token => token.value.length).sum

/-- A token in front adds its length. -/
@[simp]
theorem totalLength_cons (token : PlacedToken) (tokens : List PlacedToken) :
    totalLength (token :: tokens) = token.value.length + totalLength tokens := rfl

/-- The number of characters of tokens is that of the text that they make up. -/
theorem length_flatMap_value (tokens : List PlacedToken) :
    ((tokens.map PlacedToken.toToken).flatMap Token.value).length = totalLength tokens := by
  rw [List.length_flatMap, List.map_map]
  rfl

/-- The tokens that are placed are the given ones. -/
theorem map_toToken_placeFrom (position : Nat) (tokens : List Token) :
    (placeFrom position tokens).map PlacedToken.toToken = tokens := by
  induction tokens generalizing position with
  | nil => rfl
  | cons token tokens ih => rw [placeFrom, List.map_cons, ih]

/-- Tokens are placed exactly if each one stands after as many characters as those before it
have. -/
theorem eq_placeFrom_iff (position : Nat) (tokens : List PlacedToken) :
    tokens = placeFrom position (tokens.map PlacedToken.toToken) ↔
      ∀ front token back, tokens = front ++ token :: back →
        token.position = position + totalLength front := by
  induction tokens generalizing position with
  | nil => simp [placeFrom]
  | cons token tokens ih =>
    rw [List.map_cons, placeFrom, List.cons.injEq, ih]
    constructor
    · rintro ⟨htoken, hlater⟩ front other back hsplit
      cases front with
      | nil =>
        obtain ⟨rfl, -⟩ := List.cons.inj hsplit
        exact congrArg PlacedToken.position htoken
      | cons first front =>
        rw [List.cons_append, List.cons.injEq] at hsplit
        rw [hlater front other back hsplit.2, hsplit.1, totalLength_cons, Nat.add_assoc]
    · intro h
      constructor
      · have hposition : token.position = position := h [] token tokens rfl
        rw [← hposition]
      · intro front other back hsplit
        rw [h (token :: front) other back (congrArg (token :: ·) hsplit), totalLength_cons,
          Nat.add_assoc]

/-- Placed tokens that make up a text, each of which is called for by the text from its place on. -/
structure IsSegmentation (text : Text) (tokens : List PlacedToken) : Prop where
  nonempty : ∀ token ∈ tokens, token.value ≠ []
  whole : tokens.flatMap (·.value) = text
  placed : ∀ front token back, tokens = front ++ token :: back →
    token.position = totalLength front
  calledFor : ∀ token ∈ tokens, Token.CalledFor (text.drop token.position) token.toToken

variable {text : Text} {front back tokens : List PlacedToken}

/-- Where placed tokens are divided, the text that they make up is divided as well. -/
theorem drop_totalLength (h : (front ++ back).flatMap (·.value) = text) :
    text.drop (totalLength front) = (back.map PlacedToken.toToken).flatMap Token.value := by
  have htext : (front.map PlacedToken.toToken).flatMap Token.value ++
      (back.map PlacedToken.toToken).flatMap Token.value = text := by
    rw [← h, List.flatMap_append, List.flatMap_map, List.flatMap_map]
  rw [← htext, ← length_flatMap_value, List.drop_left]

/-- The tokens of a text make it up. -/
theorem flatMap_value_tokenizePlaced (text : Text) :
    (tokenizePlaced text).flatMap (·.value) = text := by
  have htokens := flatMap_value_tokenize text
  rwa [← map_toToken_placeFrom 0 (tokenize text), List.flatMap_map] at htokens

/-- Where the placed tokens of a text are divided, its tokens are. -/
theorem tokenize_of_tokenizePlaced (h : tokenizePlaced text = front ++ back) :
    tokenize text = front.map PlacedToken.toToken ++ back.map PlacedToken.toToken := by
  rw [← List.map_append, ← h, tokenizePlaced, map_toToken_placeFrom]

/-- The tokens of a text are a segmentation of it. -/
theorem isSegmentation_tokenizePlaced (text : Text) :
    IsSegmentation text (tokenizePlaced text) := by
  have hplaced : ∀ front token back, tokenizePlaced text = front ++ token :: back →
      token.position = totalLength front := by
    intro front token back hsplit
    have hall := (eq_placeFrom_iff 0 (tokenizePlaced text)).mp
      (by rw [tokenizePlaced, map_toToken_placeFrom])
    rw [hall front token back hsplit, Nat.zero_add]
  have hcalled : ∀ token ∈ tokenizePlaced text,
      Token.CalledFor (text.drop token.position) token.toToken := by
    intro token htoken
    obtain ⟨front, back, hsplit⟩ := List.append_of_mem htoken
    have htext := flatMap_value_tokenizePlaced text
    rw [hsplit] at htext
    rw [hplaced front token back hsplit, drop_totalLength htext]
    exact calledFor_of_append (tokenize_of_tokenizePlaced hsplit)
  exact ⟨fun token htoken => (hcalled token htoken).value_ne_nil,
    flatMap_value_tokenizePlaced text, hplaced, hcalled⟩

/-- A segmentation of a text has its tokens. -/
theorem IsSegmentation.eq_tokenizePlaced (h : IsSegmentation text tokens) :
    tokens = tokenizePlaced text := by
  have hplaced : tokens = placeFrom 0 (tokens.map PlacedToken.toToken) := by
    rw [eq_placeFrom_iff]
    intro front token back hsplit
    rw [h.placed front token back hsplit, Nat.zero_add]
  have htokens : tokenize text = tokens.map PlacedToken.toToken := by
    rw [← h.whole, ← List.flatMap_map]
    apply tokenize_eq_of_calledFor
    intro front token back hsplit
    obtain ⟨front, rest, rfl, rfl, hrest⟩ := List.map_eq_append_iff.mp hsplit
    obtain ⟨token, back, rfl, rfl, rfl⟩ := List.map_eq_cons_iff.mp hrest
    have hcalled := h.calledFor token (by simp)
    rwa [h.placed front token back rfl, drop_totalLength h.whole] at hcalled
  rw [tokenizePlaced, htokens, ← hplaced]

/-- The tokens from a boundary on are those of the text from there on, at their new offsets. -/
theorem tokenizePlaced_drop (h : tokenizePlaced text = front ++ back) :
    (tokenizePlaced (text.drop (totalLength front))).map (PlacedToken.shift (totalLength front)) =
      back := by
  have htext := flatMap_value_tokenizePlaced text
  rw [h] at htext
  have hplaced : back = placeFrom (totalLength front) (back.map PlacedToken.toToken) := by
    rw [eq_placeFrom_iff]
    intro others token after hsplit
    have hwhole : tokenizePlaced text = (front ++ others) ++ token :: after := by
      rw [h, hsplit, List.append_assoc]
    rw [(isSegmentation_tokenizePlaced text).placed _ _ _ hwhole, totalLength, List.map_append,
      List.sum_append]
    rfl
  rw [drop_totalLength htext, tokenizePlaced, tokenize_of_append (tokenize_of_tokenizePlaced h),
    ← placeFrom_add, Nat.zero_add, ← hplaced]

/-- The tokens of a text are its only segmentation: they make it up, each one stands where those
before it end and is the one that the text from there on calls for. So the tokens from a boundary on
are those of the text from there on, and a token that is blank, or is a bracket, is no more than
that character. -/
theorem tokenizePlaced_only_segmentation (text : Text) :
    (∀ tokens, IsSegmentation text tokens ↔ tokens = tokenizePlaced text) ∧
    (∀ front back, tokenizePlaced text = front ++ back →
      (tokenizePlaced (text.drop (totalLength front))).map
        (PlacedToken.shift (totalLength front)) = back) ∧
    ∀ token ∈ tokenizePlaced text,
      (token.isBlank = true → ∃ c, Text.isBlank c = true ∧ token.toToken = ⟨.char, [c]⟩) ∧
      ∀ bracket : Bracket, token.value = [bracket.opening] ∨ token.value = [bracket.closing] →
        token.kind = .char := by
  have hown := isSegmentation_tokenizePlaced text
  refine ⟨fun tokens => ⟨IsSegmentation.eq_tokenizePlaced, ?_⟩, fun front back => ?_,
    fun token htoken => ⟨?_, ?_⟩⟩
  · rintro rfl
    exact hown
  · exact tokenizePlaced_drop
  · exact (hown.calledFor token htoken).of_isBlank
  · exact (hown.calledFor token htoken).of_bracket

/-- A word, a directive and a string with the other quote in it are followed by a quote that does
not recur on its line. From the string on, the tokens are those of the text from there on. -/
theorem strayQuote_segmented :
    IsSegmentation "$x@é'a\"b'\"\n\"".toList
      [⟨⟨.word, "$x".toList⟩, 0⟩, ⟨⟨.directive, "@é".toList⟩, 2⟩, ⟨⟨.string, "'a\"b'".toList⟩, 4⟩,
        ⟨⟨.char, "\"".toList⟩, 9⟩, ⟨⟨.char, "\n".toList⟩, 10⟩, ⟨⟨.char, "\"".toList⟩, 11⟩] ∧
    (tokenizePlaced "'a\"b'\"\n\"".toList).map (PlacedToken.shift 4) =
      [⟨⟨.string, "'a\"b'".toList⟩, 4⟩, ⟨⟨.char, "\"".toList⟩, 9⟩, ⟨⟨.char, "\n".toList⟩, 10⟩,
        ⟨⟨.char, "\"".toList⟩, 11⟩] := by
  obtain ⟨honly, hdrop, -⟩ := tokenizePlaced_only_segmentation "$x@é'a\"b'\"\n\"".toList
  constructor
  · exact (honly _).mpr (by decide +kernel)
  · exact hdrop [⟨⟨.word, "$x".toList⟩, 0⟩, ⟨⟨.directive, "@é".toList⟩, 2⟩] _ (by decide +kernel)

end TextMacro
