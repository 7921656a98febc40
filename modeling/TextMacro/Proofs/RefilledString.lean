import TextMacro.Proofs.Segmentation

/-!
# Strings with another inside

The inside of a string may be replaced by any text without quotes and line feeds. The token stays a
string, and the tokens around it stay what they are: those after it do not look back, and of those
before it only a quote without a partner looks ahead at all, and finds no partner in the new text
either.
-/

namespace TextMacro

namespace Text

/-- A text between two quotes. -/
def quotedBy (quote : Char) (inside : Text) : Text :=
  quote :: (inside ++ [quote])

/-- A text that can be put into a string: it holds no quotes and no line feed. -/
structure IsQuotable (text : Text) : Prop where
  noDouble : '"' ∉ text
  noSingle : '\'' ∉ text
  noLine : '\n' ∉ text

/-- A text that can be put into a string holds neither quote. -/
theorem IsQuotable.notMem {quote : Char} {text : Text} (h : IsQuotable text)
    (hquote : quote = '"' ∨ quote = '\'') : quote ∉ text := by
  rcases hquote with rfl | rfl
  · exact h.noDouble
  · exact h.noSingle

/-- The characters of a string are its quote and those inside it. -/
theorem mem_quotedBy_iff {c quote : Char} {inside : Text} :
    c ∈ quotedBy quote inside ↔ c = quote ∨ c ∈ inside := by
  simp only [quotedBy, List.mem_cons, List.mem_append, List.not_mem_nil, or_false]
  grind

/-- A quote finds no partner in a text if it finds none in the first part, and none in the second
part unless its line ends before that. -/
theorem closeQuote?_append_eq_none_iff (quote : Char) (front back : Text) :
    closeQuote? quote (front ++ back) = none ↔
      closeQuote? quote front = none ∧ ('\n' ∈ front ∨ closeQuote? quote back = none) := by
  induction front with
  | nil => simp [closeQuote?]
  | cons c front ih =>
    rw [List.cons_append, closeQuote?, closeQuote?]
    by_cases hclosed : c = quote
    · simp [hclosed]
    · rw [if_neg hclosed, if_neg hclosed]
      by_cases hline : c = '\n'
      · simp [hline]
      · rw [if_neg hline, if_neg hline, Option.map_eq_none_iff, Option.map_eq_none_iff, ih,
          List.mem_cons]
        simp [Ne.symm hline]

/-- A quote finds no partner in a text that does not hold it. -/
theorem closeQuote?_eq_none_of_notMem {quote : Char} {text : Text} (h : quote ∉ text) :
    closeQuote? quote text = none := by
  induction text with
  | nil => rfl
  | cons c text ih =>
    rw [List.mem_cons, not_or] at h
    rw [closeQuote?, if_neg (Ne.symm h.1), ih h.2, Option.map_none, ite_self]

/-- A text that can stand in the place of another one after whole tokens: both begin with a
character that is no part of a word, and a quote that finds no partner in the other text finds none
in this one. -/
structure Replaces (other text : Text) : Prop where
  stops : ∃ c rest, other = c :: rest ∧ isNamePart c = false
  begins : ∃ c rest, text = c :: rest ∧ isNamePart c = false
  lone : ∀ quote front, quote = '"' ∨ quote = '\'' → closeQuote? quote (front ++ other) = none →
    closeQuote? quote (front ++ text) = none

/-- A string can stand in the place of another one with the same quotes. -/
theorem replaces_quotedBy {quote : Char} {inside content : Text}
    (hquote : quote = '"' ∨ quote = '\'') (hinside : '\n' ∉ inside)
    (hcontent : IsQuotable content) (after : Text) :
    Replaces (quotedBy quote inside ++ after) (quotedBy quote content ++ after) where
  stops := ⟨quote, _, rfl, by rcases hquote with rfl | rfl <;> decide⟩
  begins := ⟨quote, _, rfl, by rcases hquote with rfl | rfl <;> decide⟩
  lone := by
    intro c front hc h
    -- the old string ends no line, so a quote before it looked through all of it and what is after
    have hline : '\n' ∉ quotedBy quote inside := by
      rw [mem_quotedBy_iff]
      rintro (rfl | hmem)
      · simp at hquote
      · exact hinside hmem
    simp only [closeQuote?_append_eq_none_iff, hline, false_or] at h ⊢
    refine ⟨h.1, h.2.imp_right fun hafter => ⟨?_, Or.inr hafter.2⟩⟩
    apply closeQuote?_eq_none_of_notMem
    rw [mem_quotedBy_iff]
    rintro (rfl | hmem)
    · have hopen := hafter.1
      rw [quotedBy, closeQuote?, if_pos rfl] at hopen
      cases hopen
    · exact hcontent.notMem hc hmem

/-- A string that ends before some text is the same before any other one. -/
theorem quoted?_append_of_some {c : Char} {rest inside later other : Text}
    (h : quoted? (c :: (rest ++ other)) = some (inside, later ++ other)) (text : Text) :
    quoted? (c :: (rest ++ text)) = some (inside, later ++ text) := by
  rw [quoted?] at h ⊢
  by_cases hkind : c = '"' ∨ c = '\''
  · rw [if_pos hkind] at h ⊢
    obtain ⟨hquote, hline⟩ := notMem_of_closeQuote? h
    have hrest : rest = inside ++ c :: later := by
      have happend := append_of_closeQuote? h
      rw [← List.cons_append, ← List.append_assoc] at happend
      exact (List.append_cancel_right happend).symm
    rw [hrest, List.append_assoc, List.cons_append]
    exact closeQuote?_append_quote hquote hline _
  · rw [if_neg hkind] at h
    cases h

/-- Where no string begins, none begins if what is after whole tokens is replaced. -/
theorem Replaces.quoted?_eq_none {other text : Text} (hreplaces : Replaces other text) {c : Char}
    {rest : Text} (h : quoted? (c :: (rest ++ other)) = none) :
    quoted? (c :: (rest ++ text)) = none := by
  rw [quoted?] at h ⊢
  by_cases hkind : c = '"' ∨ c = '\''
  · rw [if_pos hkind] at h ⊢
    exact hreplaces.lone c rest hkind h
  · rw [if_neg hkind]

/-- A run at the front of a text goes no further than a text that begins with no part of it. -/
theorem takeWhile_append_of_begins {p : Char → Bool} {text : Text}
    (h : ∃ c rest, text = c :: rest ∧ p c = false) (front : Text) :
    (front ++ text).takeWhile p = front.takeWhile p ∧
      (front ++ text).dropWhile p = front.dropWhile p ++ text := by
  obtain ⟨c, rest, rfl, hc⟩ := h
  exact ⟨takeWhile_append_cons hc front rest, dropWhile_append_cons hc front rest⟩

/-- What begins with no part of a word begins with no word character. -/
theorem exists_not_isWord {text : Text} (h : ∃ c rest, text = c :: rest ∧ isNamePart c = false) :
    ∃ c rest, text = c :: rest ∧ isWord c = false := by
  obtain ⟨c, rest, htext, hc⟩ := h
  exact ⟨c, rest, htext, (Bool.or_eq_false_iff.mp hc).1⟩

end Text

namespace Token

/-- The first token of a text is the same if what is after whole tokens is replaced. -/
theorem first_append_of_replaces {other text : Text} (hreplaces : Text.Replaces other text)
    {c : Char} {rest later : Text} {token : Token}
    (h : first c (rest ++ other) = (token, later ++ other)) :
    first c (rest ++ text) = (token, later ++ text) := by
  obtain ⟨htake, hdrop⟩ :=
    Text.takeWhile_append_of_begins (Text.exists_not_isWord hreplaces.stops) rest
  obtain ⟨htake', hdrop'⟩ :=
    Text.takeWhile_append_of_begins (Text.exists_not_isWord hreplaces.begins) rest
  -- each kind of token is tried in turn, and fails before the one text as it does before the other
  by_cases hdirective : c = '@' ∧ rest.takeWhile Text.isWord ≠ []
  · rw [first, htake, if_pos hdirective, hdrop] at h
    obtain ⟨rfl, hlater⟩ := Prod.mk.inj h
    rw [first, htake', if_pos hdirective, hdrop', List.append_cancel_right hlater]
  · rw [first, htake, if_neg hdirective] at h
    rw [first, htake', if_neg hdirective]
    cases hquoted : Text.quoted? (c :: (rest ++ other)) with
    | some parts =>
      obtain ⟨inside, after⟩ := parts
      rw [hquoted] at h
      obtain ⟨rfl, rfl⟩ := Prod.mk.inj h
      rw [Text.quoted?_append_of_some hquoted text]
    | none =>
      rw [hquoted] at h
      rw [hreplaces.quoted?_eq_none hquoted]
      dsimp only at h ⊢
      by_cases hname : Text.isNamePart c = true
      · obtain ⟨hword, hmore⟩ := Text.takeWhile_append_of_begins hreplaces.stops rest
        obtain ⟨hword', hmore'⟩ := Text.takeWhile_append_of_begins hreplaces.begins rest
        rw [if_pos hname, hword, hmore] at h
        obtain ⟨rfl, hlater⟩ := Prod.mk.inj h
        rw [if_pos hname, hword', hmore', List.append_cancel_right hlater]
      · rw [if_neg hname] at h
        obtain ⟨rfl, hlater⟩ := Prod.mk.inj h
        rw [if_neg hname, List.append_cancel_right hlater]

end Token

/-- The tokens of a text are the same up to a boundary if what is after it is replaced. -/
theorem tokenize_append_of_replaces {other text : Text} (hreplaces : Text.Replaces other text)
    {front back : List Token}
    (h : tokenize (front.flatMap Token.value ++ other) = front ++ back) :
    tokenize (front.flatMap Token.value ++ text) = front ++ tokenize text := by
  induction front with
  | nil => rfl
  | cons token front ih =>
    have hne : token.value ≠ [] := by
      rw [← List.nil_append (token :: front ++ back)] at h
      exact (calledFor_of_append h).value_ne_nil
    obtain ⟨c, value, hvalue⟩ := List.exists_cons_of_ne_nil hne
    have hwhole (tail : Text) : (token :: front).flatMap Token.value ++ tail =
        c :: ((value ++ front.flatMap Token.value) ++ tail) := by
      rw [List.flatMap_cons, hvalue, List.cons_append, List.cons_append]
    rw [hwhole, tokenize_cons, List.cons_append, List.cons.injEq] at h
    -- the first token goes up to the next one, and no further
    have hlater : (Token.first c ((value ++ front.flatMap Token.value) ++ other)).2 =
        front.flatMap Token.value ++ other := by
      have happend := Token.first_append c ((value ++ front.flatMap Token.value) ++ other)
      rw [h.1, hvalue, List.cons_append, List.cons.injEq] at happend
      exact List.append_cancel_left (happend.2.trans (List.append_assoc _ _ _))
    have hfirst := Token.first_append_of_replaces hreplaces (Prod.ext h.1 hlater)
    rw [hlater] at h
    rw [hwhole, tokenize_cons, hfirst, ih h.2, List.cons_append]

/-- A string in front of a text is its first token. -/
theorem tokenize_quotedBy_append {quote : Char} {inside : Text}
    (hquote : quote = '"' ∨ quote = '\'') (hnone : quote ∉ inside) (hline : '\n' ∉ inside)
    (after : Text) :
    tokenize (Text.quotedBy quote inside ++ after) =
      ⟨.string, Text.quotedBy quote inside⟩ :: tokenize after := by
  have hat : ¬ (quote = '@' ∧ (inside ++ [quote] ++ after).takeWhile Text.isWord ≠ []) := by
    rintro ⟨rfl, -⟩
    simp at hquote
  have hclosed : Text.quoted? (quote :: (inside ++ [quote] ++ after)) = some (inside, after) := by
    rw [Text.quoted?, if_pos hquote, List.append_assoc]
    exact Text.closeQuote?_append_quote hnone hline after
  rw [Text.quotedBy, List.cons_append, tokenize_cons, Token.first, if_neg hat, hclosed]
  rfl

/-- The tokens of a text in which the inside of a string is replaced. -/
theorem tokenize_refilled {quote : Char} {inside content : Text} {front back : List Token}
    (hquote : quote = '"' ∨ quote = '\'') (hinside : '\n' ∉ inside)
    (hcontent : Text.IsQuotable content)
    (h : tokenize (front.flatMap Token.value ++
      (Text.quotedBy quote inside ++ back.flatMap Token.value)) =
        front ++ ⟨.string, Text.quotedBy quote inside⟩ :: back) :
    tokenize (front.flatMap Token.value ++
      (Text.quotedBy quote content ++ back.flatMap Token.value)) =
        front ++ ⟨.string, Text.quotedBy quote content⟩ :: back := by
  have hback : tokenize (back.flatMap Token.value) = back :=
    tokenize_of_append (h.trans (List.append_cons _ _ _))
  rw [tokenize_append_of_replaces (Text.replaces_quotedBy hquote hinside hcontent _) h,
    tokenize_quotedBy_append hquote (hcontent.notMem hquote) hcontent.noLine, hback]

/-- A string that is called for is a text between two quotes. -/
theorem Token.CalledFor.exists_quotedBy {text : Text} {token : Token} (h : CalledFor text token)
    (hkind : token.kind = .string) :
    ∃ quote inside, (quote = '"' ∨ quote = '\'') ∧ '\n' ∉ inside ∧
      token = ⟨.string, Text.quotedBy quote inside⟩ := by
  cases h with
  | string _ hstring =>
    obtain ⟨quote, inside, after, hquote, -, hline, -, rfl⟩ := hstring
    exact ⟨quote, inside, hquote, hline, rfl⟩
  | directive => cases hkind
  | word => cases hkind
  | char => cases hkind

/-- The text with other characters between the quotes of a string that is one of its tokens. -/
def PlacedToken.refill (token : PlacedToken) (content text : Text) : Text :=
  Text.splice content (token.value.length - 2) (token.position + 1) text

/-- A token of a text stands between the text of the tokens before it and that of those after it. -/
theorem eq_append_of_tokenizePlaced {text : Text} {front back : List PlacedToken}
    {token : PlacedToken} (h : tokenizePlaced text = front ++ token :: back) :
    text = (front.map PlacedToken.toToken).flatMap Token.value ++
        (token.value ++ (back.map PlacedToken.toToken).flatMap Token.value) ∧
      token.position = ((front.map PlacedToken.toToken).flatMap Token.value).length := by
  constructor
  · rw [← List.flatMap_cons, ← List.flatMap_append, ← List.map_cons,
      ← tokenize_of_tokenizePlaced h, flatMap_value_tokenize]
  · rw [length_flatMap_value]
    exact (isSegmentation_tokenizePlaced text).placed front token back h

/-- A piece takes the place of another one between two texts. -/
theorem Text.splice_append (piece front removed back : Text) :
    splice piece removed.length front.length (front ++ (removed ++ back)) =
      front ++ (piece ++ back) := by
  rw [splice_eq, List.take_left, ← List.length_append, ← List.append_assoc front removed,
    List.drop_left, List.append_assoc]

/-- A string of a text is refilled between its quotes. -/
theorem refill_of_quotedBy {token : PlacedToken} {quote : Char} {inside front : Text}
    (hvalue : token.value = Text.quotedBy quote inside) (hposition : token.position = front.length)
    (content back : Text) :
    token.refill content (front ++ (token.value ++ back)) =
      front ++ (Text.quotedBy quote content ++ back) := by
  have hwhole (text : Text) : front ++ (Text.quotedBy quote text ++ back) =
      (front ++ [quote]) ++ (text ++ quote :: back) := by
    simp [Text.quotedBy]
  have hlength : token.value.length - 2 = inside.length := by
    simp [hvalue, Text.quotedBy]
  have hopened : token.position + 1 = (front ++ [quote]).length := by
    simp [hposition]
  rw [PlacedToken.refill, hlength, hopened, hvalue, hwhole, hwhole, Text.splice_append]

/-- With another inside, a string of a text is still one of its tokens, and the others are as they
were. -/
theorem exists_tokenize_refill {text : Text} {token : PlacedToken}
    (htoken : token ∈ tokenizePlaced text) (hkind : token.kind = .string) :
    ∃ quote inside front back, (quote = '"' ∨ quote = '\'') ∧
      token.toToken = ⟨.string, Text.quotedBy quote inside⟩ ∧
      tokenize text = front ++ token.toToken :: back ∧
      text.take token.position = front.flatMap Token.value ∧
      text.drop (token.position + token.value.length) = back.flatMap Token.value ∧
      ∀ content, Text.IsQuotable content → tokenize (token.refill content text) =
        front ++ ⟨.string, Text.quotedBy quote content⟩ :: back := by
  obtain ⟨quote, inside, hquote, hline, hstring⟩ :=
    ((isSegmentation_tokenizePlaced text).calledFor token htoken).exists_quotedBy hkind
  have hvalue : token.value = Text.quotedBy quote inside := congrArg Token.value hstring
  obtain ⟨front, back, hsplit⟩ := List.append_of_mem htoken
  obtain ⟨htext, hposition⟩ := eq_append_of_tokenizePlaced hsplit
  have htokens := tokenize_of_tokenizePlaced hsplit
  rw [List.map_cons] at htokens
  refine ⟨quote, inside, front.map PlacedToken.toToken, back.map PlacedToken.toToken, hquote,
    hstring, htokens, ?_, ?_, fun content hcontent => ?_⟩
  · rw [hposition]
    nth_rewrite 1 [htext]
    exact List.take_left
  · rw [hposition, ← List.length_append]
    nth_rewrite 1 [htext]
    rw [← List.append_assoc, List.drop_left]
  · rw [htext, hvalue, hstring] at htokens
    rw [htext, refill_of_quotedBy hvalue hposition]
    exact tokenize_refilled hquote hline hcontent htokens

end TextMacro
