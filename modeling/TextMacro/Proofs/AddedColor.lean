import TextMacro.Proofs.NormalForm
import TextMacro.Proofs.TokenBoundary

/-!
# Nothing but colour

A body that is shown in colour is cut into tokens, and each token into lines. Every piece is written
as it is, with sequences around it that set a colour and reset it. Such a sequence begins with an
escape character, so a text without this character gets all its sequences from being shown, and what
is left when they are deleted are the pieces one after another.

These make up the normal form of the text and the line feed that is added to it. That line feed is a
token of its own, as no token goes beyond a line feed, and it is a blank, so a sequence stands
before it; it is the only line feed that is removed from the end.
-/

namespace TextMacro.Highlight

/-- What follows the sequence that the text begins with: an escape character and a bracket, and what
comes up to the next `m`. -/
def afterSequence? : Text → Option Text
  | '\x1b' :: '[' :: rest => (Text.cut? ['m'] rest).map Prod.snd
  | _ => none

/-- What follows a sequence is shorter than the text. -/
theorem length_lt_of_afterSequence? {text rest : Text} (h : afterSequence? text = some rest) :
    rest.length < text.length := by
  unfold afterSequence? at h
  split at h
  · obtain ⟨⟨code, after⟩, hcut, rfl⟩ := Option.map_eq_some_iff.mp h
    have hlt := Text.length_lt_of_cut? (List.cons_ne_nil 'm' []) hcut
    simp only [List.length_cons]
    omega
  · cases h

/-- The text without its sequences, which are deleted from left to right. -/
def uncolored (text : Text) : Text :=
  match text with
  | [] => []
  | c :: cs =>
    match h : afterSequence? (c :: cs) with
    | some rest =>
      have := length_lt_of_afterSequence? h
      uncolored rest
    | none => c :: uncolored cs
termination_by text.length
decreasing_by
  · exact this
  · exact Nat.lt_succ_self cs.length

variable {c : Char} {text rest piece code line : Text}

/-- Nothing is left of the empty text. -/
@[simp]
theorem uncolored_nil : uncolored [] = [] := by
  rw [uncolored]

/-- A sequence that the text begins with is deleted. -/
theorem uncolored_of_afterSequence?_eq_some (h : afterSequence? (c :: text) = some rest) :
    uncolored (c :: text) = uncolored rest := by
  rw [uncolored]
  split
  · next hsome =>
    obtain rfl := Option.some.inj (h.symm.trans hsome)
    rfl
  · next hnone =>
    rw [h] at hnone
    cases hnone

/-- A character with which no sequence begins stays. -/
theorem uncolored_of_afterSequence?_eq_none (h : afterSequence? (c :: text) = none) :
    uncolored (c :: text) = c :: uncolored text := by
  rw [uncolored]
  split
  · next hsome =>
    rw [h] at hsome
    cases hsome
  · rfl

/-- A sequence goes up to the next `m`. -/
theorem uncolored_sequence (h : 'm' ∉ code) (rest : Text) :
    uncolored ('\x1b' :: '[' :: (code ++ 'm' :: rest)) = uncolored rest := by
  have hcut : Text.cut? ['m'] (code ++ 'm' :: rest) = some (code, rest) := by
    induction code with
    | nil => simp [Text.cut?_cons]
    | cons c code ih =>
      obtain ⟨hfirst, hlater⟩ := List.ne_and_not_mem_of_not_mem_cons h
      rw [List.cons_append, Text.cut?_cons, ih hlater]
      simp [hfirst]
  apply uncolored_of_afterSequence?_eq_some
  rw [afterSequence?, hcut]
  rfl

/-- A text that adds nothing but sequences to a plain one, none of which reaches into what
follows. -/
def OnlyColors (shown plain : Text) : Prop :=
  ∀ rest, uncolored (shown ++ rest) = plain ++ uncolored rest

/-- Texts that only add colours do so one after another. -/
theorem OnlyColors.append {shown plain shown' plain' : Text} (h : OnlyColors shown plain)
    (h' : OnlyColors shown' plain') : OnlyColors (shown ++ shown') (plain ++ plain') := by
  intro rest
  rw [List.append_assoc, h, h', List.append_assoc]

/-- Parts one after another only get colours, if each one does that is free of the escape
character. -/
theorem onlyColors_flatMap {α : Type} {shown plain : α → Text}
    (hpart : ∀ part, '\x1b' ∉ plain part → OnlyColors (shown part) (plain part))
    {parts : List α} (h : '\x1b' ∉ parts.flatMap plain) :
    OnlyColors (parts.flatMap shown) (parts.flatMap plain) := by
  induction parts with
  | nil => exact fun rest => rfl
  | cons part parts ih =>
    rw [List.flatMap_cons, List.mem_append, not_or] at h
    exact (hpart part h.1).append (ih h.2)

/-- A piece without the escape character stays as it is. -/
theorem onlyColors_of_notMem (h : '\x1b' ∉ piece) : OnlyColors piece piece := by
  intro rest
  induction piece with
  | nil => rfl
  | cons c piece ih =>
    obtain ⟨hfirst, hlater⟩ := List.ne_and_not_mem_of_not_mem_cons h
    have hnone : afterSequence? (c :: (piece ++ rest)) = none := by
      unfold afterSequence?
      split
      · next heq => exact absurd (List.cons.inj heq).1.symm hfirst
      · rfl
    rw [List.cons_append, uncolored_of_afterSequence?_eq_none hnone, ih hlater, List.cons_append]

/-- A piece that is set in a colour only gets this colour. -/
theorem onlyColors_paint (hcode : 'm' ∉ code) (hpiece : '\x1b' ∉ piece) :
    OnlyColors (paint code piece) piece := by
  intro rest
  have hreset : 'm' ∉ ['3', '9', ';', '4', '9', ';', '0', '0'] := by decide
  have hparts : paint code piece ++ rest = '\x1b' :: '[' :: (code ++ 'm' ::
      (piece ++ '\x1b' :: '[' :: (['3', '9', ';', '4', '9', ';', '0', '0'] ++ 'm' :: rest))) := by
    simp [paint]
  rw [hparts, uncolored_sequence hcode, onlyColors_of_notMem hpiece, uncolored_sequence hreset]

/-- No colour holds the letter that ends a sequence. -/
theorem notMem_of_color {token : Token} (h : color token = some code) : 'm' ∉ code := by
  unfold color at h
  split at h
  · cases h
    decide
  · cases h
    decide
  · cases h
  · split at h
    · cases h
      decide
    · cases h

/-- Without a colour, a line is shown as it is. -/
theorem showLine_none (line : Text) : showLine none line = line := by
  by_cases hlast : line.getLast? = some '\n'
  · obtain ⟨content, rfl⟩ := List.getLast?_eq_some_iff.mp hlast
    simp [showLine]
  · simp [showLine, hlast]

/-- In a colour, a line is shown with the colour before the line feed at its end. -/
theorem exists_showLine_some (code line : Text) :
    ∃ content ending, line = content ++ ending ∧
      showLine (some code) line = paint code content ++ ending := by
  by_cases hlast : line.getLast? = some '\n'
  · obtain ⟨content, rfl⟩ := List.getLast?_eq_some_iff.mp hlast
    exact ⟨content, ['\n'], rfl, by simp [showLine]⟩
  · exact ⟨line, [], by simp, by simp [showLine, hlast]⟩

/-- A line of a token only gets the colour of the token, if it has one. -/
theorem onlyColors_showLine (token : Token) (h : '\x1b' ∉ line) :
    OnlyColors (showLine (color token) line) line := by
  cases hcolor : color token with
  | none =>
    rw [showLine_none]
    exact onlyColors_of_notMem h
  | some code =>
    obtain ⟨content, ending, rfl, hshown⟩ := exists_showLine_some code line
    rw [List.mem_append, not_or] at h
    rw [hshown]
    exact (onlyColors_paint (notMem_of_color hcolor) h.1).append (onlyColors_of_notMem h.2)

/-- The lines of a text make it up. -/
theorem flatten_lines (text : Text) : (lines text).flatten = text := by
  induction text with
  | nil => rfl
  | cons c cs ih =>
    rw [lines]
    split
    · rw [List.flatten_cons, ih]
      rfl
    · split <;> next hlines =>
        rw [hlines] at ih
        rw [← ih]
        rfl

/-- A token only gets its colour, line by line. -/
theorem onlyColors_showToken (token : Token) (h : '\x1b' ∉ token.value) :
    OnlyColors (showToken token) token.value := by
  have hlines : (lines token.value).flatMap id = token.value := by
    rw [List.flatMap_id, flatten_lines]
  rw [← hlines] at h
  have hshown := onlyColors_flatMap (fun _ => onlyColors_showLine token) h
  rwa [hlines] at hshown

/-- A body is shown as its tokens and, for the line feed that is added and removed again, an empty
piece in the colour of a blank. -/
theorem body_eq (text : Text) :
    body text = (tokenize (normalize text)).flatMap showToken ++ paint ['3', '7'] [] := by
  have hlast : ((tokenize (normalize text)).flatMap showToken ++ paint ['3', '7'] []).getLast? ≠
      some '\n' := by
    simp [paint]
  have htrim := trimEnd_append_replicate hlast 1
  have htokens : tokenize (normalize text ++ ['\n']) =
      tokenize (normalize text) ++ [⟨.char, ['\n']⟩] := by
    rw [tokenize_append_blank rfl (Or.inl rfl), tokenize_nil]
  have hshown : showToken ⟨.char, ['\n']⟩ = paint ['3', '7'] [] ++ List.replicate 1 '\n' := by
    decide
  rw [body, htokens, List.flatMap_append, List.flatMap_singleton, hshown, ← List.append_assoc,
    htrim]

/-- The normal form of a body only gets colours. -/
theorem onlyColors_body (h : '\x1b' ∉ text) : OnlyColors (body text) (normalize text) := by
  have htokens : '\x1b' ∉ (tokenize (normalize text)).flatMap Token.value := by
    rw [flatMap_value_tokenize]
    exact fun hmem => h (mem_of_mem_normalize (by decide) hmem)
  have hshown := onlyColors_flatMap onlyColors_showToken htokens
  have hempty : OnlyColors (paint ['3', '7'] []) [] := onlyColors_paint (by decide) List.not_mem_nil
  have hbody := hshown.append hempty
  rwa [flatMap_value_tokenize, List.append_nil, ← body_eq] at hbody

/-- Each line of a token stands in the body as it is shown. -/
theorem showLine_infix_body {token : Token} (htoken : token ∈ tokenize (normalize text))
    (hline : line ∈ lines token.value) : showLine (color token) line <:+: body text := by
  have hinToken : showLine (color token) line <:+: showToken token := by
    rw [showToken, List.flatMap_def]
    exact List.infix_of_mem_flatten (List.mem_map_of_mem hline)
  have hinTokens : showToken token <:+: (tokenize (normalize text)).flatMap showToken := by
    rw [List.flatMap_def]
    exact List.infix_of_mem_flatten (List.mem_map_of_mem htoken)
  rw [body_eq]
  exact hinToken.trans (hinTokens.trans (List.prefix_append _ _).isInfix)

/-- Nothing but colour is added to a body: without the sequences that set a colour, it is the text
without a byte order mark in front, with line feeds for its line ends and without line feeds at its
ends, and otherwise as it was. And colour is added: each line of a token of this text that has a
colour is shown in it. -/
theorem body_only_adds_color (text : Text) (h : '\x1b' ∉ text) :
    (∀ plain, IsNormalForm text plain ↔ plain = uncolored (body text)) ∧
    ∀ token ∈ tokenize (uncolored (body text)), ∀ code, color token = some code →
      ∀ line ∈ lines token.value, showLine (some code) line <:+: body text := by
  have hbody := onlyColors_body h []
  rw [List.append_nil, uncolored_nil, List.append_nil] at hbody
  rw [hbody]
  refine ⟨fun plain => isNormalForm_iff text plain, ?_⟩
  intro token htoken code hcode line hline
  rw [← hcode]
  exact showLine_infix_body htoken hline

/-- A text with a mark in front, line feeds at both ends, line ends of two kinds, and two separators
of lines, one of them in a string. -/
def separated : Text :=
  "\uFEFF\r\n@inc 'a\u2028b'\x0b\r\nx\r".toList

/-- The string is coloured piece by piece, and nothing of it is lost: what is left without colour is
the normal form, in which both separators stand where they were. -/
theorem separated_uncolored :
    '\x1b' ∉ separated ∧
    body separated = ("\x1b[32m@inc\x1b[39;49;00m\x1b[37m \x1b[39;49;00m\x1b[33m'a\u2028" ++
      "\x1b[39;49;00m\x1b[33mb'\x1b[39;49;00m\x0b\x1b[37m\x1b[39;49;00m\nx" ++
      "\x1b[37m\x1b[39;49;00m").toList ∧
    IsNormalForm separated "@inc 'a\u2028b'\x0b\nx".toList ∧
    uncolored (body separated) = "@inc 'a\u2028b'\x0b\nx".toList := by
  have hfree : '\x1b' ∉ separated := by decide
  have hnormal : IsNormalForm separated "@inc 'a\u2028b'\x0b\nx".toList := by
    refine ⟨_, Or.inl rfl, ⟨1, 1, ?_⟩, ?_, ?_⟩
    · decide +kernel
    · decide
    · decide
  obtain ⟨hleft, -⟩ := body_only_adds_color separated hfree
  exact ⟨hfree, by decide +kernel, hnormal, ((hleft _).mp hnormal).symm⟩

end TextMacro.Highlight
