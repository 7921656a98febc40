import TextMacro.Highlight
import TextMacro.Proofs.CharacterOrigin
import TextMacro.Proofs.Replacement

/-!
# The normal form of a body

Before a body is shown, a byte order mark in front of it is dropped, its line ends are turned into
line feeds, and the line feeds at its ends are taken away. Each of these can be said without saying
how it is done: a mark is there or not, carriage returns are replaced as any name is, and what is
left of a text between line feeds neither begins nor ends with one. In this way every text has one
normal form, and no character but a line feed is in it that is not in the text.
-/

namespace TextMacro.Highlight

variable {c : Char} {text : Text}

/-- A text without the byte order mark in front, if there is one. -/
def IsUnmarked (text unmarked : Text) : Prop :=
  text = '\uFEFF' :: unmarked ∨ text = unmarked ∧ text.head? ≠ some '\uFEFF'

/-- A text without the line feeds at its ends. -/
structure IsTrimmed (text plain : Text) : Prop where
  padded : ∃ front back, text = List.replicate front '\n' ++ plain ++ List.replicate back '\n'
  begins : plain.head? ≠ some '\n'
  ends : plain.getLast? ≠ some '\n'

/-- A text without a byte order mark in front, with line feeds for its line ends, and without line
feeds at its ends. -/
def IsNormalForm (text plain : Text) : Prop :=
  ∃ unmarked, IsUnmarked text unmarked ∧
    IsTrimmed (Text.replaceAll ['\r'] ['\n'] (Text.replaceAll ['\r', '\n'] ['\n'] unmarked)) plain

/-- One mark is dropped in front of a text. -/
theorem isUnmarked_iff (text unmarked : Text) :
    IsUnmarked text unmarked ↔ unmarked = Text.dropMark text := by
  cases text with
  | nil => simp [IsUnmarked, Text.dropMark, eq_comm]
  | cons c cs => by_cases hc : c = '\uFEFF' <;> simp [IsUnmarked, Text.dropMark, hc, eq_comm]

/-- Carriage returns are replaced with line feeds, first those before line feeds and then all
others. -/
theorem lineFeedsOnly_eq_replaceAll (text : Text) :
    Text.lineFeedsOnly text =
      Text.replaceAll ['\r'] ['\n'] (Text.replaceAll ['\r', '\n'] ['\n'] text) := by
  have hreturn : ['\r'] ≠ [] := List.cons_ne_nil _ _
  have hpair : ['\r', '\n'] ≠ [] := List.cons_ne_nil _ _
  fun_induction Text.lineFeedsOnly text with
  | case1 => decide +kernel
  | case2 cs ih =>
    rw [ih, Text.replaceAll_cons hpair, if_pos (by simp), List.singleton_append,
      Text.replaceAll_cons hreturn, if_neg (by simp)]
    rfl
  | case3 c cs halone ih =>
    have hkept : ¬ ['\r', '\n'].isPrefixOf (c :: cs) = true := by
      rw [List.isPrefixOf_iff_prefix]
      rintro ⟨rest, hrest⟩
      obtain ⟨rfl, rfl⟩ := List.cons.inj hrest
      exact halone rest rfl rfl
    rw [ih, Text.replaceAll_cons hpair, if_neg hkept, Text.replaceAll_cons hreturn]
    by_cases hc : c = '\r'
    · simp [hc]
    · simp [hc, Ne.symm hc]

/-- The line feeds in front of a text are dropped, and nothing after them. -/
theorem dropWhile_replicate_append (h : text.head? ≠ some '\n') (count : Nat) :
    (List.replicate count '\n' ++ text).dropWhile (· == '\n') = text := by
  rw [List.dropWhile_append_of_pos (by simp)]
  cases text with
  | nil => rfl
  | cons c cs => exact List.dropWhile_cons_of_neg (by simpa using h)

/-- The line feeds at the end of a text are dropped, and nothing before them. -/
theorem trimEnd_append_replicate (h : text.getLast? ≠ some '\n') (count : Nat) :
    trimEnd (text ++ List.replicate count '\n') = text := by
  rw [← List.head?_reverse] at h
  rw [trimEnd, List.reverse_append, List.reverse_replicate, dropWhile_replicate_append h,
    List.reverse_reverse]

/-- What is dropped in front of a text are line feeds, and all of them. -/
theorem exists_replicate_append_dropWhile (text : Text) :
    ∃ count, text = List.replicate count '\n' ++ text.dropWhile (· == '\n') ∧
      (text.dropWhile (· == '\n')).head? ≠ some '\n' := by
  refine ⟨(text.takeWhile (· == '\n')).length, ?_, ?_⟩
  · have hall : ∀ c ∈ text.takeWhile (· == '\n'), c = '\n' := by
      intro c hc
      exact beq_iff_eq.mp (List.all_eq_true.mp List.all_takeWhile c hc)
    rw [← List.eq_replicate_of_mem hall, List.takeWhile_append_dropWhile]
  · intro hhead
    have hnot := List.head?_dropWhile_not (· == '\n') text
    rw [hhead] at hnot
    simp at hnot

/-- What is dropped at the end of a text are line feeds, and all of them. -/
theorem exists_trimEnd_append_replicate (text : Text) :
    ∃ count, text = trimEnd text ++ List.replicate count '\n' ∧
      (trimEnd text).getLast? ≠ some '\n' := by
  obtain ⟨count, htext, hhead⟩ := exists_replicate_append_dropWhile text.reverse
  refine ⟨count, ?_, ?_⟩
  · have hreverse := congrArg List.reverse htext
    rwa [List.reverse_append, List.reverse_replicate, List.reverse_reverse] at hreverse
  · rwa [trimEnd, List.getLast?_reverse]

/-- A text is trimmed in one way. -/
theorem isTrimmed_iff (text plain : Text) : IsTrimmed text plain ↔ plain = trim text := by
  constructor
  · rintro ⟨⟨front, back, rfl⟩, hbegins, hends⟩
    cases plain with
    | nil =>
      -- all line feeds are in front, and none is left to be taken from the end
      rw [List.append_nil, List.replicate_append_replicate, trim, List.dropWhile_replicate]
      rfl
    | cons c cs =>
      have hstarts : (c :: cs ++ List.replicate back '\n').head? ≠ some '\n' := hbegins
      rw [trim, List.append_assoc, dropWhile_replicate_append hstarts,
        trimEnd_append_replicate hends]
  · rintro rfl
    obtain ⟨front, hfront, hbegins⟩ := exists_replicate_append_dropWhile text
    obtain ⟨back, hback, hends⟩ : ∃ back,
        text.dropWhile (· == '\n') = trim text ++ List.replicate back '\n' ∧
          (trim text).getLast? ≠ some '\n' :=
      exists_trimEnd_append_replicate _
    refine ⟨⟨front, back, ?_⟩, fun hhead => hbegins ?_, hends⟩
    · rw [List.append_assoc, ← hback, ← hfront]
    · rw [hback, List.head?_append, hhead, Option.some_or]

/-- Every text has one normal form. -/
theorem isNormalForm_iff (text plain : Text) :
    IsNormalForm text plain ↔ plain = normalize text := by
  simp only [IsNormalForm, isUnmarked_iff, isTrimmed_iff, ← lineFeedsOnly_eq_replaceAll,
    exists_eq_left, normalize]

/-- The characters of a normal form are those of the text, apart from line feeds. -/
theorem mem_of_mem_normalize (hc : c ≠ '\n') (h : c ∈ normalize text) : c ∈ text := by
  obtain ⟨unmarked, hmark, ⟨front, back, hpadded⟩, -, -⟩ := (isNormalForm_iff text _).mpr rfl
  have hunmarked : c ∈ unmarked := by
    have hreplaced := List.mem_append_left (List.replicate back '\n')
      (List.mem_append_right (List.replicate front '\n') h)
    rw [← hpadded] at hreplaced
    have hpairs := (List.mem_cons.mp (Text.replaceAll_subset _ _ _ hreplaced)).resolve_left hc
    exact (List.mem_cons.mp (Text.replaceAll_subset _ _ _ hpairs)).resolve_left hc
  rcases hmark with rfl | ⟨rfl, -⟩
  · exact List.mem_cons_of_mem _ hunmarked
  · exact hunmarked

end TextMacro.Highlight
