import TextMacro.Block

/-!
# Where patterns and blocks occur

A search finds the leftmost occurrence of its pattern, and nothing only where there is none. So
no block is found in a text exactly when nowhere in it an opening marker is followed by a closing
one. A pattern without borders cannot overlap itself: in front of an occurrence of it, another one
can only stand as a whole.
-/

namespace TextMacro

namespace Text

/-- Nothing is cut exactly where the pattern does not occur. -/
theorem cut?_eq_none_iff (pattern text : Text) :
    cut? pattern text = none ↔ ¬ pattern <:+: text := by
  induction text with
  | nil =>
    rw [cut?_nil, List.infix_nil]
    split <;> simp_all
  | cons c cs ih =>
    rw [cut?_cons, List.infix_cons_iff, not_or, ← ih, ← List.isPrefixOf_iff_prefix]
    split <;> simp_all

/-- The occurrence that is found is the leftmost one. -/
theorem length_le_of_cut? {pattern text before after left right : Text}
    (h : cut? pattern text = some (before, after)) (htext : text = left ++ pattern ++ right) :
    before.length ≤ left.length := by
  induction text generalizing before left with
  | nil =>
    have hlength := congrArg List.length (append_of_cut? h)
    simp only [List.length_append, List.length_nil] at hlength
    omega
  | cons c cs ih =>
    rw [cut?_cons] at h
    split at h
    · simp only [Option.some.injEq, Prod.mk.injEq] at h
      simp [← h.1]
    · next hfront =>
      simp only [Option.map_eq_some_iff, Prod.exists, Prod.mk.injEq] at h
      obtain ⟨front, rest, hcut, rfl, rfl⟩ := h
      cases left with
      | nil =>
        refine absurd (List.isPrefixOf_iff_prefix.mpr ?_) hfront
        exact ⟨right, htext.symm⟩
      | cons d left =>
        rw [List.cons_append, List.cons_append, List.cons.injEq] at htext
        exact Nat.succ_le_succ (ih hcut htext.2)

/-- An occurrence with none to its left is the one that is found. -/
theorem cut?_eq_some_of_leftmost {pattern before after : Text}
    (h : ∀ left right, before ++ pattern ++ after = left ++ pattern ++ right →
      before.length ≤ left.length) :
    cut? pattern (before ++ pattern ++ after) = some (before, after) := by
  cases hcut : cut? pattern (before ++ pattern ++ after) with
  | none =>
    rw [cut?_eq_none_iff] at hcut
    exact absurd ⟨before, after, rfl⟩ hcut
  | some parts =>
    obtain ⟨left, right⟩ := parts
    have hparts := append_of_cut? hcut
    have hle : before.length ≤ left.length := h left right hparts.symm
    have hge : left.length ≤ before.length := length_le_of_cut? hcut rfl
    rw [List.append_assoc, List.append_assoc] at hparts
    obtain ⟨rfl, hrest⟩ := List.append_inj hparts (Nat.le_antisymm hge hle)
    rw [List.append_cancel_left hrest]

/-- No end of the pattern, apart from the pattern and the empty text, is also a beginning of it. -/
def Unbordered (pattern : Text) : Prop :=
  ∀ piece, piece ≠ [] → piece <+: pattern → piece <:+ pattern → piece = pattern

/-- A pattern without borders is found where it stands, if it does not occur before. -/
theorem cut?_append_of_unbordered {pattern front rest : Text} (hpattern : Unbordered pattern)
    (hfront : ¬ pattern <:+: front) :
    cut? pattern (front ++ pattern ++ rest) = some (front, rest) := by
  apply cut?_eq_some_of_leftmost
  intro left right heq
  rw [List.append_assoc, List.append_assoc] at heq
  rcases List.append_eq_append_iff.mp heq with ⟨gap, rfl, -⟩ | ⟨gap, rfl, hover⟩
  · simp
  · rcases List.append_eq_append_iff.mp hover with ⟨piece, rfl, -⟩ | ⟨piece, hpiece, hrest⟩
    · exact absurd ⟨left, piece, by simp⟩ hfront
    · -- the two occurrences overlap in `piece`
      have hsuffix : piece <:+ pattern := ⟨gap, hpiece.symm⟩
      have hbegin : piece <+: pattern :=
        List.prefix_of_prefix_length_le ⟨right, hrest.symm⟩ (List.prefix_append pattern rest)
          hsuffix.length_le
      by_cases hnil : piece = []
      · subst hnil
        rw [List.append_nil] at hpiece
        subst hpiece
        exact absurd (List.suffix_append left _).isInfix hfront
      · have hlength := congrArg List.length hpiece
        rw [hpattern piece hnil hbegin hsuffix, List.length_append] at hlength
        rw [List.length_append]
        omega

end Text

namespace Markers

variable {markers : Markers} {text : Text}

/-- At an offset of a text, an opening marker stands and a closing marker follows it. -/
def BlockAt (markers : Markers) (text : Text) (offset : Nat) : Prop :=
  ∃ before body after, before.length = offset ∧
    text = before ++ (markers.opening ++ body ++ markers.closing ++ after)

/-- The block with the given body that begins at an offset. -/
def blockOf (markers : Markers) (start : Nat) (body : Text) : Block :=
  ⟨start, start + (markers.opening ++ body ++ markers.closing).length, body⟩

/-- What a found block is made of: the text before it, its markers and its body, and the text after
it; no block stands to its left, and its body ends at the first closing marker. -/
theorem first?_eq_some {block : Block} (h : markers.first? text = some block) :
    ∃ before after,
      text = before ++ (markers.opening ++ block.body ++ markers.closing ++ after) ∧
      block = markers.blockOf before.length block.body ∧
      Text.cut? markers.opening text =
        some (before, block.body ++ markers.closing ++ after) ∧
      Text.cut? markers.closing (block.body ++ markers.closing ++ after) =
        some (block.body, after) := by
  unfold first? at h
  split at h
  · simp at h
  · next before rest hopen =>
    split at h
    · simp at h
    · next body after hclose =>
      obtain rfl := Option.some.inj h
      have hrest := Text.append_of_cut? hclose
      have htext := Text.append_of_cut? hopen
      subst hrest
      refine ⟨before, after, ?_, ?_, hopen, hclose⟩
      · rw [← htext]
        simp only [List.append_assoc]
      · simp only [blockOf, List.length_append, Nat.add_assoc]

/-- The block that is found, given its opening marker and the closing marker after that. -/
theorem first?_of_cut? {before rest body after : Text}
    (hopen : Text.cut? markers.opening text = some (before, rest))
    (hclose : Text.cut? markers.closing rest = some (body, after)) :
    markers.first? text = some (markers.blockOf before.length body) := by
  rw [first?, hopen]
  dsimp only
  rw [hclose, blockOf]
  simp only [List.length_append, Nat.add_assoc]

/-- No block is found exactly where none stands. -/
theorem first?_eq_none_iff :
    markers.first? text = none ↔ ∀ offset, ¬ markers.BlockAt text offset := by
  constructor
  · rintro h _ ⟨before, body, after, rfl, rfl⟩
    unfold first? at h
    split at h
    · next hopen =>
      rw [Text.cut?_eq_none_iff] at hopen
      exact hopen ⟨before, body ++ markers.closing ++ after, by simp⟩
    · next left rest hopen =>
      -- the opening marker that is found stands no later than the one of the block
      have hblock : before ++ (markers.opening ++ body ++ markers.closing ++ after) =
          before ++ markers.opening ++ (body ++ markers.closing ++ after) := by
        simp only [List.append_assoc]
      have hle : left.length ≤ before.length := Text.length_le_of_cut? hopen hblock
      have htext := Text.append_of_cut? hopen
      have hlength := congrArg List.length htext
      simp only [List.length_append] at hlength
      have hsuffix : body ++ markers.closing ++ after <:+ rest := by
        refine List.suffix_of_suffix_length_le ⟨before ++ markers.opening, ?_⟩
          ⟨left ++ markers.opening, htext⟩ ?_
        · simp only [List.append_assoc]
        · simp only [List.length_append]
          omega
      split at h
      · next hclose =>
        rw [Text.cut?_eq_none_iff] at hclose
        exact hclose (List.IsInfix.trans ⟨body, after, rfl⟩ hsuffix.isInfix)
      · simp at h
  · intro h
    cases hfirst : markers.first? text with
    | none => rfl
    | some block =>
      obtain ⟨before, after, htext, -⟩ := first?_eq_some hfirst
      exact absurd ⟨before, block.body, after, rfl, htext⟩ (h before.length)

/-- The blocks of what follows an offset are those that stand at or after it. -/
theorem blockAt_drop_iff {start offset : Nat} :
    markers.BlockAt (text.drop start) offset ↔
      markers.BlockAt text (min start text.length + offset) := by
  constructor
  · rintro ⟨before, body, after, rfl, heq⟩
    refine ⟨text.take start ++ before, body, after, ?_, ?_⟩
    · rw [List.length_append, List.length_take]
    · rw [List.append_assoc, ← heq, List.take_append_drop]
  · rintro ⟨before, body, after, hlength, rfl⟩
    refine ⟨before.drop start, body, after, ?_, ?_⟩
    · rw [List.length_append] at hlength
      rw [List.length_drop]
      omega
    · rw [List.drop_append]
      congr 1
      rw [List.length_append] at hlength
      by_cases hle : start ≤ before.length
      · rw [Nat.sub_eq_zero_of_le hle, List.drop_zero]
      · -- the offset is beyond the end, and the markers are empty
        have hnil : (markers.opening ++ body ++ markers.closing ++ after).length = 0 := by omega
        rw [List.length_eq_zero_iff.mp hnil, List.drop_nil]

/-- From an offset on, no block is found exactly where none stands at or after it. -/
theorem find?_eq_none_iff {start : Nat} :
    markers.find? text start = none ↔
      ∀ offset, min start text.length ≤ offset → ¬ markers.BlockAt text offset := by
  rw [find?_eq, Option.map_eq_none_iff, first?_eq_none_iff]
  constructor
  · intro h offset hle
    rw [← Nat.add_sub_cancel' hle, ← blockAt_drop_iff]
    exact h _
  · intro h offset
    rw [blockAt_drop_iff]
    exact h _ (Nat.le_add_right _ _)

/-- What a block found from an offset on is made of: the gap before it, its markers and its body,
and the text after it. -/
theorem find?_eq_some {start : Nat} {block : Block} (hstart : start ≤ text.length)
    (h : markers.find? text start = some block) :
    ∃ gap after,
      text.drop start = gap ++ (markers.opening ++ block.body ++ markers.closing ++ after) ∧
      block.start = start + gap.length ∧ block.start ≤ block.stop ∧ block.stop ≤ text.length ∧
      text.drop block.stop = after ∧
      Text.cut? markers.opening (text.drop start) =
        some (gap, block.body ++ markers.closing ++ after) ∧
      Text.cut? markers.closing (block.body ++ markers.closing ++ after) =
        some (block.body, after) := by
  rw [find?_eq, Nat.min_eq_left hstart, Option.map_eq_some_iff] at h
  obtain ⟨found, hfound, rfl⟩ := h
  obtain ⟨gap, after, htext, hblock, hopen, hclose⟩ := first?_eq_some hfound
  have hbegin : found.start = gap.length := congrArg Block.start hblock
  have hend : found.stop = (gap ++ (markers.opening ++ found.body ++ markers.closing)).length := by
    rw [List.length_append]
    exact congrArg Block.stop hblock
  have hlength := congrArg List.length htext
  simp only [List.length_append, List.length_drop] at hlength hend
  refine ⟨gap, after, htext, ?_, ?_, ?_, ?_, hopen, hclose⟩
  · simp only [Block.shift, hbegin]
  · simp only [Block.shift]
    omega
  · simp only [Block.shift]
    omega
  · simp only [Block.shift]
    rw [← List.drop_drop, htext, ← List.append_assoc]
    apply List.drop_left'
    simp only [List.length_append]
    omega

/-- A block stands where one is found. -/
theorem blockAt_of_find?_eq_some {start : Nat} {block : Block}
    (h : markers.find? text start = some block) : markers.BlockAt text block.start := by
  rw [find?_eq, Option.map_eq_some_iff] at h
  obtain ⟨found, hfound, rfl⟩ := h
  obtain ⟨before, after, htext, hblock, -⟩ := first?_eq_some hfound
  rw [Block.shift, ← blockAt_drop_iff]
  exact ⟨before, found.body, after, (congrArg Block.start hblock).symm, htext⟩

/-- A block that is found begins inside the text and does not end before it begins. -/
theorem start_le_of_find?_eq_some {start : Nat} {block : Block}
    (h : markers.find? text start = some block) :
    block.start ≤ text.length ∧ block.start ≤ block.stop := by
  constructor
  · obtain ⟨before, body, after, hlength, rfl⟩ := blockAt_of_find?_eq_some h
    simp only [← hlength, List.length_append]
    omega
  · rw [find?_eq, Option.map_eq_some_iff] at h
    obtain ⟨found, hfound, rfl⟩ := h
    obtain ⟨before, after, -, hblock, -⟩ := first?_eq_some hfound
    rw [hblock]
    simp only [Block.shift, blockOf]
    omega

/-- There is no block in the empty text. -/
theorem first?_nil (hopening : markers.opening ≠ []) : markers.first? [] = none := by
  rw [first?_eq_none_iff]
  rintro offset ⟨before, body, after, -, hnil⟩
  simp [hopening] at hnil

/-- A search that finds a block starts inside the text. -/
theorem le_length_of_find?_eq_some (hopening : markers.opening ≠ []) {start : Nat} {block : Block}
    (h : markers.find? text start = some block) : start ≤ text.length := by
  apply Nat.le_of_not_lt
  intro hlt
  rw [find?_eq, List.drop_eq_nil_of_le (Nat.le_of_lt hlt), first?_nil hopening] at h
  simp at h

/-- A block is found where the first one stands. -/
theorem not_blockAt_of_find?_eq_some {start offset : Nat} {block : Block}
    (hstart : start ≤ text.length) (h : markers.find? text start = some block)
    (hle : start ≤ offset) (hlt : offset < block.start) : ¬ markers.BlockAt text offset := by
  intro hblock
  obtain ⟨gap, after, -, hbegin, -, -, -, hopen, -⟩ := find?_eq_some hstart h
  rw [← Nat.add_sub_cancel' hle, ← Nat.min_eq_left hstart, ← blockAt_drop_iff,
    Nat.min_eq_left hstart] at hblock
  obtain ⟨before, body, rest, hlength, htext⟩ := hblock
  have hsplit : text.drop start =
      before ++ markers.opening ++ (body ++ markers.closing ++ rest) := by
    rw [htext]
    simp only [List.append_assoc]
  have hfirst : gap.length ≤ before.length := Text.length_le_of_cut? hopen hsplit
  omega

/-- A block after a text without opening marker is found from every offset in that text, if the
opening marker has no borders. -/
theorem find?_append_of_unbordered (hopening : Text.Unbordered markers.opening)
    {front rest body after : Text} {start : Nat} (hstart : start ≤ front.length)
    (hfront : ¬ markers.opening <:+: front)
    (hclose : Text.cut? markers.closing rest = some (body, after)) :
    markers.find? (front ++ markers.opening ++ rest) start =
      some (markers.blockOf front.length body) := by
  have hdrop : (front ++ markers.opening ++ rest).drop start =
      front.drop start ++ markers.opening ++ rest := by
    rw [List.append_assoc, List.drop_append_of_le_length hstart, List.append_assoc]
  have hlater : ¬ markers.opening <:+: front.drop start := by
    intro hoccurs
    exact hfront (hoccurs.trans (List.drop_suffix start front).isInfix)
  have hopen : Text.cut? markers.opening (front.drop start ++ markers.opening ++ rest) =
      some (front.drop start, rest) := Text.cut?_append_of_unbordered hopening hlater
  have hlength : min start (front ++ markers.opening ++ rest).length = start := by
    rw [List.length_append, List.length_append]
    omega
  rw [find?_eq, hdrop, first?_of_cut? hopen hclose, hlength, Option.map_some, Block.shift, blockOf,
    blockOf, List.length_drop]
  congr 2 <;> dsimp only <;> omega

/-- What stands before a block and after it is left when the block is taken out. -/
theorem remove_blockOf (markers : Markers) (before body after : Text) :
    (markers.blockOf before.length body).remove
      (before ++ (markers.opening ++ body ++ markers.closing ++ after)) = before ++ after := by
  have hle : (markers.blockOf before.length body).start ≤
      (markers.blockOf before.length body).stop := Nat.le_add_right _ _
  have hinside : before ++ (markers.opening ++ body ++ markers.closing ++ after) =
      before ++ (markers.opening ++ body ++ markers.closing) ++ after := by
    simp only [List.append_assoc]
  rw [Block.remove_eq hle]
  congr 1
  · exact List.take_left
  · rw [hinside, blockOf, ← List.length_append]
    exact List.drop_left

end Markers

end TextMacro
