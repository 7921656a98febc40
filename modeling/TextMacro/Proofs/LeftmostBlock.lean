import Mathlib.Order.Bounds.Basic
import TextMacro.Proofs.Occurrence

/-!
# The leftmost, shortest block

Which block is found can be said by offsets alone. It begins at the least offset at which an opening
marker stands that is followed by a closing one, and it ends with the closing marker at the least
offset after that opening marker. Nothing is asked of the markers: they may be empty, and they may
overlap themselves and each other.

The text before the offset from which the search starts has no say in this.
-/

namespace TextMacro

namespace Text

variable {pattern text : Text} {offset : Nat}

/-- A pattern stands in a text at an offset. -/
def OccursAt (pattern text : Text) (offset : Nat) : Prop :=
  offset ≤ text.length ∧ pattern <+: text.drop offset

/-- A pattern stands where the text before it ends. -/
theorem occursAt_length (before pattern after : Text) :
    OccursAt pattern (before ++ (pattern ++ after)) before.length := by
  constructor
  · rw [List.length_append]
    exact Nat.le_add_right _ _
  · rw [List.drop_left]
    exact List.prefix_append pattern after

/-- Where a pattern stands, the text is divided into what is before it, the pattern and the rest. -/
theorem OccursAt.exists_append (h : OccursAt pattern text offset) :
    ∃ before after, before.length = offset ∧ text = before ++ (pattern ++ after) := by
  obtain ⟨hle, after, hafter⟩ := h
  refine ⟨text.take offset, after, ?_, ?_⟩
  · rw [List.length_take, Nat.min_eq_left hle]
  · rw [hafter, List.take_append_drop]

/-- A pattern stands in what follows an offset where it stands in the text. -/
theorem occursAt_drop_iff {start : Nat} (hstart : start ≤ text.length) :
    OccursAt pattern (text.drop start) offset ↔ OccursAt pattern text (start + offset) := by
  rw [OccursAt, OccursAt, List.drop_drop, List.length_drop, Nat.le_sub_iff_add_le' hstart]

/-- The occurrence that is found is the one at the least offset. -/
theorem isLeast_of_cut? {before after : Text} (h : cut? pattern text = some (before, after)) :
    IsLeast {offset | OccursAt pattern text offset} before.length := by
  constructor
  · have htext := append_of_cut? h
    rw [List.append_assoc] at htext
    rw [← htext]
    exact occursAt_length before pattern after
  · intro offset hoccurs
    obtain ⟨left, right, rfl, htext⟩ := OccursAt.exists_append hoccurs
    rw [← List.append_assoc] at htext
    exact length_le_of_cut? h htext

end Text

namespace Markers

variable {markers : Markers} {text : Text} {start offset : Nat} {block : Block}

/-- An opening marker stands at one offset, and at or after its end a closing marker stands at
another one. -/
structure Encloses (markers : Markers) (text : Text) (offset close : Nat) : Prop where
  opens : Text.OccursAt markers.opening text offset
  follows : offset + markers.opening.length ≤ close
  closes : Text.OccursAt markers.closing text close

/-- A block stands where an opening marker is followed by a closing one. -/
theorem blockAt_iff_encloses :
    markers.BlockAt text offset ↔ ∃ close, markers.Encloses text offset close := by
  constructor
  · rintro ⟨before, body, after, rfl, rfl⟩
    refine ⟨(before ++ markers.opening ++ body).length, ?_, ?_, ?_⟩
    · simp only [List.append_assoc]
      exact Text.occursAt_length _ _ _
    · simp only [List.length_append]
      omega
    · have hparts : before ++ (markers.opening ++ body ++ markers.closing ++ after) =
          before ++ markers.opening ++ body ++ (markers.closing ++ after) := by
        simp only [List.append_assoc]
      rw [hparts]
      exact Text.occursAt_length _ _ _
  · rintro ⟨close, hopens, hfollows, hcloses⟩
    obtain ⟨before, rest, rfl, rfl⟩ := hopens.exists_append
    have hinside : before.length + markers.opening.length ≤
        (before ++ (markers.opening ++ rest)).length := by
      simp only [List.length_append]
      omega
    have hrest : (before ++ (markers.opening ++ rest)).drop
        (before.length + markers.opening.length) = rest := by
      rw [← List.length_append, ← List.append_assoc, List.drop_left]
    rw [← Nat.add_sub_cancel' hfollows, ← Text.occursAt_drop_iff hinside, hrest] at hcloses
    obtain ⟨body, after, -, rfl⟩ := hcloses.exists_append
    refine ⟨before, body, after, rfl, ?_⟩
    simp only [List.append_assoc]

/-- A block of a text that is the first one from an offset on: it begins at the least offset that
is enclosed, it ends with the closing marker at the least offset, and it consists of the markers and
its body. -/
structure IsFirstBlock (markers : Markers) (text : Text) (start : Nat) (block : Block) : Prop where
  leftmost : IsLeast {offset | start ≤ offset ∧ ∃ close, markers.Encloses text offset close}
    block.start
  shortest : ∃ close, IsLeast {close | markers.Encloses text block.start close} close ∧
    block.stop = close + markers.closing.length
  parts : (text.take block.stop).drop block.start =
    markers.opening ++ block.body ++ markers.closing

/-- There is one first block. -/
theorem IsFirstBlock.unique {block' : Block} (h : markers.IsFirstBlock text start block)
    (h' : markers.IsFirstBlock text start block') : block = block' := by
  have hstart : block.start = block'.start := h.leftmost.unique h'.leftmost
  have hstop : block.stop = block'.stop := by
    obtain ⟨close, hclose, hend⟩ := h.shortest
    obtain ⟨close', hclose', hend'⟩ := h'.shortest
    rw [← hstart] at hclose'
    rw [hend, hend', hclose.unique hclose']
  have hbody : block.body = block'.body := by
    have hparts := h'.parts
    rw [← hstart, ← hstop, h.parts] at hparts
    exact List.append_cancel_left (List.append_cancel_right hparts)
  obtain ⟨begin, stop, body⟩ := block
  rw [Block.mk.injEq]
  exact ⟨hstart, hstop, hbody⟩

/-- Where a block is found from an offset on, the text is divided into what is before it, its parts
and the rest. -/
theorem exists_append_of_find? (hstart : start ≤ text.length)
    (h : markers.find? text start = some block) :
    ∃ before after, text = before ++ (markers.opening ++ block.body ++ markers.closing ++ after) ∧
      before.length = block.start ∧ start ≤ block.start ∧
      block.stop = block.start + (markers.opening ++ block.body ++ markers.closing).length ∧
      Text.cut? markers.closing (block.body ++ markers.closing ++ after) =
        some (block.body, after) := by
  obtain ⟨gap, after, hdrop, hbegin, -, hle, hafter, -, hclose⟩ := find?_eq_some hstart h
  have hlength := congrArg List.length hdrop
  have hrest := congrArg List.length hafter
  simp only [List.length_append, List.length_drop] at hlength hrest
  refine ⟨text.take start ++ gap, after, ?_, ?_, ?_, ?_, hclose⟩
  · rw [List.append_assoc, ← hdrop, List.take_append_drop]
  · rw [List.length_append, List.length_take, Nat.min_eq_left hstart, hbegin]
  · omega
  · simp only [List.length_append]
    omega

/-- A block that is found ends with the first closing marker after its opening marker. -/
theorem isLeast_close_of_find? (hstart : start ≤ text.length)
    (h : markers.find? text start = some block) :
    IsLeast {close | markers.Encloses text block.start close}
      (block.start + markers.opening.length + block.body.length) := by
  obtain ⟨before, after, rfl, hbefore, -, -, hclose⟩ := exists_append_of_find? hstart h
  have hinside : block.start + markers.opening.length ≤
      (before ++ (markers.opening ++ block.body ++ markers.closing ++ after)).length := by
    simp only [List.length_append]
    omega
  have hrest : (before ++ (markers.opening ++ block.body ++ markers.closing ++ after)).drop
      (block.start + markers.opening.length) = block.body ++ markers.closing ++ after := by
    rw [← hbefore, ← List.drop_drop, List.drop_left]
    simp only [List.append_assoc, List.drop_left]
  have hleast := Text.isLeast_of_cut? hclose
  rw [← hrest] at hleast
  constructor
  · refine ⟨?_, Nat.le_add_right _ _, (Text.occursAt_drop_iff hinside).mp hleast.1⟩
    rw [← hbefore]
    simp only [List.append_assoc]
    exact Text.occursAt_length _ _ _
  · intro close hencloses
    have hcloses := hencloses.closes
    rw [← Nat.add_sub_cancel' hencloses.follows, ← Text.occursAt_drop_iff hinside] at hcloses
    have hle : block.body.length ≤ close - (block.start + markers.opening.length) :=
      hleast.2 hcloses
    have hfollows := hencloses.follows
    omega

/-- The block that is found is the first one. -/
theorem isFirstBlock_of_find? (hstart : start ≤ text.length)
    (h : markers.find? text start = some block) : markers.IsFirstBlock text start block := by
  have hclose := isLeast_close_of_find? hstart h
  obtain ⟨before, after, htext, hbefore, hle, hstop, -⟩ := exists_append_of_find? hstart h
  refine ⟨⟨⟨hle, _, hclose.1⟩, ?_⟩, ⟨_, hclose, ?_⟩, ?_⟩
  · rintro offset ⟨hoffset, hencloses⟩
    apply Nat.le_of_not_lt
    intro hlt
    exact not_blockAt_of_find?_eq_some hstart h hoffset hlt (blockAt_iff_encloses.mpr hencloses)
  · rw [hstop]
    simp only [List.length_append, Nat.add_assoc]
  · rw [← List.append_assoc] at htext
    rw [htext, hstop, ← hbefore, ← List.length_append, List.take_left, List.drop_left]

/-- A search from an offset on finds the first block from there on, and nothing only where no
opening marker is followed by a closing one; it finds what a search through the rest of the text
finds, at offsets counted from there. -/
theorem find?_iff_isFirstBlock (markers : Markers) (text : Text) (start : Nat)
    (hstart : start ≤ text.length) :
    (markers.find? text start = none ↔
      ¬ ∃ offset, start ≤ offset ∧ ∃ close, markers.Encloses text offset close) ∧
    (∀ block, markers.find? text start = some block ↔ markers.IsFirstBlock text start block) ∧
    markers.find? text start = (markers.find? (text.drop start) 0).map (Block.shift start) := by
  have hnone : markers.find? text start = none ↔
      ¬ ∃ offset, start ≤ offset ∧ ∃ close, markers.Encloses text offset close := by
    rw [find?_eq_none_iff, Nat.min_eq_left hstart]
    simp only [blockAt_iff_encloses, not_exists, not_and]
  refine ⟨hnone, fun block => ⟨isFirstBlock_of_find? hstart, fun hfirst => ?_⟩, ?_⟩
  · cases hfind : markers.find? text start with
    | none =>
      obtain ⟨⟨hle, close, hencloses⟩, -⟩ := hfirst.leftmost
      exact absurd ⟨block.start, hle, close, hencloses⟩ (hnone.mp hfind)
    | some found => rw [(isFirstBlock_of_find? hstart hfind).unique hfirst]
  · rw [find?_eq, find?_eq, Nat.min_eq_left hstart, List.drop_zero, Nat.zero_min, Option.map_map]
    congr 1
    funext block
    simp [Block.shift]

/-- Markers that overlap each other and themselves. -/
def overlapping : Markers := ⟨"aa".toList, "ab".toList⟩

/-- Of three opening markers that overlap, the first one counts from each offset on; the closing
marker that overlaps the last one is found only where it does not overlap the one that counts. After
the last closing marker there is nothing to find. -/
theorem overlapping_found :
    overlapping.find? "aaaab.ab".toList 1 = some ⟨1, 5, []⟩ ∧
    overlapping.find? "aaaab.ab".toList 2 = some ⟨2, 8, "b.".toList⟩ ∧
    overlapping.IsFirstBlock "aaaab.ab".toList 1 ⟨1, 5, []⟩ ∧
    overlapping.IsFirstBlock "aaaab.ab".toList 2 ⟨2, 8, "b.".toList⟩ ∧
    ¬ ∃ offset, 3 ≤ offset ∧ ∃ close, overlapping.Encloses "aaaab.ab".toList offset close := by
  obtain ⟨-, hfirst, -⟩ := find?_iff_isFirstBlock overlapping "aaaab.ab".toList 1 (by decide)
  obtain ⟨-, hsecond, -⟩ := find?_iff_isFirstBlock overlapping "aaaab.ab".toList 2 (by decide)
  obtain ⟨hnone, -⟩ := find?_iff_isFirstBlock overlapping "aaaab.ab".toList 3 (by decide)
  have hone : overlapping.find? "aaaab.ab".toList 1 = some ⟨1, 5, []⟩ := by decide +kernel
  have htwo : overlapping.find? "aaaab.ab".toList 2 = some ⟨2, 8, "b.".toList⟩ := by decide +kernel
  exact ⟨hone, htwo, (hfirst _).mp hone, (hsecond _).mp htwo, hnone.mp (by decide +kernel)⟩

end Markers

end TextMacro
