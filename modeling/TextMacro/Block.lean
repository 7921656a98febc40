import TextMacro.Text.Search

/-!
# Directive blocks

A block is delimited by two literal markers. The block found in a text has the leftmost opening
marker that a closing marker follows, and it ends with the first closing marker after it. Markers
may be empty and may overlap each other.
-/

namespace TextMacro

/-- The literal texts that open and close a block. -/
structure Markers where
  opening : Text
  closing : Text
deriving DecidableEq, Repr

/-- A block of a text: the offset of its opening marker, the offset just past its closing marker,
and the text between the markers. -/
structure Block where
  start : Nat
  stop : Nat
  body : Text
deriving DecidableEq, Repr

namespace Block

/-- The same block in a text with `count` more characters in front. -/
def shift (count : Nat) (block : Block) : Block :=
  ⟨count + block.start, count + block.stop, block.body⟩

/-- The text with the block taken out. -/
def remove (block : Block) (text : Text) : Text :=
  Text.splice [] (block.stop - block.start) block.start text

/-- What stands before the block and after it is kept. -/
theorem remove_eq {block : Block} (h : block.start ≤ block.stop) (text : Text) :
    block.remove text = text.take block.start ++ text.drop block.stop := by
  simp [remove, Text.splice_eq, Nat.add_sub_cancel' h]

end Block

namespace Markers

/-- The first block of a text. -/
def first? (markers : Markers) (text : Text) : Option Block :=
  match Text.cut? markers.opening text with
  | none => none
  | some (before, rest) =>
    match Text.cut? markers.closing rest with
    | none => none
    | some (body, _) =>
      some ⟨before.length, before.length + markers.opening.length + body.length +
        markers.closing.length, body⟩

/-- The first block at or after an offset; an offset beyond the end of the text denotes its end. -/
def find? (markers : Markers) (text : Text) (start : Nat) : Option Block :=
  match text.drop start with
  | [] => (markers.first? []).map (Block.shift text.length)
  | c :: cs => (markers.first? (c :: cs)).map (Block.shift start)

/-- The block is searched for in what follows the offset. -/
theorem find?_eq (markers : Markers) (text : Text) (start : Nat) :
    markers.find? text start =
      (markers.first? (text.drop start)).map (Block.shift (min start text.length)) := by
  simp only [find?]
  split
  · next h => rw [h, Nat.min_eq_right (List.drop_eq_nil_iff.mp h)]
  · next c cs h =>
    have : start < text.length := by
      apply Nat.lt_of_not_le
      intro hle
      simp [List.drop_eq_nil_iff.mpr hle] at h
    rw [h, Nat.min_eq_left (Nat.le_of_lt this)]

end Markers

end TextMacro
