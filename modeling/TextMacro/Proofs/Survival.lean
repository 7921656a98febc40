import Mathlib.Data.List.Basic
import TextMacro.Proofs.Occurrence
import TextMacro.Proofs.Scanning

/-!
# Blocks in an expanded text

A scan ends where it finds no block, but it searches only from the offset at which the last block
began. So a built text can hold blocks, and they all begin before that offset. None does as long as
every block leaves what stood before it as it was and puts no opening marker across the offset at
which it began. A definition may break the first condition, for it replaces its name in the whole
text; taking out a block breaks the second one if it joins the parts of an opening marker.

A text without a block is left as it is when it is built again.
-/

namespace TextMacro

open Run Relation

namespace Markers

variable {markers : Markers}

/-- A block whose opening marker stands in the part that two texts share is one of both, if a
closing marker follows. -/
theorem blockAt_of_take_eq {text next : Text} {offset bound : Nat}
    (htake : next.take bound = text.take bound) (hinside : offset + markers.opening.length ≤ bound)
    (hclosing : markers.closing <:+: text.drop bound) (h : markers.BlockAt next offset) :
    markers.BlockAt text offset := by
  obtain ⟨before, body, after, rfl, rfl⟩ := h
  have hshared : before ++ markers.opening <+: text.take bound := by
    rw [← htake]
    refine (List.prefix_take_iff).mpr ⟨⟨body ++ markers.closing ++ after, ?_⟩, ?_⟩
    · simp only [List.append_assoc]
    · rw [List.length_append]
      exact hinside
  obtain ⟨rest, hrest⟩ := hshared
  obtain ⟨left, right, hclose⟩ := hclosing
  refine ⟨before, rest ++ left, right, rfl, ?_⟩
  calc text = text.take bound ++ text.drop bound := (List.take_append_drop bound text).symm
    _ = before ++ (markers.opening ++ (rest ++ left) ++ markers.closing ++ right) := by
      rw [← hrest, ← hclose]
      simp only [List.append_assoc]

end Markers

namespace Cursor

/-- No block begins before the offset of a cursor. -/
def Clean (markers : Markers) (cursor : Cursor) : Prop :=
  ∀ offset < cursor.position, ¬ markers.BlockAt cursor.text offset

/-- From one cursor to the next, the text before the offset is kept, and no opening marker stands
across the offset. -/
def KeepsFront (markers : Markers) (cursor next : Cursor) : Prop :=
  next.text.take next.position = cursor.text.take next.position ∧
    ∀ offset < next.position, next.position < offset + markers.opening.length →
      ¬ markers.opening <+: next.text.drop offset

end Cursor

namespace Context

variable {context : Context} {frame : Frame}

/-- A block of the next text whose opening marker stands in what was kept was there already, before
the offset of the search. -/
theorem Advances.blockAt_of_take_eq (hopening : context.settings.markers.opening ≠ [])
    {cursor next : Cursor} (h : context.Advances frame cursor next)
    (htake : next.text.take next.position = cursor.text.take next.position) {offset : Nat}
    (hinside : offset + context.settings.markers.opening.length ≤ next.position)
    (hblock : context.settings.markers.BlockAt next.text offset) :
    offset < cursor.position ∧ context.settings.markers.BlockAt cursor.text offset := by
  obtain ⟨block, hfind, -, hposition⟩ := h
  have hstart := Markers.le_length_of_find?_eq_some hopening hfind
  have hclosing : context.settings.markers.closing <:+: cursor.text.drop next.position := by
    obtain ⟨gap, after, htext, hbegin, -⟩ := Markers.find?_eq_some hstart hfind
    rw [hposition, hbegin, ← List.drop_drop, htext, List.drop_left]
    exact ⟨context.settings.markers.opening ++ block.body, after, rfl⟩
  have hold : context.settings.markers.BlockAt cursor.text offset :=
    Markers.blockAt_of_take_eq htake hinside hclosing hblock
  refine ⟨Nat.lt_of_not_le fun hle => ?_, hold⟩
  -- the search would have found it
  have hlt : offset < block.start := by
    have := List.length_pos_iff.mpr hopening
    omega
  exact Markers.not_blockAt_of_find?_eq_some hstart hfind hle hlt hold

/-- A block that keeps the front of a text leaves no block in it. -/
theorem Advances.clean (hopening : context.settings.markers.opening ≠ []) {cursor next : Cursor}
    (h : context.Advances frame cursor next)
    (hkeeps : cursor.KeepsFront context.settings.markers next)
    (hclean : cursor.Clean context.settings.markers) : next.Clean context.settings.markers := by
  obtain ⟨htake, hseam⟩ := hkeeps
  intro offset hlt hblock
  -- the opening marker of the block does not reach beyond the offset, so it was there before
  have hinside : offset + context.settings.markers.opening.length ≤ next.position := by
    apply Nat.le_of_not_lt
    intro hacross
    obtain ⟨before, body, after, rfl, htext⟩ := hblock
    refine hseam before.length hlt hacross ?_
    rw [htext, List.drop_left]
    exact ⟨body ++ context.settings.markers.closing ++ after, by simp only [List.append_assoc]⟩
  obtain ⟨hbefore, hold⟩ := h.blockAt_of_take_eq hopening htake hinside hblock
  exact hclean offset hbefore hold

/-- A scan all of whose blocks keep the front of the text leaves no block behind. -/
theorem Leads.clean (hopening : context.settings.markers.opening ≠ []) {start last : Cursor}
    (h : context.Leads frame start last) (hstart : start.Clean context.settings.markers)
    (hkeeps : ∀ cursor next, context.Leads frame start cursor →
      context.Advances frame cursor next → cursor.KeepsFront context.settings.markers next) :
    last.Clean context.settings.markers := by
  induction h with
  | refl => exact hstart
  | @tail cursor next hleads hadvances ih =>
    exact hadvances.clean hopening (hkeeps cursor next hleads hadvances) ih

/-- A text without a block is what it is built to. -/
theorem builds_of_find?_eq_none {path text : Text} {basedir : Option SourcePath} {key : SourcePath}
    (hopens : context.Opens ⟨path, basedir, []⟩ key text)
    (h : context.settings.markers.find? text 0 = none) : context.Builds path basedir text := by
  rw [builds_iff, expands_iff]
  exact ⟨key, text, 0, hopens, .refl, h⟩

/-- The blocks that a built text holds are those that begin before the offset at which the last
block began. There is none if every block has kept the front of the text, and then the text is built
to itself again. -/
theorem blocks_of_builds (context : Context) (hopening : context.settings.markers.opening ≠ [])
    {path text : Text} {basedir : Option SourcePath} (h : context.Builds path basedir text) :
    ∃ key source last, context.Opens ⟨path, basedir, []⟩ key source ∧
      context.Leads (frameOf ⟨path, basedir, []⟩ key) ⟨source, 0⟩ ⟨text, last⟩ ∧
      (∀ offset, last ≤ offset → ¬ context.settings.markers.BlockAt text offset) ∧
      (context.settings.markers.find? text 0 = none ↔
        ∀ offset < last, ¬ context.settings.markers.BlockAt text offset) ∧
      ((∀ cursor next, context.Leads (frameOf ⟨path, basedir, []⟩ key) ⟨source, 0⟩ cursor →
          context.Advances (frameOf ⟨path, basedir, []⟩ key) cursor next →
            cursor.KeepsFront context.settings.markers next) →
        context.settings.markers.find? text 0 = none) ∧
      (context.settings.markers.find? text 0 = none →
        ∀ (other : Context) (path' : Text) (basedir' : Option SourcePath) (key' : SourcePath),
          other.settings.markers = context.settings.markers →
          other.Opens ⟨path', basedir', []⟩ key' text → other.Builds path' basedir' text) := by
  rw [builds_iff, expands_iff] at h
  obtain ⟨key, source, last, hopens, hleads, hlast⟩ := h
  have hafter : ∀ offset, last ≤ offset → ¬ context.settings.markers.BlockAt text offset := by
    intro offset hle
    exact Markers.find?_eq_none_iff.mp hlast offset (Nat.le_trans (Nat.min_le_left _ _) hle)
  have hiff : context.settings.markers.find? text 0 = none ↔
      ∀ offset < last, ¬ context.settings.markers.BlockAt text offset := by
    rw [Markers.find?_eq_none_iff]
    constructor
    · intro hnone offset _
      exact hnone offset (by omega)
    · intro hbefore offset _
      by_cases hlt : offset < last
      · exact hbefore offset hlt
      · exact hafter offset (Nat.le_of_not_lt hlt)
  refine ⟨key, source, last, hopens, hleads, hafter, hiff, ?_, ?_⟩
  · intro hkeeps
    rw [hiff]
    exact Leads.clean hopening hleads (fun offset hlt => absurd hlt (Nat.not_lt_zero offset)) hkeeps
  · intro hnone other path' basedir' key' hmarkers hother
    rw [← hmarkers] at hnone
    exact builds_of_find?_eq_none hother hnone

/-- A file whose only block defines a name that stands after it. -/
def definedAfter : Context := .ofTexts [("a", "x/*buildjs @def k m */k")]

/-- This block keeps the front of the text, so none is left, and the text is built to itself. -/
theorem definedAfter_rebuilds :
    definedAfter.Builds "a".toList none "xm".toList ∧
      definedAfter.settings.markers.find? "xm".toList 0 = none ∧
      (ofTexts [("b", "xm")]).Builds "b".toList none "xm".toList := by
  have hbuilds : definedAfter.Builds "a".toList none "xm".toList := ⟨4, by decide +kernel⟩
  obtain ⟨key, source, last, hopens, -, -, -, hclean, hrebuild⟩ :=
    blocks_of_builds definedAfter (by decide) hbuilds
  have hfile : definedAfter.Opens ⟨"a".toList, none, []⟩ (.ofText "/a".toList)
      "x/*buildjs @def k m */k".toList :=
    ⟨"x/*buildjs @def k m */k".toUTF8.toList, by decide +kernel, by decide +kernel⟩
  obtain ⟨rfl, rfl⟩ := hfile.unique hopens
  have hadvances : definedAfter.Advances (frameOf ⟨"a".toList, none, []⟩ (.ofText "/a".toList))
      ⟨"x/*buildjs @def k m */k".toList, 0⟩ ⟨"xm".toList, 1⟩ :=
    ⟨⟨1, 22, " @def k m ".toList⟩, by decide +kernel, ⟨0, by decide +kernel⟩, rfl⟩
  have hlast : definedAfter.settings.markers.find? "xm".toList 1 = none := by decide +kernel
  have hnone := hclean fun cursor next hleads hnext => by
    obtain rfl | rfl := Leads.eq_or_eq hleads hadvances hlast
    · obtain rfl := hadvances.unique hnext
      refine ⟨by decide, fun offset hlt _ => ?_⟩
      obtain rfl : offset = 0 := Nat.lt_one_iff.mp hlt
      decide
    · exact absurd hnext (not_advances_of_find?_eq_none hlast)
  refine ⟨hbuilds, hnone, hrebuild hnone _ _ none (.ofText "/b".toList) rfl ?_⟩
  exact ⟨"xm".toUTF8.toList, by decide +kernel, by decide +kernel⟩

/-- A file with an empty block inside of an opening marker. -/
def splitMarker : Context := .ofTexts [("a", "/*bui/*buildjs*/ldjs @def a b*/")]

/-- When the block is taken out, another one begins before it, which is left in the built text; that
text is built to the empty one. -/
theorem splitMarker_leaves_block :
    splitMarker.registry = .builtin ∧
      splitMarker.Builds "a".toList none "/*buildjs @def a b*/".toList ∧
      splitMarker.settings.markers.find? "/*buildjs @def a b*/".toList 0 ≠ none ∧
      (ofTexts [("a", "/*buildjs @def a b*/")]).Builds "a".toList none [] :=
  ⟨rfl, ⟨4, by decide +kernel⟩, by decide +kernel, ⟨4, by decide +kernel⟩⟩

end Context

end TextMacro
