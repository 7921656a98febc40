import TextMacro.FileTree

/-!
# Paths and their texts

A component of a path holds no slash, is not empty and is not a single dot. So the slashes of a
written path are those of its root and those between its components, and reading the text gives the
path back. In particular no two paths are written alike, and what is told about a path by its text
is told about one path.
-/

namespace TextMacro

/-- Splitting at a separator is that of lists. -/
theorem Text.pieces_eq_splitOn (separator : Char) (text : Text) :
    Text.pieces separator text = text.splitOn separator := by
  induction text with
  | nil => rw [pieces, List.splitOn_nil]
  | cons c cs ih =>
    rw [pieces, ih, List.splitOn_cons_eq_if_modifyHead]
    obtain ⟨first, others, hsplit⟩ := List.exists_cons_of_ne_nil (List.splitOn_ne_nil separator cs)
    simp only [hsplit, beq_iff_eq, List.modifyHead_cons]

namespace Component

/-- A component is not empty. -/
theorem text_ne_nil (component : Component) : component.text ≠ [] := component.isComponent.1

/-- A component holds no slash. -/
theorem slash_notMem (component : Component) : '/' ∉ component.text := component.isComponent.2.2

/-- The text of a component denotes it. -/
@[simp]
theorem ofText?_text (component : Component) : ofText? component.text = some component :=
  dif_pos component.isComponent

/-- The texts of components denote them. -/
theorem filterMap_ofText?_map_text (components : List Component) :
    (components.map text).filterMap ofText? = components := by
  have hread : ofText? ∘ text = some := funext ofText?_text
  rw [List.filterMap_map, hread, List.filterMap_some]

end Component

namespace PathRoot

/-- The number of its slashes denotes a root. -/
theorem ofSlashes_length_toText (root : PathRoot) : ofSlashes root.toText.length = root := by
  cases root <;> rfl

/-- A root is written in slashes only. -/
theorem eq_slash_of_mem_toText {root : PathRoot} {c : Char} (h : c ∈ root.toText) : c = '/' := by
  cases root <;> simp_all [toText]

/-- Slashes in front of a text give no components. -/
theorem filterMap_pieces_toText_append (root : PathRoot) (text : Text) :
    (Text.pieces '/' (root.toText ++ text)).filterMap Component.ofText? =
      (Text.pieces '/' text).filterMap Component.ofText? := by
  cases root <;> rfl

end PathRoot

namespace SourcePath

/-- Components with slashes between them. -/
def joined (components : List Component) : Text :=
  Text.join ['/'] (components.map Component.text)

/-- A path other than the current directory is written as its root and its components. -/
theorem toText_of_ne_here {path : SourcePath} (h : path ≠ here) :
    path.toText = path.root.toText ++ joined path.components :=
  if_neg h

/-- Joined components begin with the first one. -/
theorem joined_cons (component : Component) (components : List Component) :
    ∃ rest, joined (component :: components) = component.text ++ rest := by
  cases components with
  | nil => exact ⟨[], by simp [joined, Text.join]⟩
  | cons next components =>
    exact ⟨['/'] ++ joined (next :: components), by simp [joined, Text.join]⟩

/-- Joined components are split into what they were joined from. -/
theorem filterMap_pieces_joined (components : List Component) :
    (Text.pieces '/' (joined components)).filterMap Component.ofText? = components := by
  by_cases hnil : components = []
  · subst hnil
    rfl
  · have hfree : ∀ text ∈ components.map Component.text, '/' ∉ text := by
      simp only [List.forall_mem_map]
      exact fun component _ => component.slash_notMem
    rw [Text.pieces_eq_splitOn, joined, Text.join,
      List.splitOn_intercalate '/' hfree (by simpa using hnil)]
    exact Component.filterMap_ofText?_map_text components

/-- The slashes in front of a written path are those of its root. -/
theorem takeWhile_slash_toText (root : PathRoot) (components : List Component) :
    (root.toText ++ joined components).takeWhile (· == '/') = root.toText := by
  have hjoined : (joined components).takeWhile (· == '/') = [] := by
    cases components with
    | nil => rfl
    | cons component components =>
      obtain ⟨rest, hrest⟩ := joined_cons component components
      obtain ⟨c, cs, htext⟩ := List.exists_cons_of_ne_nil component.text_ne_nil
      have hslash := component.slash_notMem
      rw [htext, List.mem_cons, not_or] at hslash
      rw [hrest, htext, List.cons_append, List.takeWhile_cons_of_neg]
      simpa using Ne.symm hslash.1
  rw [List.takeWhile_append_of_pos, hjoined, List.append_nil]
  intro c hc
  simpa using PathRoot.eq_slash_of_mem_toText hc

/-- A written path reads back as itself. -/
@[simp]
theorem ofText_toText (path : SourcePath) : ofText path.toText = path := by
  by_cases hhere : path = here
  · subst hhere
    decide
  · rw [toText_of_ne_here hhere, ofText, takeWhile_slash_toText,
      PathRoot.ofSlashes_length_toText, PathRoot.filterMap_pieces_toText_append,
      filterMap_pieces_joined]

end SourcePath

end TextMacro
