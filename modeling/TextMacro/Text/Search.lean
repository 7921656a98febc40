import TextMacro.Text.Basic

/-!
# Searching and replacing

The first occurrence of a pattern in a text, and the replacement of all its occurrences. A pattern
is compared with the text only where the fingerprint of the pattern is that of as many characters of
the text, so the effort does not depend on how much of the pattern the text repeats. The fingerprint
moves along with the search: what leaves is subtracted, what enters is added. The main statement is
that this finds what a comparison at every offset finds.
-/

namespace TextMacro.Text

/-- The offset of the first occurrence of `pattern`, counted from `passed` on. -/
def searchFrom (pattern : Text) (passed : Nat) : Text → Option Nat
  | [] => if pattern = [] then some passed else none
  | c :: cs =>
    if pattern.isPrefixOf (c :: cs) then some passed else searchFrom pattern (passed + 1) cs

/-- Counting from elsewhere shifts the offset. -/
theorem searchFrom_eq (pattern : Text) (passed : Nat) (text : Text) :
    searchFrom pattern passed text = (searchFrom pattern 0 text).map (· + passed) := by
  induction text generalizing passed with
  | nil =>
    simp only [searchFrom]
    split <;> simp
  | cons c cs ih =>
    simp only [searchFrom]
    split
    · simp
    · rw [ih (passed + 1), ih (0 + 1), Option.map_map]
      congr 1
      funext count
      simp only [Function.comp_apply]
      omega

/-- Nothing is found in a text shorter than the pattern. -/
theorem searchFrom_eq_none {pattern text : Text} (passed : Nat)
    (h : text.length < pattern.length) : searchFrom pattern passed text = none := by
  induction text generalizing passed with
  | nil =>
    have : pattern ≠ [] := by
      rintro rfl
      simp at h
    simp [searchFrom, this]
  | cons c cs ih =>
    have hfront : ¬ pattern.isPrefixOf (c :: cs) := by
      intro hprefix
      have := (List.isPrefixOf_iff_prefix.mp hprefix).length_le
      omega
    simp only [searchFrom, hfront, Bool.false_eq_true, ↓reduceIte]
    exact ih (passed + 1) (by simp only [List.length_cons] at h; omega)

/-- The base in which the characters of a text are the digits of its fingerprint. -/
def fingerprintBase : UInt64 := 1000003

/-- The digit of a character. -/
def digit (c : Char) : UInt64 := c.val.toUInt64

/-- The fingerprint of a text after digits that came before it. -/
def fingerprintFrom (sum : UInt64) (text : Text) : UInt64 :=
  text.foldl (fun sum c => sum * fingerprintBase + digit c) sum

/-- The weight of a digit that a text follows. -/
def weightFrom (weight : UInt64) (text : Text) : UInt64 :=
  text.foldl (fun weight _ => weight * fingerprintBase) weight

/-- Weights of texts of one length are the same. -/
theorem weightFrom_congr {first second : Text} (weight : UInt64)
    (h : first.length = second.length) : weightFrom weight first = weightFrom weight second := by
  induction first generalizing second weight with
  | nil =>
    obtain rfl := List.length_eq_zero_iff.mp h.symm
    rfl
  | cons c cs ih =>
    cases second with
    | nil => simp at h
    | cons d ds =>
      simp only [weightFrom, List.foldl_cons]
      exact ih _ (by simpa using h)

/-- Digits that came before count with the weight that the text gives them. -/
theorem fingerprintFrom_eq (sum : UInt64) (text : Text) :
    fingerprintFrom sum text = sum * weightFrom 1 text + fingerprintFrom 0 text := by
  have weight (w : UInt64) (t : Text) : weightFrom w t = w * weightFrom 1 t := by
    induction t generalizing w with
    | nil => simp [weightFrom]
    | cons c cs ih =>
      simp only [weightFrom, List.foldl_cons] at ih ⊢
      rw [ih (w * fingerprintBase), ih (1 * fingerprintBase)]
      grind
  induction text generalizing sum with
  | nil => simp [fingerprintFrom, weightFrom]
  | cons c cs ih =>
    have hweight : weightFrom 1 (c :: cs) = fingerprintBase * weightFrom 1 cs := by
      rw [← weight]
      simp [weightFrom]
    simp only [fingerprintFrom, List.foldl_cons] at ih ⊢
    rw [ih (sum * fingerprintBase + digit c), ih (0 * fingerprintBase + digit c), hweight]
    grind

/-- The fingerprint after the first character has left and another one has entered. -/
theorem fingerprintFrom_slide (c d : Char) (text : Text) :
    fingerprintFrom 0 (text ++ [d]) =
      (fingerprintFrom 0 (c :: text) - digit c * weightFrom 1 text) * fingerprintBase +
        digit d := by
  have hcons : fingerprintFrom 0 (c :: text) = fingerprintFrom (digit c) text := by
    simp [fingerprintFrom]
  have happend : fingerprintFrom 0 (text ++ [d]) =
      fingerprintFrom 0 text * fingerprintBase + digit d := by
    simp [fingerprintFrom]
  rw [happend, hcons, fingerprintFrom_eq (digit c)]
  grind

/-- The pattern of a search with its fingerprint and the weight of its first digit. -/
structure Needle where
  pattern : Text
  sum : UInt64
  weight : UInt64

/-- The needle of a pattern. -/
def Needle.ofPattern (pattern : Text) : Needle :=
  ⟨pattern, fingerprintFrom 0 pattern, weightFrom 1 pattern.tail⟩

/-- Whether the pattern stands at the front of a text, given the fingerprint of as many characters
of the text as the pattern has. -/
def Needle.isAt (needle : Needle) (sum : UInt64) (text : Text) : Bool :=
  sum == needle.sum && needle.pattern.isPrefixOf text

/-- The fingerprint rules out no occurrence. -/
theorem Needle.isAt_eq (pattern text : Text) :
    (ofPattern pattern).isAt (fingerprintFrom 0 (text.take pattern.length)) text =
      pattern.isPrefixOf text := by
  simp only [isAt, ofPattern]
  cases hfront : pattern.isPrefixOf text with
  | false => simp
  | true =>
    obtain ⟨rest, rfl⟩ := List.isPrefixOf_iff_prefix.mp hfront
    simp

/-- Search a text, given the fingerprint of as many characters of it as the pattern has, and the
text after them. -/
def searchWindow (needle : Needle) (passed : Nat) (sum : UInt64) (text : Text) :
    Text → Option Nat
  | [] => if needle.isAt sum text then some passed else none
  | d :: ahead =>
    if needle.isAt sum text then some passed
    else match text with
      | [] => none
      | c :: cs =>
        searchWindow needle (passed + 1)
          ((sum - digit c * needle.weight) * fingerprintBase + digit d) cs ahead

/-- A search by fingerprints finds what a comparison at every offset finds. -/
theorem searchWindow_eq {pattern : Text} (hpattern : pattern ≠ []) (passed : Nat)
    (text ahead : Text) (hlength : pattern.length ≤ text.length)
    (hahead : text.drop pattern.length = ahead) :
    searchWindow (.ofPattern pattern) passed (fingerprintFrom 0 (text.take pattern.length)) text
      ahead = searchFrom pattern passed text := by
  have hpos := List.length_pos_iff.mpr hpattern
  induction ahead generalizing passed text with
  | nil =>
    have hshort := List.drop_eq_nil_iff.mp hahead
    cases text with
    | nil => exact absurd (Nat.lt_of_lt_of_le hpos hlength) (Nat.lt_irrefl 0)
    | cons c cs =>
      rw [List.length_cons] at hshort
      rw [searchWindow, searchFrom, Needle.isAt_eq, searchFrom_eq_none _ hshort]
  | cons d ahead ih =>
    cases text with
    | nil => simp at hahead
    | cons c cs =>
      rw [searchWindow, searchFrom, Needle.isAt_eq]
      split
      · rfl
      · obtain ⟨count, hcount⟩ := Nat.exists_eq_succ_of_ne_zero (Nat.ne_of_gt hpos)
        rw [hcount, List.drop_succ_cons] at hahead
        have hdrop : cs.drop pattern.length = ahead := by
          rw [hcount, ← List.tail_drop, hahead, List.tail_cons]
        have henough : pattern.length ≤ cs.length := by
          have := congrArg List.length hahead
          simp only [List.length_drop, List.length_cons] at this
          omega
        have htake : cs.take pattern.length = cs.take count ++ [d] := by
          have hnext : cs[count]? = some d := by
            rw [← List.head?_drop, hahead, List.head?_cons]
          rw [hcount, List.take_add_one, hnext, Option.toList_some]
        have hweight : (Needle.ofPattern pattern).weight = weightFrom 1 (cs.take count) := by
          apply weightFrom_congr
          simp only [List.length_tail, List.length_take]
          omega
        rw [← ih (passed + 1) cs henough hdrop, htake, fingerprintFrom_slide c d, hweight, hcount,
          List.take_succ_cons]

/-- The offset of the first occurrence of a pattern. -/
def search (pattern text : Text) : Option Nat :=
  if pattern = [] then some 0
  else
    let window := text.take pattern.length
    if window.length < pattern.length then none
    else
      searchWindow (.ofPattern pattern) 0 (fingerprintFrom 0 window) text
        (text.drop pattern.length)

/-- The search finds the first offset at which a comparison succeeds. -/
theorem search_eq (pattern text : Text) : search pattern text = searchFrom pattern 0 text := by
  unfold search
  split
  · next h =>
    subst h
    cases text <;> simp [searchFrom]
  · next hpattern =>
    dsimp only
    split
    · next hshort =>
      rw [List.length_take] at hshort
      rw [searchFrom_eq_none]
      omega
    · next hlong =>
      rw [List.length_take] at hlong
      exact searchWindow_eq hpattern 0 text _ (by omega) rfl

/-- The first occurrence of `pattern`, as the text before it and the text after it. -/
def cut? (pattern text : Text) : Option (Text × Text) :=
  (search pattern text).map fun start =>
    (text.take start, text.drop (start + pattern.length))

/-- Only the empty pattern occurs in the empty text. -/
theorem cut?_nil (pattern : Text) :
    cut? pattern [] = if pattern = [] then some ([], []) else none := by
  simp only [cut?, search_eq, searchFrom]
  split <;> simp

/-- A pattern occurs at the front, or else first in what follows the first character. -/
theorem cut?_cons (pattern : Text) (c : Char) (cs : Text) :
    cut? pattern (c :: cs) =
      if pattern.isPrefixOf (c :: cs) then some ([], (c :: cs).drop pattern.length)
      else (cut? pattern cs).map fun parts => (c :: parts.1, parts.2) := by
  simp only [cut?, search_eq, searchFrom]
  split
  · simp
  · rw [searchFrom_eq, Option.map_map, Option.map_map]
    congr 1
    funext start
    simp [Nat.add_right_comm]

/-- The texts around an occurrence and the pattern make up the text that was searched. -/
theorem append_of_cut? {pattern text before after : Text}
    (h : cut? pattern text = some (before, after)) : before ++ pattern ++ after = text := by
  induction text generalizing before with
  | nil =>
    rw [cut?_nil] at h
    split at h <;> simp_all
  | cons c cs ih =>
    rw [cut?_cons] at h
    split at h
    · next hfront =>
      obtain ⟨rest, hrest⟩ := List.isPrefixOf_iff_prefix.mp hfront
      simp only [Option.some.injEq, Prod.mk.injEq] at h
      obtain ⟨rfl, rfl⟩ := h
      simp [← hrest]
    · simp only [Option.map_eq_some_iff, Prod.exists, Prod.mk.injEq] at h
      obtain ⟨a, b, hab, rfl, rfl⟩ := h
      simpa using ih hab

/-- What follows an occurrence of a non-empty pattern is shorter than the text. -/
theorem length_lt_of_cut? {pattern text before after : Text} (hpattern : pattern ≠ [])
    (h : cut? pattern text = some (before, after)) : after.length < text.length := by
  have hlength := congrArg List.length (append_of_cut? h)
  have := List.length_pos_iff.mpr hpattern
  simp only [List.length_append] at hlength
  omega

/-- Replace the occurrences of a non-empty name, from left to right and without overlap. -/
def replaceOccurrences (name value : Text) (hname : name ≠ []) (text : Text) : Text :=
  match h : cut? name text with
  | none => text
  | some (before, after) =>
    have := length_lt_of_cut? hname h
    before ++ value ++ replaceOccurrences name value hname after
termination_by text.length

/-- Replace every occurrence of `name` by `value`.

The empty name occurs before every character and at the end of the text. -/
def replaceAll (name value text : Text) : Text :=
  if hname : name = [] then value ++ text.flatMap (fun c => c :: value)
  else replaceOccurrences name value hname text

end TextMacro.Text
