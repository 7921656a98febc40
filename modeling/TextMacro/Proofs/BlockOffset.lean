import TextMacro.Proofs.Substitution

/-!
# Inclusions after definitions

All invocations of a block are given the offset at which the block began. A definition replaces its
name in the whole text, also in front of the block, and then this offset may no longer be where the
text before the block ends. So a file that is included after a definition is put in where the block
was only if the text in front of the block kept its length, or if it makes no difference on which
side of the displaced text the file stands.
-/

namespace TextMacro

open Run

namespace Text

/-- An offset that is no negative number is taken as it is. -/
theorem insertAt_natCast (text : Text) (offset : Nat) (piece : Text) :
    insertAt text offset piece = text.take offset ++ piece ++ text.drop offset := by
  rw [insertAt_eq, Text.offset, if_neg (by omega), Int.toNat_natCast]

/-- What stands between an offset and the seam of two texts, on either side of the seam. -/
def displaced (front back : Text) (offset : Nat) : Text :=
  front.drop offset ++ back.take (offset - front.length)

/-- At the seam nothing is displaced. -/
theorem displaced_length (front back : Text) : displaced front back front.length = [] := by
  simp [displaced]

/-- A piece that is put in at an offset stands at the seam of two texts exactly when it can change
places with what stands between the offset and the seam. -/
theorem insertAt_append_eq_iff (front back piece : Text) (offset : Nat) :
    insertAt (front ++ back) offset piece = front ++ piece ++ back ↔
      piece ++ displaced front back offset = displaced front back offset ++ piece := by
  rw [insertAt_natCast]
  rcases Nat.le_total offset front.length with hle | hle
  · have hnone : offset - front.length = 0 := Nat.sub_eq_zero_of_le hle
    have hfront : front ++ piece ++ back =
        front.take offset ++ (front.drop offset ++ piece) ++ back := by
      rw [← List.append_assoc, List.take_append_drop]
    rw [List.take_append_of_le_length hle, List.drop_append_of_le_length hle, hfront, displaced,
      hnone, List.take_zero, List.append_nil]
    simp only [← List.append_assoc, List.append_cancel_right_eq]
    simp only [List.append_assoc, List.append_cancel_left_eq]
  · have hback : front ++ piece ++ back = front ++
        (piece ++ back.take (offset - front.length)) ++ back.drop (offset - front.length) := by
      simp only [List.append_assoc, List.take_append_drop]
    rw [List.take_append, List.drop_append, List.take_of_length_le hle,
      List.drop_of_length_le hle, hback, displaced, List.drop_of_length_le hle, List.nil_append,
      List.nil_append, List.append_cancel_right_eq, List.append_assoc,
      List.append_cancel_left_eq]
    exact eq_comm

/-- Every replacement changes the length by the same amount, and none takes place exactly where the
name does not occur. -/
theorem exists_length_replaceAll (name value text : Text) :
    ∃ count, (replaceAll name value text).length + count * name.length =
        text.length + count * value.length ∧ (count = 0 ↔ ¬ name <:+: text) := by
  unfold replaceAll
  split
  · next hname =>
    subst hname
    refine ⟨text.length + 1, ?_, by simp⟩
    have hsum : (text.flatMap fun c => c :: value).length =
        text.length + text.length * value.length := by
      simp [List.length_flatMap, Nat.mul_succ, Nat.add_comm]
    rw [List.length_append, hsum, List.length_nil, Nat.mul_zero, Nat.add_mul]
    omega
  · next hname =>
    fun_induction replaceOccurrences name value hname text with
    | case1 text hcut => exact ⟨0, by simp, by simp [(cut?_eq_none_iff name text).mp hcut]⟩
    | case2 text before after hcut hlt ih =>
      obtain ⟨count, hcount, -⟩ := ih
      have htext := append_of_cut? hcut
      have hlength := congrArg List.length htext
      refine ⟨count + 1, ?_, by simpa using ⟨before, after, htext⟩⟩
      simp only [List.length_append, Nat.add_mul] at hlength ⊢
      omega

/-- A text keeps its length when the name does not occur in it, or when the value is as long as the
name. -/
theorem length_replaceAll_eq_iff (name value text : Text) :
    (replaceAll name value text).length = text.length ↔
      value.length = name.length ∨ ¬ name <:+: text := by
  obtain ⟨count, hlength, hcount⟩ := exists_length_replaceAll name value text
  rw [← hcount, ← mul_eq_mul_left_iff]
  omega

end Text

namespace Context

variable {context : Context} {frame : Frame} {path included : Text}

/-- The invocations turn one text into another, given enough steps. -/
def Turns (context : Context) (frame : Frame) (offset : Nat) (invocations : List Invocation)
    (text result : Text) : Prop :=
  ∃ enough, ∀ steps, enough ≤ steps →
    (execute (context.expand steps) frame offset invocations text).outcome = .done result

/-- Invocations turn a text into one other text only. -/
theorem Turns.unique {offset : Nat} {invocations : List Invocation} {text result other : Text}
    (h : context.Turns frame offset invocations text result)
    (hother : context.Turns frame offset invocations text other) : result = other := by
  obtain ⟨enough, hresult⟩ := h
  obtain ⟨needed, hneeded⟩ := hother
  have hdone := hresult (max enough needed) (Nat.le_max_left _ _)
  exact Outcome.done.inj (hdone.symm.trans (hneeded _ (Nat.le_max_right _ _)))

/-- After a definition, an inclusion is put into the text with the name replaced, at the offset of
the block. -/
theorem turns_of_includes (h : context.Includes frame path included) (name value text : Text)
    (offset : Nat) :
    context.Turns frame offset [.defining name value, .including path] text
      (Text.insertAt (Text.replaceAll name value text) offset included) := by
  obtain ⟨enough, hexpand⟩ := h.eventually
  refine ⟨enough, fun steps hsteps => ?_⟩
  have hhandler : ((Command.inclusion.handler
      ⟨[path], frame, Text.replaceAll name value text, offset⟩).run
        (context.expand steps)).outcome =
          .done (Text.insertAt (Text.replaceAll name value text) offset included) := by
    rw [run_inclusion, andThen_outcome_of_done (hexpand steps hsteps)]
    rfl
  rw [execute, Invocation.defining, run_definition, value_andThen, execute, Invocation.including,
    andThen_outcome_of_done hhandler]
  rfl

/-- A definition and then an inclusion, in a block between two texts. The file is put into the text
with the name replaced, at the offset where the block began. If the name is replaced in the two
texts separately, then the file comes to stand between them exactly when it can change places with
what stands between the offset and the seam. So it does when the name does not occur in front of the
block, and when the value is as long as the name. -/
theorem inclusion_after_definition (h : context.Includes frame path included)
    (name value front back : Text) :
    let replaced := Text.replaceAll name value
    let turned := context.Turns frame front.length [.defining name value, .including path]
      (front ++ back)
    turned (Text.insertAt (replaced (front ++ back)) front.length included) ∧
    (replaced (front ++ back) = replaced front ++ replaced back →
      let displaced := Text.displaced (replaced front) (replaced back) front.length
      (turned (replaced front ++ included ++ replaced back) ↔
        included ++ displaced = displaced ++ included) ∧
      (value.length = name.length ∨ ¬ name <:+: front →
        turned (replaced front ++ included ++ replaced back))) := by
  intro replaced turned
  have hturned := turns_of_includes h name value (front ++ back) front.length
  refine ⟨hturned, ?_⟩
  intro hseam displaced
  have hbetween : turned (replaced front ++ included ++ replaced back) ↔
      included ++ displaced = displaced ++ included := by
    rw [← Text.insertAt_append_eq_iff, ← hseam]
    constructor
    · exact fun hexpected => hturned.unique hexpected
    · intro hplace
      rw [← hplace]
      exact hturned
  refine ⟨hbetween, fun hkept => hbetween.mpr ?_⟩
  have hlength : (replaced front).length = front.length :=
    (Text.length_replaceAll_eq_iff name value front).mpr hkept
  have hnothing : displaced = [] := by
    simp only [displaced, ← hlength, Text.displaced_length]
  rw [hnothing, List.append_nil, List.nil_append]

/-- A file that includes another one after a definition, in a block that follows the name. -/
def definedBefore : Context :=
  ofTexts [("a", "NN/*buildjs @def NN LONGER @inc b */x"), ("b", "B")]

/-- A value as long as the name leaves the file where the block was. A longer one does not. -/
theorem definedBefore_placed :
    let turned (value : Text) := definedBefore.Turns ⟨.ofText "a".toList, none, []⟩
      "NN".toList.length [.defining "NN".toList value, .including "b".toList]
      ("NN".toList ++ "x".toList)
    turned "MM".toList "MMBx".toList ∧ ¬ turned "LONGER".toList "LONGERBx".toList := by
  intro turned
  have hincludes : definedBefore.Includes ⟨.ofText "a".toList, none, []⟩ "b".toList "B".toList :=
    ⟨2, by decide +kernel⟩
  obtain ⟨-, hshort⟩ := inclusion_after_definition hincludes "NN".toList "MM".toList
    "NN".toList "x".toList
  obtain ⟨-, hlong⟩ := inclusion_after_definition hincludes "NN".toList "LONGER".toList
    "NN".toList "x".toList
  have hkept : Text.replaceAll "NN".toList "MM".toList "NN".toList ++ "B".toList ++
      Text.replaceAll "NN".toList "MM".toList "x".toList = "MMBx".toList := by decide +kernel
  have hmoved : Text.replaceAll "NN".toList "LONGER".toList "NN".toList ++ "B".toList ++
      Text.replaceAll "NN".toList "LONGER".toList "x".toList = "LONGERBx".toList := by
    decide +kernel
  have hlength : "MM".toList.length = "NN".toList.length := by decide
  rw [← hkept, ← hmoved]
  exact ⟨(hshort (by decide +kernel)).2 (.inl hlength),
    fun hturned => absurd ((hlong (by decide +kernel)).1.mp hturned) (by decide +kernel)⟩

/-- Where the value is longer, the file is put into the middle of the value, although the name is
replaced on both sides of the block separately. -/
theorem definedBefore_displaced :
    let frame : Frame := ⟨.ofText "a".toList, none, []⟩
    let replaced := Text.replaceAll "NN".toList "LONGER".toList
    definedBefore.Includes frame "b".toList "B".toList ∧
      replaced "NNx".toList = replaced "NN".toList ++ replaced "x".toList ∧
      replaced "NN".toList ++ "B".toList ++ replaced "x".toList = "LONGERBx".toList ∧
      (execute (definedBefore.expand 2) frame 2
        [.defining "NN".toList "LONGER".toList, .including "b".toList] "NNx".toList).outcome =
          .done "LOBNGERx".toList ∧
      (definedBefore.build 4 "a".toList none).outcome = .done "LOBNGERx".toList := by
  refine ⟨⟨2, by decide +kernel⟩, ?_⟩
  decide +kernel

end Context

end TextMacro
