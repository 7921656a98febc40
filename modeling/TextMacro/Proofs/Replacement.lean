import TextMacro.Proofs.Occurrence
import TextMacro.Proofs.Outcome

/-!
# Replacing a name

A name is replaced from left to right. So a text is cut at occurrences of the name that do not
overlap: each piece ends where the name begins for the first time, and after the last piece the name
does not occur any more. A text can be cut in this way only once, and what a definition leaves are
the pieces with the value between them.

An occurrence of the name in this text would have to stand in a piece, or to overlap a value. A
value that shares no character with the name cannot be overlapped, so then the name is gone, and the
same definition has nothing more to replace.
-/

namespace TextMacro

namespace Text

variable {name value text piece last : Text} {pieces : List Text}

/-- In a piece and the name after it, the name occurs at the end only. -/
def PrecedesFirst (name piece : Text) : Prop :=
  ∀ left right, piece ++ name = left ++ name ++ right → right = []

/-- Pieces of a text between occurrences of a name, taken from left to right. -/
structure IsCut (name text : Text) (pieces : List Text) (last : Text) : Prop where
  whole : text = join name (pieces ++ [last])
  first : ∀ piece ∈ pieces, PrecedesFirst name piece
  free : ¬ name <:+: last

/-- A piece before others is followed by the separator. -/
theorem join_cons_append (separator piece last : Text) (pieces : List Text) :
    join separator (piece :: pieces ++ [last]) =
      piece ++ separator ++ join separator (pieces ++ [last]) := by
  cases pieces <;> simp [join]

/-- A name is cut out where it occurs for the first time. -/
theorem cut?_eq_some_iff {before after : Text} :
    cut? name text = some (before, after) ↔
      text = before ++ name ++ after ∧ PrecedesFirst name before := by
  constructor
  · intro hcut
    have htext := append_of_cut? hcut
    refine ⟨htext.symm, fun left right hsplit => ?_⟩
    have hle : before.length ≤ left.length := by
      have hagain : text = left ++ name ++ (right ++ after) := by
        rw [← htext, hsplit, List.append_assoc]
      exact length_le_of_cut? hcut hagain
    have hlength := congrArg List.length hsplit
    simp only [List.length_append] at hlength
    exact List.length_eq_zero_iff.mp (by omega)
  · rintro ⟨rfl, hfirst⟩
    apply cut?_eq_some_of_leftmost
    intro left right hsplit
    -- an occurrence further to the left would end before the end of the first one
    apply Nat.le_of_not_lt
    intro hlt
    have hfront : left ++ name <+: before ++ name := by
      refine List.prefix_of_prefix_length_le ⟨right, hsplit.symm⟩ ⟨after, rfl⟩ ?_
      simp only [List.length_append]
      omega
    obtain ⟨rest, hrest⟩ := hfront
    have hnone := hfirst left rest hrest.symm
    have hlength := congrArg List.length hrest
    simp only [hnone, List.length_append, List.length_nil] at hlength
    omega

/-- A name that is not empty does not occur in a piece that precedes its first occurrence. -/
theorem PrecedesFirst.not_infix (h : PrecedesFirst name piece) (hname : name ≠ []) :
    ¬ name <:+: piece := by
  rintro ⟨left, right, rfl⟩
  have hnone : right ++ name = [] := h left (right ++ name) (by simp only [List.append_assoc])
  exact hname (List.append_eq_nil_iff.mp hnone).2

/-- Every text can be cut at a name that is not empty. -/
theorem exists_isCut (hname : name ≠ []) (text : Text) :
    ∃ pieces last, IsCut name text pieces last := by
  fun_induction replaceOccurrences name [] hname text with
  | case1 text hcut =>
    exact ⟨[], text, by simp [join], nofun, (cut?_eq_none_iff name text).mp hcut⟩
  | case2 text before after hcut hlt ih =>
    obtain ⟨htext, hfirst⟩ := cut?_eq_some_iff.mp hcut
    obtain ⟨pieces, last, hafter⟩ := ih
    refine ⟨before :: pieces, last, ?_, ?_, hafter.free⟩
    · rw [join_cons_append, ← hafter.whole, htext]
    · exact List.forall_mem_cons.mpr ⟨hfirst, hafter.first⟩

/-- Without pieces before it, the last piece is the whole text. -/
theorem IsCut.cut?_of_nil (h : IsCut name text [] last) : text = last ∧ cut? name text = none := by
  have htext : text = last := by simpa [join] using h.whole
  subst htext
  exact ⟨rfl, (cut?_eq_none_iff name text).mpr h.free⟩

/-- The first piece is what precedes the first occurrence, and the others are pieces of what follows
it. -/
theorem IsCut.cut?_of_cons (h : IsCut name text (piece :: pieces) last) :
    ∃ after, cut? name text = some (piece, after) ∧ IsCut name after pieces last := by
  refine ⟨join name (pieces ++ [last]), cut?_eq_some_iff.mpr ⟨?_, ?_⟩, rfl, ?_, h.free⟩
  · rw [h.whole, join_cons_append]
  · exact h.first piece List.mem_cons_self
  · exact fun other hother => h.first other (List.mem_cons_of_mem _ hother)

/-- A text can be cut in one way only. -/
theorem IsCut.unique {pieces' : List Text} {last' : Text} (h : IsCut name text pieces last)
    (h' : IsCut name text pieces' last') : pieces = pieces' ∧ last = last' := by
  induction pieces generalizing text pieces' with
  | nil =>
    obtain ⟨rfl, hnone⟩ := h.cut?_of_nil
    cases pieces' with
    | nil => exact ⟨rfl, h'.cut?_of_nil.1⟩
    | cons piece' pieces' =>
      obtain ⟨after, hsome, -⟩ := h'.cut?_of_cons
      rw [hnone] at hsome
      cases hsome
  | cons piece pieces ih =>
    obtain ⟨after, hcut, hafter⟩ := h.cut?_of_cons
    cases pieces' with
    | nil =>
      rw [h'.cut?_of_nil.2] at hcut
      cases hcut
    | cons piece' pieces' =>
      obtain ⟨after', hcut', hafter'⟩ := h'.cut?_of_cons
      obtain ⟨rfl, rfl⟩ := Prod.mk.inj (Option.some.inj (hcut.symm.trans hcut'))
      obtain ⟨rfl, rfl⟩ := ih hafter hafter'
      exact ⟨rfl, rfl⟩

/-- Where a name is not found, there is nothing to replace. -/
theorem replaceAll_of_cut?_eq_none (hname : name ≠ []) (hcut : cut? name text = none)
    (value : Text) : replaceAll name value text = text := by
  rw [replaceAll, dif_neg hname, replaceOccurrences]
  split
  · rfl
  · next hsome =>
    rw [hcut] at hsome
    cases hsome

/-- The value takes the place of the name where it is found, and what follows is searched again. -/
theorem replaceAll_of_cut?_eq_some {before after : Text} (hname : name ≠ [])
    (hcut : cut? name text = some (before, after)) (value : Text) :
    replaceAll name value text = before ++ value ++ replaceAll name value after := by
  rw [replaceAll, dif_neg hname, replaceOccurrences, replaceAll, dif_neg hname]
  split
  · next hnone =>
    rw [hcut] at hnone
    cases hnone
  · next hsome =>
    obtain ⟨rfl, rfl⟩ := Prod.mk.inj (Option.some.inj (hcut.symm.trans hsome))
    rfl

/-- A name in front is replaced, and another character in front is kept. -/
theorem replaceAll_cons (hname : name ≠ []) (value : Text) (c : Char) (text : Text) :
    replaceAll name value (c :: text) =
      if name.isPrefixOf (c :: text) then
        value ++ replaceAll name value ((c :: text).drop name.length)
      else c :: replaceAll name value text := by
  have hcut := cut?_cons name c text
  by_cases hfront : name.isPrefixOf (c :: text) = true
  · rw [if_pos hfront] at hcut ⊢
    rw [replaceAll_of_cut?_eq_some hname hcut, List.nil_append]
  · rw [if_neg hfront] at hcut ⊢
    cases hlater : cut? name text with
    | none =>
      rw [hlater, Option.map_none] at hcut
      rw [replaceAll_of_cut?_eq_none hname hcut, replaceAll_of_cut?_eq_none hname hlater]
    | some parts =>
      rw [hlater, Option.map_some] at hcut
      rw [replaceAll_of_cut?_eq_some hname hcut, replaceAll_of_cut?_eq_some hname hlater,
        List.cons_append, List.cons_append]

/-- A text in which a name is replaced has the value where the text was cut. -/
theorem IsCut.replaceAll_eq (h : IsCut name text pieces last) (hname : name ≠ [])
    (value : Text) : replaceAll name value text = join value (pieces ++ [last]) := by
  induction pieces generalizing text with
  | nil =>
    obtain ⟨rfl, hnone⟩ := h.cut?_of_nil
    rw [replaceAll_of_cut?_eq_none hname hnone, List.nil_append, join,
      List.intercalate_singleton]
  | cons piece pieces ih =>
    obtain ⟨after, hcut, hafter⟩ := h.cut?_of_cons
    rw [join_cons_append, ← ih hafter, replaceAll_of_cut?_eq_some hname hcut]

/-- A name does not occur across a character that it does not hold. -/
theorem infix_or_infix_of_notMem {c : Char} (hc : c ∉ name) {front back : Text}
    (h : name <:+: front ++ c :: back) : name <:+: front ∨ name <:+: back := by
  obtain ⟨left, right, hsplit⟩ := h
  rw [List.append_assoc] at hsplit
  rcases List.append_eq_append_iff.mp hsplit with ⟨gap, rfl, hrest⟩ | ⟨gap, rfl, hrest⟩
  · rcases List.append_eq_append_iff.mp hrest with ⟨more, rfl, -⟩ | ⟨beyond, rfl, hbeyond⟩
    · exact Or.inl ⟨left, more, by simp⟩
    · -- the name would go on to the character
      cases beyond with
      | nil => exact Or.inl ⟨left, [], by simp⟩
      | cons d beyond =>
        obtain ⟨rfl, -⟩ := List.cons.inj hbeyond
        exact absurd (List.mem_append_right gap List.mem_cons_self) hc
  · cases gap with
    | nil =>
      cases name with
      | nil => exact Or.inl List.nil_infix
      | cons d name =>
        obtain ⟨rfl, -⟩ := List.cons.inj hrest
        exact absurd List.mem_cons_self hc
    | cons d gap =>
      obtain ⟨-, rfl⟩ := List.cons.inj hrest
      exact Or.inr ⟨gap, right, by simp⟩

/-- A name does not reach into a value with which it shares no character. -/
theorem infix_of_disjoint {back : Text} (hvalue : ∀ c ∈ value, c ∉ name)
    (h : name <:+: value ++ back) : name <:+: back := by
  induction value with
  | nil => exact h
  | cons c value ih =>
    obtain ⟨hc, hlater⟩ := List.forall_mem_cons.mp hvalue
    have hfirst : name <:+: [] ++ c :: (value ++ back) := h
    rcases infix_or_infix_of_notMem hc hfirst with hnil | hrest
    · rw [List.infix_nil.mp hnil]
      exact List.nil_infix
    · exact ih hlater hrest

/-- A name does not occur in pieces with a value between them with which it shares no character. -/
theorem IsCut.not_infix_join (h : IsCut name text pieces last) (hname : name ≠ [])
    (hne : value ≠ []) (hvalue : ∀ c ∈ value, c ∉ name) :
    ¬ name <:+: join value (pieces ++ [last]) := by
  induction pieces generalizing text with
  | nil => simpa [join] using h.free
  | cons piece pieces ih =>
    obtain ⟨after, -, hafter⟩ := h.cut?_of_cons
    obtain ⟨c, rest, rfl⟩ := List.exists_cons_of_ne_nil hne
    obtain ⟨hc, hrest⟩ := List.forall_mem_cons.mp hvalue
    rw [join_cons_append, List.append_assoc, List.cons_append]
    intro hoccurs
    rcases infix_or_infix_of_notMem hc hoccurs with hpiece | hlater
    · exact PrecedesFirst.not_infix (h.first piece List.mem_cons_self) hname hpiece
    · exact ih hafter (infix_of_disjoint hrest hlater)

end Text

namespace Context

/-- A text can be cut at a name in one way only, and a definition puts its value in the place of
the name between the pieces. If the value shares no character with the name, and is not empty, then
the name does not occur in the result, and the same definition leaves it as it is. -/
theorem definition_replaces_cut (name value text : Text) (hname : name ≠ []) :
    ∃ pieces last, Text.IsCut name text pieces last ∧
      (∀ pieces' last', Text.IsCut name text pieces' last' → pieces' = pieces ∧ last' = last) ∧
      let result := Text.join value (pieces ++ [last])
      (∀ answer frame index,
        execute answer frame index [.defining name value] text = .value result) ∧
      (value ≠ [] → (∀ c ∈ value, c ∉ name) → ¬ name <:+: result ∧
        ∀ answer frame index, execute answer frame index [.defining name value] result =
          .value result) := by
  obtain ⟨pieces, last, hcut⟩ := Text.exists_isCut hname text
  refine ⟨pieces, last, hcut, fun _ _ hother => hother.unique hcut, ?_⟩
  have hexecute (current : Text) (answer : Request → Run Text) (frame : Frame) (index : Int) :
      execute answer frame index [.defining name value] current =
        .value (Text.replaceAll name value current) := rfl
  intro result
  refine ⟨fun answer frame index => ?_, fun hne hvalue => ?_⟩
  · rw [hexecute, hcut.replaceAll_eq hname]
  · have hgone : ¬ name <:+: result := hcut.not_infix_join hname hne hvalue
    refine ⟨hgone, fun answer frame index => ?_⟩
    rw [hexecute, Text.replaceAll_of_cut?_eq_none hname ((Text.cut?_eq_none_iff _ _).mpr hgone)]

/-- Of two occurrences that overlap, the first one is replaced, and no other is left. -/
theorem overlappingName_replaced :
    ∃ pieces last, Text.IsCut "aa".toList "aaabaaa".toList pieces last ∧
      Text.join "x".toList (pieces ++ [last]) = "xabxa".toList ∧
      ¬ "aa".toList <:+: "xabxa".toList := by
  obtain ⟨pieces, last, hcut, -, hresult, hgone⟩ :=
    definition_replaces_cut "aa".toList "x".toList "aaabaaa".toList (by decide)
  have hexecute : execute (fun _ => .exhausted) ⟨.here, none, []⟩ 0
      [.defining "aa".toList "x".toList] "aaabaaa".toList = .value "xabxa".toList := by
    decide +kernel
  have hjoin : Text.join "x".toList (pieces ++ [last]) = "xabxa".toList := by
    rw [hresult] at hexecute
    exact Outcome.done.inj (congrArg Run.outcome hexecute)
  refine ⟨pieces, last, hcut, hjoin, ?_⟩
  rw [← hjoin]
  exact (hgone (by decide) (by simp)).1

end Context

end TextMacro
