import Mathlib.Order.Bounds.Basic
import TextMacro.Position
import TextMacro.Proofs.ArgumentRun

/-!
# Counted brackets

Where an argument ends can be said by counting alone. The net count of a kind of bracket in a run of
tokens is the number of tokens that open it less the number of those that close it. An argument ends
before the first blank up to which no net count is above zero, and if there is no such blank, with
the last token; only there a net count can be above zero, and the first kind of bracket for which it
is becomes the error.

The levels that are kept while tokens are read are these net counts, so nothing else about the
brackets has a say: it does not matter how they are nested or whether they cross. A net count below
zero is no error, but it is a difference as any other, and brackets of that kind that are opened
later only make up for it.
-/

namespace TextMacro

namespace Bracket

/-- The kinds of bracket, in the order in which an open one is reported. -/
def all : List Bracket :=
  [round, square, curly]

/-- How many more of the tokens open a bracket than close it. -/
def netCount (bracket : Bracket) (tokens : List Token) : Int :=
  tokens.countP (·.value = [bracket.opening]) - tokens.countP (·.value = [bracket.closing])

/-- The first kind of bracket that more of the tokens open than close. -/
def firstOpen? (tokens : List Token) : Option Bracket :=
  all.find? fun bracket => 0 < bracket.netCount tokens

/-- Brackets of different kinds are opened by different characters. -/
theorem opening_injective : Function.Injective opening := by
  rintro (_ | _ | _) (_ | _ | _) <;> simp [opening]

/-- Among no tokens there is nothing to count. -/
@[simp]
theorem netCount_nil (bracket : Bracket) : bracket.netCount [] = 0 := rfl

/-- Each token counts with its weight. -/
theorem netCount_cons (bracket : Bracket) (token : Token) (tokens : List Token) :
    bracket.netCount (token :: tokens) = bracket.weight token + bracket.netCount tokens := by
  have hdiffer : [bracket.opening] ≠ [bracket.closing] := by cases bracket <;> decide
  rw [netCount, netCount, List.countP_cons, List.countP_cons, weight]
  simp only [decide_eq_true_eq]
  split_ifs with hopening hclosing
  · exact absurd (hopening.symm.trans hclosing) hdiffer
  all_goals omega

/-- The net counts of tokens one after another add up. -/
theorem netCount_append (bracket : Bracket) (front back : List Token) :
    bracket.netCount (front ++ back) = bracket.netCount front + bracket.netCount back := by
  rw [netCount, netCount, netCount, List.countP_append, List.countP_append]
  omega

/-- A kind of bracket is the first open one only if its net count is above zero. -/
theorem netCount_pos_of_firstOpen? {bracket : Bracket} {tokens : List Token}
    (h : firstOpen? tokens = some bracket) : 0 < bracket.netCount tokens := by
  simpa using List.find?_some h

/-- There is no first open bracket exactly when no net count is above zero. -/
theorem firstOpen?_eq_none_iff (tokens : List Token) :
    firstOpen? tokens = none ↔ ∀ bracket : Bracket, bracket.netCount tokens ≤ 0 := by
  have hall (bracket : Bracket) : bracket ∈ all := by cases bracket <;> decide
  simp only [firstOpen?, List.find?_eq_none, decide_eq_true_eq, Int.not_lt, hall, true_implies]

end Bracket

namespace Levels

/-- Tokens that are read add their net counts to the levels. -/
theorem get_foldl_add (levels : Levels) (tokens : List Token) (bracket : Bracket) :
    (tokens.foldl add levels).get bracket = levels.get bracket + bracket.netCount tokens := by
  induction tokens generalizing levels with
  | nil => simp
  | cons token tokens ih =>
    rw [List.foldl_cons, ih, get_add, Bracket.netCount_cons, Int.add_assoc]

/-- The levels after a run of tokens are its net counts. -/
theorem get_ofTokens (tokens : List Token) (bracket : Bracket) :
    (ofTokens tokens).get bracket = bracket.netCount tokens := by
  rw [ofTokens, get_foldl_add]
  cases bracket <;> exact Int.zero_add _

/-- The bracket that is reported is the first one whose level is above zero. -/
theorem open?_eq_find? (levels : Levels) :
    levels.open? = Bracket.all.find? fun bracket => 0 < levels.get bracket := by
  simp only [open?, Bracket.all, List.find?_cons, List.find?_nil, get]
  split_ifs <;> simp only [*, decide_true, decide_false]

/-- The bracket that is reported after a run of tokens is the first one that more of them open than
close. -/
theorem open?_ofTokens (tokens : List Token) :
    (ofTokens tokens).open? = Bracket.firstOpen? tokens := by
  simp only [open?_eq_find?, get_ofTokens, Bracket.firstOpen?]

end Levels

namespace Argument

variable {tokens taken rest : List Token} {cursor place stop : Nat}

/-- A blank stands at a place, and no net count of the tokens from the cursor up to it is above
zero. -/
structure EndsBefore (tokens : List Token) (cursor place : Nat) : Prop where
  reached : cursor ≤ place
  blank : ∃ token, tokens[place]? = some token ∧ token.isBlank = true
  closed : ∀ bracket : Bracket, bracket.netCount (tokens.extract cursor place) ≤ 0

/-- The least place before which the argument at the cursor can end, or the end of the tokens if
there is none. -/
def IsEnd (tokens : List Token) (cursor stop : Nat) : Prop :=
  IsLeast {place | EndsBefore tokens cursor place} stop ∨
    (∀ place, ¬ EndsBefore tokens cursor place) ∧ stop = max cursor tokens.length

/-- An argument has one end. -/
theorem IsEnd.unique {stop' : Nat} (h : IsEnd tokens cursor stop)
    (h' : IsEnd tokens cursor stop') : stop = stop' := by
  rcases h with hleast | ⟨hnone, hstop⟩
  · rcases h' with hleast' | ⟨hnone', -⟩
    · exact hleast.unique hleast'
    · exact absurd hleast.1 (hnone' stop)
  · rcases h' with hleast' | ⟨-, hstop'⟩
    · exact absurd hleast'.1 (hnone stop')
    · rw [hstop, hstop']

/-- A net count is above zero only in an argument that ends with the last token. -/
theorem IsEnd.eq_length {bracket : Bracket} (h : IsEnd tokens cursor stop)
    (hopen : 0 < bracket.netCount (tokens.extract cursor stop)) : stop = tokens.length := by
  rcases h with hleast | ⟨-, rfl⟩
  · have hclosed := hleast.1.closed bracket
    omega
  · by_cases hcursor : cursor ≤ tokens.length
    · exact Nat.max_eq_right hcursor
    · have hnil : tokens.drop cursor = [] := List.drop_eq_nil_of_le (by omega)
      rw [List.extract_eq_take_drop, hnil, List.take_nil, Bracket.netCount_nil] at hopen
      omega

/-- What is taken from a cursor on and what is left are the tokens from there on. -/
theorem drop_eq_of_span (h : span .zero (tokens.drop cursor) = (taken, rest)) :
    tokens.drop cursor = taken ++ rest := by
  have happend := span_append .zero (tokens.drop cursor)
  rw [h] at happend
  exact happend.symm

/-- The tokens from a cursor up to a place are those that are taken before it. -/
theorem extract_eq_take {count : Nat} (hdrop : tokens.drop cursor = taken ++ rest)
    (hcount : count ≤ taken.length) :
    tokens.extract cursor (cursor + count) = taken.take count := by
  rw [List.extract_eq_take_drop, Nat.add_sub_cancel_left, hdrop,
    List.take_append_of_le_length hcount]

/-- The tokens up to where an argument ends are those that are taken. -/
theorem extract_of_span (h : span .zero (tokens.drop cursor) = (taken, rest)) :
    tokens.extract cursor (cursor + taken.length) = taken := by
  rw [extract_eq_take (drop_eq_of_span h) (Nat.le_refl _), List.take_length]

/-- An argument does not end before a blank that is taken: a bracket is open there. -/
theorem not_endsBefore_of_span (h : span .zero (tokens.drop cursor) = (taken, rest))
    (hplace : place < cursor + taken.length) : ¬ EndsBefore tokens cursor place := by
  rintro ⟨hreached, ⟨blank, hat, hblank⟩, hclosed⟩
  obtain ⟨count, rfl⟩ := Nat.exists_eq_add_of_le hreached
  have hdrop := drop_eq_of_span h
  have hcount : count < taken.length := by omega
  have hsplit : taken = taken.take count ++ blank :: taken.drop (count + 1) := by
    rw [← List.getElem?_drop, hdrop, List.getElem?_append_left hcount] at hat
    obtain ⟨_, hblankAt⟩ := List.getElem?_eq_some_iff.mp hat
    rw [← hblankAt, List.getElem_cons_drop, List.take_append_drop]
  have htaken : (span .zero (tokens.drop cursor)).1 = taken := congrArg Prod.fst h
  obtain ⟨bracket, hopen⟩ : ∃ bracket, 0 < (Levels.ofTokens (taken.take count)).get bracket :=
    (Levels.open?_ne_none_iff _).mp (open?_ne_none_of_span (htaken.trans hsplit) hblank)
  have hnet := hclosed bracket
  rw [extract_eq_take hdrop hcount.le, ← Levels.get_ofTokens] at hnet
  omega

/-- What is taken from a cursor on ends where the argument does. -/
theorem isEnd_of_span (h : span .zero (tokens.drop cursor) = (taken, rest)) :
    IsEnd tokens cursor (cursor + taken.length) := by
  have hdrop := drop_eq_of_span h
  cases rest with
  | nil =>
    have hlength := congrArg List.length hdrop
    rw [List.append_nil, List.length_drop] at hlength
    refine Or.inr ⟨fun place hends => ?_, by omega⟩
    obtain ⟨token, hat, -⟩ := hends.blank
    obtain ⟨hlt, -⟩ := List.getElem?_eq_some_iff.mp hat
    exact not_endsBefore_of_span h (by omega) hends
  | cons token rest =>
    have hstops : token.isBlank = true ∧ (Levels.ofTokens taken).open? = none := by
      have hspan := span_stops (congrArg (fun parts => parts.2.head?) h)
      rwa [h] at hspan
    refine Or.inl ⟨⟨Nat.le_add_right _ _, ⟨token, ?_, hstops.1⟩, fun bracket => ?_⟩, ?_⟩
    · rw [← List.getElem?_drop, hdrop, List.getElem?_append_right (Nat.le_refl _), Nat.sub_self,
        List.getElem?_cons_zero]
    · rw [extract_of_span h, ← Levels.get_ofTokens]
      exact (Levels.open?_eq_none_iff _).mp hstops.2 bracket
    · intro place hends
      exact Nat.le_of_not_lt fun hlt => not_endsBefore_of_span h hlt hends

/-- Every argument has an end. -/
theorem exists_isEnd (tokens : List Token) (cursor : Nat) : ∃ stop, IsEnd tokens cursor stop :=
  ⟨_, isEnd_of_span rfl⟩

/-- What is read at a cursor, by the net counts of the tokens up to the end of the argument. -/
theorem readArgument_of_isEnd (h : IsEnd tokens cursor stop) :
    Position.readArgument tokens (.number cursor) =
      match Bracket.firstOpen? (tokens.extract cursor stop) with
      | some bracket => .error (.unmatchedToken [bracket.opening])
      | none => .ok ((tokens.extract cursor stop).flatMap Token.value, .number stop) := by
  obtain ⟨taken, rest, hspan⟩ : ∃ taken rest, span .zero (tokens.drop cursor) = (taken, rest) :=
    ⟨_, _, rfl⟩
  obtain rfl := h.unique (isEnd_of_span hspan)
  rw [Position.readArgument_natCast, readAt, read, extract_of_span hspan, hspan]
  dsimp only
  rw [Levels.open?_ofTokens]
  cases Bracket.firstOpen? taken <;> rfl

/-- Where an argument is an error, the first kind of bracket with a net count above zero is
reported. -/
theorem readArgument_eq_error_iff (h : IsEnd tokens cursor stop) (cause : Cause) :
    Position.readArgument tokens (.number cursor) = .error cause ↔
      ∃ bracket, Bracket.firstOpen? (tokens.extract cursor stop) = some bracket ∧
        cause = .unmatchedToken [bracket.opening] := by
  rw [readArgument_of_isEnd h]
  cases Bracket.firstOpen? (tokens.extract cursor stop) with
  | none => simp
  | some bracket => simp [eq_comm]

/-- An argument is an error exactly if a net count is above zero. -/
theorem exists_readArgument_eq_error_iff (h : IsEnd tokens cursor stop) :
    (∃ cause, Position.readArgument tokens (.number cursor) = .error cause) ↔
      ∃ bracket : Bracket, 0 < bracket.netCount (tokens.extract cursor stop) := by
  constructor
  · rintro ⟨cause, hcause⟩
    obtain ⟨bracket, hfirst, -⟩ := (readArgument_eq_error_iff h cause).mp hcause
    exact ⟨bracket, Bracket.netCount_pos_of_firstOpen? hfirst⟩
  · rintro ⟨bracket, hopen⟩
    cases hfirst : Bracket.firstOpen? (tokens.extract cursor stop) with
    | none =>
      have hclosed := (Bracket.firstOpen?_eq_none_iff _).mp hfirst bracket
      omega
    | some first => exact ⟨_, (readArgument_eq_error_iff h _).mpr ⟨first, hfirst, rfl⟩⟩

/-- Without a net count above zero, the tokens up to its end make up the argument. -/
theorem readArgument_of_netCount_le (h : IsEnd tokens cursor stop)
    (hclosed : ∀ bracket : Bracket, bracket.netCount (tokens.extract cursor stop) ≤ 0) :
    Position.readArgument tokens (.number cursor) =
      .ok ((tokens.extract cursor stop).flatMap Token.value, .number stop) := by
  rw [readArgument_of_isEnd h, (Bracket.firstOpen?_eq_none_iff _).mpr hclosed]

/-- The tokens from a cursor up to a place are divided at each place between them. -/
theorem extract_append_extract (hplace : cursor ≤ place) (hstop : place ≤ stop) :
    tokens.extract cursor place ++ tokens.extract place stop = tokens.extract cursor stop := by
  obtain ⟨before, rfl⟩ := Nat.exists_eq_add_of_le hplace
  obtain ⟨after, rfl⟩ := Nat.exists_eq_add_of_le hstop
  have hcount : cursor + before + after - cursor = before + after := by omega
  rw [List.extract_eq_take_drop, List.extract_eq_take_drop, List.extract_eq_take_drop,
    Nat.add_sub_cancel_left, Nat.add_sub_cancel_left, hcount, List.take_add, List.drop_drop]

/-- A kind of bracket is not reported if what is opened too much from some place on was closed too
much before. -/
theorem readArgument_ne_of_netCount_le {bracket : Bracket} (h : IsEnd tokens cursor stop)
    (hplace : cursor ≤ place) (hstop : place ≤ stop)
    (hcancel : bracket.netCount (tokens.extract place stop) ≤
      -bracket.netCount (tokens.extract cursor place)) :
    Position.readArgument tokens (.number cursor) ≠ .error (.unmatchedToken [bracket.opening]) := by
  intro hreported
  obtain ⟨first, hfirst, hsame⟩ := (readArgument_eq_error_iff h _).mp hreported
  obtain rfl : bracket = first := Bracket.opening_injective (by simpa using hsame)
  have hopen := Bracket.netCount_pos_of_firstOpen? hfirst
  rw [← extract_append_extract hplace hstop, Bracket.netCount_append] at hopen
  omega

/-- The argument at a cursor is what counting makes of the tokens from there on: it has one end, and
is made up of the tokens before it. It is an error exactly if one of their net counts is above zero,
which can be only at the end of the tokens, and the first such kind of bracket is reported. A kind
of bracket is not reported if it is closed before some place at least as much too often as it is
opened too often after it. -/
theorem readArgument_by_counting (tokens : List Token) (cursor : Nat) :
    ∃ stop, (∀ place, IsEnd tokens cursor place ↔ place = stop) ∧
      let run := tokens.extract cursor stop
      let result := Position.readArgument tokens (.number cursor)
      ((∃ cause, result = .error cause) ↔ ∃ bracket : Bracket, 0 < bracket.netCount run) ∧
      (∀ cause, result = .error cause → ∃ bracket, Bracket.firstOpen? run = some bracket ∧
        cause = .unmatchedToken [bracket.opening]) ∧
      (∀ bracket : Bracket, 0 < bracket.netCount run → stop = tokens.length) ∧
      ((∀ bracket : Bracket, bracket.netCount run ≤ 0) →
        result = .ok (run.flatMap Token.value, .number stop)) ∧
      ∀ place, cursor ≤ place → place ≤ stop → ∀ bracket : Bracket,
        bracket.netCount (tokens.extract place stop) ≤
          -bracket.netCount (tokens.extract cursor place) →
        result ≠ .error (.unmatchedToken [bracket.opening]) := by
  obtain ⟨stop, hend⟩ := exists_isEnd tokens cursor
  refine ⟨stop, fun place => ⟨fun hplace => hplace.unique hend, fun hplace => hplace ▸ hend⟩,
    exists_readArgument_eq_error_iff hend, ?_, ?_, readArgument_of_netCount_le hend, ?_⟩
  · intro cause
    exact (readArgument_eq_error_iff hend cause).mp
  · intro bracket
    exact hend.eq_length
  · intro place hplace hstop bracket
    exact readArgument_ne_of_netCount_le hend hplace hstop

/-- Brackets that cross, one that is closed before it is opened, and two that are left open. -/
def crossed : List Token :=
  tokenize "[)( (] ) \x7b [".toList

/-- The first argument ends at the first blank at which the brackets are balanced, the one that is
closed first included. Of the two that are left open in the second one, the one that is opened last
is reported. -/
theorem crossed_counted :
    IsEnd crossed 0 8 ∧
    Position.readArgument crossed (.number 0) = .ok ("[)( (] )".toList, .number 8) ∧
    IsEnd crossed 9 12 ∧
    Position.readArgument crossed (.number 9) = .error (.unmatchedToken ['[']) := by
  obtain ⟨stop, hend, herror, -, -, hok, -⟩ := readArgument_by_counting crossed 0
  obtain ⟨stop', hend', herror', -, hlast, -⟩ := readArgument_by_counting crossed 9
  have hfirst : readAt crossed 0 = .ok ("[)( (] )".toList, 8) := by decide +kernel
  have hsecond : readAt crossed 9 = .error .square := by decide +kernel
  have hread : Position.readArgument crossed (.number 0) = .ok ("[)( (] )".toList, .number 8) := by
    refine (Position.readArgument_natCast crossed 0).trans ?_
    rw [hfirst]
    rfl
  have hreported : Position.readArgument crossed (.number 9) = .error (.unmatchedToken ['[']) := by
    refine (Position.readArgument_natCast crossed 9).trans ?_
    rw [hsecond]
    rfl
  have hclosed (bracket : Bracket) : bracket.netCount (crossed.extract 0 stop) ≤ 0 := by
    apply Int.not_lt.mp
    intro hopen
    obtain ⟨cause, hcause⟩ := herror.mpr ⟨bracket, hopen⟩
    cases hread.symm.trans hcause
  obtain ⟨bracket, hopen⟩ := herror'.mp ⟨_, hreported⟩
  refine ⟨(hend 8).mpr ?_, hread, (hend' 12).mpr ?_, hreported⟩
  · have hsame := Except.ok.inj (hread.symm.trans (hok hclosed))
    have hcursor := Value.number.inj (Prod.mk.inj hsame).2
    omega
  · rw [hlast bracket hopen]
    decide +kernel

end Argument

end TextMacro
