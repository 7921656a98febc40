import TextMacro.Proofs.LeftmostBlock
import TextMacro.Proofs.Segmentation

/-!
# Arguments are clean pieces of the body

An argument starts where blanks were skipped, so its first token is not blank. Its last one is not
blank either: a blank belongs to an argument only while a bracket is open, and it closes none, so an
argument with a blank at its end would not be complete. A token that is not blank begins and ends
with characters that are not blank, and so does every argument. The arguments of a body stand in it
one after another.

It follows that no handler is ever called with an empty argument, or with blanks at the ends of one:
what it would do then makes no difference to any build.
-/

namespace TextMacro

/-- Pieces that stand in a list one after another, with anything between them. -/
inductive InOrder {α : Type} : List (List α) → List α → Prop
  | nil {rest : List α} : InOrder [] rest
  | cons {gap piece rest : List α} {pieces : List (List α)} : InOrder pieces rest →
    InOrder (piece :: pieces) (gap ++ (piece ++ rest))

namespace InOrder

variable {α β : Type} {pieces : List (List α)} {whole : List α}

/-- Pieces stand in order also if something is put in front. -/
theorem append_left (front : List α) (h : InOrder pieces whole) :
    InOrder pieces (front ++ whole) := by
  cases h with
  | nil => exact .nil
  | cons hrest =>
    rw [← List.append_assoc]
    exact .cons hrest

/-- A piece stands in front of pieces in order, with a gap after it. -/
theorem cons_gap (piece gap : List α) (h : InOrder pieces whole) :
    InOrder (piece :: pieces) (piece ++ (gap ++ whole)) := by
  rw [← List.nil_append (piece ++ _)]
  exact .cons (h.append_left gap)

/-- Pieces stand in order if they do so in two parts. -/
theorem append {later : List (List α)} {rest : List α} (h : InOrder pieces whole)
    (hlater : InOrder later rest) : InOrder (pieces ++ later) (whole ++ rest) := by
  induction h with
  | @nil front => exact hlater.append_left front
  | cons _ ih =>
    rw [List.cons_append, List.append_assoc, List.append_assoc]
    exact .cons ih

/-- The members of a piece are members of the whole. -/
theorem subset (h : InOrder pieces whole) {piece : List α} (hpiece : piece ∈ pieces) :
    piece ⊆ whole := by
  induction h with
  | nil => cases hpiece
  | @cons gap first rest pieces _ ih =>
    rcases List.mem_cons.mp hpiece with rfl | hlater
    · exact List.subset_append_of_subset_right gap (List.subset_append_left _ _)
    · exact List.subset_append_of_subset_right gap
        (List.subset_append_of_subset_right first (ih hlater))

/-- What pieces are made of stands in order in what the whole is made of. -/
theorem flatMap (h : InOrder pieces whole) (parts : α → List β) :
    InOrder (pieces.map (·.flatMap parts)) (whole.flatMap parts) := by
  induction h with
  | nil => exact .nil
  | cons _ ih =>
    rw [List.map_cons, List.flatMap_append, List.flatMap_append]
    exact .cons ih

end InOrder

/-- Pieces in order have offsets in the text, each of which is not before the end of the piece
before. -/
theorem InOrder.exists_offsets {pieces : List Text} {text : Text} (h : InOrder pieces text)
    (front : Text) :
    ∃ placed : List (Nat × Text), placed.map Prod.snd = pieces ∧
      (∀ piece ∈ placed, front.length ≤ piece.1 ∧
        Text.OccursAt piece.2 (front ++ text) piece.1) ∧
      placed.Pairwise fun piece later => piece.1 + piece.2.length ≤ later.1 := by
  induction h generalizing front with
  | nil => exact ⟨[], rfl, by simp, .nil⟩
  | @cons gap piece rest pieces _ ih =>
    obtain ⟨placed, hpieces, hstands, hapart⟩ := ih (front ++ gap ++ piece)
    have htext : front ++ (gap ++ (piece ++ rest)) = front ++ gap ++ piece ++ rest := by
      simp only [List.append_assoc]
    refine ⟨((front ++ gap).length, piece) :: placed, by rw [List.map_cons, hpieces], ?_, ?_⟩
    · intro other hother
      rcases List.mem_cons.mp hother with rfl | hlater
      · constructor
        · rw [List.length_append]
          exact Nat.le_add_right _ _
        · rw [← List.append_assoc]
          exact Text.occursAt_length _ _ _
      · obtain ⟨hle, hoccurs⟩ := hstands other hlater
        rw [htext]
        refine ⟨?_, hoccurs⟩
        simp only [List.length_append] at hle
        omega
    · refine List.pairwise_cons.mpr ⟨fun later hlater => ?_, hapart⟩
      rw [← List.length_append]
      exact (hstands later hlater).1

/-- The runs of an item: those of the arguments of a call. -/
def Item.runs : Item → List (List Token)
  | ignored _ => []
  | call _ _ runs => runs

open Argument

variable {registry : Registry} {tokens rest run : List Token} {items : List Item}

/-- Runs stand in order before those of the tokens after them. -/
theorem Runs.inOrder {runs later : List (List Token)} (h : Runs tokens runs rest)
    (hlater : InOrder later rest) : InOrder (runs ++ later) tokens := by
  induction h with
  | done => exact hlater
  | @run run blanks tokens rest runs _ _ _ ih => exact (ih hlater).cons_gap run blanks

/-- The runs of the items of a body stand in it in order. -/
theorem Splits.inOrder (h : Splits registry tokens items rest) :
    InOrder (items.flatMap Item.runs) tokens := by
  induction h with
  | done => exact .nil
  | @ignored token tokens rest items _ _ ih => exact ih.append_left [token]
  | @call name command blanks tokens after rest runs items _ _ _ hruns _ _ ih =>
    exact (hruns.inOrder ih).append_left (name :: blanks)

/-- Runs are runs before some tokens. -/
theorem Runs.isRun_of_mem {runs : List (List Token)} (h : Runs tokens runs rest)
    (hrun : run ∈ runs) : ∃ after, IsRun run after := by
  induction h with
  | done => cases hrun
  | run hfirst _ _ ih =>
    rcases List.mem_cons.mp hrun with rfl | hlater
    · exact ⟨_, hfirst⟩
    · exact ih hlater

/-- The runs of items are runs before some tokens. -/
theorem Splits.isRun_of_mem (h : Splits registry tokens items rest)
    (hrun : run ∈ items.flatMap Item.runs) : ∃ after, IsRun run after := by
  induction h with
  | done => cases hrun
  | ignored _ _ ih => exact ih hrun
  | call _ _ _ hruns _ _ ih =>
    rw [List.flatMap_cons, List.mem_append] at hrun
    rcases hrun with hown | hlater
    · exact hruns.isRun_of_mem hown
    · exact ih hlater

/-- The arguments of calls are the texts of their runs. -/
theorem flatMap_args_invocations (items : List Item) :
    (items.filterMap Item.invocation?).flatMap Invocation.args =
      (items.flatMap Item.runs).map (·.flatMap Token.value) := by
  induction items with
  | nil => rfl
  | cons item items ih =>
    cases item with
    | ignored token => exact ih
    | call name command runs =>
      rw [List.flatMap_cons, List.map_append, ← ih]
      rfl

/-- A text that is not empty and neither begins nor ends with a blank. -/
structure Text.IsClean (text : Text) : Prop where
  nonempty : text ≠ []
  begins : ∀ c, text.head? = some c → Text.isBlank c = false
  ends : ∀ c, text.getLast? = some c → Text.isBlank c = false

/-- A text without blanks is clean. -/
theorem Text.isClean_of_forall {text : Text} (hne : text ≠ [])
    (h : ∀ c ∈ text, Text.isBlank c = false) : text.IsClean where
  nonempty := hne
  begins := fun c hc => h c (List.mem_of_head? hc)
  ends := fun c hc => h c (List.mem_of_getLast? hc)

/-- A part of a word is not blank. -/
theorem Text.isBlank_of_isNamePart {c : Char} (h : isNamePart c = true) : isBlank c = false := by
  apply Bool.eq_false_iff.mpr
  intro hblank
  rw [isNamePart_of_isBlank hblank] at h
  cases h

/-- A token that is not blank is clean. -/
theorem Token.CalledFor.isClean {text : Text} {token : Token} (h : CalledFor text token)
    (hblank : token.isBlank = false) : token.value.IsClean := by
  have hne := h.value_ne_nil
  cases h with
  | directive _ hrun =>
    refine Text.isClean_of_forall hne fun c hc => ?_
    rcases List.mem_cons.mp hc with rfl | hc
    · rfl
    · exact Text.isBlank_of_isNamePart (Bool.or_eq_true_iff.mpr (Or.inl (hrun.holds c hc)))
  | string _ hstring =>
    obtain ⟨quote, inside, after, hkind, -, -, -, rfl⟩ := hstring
    have hquote : Text.isBlank quote = false := by
      rcases hkind with rfl | rfl <;> rfl
    refine ⟨hne, fun c hc => ?_, fun c hc => ?_⟩
    · rwa [← Option.some.inj hc]
    · rw [← List.cons_append, List.getLast?_concat] at hc
      rwa [← Option.some.inj hc]
  | word _ _ hrun =>
    exact Text.isClean_of_forall hne fun c hc => Text.isBlank_of_isNamePart (hrun.holds c hc)
  | char =>
    refine Text.isClean_of_forall hne fun c hc => ?_
    rw [List.mem_singleton.mp hc]
    simpa [isBlank] using hblank

/-- Each token of a text that is not blank is clean. -/
theorem isClean_of_mem_tokenize {text : Text} {token : Token} (h : token ∈ tokenize text)
    (hblank : token.isBlank = false) : token.value.IsClean := by
  obtain ⟨front, back, hsplit⟩ := List.append_of_mem h
  exact (calledFor_of_append hsplit).isClean hblank

/-- A blank token is no bracket. -/
theorem Bracket.weight_of_isBlank (bracket : Bracket) {token : Token}
    (h : token.isBlank = true) : bracket.weight token = 0 := by
  have hopening : token.value ≠ [bracket.opening] := by
    intro hvalue
    rw [Token.isBlank, hvalue] at h
    cases bracket <;> simp [opening, Text.isBlank] at h
  have hclosing : token.value ≠ [bracket.closing] := by
    intro hvalue
    rw [Token.isBlank, hvalue] at h
    cases bracket <;> simp [closing, Text.isBlank] at h
  rw [weight, if_neg hopening, if_neg hclosing]

/-- The last token of a run is not blank: a bracket would be open before it, and still be open at
the end of the run. -/
theorem Argument.IsRun.isBlank_getLast {last : Token} (h : IsRun run rest)
    (hlast : run.getLast? = some last) : last.isBlank = false := by
  apply Bool.eq_false_iff.mpr
  intro hblank
  obtain ⟨before, rfl⟩ := List.getLast?_eq_some_iff.mp hlast
  obtain ⟨bracket, hopen⟩ := h.holds before last [] rfl hblank
  have hclosed := h.closed bracket
  rw [Levels.ofTokens, List.foldl_append, List.foldl_cons, List.foldl_nil, Levels.get_add,
    bracket.weight_of_isBlank hblank] at hclosed
  rw [Levels.ofTokens] at hopen
  omega

/-- The text of a run of clean tokens and blanks is clean. -/
theorem Argument.IsRun.isClean (h : IsRun run rest)
    (hclean : ∀ token ∈ run, token.isBlank = false → token.value.IsClean) :
    Text.IsClean (run.flatMap Token.value) := by
  obtain ⟨first, others, hrun, hfirst⟩ := h.starts
  have hbegins := hclean first (by simp [hrun]) hfirst
  obtain ⟨last, hlast⟩ : ∃ last, run.getLast? = some last := by
    rw [hrun]
    exact ⟨_, List.getLast?_cons⟩
  have hends := hclean last (List.mem_of_getLast? hlast) (h.isBlank_getLast hlast)
  have hfront : run.flatMap Token.value = first.value ++ others.flatMap Token.value := by
    rw [hrun, List.flatMap_cons]
  refine ⟨?_, fun c hc => ?_, fun c hc => ?_⟩
  · rw [hfront]
    exact List.append_ne_nil_of_left_ne_nil hbegins.nonempty _
  · rw [hfront, List.head?_append_of_ne_nil _ hbegins.nonempty] at hc
    exact hbegins.begins c hc
  · obtain ⟨before, hbefore⟩ := List.getLast?_eq_some_iff.mp hlast
    rw [hbefore, List.flatMap_append, List.flatMap_singleton,
      List.getLast?_append_of_ne_nil _ hends.nonempty] at hc
    exact hends.ends c hc

/-- The items of a body that is parsed. -/
theorem exists_splits_of_parse {body : Text} {invocations : List Invocation}
    (h : (parse registry body).result = .ok invocations) :
    ∃ items, Splits registry (tokenize body) items [] ∧
      invocations = items.filterMap Item.invocation? := by
  have hnameless := blanksNameless_tokenize body
  obtain ⟨herror, rfl⟩ := (Parse.result_eq_ok_iff _ _).mp h
  rw [parse] at herror ⊢
  obtain ⟨items, rest, hsplits, hhalts⟩ := splits_of_parseTokens registry _ hnameless
  rw [herror] at hhalts
  obtain rfl : rest = [] := hhalts
  refine ⟨items, hsplits, ?_⟩
  rw [hsplits.parseTokens_eq hnameless, parseTokens]
  exact List.append_nil _

/-- The arguments of a body that is parsed are clean. -/
theorem isClean_of_parse {body : Text} {invocations : List Invocation}
    (h : (parse registry body).result = .ok invocations) :
    ∀ argument ∈ invocations.flatMap Invocation.args, Text.IsClean argument := by
  obtain ⟨items, hsplits, rfl⟩ := exists_splits_of_parse h
  intro argument hargument
  rw [flatMap_args_invocations] at hargument
  obtain ⟨run, hrun, rfl⟩ := List.mem_map.mp hargument
  obtain ⟨after, hisRun⟩ := hsplits.isRun_of_mem hrun
  apply hisRun.isClean
  intro token htoken
  exact isClean_of_mem_tokenize (hsplits.inOrder.subset hrun htoken)

/-- The command with another handler in the place of its own. -/
def Command.rehandle (change : Command → Handler) (command : Command) : Command :=
  { command with handler := change command }

/-- The registry with other handlers for its commands. -/
def Registry.rehandle (change : Command → Handler) (registry : Registry) : Registry :=
  ⟨registry.commands.map (Command.rehandle change)⟩

/-- The invocation with another handler for its command. -/
def Invocation.rehandle (change : Command → Handler) (invocation : Invocation) : Invocation :=
  ⟨invocation.command.rehandle change, invocation.args⟩

variable (change : Command → Handler)

/-- A command takes as many arguments as before. -/
@[simp]
theorem Command.arity_rehandle (command : Command) :
    (command.rehandle change).arity = command.arity := rfl

/-- A command is found under the same name. -/
theorem Registry.find?_rehandle (registry : Registry) (name : Text) :
    (registry.rehandle change).find? name =
      (registry.find? name).map (Command.rehandle change) := by
  rw [find?, rehandle, List.find?_map]
  rfl

/-- What is parsed does not depend on the handlers. -/
theorem parseTokens_rehandle (registry : Registry) (tokens : List Token) :
    parseTokens (registry.rehandle change) tokens =
      ⟨(parseTokens registry tokens).invocations.map (Invocation.rehandle change),
        (parseTokens registry tokens).error⟩ := by
  have hknown {name : Text} {command : Command} (h : registry.find? name = some command) :
      (registry.rehandle change).find? name = some (command.rehandle change) := by
    rw [Registry.find?_rehandle, h, Option.map_some]
  fun_induction parseTokens registry tokens with
  | case1 =>
    rw [parseTokens]
    rfl
  | case2 token tokens hname hnone =>
    apply parseTokens_unknown hname
    rw [Registry.find?_rehandle, hnone, Option.map_none]
  | case3 token tokens hname command hsome bracket hread =>
    rw [parseTokens_registered hname (hknown hsome), Command.arity_rehandle, hread]
    rfl
  | case4 token tokens hname command hsome args rest hread harity =>
    rw [parseTokens_registered hname (hknown hsome), Command.arity_rehandle, hread]
    exact if_pos harity
  | case5 token tokens hname command hsome args rest hread harity h₁ h₂ h₃ ih =>
    rw [parseTokens_registered hname (hknown hsome), Command.arity_rehandle, hread]
    dsimp only
    rw [if_neg harity, ih]
    rfl
  | case6 token tokens hname hlength ih =>
    rw [parseTokens_ignored (Bool.eq_false_iff.mpr hname), ih]

namespace Context

/-- The context with other handlers for its commands. -/
def rehandle (context : Context) : Context :=
  { context with registry := context.registry.rehandle change }

variable {change} {context : Context}

/-- Invocations are recorded by their names and arguments. -/
theorem recordAll_rehandle (invocations : List Invocation) :
    (context.rehandle change).recordAll (invocations.map (Invocation.rehandle change)) =
      context.recordAll invocations := by
  induction invocations with
  | nil => rfl
  | cons invocation invocations ih =>
    rw [List.map_cons, recordAll, recordAll, ih]
    rfl

/-- Invocations are executed alike where the handlers agree on their arguments. -/
theorem execute_rehandle {answer : Request → Run Text} {frame : Frame} {index : Int}
    {invocations : List Invocation}
    (h : ∀ invocation ∈ invocations, ∀ text,
      change invocation.command ⟨invocation.args, frame, text, index⟩ =
        invocation.command.handler ⟨invocation.args, frame, text, index⟩) (text : Text) :
    execute answer frame index (invocations.map (Invocation.rehandle change)) text =
      execute answer frame index invocations text := by
  induction invocations generalizing text with
  | nil => rfl
  | cons invocation invocations ih =>
    have hlater := ih fun other hother => h other (List.mem_cons_of_mem _ hother)
    have hfirst := h invocation List.mem_cons_self text
    rw [List.map_cons, execute, execute, funext hlater]
    simp only [Invocation.rehandle, Command.rehandle, hfirst]

/-- Handlers that agree on calls with clean arguments. -/
def AgreesOnClean (context : Context) (change : Command → Handler) : Prop :=
  ∀ command ∈ context.registry.commands, ∀ call : Call,
    (∀ argument ∈ call.args, Text.IsClean argument) → change command call = command.handler call

/-- Blocks are processed alike. -/
theorem processBlock_rehandle (h : context.AgreesOnClean change) (answer : Request → Run Text)
    (frame : Frame) (text : Text) (block : Block) :
    (context.rehandle change).processBlock answer frame text block =
      context.processBlock answer frame text block := by
  have hparse : parse (context.rehandle change).registry block.body =
      ⟨(parse context.registry block.body).invocations.map (Invocation.rehandle change),
        (parse context.registry block.body).error⟩ :=
    parseTokens_rehandle change context.registry (tokenize block.body)
  have hbody : (context.rehandle change).parseBody block.body =
      (context.parseBody block.body).andThen fun invocations =>
        .value (invocations.map (Invocation.rehandle change)) := by
    rw [parseBody, parseBody, hparse]
    dsimp only
    rw [recordAll_rehandle, Run.andThen_assoc]
    cases herror : (parse context.registry block.body).error <;>
      simp [Parse.result, herror, Run.ofExcept]
  simp only [processBlock, hbody, Run.andThen_assoc, Run.value_andThen]
  refine Run.andThen_congr _ fun _ _ => Run.andThen_congr _ fun invocations hdone => ?_
  have hresult := (context.parseBody_outcome_eq_done_iff _ _).mp hdone
  apply execute_rehandle
  intro invocation hmem text
  apply h
  · obtain ⟨-, rfl⟩ := (Parse.result_eq_ok_iff _ _).mp hresult
    exact command_mem_of_mem_parseTokens _ _ hmem
  · intro argument hargument
    exact isClean_of_parse hresult argument (List.mem_flatMap.mpr ⟨invocation, hmem, hargument⟩)

/-- Scans are alike. -/
theorem scan_rehandle (h : context.AgreesOnClean change) (answer : Request → Run Text)
    (frame : Frame) (steps : Nat) (text : Text) (position : Nat) :
    (context.rehandle change).scan answer frame steps text position =
      context.scan answer frame steps text position := by
  induction steps generalizing text position with
  | zero => rfl
  | succ steps ih =>
    have hmarkers : (context.rehandle change).settings.markers = context.settings.markers := rfl
    rw [scan, scan, hmarkers]
    cases context.settings.markers.find? text position with
    | none => rfl
    | some block => simp only [processBlock_rehandle h, ih]

/-- Expansions are alike. -/
theorem expand_rehandle (h : context.AgreesOnClean change) (steps : Nat) (request : Request) :
    (context.rehandle change).expand steps request = context.expand steps request := by
  induction steps generalizing request with
  | zero => rfl
  | succ steps ih =>
    have hanswer : (context.rehandle change).expand steps = context.expand steps := funext ih
    simp only [expand, hanswer, scan_rehandle h]
    rfl

end Context

/-- The arguments of a body that is parsed, taken in order, are clean pieces of it: each one stands
in the body after the end of the one before, is not empty and has no blanks at its ends, and is made
of at least one token. So handlers that agree on clean arguments give the same builds: none, that of
a definition included, is ever called with an empty argument. -/
theorem arguments_are_clean_pieces :
    (∀ registry body invocations, (parse registry body).result = .ok invocations →
      (∃ placed : List (Nat × Text),
        placed.map Prod.snd = invocations.flatMap Invocation.args ∧
        (∀ piece ∈ placed, Text.OccursAt piece.2 body piece.1) ∧
        (placed.Pairwise fun piece later => piece.1 + piece.2.length ≤ later.1) ∧
        (placed.map Prod.fst).Pairwise (· < ·)) ∧
      (∀ argument ∈ invocations.flatMap Invocation.args, Text.IsClean argument) ∧
      ∃ runs, invocations.flatMap Invocation.args = runs.map (·.flatMap Token.value) ∧
        InOrder runs (tokenize body) ∧ ∀ run ∈ runs, run ≠ []) ∧
    ∀ (context : Context) (change : Command → Handler), context.AgreesOnClean change →
      ∀ steps path basedir,
        (context.rehandle change).build steps path basedir =
          context.build steps path basedir := by
  constructor
  · intro registry body invocations h
    have hclean := isClean_of_parse h
    obtain ⟨items, hsplits, rfl⟩ := exists_splits_of_parse h
    have hruns := hsplits.inOrder
    have hargs := flatMap_args_invocations items
    have hpieces := hruns.flatMap Token.value
    rw [flatMap_value_tokenize, ← hargs] at hpieces
    obtain ⟨placed, hplaced, hstands, hapart⟩ := hpieces.exists_offsets []
    refine ⟨⟨placed, hplaced, fun piece hpiece => (hstands piece hpiece).2, hapart, ?_⟩, hclean,
      _, hargs, hruns, fun run hrun => ?_⟩
    · rw [List.pairwise_map]
      refine hapart.imp_of_mem fun {piece later} hpiece _ hle => ?_
      have hne : piece.2 ≠ [] := by
        apply (hclean piece.2 ?_).nonempty
        rw [← hplaced]
        exact List.mem_map_of_mem hpiece
      have hpos := List.length_pos_iff.mpr hne
      omega
    · obtain ⟨after, hisRun⟩ := hsplits.isRun_of_mem hrun
      obtain ⟨first, others, rfl, -⟩ := hisRun.starts
      exact List.cons_ne_nil _ _
  · intro context change h steps path basedir
    rw [Context.build, Context.build, Context.expand_rehandle h]

/-- Handlers that fail when they are given an empty argument, and are the usual ones otherwise. -/
def failingOnEmpty (command : Command) : Handler := fun call =>
  if call.args.contains [] then .fail (.plain (.invalidCommand command.name))
  else command.handler call

/-- A definition with a blank in the brackets of its value and an inclusion of a quoted name have
three arguments, in order. A file with a definition is built by handlers that would fail on an empty
name as it is by the usual ones. -/
theorem bracketedBlank_clean :
    (∃ placed : List (Nat × Text),
      placed.map Prod.snd = ["k".toList, "( a)".toList, "\" b\"".toList] ∧
      (∀ piece ∈ placed, Text.OccursAt piece.2 " @def k\t( a) @inc \" b\" ".toList piece.1) ∧
      (placed.map Prod.fst).Pairwise (· < ·)) ∧
    ∀ steps, ((Context.ofTexts [("a", "k/*buildjs @def k m */k")]).rehandle failingOnEmpty).build
        steps "a".toList none =
      (Context.ofTexts [("a", "k/*buildjs @def k m */k")]).build steps "a".toList none := by
  obtain ⟨hpieces, hbuilds⟩ := arguments_are_clean_pieces
  constructor
  · have hparse : (parse .builtin " @def k\t( a) @inc \" b\" ".toList).result =
        .ok [.defining "k".toList "( a)".toList, .including "\" b\"".toList] := by
      cbv
    obtain ⟨⟨placed, hplaced, hstands, -, hincreasing⟩, -⟩ := hpieces _ _ _ hparse
    exact ⟨placed, hplaced, hstands, hincreasing⟩
  · intro steps
    apply hbuilds
    intro command _ call hclean
    exact if_neg fun hempty => (hclean [] (List.contains_iff_mem.mp hempty)).nonempty rfl

end TextMacro
