import TextMacro.Proofs.IncludeStack
import TextMacro.Proofs.Occurrence

/-!
# The trace of a failure

A failure is passed on by every expansion around it, each adding the file and the line of the block
that it was processing. So the trace of a build failure is the stack of inclusions at the time of
the failure, innermost first, and the failure is otherwise the one that arose at its top. The lines
are those of the text in which a block was found, although the block has been taken out by then.
-/

namespace TextMacro

open Run

/-- What stands before a found block is kept when the block is taken out. -/
theorem Markers.take_remove {markers : Markers} {text : Text} {position : Nat} {block : Block}
    (h : markers.find? text position = some block) :
    (block.remove text).take block.start = text.take block.start := by
  obtain ⟨hinside, hle⟩ := start_le_of_find?_eq_some h
  rw [Block.remove_eq hle, List.take_left' (List.length_take_of_le hinside)]

/-- The failure with a cause that the blocks at the given places have passed on, innermost
first. -/
def Failure.passedOn (cause : Cause) : List Place → Failure
  | [] => .plain cause
  | place :: places => .build ⟨.caused cause, some place.file, some place.line, place :: places⟩

/-- A further block adds its place at the end. -/
theorem Failure.within_passedOn (cause : Cause) (places : List Place) (place : Place) :
    (passedOn cause places).within place = passedOn cause (places ++ [place]) := by
  cases places <;> rfl

/-- What a build reports of a failure: a cause outside of any block, if it is one that is reported,
with the path of the build; another one with the place where it was first seen. -/
theorem Failure.build_eq_ofBuild_passedOn_iff (failure : BuildFailure) (cause : Cause)
    (places : List Place) (path : Text) :
    .build failure = (passedOn cause places).ofBuild path ↔
      failure.origin = .caused cause ∧ failure.trace = places ∧
        ((places = [] ∧ cause.isReported = true ∧ failure.file = some path ∧
            failure.line = none) ∨
          ∃ first, places.head? = some first ∧ failure.file = some first.file ∧
            failure.line = some first.line) := by
  obtain ⟨origin, file, line, trace⟩ := failure
  cases places with
  | nil =>
    by_cases hreported : cause.isReported = true
    · simp only [passedOn, ofBuild, hreported, if_true, Failure.build.injEq,
        BuildFailure.mk.injEq, List.head?_nil, reduceCtorEq, false_and, exists_false, or_false,
        true_and]
      constructor
      · rintro ⟨horigin, hfile, hline, htrace⟩
        exact ⟨horigin, htrace, hfile, hline⟩
      · rintro ⟨horigin, htrace, hfile, hline⟩
        exact ⟨horigin, hfile, hline, htrace⟩
    · simp [passedOn, ofBuild, hreported]
  | cons first places =>
    simp only [passedOn, ofBuild, Failure.build.injEq, BuildFailure.mk.injEq]
    constructor
    · rintro ⟨horigin, hfile, hline, htrace⟩
      exact ⟨horigin, htrace, Or.inr ⟨first, rfl, hfile, hline⟩⟩
    · rintro ⟨horigin, htrace, ⟨⟨⟩, -⟩ | ⟨_, ⟨⟩, hfile, hline⟩⟩
      exact ⟨horigin, hfile, hline, htrace⟩

namespace Activation

variable {context : Context} {activation : Activation} {inner : Request} {key : SourcePath}
  {failure : Failure}

/-- The block of the activation is malformed. -/
def Malformed (context : Context) (activation : Activation) (cause : Cause) : Prop :=
  ∃ key, activation.Reached context key ∧
    (parse context.registry activation.block.body).result = .error cause

/-- The place that a scan adds to a failure is that of its activation. -/
theorem Reached.placeOf_eq (h : activation.Reached context key) :
    Context.placeOf (Context.frameOf activation.request key)
      (activation.block.remove activation.text) activation.block = activation.place := by
  obtain ⟨source, position, -, -, hfind⟩ := h
  rw [Context.placeOf, place, Text.lineFeedsBefore_eq, Markers.take_remove hfind,
    Context.frameOf_resolved]

/-- An expansion that is at a block fails with it. -/
theorem Reached.fails (h : activation.Reached context key)
    (hblock : ∃ steps, (context.processBlock (context.expand steps)
      (Context.frameOf activation.request key) (activation.block.remove activation.text)
      activation.block).outcome = .failed failure) :
    context.Fails activation.request (failure.within activation.place) := by
  rw [← h.placeOf_eq]
  obtain ⟨source, position, hopens, hleads, hfind⟩ := h
  obtain ⟨enough, hscan⟩ := Context.scan_failed_of_leads hleads hfind hblock
  refine ⟨enough + 1, ?_⟩
  rw [Context.expand_outcome_of_opens hopens]
  exact hscan enough enough (Nat.le_refl _) (Nat.le_refl _)

/-- An activation fails with what it asks for. -/
theorem AsksFor.fails (h : activation.AsksFor context inner)
    (hfails : context.Fails inner failure) :
    context.Fails activation.request (failure.within activation.place) := by
  obtain ⟨key, invocations, hreached, hparse, hasks⟩ := h
  obtain ⟨steps, hexecute⟩ := hasks.execute_failed hfails
  apply hreached.fails
  refine ⟨steps, (Context.processBlock_outcome_eq_failed_iff _ _ _ _ _ _).mpr ?_⟩
  exact Or.inr ⟨invocations, hparse, hexecute⟩

/-- An activation fails with its malformed block. -/
theorem Malformed.fails {cause : Cause} (h : activation.Malformed context cause) :
    context.Fails activation.request (.passedOn cause [activation.place]) := by
  obtain ⟨key, hreached, hparse⟩ := h
  show context.Fails activation.request ((Failure.plain cause).within activation.place)
  refine hreached.fails ⟨0, ?_⟩
  rw [Context.processBlock_outcome_eq_failed_iff]
  exact Or.inl ⟨cause, hparse, rfl⟩

end Activation

namespace Context

variable {context : Context} {bottom request inner : Request} {stack : List Activation}
  {activation : Activation} {cause : Cause} {failure : Failure}

/-- The activations that are processing a block when an expansion fails, innermost first, and the
cause: the request at the top of a stack is refused, or the innermost block is malformed. -/
inductive FailsAt (context : Context) (bottom : Request) : List Activation → Cause → Prop
  | refused {stack : List Activation} {request : Request} {cause : Cause} :
    context.Stack bottom stack request → context.Refuses request cause →
    FailsAt context bottom stack cause
  | malformed {stack : List Activation} {activation : Activation} {cause : Cause} :
    context.Stack bottom stack activation.request → activation.Malformed context cause →
    FailsAt context bottom (activation :: stack) cause

/-- A failure inside of a request is one of the activation that asks for it. -/
theorem FailsAt.below (h : context.FailsAt inner stack cause)
    (hasks : activation.AsksFor context inner) :
    context.FailsAt activation.request (stack ++ [activation]) cause := by
  have hbelow : context.Stack activation.request [activation] inner := .push .bottom hasks
  cases h with
  | refused hstack hrefuses => exact .refused (hbelow.append hstack) hrefuses
  | malformed hstack hmalformed => exact .malformed (hbelow.append hstack) hmalformed

/-- A failure at the top of a stack is passed on to the bottom. -/
theorem Stack.fails {places : List Place} (h : context.Stack bottom stack request)
    (hfails : context.Fails request (.passedOn cause places)) :
    context.Fails bottom (.passedOn cause (places ++ stack.map Activation.place)) := by
  induction h generalizing places with
  | bottom => simpa using hfails
  | @push stack activation inner _ hasks ih =>
    have hpassed := hasks.fails hfails
    rw [Failure.within_passedOn] at hpassed
    simpa using ih hpassed

/-- With the built-in commands, an expansion that fails does so at the top of a stack, which is the
trace of the failure. -/
theorem exists_failsAt_of_expand_failed (hbuiltin : context.registry = .builtin) {steps : Nat}
    (h : (context.expand steps request).outcome = .failed failure) :
    ∃ stack cause, context.FailsAt request stack cause ∧
      failure = .passedOn cause (stack.map Activation.place) := by
  induction steps generalizing request failure with
  | zero => nomatch h
  | succ steps ih =>
    rcases refuses_or_scan_failed h with ⟨cause, hrefuses, rfl⟩ | ⟨key, source, hopens, hscan⟩
    · exact ⟨[], cause, .refused .bottom hrefuses, rfl⟩
    · obtain ⟨cursor, block, inner, hleads, hfind, hblock, rfl⟩ := exists_block_of_scan_failed hscan
      have hreached : (⟨request, cursor.text, block⟩ : Activation).Reached context key :=
        ⟨source, cursor.position, hopens, hleads, hfind⟩
      rw [hreached.placeOf_eq]
      rcases (processBlock_outcome_eq_failed_iff _ _ _ _ _ _).mp hblock with
        ⟨cause, hparse, rfl⟩ | ⟨invocations, hparse, hexecute⟩
      · exact ⟨[_], cause, .malformed .bottom ⟨key, hreached, hparse⟩, rfl⟩
      · have hinvocations : ∀ invocation ∈ invocations,
            (∃ name replacement, invocation = .defining name replacement) ∨
              ∃ path, invocation = .including path := by
          rw [hbuiltin] at hparse
          exact fun _ hmem => defining_or_including hparse hmem
        obtain ⟨asked, hasks, hasked⟩ := exists_asks_of_execute_failed hinvocations hexecute
        obtain ⟨stack, cause, hfailsAt, rfl⟩ := ih hasked
        refine ⟨_, cause, hfailsAt.below ⟨key, invocations, hreached, hparse, hasks⟩, ?_⟩
        rw [Failure.within_passedOn, List.map_append, List.map_singleton]

/-- With the built-in commands, an expansion fails exactly with what stands at the top of a stack,
the stack being the trace. -/
theorem fails_iff (hbuiltin : context.registry = .builtin) :
    context.Fails request failure ↔
      ∃ stack cause, context.FailsAt request stack cause ∧
        failure = .passedOn cause (stack.map Activation.place) := by
  constructor
  · rintro ⟨steps, hfailed⟩
    exact exists_failsAt_of_expand_failed hbuiltin hfailed
  · rintro ⟨_, cause, ⟨hstack, hrefuses⟩ | ⟨hstack, hmalformed⟩, rfl⟩
    · have hfails : context.Fails _ (.passedOn cause []) :=
        ⟨1, expand_outcome_of_refuses hrefuses 0⟩
      exact hstack.fails hfails
    · exact hstack.fails hmalformed.fails

/-- A file that is refused outside of any block, if a build reports it, is missing or can not be
read. -/
theorem Refuses.eq_of_isReported {path : Text} {basedir : Option SourcePath}
    (h : context.Refuses ⟨path, basedir, []⟩ cause) (hreported : cause.isReported = true) :
    cause = .missingFile path ∨
      (∃ error, cause = .system error (Request.frame ⟨path, basedir, []⟩).resolved) ∨
      ∃ error, cause = .undecodable error := by
  rcases h with henter | ⟨key, bytes, -, hdecode⟩
  · unfold enter at henter
    split at henter
    · next error _ => exact Or.inr (Or.inl ⟨error, (Except.error.inj henter).symm⟩)
    · simp at henter
    · exact Or.inl (Except.error.inj henter).symm
  · rcases decode_eq_error hdecode with ⟨_, _, rfl⟩ | ⟨_, rfl⟩ | ⟨error, rfl⟩
    · nomatch hreported
    · nomatch hreported
    · exact Or.inr (Or.inr ⟨error, rfl⟩)

/-- The outermost activation is that of the request at the bottom. -/
theorem Stack.request_of_getLast? {last : Activation}
    (h : context.Stack bottom stack activation.request)
    (hlast : (activation :: stack).getLast? = some last) : last.request = bottom := by
  induction stack generalizing activation with
  | nil =>
    obtain rfl := Option.some.inj hlast
    cases h with
    | bottom => rfl
  | cons below stack ih =>
    cases h with
    | push hstack _ => exact ih hstack (by rwa [List.getLast?_cons_cons] at hlast)

/-- A build fails with what the expansion fails with, as it is reported. -/
theorem build_failed_iff (context : Context) (path : Text) (basedir : Option SourcePath)
    (failure : Failure) :
    (∃ steps, (context.build steps path basedir).outcome = .failed failure) ↔
      ∃ inner, context.Fails ⟨path, basedir, []⟩ inner ∧ failure = inner.ofBuild path := by
  simp only [build, mapFailure_outcome_eq_failed_iff, Fails]
  constructor
  · rintro ⟨steps, inner, hinner, hfailure⟩
    exact ⟨inner, ⟨steps, hinner⟩, hfailure⟩
  · rintro ⟨inner, ⟨steps, hinner⟩, hfailure⟩
    exact ⟨steps, inner, hinner, hfailure⟩

/-- A failure with no block around it is that the request is refused. -/
theorem FailsAt.refuses (h : context.FailsAt bottom [] cause) : context.Refuses bottom cause := by
  cases h with
  | refused hstack hrefuses =>
    cases hstack with
    | bottom => exact hrefuses

/-- The outermost block around a failure is one of the request at the bottom. -/
theorem FailsAt.request_of_getLast? {last : Activation} (h : context.FailsAt bottom stack cause)
    (hlast : stack.getLast? = some last) : last.request = bottom := by
  cases h with
  | refused hstack _ =>
    cases hstack with
    | bottom => nomatch hlast
    | push hbelow _ => exact hbelow.request_of_getLast? hlast
  | malformed hstack _ => exact hstack.request_of_getLast? hlast

/-- With the built-in commands, the trace of a build failure is the stack of inclusions at the
failure, innermost first, and its origin is the cause that arose there. A failure outside of any
block is one of the built file, which is missing or can not be read, and has the path as it was
given; any other has the place of the first entry, and its last entry is in the built file. -/
theorem build_failed_iff_stack (context : Context) (hbuiltin : context.registry = .builtin)
    (path : Text) (basedir : Option SourcePath) (failure : BuildFailure) :
    (∃ steps, (context.build steps path basedir).outcome = .failed (.build failure)) ↔
      ∃ stack cause, context.FailsAt ⟨path, basedir, []⟩ stack cause ∧
        failure.origin = .caused cause ∧ failure.origin.message = cause.message ∧
        failure.trace = stack.map Activation.place ∧
        ((stack = [] ∧ failure.file = some path ∧ failure.line = none ∧
            (cause = .missingFile path ∨
              (∃ error, cause = .system error (Request.frame ⟨path, basedir, []⟩).resolved) ∨
              ∃ error, cause = .undecodable error)) ∨
          ∃ first last, failure.trace.head? = some first ∧ failure.file = some first.file ∧
            failure.line = some first.line ∧ failure.trace.getLast? = some last ∧
            last.file = (Request.frame ⟨path, basedir, []⟩).resolved.toText) := by
  rw [build_failed_iff]
  constructor
  · rintro ⟨inner, hfails, hreport⟩
    obtain ⟨stack, cause, hfailsAt, rfl⟩ := (fails_iff hbuiltin).mp hfails
    obtain ⟨horigin, htrace, hplace⟩ := (Failure.build_eq_ofBuild_passedOn_iff _ _ _ _).mp hreport
    refine ⟨stack, cause, hfailsAt, horigin, congrArg Origin.message horigin, htrace, ?_⟩
    rcases hplace with ⟨hnone, hreported, hfile, hline⟩ | ⟨first, hfirst, hfile, hline⟩
    · obtain rfl := List.map_eq_nil_iff.mp hnone
      exact Or.inl ⟨rfl, hfile, hline, hfailsAt.refuses.eq_of_isReported hreported⟩
    · have hnonempty : stack ≠ [] := by
        rintro rfl
        nomatch hfirst
      have houtermost := List.getLast?_eq_some_getLast hnonempty
      refine Or.inr ⟨first, (stack.getLast hnonempty).place, ?_, hfile, hline, ?_, ?_⟩
      · rw [htrace, hfirst]
      · rw [htrace, List.getLast?_map, houtermost, Option.map_some]
      · rw [Activation.place, hfailsAt.request_of_getLast? houtermost]
  · rintro ⟨stack, cause, hfailsAt, horigin, -, htrace, hplace⟩
    refine ⟨_, (fails_iff hbuiltin).mpr ⟨stack, cause, hfailsAt, rfl⟩, ?_⟩
    refine (Failure.build_eq_ofBuild_passedOn_iff _ _ _ _).mpr ⟨horigin, htrace, ?_⟩
    rcases hplace with ⟨rfl, hfile, hline, hcause⟩ | ⟨first, last, hfirst, hfile, hline, -⟩
    · refine Or.inl ⟨rfl, ?_, hfile, hline⟩
      rcases hcause with rfl | ⟨error, rfl⟩ | ⟨error, rfl⟩ <;> rfl
    · rw [htrace] at hfirst
      exact Or.inr ⟨first, hfirst, hfile, hline⟩

/-- A file that includes one with two line feeds, and then one with a malformed block. -/
def shiftedLine : Context :=
  .ofTexts [("a", "/*buildjs @inc c */x\n/*buildjs @inc b */"), ("b", "y\n\n/*buildjs @bogus */"),
    ("c", "\n\n")]

/-- The trace goes from the malformed block to the one that includes it, whose line is that of the
text with the line feeds. -/
theorem shiftedLine_trace :
    ∃ stack, shiftedLine.FailsAt ⟨"a".toList, none, []⟩ stack (.invalidCommand "bogus".toList) ∧
      stack.map Activation.place = [⟨"b".toList, 2⟩, ⟨"a".toList, 3⟩] := by
  have hfailed := (build_failed_iff_stack shiftedLine rfl "a".toList none
    ⟨.caused (.invalidCommand "bogus".toList), some "b".toList, some 2,
      [⟨"b".toList, 2⟩, ⟨"a".toList, 3⟩]⟩).mp ⟨4, by decide +kernel⟩
  obtain ⟨stack, cause, hfailsAt, horigin, -, htrace, -⟩ := hfailed
  obtain rfl := Origin.caused.inj horigin
  exact ⟨stack, hfailsAt, htrace.symm⟩

end Context

end TextMacro
