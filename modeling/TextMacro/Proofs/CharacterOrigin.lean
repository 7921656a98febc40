import TextMacro.Proofs.Failing
import TextMacro.Proofs.Occurrence

/-!
# Where the characters of an expansion come from

Taking out a block leaves fewer characters, a definition puts in those of its value, which stand in
the block, and an inclusion puts in those of an expansion. So whatever characters are allowed in the
text that a scan starts from and in the texts that it puts in, only those are in the text that it
ends with. It follows that an expansion has no character but those of the files that it comes to.
-/

namespace TextMacro

open Run Relation

namespace Text

/-- What is spliced into a text adds its own characters only. -/
theorem splice_subset (piece : Text) (removed offset : Nat) (text : Text) :
    splice piece removed offset text ⊆ piece ++ text := by
  intro c hc
  rw [splice_eq, List.mem_append, List.mem_append] at hc
  rw [List.mem_append]
  rcases hc with (hbefore | hpiece) | hafter
  · exact Or.inr (List.mem_of_mem_take hbefore)
  · exact Or.inl hpiece
  · exact Or.inr (List.mem_of_mem_drop hafter)

/-- What is inserted into a text adds its own characters only. -/
theorem insertAt_subset (text : Text) (position : Int) (piece : Text) :
    insertAt text position piece ⊆ piece ++ text :=
  splice_subset piece 0 _ text

/-- Replacing a name adds the characters of the value only. -/
theorem replaceAll_subset (name value text : Text) :
    replaceAll name value text ⊆ value ++ text := by
  unfold replaceAll
  split
  · intro c hc
    simp only [List.mem_append, List.mem_flatMap, List.mem_cons] at hc ⊢
    rcases hc with hvalue | ⟨d, hd, rfl | hvalue⟩
    · exact Or.inl hvalue
    · exact Or.inr hd
    · exact Or.inl hvalue
  · next hname =>
    fun_induction replaceOccurrences name value hname text with
    | case1 text hcut => exact List.subset_append_right value text
    | case2 text before after hcut hlt ih =>
      intro c hc
      rw [← append_of_cut? hcut]
      simp only [List.mem_append] at hc ⊢
      rcases hc with (hbefore | hvalue) | hlater
      · exact Or.inr (Or.inl (Or.inl hbefore))
      · exact Or.inl hvalue
      · rcases List.mem_append.mp (ih hlater) with hvalue | hafter
        · exact Or.inl hvalue
        · exact Or.inr (Or.inr hafter)

end Text

/-- Taking out a block adds no character. -/
theorem Block.remove_subset (block : Block) (text : Text) : block.remove text ⊆ text :=
  Text.splice_subset [] _ block.start text

/-- The body of a block stands in the text in which it is found. -/
theorem Markers.body_subset_of_find?_eq_some {markers : Markers} {text : Text} {start : Nat}
    {block : Block} (h : markers.find? text start = some block) : block.body ⊆ text := by
  rw [find?_eq, Option.map_eq_some_iff] at h
  obtain ⟨found, hfound, rfl⟩ := h
  obtain ⟨before, after, htext, -⟩ := first?_eq_some hfound
  intro c hc
  apply List.mem_of_mem_drop
  rw [htext]
  simp only [List.mem_append]
  exact Or.inr (Or.inl (Or.inl (Or.inr hc)))

/-- The tokens of runs are among the tokens that they begin. -/
theorem Runs.subset {tokens rest run : List Token} {runs : List (List Token)}
    (h : Runs tokens runs rest) (hrun : run ∈ runs) : run ⊆ tokens := by
  induction h with
  | done => simp at hrun
  | @run first blanks tokens rest runs _ _ _ ih =>
    rcases List.mem_cons.mp hrun with rfl | hlater
    · exact List.subset_append_left _ _
    · intro token htoken
      exact List.mem_append_right first (List.mem_append_right blanks (ih hlater htoken))

/-- Skipping blanks adds no token. -/
theorem skipBlanks_subset (tokens : List Token) : skipBlanks tokens ⊆ tokens :=
  (List.dropWhile_suffix _).subset

/-- The arguments of a parsed invocation are made of tokens of the body. -/
theorem exists_run_of_mem_parseTokens (registry : Registry) (tokens : List Token)
    {invocation : Invocation} (h : invocation ∈ (parseTokens registry tokens).invocations)
    {argument : Text} (harg : argument ∈ invocation.args) :
    ∃ run, run ⊆ tokens ∧ argument = run.flatMap Token.value := by
  fun_induction parseTokens registry tokens with
  | case1 => simp at h
  | case2 => simp at h
  | case3 => simp at h
  | case4 => simp at h
  | case5 token tokens hname command hfind args rest hread harity h₁ h₂ h₃ ih =>
    obtain ⟨runs, hruns, rfl, -⟩ := runs_of_readArguments (skipBlanks_skipBlanks tokens) hread
    have htokens : skipBlanks tokens ⊆ token :: tokens :=
      List.subset_cons_of_subset token (skipBlanks_subset tokens)
    rcases List.mem_cons.mp h with rfl | hlater
    · obtain ⟨run, hrun, rfl⟩ := List.mem_map.mp harg
      exact ⟨run, List.Subset.trans (hruns.subset hrun) htokens, rfl⟩
    · obtain ⟨run, hrun, hargument⟩ := ih hlater
      have hrest : skipBlanks rest ⊆ skipBlanks tokens :=
        List.Subset.trans (skipBlanks_subset rest) hruns.suffix.subset
      exact ⟨run, List.Subset.trans hrun (List.Subset.trans hrest htokens), hargument⟩
  | case6 token tokens hname hlength ih =>
    obtain ⟨run, hrun, hargument⟩ := ih h
    have htokens : skipBlanks tokens ⊆ token :: tokens :=
      List.subset_cons_of_subset token (skipBlanks_subset tokens)
    exact ⟨run, List.Subset.trans hrun htokens, hargument⟩

/-- The arguments of a parsed invocation have the characters of the body only. -/
theorem args_subset_of_parse {registry : Registry} {body : Text} {invocations : List Invocation}
    (h : (parse registry body).result = .ok invocations) {invocation : Invocation}
    (hmem : invocation ∈ invocations) {argument : Text} (harg : argument ∈ invocation.args) :
    argument ⊆ body := by
  obtain ⟨-, rfl⟩ := (Parse.result_eq_ok_iff _ _).mp h
  obtain ⟨run, hrun, rfl⟩ := exists_run_of_mem_parseTokens _ _ hmem harg
  intro c hc
  obtain ⟨token, htoken, hc⟩ := List.mem_flatMap.mp hc
  rw [← flatMap_value_tokenize body]
  exact List.mem_flatMap.mpr ⟨token, hrun htoken, hc⟩

namespace Context

variable {context : Context} {frame : Frame} {request inner : Request} {allowed : Char → Prop}

/-- Built-in invocations leave allowed characters only, if the text, the arguments and all that they
ask for have only those. -/
theorem execute_allowed {steps : Nat} {index : Int} {invocations : List Invocation}
    {text result : Text}
    (hbuiltin : ∀ invocation ∈ invocations,
      (∃ name replacement, invocation = .defining name replacement) ∨
        ∃ path, invocation = .including path)
    (hargs : ∀ invocation ∈ invocations, ∀ argument ∈ invocation.args, ∀ c ∈ argument, allowed c)
    (hasks : ∀ inner included, context.Asks frame index invocations text inner →
      (context.expand steps inner).outcome = .done included → ∀ c ∈ included, allowed c)
    (htext : ∀ c ∈ text, allowed c)
    (h : (execute (context.expand steps) frame index invocations text).outcome = .done result) :
    ∀ c ∈ result, allowed c := by
  induction invocations generalizing text with
  | nil =>
    obtain rfl := Outcome.done.inj h
    exact htext
  | cons invocation invocations ih =>
    rw [execute, andThen_outcome_eq_done_iff] at h
    obtain ⟨next, hnext, hrest⟩ := h
    refine ih (fun i hi => hbuiltin i (List.mem_cons_of_mem _ hi))
      (fun i hi => hargs i (List.mem_cons_of_mem _ hi))
      (fun inner included hinner => hasks inner included (.later hnext hinner)) ?_ hrest
    intro c hc
    rcases hbuiltin invocation List.mem_cons_self with ⟨name, replacement, rfl⟩ | ⟨path, rfl⟩
    · have hvalue := hargs _ List.mem_cons_self replacement (by simp [Invocation.defining])
      rw [Invocation.defining, run_definition] at hnext
      obtain rfl := Outcome.done.inj hnext
      rcases List.mem_append.mp (Text.replaceAll_subset _ _ _ hc) with hreplaced | hold
      · exact hvalue c hreplaced
      · exact htext c hold
    · rw [Invocation.including, run_inclusion, andThen_outcome_eq_done_iff] at hnext
      obtain ⟨included, hincluded, hinserted⟩ := hnext
      obtain rfl := Outcome.done.inj hinserted
      rcases List.mem_append.mp (Text.insertAt_subset _ _ _ hc) with hnew | hold
      · exact hasks _ included .here hincluded c hnew
      · exact htext c hold

/-- A block leaves allowed characters only, if the text in which it is found and all that it asks
for have only those. -/
theorem processBlock_allowed (hbuiltin : context.registry = .builtin) {steps position : Nat}
    {text next : Text} {block : Block}
    (hfind : context.settings.markers.find? text position = some block)
    (hasks : ∀ inner included, context.AsksAt frame ⟨text, position⟩ inner →
      (context.expand steps inner).outcome = .done included → ∀ c ∈ included, allowed c)
    (htext : ∀ c ∈ text, allowed c)
    (h : (context.processBlock (context.expand steps) frame (block.remove text) block).outcome =
      .done next) :
    ∀ c ∈ next, allowed c := by
  obtain ⟨invocations, hparse, hexecute⟩ :=
    (context.processBlock_outcome_eq_done_iff _ _ _ _ _).mp h
  have hbody := Markers.body_subset_of_find?_eq_some hfind
  refine execute_allowed ?_ ?_ ?_ (fun c hc => htext c (block.remove_subset _ hc)) hexecute
  · intro invocation hmem
    rw [hbuiltin] at hparse
    exact defining_or_including hparse hmem
  · intro invocation hmem argument harg c hc
    exact htext c (hbody (args_subset_of_parse hparse hmem harg hc))
  · intro inner included hinner
    exact hasks inner included ⟨block, invocations, hfind, hparse, hinner⟩

/-- A scan ends with allowed characters only, if it starts with them and all that it asks for on its
way has only those. -/
theorem scan_allowed (hbuiltin : context.registry = .builtin) {steps limit position : Nat}
    {start : Cursor} {text result : Text}
    (hasks : ∀ cursor inner included, context.Leads frame start cursor →
      context.AsksAt frame cursor inner →
      (context.expand steps inner).outcome = .done included → ∀ c ∈ included, allowed c)
    (hleads : context.Leads frame start ⟨text, position⟩) (htext : ∀ c ∈ text, allowed c)
    (h : (context.scan (context.expand steps) frame limit text position).outcome = .done result) :
    ∀ c ∈ result, allowed c := by
  induction limit generalizing text position with
  | zero => nomatch h
  | succ limit ih =>
    cases hfind : context.settings.markers.find? text position with
    | none =>
      rw [scan_of_find?_eq_none hfind] at h
      obtain rfl := Outcome.done.inj h
      exact htext
    | some block =>
      rw [scan, hfind, andThen_outcome_eq_done_iff] at h
      obtain ⟨next, hnext, hrest⟩ := h
      rw [mapFailure_outcome_eq_done_iff] at hnext
      have hadvances : context.Advances frame ⟨text, position⟩ ⟨next, block.start⟩ :=
        ⟨block, hfind, ⟨steps, hnext⟩, rfl⟩
      have hallowed := processBlock_allowed hbuiltin hfind
        (fun inner included => hasks _ inner included hleads) htext hnext
      exact ih (hleads.tail hadvances) hallowed hrest

/-- An expansion comes to a character: it stands in a file that is expanded on the way. -/
def Supplies (context : Context) (request : Request) (c : Char) : Prop :=
  ∃ inner key source, ReflTransGen context.Nests request inner ∧
    context.Opens inner key source ∧ c ∈ source

/-- What a nested expansion comes to, the outer one comes to. -/
theorem Supplies.of_nests {c : Char} (h : context.Supplies inner c)
    (hnests : context.Nests request inner) : context.Supplies request c := by
  obtain ⟨innermost, key, source, hreach, hopens, hc⟩ := h
  exact ⟨innermost, key, source, .head hnests hreach, hopens, hc⟩

/-- With the built-in commands, an expansion has no character but those of the files that it comes
to. -/
theorem supplies_of_expand (hbuiltin : context.registry = .builtin) {steps : Nat} {text : Text}
    (h : (context.expand steps request).outcome = .done text) :
    ∀ c ∈ text, context.Supplies request c := by
  induction steps generalizing request text with
  | zero => nomatch h
  | succ steps ih =>
    obtain ⟨key, source, hopens⟩ := opens_of_expand_outcome h
    rw [expand_outcome_of_opens hopens] at h
    have hsource : ∀ c ∈ source, context.Supplies request c := fun c hc =>
      ⟨request, key, source, .refl, hopens, hc⟩
    refine scan_allowed hbuiltin ?_ .refl hsource h
    intro cursor inner included hleads hasks hincluded c hc
    exact (ih hincluded c hc).of_nests ⟨key, source, cursor, hopens, hleads, hasks⟩

end Context

end TextMacro
