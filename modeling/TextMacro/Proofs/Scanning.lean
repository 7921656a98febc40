import Mathlib.Logic.Relation
import TextMacro.Proofs.Simulation

/-!
# Expansion without counting steps

What a number of steps has settled stays settled, so expansion can be described without such
numbers. A scan is at a cursor: the text as it is, and the offset from which the next block is
searched. It advances from one cursor to the next by processing one block. A file is expanded to a
text exactly when it opens and its scan leads, block by block, to that text and an offset after
which no block is found.

The offset of a cursor is where the last processed block began; it is zero at the start.
-/

namespace TextMacro

open Run Relation

/-- Where a scan is: the current text, and the offset from which the next block is searched. -/
@[ext]
structure Cursor where
  text : Text
  position : Nat
deriving DecidableEq

namespace Context

variable {context : Context} {frame : Frame} {request : Request}

/-- A request finds a file: its key, and the text that is read. -/
def Opens (context : Context) (request : Request) (key : SourcePath) (text : Text) : Prop :=
  ∃ bytes, context.enter request = .ok (key, bytes) ∧ context.decode bytes = .ok text

/-- The requested file is expanded to a text. -/
def Expands (context : Context) (request : Request) (text : Text) : Prop :=
  ∃ steps, (context.expand steps request).outcome = .done text

/-- A file is built to a text. -/
def Builds (context : Context) (path : Text) (basedir : Option SourcePath) (text : Text) : Prop :=
  ∃ steps, (context.build steps path basedir).outcome = .done text

/-- To build a file is to expand it with no file around it. -/
theorem builds_iff (context : Context) (path : Text) (basedir : Option SourcePath) (text : Text) :
    context.Builds path basedir text ↔ context.Expands ⟨path, basedir, []⟩ text := by
  simp only [Builds, Expands, build, mapFailure_outcome_eq_done_iff]

/-- A block that is taken out of a text and executed leaves another text. -/
def Processes (context : Context) (frame : Frame) (text : Text) (block : Block) (next : Text) :
    Prop :=
  ∃ steps, (context.processBlock (context.expand steps) frame (block.remove text) block).outcome =
    .done next

/-- The scan of a file advances by one block. -/
def Advances (context : Context) (frame : Frame) (cursor next : Cursor) : Prop :=
  ∃ block, context.settings.markers.find? cursor.text cursor.position = some block ∧
    context.Processes frame cursor.text block next.text ∧ next.position = block.start

/-- The scan of a file leads from one cursor to another. -/
abbrev Leads (context : Context) (frame : Frame) : Cursor → Cursor → Prop :=
  ReflTransGen (context.Advances frame)

/-- A file opens with one key and one text. -/
theorem Opens.unique {key key' : SourcePath} {text text' : Text}
    (h : context.Opens request key text) (h' : context.Opens request key' text') :
    key = key' ∧ text = text' := by
  obtain ⟨bytes, henter, hdecode⟩ := h
  obtain ⟨bytes', henter', hdecode'⟩ := h'
  rw [henter, Except.ok.injEq, Prod.mk.injEq] at henter'
  obtain ⟨rfl, rfl⟩ := henter'
  rw [hdecode, Except.ok.injEq] at hdecode'
  exact ⟨rfl, hdecode'⟩

/-- An expansion is decided by any number of steps that suffices. -/
theorem Expands.outcome_eq {text : Text} (h : context.Expands request text) {steps : Nat}
    (hend : (context.expand steps request).outcome ≠ .exhausted) :
    (context.expand steps request).outcome = .done text := by
  obtain ⟨enough, hdone⟩ := h
  exact outcome_eq_of_persists (fun hle => context.expand_persists hle request) hdone hend

/-- An expansion has one text. -/
theorem Expands.unique {text text' : Text} (h : context.Expands request text)
    (h' : context.Expands request text') : text = text' := by
  obtain ⟨steps, hdone⟩ := h'
  have hend : (context.expand steps request).outcome ≠ .exhausted := by
    rw [hdone]
    exact nofun
  exact Outcome.done.inj ((h.outcome_eq hend).symm.trans hdone)

/-- Every number of steps from some number on suffices for an expansion. -/
theorem Expands.eventually {text : Text} (h : context.Expands request text) :
    ∃ enough, ∀ steps, enough ≤ steps → (context.expand steps request).outcome = .done text := by
  obtain ⟨enough, hdone⟩ := h
  exact ⟨enough, fun steps hle => (context.expand_persists hle request).outcome_eq hdone⟩

/-- A block is decided by any number of steps that suffices for its inclusions. -/
theorem Processes.outcome_eq {text next : Text} {block : Block}
    (h : context.Processes frame text block next) {steps : Nat}
    (hend : (context.processBlock (context.expand steps) frame (block.remove text) block).outcome ≠
      .exhausted) :
    (context.processBlock (context.expand steps) frame (block.remove text) block).outcome =
      .done next := by
  obtain ⟨enough, hdone⟩ := h
  exact outcome_eq_of_persists (fun hle => context.processBlock_persists hle frame _ block)
    hdone hend

/-- A block leaves one text. -/
theorem Processes.unique {text next next' : Text} {block : Block}
    (h : context.Processes frame text block next) (h' : context.Processes frame text block next') :
    next = next' := by
  obtain ⟨steps, hdone⟩ := h'
  have hend : (context.processBlock (context.expand steps) frame (block.remove text)
      block).outcome ≠ .exhausted := by
    rw [hdone]
    exact nofun
  exact Outcome.done.inj ((h.outcome_eq hend).symm.trans hdone)

/-- A scan advances in one way. -/
theorem Advances.unique {cursor next next' : Cursor} (h : context.Advances frame cursor next)
    (h' : context.Advances frame cursor next') : next = next' := by
  obtain ⟨block, hfind, hprocess, hposition⟩ := h
  obtain ⟨block', hfind', hprocess', hposition'⟩ := h'
  obtain rfl : block = block' := Option.some.inj (hfind.symm.trans hfind')
  exact Cursor.ext (hprocess.unique hprocess') (hposition.trans hposition'.symm)

/-- A scan does not advance where it finds no block. -/
theorem not_advances_of_find?_eq_none {cursor next : Cursor}
    (h : context.settings.markers.find? cursor.text cursor.position = none) :
    ¬ context.Advances frame cursor next := by
  rintro ⟨block, hfind, -⟩
  rw [h] at hfind
  cases hfind

/-- A scan that is over after one block is before that block or after it. -/
theorem Leads.eq_or_eq {start last cursor : Cursor} (h : context.Leads frame start cursor)
    (hadvances : context.Advances frame start last)
    (hlast : context.settings.markers.find? last.text last.position = none) :
    cursor = start ∨ cursor = last := by
  rcases ReflTransGen.cases_head h with rfl | ⟨next, hnext, hrest⟩
  · exact Or.inl rfl
  · obtain rfl := hadvances.unique hnext
    rcases ReflTransGen.cases_head hrest with rfl | ⟨later, hlater, -⟩
    · exact Or.inr rfl
    · exact absurd hlater (not_advances_of_find?_eq_none hlast)

/-- A scan without a block to process is at its end. -/
theorem scan_of_find?_eq_none {answer : Request → Run Text} {text : Text} {position : Nat}
    (h : context.settings.markers.find? text position = none) (steps : Nat) :
    context.scan answer frame (steps + 1) text position = .value text := by
  rw [scan, h]

/-- After a block that is processed, a scan goes on where the block began. -/
theorem scan_outcome_of_processBlock {answer : Request → Run Text} {text next : Text}
    {position : Nat} {block : Block}
    (hfind : context.settings.markers.find? text position = some block)
    (hnext : (context.processBlock answer frame (block.remove text) block).outcome = .done next)
    (steps : Nat) :
    (context.scan answer frame (steps + 1) text position).outcome =
      (context.scan answer frame steps next block.start).outcome := by
  rw [scan, hfind]
  exact andThen_outcome_of_done ((mapFailure_outcome_eq_done_iff _ _ _).mpr hnext) _

/-- A scan that ends with a text has advanced to it, and has found no block there. -/
theorem leads_of_scan_outcome {steps limit : Nat} {text result : Text} {position : Nat}
    (h : (context.scan (context.expand steps) frame limit text position).outcome = .done result) :
    ∃ last, context.Leads frame ⟨text, position⟩ ⟨result, last⟩ ∧
      context.settings.markers.find? result last = none := by
  induction limit generalizing text position with
  | zero => nomatch h
  | succ limit ih =>
    cases hfind : context.settings.markers.find? text position with
    | none =>
      rw [scan_of_find?_eq_none hfind] at h
      obtain rfl : text = result := Outcome.done.inj h
      exact ⟨position, .refl, hfind⟩
    | some block =>
      rw [scan, hfind, andThen_outcome_eq_done_iff] at h
      obtain ⟨next, hnext, hrest⟩ := h
      rw [mapFailure_outcome_eq_done_iff] at hnext
      obtain ⟨last, hleads, hlast⟩ := ih hrest
      exact ⟨last, .head ⟨block, hfind, ⟨steps, hnext⟩, rfl⟩ hleads, hlast⟩

/-- Many steps suffice for a scan that leads to a text without a block. -/
theorem scan_outcome_of_leads {cursor last : Cursor} (h : context.Leads frame cursor last)
    (hlast : context.settings.markers.find? last.text last.position = none) :
    ∃ enough, ∀ steps limit, enough ≤ steps → enough ≤ limit →
      (context.scan (context.expand steps) frame limit cursor.text cursor.position).outcome =
        .done last.text := by
  induction h using ReflTransGen.head_induction_on with
  | refl =>
    refine ⟨1, fun steps limit _ hlimit => ?_⟩
    obtain ⟨count, rfl⟩ : ∃ count, limit = count + 1 := ⟨limit - 1, by omega⟩
    rw [scan_of_find?_eq_none hlast]
    rfl
  | head hstep _ ih =>
    obtain ⟨block, hfind, ⟨needed, hdone⟩, hposition⟩ := hstep
    obtain ⟨enough, hrest⟩ := ih
    refine ⟨max needed (enough + 1), fun steps limit hsteps hlimit => ?_⟩
    obtain ⟨count, rfl⟩ : ∃ count, limit = count + 1 := ⟨limit - 1, by omega⟩
    have hnext := (context.processBlock_persists (Nat.le_trans (Nat.le_max_left _ _) hsteps) frame _
      block).outcome_eq hdone
    rw [scan_outcome_of_processBlock hfind hnext, ← hposition]
    exact hrest steps count (by omega) (by omega)

/-- An expansion that is granted a step goes on to scan the file that it opens. -/
theorem expand_outcome_of_opens {key : SourcePath} {text : Text}
    (h : context.Opens request key text) (steps : Nat) :
    (context.expand (steps + 1) request).outcome =
      (context.scan (context.expand steps) (frameOf request key) steps text 0).outcome := by
  obtain ⟨bytes, henter, hdecode⟩ := h
  rw [expand, andThen_outcome_of_done ((ofExcept_outcome_eq_done_iff _ _).mpr henter)]
  dsimp only
  rw [andThen_outcome_of_done (context.record_outcome _),
    andThen_outcome_of_done ((ofExcept_outcome_eq_done_iff _ _).mpr hdecode)]
  change ((context.scan (context.expand steps) (frameOf request key) steps text 0).andThen
    fun text => (context.record (.expanded request.frame.resolved text.length)).andThen
      fun _ => .value text).outcome = _
  generalize context.scan (context.expand steps) (frameOf request key) steps text 0 = run
  obtain ⟨events, outcome⟩ := run
  cases outcome <;> rfl

/-- Only a file that opens is expanded. -/
theorem opens_of_expand_outcome {steps : Nat} {text : Text}
    (h : (context.expand steps request).outcome = .done text) :
    ∃ key source, context.Opens request key source := by
  cases steps with
  | zero => nomatch h
  | succ steps =>
    rw [expand, andThen_outcome_eq_done_iff] at h
    obtain ⟨⟨key, bytes⟩, henter, h⟩ := h
    dsimp only at h
    rw [andThen_outcome_of_done (context.record_outcome _), andThen_outcome_eq_done_iff] at h
    obtain ⟨source, hdecode, -⟩ := h
    rw [ofExcept_outcome_eq_done_iff] at henter hdecode
    exact ⟨key, source, bytes, henter, hdecode⟩

/-- A file is expanded to a text exactly when it opens and its scan leads to that text, with no
block after the offset that the scan has reached. -/
theorem expands_iff (context : Context) (request : Request) (result : Text) :
    context.Expands request result ↔
      ∃ key text last, context.Opens request key text ∧
        context.Leads (frameOf request key) ⟨text, 0⟩ ⟨result, last⟩ ∧
        context.settings.markers.find? result last = none := by
  constructor
  · rintro ⟨steps, hdone⟩
    obtain ⟨key, text, hopens⟩ := opens_of_expand_outcome hdone
    cases steps with
    | zero => nomatch hdone
    | succ steps =>
      rw [expand_outcome_of_opens hopens] at hdone
      obtain ⟨last, hleads, hlast⟩ := leads_of_scan_outcome hdone
      exact ⟨key, text, last, hopens, hleads, hlast⟩
  · rintro ⟨key, text, last, hopens, hleads, hlast⟩
    obtain ⟨enough, hdone⟩ := scan_outcome_of_leads hleads hlast
    refine ⟨enough + 1, ?_⟩
    rw [expand_outcome_of_opens hopens]
    exact hdone enough enough (Nat.le_refl _) (Nat.le_refl _)

end Context

end TextMacro
