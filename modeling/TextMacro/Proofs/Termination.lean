import Mathlib.Order.WellFounded
import TextMacro.Proofs.Nesting

/-!
# When expansion comes to an end

When cycles are detected, expansions are nested in each other only as deep as there are files. So a
build goes on forever only if the scan of one file does, which then finds blocks without end in what
it has put in itself; and where no scan does, every build has an end.
-/

namespace TextMacro

open Run Relation

namespace Context

variable {context : Context} {frame : Frame} {request inner : Request}

/-- The scan of a file advances from block to block forever. -/
def LoopsForever (context : Context) (request : Request) : Prop :=
  ∃ key text, context.Opens request key text ∧ ∃ cursors : Nat → Cursor, cursors 0 = ⟨text, 0⟩ ∧
    ∀ i, context.Advances (frameOf request key) (cursors i) (cursors (i + 1))

/-- A scan that advances forever has no end, however many steps it is granted. -/
theorem LoopsForever.not_ends (h : context.LoopsForever request) : ¬ context.Ends request := by
  obtain ⟨key, text, hopens, cursors, hzero, hadvances⟩ := h
  have hscan (steps limit i : Nat) : (context.scan (context.expand steps) (frameOf request key)
      limit (cursors i).text (cursors i).position).outcome = .exhausted := by
    induction limit generalizing i with
    | zero => rfl
    | succ limit ih =>
      by_contra hend
      obtain ⟨count, hcount, hnext⟩ := scan_ne_exhausted_of_advances (hadvances i) hend
      obtain rfl : limit = count := by omega
      exact hnext (ih (i + 1))
  rintro ⟨steps, hend⟩
  cases steps with
  | zero => exact hend rfl
  | succ steps =>
    apply hend
    have hstart := hscan steps steps 0
    rw [hzero] at hstart
    rw [expand_outcome_of_opens hopens]
    exact hstart

/-- An expansion has an end only if those that it comes to have one. -/
theorem Nests.ends (h : context.Nests request inner) (hends : context.Ends request) :
    context.Ends inner := by
  obtain ⟨key, text, cursor, hopens, hleads, block, invocations, hfind, hparse, hasks⟩ := h
  obtain ⟨steps, hend⟩ := hends
  cases steps with
  | zero => exact absurd rfl hend
  | succ steps =>
    rw [expand_outcome_of_opens hopens] at hend
    obtain ⟨count, hcount⟩ := scan_ne_exhausted_of_leads hleads hend
    cases count with
    | zero => exact absurd rfl hcount
    | succ count =>
      refine ⟨steps, hasks.outcome_ne_exhausted fun hexecute => hcount ?_⟩
      have hblock := (context.processBlock_outcome_eq_exhausted_iff (context.expand steps)
        (frameOf request key) (block.remove cursor.text) block).mpr ⟨invocations, hparse, hexecute⟩
      rw [scan, hfind]
      exact (andThen_outcome_eq_exhausted_iff _ _).mpr
        (Or.inl ((mapFailure_outcome_eq_exhausted_iff _ _).mpr hblock))

/-- The block that a scan is at comes to an end if all that it asks for does. -/
theorem processBlock_ends (hbuiltin : context.registry = .builtin) {cursor : Cursor} {block : Block}
    (hfind : context.settings.markers.find? cursor.text cursor.position = some block)
    (h : ∀ inner, context.AsksAt frame cursor inner → context.Ends inner) :
    ∃ steps, (context.processBlock (context.expand steps) frame (block.remove cursor.text)
      block).outcome ≠ .exhausted := by
  cases hparse : (parse context.registry block.body).result with
  | error cause =>
    refine ⟨0, ?_⟩
    rw [Ne, processBlock_outcome_eq_exhausted_iff, hparse]
    simp
  | ok invocations =>
    have hcommands : ∀ invocation ∈ invocations,
        invocation.command ∈ Registry.builtin.commands := by
      intro invocation hmem
      obtain ⟨-, rfl⟩ := (Parse.result_eq_ok_iff _ _).mp hparse
      rw [← hbuiltin]
      exact command_mem_of_mem_parseTokens _ _ hmem
    obtain ⟨steps, hend⟩ := execute_ends hcommands fun inner hasks =>
      h inner ⟨block, invocations, hfind, hparse, hasks⟩
    refine ⟨steps, fun hexhausted => hend ?_⟩
    obtain ⟨others, hothers, hexecute⟩ :=
      (context.processBlock_outcome_eq_exhausted_iff _ _ _ _).mp hexhausted
    rw [hparse, Except.ok.injEq] at hothers
    rw [hothers]
    exact hexecute

/-- A scan that cannot advance forever has an end if all that it comes to has one. -/
theorem scan_ends (hbuiltin : context.registry = .builtin) {cursor : Cursor}
    (hacc : Acc (fun next cursor => context.Advances frame cursor next) cursor)
    (h : ∀ later inner, context.Leads frame cursor later → context.AsksAt frame later inner →
      context.Ends inner) :
    ∃ steps, (context.scan (context.expand steps) frame steps cursor.text
      cursor.position).outcome ≠ .exhausted := by
  induction hacc with
  | intro cursor _ ih =>
    cases hfind : context.settings.markers.find? cursor.text cursor.position with
    | none =>
      refine ⟨1, ?_⟩
      rw [scan_of_find?_eq_none hfind]
      exact nofun
    | some block =>
      obtain ⟨first, hfirst⟩ := processBlock_ends hbuiltin hfind fun inner => h cursor inner .refl
      cases hdone : (context.processBlock (context.expand first) frame (block.remove cursor.text)
          block).outcome with
      | exhausted => exact absurd hdone hfirst
      | failed failure =>
        have hsame := context.processBlock_persists (Nat.le_succ first) frame
          (block.remove cursor.text) block ((Outcome.isEnd_true_iff _).mpr hfirst)
        refine ⟨first + 1, ?_⟩
        rw [scan, hfind]
        dsimp only
        rw [hsame, Ne, andThen_outcome_eq_exhausted_iff, mapFailure_outcome_eq_exhausted_iff,
          hdone]
        simp [mapFailure_outcome_eq_done_iff, hdone]
      | done next =>
        have hadvances : context.Advances frame cursor ⟨next, block.start⟩ :=
          ⟨block, hfind, ⟨first, hdone⟩, rfl⟩
        obtain ⟨others, hothers⟩ := ih _ hadvances fun later inner hleads =>
          h later inner (.head hadvances hleads)
        refine ⟨max first others + 1, ?_⟩
        have hnext := (context.processBlock_persists
          (Nat.le_succ_of_le (Nat.le_max_left first others)) frame (block.remove cursor.text)
            block).outcome_eq hdone
        rw [scan_outcome_of_processBlock hfind hnext]
        exact (context.scan_persists (Nat.le_succ_of_le (Nat.le_max_right first others))
          (Nat.le_max_right first others) frame next block.start).outcome_ne_exhausted hothers

/-- A request that opens no file fails at once. -/
theorem ends_of_not_opens (h : ∀ key text, ¬ context.Opens request key text) :
    context.Ends request := by
  refine ⟨1, fun hexhausted => ?_⟩
  rw [expand, andThen_outcome_eq_exhausted_iff] at hexhausted
  rcases hexhausted with henter | ⟨⟨key, bytes⟩, henter, hrest⟩
  · exact ofExcept_outcome_ne_exhausted _ henter
  · dsimp only at hrest
    rw [andThen_outcome_of_done (context.record_outcome _),
      andThen_outcome_eq_exhausted_iff] at hrest
    rcases hrest with hdecode | ⟨text, hdecode, -⟩
    · exact ofExcept_outcome_ne_exhausted _ hdecode
    · rw [ofExcept_outcome_eq_done_iff] at henter hdecode
      exact h key text ⟨bytes, henter, hdecode⟩

/-- An expansion has an end only if all expansions nested in it, however deeply, have one. -/
theorem ends_of_nested (hends : context.Ends request)
    (h : ReflTransGen context.Nests request inner) : context.Ends inner := by
  induction h with
  | refl => exact hends
  | tail _ hnests ih => exact hnests.ends ih

/-- When cycles are detected, an expansion has an end exactly when no scan that it comes to, however
deeply nested, advances forever. -/
theorem ends_iff (hbuiltin : context.registry = .builtin)
    (hdetect : context.settings.detectCycles = true) (request : Request) :
    context.Ends request ↔
      ∀ inner, ReflTransGen context.Nests request inner → ¬ context.LoopsForever inner := by
  constructor
  · intro hends inner hnested hloops
    exact hloops.not_ends (ends_of_nested hends hnested)
  · -- by induction on the number of files that may still be entered
    induction hcard : (context.unentered request).card using Nat.strong_induction_on
      generalizing request with
    | _ count ih =>
      intro hfinite
      by_cases hopens : ∃ key text, context.Opens request key text
      · obtain ⟨key, text, hopens⟩ := hopens
        have hacc : Acc (fun next cursor => context.Advances (frameOf request key) cursor next)
            ⟨text, 0⟩ := by
          by_contra hinfinite
          exact hfinite request .refl
            ⟨key, text, hopens, not_acc_iff_exists_descending_chain.mp hinfinite⟩
        obtain ⟨steps, hend⟩ := scan_ends hbuiltin hacc fun later inner hleads hasks => by
          have hnests : context.Nests request inner := ⟨key, text, later, hopens, hleads, hasks⟩
          refine ih _ ?_ inner rfl fun deeper hdeeper => hfinite deeper (.head hnests hdeeper)
          rw [← hcard]
          exact hnests.card_unentered_lt hdetect
        refine ⟨steps + 1, ?_⟩
        rw [expand_outcome_of_opens hopens]
        exact hend
      · push Not at hopens
        exact ends_of_not_opens hopens

end Context

end TextMacro
