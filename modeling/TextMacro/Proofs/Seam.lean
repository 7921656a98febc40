import TextMacro.Proofs.Substitution
import TextMacro.Proofs.Survival

/-!
# Blocks on a seam

A command that only puts a text in where its block stood, as an inclusion does, leaves what stands
before the block as it was. With such commands the scan of a file never goes back: its blocks begin
further and further to the right, and what stands before one of them is settled when it is found.
Where a block was taken out, however, two parts of the text meet, and an opening marker may stand
across that seam. A block that is left in an expanded text has such an opening marker; with an
opening marker of one character there is none.
-/

namespace TextMacro

open Run Relation

/-- Whenever a call of the command is carried out, the text of the call is left with a piece put in
where the block stood. -/
def Command.Inserts (command : Command) : Prop :=
  ∀ (call : Call) (answer : Request → Run Text) (result : Text),
    ((command.handler call).run answer).outcome = .done result →
      ∃ piece, result = Text.insertAt call.text call.index piece

/-- An inclusion puts in the text of the included file. -/
theorem Command.inclusion_inserts : Command.inclusion.Inserts := by
  rintro ⟨args, frame, text, index⟩ answer result h
  match args with
  | [path] =>
    rw [run_inclusion, andThen_outcome_eq_done_iff] at h
    obtain ⟨included, -, hresult⟩ := h
    exact ⟨included, (Outcome.done.inj hresult).symm⟩
  | [] => nomatch h
  | _ :: _ :: _ => nomatch h

/-- A registry of commands that only put texts in. -/
def Registry.Inserts (registry : Registry) : Prop :=
  ∀ command ∈ registry.commands, command.Inserts

namespace Context

variable {context : Context} {frame : Frame} {request : Request}

/-- Commands that put texts in keep what stands before the block. -/
theorem append_of_execute_outcome {answer : Request → Run Text} {invocations : List Invocation}
    (hinserts : ∀ invocation ∈ invocations, invocation.command.Inserts) {before after result : Text}
    (h : (execute answer frame before.length invocations (before ++ after)).outcome =
      .done result) :
    ∃ rest, result = before ++ rest := by
  induction invocations generalizing after with
  | nil => exact ⟨after, (Outcome.done.inj h).symm⟩
  | cons invocation invocations ih =>
    rw [execute, andThen_outcome_eq_done_iff] at h
    obtain ⟨next, hnext, hrest⟩ := h
    obtain ⟨piece, rfl⟩ := hinserts invocation List.mem_cons_self _ answer next hnext
    rw [Text.insertAt_length, List.append_assoc] at hrest
    exact ih (fun i hi => hinserts i (List.mem_cons_of_mem _ hi)) hrest

/-- A block of such commands keeps what stands before it. -/
theorem Advances.take_eq (hinserts : context.registry.Inserts) {cursor next : Cursor}
    (h : context.Advances frame cursor next) :
    next.text.take next.position = cursor.text.take next.position := by
  obtain ⟨block, hfind, ⟨steps, hdone⟩, hposition⟩ := h
  obtain ⟨hinside, hle⟩ := Markers.start_le_of_find?_eq_some hfind
  obtain ⟨invocations, hparse, hexecute⟩ :=
    (context.processBlock_outcome_eq_done_iff _ _ _ _ _).mp hdone
  obtain ⟨-, rfl⟩ := (Parse.result_eq_ok_iff _ _).mp hparse
  have hlength : (cursor.text.take block.start).length = block.start :=
    List.length_take_of_le hinside
  rw [Block.remove_eq hle] at hexecute
  nth_rewrite 1 [← hlength] at hexecute
  obtain ⟨rest, hrest⟩ := append_of_execute_outcome
    (fun i hi => hinserts _ (command_mem_of_mem_parseTokens _ _ hi)) hexecute
  rw [hposition, hrest, List.take_left' hlength]

/-- A scan does not go back. -/
theorem Advances.position_le (hopening : context.settings.markers.opening ≠ [])
    {cursor next : Cursor} (h : context.Advances frame cursor next) :
    cursor.position ≤ next.position := by
  obtain ⟨block, hfind, -, hposition⟩ := h
  have hstart := Markers.le_length_of_find?_eq_some hopening hfind
  obtain ⟨gap, -, -, hbegin, -⟩ := Markers.find?_eq_some hstart hfind
  omega

/-- The cursors of a scan, from one to the next by a block, up to one after which there is no
block. -/
structure Scans (context : Context) (frame : Frame) (cursors : Nat → Cursor) (count : Nat) :
    Prop where
  advances : ∀ i < count, context.Advances frame (cursors i) (cursors (i + 1))
  ends : context.settings.markers.find? (cursors count).text (cursors count).position = none

/-- A scan that leads to its end has cursors. -/
theorem exists_scans_of_leads {start last : Cursor} (h : context.Leads frame start last)
    (hlast : context.settings.markers.find? last.text last.position = none) :
    ∃ cursors count, cursors 0 = start ∧ cursors count = last ∧
      context.Scans frame cursors count := by
  induction h using ReflTransGen.head_induction_on with
  | refl => exact ⟨fun _ => last, 0, rfl, rfl, nofun, hlast⟩
  | @head start next hstep _ ih =>
    obtain ⟨cursors, count, hzero, hcount, hadvances, hends⟩ := ih
    refine ⟨fun | 0 => start | i + 1 => cursors i, count + 1, rfl, hcount, ?_, hends⟩
    intro i hi
    cases i with
    | zero =>
      rw [← hzero] at hstep
      exact hstep
    | succ i => exact hadvances i (Nat.lt_of_succ_lt_succ hi)

namespace Scans

variable {cursors : Nat → Cursor} {count : Nat}

/-- The blocks of a scan begin one after another. -/
theorem position_le (h : context.Scans frame cursors count)
    (hopening : context.settings.markers.opening ≠ []) {i j : Nat} (hij : i ≤ j) (hj : j ≤ count) :
    (cursors i).position ≤ (cursors j).position := by
  induction j, hij using Nat.le_induction with
  | base => exact Nat.le_refl _
  | succ j _ ih =>
    exact Nat.le_trans (ih (Nat.le_of_succ_le hj)) ((h.advances j hj).position_le hopening)

/-- What stands before a block when it is found stays as it is. -/
theorem take_eq (h : context.Scans frame cursors count)
    (hopening : context.settings.markers.opening ≠ []) (hinserts : context.registry.Inserts)
    {i j : Nat} (hij : i ≤ j) (hj : j ≤ count) :
    (cursors j).text.take (cursors (i + 1)).position =
      (cursors i).text.take (cursors (i + 1)).position := by
  induction j, hij using Nat.le_induction with
  | base => rfl
  | succ j hij ih =>
    have hle : (cursors (i + 1)).position ≤ (cursors (j + 1)).position :=
      h.position_le hopening (Nat.succ_le_succ hij) hj
    have hstep := (h.advances j hj).take_eq hinserts
    calc (cursors (j + 1)).text.take (cursors (i + 1)).position
        = ((cursors (j + 1)).text.take (cursors (j + 1)).position).take
            (cursors (i + 1)).position := by rw [List.take_take, Nat.min_eq_left hle]
      _ = (cursors j).text.take (cursors (i + 1)).position := by
          rw [hstep, List.take_take, Nat.min_eq_left hle]
      _ = (cursors i).text.take (cursors (i + 1)).position := ih (Nat.le_of_succ_le hj)

/-- A block that a scan has left behind has its opening marker across the beginning of one that was
processed. -/
theorem exists_seam (h : context.Scans frame cursors count)
    (hopening : context.settings.markers.opening ≠ []) (hinserts : context.registry.Inserts)
    (hzero : (cursors 0).position = 0) {j : Nat} (hj : j ≤ count) {offset : Nat}
    (hlt : offset < (cursors j).position)
    (hblock : context.settings.markers.BlockAt (cursors j).text offset) :
    ∃ i < j, offset < (cursors (i + 1)).position ∧
      (cursors (i + 1)).position < offset + context.settings.markers.opening.length := by
  induction j with
  | zero => omega
  | succ j ih =>
    have hadvances := h.advances j hj
    by_cases hacross :
        (cursors (j + 1)).position < offset + context.settings.markers.opening.length
    · exact ⟨j, Nat.lt_succ_self j, hlt, hacross⟩
    · -- the opening marker stands before the last block, so the block was there before
      obtain ⟨hbefore, hold⟩ := hadvances.blockAt_of_take_eq hopening
        (hadvances.take_eq hinserts) (Nat.le_of_not_lt hacross) hblock
      obtain ⟨i, hi, hseam⟩ := ih (Nat.le_of_succ_le hj) hbefore hold
      exact ⟨i, Nat.lt_succ_of_lt hi, hseam⟩

end Scans

/-- With commands that only put texts in, the blocks of a scan begin further and further to the
right, what stands before each of them stays as it is when the block is found, and a block that is
left in the expanded text has its opening marker across the beginning of one of them. So with an
opening marker of one character no block is left. -/
theorem leftover_blocks_on_seams (context : Context)
    (hopening : context.settings.markers.opening ≠ []) (hinserts : context.registry.Inserts)
    {text : Text} (h : context.Expands request text) :
    ∃ key source cursors count, context.Opens request key source ∧ cursors 0 = ⟨source, 0⟩ ∧
      context.Scans (frameOf request key) cursors count ∧ (cursors count).text = text ∧
      (∀ i j, i ≤ j → j ≤ count → (cursors i).position ≤ (cursors j).position) ∧
      (∀ i j, i < count → i ≤ j → j ≤ count →
        (cursors j).text.take (cursors (i + 1)).position =
          (cursors i).text.take (cursors (i + 1)).position) ∧
      (∀ offset block, context.settings.markers.find? text offset = some block →
        ∃ i < count, block.start < (cursors (i + 1)).position ∧
          (cursors (i + 1)).position <
            block.start + context.settings.markers.opening.length) ∧
      (context.settings.markers.opening.length = 1 →
        ∀ offset, context.settings.markers.find? text offset = none) := by
  obtain ⟨key, source, last, hopens, hleads, hlast⟩ := (context.expands_iff _ _).mp h
  obtain ⟨cursors, count, hzero, hcount, hscans⟩ := exists_scans_of_leads hleads hlast
  have hseams : ∀ offset block, context.settings.markers.find? text offset = some block →
      ∃ i < count, block.start < (cursors (i + 1)).position ∧
        (cursors (i + 1)).position < block.start + context.settings.markers.opening.length := by
    intro offset block hfind
    have hblock := Markers.blockAt_of_find?_eq_some hfind
    have hlt : block.start < last := by
      apply Nat.lt_of_not_le
      intro hle
      exact Markers.find?_eq_none_iff.mp hlast _ (Nat.le_trans (Nat.min_le_left _ _) hle) hblock
    refine hscans.exists_seam hopening hinserts (by rw [hzero]) (Nat.le_refl count) ?_ ?_
    · rw [hcount]
      exact hlt
    · rw [hcount]
      exact hblock
  refine ⟨key, source, cursors, count, hopens, hzero, hscans, by rw [hcount], ?_, ?_, hseams, ?_⟩
  · intro i j hij hj
    exact hscans.position_le hopening hij hj
  · intro i j _ hij hj
    exact hscans.take_eq hopening hinserts hij hj
  · intro hone offset
    rw [Option.eq_none_iff_forall_ne_some]
    intro block hfind
    obtain ⟨i, -, hbegin, hend⟩ := hseams offset block hfind
    omega

/-- A file with an empty block inside of an opening marker, and inclusion as the only command. -/
def splitOpening : Context :=
  { ofTexts [("a", "/*bui/*buildjs*/ldjs*/")] with registry := ⟨[.inclusion]⟩ }

/-- A block is left, and its opening marker stands across the place where the other one was taken
out. -/
theorem splitOpening_seam :
    splitOpening.Expands ⟨"a".toList, none, []⟩ "/*buildjs*/".toList ∧
      ∃ (cursors : Nat → Cursor) (count : Nat),
        cursors 0 = ⟨"/*bui/*buildjs*/ldjs*/".toList, 0⟩ ∧
        splitOpening.Scans (frameOf ⟨"a".toList, none, []⟩ (.ofText "/a".toList)) cursors count ∧
        ∃ i < count, 0 < (cursors (i + 1)).position ∧ (cursors (i + 1)).position < 9 := by
  have hinserts : splitOpening.registry.Inserts := by
    rintro command (_ | ⟨_, ⟨⟩⟩)
    exact Command.inclusion_inserts
  have hexpands : splitOpening.Expands ⟨"a".toList, none, []⟩ "/*buildjs*/".toList :=
    ⟨4, by decide +kernel⟩
  have hfile : splitOpening.Opens ⟨"a".toList, none, []⟩ (.ofText "/a".toList)
      "/*bui/*buildjs*/ldjs*/".toList :=
    ⟨"/*bui/*buildjs*/ldjs*/".toUTF8.toList, by decide +kernel, by decide +kernel⟩
  obtain ⟨key, source, cursors, count, hopens, hzero, hscans, -, -, -, hseams, -⟩ :=
    leftover_blocks_on_seams splitOpening (by decide) hinserts hexpands
  obtain ⟨rfl, rfl⟩ := hfile.unique hopens
  obtain ⟨i, hi, hbegin, hend⟩ := hseams 0 ⟨0, 11, []⟩ (by decide +kernel)
  exact ⟨hexpands, cursors, count, hzero, hscans, i, hi, hbegin, hend⟩

end Context

end TextMacro
