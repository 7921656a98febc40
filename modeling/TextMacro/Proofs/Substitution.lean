import Mathlib
import TextMacro.Proofs.Occurrence
import TextMacro.Proofs.Scanning

/-!
# Inclusion as substitution

The blocks of a text that only include files can be replaced all at once: each block by the
expansions of its inclusions, the last one first. The scan works on one text in place, from offsets
that move as texts are put in, and searches again what it has put in. It gives the substituted text
nevertheless, provided that this text has no opening marker in it and that the opening marker has
no borders, so that no opening marker is made or lost at a seam.
-/

namespace TextMacro

open Run Relation

/-- A piece is put between what stands before an offset and what follows it. -/
theorem Text.insertAt_length (before after piece : Text) :
    Text.insertAt (before ++ after) before.length piece = before ++ piece ++ after := by
  have hoffset : Text.offset (before ++ after) before.length = before.length := by
    rw [Text.offset, if_neg (by omega), Int.toNat_natCast]
  rw [Text.insertAt_eq, hoffset, List.take_left, List.drop_left]

namespace Context

variable {context : Context} {frame : Frame}

/-- The expansion that an inclusion in the file of a frame asks for. -/
def Includes (context : Context) (frame : Frame) (path included : Text) : Prop :=
  context.Expands ⟨unquote path, some frame.directory, frame.active⟩ included

/-- Each inclusion of a block is put in front of those before it. -/
theorem execute_outcome_of_includes {paths expansions : List Text}
    (h : List.Forall₂ (context.Includes frame) paths expansions) (before after : Text) :
    ∃ enough, ∀ steps, enough ≤ steps →
      (execute (context.expand steps) frame before.length (paths.map Invocation.including)
        (before ++ after)).outcome = .done (before ++ expansions.reverse.flatten ++ after) := by
  induction h generalizing after with
  | nil => exact ⟨0, fun steps _ => by simp [execute, value]⟩
  | @cons path included paths expansions hpath _ ih =>
    obtain ⟨first, hfirst⟩ := hpath.eventually
    obtain ⟨others, hothers⟩ := ih (included ++ after)
    refine ⟨max first others, fun steps hsteps => ?_⟩
    have hincluded := hfirst steps (Nat.le_trans (Nat.le_max_left _ _) hsteps)
    have hrest := hothers steps (Nat.le_trans (Nat.le_max_right _ _) hsteps)
    have hhandler : ((Command.inclusion.handler
        ⟨[path], frame, before ++ after, before.length⟩).run (context.expand steps)).outcome =
          .done (before ++ (included ++ after)) := by
      rw [run_inclusion, andThen_outcome_of_done hincluded, Text.insertAt_length,
        List.append_assoc]
      rfl
    rw [List.map_cons, execute, Invocation.including, andThen_outcome_of_done hhandler, hrest]
    simp

/-- A block that only includes files leaves their expansions where it stood. -/
theorem processes_of_includes {text before after : Text} {block : Block}
    {paths expansions : List Text} (hstart : block.start = before.length)
    (hremove : block.remove text = before ++ after)
    (hparse : (parse context.registry block.body).result = .ok (paths.map Invocation.including))
    (hincludes : List.Forall₂ (context.Includes frame) paths expansions) :
    context.Processes frame text block (before ++ expansions.reverse.flatten ++ after) := by
  obtain ⟨enough, hexecute⟩ := execute_outcome_of_includes hincludes before after
  refine ⟨enough, ?_⟩
  rw [processBlock_outcome_eq_done_iff, hremove, hstart]
  exact ⟨_, hparse, hexecute enough (Nat.le_refl _)⟩

/-- From an offset on, a text whose blocks only include files, and the text with each of these
blocks replaced by the expansions of its inclusions, the last one first. -/
inductive Substitutes (context : Context) (frame : Frame) (text : Text) : Nat → Text → Prop
  /-- There is no further block. -/
  | rest {position : Nat} :
    context.settings.markers.find? text position = none →
    Substitutes context frame text position (text.drop position)
  /-- The next block is replaced, and the search goes on from its end. -/
  | block {position : Nat} {block : Block} {paths expansions : List Text} {rest : Text} :
    context.settings.markers.find? text position = some block →
    (parse context.registry block.body).result = .ok (paths.map Invocation.including) →
    List.Forall₂ (context.Includes frame) paths expansions →
    Substitutes context frame text block.stop rest →
    Substitutes context frame text position
      ((text.take block.start).drop position ++ expansions.reverse.flatten ++ rest)

/-- In a text without opening marker no block is found. -/
theorem find?_eq_none_of_not_infix {text : Text}
    (h : ¬ context.settings.markers.opening <:+: text) (position : Nat) :
    context.settings.markers.find? text position = none := by
  rw [Markers.find?_eq_none_iff]
  rintro offset - ⟨before, body, after, -, rfl⟩
  exact h ⟨before, body ++ context.settings.markers.closing ++ after, by simp⟩

/-- The scan gives the substituted text.

The text that the scan has produced so far stands in front of what is left of the original text; the
scan is at an offset in it, since it searches again what it put in last. -/
theorem leads_of_substitutes (hopening : Text.Unbordered context.settings.markers.opening)
    {text rest : Text} {position : Nat} (h : context.Substitutes frame text position rest)
    (hposition : position ≤ text.length) (front : Text) {start : Nat}
    (hstart : start ≤ front.length)
    (hfree : ¬ context.settings.markers.opening <:+: front ++ rest) :
    ∃ last, context.Leads frame ⟨front ++ text.drop position, start⟩ ⟨front ++ rest, last⟩ := by
  induction h generalizing front start with
  | rest _ => exact ⟨start, .refl⟩
  | @block position block paths expansions rest hfind hparse hincludes _ ih =>
    obtain ⟨gap, after, htext, hbegin, -, hstop, hafter, -, hclose⟩ :=
      Markers.find?_eq_some hposition hfind
    have hgap : (text.take block.start).drop position = gap := by
      rw [List.drop_take, hbegin, Nat.add_sub_cancel_left, htext, List.take_left]
    rw [hgap] at hfree ⊢
    -- nothing that the scan has passed holds an opening marker
    have hpassed : ¬ context.settings.markers.opening <:+: front ++ gap := by
      intro hoccurs
      exact hfree (hoccurs.trans ⟨[], expansions.reverse.flatten ++ rest, by simp⟩)
    have hwhole : front ++ text.drop position = front ++ gap ++
        (context.settings.markers.opening ++ block.body ++ context.settings.markers.closing ++
          after) := by
      rw [htext]
      simp only [List.append_assoc]
    have hfound : context.settings.markers.find? (front ++ text.drop position) start =
        some (context.settings.markers.blockOf (front ++ gap).length block.body) := by
      have hlater : start ≤ (front ++ gap).length := by
        rw [List.length_append]
        omega
      rw [← Markers.find?_append_of_unbordered hopening hlater hpassed hclose, hwhole]
      simp only [List.append_assoc]
    have hprocess : context.Processes frame (front ++ text.drop position)
        (context.settings.markers.blockOf (front ++ gap).length block.body)
        (front ++ gap ++ expansions.reverse.flatten ++ after) := by
      refine processes_of_includes rfl ?_ hparse hincludes
      rw [hwhole, Markers.remove_blockOf]
    have hadvances : context.Advances frame ⟨front ++ text.drop position, start⟩
        ⟨front ++ gap ++ expansions.reverse.flatten ++ after, (front ++ gap).length⟩ :=
      ⟨_, hfound, hprocess, rfl⟩
    have hinside : (front ++ gap).length ≤ (front ++ gap ++ expansions.reverse.flatten).length :=
      (List.prefix_append _ _).length_le
    obtain ⟨last, hleads⟩ := ih hstop (front ++ gap ++ expansions.reverse.flatten) hinside
      (by simpa using hfree)
    rw [hafter] at hleads
    refine ⟨last, .head hadvances ?_⟩
    simpa using hleads

/-- A file whose blocks only include files is expanded to its text with each block replaced by the
expansions of its inclusions, provided that no opening marker stands in this text. -/
theorem expands_of_substitutes (hopening : Text.Unbordered context.settings.markers.opening)
    {request : Request} {key : SourcePath} {text result : Text}
    (hopens : context.Opens request key text)
    (hsubstitutes : context.Substitutes (frameOf request key) text 0 result)
    (hfree : ¬ context.settings.markers.opening <:+: result) : context.Expands request result := by
  obtain ⟨last, hleads⟩ := leads_of_substitutes hopening hsubstitutes (Nat.zero_le _) []
    (Nat.le_refl _) hfree
  rw [expands_iff]
  exact ⟨key, text, last, hopens, hleads, find?_eq_none_of_not_infix hfree last⟩

/-- A file with a block of two inclusions and an empty block. -/
def twoIncluded : Context :=
  .ofTexts [("a", "v/*buildjs @inc b @inc c */w/*buildjs*/x"), ("b", "B"), ("c", "C")]

/-- The second inclusion is put before the first one, and the empty block is dropped. -/
theorem twoIncluded_expands :
    twoIncluded.Expands ⟨"a".toList, none, []⟩ "vCBwx".toList := by
  have hopens : twoIncluded.Opens ⟨"a".toList, none, []⟩ (.ofText "/a".toList)
      "v/*buildjs @inc b @inc c */w/*buildjs*/x".toList :=
    ⟨"v/*buildjs @inc b @inc c */w/*buildjs*/x".toUTF8.toList, by decide +kernel,
      by decide +kernel⟩
  have hopening : Text.Unbordered twoIncluded.settings.markers.opening := by
    intro piece hnil hbegin hend
    have hall : ∀ piece ∈ twoIncluded.settings.markers.opening.inits, piece ≠ [] →
        piece <:+ twoIncluded.settings.markers.opening →
          piece = twoIncluded.settings.markers.opening := by decide
    exact hall piece ((List.mem_inits _ _).mpr hbegin) hnil hend
  have hempty : twoIncluded.Substitutes (frameOf ⟨"a".toList, none, []⟩ (.ofText "/a".toList))
      "v/*buildjs @inc b @inc c */w/*buildjs*/x".toList 27 "wx".toList := by
    have hfind : twoIncluded.settings.markers.find?
        "v/*buildjs @inc b @inc c */w/*buildjs*/x".toList 27 = some ⟨28, 39, []⟩ := by
      decide +kernel
    have hparse : (parse twoIncluded.registry []).result = .ok ([].map Invocation.including) := by
      cbv
    exact .block hfind hparse .nil (.rest (by decide +kernel))
  have hwhole : twoIncluded.Substitutes (frameOf ⟨"a".toList, none, []⟩ (.ofText "/a".toList))
      "v/*buildjs @inc b @inc c */w/*buildjs*/x".toList 0 "vCBwx".toList := by
    have hfind : twoIncluded.settings.markers.find?
        "v/*buildjs @inc b @inc c */w/*buildjs*/x".toList 0 =
          some ⟨1, 27, " @inc b @inc c ".toList⟩ := by
      decide +kernel
    have hparse : (parse twoIncluded.registry " @inc b @inc c ".toList).result =
        .ok (["b".toList, "c".toList].map Invocation.including) := by
      cbv
    have hb : twoIncluded.Includes (frameOf ⟨"a".toList, none, []⟩ (.ofText "/a".toList))
        "b".toList "B".toList := ⟨2, by decide +kernel⟩
    have hc : twoIncluded.Includes (frameOf ⟨"a".toList, none, []⟩ (.ofText "/a".toList))
        "c".toList "C".toList := ⟨2, by decide +kernel⟩
    exact .block hfind hparse (.cons hb (.cons hc .nil)) hempty
  exact expands_of_substitutes hopening hopens hwhole (by decide)

end Context

end TextMacro
