import TextMacro.Proofs.PipelineOutput
import TextMacro.Proofs.Transcoding

/-!
# Files without blocks

A file without a block is built to its text. So writing it as output copies its bytes, up to the
signature that one of the encodings puts in front; and a text without a block that was written is
built from the file that it was written to. The file is found again under the name that it was
written under, also where the name is seen from the working directory, which is left out when the
file is read but spelled out when it is written.
-/

namespace TextMacro

open Run

namespace Location

/-- A place without double dots is followed from another one by going down. -/
theorem follow_eq_append {location : Location} (h : Component.up ∉ location) (start : Location) :
    start.follow location = start ++ location := by
  induction location generalizing start with
  | nil => exact (List.append_nil start).symm
  | cons component components ih =>
    rw [List.mem_cons, not_or] at h
    have hstep : start.step component = start ++ [component] := if_neg (Ne.symm h.1)
    rw [follow, List.foldl_cons, ← follow, hstep, ih h.2, List.append_assoc]
    rfl

end Location

/-- The bytes of a text are those of its parts. -/
theorem Utf8.size_append (text rest : Text) : size (text ++ rest) = size text + size rest := by
  simp [size, encode]

namespace SourcePath

variable {base path : SourcePath}

/-- Components in front leave what is joined at the end. -/
theorem joined_suffix_append (components more : List Component) :
    joined more <:+ joined (components ++ more) := by
  induction components with
  | nil => exact List.suffix_refl _
  | cons component components ih =>
    refine ih.trans ?_
    cases hrest : components ++ more with
    | nil => exact List.nil_suffix
    | cons next others =>
      refine ⟨component.text ++ ['/'], ?_⟩
      simp [joined, Text.join, hrest]

/-- Seen from the current directory, a path stays as it is. -/
theorem here_join (path : SourcePath) : here.join path = path := by
  unfold join
  split
  · rfl
  · next habsolute =>
    have hroot : path.root = .none := by simpa [isAbsolute] using habsolute
    rw [here, List.nil_append, ← hroot]

/-- A relative path takes no more bytes than the same path seen from an absolute directory. -/
theorem size_toText_le (hbase : base.isAbsolute = true) (hpath : path.isAbsolute = false) :
    Utf8.size path.toText ≤ Utf8.size (base.join path).toText := by
  have hjoin : base.join path = ⟨base.root, base.components ++ path.components⟩ :=
    if_neg (Bool.eq_false_iff.mp hpath)
  have hne : base.join path ≠ here := by
    intro hhere
    have habsolute := join_isAbsolute hbase path
    rw [hhere] at habsolute
    exact Bool.false_ne_true habsolute
  have hroot : path.root = .none := by simpa [isAbsolute] using hpath
  rw [toText_of_ne_here hne, hjoin, Utf8.size_append]
  by_cases hhere : path = here
  · have hbaseRoot : Utf8.size ['.'] ≤ Utf8.size base.root.toText := by
      cases hcase : base.root with
      | none => simp [isAbsolute, hcase] at hbase
      | slash => decide
      | doubleSlash => decide
    rw [hhere]
    exact Nat.le_trans hbaseRoot (Nat.le_add_right _ _)
  · obtain ⟨front, hfront⟩ := joined_suffix_append base.components path.components
    rw [toText_of_ne_here hhere, hroot, ← hfront, Utf8.size_append front, PathRoot.toText,
      List.nil_append]
    omega

end SourcePath

namespace FileTree

variable {tree : FileTree} {path : SourcePath} {place : Location} {bytes : List UInt8}

/-- The file under a path is the one at the place that the path leads to. -/
theorem findFile_eq_ok (h : tree.findFile path = .ok (place, bytes)) :
    tree.locate path = .ok place ∧ tree.get? place = some (.file bytes) := by
  unfold findFile at h
  split at h
  · nomatch h
  · next location hlocate =>
    split at h
    · next found hfound =>
      obtain ⟨rfl, rfl⟩ := Prod.mk.inj (Except.ok.inj h)
      exact ⟨hlocate, hfound⟩
    · nomatch h
    · nomatch h

/-- The file that is found under a path is what stands there. -/
theorem status_of_findFile (hnull : hasNull path = false)
    (h : tree.findFile path = .ok (place, bytes)) :
    tree.status path = .ok (some (.file bytes)) := by
  obtain ⟨hlocate, hget⟩ := findFile_eq_ok h
  rw [status, hnull, hlocate]
  exact congrArg Except.ok hget

/-- A path that is seen from the working directory leads where it does on its own. -/
theorem locate_of_locate_join (h : tree.locate (tree.cwd.toPath.join path) = .ok place) :
    tree.locate path = .ok place := by
  cases habsolute : path.isAbsolute with
  | true =>
    rw [SourcePath.join, if_pos habsolute] at h
    exact h
  | false =>
    have hjoin : tree.cwd.toPath.join path = ⟨.slash, tree.cwd ++ path.components⟩ :=
      if_neg (Bool.eq_false_iff.mp habsolute)
    have hsize : Utf8.size path.toText ≤ Utf8.size (tree.cwd.toPath.join path).toText :=
      SourcePath.size_toText_le rfl habsolute
    obtain ⟨hlong, hwalk⟩ := locate_eq_ok_iff.mp h
    rw [hjoin] at hwalk
    obtain ⟨start, hstart, hpath⟩ := exists_walk_of_append hwalk
    -- the way through the working directory leads to the working directory
    obtain rfl : start = tree.cwd := by
      rw [← follow_of_walk hstart]
      exact Location.follow_eq_append tree.up_not_mem_cwd []
    refine locate_eq_ok_iff.mpr ⟨?_, ?_⟩
    · simp only [isOverlong, decide_eq_false_iff_not, Nat.not_le] at hlong ⊢
      omega
    · rw [origin, habsolute]
      exact hpath

/-- A path without a null character in a directory has none itself. -/
theorem hasNull_of_join {base : SourcePath} (h : hasNull (base.join path) = false) :
    hasNull path = false := by
  unfold SourcePath.join at h
  split at h
  · exact h
  · rw [hasNull, List.any_append, Bool.or_eq_false_iff] at h
    exact h.2

/-- A file that is found through the working directory is what stands at the path on its own. -/
theorem status_of_findFile_join (hnull : hasNull (tree.cwd.toPath.join path) = false)
    (h : tree.findFile (tree.cwd.toPath.join path) = .ok (place, bytes)) :
    tree.status path = .ok (some (.file bytes)) := by
  obtain ⟨hlocate, hget⟩ := findFile_eq_ok h
  rw [status, hasNull_of_join hnull, locate_of_locate_join hlocate]
  exact congrArg Except.ok hget

end FileTree

namespace Context

variable {context : Context} {encoding : Encoding} {path text : Text} {basedir : Option SourcePath}
  {bytes : List UInt8}

/-- A file with a text that holds no block is built to that text. -/
theorem build_outcome_of_plain (hfind : context.settings.encoding.find = .ok encoding)
    (hfile : context.tree.status (Request.frame ⟨path, basedir, []⟩).resolved =
      .ok (some (.file bytes)))
    (hdecode : encoding.decode bytes = .ok text)
    (hplain : context.settings.markers.find? text 0 = none) (steps : Nat) :
    (context.build (steps + 2) path basedir).outcome = .done text := by
  have hopens : context.Opens ⟨path, basedir, []⟩
      (context.key (Request.frame ⟨path, basedir, []⟩).resolved) text := by
    refine ⟨bytes, (context.enter_eq_ok_iff _ _ _).mpr ⟨hfile, rfl, by simp⟩, ?_⟩
    exact (context.decode_eq_ok_iff _ _).mpr ⟨encoding, hfind, hdecode⟩
  rw [build, mapFailure_outcome_eq_done_iff, expand_outcome_of_opens hopens,
    scan_of_find?_eq_none hplain]
  rfl

/-- A file is built to one text only. -/
theorem Builds.unique {other : Text} (h : context.Builds path basedir text)
    (hother : context.Builds path basedir other) : text = other :=
  ((context.builds_iff _ _ _).mp h).unique ((context.builds_iff _ _ _).mp hother)

/-- Output of one file that holds no block is written when its target can be written. The target
then has a copy of the bytes of the file, and nothing else has changed. -/
theorem plain_file_copied (context : Context) (basedir : Option SourcePath) {outfile : Text}
    (hname : outfile ≠ []) (hfind : context.settings.encoding.find = .ok encoding)
    (hfile : context.tree.status
      ((basedir.getD context.workingDirectory).join (.ofText path)) = .ok (some (.file bytes)))
    (hdecode : encoding.decode bytes = .ok text)
    (hplain : context.settings.markers.find? text 0 = none) :
    let target := (basedir.getD context.workingDirectory).join (.ofText outfile)
    let written steps := context.writeOutput steps [path] (some outfile) basedir
    (∀ place, FileTree.hasNull target = false → context.tree.fileSlot target = .ok place →
      ∀ steps, (written (steps + 2)).run.outcome = .done target) ∧
    ∀ steps found, (written steps).run.outcome = .done found →
      found = target ∧ ∃ place,
        (written steps).tree = context.tree.put place (.file (encoding.copied bytes)) ∧
        (written steps).tree.findFile target = .ok (place, encoding.copied bytes) := by
  intro target written
  have htarget : context.target? (some outfile) basedir = some target :=
    target?_eq_some_iff.mpr ⟨outfile, rfl, hname, rfl⟩
  have hstatus : context.tree.status (Request.frame
      ⟨path, some (basedir.getD context.workingDirectory), []⟩).resolved =
        .ok (some (.file bytes)) := hfile
  have hbuild (steps : Nat) : (context.build (steps + 2) path
      (some (basedir.getD context.workingDirectory))).outcome = .done text :=
    build_outcome_of_plain hfind hstatus hdecode hplain steps
  have hencode := Encoding.encode_of_decode hdecode
  constructor
  · intro place hnull hplace steps
    have hbuilt : (context.buildAll (steps + 2)
        (some (basedir.getD context.workingDirectory)) [path]).outcome = .done text :=
      (context.buildAll_outcome_eq_done_iff _ _ _ _).mpr
        ⟨[text], .cons (hbuild steps) .nil, by simp⟩
    rw [(writeOutput_of_built htarget hbuilt).2, writeTo_of_encode hfind hencode, hnull, hplace]
    rfl
  · intro steps found hdone
    obtain ⟨other, result, hother, hresult, hwritten, htree⟩ := exists_of_writeOutput_done hdone
    obtain rfl := Option.some.inj (hother.symm.trans htarget)
    obtain ⟨texts, hall, rfl⟩ := (context.buildAll_outcome_eq_done_iff _ _ _ _).mp hresult
    cases hall with
    | cons hfirst hrest =>
      cases hrest
      obtain rfl := Builds.unique ⟨steps, hfirst⟩ ⟨2, hbuild 0⟩
      obtain ⟨rfl, -, used, encoded, place, hused, hencoded, hplace, hput⟩ :=
        exists_of_writeTo_done hwritten
      obtain rfl := Except.ok.inj (hused.symm.trans hfind)
      rw [List.flatten_singleton] at hencoded htree hput
      obtain rfl := Except.ok.inj (hencoded.symm.trans hencode)
      have hcopied : (written steps).tree = context.tree.put place (.file (used.copied bytes)) :=
        htree.trans hput
      refine ⟨rfl, place, hcopied, ?_⟩
      rw [hcopied]
      exact FileTree.findFile_put hplace _

/-- A file with the given bytes in the root directory, and a setting that names an encoding. -/
def ofBytes (bytes : List UInt8) (encoding : String) : Context :=
  { ofTexts [] with
    tree := ⟨[([⟨"f".toList, by decide⟩], .file bytes)], []⟩
    settings := { Settings.default with encoding := .named encoding.toList } }

/-- A file that begins with U+FEFF and ends a line with both a carriage return and a line feed is
copied under UTF-8 as it is. -/
theorem markedFile_copied :
    let written := (ofBytes [0xEF, 0xBB, 0xBF, 0x61, 0x0D, 0x0A] "utf-8").writeOutput 2
      ["f".toList] (some "o".toList) none
    written.run.outcome = .done (.ofText "/o".toList) ∧
      ∃ place, written.tree.findFile (.ofText "/o".toList) =
        .ok (place, [0xEF, 0xBB, 0xBF, 0x61, 0x0D, 0x0A]) := by
  intro written
  let context := ofBytes [0xEF, 0xBB, 0xBF, 0x61, 0x0D, 0x0A] "utf-8"
  have hutf8 : context.settings.encoding.find = .ok .utf8 := by decide +kernel
  have hfile : context.tree.status
      ((none : Option SourcePath).getD context.workingDirectory |>.join (.ofText "f".toList)) =
        .ok (some (.file [0xEF, 0xBB, 0xBF, 0x61, 0x0D, 0x0A])) := by decide +kernel
  have hdecode : Encoding.utf8.decode [0xEF, 0xBB, 0xBF, 0x61, 0x0D, 0x0A] =
      .ok "\uFEFFa\r\n".toList := by decide +kernel
  have hname : "o".toList ≠ [] := by decide
  obtain ⟨hwritten, hcopied⟩ :=
    plain_file_copied context none hname hutf8 hfile hdecode (by decide +kernel)
  have hdone := hwritten [⟨"o".toList, by decide⟩] (by decide +kernel) (by decide +kernel) 0
  obtain ⟨-, place, -, hfound⟩ := hcopied 2 _ hdone
  exact ⟨hdone, place, hfound⟩

/-- Under the encoding with a signature, the two first bytes of a signature are read as no text at
all. The copy has a signature, and the two bytes do not come after it. -/
theorem cutSignature_lost :
    let context := ofBytes [0xEF, 0xBB] "utf-8-sig"
    let written := context.writeOutput 2 ["f".toList] (some "o".toList) none
    context.settings.encoding.find = .ok .utf8Signed ∧
      Encoding.utf8Signed.decode [0xEF, 0xBB] = .ok [] ∧
      context.settings.markers.find? [] 0 = none ∧
      written.run.outcome = .done (.ofText "/o".toList) ∧
      written.tree.findFile (.ofText "/o".toList) =
        .ok ([⟨"o".toList, by decide⟩], Utf8.signature) ∧
      Utf8.signature ≠ Utf8.signature ++ Utf8.unsigned [0xEF, 0xBB] := by
  decide +kernel

/-- What is written without a block in it is built again from the file that it was written to. The
directory is the same for writing and for building; where none is given, it can also be the current
one. -/
theorem written_text_builds (context : Context) {name : Text} {target : SourcePath}
    {directory : Option SourcePath}
    (hdirectory : directory = basedir ∨ basedir = none ∧ directory = some .here)
    (hplain : context.settings.markers.find? text 0 = none)
    (hdone : (context.writeText text (some name) basedir).run.outcome = .done target)
    (steps : Nat) :
    (({ context with tree := (context.writeText text (some name) basedir).tree } : Context).build
      (steps + 2) name directory).outcome = .done text := by
  have hname : name ≠ [] := by
    rintro rfl
    nomatch hdone
  rw [writeText_of_name hname] at hdone ⊢
  obtain ⟨-, hnull, encoding, bytes, place, hfind, hencode, hplace, hput⟩ :=
    exists_of_writeTo_done hdone
  have hfile := FileTree.findFile_put hplace bytes
  rw [hput]
  -- without a directory the file is written through the working directory, but read without it
  have hbare (hnone : basedir = none) :
      (context.tree.put place (.file bytes)).status (.ofText name) = .ok (some (.file bytes)) := by
    subst hnone
    exact FileTree.status_of_findFile_join hnull hfile
  refine build_outcome_of_plain ?_ ?_ (Encoding.decode_of_encode hencode) ?_ steps
  · exact hfind
  · rcases hdirectory with rfl | ⟨hnone, rfl⟩
    · cases directory with
      | none => exact hbare rfl
      | some base => exact FileTree.status_of_findFile hnull hfile
    · change (context.tree.put place (.file bytes)).status (SourcePath.here.join _) = _
      rw [SourcePath.here_join]
      exact hbare hnone
  · exact hplain

/-- Under the encoding with a signature, a text that begins with U+FEFF and has line ends of several
kinds is written and built again, also from the current directory. -/
theorem markedText_builds :
    let context := ofBytes [] "utf-8-sig"
    let text := "\uFEFF\r\n\n\r".toList
    let written := context.writeText text (some "o".toList) none
    written.tree.findFile (.ofText "/o".toList) = .ok ([⟨"o".toList, by decide⟩],
        [0xEF, 0xBB, 0xBF, 0xEF, 0xBB, 0xBF, 0x0D, 0x0A, 0x0A, 0x0D]) ∧
      (({ context with tree := written.tree } : Context).build 2 "o".toList none).outcome =
        .done text ∧
      (({ context with tree := written.tree } : Context).build 2 "o".toList
        (some .here)).outcome = .done text := by
  intro context text written
  have hplain : context.settings.markers.find? text 0 = none := by decide +kernel
  have hdone : written.run.outcome = .done (.ofText "/o".toList) := by decide +kernel
  exact ⟨by decide +kernel, written_text_builds context (.inl rfl) hplain hdone 0,
    written_text_builds context (.inr ⟨rfl, rfl⟩) hplain hdone 0⟩

end Context

end TextMacro
