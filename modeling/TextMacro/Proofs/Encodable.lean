import Mathlib.Data.List.Forall2
import TextMacro.Output
import TextMacro.Proofs.CharacterOrigin

/-!
# What is built can be written

An encoding covers some characters: a text can be encoded exactly when the encoding covers all of
its characters, and what is decoded has only such characters. All files of a build are read with one
encoding, and a build has no character but those of its files. So what is built can be encoded with
the encoding in which it was read, and writing it never fails for want of an encoding of a
character.
-/

namespace TextMacro

open Run Relation

namespace Encoding

variable {encoding : Encoding} {text : Text}

/-- Whether an encoding has bytes for a character. -/
def covers (encoding : Encoding) (c : Char) : Bool :=
  match encoding with
  | utf8 | utf8Signed => true
  | latin1 | ascii => c.toNat < encoding.limit

/-- Characters can be encoded as single bytes exactly when their numbers are below the limit. -/
theorem exists_encodeBytes_iff (encoding : Encoding) (start : Nat) (text : Text) :
    (∃ bytes, encodeBytes encoding start text = .ok bytes) ↔
      ∀ c ∈ text, c.toNat < encoding.limit := by
  induction text generalizing start with
  | nil => simp [encodeBytes]
  | cons c text ih =>
    rw [List.forall_mem_cons, ← ih (start + 1), encodeBytes]
    by_cases hc : c.toNat < encoding.limit
    · rw [if_pos hc]
      cases encodeBytes encoding (start + 1) text <;> simp [Except.map, hc]
    · simp [hc]

/-- A text can be encoded exactly when the encoding covers its characters. -/
theorem exists_encode_iff (encoding : Encoding) (text : Text) :
    (∃ bytes, encoding.encode text = .ok bytes) ↔ ∀ c ∈ text, encoding.covers c = true := by
  cases encoding with
  | utf8 => simp [encode, covers]
  | utf8Signed => simp [encode, covers]
  | latin1 => simpa [encode, covers] using exists_encodeBytes_iff latin1 0 text
  | ascii => simpa [encode, covers] using exists_encodeBytes_iff ascii 0 text

/-- The character that stands for a byte has the number of the byte. -/
theorem toNat_ofNat_byte (byte : UInt8) : (Char.ofNat byte.toNat).toNat = byte.toNat := by
  have hvalid : byte.toNat.isValidChar := Or.inl (Nat.lt_trans byte.toNat_lt (by decide))
  rw [Char.ofNat, dif_pos hvalid]
  rfl

/-- What is decoded from bytes below the limit of ASCII has characters below it. -/
theorem lt_of_decodeAscii {position : Nat} {bytes : List UInt8}
    (h : decodeAscii position bytes = .ok text) : ∀ c ∈ text, c.toNat < ascii.limit := by
  induction bytes generalizing position text with
  | nil =>
    obtain rfl := Except.ok.inj h
    simp
  | cons byte bytes ih =>
    rw [decodeAscii] at h
    split at h
    · next hbyte =>
      cases hrest : decodeAscii (position + 1) bytes with
      | error error => simp [hrest, Except.map] at h
      | ok rest =>
        simp only [hrest, Except.map, Except.ok.injEq] at h
        rw [← h, List.forall_mem_cons, toNat_ofNat_byte]
        exact ⟨hbyte, ih hrest⟩
    · cases h

/-- What is decoded has only characters that the encoding covers. -/
theorem covers_of_decode {bytes : List UInt8} (h : encoding.decode bytes = .ok text) :
    ∀ c ∈ text, encoding.covers c = true := by
  cases encoding with
  | utf8 => simp [covers]
  | utf8Signed => simp [covers]
  | latin1 =>
    obtain rfl := Except.ok.inj h
    intro c hc
    obtain ⟨byte, -, rfl⟩ := List.mem_map.mp hc
    simpa [covers, limit, toNat_ofNat_byte] using byte.toNat_lt
  | ascii => simpa [covers] using lt_of_decodeAscii h

end Encoding

namespace Context

variable {context : Context} {request : Request} {encoding : Encoding} {path text : Text}
  {basedir : Option SourcePath}

/-- Files are decoded with the encoding of the settings. -/
theorem decode_eq_ok_iff (context : Context) (bytes : List UInt8) (text : Text) :
    context.decode bytes = .ok text ↔
      ∃ encoding, context.settings.encoding.find = .ok encoding ∧
        encoding.decode bytes = .ok text := by
  unfold decode
  cases context.settings.encoding.find with
  | error cause => simp
  | ok encoding => cases hdecode : encoding.decode bytes <;> simp [hdecode, Except.mapError]

/-- A file that opens shows that there is an encoding. -/
theorem Opens.exists_encoding {key : SourcePath} (h : context.Opens request key text) :
    ∃ encoding, context.settings.encoding.find = .ok encoding := by
  obtain ⟨bytes, -, hdecode⟩ := h
  obtain ⟨encoding, hfind, -⟩ := (context.decode_eq_ok_iff _ _).mp hdecode
  exact ⟨encoding, hfind⟩

/-- The encoding of the settings covers what an expansion comes to. -/
theorem Supplies.covers (hfind : context.settings.encoding.find = .ok encoding) {c : Char}
    (h : context.Supplies request c) : encoding.covers c = true := by
  obtain ⟨inner, key, source, -, ⟨bytes, -, hdecode⟩, hc⟩ := h
  obtain ⟨other, hother, hsource⟩ := (context.decode_eq_ok_iff _ _).mp hdecode
  obtain rfl := Except.ok.inj (hfind.symm.trans hother)
  exact Encoding.covers_of_decode hsource c hc

/-- A build that gives a text shows that there is an encoding. -/
theorem Builds.exists_encoding (h : context.Builds path basedir text) :
    ∃ encoding, context.settings.encoding.find = .ok encoding := by
  obtain ⟨steps, hdone⟩ := (context.builds_iff _ _ _).mp h
  obtain ⟨key, source, hopens⟩ := opens_of_expand_outcome hdone
  exact hopens.exists_encoding

/-- With the built-in commands, the encoding of the settings covers what is built. -/
theorem Builds.covers (hbuiltin : context.registry = .builtin)
    (hfind : context.settings.encoding.find = .ok encoding)
    (h : context.Builds path basedir text) : ∀ c ∈ text, encoding.covers c = true := by
  obtain ⟨steps, hdone⟩ := (context.builds_iff _ _ _).mp h
  intro c hc
  exact (supplies_of_expand hbuiltin hdone c hc).covers hfind

/-- Files are built one after another when each of them is built, to their texts put together. -/
theorem buildAll_outcome_eq_done_iff (context : Context) (steps : Nat)
    (basedir : Option SourcePath) (paths : List Text) (text : Text) :
    (context.buildAll steps basedir paths).outcome = .done text ↔
      ∃ texts, List.Forall₂
        (fun path built => (context.build steps path basedir).outcome = .done built) paths texts ∧
        text = texts.flatten := by
  induction paths generalizing text with
  | nil => simp [buildAll, value, eq_comm]
  | cons path paths ih =>
    rw [buildAll, andThen_outcome_eq_done_iff]
    simp only [andThen_outcome_eq_done_iff, ih]
    constructor
    · rintro ⟨built, hbuilt, others, ⟨texts, htexts, rfl⟩, hdone⟩
      exact ⟨built :: texts, .cons hbuilt htexts, (Outcome.done.inj hdone).symm⟩
    · rintro ⟨_, hall, rfl⟩
      cases hall with
      | @cons _ built _ texts hbuilt htexts =>
        exact ⟨built, hbuilt, texts.flatten, ⟨texts, htexts, rfl⟩, rfl⟩

/-- With the built-in commands, the encoding of the settings covers what is built from several
files. -/
theorem covers_of_buildAll (hbuiltin : context.registry = .builtin)
    (hfind : context.settings.encoding.find = .ok encoding) {steps : Nat} {paths : List Text}
    (h : (context.buildAll steps basedir paths).outcome = .done text) :
    ∀ c ∈ text, encoding.covers c = true := by
  obtain ⟨texts, hall, rfl⟩ := (context.buildAll_outcome_eq_done_iff _ _ _ _).mp h
  clear h
  induction hall with
  | nil => simp
  | cons hbuilt _ ih =>
    rw [List.flatten_cons, List.forall_mem_append]
    exact ⟨Builds.covers hbuiltin hfind ⟨steps, hbuilt⟩, ih⟩

/-- An expansion that fails outside of any block is of a refused request. -/
theorem refuses_of_expand_failed {steps : Nat} {cause : Cause}
    (h : (context.expand steps request).outcome = .failed (.plain cause)) :
    context.Refuses request cause := by
  cases steps with
  | zero => nomatch h
  | succ steps =>
    rcases refuses_or_scan_failed h with ⟨found, hrefuses, hfound⟩ | ⟨key, source, -, hscan⟩
    · obtain rfl := Failure.plain.inj hfound
      exact hrefuses
    · -- a failure in a block comes with the place of the block
      obtain ⟨cursor, block, inner, -, -, -, hwithin⟩ := exists_block_of_scan_failed hscan
      cases inner <;> nomatch hwithin

/-- A build that fails with a cause alone is refused for it. -/
theorem refuses_of_build_failed {steps : Nat} {cause : Cause}
    (h : (context.build steps path basedir).outcome = .failed (.plain cause)) :
    context.Refuses ⟨path, basedir, []⟩ cause := by
  obtain ⟨inner, hinner, hcause⟩ := (mapFailure_outcome_eq_failed_iff _ _ _).mp h
  cases inner with
  | build failure => nomatch hcause
  | plain found =>
    rw [Failure.ofBuild] at hcause
    split at hcause
    · nomatch hcause
    · obtain rfl := Failure.plain.inj hcause
      exact refuses_of_expand_failed hinner

/-- Several files fail to be built with one of them. -/
theorem exists_build_failed_of_buildAll {steps : Nat} {paths : List Text} {failure : Failure}
    (h : (context.buildAll steps basedir paths).outcome = .failed failure) :
    ∃ path ∈ paths, (context.build steps path basedir).outcome = .failed failure := by
  induction paths with
  | nil => nomatch h
  | cons path paths ih =>
    rw [buildAll, andThen_outcome_eq_failed_iff] at h
    rcases h with hfirst | ⟨built, -, hrest⟩
    · exact ⟨path, List.mem_cons_self, hfirst⟩
    · rcases (andThen_outcome_eq_failed_iff _ _ _).mp hrest with hlater | ⟨others, -, hvalue⟩
      · obtain ⟨other, hother, hfailed⟩ := ih hlater
        exact ⟨other, List.mem_cons_of_mem _ hother, hfailed⟩
      · nomatch hvalue

/-- No request is refused because of a character without an encoding. -/
theorem not_refuses_unencodable (context : Context) (request : Request) (error : EncodeError) :
    ¬ context.Refuses request (.unencodable error) := by
  rintro (henter | ⟨key, bytes, -, hdecode⟩)
  · unfold enter at henter
    split at henter
    · nomatch henter
    · dsimp only at henter
      split at henter <;> nomatch henter
    · nomatch henter
  · rcases decode_eq_error hdecode with ⟨_, _, h⟩ | ⟨_, h⟩ | ⟨_, h⟩ <;> nomatch h

/-- No encoding is missing because of a character. -/
theorem find_ne_unencodable (encoding : EncodingSetting) (error : EncodeError) :
    encoding.find ≠ .error (.unencodable error) := by
  intro h
  cases encoding with
  | misfit form => nomatch h
  | named name =>
    obtain ⟨fault, -, hcause⟩ := mapError_eq_error h
    nomatch hcause

/-- Opening a target comes to looking up the encoding of the settings, unless the target itself
cannot be opened. -/
theorem openTarget_cases (context : Context) (target : SourcePath) :
    (∃ place, (context.openTarget target).2 =
      context.settings.encoding.find.map fun encoding => (place, encoding)) ∨
    (context.openTarget target).2 = .error .nullInPath ∨
    ∃ error, (context.openTarget target).2 = .error (.system error target) := by
  unfold openTarget
  dsimp only
  split
  · exact .inl ⟨[], rfl⟩
  · split
    · exact .inr (.inl rfl)
    · split
      · exact .inr (.inr ⟨_, rfl⟩)
      · exact .inl ⟨_, rfl⟩

/-- A target that is opened is written in the encoding of the settings. -/
theorem find_of_openTarget {target : SourcePath} {location : Location}
    (h : (context.openTarget target).2 = .ok (location, encoding)) :
    context.settings.encoding.find = .ok encoding := by
  rcases context.openTarget_cases target with ⟨place, hopen⟩ | hopen | ⟨error, hopen⟩
  · rw [hopen] at h
    cases hfind : context.settings.encoding.find with
    | error cause => simp [hfind, Except.map] at h
    | ok found => simp_all [Except.map]
  · nomatch h.symm.trans hopen
  · nomatch h.symm.trans hopen

/-- Opening a target does not fail because of a character without an encoding. -/
theorem openTarget_ne_unencodable (context : Context) (target : SourcePath) (error : EncodeError) :
    (context.openTarget target).2 ≠ .error (.unencodable error) := by
  intro h
  rcases context.openTarget_cases target with ⟨place, hopen⟩ | hopen | ⟨error, hopen⟩
  · rw [hopen] at h
    cases hfind : context.settings.encoding.find with
    | error cause =>
      rw [hfind] at h
      have hcause : cause = .unencodable error := Except.error.inj h
      exact find_ne_unencodable _ error (hfind.trans (congrArg Except.error hcause))
    | ok encoding => simp [hfind, Except.map] at h
  · nomatch h.symm.trans hopen
  · nomatch h.symm.trans hopen

/-- Writing a text fails for want of an encoding of a character only where the encoding of the
settings does not cover the text. -/
theorem exists_encode_error_of_writeTo {target : SourcePath} {error : EncodeError}
    (h : (context.writeTo text target).run.outcome = .failed (.plain (.unencodable error))) :
    ∃ encoding, context.settings.encoding.find = .ok encoding ∧
      encoding.encode text = .error error := by
  unfold writeTo at h
  split at h
  · next opened cause hopen =>
    refine absurd ?_ (context.openTarget_ne_unencodable target error)
    rw [hopen]
    exact congrArg Except.error (Failure.plain.inj (Outcome.failed.inj h))
  · next opened location encoding hopen =>
    have hfind := find_of_openTarget (congrArg Prod.snd hopen)
    split at h
    · next found hencode =>
      obtain rfl := Cause.unencodable.inj (Failure.plain.inj (Outcome.failed.inj h))
      exact ⟨encoding, hfind, hencode⟩
    · rw [andThen_outcome_of_done (context.record_outcome _)] at h
      nomatch h

/-- With the built-in commands, writing output never fails for want of an encoding of a
character. -/
theorem writeOutput_ne_unencodable (hbuiltin : context.registry = .builtin) (steps : Nat)
    (paths : List Text) (outfile : Option Text) (basedir : Option SourcePath)
    (error : EncodeError) :
    (context.writeOutput steps paths outfile basedir).run.outcome ≠
      .failed (.plain (.unencodable error)) := by
  intro h
  unfold writeOutput at h
  split at h
  · nomatch h
  · dsimp only at h
    split at h
    · next built hbuilt =>
      obtain ⟨encoding, hfind, hencode⟩ := exists_encode_error_of_writeTo h
      have hcovers := covers_of_buildAll hbuiltin hfind hbuilt
      obtain ⟨bytes, hbytes⟩ := (encoding.exists_encode_iff _).mpr hcovers
      rw [hencode] at hbytes
      cases hbytes
    · next failure hfailure =>
      obtain ⟨path, -, hfailed⟩ := exists_build_failed_of_buildAll hfailure
      rw [Outcome.failed.inj h] at hfailed
      exact context.not_refuses_unencodable _ error (refuses_of_build_failed hfailed)
    · nomatch h

/-- With the built-in commands, every character of a built text stands in a file that is expanded on
the way. So the text can be encoded with the encoding in which the files were read, and writing
output never fails for want of an encoding of a character. -/
theorem build_invents_no_character (context : Context) (hbuiltin : context.registry = .builtin) :
    (∀ path basedir text, context.Builds path basedir text →
      (∀ c ∈ text, ∃ request key source,
        ReflTransGen context.Nests ⟨path, basedir, []⟩ request ∧
        context.Opens request key source ∧ c ∈ source) ∧
      ∃ encoding bytes, context.settings.encoding.find = .ok encoding ∧
        encoding.encode text = .ok bytes) ∧
    ∀ steps paths outfile basedir error,
      (context.writeOutput steps paths outfile basedir).run.outcome ≠
        .failed (.plain (.unencodable error)) := by
  refine ⟨fun path basedir text hbuilds => ⟨?_, ?_⟩, writeOutput_ne_unencodable hbuiltin⟩
  · obtain ⟨steps, hdone⟩ := (context.builds_iff _ _ _).mp hbuilds
    exact supplies_of_expand hbuiltin hdone
  · obtain ⟨encoding, hfind⟩ := hbuilds.exists_encoding
    obtain ⟨bytes, hencode⟩ := (encoding.exists_encode_iff _).mpr (hbuilds.covers hbuiltin hfind)
    exact ⟨encoding, bytes, hfind, hencode⟩

/-- A file that includes another one, both of them read as Latin-1. -/
def latin1Included : Context :=
  { ofTexts [("a", "é/*buildjs @inc b */"), ("b", "x")] with
    settings := { Settings.default with encoding := .named "latin-1".toList } }

/-- The last character of the built text stands in a file, and the text can be encoded as
Latin-1. -/
theorem latin1Included_characters :
    latin1Included.Builds "a".toList none "Ã©x".toList ∧
      (∃ request key source, ReflTransGen latin1Included.Nests ⟨"a".toList, none, []⟩ request ∧
        latin1Included.Opens request key source ∧ 'x' ∈ source) ∧
      ∃ bytes, Encoding.latin1.encode "Ã©x".toList = .ok bytes := by
  have hbuilds : latin1Included.Builds "a".toList none "Ã©x".toList := ⟨4, by decide +kernel⟩
  obtain ⟨hbuilt, -⟩ := build_invents_no_character latin1Included rfl
  obtain ⟨hsource, encoding, bytes, hfind, hencode⟩ := hbuilt _ _ _ hbuilds
  have hlatin1 : latin1Included.settings.encoding.find = .ok .latin1 := by decide +kernel
  obtain rfl := Except.ok.inj (hfind.symm.trans hlatin1)
  exact ⟨hbuilds, hsource 'x' (by decide), bytes, hencode⟩

end Context

end TextMacro
