import TextMacro.Proofs.Encodable

/-!
# What a build reports

A failure in a block is a build failure whatever its cause is, since the scan adds the place of the
block to it. Outside of any block the file that is built can be refused: that it is missing, that it
can not be looked up and that its bytes are no text is reported as a build failure. What is left is
that there is no encoding to read it with. This is noticed when a file that is there is opened, and
it passes through the build as it is.

All this is said of settings that do not name one of the encodings that are not supported: what is
wrong with a file in those, and whether a build reports it, is not known here.
-/

namespace TextMacro

open Run

namespace EncodingSetting

variable {setting : EncodingSetting} {cause : Cause}

/-- Whether files can be read as the setting says, or it is known why they cannot: it does not name
an encoding that is not supported. -/
def isSupported : EncodingSetting → Bool
  | named name => Encoding.ofName name ≠ .error .unsupported
  | misfit _ => true

/-- There is no encoding for a setting, and opening a file ends with this cause. -/
inductive Lacks : EncodingSetting → Cause → Prop
  /-- The setting is no name. -/
  | misfit (form : Form) : Lacks (.misfit form) (.misfit (.asEncoding form))
  /-- The name is that of no encoding. -/
  | named {name : Text} {fault : Encoding.NameFault} :
    Encoding.ofName name = .error fault → fault ≠ .unsupported →
    Lacks (.named name) (.encodingName fault name)

/-- Where there is no encoding, none is found. -/
theorem Lacks.find_eq_error (h : setting.Lacks cause) : setting.find = .error cause := by
  cases h with
  | misfit form => rfl
  | named hfault _ =>
    rw [find, hfault]
    rfl

/-- For a setting that is supported, an encoding is not found exactly when there is none. -/
theorem find_eq_error_iff (h : setting.isSupported = true) :
    setting.find = .error cause ↔ setting.Lacks cause := by
  refine ⟨fun hfind => ?_, Lacks.find_eq_error⟩
  cases setting with
  | misfit form =>
    obtain rfl := Except.error.inj hfind
    exact .misfit form
  | named name =>
    have hname : Encoding.ofName name ≠ .error .unsupported := of_decide_eq_true h
    obtain ⟨fault, hfault, rfl⟩ := mapError_eq_error hfind
    refine .named hfault ?_
    rintro rfl
    exact hname hfault

/-- What is wrong with an encoding is not reported by a build. -/
theorem isReported_of_find (h : setting.find = .error cause) : cause.isReported = false := by
  cases setting with
  | misfit form =>
    obtain rfl := Except.error.inj h
    rfl
  | named name =>
    obtain ⟨fault, -, rfl⟩ := mapError_eq_error h
    rfl

end EncodingSetting

namespace Context

variable {context : Context} {request : Request} {cause : Cause} {path : Text}
  {basedir : Option SourcePath}

/-- What keeps a file from being entered is reported by a build. -/
theorem isReported_of_enter (h : context.enter request = .error cause) :
    cause.isReported = true := by
  unfold enter at h
  split at h
  · obtain rfl := Except.error.inj h
    rfl
  · dsimp only at h
    split at h
    · obtain rfl := Except.error.inj h
      rfl
    · nomatch h
  · obtain rfl := Except.error.inj h
    rfl

/-- What keeps bytes from being decoded is reported by a build, unless there is no encoding. -/
theorem find_of_decode_eq_error {bytes : List UInt8} (h : context.decode bytes = .error cause)
    (hreported : cause.isReported = false) : context.settings.encoding.find = .error cause := by
  unfold decode at h
  cases hfind : context.settings.encoding.find with
  | error found =>
    rw [hfind] at h
    exact congrArg Except.error (Except.error.inj h)
  | ok encoding =>
    rw [hfind] at h
    obtain ⟨error, -, rfl⟩ := mapError_eq_error h
    nomatch hreported

/-- A request is refused for something that no build reports exactly when its file is entered and
there is no encoding to read it with. -/
theorem refuses_unreported_iff :
    context.Refuses request cause ∧ cause.isReported = false ↔
      (∃ key bytes, context.enter request = .ok (key, bytes)) ∧
        context.settings.encoding.find = .error cause := by
  constructor
  · rintro ⟨henter | ⟨key, bytes, henter, hdecode⟩, hreported⟩
    · nomatch hreported.symm.trans (isReported_of_enter henter)
    · exact ⟨⟨key, bytes, henter⟩, find_of_decode_eq_error hdecode hreported⟩
  · rintro ⟨⟨key, bytes, henter⟩, hfind⟩
    refine ⟨Or.inr ⟨key, bytes, henter, ?_⟩, EncodingSetting.isReported_of_find hfind⟩
    rw [decode, hfind]

/-- With no file around it, a request is entered exactly when a file stands at its path. -/
theorem exists_enter_iff (context : Context) (path : Text) (basedir : Option SourcePath) :
    (∃ key bytes, context.enter ⟨path, basedir, []⟩ = .ok (key, bytes)) ↔
      ∃ bytes, context.tree.status (Request.frame ⟨path, basedir, []⟩).resolved =
        .ok (some (.file bytes)) := by
  simp only [enter_eq_ok_iff, List.not_mem_nil, and_false, not_false_eq_true, and_true]
  constructor
  · rintro ⟨key, bytes, hstatus, -⟩
    exact ⟨bytes, hstatus⟩
  · rintro ⟨bytes, hstatus⟩
    exact ⟨_, bytes, hstatus, rfl⟩

/-- A build fails with a cause alone exactly when its file is refused for something that it does not
report. -/
theorem build_failed_plain_iff_refuses (context : Context) (path : Text)
    (basedir : Option SourcePath) (cause : Cause) :
    (∃ steps, (context.build steps path basedir).outcome = .failed (.plain cause)) ↔
      context.Refuses ⟨path, basedir, []⟩ cause ∧ cause.isReported = false := by
  constructor
  · rintro ⟨steps, hfailed⟩
    refine ⟨refuses_of_build_failed hfailed, ?_⟩
    obtain ⟨inner, -, hcause⟩ := (mapFailure_outcome_eq_failed_iff _ _ _).mp hfailed
    cases inner with
    | build failure => cases hcause
    | plain found =>
      rw [Failure.ofBuild] at hcause
      split at hcause
      · cases hcause
      · next hreported =>
        obtain rfl := Failure.plain.inj hcause
        exact Bool.eq_false_of_not_eq_true hreported
  · rintro ⟨hrefuses, hreported⟩
    refine ⟨1, (mapFailure_outcome_eq_failed_iff _ _ _).mpr ?_⟩
    refine ⟨.plain cause, expand_outcome_of_refuses hrefuses 0, ?_⟩
    rw [Failure.ofBuild, hreported]
    rfl

/-- The one thing that a build does not report is that there is no encoding for a file that is
there. With an encoding, every build that comes to an end gives a text or reports a build
failure. -/
theorem build_reports_unless_no_encoding (context : Context)
    (hsupported : context.settings.encoding.isSupported = true) (path : Text)
    (basedir : Option SourcePath) :
    (∀ cause, (∃ steps, (context.build steps path basedir).outcome = .failed (.plain cause)) ↔
      (∃ bytes, context.tree.status (Request.frame ⟨path, basedir, []⟩).resolved =
        .ok (some (.file bytes))) ∧ context.settings.encoding.Lacks cause) ∧
    ∀ encoding steps, context.settings.encoding.find = .ok encoding →
      (context.build steps path basedir).outcome ≠ .exhausted →
      (∃ text, (context.build steps path basedir).outcome = .done text) ∨
        ∃ failure, (context.build steps path basedir).outcome = .failed (.build failure) := by
  have hplain (cause : Cause) :
      (∃ steps, (context.build steps path basedir).outcome = .failed (.plain cause)) ↔
        (∃ bytes, context.tree.status (Request.frame ⟨path, basedir, []⟩).resolved =
          .ok (some (.file bytes))) ∧ context.settings.encoding.Lacks cause := by
    rw [build_failed_plain_iff_refuses, refuses_unreported_iff, exists_enter_iff,
      EncodingSetting.find_eq_error_iff hsupported]
  refine ⟨hplain, ?_⟩
  intro encoding steps hfind hend
  cases houtcome : (context.build steps path basedir).outcome with
  | done text => exact Or.inl ⟨text, rfl⟩
  | exhausted => exact absurd houtcome hend
  | failed failure =>
    cases failure with
    | build failure => exact Or.inr ⟨failure, rfl⟩
    | plain cause =>
      obtain ⟨-, hlacks⟩ := (hplain cause).mp ⟨steps, houtcome⟩
      nomatch hfind.symm.trans hlacks.find_eq_error

/-- A file without a block, and a setting that names no encoding. -/
def unknownEncoding : Context :=
  { ofTexts [("a", "x")] with
    settings := { Settings.default with encoding := .named "klingon".toList } }

/-- That there is no encoding of the name is what the build fails with, and it is no build
failure. -/
theorem unknownEncoding_escapes :
    unknownEncoding.registry = .builtin ∧
      (unknownEncoding.build 1 "a".toList none).outcome =
        .failed (.plain (.encodingName .unknown "klingon".toList)) :=
  ⟨rfl, by decide +kernel⟩

/-- The name is known to be that of nothing. The build of a file that is missing is reported even
there, and with the usual encoding the build of the file is a text. -/
theorem unknownEncoding_missing_reported :
    unknownEncoding.settings.encoding.isSupported = true ∧
    (∀ steps cause, (unknownEncoding.build steps "b".toList none).outcome ≠
      .failed (.plain cause)) ∧
    ((∃ text, ((ofTexts [("a", "x")]).build 2 "a".toList none).outcome = .done text) ∨
      ∃ failure, ((ofTexts [("a", "x")]).build 2 "a".toList none).outcome =
        .failed (.build failure)) := by
  have hunknown : unknownEncoding.settings.encoding.isSupported = true := by decide +kernel
  have husual : (ofTexts [("a", "x")]).settings.encoding.isSupported = true := by decide +kernel
  have hutf8 : (ofTexts [("a", "x")]).settings.encoding.find = .ok .utf8 := by decide +kernel
  refine ⟨hunknown, ?_, (build_reports_unless_no_encoding (ofTexts [("a", "x")]) husual "a".toList
    none).2 .utf8 2 hutf8 (by decide +kernel)⟩
  intro steps cause hfailed
  obtain ⟨⟨bytes, hfile⟩, -⟩ :=
    ((build_reports_unless_no_encoding unknownEncoding hunknown "b".toList none).1 cause).mp
      ⟨steps, hfailed⟩
  have hmissing : unknownEncoding.tree.status (Request.frame ⟨"b".toList, none, []⟩).resolved =
      .ok none := by
    decide +kernel
  nomatch hmissing.symm.trans hfile

end Context

end TextMacro
