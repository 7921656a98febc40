import Mathlib
import TextMacro.Proofs.UniqueSplit

/-!
# Registrations

Commands are offered to a registry in one call after another, and some of the calls are refused.
What becomes of a name depends on the first call alone that offers it with an arity that is not
negative: this call is accepted, and all later ones for the name are refused. So the registry has
one command for each name that was offered, and its names can be listed in strictly increasing
order.

A new command bears on the parsing of a body only if its name stands where a command is called, and
there the body could not be parsed before. As an argument, or in a string, the name makes no
difference.
-/

namespace TextMacro

namespace Text

/-- The order of code points is the lexicographic one. -/
theorem isAtMost_iff_le (first second : Text) : first.isAtMost second = true ↔ first ≤ second := by
  induction first generalizing second with
  | nil =>
    rw [le_iff_lt_or_eq]
    cases second <;> simp [isAtMost]
  | cons c first ih =>
    cases second with
    | nil => simp [isAtMost]
    | cons d second =>
      have hchar : c.toNat < d.toNat ↔ c < d := by
        rw [Char.lt_def, UInt32.lt_iff_toNat_lt]
        rfl
      rw [isAtMost, Bool.or_eq_true, Bool.and_eq_true, decide_eq_true_iff, beq_iff_eq, ih, hchar,
        le_iff_lt_or_eq, le_iff_lt_or_eq, List.cons_lt_cons_iff, List.cons.injEq]
      tauto

end Text

/-- Whether a call offers a command of the given name that can be accepted. -/
def Command.offers (name : Text) (command : Command) : Bool :=
  command.name == name && decide (0 ≤ command.arity)

/-- A call offers the name of its command if the arity is not negative. -/
theorem Command.offers_name (command : Command) :
    command.offers command.name = true ↔ 0 ≤ command.arity := by
  simp [offers]

namespace Registry

variable {registry extended : Registry} {command : Command} {name : Text}

/-- The registry after a call, which leaves it as it is if the command is refused. -/
def attempt (registry : Registry) (command : Command) : Registry :=
  match registry.register command with
  | .ok extended => extended
  | .error _ => registry

/-- The registry after one call after another. -/
def attemptAll (registry : Registry) (calls : List Command) : Registry :=
  calls.foldl attempt registry

/-- A command is accepted if its name is new and its arity is not negative, and is put last. -/
theorem register_eq_ok_iff :
    registry.register command = .ok extended ↔ registry.find? command.name = none ∧
      0 ≤ command.arity ∧ extended = ⟨registry.commands ++ [command]⟩ := by
  unfold register
  cases registry.find? command.name with
  | some found => simp
  | none =>
    by_cases harity : command.arity < 0
    · simp [harity]
    · simp [harity, Int.not_lt.mp harity, eq_comm]

/-- A call that is refused offers nothing that the registry does not have. -/
theorem find?_of_register_eq_error {error : RegistrationError}
    (h : registry.register command = .error error) (hoffers : command.offers name = true) :
    (registry.find? name).isSome = true := by
  rw [Command.offers, Bool.and_eq_true, beq_iff_eq, decide_eq_true_iff] at hoffers
  obtain ⟨rfl, harity⟩ := hoffers
  rw [Option.isSome_iff_ne_none]
  intro hnew
  rw [register_eq_ok_iff.mpr ⟨hnew, harity, rfl⟩] at h
  cases h

/-- After a call, a name has the command that it had, or else the one that the call offers. -/
theorem find?_attempt (registry : Registry) (command : Command) (name : Text) :
    (registry.attempt command).find? name =
      (registry.find? name).or ([command].find? (Command.offers name)) := by
  rw [attempt]
  cases hregister : registry.register command with
  | ok extended =>
    obtain ⟨-, harity, rfl⟩ := register_eq_ok_iff.mp hregister
    simp [find?, List.find?_append, List.find?_singleton, Command.offers, harity]
  | error error =>
    cases hoffers : command.offers name with
    | false => simp [hoffers]
    | true =>
      obtain ⟨found, hfound⟩ :=
        Option.isSome_iff_exists.mp (find?_of_register_eq_error hregister hoffers)
      simp [hfound]

/-- After calls, a name has the command that it had, or else the first one that was offered. -/
theorem find?_attemptAll (registry : Registry) (calls : List Command) (name : Text) :
    (registry.attemptAll calls).find? name =
      (registry.find? name).or (calls.find? (Command.offers name)) := by
  induction calls generalizing registry with
  | nil => simp [attemptAll]
  | cons command calls ih =>
    rw [← List.singleton_append, List.find?_append, ← Option.or_assoc, ← find?_attempt]
    exact ih (registry.attempt command)

/-- After calls on a new registry, a name has the first command that was offered, where the built-in
ones were offered before all others. -/
theorem find?_builtin_attemptAll (calls : List Command) (name : Text) :
    (builtin.attemptAll calls).find? name =
      (builtin.commands ++ calls).find? (Command.offers name) := by
  have harity : ∀ command ∈ builtin.commands, 0 ≤ command.arity := by decide
  have hbuiltin : builtin.find? name = builtin.commands.find? (Command.offers name) := by
    apply List.find?_congr
    intro command hcommand
    simp [Command.offers, harity command hcommand]
  rw [find?_attemptAll, hbuiltin, List.find?_append]

/-- A call adds no second command of a name. -/
theorem nodup_attempt (h : (registry.commands.map Command.name).Nodup) (command : Command) :
    ((registry.attempt command).commands.map Command.name).Nodup := by
  rw [attempt]
  cases hregister : registry.register command with
  | error error => exact h
  | ok extended =>
    obtain ⟨hnew, -, rfl⟩ := register_eq_ok_iff.mp hregister
    rw [find?, List.find?_eq_none] at hnew
    rw [List.map_append, List.map_singleton, ← List.concat_eq_append]
    apply List.Nodup.concat _ h
    intro hold
    obtain ⟨other, hother, hname⟩ := List.mem_map.mp hold
    exact hnew other hother (by simp [hname])

/-- Calls add no second command of a name. -/
theorem nodup_attemptAll (h : (registry.commands.map Command.name).Nodup) (calls : List Command) :
    ((registry.attemptAll calls).commands.map Command.name).Nodup := by
  induction calls generalizing registry with
  | nil => exact h
  | cons command calls ih => exact ih (nodup_attempt h command)

/-- The names of a registry with one command for each name are listed in strictly increasing
order. -/
theorem names_pairwise_lt (h : (registry.commands.map Command.name).Nodup) :
    registry.names.Pairwise (· < ·) := by
  have hsorted : registry.names.Pairwise fun first second => first.isAtMost second = true := by
    apply List.pairwise_mergeSort
    · intro first second third
      rw [Text.isAtMost_iff_le, Text.isAtMost_iff_le, Text.isAtMost_iff_le]
      exact le_trans
    · intro first second
      rw [Bool.or_eq_true, Text.isAtMost_iff_le, Text.isAtMost_iff_le]
      exact le_total first second
  have hdistinct : registry.names.Nodup := (List.mergeSort_perm _ _).nodup_iff.mpr h
  refine hsorted.imp₂ (fun first second hle hne => ?_) hdistinct
  exact lt_of_le_of_ne ((Text.isAtMost_iff_le first second).mp hle) hne

/-- The names that are listed are those that have a command. -/
theorem mem_names_iff : name ∈ registry.names ↔ (registry.find? name).isSome = true := by
  rw [names, List.mem_mergeSort, List.mem_map, find?, List.find?_isSome]
  simp only [beq_iff_eq]

/-- A new command is found under its name, and all others are found as before. -/
theorem find?_of_register (h : registry.register command = .ok extended)
    (hname : name ≠ command.name) : extended.find? name = registry.find? name := by
  obtain ⟨-, -, rfl⟩ := register_eq_ok_iff.mp h
  simp [find?, List.find?_append, Ne.symm hname]

end Registry

/-- Tokens are parsed alike after a new command, unless its name was an error before. -/
theorem parseTokens_of_register {registry extended : Registry} {command : Command}
    (h : registry.register command = .ok extended) (tokens : List Token)
    (hvalid : (parseTokens registry tokens).error ≠ some (.invalidCommand command.name)) :
    parseTokens extended tokens = parseTokens registry tokens := by
  have hsame {name : Text} {found : Command} (hfind : registry.find? name = some found) :
      extended.find? name = some found := by
    rw [← hfind]
    apply Registry.find?_of_register h
    rintro rfl
    rw [(Registry.register_eq_ok_iff.mp h).1] at hfind
    cases hfind
  fun_induction parseTokens registry tokens with
  | case1 => rw [parseTokens]
  | case2 token tokens hname hfind =>
    have hother : token.commandName ≠ command.name := by
      intro hcalled
      exact hvalid (congrArg (some ∘ Cause.invalidCommand) hcalled)
    rw [← Registry.find?_of_register h hother] at hfind
    exact parseTokens_unknown hname hfind
  | case3 token tokens hname found hfind bracket hread =>
    rw [parseTokens_registered hname (hsame hfind), hread]
  | case4 token tokens hname found hfind args rest hread harity =>
    rw [parseTokens_registered hname (hsame hfind), hread]
    exact if_pos harity
  | case5 token tokens hname found hfind args rest hread harity h₁ h₂ h₃ ih =>
    rw [parseTokens_registered hname (hsame hfind), hread, ← ih hvalid]
    exact if_neg harity
  | case6 token tokens hname hlength ih =>
    rw [parseTokens_ignored (by simpa using hname), ih hvalid]

namespace Registry

/-- Whatever calls are made on a new registry, a call that is refused leaves it as it is, and a call
is accepted exactly if it is the first one that offers its name. Each name has the command that was
offered first, so the built-in commands stay what they are, and the names that were offered are
listed in strictly increasing order. A body that did not lack the name of a new command is parsed as
it was before. -/
theorem registration_is_conservative (calls : List Command) :
    let registry := builtin.attemptAll calls
    let offered := builtin.commands ++ calls
    (∀ command error, registry.register command = .error error →
      registry.attempt command = registry) ∧
    (∀ command, (∃ extended, registry.register command = .ok extended) ↔
      command.offers command.name = true ∧
        ∀ earlier ∈ offered, earlier.offers command.name = false) ∧
    (∀ name, registry.find? name = offered.find? (Command.offers name)) ∧
    registry.find? Command.definition.name = some .definition ∧
    registry.find? Command.inclusion.name = some .inclusion ∧
    registry.names.Pairwise (· < ·) ∧
    (∀ name, name ∈ registry.names ↔ ∃ command ∈ offered, command.offers name = true) ∧
    ∀ command extended, registry.register command = .ok extended → ∀ body,
      (parse registry body).result ≠ .error (.invalidCommand command.name) →
        parse extended body = parse registry body := by
  intro registry offered
  have hfind (name : Text) : registry.find? name = offered.find? (Command.offers name) :=
    find?_builtin_attemptAll calls name
  refine ⟨?_, ?_, hfind, ?_, ?_, ?_, ?_, ?_⟩
  · intro command error hrefused
    rw [attempt, hrefused]
  · intro command
    simp only [register_eq_ok_iff, exists_and_left, exists_eq, and_true, hfind,
      List.find?_eq_none, Bool.not_eq_true]
    rw [and_comm, Command.offers_name]
  · rw [hfind]
    rfl
  · rw [hfind]
    rfl
  · exact names_pairwise_lt (nodup_attemptAll (by decide) calls)
  · intro name
    rw [mem_names_iff, hfind, List.find?_isSome]
  · intro command extended hregister body hvalid
    rw [Ne, Parse.result_eq_error_iff] at hvalid
    exact parseTokens_of_register hregister (tokenize body) hvalid

/-- A command of a name and an arity that leaves the text as it is. -/
def idle (name : String) (arity : Int) : Command :=
  ⟨name.toList, arity, fun call => .done call.text, [], []⟩

/-- Calls of which only the second one is accepted. -/
def mixedCalls : List Command :=
  [idle "b" (-1), idle "b" 1, idle "b" 2, idle "def" 0]

/-- The second call is the one that counts. A further command is accepted, and a body that has its
name as an argument is parsed as before. -/
theorem mixedCalls_registered :
    let registry := builtin.attemptAll mixedCalls
    registry.find? "b".toList = some (idle "b" 1) ∧ registry.attempt (idle "b" 0) = registry ∧
      registry.names.Pairwise (· < ·) ∧ "b".toList ∈ registry.names ∧
      "a".toList ∉ registry.names ∧
      ∃ extended, registry.register (idle "a" 0) = .ok extended ∧
        parse extended "a @b @a".toList = parse registry "a @b @a".toList := by
  intro registry
  obtain ⟨hrefused, haccepted, hfind, -, -, hsorted, hnames, hparse⟩ :=
    registration_is_conservative mixedCalls
  obtain ⟨extended, hextended⟩ := (haccepted (idle "a" 0)).mpr (by decide)
  have hcommands : registry = ⟨[.definition, .inclusion, idle "b" 1]⟩ := rfl
  have hparsed : (parse registry "a @b @a".toList).result =
      .ok [⟨idle "b" 1, ["@a".toList]⟩] := by
    rw [hcommands]
    cbv
  refine ⟨hfind _, hrefused (idle "b" 0) (.duplicate "b".toList) rfl, hsorted,
    (hnames _).mpr (by decide), fun hmem => absurd ((hnames _).mp hmem) (by decide), extended,
    hextended, hparse (idle "a" 0) extended hextended _ ?_⟩
  intro hunknown
  cases hparsed.symm.trans hunknown

end Registry

end TextMacro
