import TextMacro.Settings.Basic

/-!
# Assigned settings

Builds that choose no settings of their own share some, to which values can be assigned. Nothing
checks the form of a value when it is assigned: one that does not fit is noticed by what uses it, an
encoding when a file is opened, and a marker before anything is built. Any value tells whether
cycles are detected.
-/

namespace TextMacro

/-- Settings to which values were assigned, and what keeps a build with them from starting. -/
structure AssignedSettings where
  settings : Settings
  obstacle : Option Misfit := none
deriving DecidableEq, Repr

namespace AssignedSettings

/-- Whether a value can be assigned to something of this name; what has a name that starts with an
underscore is no setting, but does no harm. -/
def isAssignable (name : Text) : Bool :=
  Settings.names.contains name || name.head? == some '_'

/-- A marker, which has to be a text. -/
def marker (assigned : List (Text × Value)) (name : Text) (usual : Text) : Except Misfit Text :=
  match assigned.lookup name with
  | none => .ok usual
  | some (.text value) => .ok value
  | some value => .error (.asLiteral value.form)

/-- Both markers. -/
def markers (assigned : List (Text × Value)) (usual : Markers) : Except Misfit Markers := do
  let opening ← marker assigned "open_marker".toList usual.opening
  let closing ← marker assigned "close_marker".toList usual.closing
  return ⟨opening, closing⟩

/-- Settings of the given markers, with the other values that were assigned. -/
def assignOthers (assigned : List (Text × Value)) (base : Settings) (markers : Markers) :
    Settings where
  markers := markers
  encoding := ((assigned.lookup "encoding".toList).map EncodingSetting.ofValue).getD base.encoding
  detectCycles :=
    ((assigned.lookup "detect_include_cycles".toList).map Value.holds).getD base.detectCycles

/-- Assign values to settings by their names. -/
def assign (base : Settings) (assigned : List (Text × Value)) : Except Cause AssignedSettings :=
  match assigned.find? fun entry => !isAssignable entry.1 with
  | some (name, _) => .error (.unknownSetting name)
  | none =>
    match markers assigned base.markers with
    | .ok markers => .ok ⟨assignOthers assigned base markers, none⟩
    | .error misfit => .ok ⟨assignOthers assigned base base.markers, some misfit⟩

/-- Settings to which nothing is assigned stay as they are. -/
@[simp]
theorem assign_nil (base : Settings) : assign base [] = .ok ⟨base, none⟩ := rfl

end AssignedSettings

end TextMacro
