import TextMacro.Settings.SourceError

/-!
# Home directories

A path whose first component starts with a tilde starts in a home directory: in that of the user
whose name follows the tilde, or else in the one that the environment names.
-/

namespace TextMacro.Home

/-- The users of every system, with their home directories. -/
def users : List (String × String) :=
  [("root", "/root"), ("daemon", "/usr/sbin"), ("bin", "/bin"), ("sys", "/dev"), ("sync", "/bin"),
    ("games", "/usr/games"), ("man", "/var/cache/man"), ("lp", "/var/spool/lpd"),
    ("mail", "/var/mail"), ("news", "/var/spool/news"), ("uucp", "/var/spool/uucp"),
    ("proxy", "/bin"), ("www-data", "/var/www"), ("backup", "/var/backups"), ("list", "/var/list"),
    ("irc", "/run/ircd"), ("_apt", "/nonexistent"), ("nobody", "/nonexistent")]

/-- The home directory of a user. -/
def ofUser? (name : Text) : Option Text :=
  (users.lookup (String.ofList name)).map String.toList

/-- The home directory that the environment names, or that of the first user. -/
def ofEnvironment (environment : List (Text × Text)) : Text :=
  (environment.lookup "HOME".toList).getD "/root".toList

/-- The home directory of a user; without a name it is the one of the environment. -/
def find (environment : List (Text × Text)) (user : Text) : Except SourceError Text :=
  if user = [] then .ok (ofEnvironment environment)
  else if user.contains '\x00' then .error (.failed .nullInPath)
  else match ofUser? user with
    | some home => .ok home
    | none => .error .noHome

/-- The path of a home directory, which cannot start with a tilde again. -/
def toPath (home : Text) : Except SourceError SourcePath :=
  match (home.reverse.dropWhile (· == '/')).reverse with
  | [] => .ok ⟨.slash, []⟩
  | '~' :: _ => .error .noHome
  | directory => .ok (.ofText directory)

/-- A path with the tilde at its start replaced by a home directory. -/
def expand (environment : List (Text × Text)) (path : SourcePath) : Except SourceError SourcePath :=
  match path.root, path.components with
  | .none, first :: others =>
    match first.text with
    | '~' :: user => do
      let home ← find environment user
      return (← toPath home).join ⟨.none, others⟩
    | _ => .ok path
  | _, _ => .ok path

/-- The path that a value names, from a home directory if it says so. -/
def pathOf (environment : List (Text × Text)) (value : Value) : Except SourceError SourcePath := do
  expand environment (← value.path.mapError .ofMisfit)

end TextMacro.Home
