import RouteLens.Shell.Script

/-!
# Settings

The settings of a shell that are switched on and off by letter or by name.
-/

namespace RouteLens.Shell

/-- A setting of a shell. -/
inductive Setting
  | errexit
  | noglob
  | ignoreeof
  | interactive
  | monitor
  | noexec
  | stdin
  | xtrace
  | verbose
  | vi
  | emacs
  | noclobber
  | allexport
  | notify
  | nounset
  | privileged
  | nolog
  | debug
  deriving DecidableEq, Repr

namespace Setting

/-- The settings in the order they are listed in, with their names and letters. -/
def all : List (Setting × String × Option Char) :=
  [(errexit, "errexit", some 'e'), (noglob, "noglob", some 'f'),
    (ignoreeof, "ignoreeof", some 'I'), (interactive, "interactive", some 'i'),
    (monitor, "monitor", some 'm'), (noexec, "noexec", some 'n'), (stdin, "stdin", some 's'),
    (xtrace, "xtrace", some 'x'), (verbose, "verbose", some 'v'), (vi, "vi", some 'V'),
    (emacs, "emacs", some 'E'), (noclobber, "noclobber", some 'C'),
    (allexport, "allexport", some 'a'), (notify, "notify", some 'b'),
    (nounset, "nounset", some 'u'), (privileged, "privileged", some 'p'),
    (nolog, "nolog", none), (debug, "debug", none)]

/-- The setting with a letter. -/
def ofLetter? (letter : Char) : Option Setting :=
  (all.find? fun (_, _, c) => c == some letter).map (·.1)

/-- The setting with a name. -/
def ofName? (name : Chars) : Option Setting :=
  (all.find? fun (_, text, _) => text.toList == name).map (·.1)

/-- The letters of settings, the last ones first. -/
def letters (settings : List Setting) : Chars :=
  all.reverse.filterMap fun (setting, _, letter) =>
    if settings.contains setting then letter else none

/-- The settings with one switched on or off. -/
def switch (setting : Setting) (on : Bool) (settings : List Setting) : List Setting :=
  let others := settings.filter (· != setting)
  if on then setting :: others else others

/-- A list of all settings and whether they are on. -/
def listing (settings : List Setting) : Chars :=
  "Current option settings\n".toList ++ all.flatMap fun (setting, name, _) =>
    name.toList ++ List.replicate (16 - name.length) ' ' ++
      (if settings.contains setting then "on\n" else "off\n").toList

/-- The commands that bring all settings to what they are. -/
def commands (settings : List Setting) : Chars :=
  all.flatMap fun (setting, name, _) =>
    "set ".toList ++ (if settings.contains setting then "-o " else "+o ").toList ++
      name.toList ++ ['\n']

end Setting

end RouteLens.Shell
