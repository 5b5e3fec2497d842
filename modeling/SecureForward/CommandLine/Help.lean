import SecureForward.CommandLine.Arguments
import SecureForward.Config.Settings

/-!
# The help of a command

The help of a command has a line for each option. The line on the file with the known host keys
names the default from the settings and is filled as a template, so a percent sign in the name of
that file begins a placeholder. `checkHelp` says whether the help can be shown.
-/

namespace SecureForward.CommandLine

open SecureForward.Text.Template (Content)

/-- The template of the line on the file with the known host keys. -/
def knownHostsLine (settings : Settings) : String :=
  s!"Known hosts file (default: {settings.knownHostsFile})"

/-- A text in the description of an option. -/
def textContent : Content := { sort := "str", isNumber := false }

/-- What is left open in the description of an option. -/
def noContent : Content := { sort := "NoneType", isNumber := false }

/-- The description of an option as a whole. -/
def description : Content := { sort := "dict", isNumber := false }

/-- The fields in the description of an option that has a value and may be left out. -/
def descriptionFields : List (String × Content) :=
  [("option_strings", { sort := "list", isNumber := false }), ("dest", textContent),
    ("nargs", noContent), ("const", noContent), ("default", noContent), ("type", noContent),
    ("choices", noContent), ("required", { sort := "bool", isNumber := true }),
    ("help", textContent), ("metavar", noContent),
    ("container", { sort := "_ArgumentGroup", isNumber := false }), ("prog", textContent)]

/-- Checks that the help can be shown. Only the help of a command, and not that of the program, has
a line on the file with the known host keys. -/
def checkHelp (settings : Settings) : Option Command → Except Fault Unit
  | none => .ok ()
  | some _ =>
    match Text.Template.check description descriptionFields (knownHostsLine settings).toList with
    | .ok () => .ok ()
    | .error e => .error (.template e)

end SecureForward.CommandLine
