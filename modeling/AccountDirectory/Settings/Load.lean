import AccountDirectory.Settings.Environment
import AccountDirectory.Settings.File

/-!
# Loading settings

The settings of a tenant come from a file, or none, with the environment over it. What neither of
them gives has its default.
-/

namespace AccountDirectory.Settings

/-- Loads the settings from the content of a file and the variables of the environment. -/
def load (file : Option String) (environment : List (String × String)) : Outcome Settings :=
  match file.elim (some (.table [])) Setting.ofFile? with
  | none => fault .unreadable
  | some lower => ofSetting ((Setting.ofEnvironment environment).layeredOver lower)

end AccountDirectory.Settings
