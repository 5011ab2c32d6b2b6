import ProxyKeeper.Config.Environment

/-!
Where the configuration file stands: in the directory of the program below the user's directory for
configurations.
-/

namespace ProxyKeeper.Config

/-- A path below another; there is one slash between them at least. -/
def joinPath (base name : String) : String :=
  if base.endsWith "/" then base ++ name else base ++ "/" ++ name

/-- The home directory where the environment names none: that of the superuser. -/
def fallbackHome : String := "/root"

def homeDirectory (env : Environment) : String :=
  ((env.get? "HOME").filter (!·.isEmpty)).getD fallbackHome

/-- The user's directory for configurations: the one that is named by an absolute path, else the
usual one in the home directory. -/
def baseDirectory (env : Environment) : String :=
  match (env.get? "XDG_CONFIG_HOME").filter (·.startsWith "/") with
  | some path => path
  | none => joinPath (homeDirectory env) ".config"

def defaultPath (env : Environment) : String :=
  joinPath (joinPath (baseDirectory env) "proxyhost") "config.toml"

end ProxyKeeper.Config
