/-
# Where the theme is kept

The path of the theme file: under the directory for configuration that the environment names, if it
names one by an absolute path, and else under the usual one in the user's home directory.  The home
directory is that of the user's account unless the environment names one.
-/
import AssetSearch.Files.Path

namespace AssetSearch.Theme

/-- The home directory. -/
def homeDirectory (accountHome home : String) : String :=
  if home.isEmpty then accountHome else home

/-- The directory for configuration. -/
def configDirectory (home : String) (configHome : Option String) : String :=
  match configHome with
  | some d => if d.startsWith "/" then d else Path.join home ".config"
  | none => Path.join home ".config"

/-- The path of the theme file below the directory for configuration. -/
def pathBelow (directory : String) : String :=
  Path.join (Path.join directory "asset-mapping") "ui-theme.json"

/-- The path of the theme file. -/
def defaultPath (accountHome home : String) (configHome : Option String) : String :=
  pathBelow (configDirectory (homeDirectory accountHome home) configHome)

end AssetSearch.Theme
