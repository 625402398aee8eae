/-
# Loading and saving settings

The backend keeps the settings; the theme among them is always the one in use here.

Key definitions: `Settings.load`, `Settings.save` and `Settings.defaults`.
-/
import AssetSearch.Backend.Site
import AssetSearch.Text.Described
import AssetSearch.Theme.Store

namespace AssetSearch.Settings

variable {σ : Type}

/-- The settings with another theme. -/
def withTheme (settings : Settings) (theme : Theme) : Settings :=
  { settings with theme := theme }

/-- The settings that the backend keeps. -/
def load (b : Backend σ) (s : Site σ) : Outcome Settings × Site σ :=
  s.invoke b .settings

/-- Saves settings with the theme of the store; also what was saved. -/
def save (b : Backend σ) (store : ThemeStore) (settings : Settings) (s : Site σ) :
    Outcome Settings × Site σ :=
  if settings.pageSize = 0 then
    (.error (.invalidField "page_size" "page size must be positive"), s)
  else
    let stamped := settings.withTheme store.theme
    match s.invoke b (.saveSettings stamped) with
    | (.ok _, s) => (.ok stamped, s)
    | (.error e, s) => (.error e, s)

/-- The settings of a fresh installation with the theme of the store. -/
def defaults (store : ThemeStore) : Settings :=
  initial.withTheme store.theme

/-- The settings service in diagnostics. -/
def describeService (store : ThemeStore) : String :=
  Text.described "SettingsService" [("theme", store.theme.label)] false

end AssetSearch.Settings
