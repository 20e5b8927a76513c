import ContainerDesk.Settings.Field

/-!
# The schema of the settings

The sections of the settings, their fields in order, and the version of the file
format.
-/

namespace ContainerDesk

abbrev SectionSchema := List (Text × Field)

namespace Schema

def version : Text :=
  Text.of "1.0.0"

def versionKey : Text :=
  Text.of "version"

def rangeField (default low high : Int) : Field :=
  ⟨.int default, [.inRange low high]⟩

def flagField (default : Bool) : Field :=
  ⟨.bool default, [.ofKind .bool]⟩

def choiceField (default : Text) (allowed : List Text) : Field :=
  ⟨.text default, [.oneOf (allowed.map .text)]⟩

def sections : List (Text × SectionSchema) :=
  [
    (Text.of "app", [
      (Text.of "language", choiceField (Text.of "en") [Text.of "en", Text.of "ru"]),
      (Text.of "window_width", rangeField 1280 640 10000),
      (Text.of "window_height", rangeField 800 480 10000),
      (Text.of "window_x", rangeField 0 (-10000) 10000),
      (Text.of "window_y", rangeField 0 (-10000) 10000),
      (Text.of "window_maximized", flagField false)]),
    (Text.of "logging", [
      (Text.of "enabled", flagField true),
      (Text.of "level", choiceField (Text.of "INFO")
        [Text.of "DEBUG", Text.of "INFO", Text.of "WARNING", Text.of "ERROR"]),
      (Text.of "max_file_size_mb", rangeField 10 1 1000),
      (Text.of "max_archived_files", rangeField 5 1 50)]),
    (Text.of "docker", [
      (Text.of "socket", ⟨.text [], [.address]⟩),
      (Text.of "connection_timeout_sec", rangeField 5 1 120),
      (Text.of "connection_timeout_enabled", flagField true)]),
    (Text.of "refresh", [
      (Text.of "auto_refresh_enabled", flagField true),
      (Text.of "refresh_rate_ms", rangeField 3000 1000 60000),
      (Text.of "system_metrics_enabled", flagField true),
      (Text.of "system_metrics_refresh_ms", rangeField 3000 500 60000)]),
    (Text.of "ui_state", [
      (Text.of "only_running", flagField false),
      (Text.of "column_widths", ⟨.list [], [.listOf .int]⟩)])
  ]

def field? (sectionName key : Text) : Option Field :=
  (sections.lookup sectionName).bind (·.lookup key)

end Schema

end ContainerDesk
