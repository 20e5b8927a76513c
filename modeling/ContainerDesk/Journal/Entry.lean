import ContainerDesk.Number.Numeral

/-!
# Journal entries

What the desk notes while it works: a level, the part of the desk that speaks, and
a message.
-/

namespace ContainerDesk

inductive Level where
  | debug
  | info
  | warning
  | error
  | critical
deriving DecidableEq

namespace Level

def number : Level → Int
  | .debug => 10
  | .info => 20
  | .warning => 30
  | .error => 40
  | .critical => 50

def name : Level → Text
  | .debug => Text.of "DEBUG"
  | .info => Text.of "INFO"
  | .warning => Text.of "WARNING"
  | .error => Text.of "ERROR"
  | .critical => Text.of "CRITICAL"

end Level

inductive Speaker where
  | grouping
  | sections
  | registry
  | observers
  | engineClient
  | provider
  | language
  | gate
  | window
  | start
deriving DecidableEq

namespace Speaker

def name : Speaker → Text
  | .grouping => Text.of "baydesk.grouping"
  | .sections => Text.of "baydesk.settings.groups"
  | .registry => Text.of "baydesk.settings.registry"
  | .observers => Text.of "baydesk.settings.observers"
  | .engineClient => Text.of "baydesk.docker_api.client"
  | .provider => Text.of "baydesk.docker_api.data_provider"
  | .language => Text.of "baydesk.i18n.translator"
  | .gate => Text.of "baydesk.ui.snapshot_gate"
  | .window => Text.of "baydesk.ui.main_window"
  | .start => Text.of "baydesk.main"

end Speaker

structure Entry where
  level : Level
  speaker : Speaker
  message : Text
deriving DecidableEq

/-- What has been noted, the oldest entry first. -/
abbrev Journal := List Entry

end ContainerDesk
