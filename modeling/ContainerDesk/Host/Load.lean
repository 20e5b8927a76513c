import ContainerDesk.Host.Size
import ContainerDesk.Value.Number

/-!
# The load of the host

What the host reports about its memory and its processor, and the texts of it.
-/

namespace ContainerDesk

structure HostLoad where
  memoryPercent : Value
  memoryUsed : Value
  memoryTotal : Value
  processorPercent : Value

structure LoadTexts where
  memory : Text
  processor : Text
deriving DecidableEq

def Value.sizeText (value : Value) : Except Fault Text :=
  value.toBinary64.map Size.text

namespace HostLoad

def texts (load : HostLoad) : Except Fault LoadTexts := do
  let percent ← load.memoryPercent.onePlace
  let used ← load.memoryUsed.sizeText
  let total ← load.memoryTotal.sizeText
  let processor ← load.processorPercent.onePlace
  .ok {
    memory := percent ++ Text.of "% (" ++ used ++ Text.of "/" ++ total ++ Text.of ")"
    processor := processor ++ Text.of "%"
  }

end HostLoad

end ContainerDesk
