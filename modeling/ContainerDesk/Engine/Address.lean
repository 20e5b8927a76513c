import ContainerDesk.Text.Blank
import ContainerDesk.Text.Casing

/-!
# Addresses of the engine

An address names its transport in front, and a bare path stands for a local socket.
Capital letters in the name of a transport do not matter and stay as they are.
-/

namespace ContainerDesk

def transportMarks : List Text :=
  [Text.of "unix://", Text.of "tcp://", Text.of "npipe://", Text.of "http://", Text.of "https://",
    Text.of "ssh://"]

def namesTransport (address : Text) : Bool :=
  transportMarks.any fun mark => mark.isPrefixOf address.lower

/-- An address without blanks around it and with the transport of a bare path. -/
def normalizeAddress (raw : Text) : Text :=
  let address := raw.trim
  if namesTransport address then
    address
  else if (Text.of "/").isPrefixOf address then
    Text.of "unix://" ++ address
  else
    address

end ContainerDesk
