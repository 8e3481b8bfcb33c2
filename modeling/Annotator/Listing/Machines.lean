import Annotator.Action.Command
import Annotator.Listing.Basic

/-! Local machines and their images are listed by machinectl, with an empty line near the end. -/

namespace Annotator

namespace Machines

/-- The action that connects to a machine. -/
def connectAction (site : Site) (name : String) : Action :=
  -- Local machines have a connection type of their own.
  .connect "9" name site.server

/-- What a region offers for a machine. -/
def describeMachine (site : Site) (name : String) : Metadata :=
  -- Terminating asks for confirmation.
  { icon := some "container"
    tooltip := some "Double-click to open connection"
    primaryAction := some (connectAction site name)
    drag := .ofList [("text/plain", name)]
    menu :=
      [.ofAction (connectAction site name) "&Connect" "connection-launch"
          "Open a connection to this container",
        .ofAction (.inTerminal site.server "machinectl" ["login", name]) "&Login" "new-terminal"
          "Login to this container in a new terminal",
        .separator,
        .ofAction (.popup site.server "machinectl" ["status", name]) "&Status" "inspect-item"
          "Get container status",
        .separator,
        .ofAction (.background site.server "machinectl" ["poweroff", name]) "&Poweroff"
          "shutdown" "Power off the container",
        .ofAction (.background site.server "machinectl" ["reboot", name]) "&Reboot" "reboot"
          "Reboot the container",
        .ofAction (.background site.server "machinectl" ["terminate", name]) "&Terminate"
          "destroy" "Terminate the container",
        .confirm
          ("This will halt container " ++ name ++ " without shutting down cleanly. Proceed?")] }

/-- The action that starts a machine from an image. -/
def startAction (site : Site) (name : String) : Action :=
  -- The machine runs in the background.
  .background site.server "machinectl" ["start", name]

/-- What a region offers for a machine image. -/
def describeImage (site : Site) (name : String) : Metadata :=
  -- Images can only be started.
  { icon := some "container"
    tooltip := some "Double-click to start container"
    primaryAction := some (startAction site name)
    drag := .ofList [("text/plain", name)]
    menu :=
      [.ofAction (startAction site name) "&Start Container" "resume"
          "Start a container using this image"] }

/-- Machines are named at the start of their rows. -/
def machines : Listing where
  name := "machinectl-list"
  format := { header := "MACHINE", column := .leading, stopOnBlank := true }
  recognizes command := command == "machinectl list"
  describe := describeMachine

/-- Images are named at the start of their rows. -/
def images : Listing where
  name := "machinectl-list-images"
  format := { header := "NAME", column := .leading, stopOnBlank := true }
  recognizes command := command == "machinectl list-images"
  describe := describeImage

end Machines

end Annotator
