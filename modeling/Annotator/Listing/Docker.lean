import Annotator.Action.Command
import Annotator.Listing.Basic

/-! Containers and images are listed by docker. -/

namespace Annotator

namespace Docker

/-- The entries that tell about docker itself. -/
def infoEntries (server : String) : List MenuEntry :=
  -- They close every menu about containers and images.
  [.ofAction (.popup server "docker" ["info"]) "&Docker Info" "help-about"
      "Show information about the docker installation",
    .ofAction (.popup server "docker" ["version"]) "Docker &Version" ""
      "Show information about the docker version"]

/-- The action that connects to a container. -/
def connectAction (site : Site) (name : String) : Action :=
  -- Containers have a connection type of their own.
  .connect "10" name site.server

/-- What a region offers for a container. -/
def describeContainer (site : Site) (name : String) : Metadata :=
  -- Stopping asks for confirmation.
  { icon := some "container"
    tooltip := some "Double-click to open connection"
    primaryAction := some (connectAction site name)
    drag := .ofList [("text/plain", name)]
    menu :=
      [.ofAction (connectAction site name) "&Connect" "connection-launch"
          "Open a connection to this container",
        .ofAction (.inTerminal site.server "docker" ["exec", "-ti", name, "/bin/bash"])
          "&Open Shell" "new-terminal" "Run bash in this container in a new terminal",
        .separator,
        .ofAction (.popup site.server "docker" ["inspect", name]) "&Inspect" "inspect-item"
          "Get container status",
        .separator,
        .ofAction (.background site.server "docker" ["stop", name]) "&Stop" "shutdown"
          "Stop the container",
        .confirm ("Really stop container " ++ name ++ "?"),
        .ofAction (.background site.server "docker" ["restart", name]) "&Restart" "reboot"
          "Restart the container",
        .ofAction (.background site.server "docker" ["pause", name]) "&Pause" "pause"
          "Pause the container",
        .ofAction (.background site.server "docker" ["unpause", name]) "&Unpause" "resume"
          "Unpause the container",
        .separator] ++ infoEntries site.server }

/-- The action that shows an image. -/
def inspectImageAction (site : Site) (name : String) : Action :=
  -- The result appears in a popup.
  .popup site.server "docker" ["image", "inspect", name]

/-- What a region offers for an image. -/
def describeImage (site : Site) (name : String) : Metadata :=
  -- Images can only be looked at.
  { icon := some "container"
    tooltip := some "Double-click to show image information"
    primaryAction := some (inspectImageAction site name)
    drag := .ofList [("text/plain", name)]
    menu :=
      [.ofAction (inspectImageAction site name) "&Inspect Image" "inspect-item"
          "Show image information",
        .separator] ++ infoEntries site.server }

/-- Containers are named in the last column. -/
def containers : Listing where
  name := "docker-ps"
  format := { header := "CONTAINER", column := .last }
  recognizes command := command == "docker ps"
  describe := describeContainer

/-- Images are named by their number in the third column. -/
def images : Listing where
  name := "docker-images"
  format := { header := "REPOSITORY", column := .index 2 }
  recognizes command := command == "docker images" || command == "docker image ls"
  describe := describeImage

end Docker

end Annotator
