import Annotator.Action.Command
import Annotator.Listing.Basic

/-! Pods and deployments of a cluster are listed by kubectl. -/

namespace Annotator

namespace Kubernetes

/-- The entries that delete an object and tell about the cluster. -/
def closingEntries (server kind name : String) : List MenuEntry :=
  -- Deleting asks for confirmation.
  [.ofAction (.background server "kubectl" ["delete", kind, name]) "&Stop" "shutdown"
      ("Delete the " ++ kind),
    .confirm ("Really delete " ++ kind ++ " " ++ name ++ "?"),
    .separator,
    .ofAction (.popup server "kubectl" ["config", "view"]) "&Kubectl Config View" "help-about"
      "Show kubectl configuration",
    .ofAction (.popup server "kubectl" ["version"]) "Kubectl &Version" "" "Show kubectl version"]

/-- The action that connects to a pod. -/
def connectAction (site : Site) (name : String) : Action :=
  -- Pods have a connection type of their own.
  .connect "11" name site.server

/-- What a region offers for a pod. -/
def describePod (site : Site) (name : String) : Metadata :=
  -- Connections and shells use the default container.
  { icon := some "container"
    tooltip := some "Double-click to open connection"
    primaryAction := some (connectAction site name)
    drag := .ofList [("text/plain", name)]
    menu :=
      [.ofAction (connectAction site name) "&Connect" "connection-launch"
          "Open a connection to the default container",
        .ofAction
          (.inTerminal site.server "kubectl" ["exec", name, "-ti", "--", "/bin/bash"])
          "&Open Shell" "new-terminal" "Run bash in the default container in a new terminal",
        .separator,
        .ofAction (.popup site.server "kubectl" ["describe", "pod", name]) "&Describe"
          "inspect-item" "Show pod information",
        .separator] ++ closingEntries site.server "pod" name }

/-- The action that shows a deployment. -/
def describeDeploymentAction (site : Site) (name : String) : Action :=
  -- The result appears in a popup.
  .popup site.server "kubectl" ["describe", "deployment", name]

/-- What a region offers for a deployment. -/
def describeDeployment (site : Site) (name : String) : Metadata :=
  -- Deployments can be looked at and deleted.
  { icon := some "container"
    tooltip := some "Double-click to show deployment information"
    primaryAction := some (describeDeploymentAction site name)
    drag := .ofList [("text/plain", name)]
    menu :=
      [.ofAction (describeDeploymentAction site name) "&Describe" "help-about"
          "Show deployment information",
        .separator] ++ closingEntries site.server "deployment" name }

/-- Pods are named in the first column. -/
def pods : Listing where
  name := "kubectl-get-pods"
  format := { header := "NAME", column := .index 0 }
  recognizes command := Text.startsWith "kubectl get pod".toList command.toList
  describe := describePod

/-- Deployments are named in the first column. -/
def deployments : Listing where
  name := "kubectl-get-deployments"
  format := { header := "NAME", column := .index 0 }
  recognizes command := Text.startsWith "kubectl get deployment".toList command.toList
  describe := describeDeployment

end Kubernetes

end Annotator
