import Annotator.Listing.Docker
import Annotator.Listing.Kubernetes
import Annotator.Listing.Machines
import Annotator.Proofs.Action.Reserved
import Annotator.Proofs.Hook.Faultless

/-! Listing matchers are faultless, since names with reserved characters are passed over. -/

namespace Annotator

namespace Listing

/-- A listing is described safely when clean names and servers give valid metadata. -/
def Safe (listing : Listing) : Prop :=
  -- Names with reserved characters are passed over.
  ∀ (site : Site) (name : String), hasReserved site.server = false → hasReserved name = false →
    (listing.describe site name).validate = .ok ()

/-- A row is read only under a name without reserved characters. -/
theorem read_row_clean {format : ListingFormat} {phase : ListingPhase} {line name : String}
    (read : format.read phase line = .row name) : hasReserved name = false := by
  -- Only the last branch of the reading gives a row.
  unfold ListingFormat.read at read
  split at read
  · simp at read
  · split at read
    · simp at read
    · split at read
      · simp at read
      · split at read
        · simp at read
        · split at read
          · rename_i object
            cases read
            simpa using (Option.filter_eq_some_iff.mp object).2
          · simp at read

/-- The machine of a safely described listing is faultless on a clean server. -/
theorem machine_faultless {listing : Listing} (safe : listing.Safe) {site : Site}
    (server : hasReserved site.server = false) : (listing.machine site).Faultless where
  -- Starting and finishing ask for nothing, and a row asks with a span that is its line.
  start invocation phase := ⟨_, rfl⟩
  line scene line phase current := by
    unfold machine
    dsimp only
    -- Only a row asks for a region, over the whole line.
    cases reading : listing.format.read phase line.text with
    | endOfTable => exact ⟨_, rfl⟩
    | header => exact ⟨_, rfl⟩
    | other => exact ⟨_, rfl⟩
    | row name =>
      refine ⟨⟨line, current, Scene.spanSound_whole line⟩, ?_, fun id => ⟨_, rfl⟩⟩
      exact safe site name server (read_row_clean reading)
  finish scene totalRows phase := rfl

/-- The factory of a safely described listing is faultless. -/
theorem factory_faultless {listing : Listing} (safe : listing.Safe) (settings : MatcherSettings) :
    (listing.factory settings).Faultless where
  -- Listings accept every site, and their first phase is as good as any other.
  accepts _ _ := ⟨_, rfl⟩
  create _ clean _ := ⟨_, _, rfl, machine_faultless safe clean.server⟩

end Listing

/-- Containers are described safely. -/
theorem Docker.containers_safe : Docker.containers.Safe := by
  -- Part by part: the server and the name are clean, and the rest of the texts is fixed.
  intro site name server named
  rw [Metadata.validate_eq_ok_iff_parts]
  simp +decide [Docker.containers, Docker.describeContainer, Docker.infoEntries,
    Docker.connectAction, server, named]

/-- Images are described safely. -/
theorem Docker.images_safe : Docker.images.Safe := by
  -- Part by part, as for containers.
  intro site name server named
  rw [Metadata.validate_eq_ok_iff_parts]
  simp +decide [Docker.images, Docker.describeImage, Docker.infoEntries,
    Docker.inspectImageAction, server, named]

/-- Pods are described safely. -/
theorem Kubernetes.pods_safe : Kubernetes.pods.Safe := by
  -- Part by part, as for containers.
  intro site name server named
  rw [Metadata.validate_eq_ok_iff_parts]
  simp +decide [Kubernetes.pods, Kubernetes.describePod, Kubernetes.closingEntries,
    Kubernetes.connectAction, server, named]

/-- Deployments are described safely. -/
theorem Kubernetes.deployments_safe : Kubernetes.deployments.Safe := by
  -- Part by part, as for containers.
  intro site name server named
  rw [Metadata.validate_eq_ok_iff_parts]
  simp +decide [Kubernetes.deployments, Kubernetes.describeDeployment, Kubernetes.closingEntries,
    Kubernetes.describeDeploymentAction, server, named]

/-- Machines are described safely. -/
theorem Machines.machines_safe : Machines.machines.Safe := by
  -- Part by part, as for containers.
  intro site name server named
  rw [Metadata.validate_eq_ok_iff_parts]
  simp +decide [Machines.machines, Machines.describeMachine, Machines.connectAction, server, named]

/-- Machine images are described safely. -/
theorem Machines.images_safe : Machines.images.Safe := by
  -- Part by part, as for containers.
  intro site name server named
  rw [Metadata.validate_eq_ok_iff_parts]
  simp +decide [Machines.images, Machines.describeImage, Machines.startAction, server, named]

end Annotator
