import Annotator.Proofs.Region.Growth

/-!
The numbers of regions over any work on a region table: events that reserve and create, one after
the other, with evictions between them. A number is given to one region at most, and a region stays
as it was created until it is removed.
-/

namespace Annotator

/-- One thing that is done with a region table, within an event or between two events. -/
inductive Deed
  /-- An event begins at a fresh desk. -/
  | enter (scene : Scene)
  /-- The event asks for the number of its next region. -/
  | reserve
  /-- The event creates a region over bytes of its line. -/
  | create (start stop : Nat) (metadata : Metadata)
  /-- The event creates a region between two positions. -/
  | createAt (start stop : Position) (metadata : Metadata)
  /-- No event is under way, and a region is removed. -/
  | evict (id : RegionId)
  /-- No event is under way, and all regions of an invocation are removed. -/
  | evictInvocation (id : InvocationId)

namespace Deed

/-- Whether a deed lies outside the event that was under way. -/
def leaves : Deed → Bool
  -- The next event has a desk of its own, and evictions need the table for themselves.
  | .enter _ | .evict _ | .evictInvocation _ => true
  | .reserve | .create .. | .createAt .. => false

/-- Whether a deed removes a region. -/
def removes (region : Region) : Deed → Bool
  -- A region is named by its number or by its invocation.
  | .evict id => region.id == id
  | .evictInvocation id => region.invocation == id
  | .enter _ | .reserve | .create .. | .createAt .. => false

end Deed

/-- What is told about a deed. -/
inductive Receipt
  /-- There is nothing to tell. -/
  | nothing
  /-- A number was reserved. -/
  | reserved (id : RegionId)
  /-- A creation was answered. -/
  | answered (answer : Except RegionError RegionId)
  /-- A region was removed, if it was present. -/
  | removed (region : Option Region)
  /-- A number of regions were removed. -/
  | cleared (count : Nat)

/-- The number of the region that was created, if one was. -/
def Receipt.created? : Receipt → Option RegionId
  -- Reservations and rejected creations make no region.
  | .answered (.ok id) => some id
  | _ => none

/-- A region table and the event that is under way, if there is one. -/
structure Workplace where
  /-- What the event is about. -/
  scene : Option Scene := none
  /-- The desk with the table. -/
  desk : Desk := { table := {} }

namespace Workplace

/-- Doing one thing, which is passed over when it needs an event and none is under way. -/
def perform (place : Workplace) : Deed → Receipt × Workplace
  -- A reservation ends with the desk of its event.
  | .enter scene => (.nothing, { scene := some scene, desk := { table := place.desk.table } })
  | .reserve =>
    match place.scene with
    | none => (.nothing, place)
    | some _ =>
      let (id, desk) := place.desk.reserve
      (.reserved id, { place with desk })
  | .create start stop metadata =>
    match place.scene with
    | none => (.nothing, place)
    | some scene =>
      let (answer, desk) := place.desk.settle (scene.createOnLine place.desk start stop metadata)
      (.answered answer, { place with desk })
  | .createAt start stop metadata =>
    match place.scene with
    | none => (.nothing, place)
    | some scene =>
      let (answer, desk) := place.desk.settle (scene.createAt place.desk start stop metadata)
      (.answered answer, { place with desk })
  | .evict id =>
    let (region, table) := place.desk.table.evict id
    (.removed region, { desk := { table } })
  | .evictInvocation id =>
    let (count, table) := place.desk.table.evictInvocation id
    (.cleared count, { desk := { table } })

/-- Where deeds lead, one after the other. -/
def after (place : Workplace) (deeds : List Deed) : Workplace :=
  -- Each deed finds what the one before it left.
  deeds.foldl (fun place deed => (place.perform deed).2) place

/-- The regions that are present, as they are listed. -/
def regions (place : Workplace) : List Region :=
  -- Events work on the same table.
  place.desk.table.regions

/-- The numbers of the regions that deeds create, in the order of creation. -/
def numbers (place : Workplace) : List Deed → List RegionId
  -- Only a creation that succeeds gives a number to a region.
  | [] => []
  | deed :: later =>
    let (receipt, next) := place.perform deed
    receipt.created?.toList ++ next.numbers later

/-- The number that the next region will be given while the event goes on. -/
def upcoming (place : Workplace) : Nat :=
  -- A standing reservation is used up first.
  place.desk.claim.1.number

/-- What every workplace keeps to: numbers grow, and none is given out ahead of the regions. -/
structure Ordered (place : Workplace) : Prop where
  /-- Regions are listed in the order of their numbers. -/
  ascending : place.regions.Pairwise (·.id.number < ·.id.number)
  /-- Every number that is in use is below the next one. -/
  below : ∀ region ∈ place.regions, 1 ≤ region.id.number ∧ region.id.number < place.upcoming
  /-- The next number is an issued or the next issued one. -/
  issued : 1 ≤ place.upcoming ∧ place.upcoming ≤ place.desk.table.nextId
  /-- A reservation has been issued. -/
  reserved : ∀ id, place.desk.reserved = some id → id.number < place.desk.table.nextId

/-- A region takes its place by number, in place of one that has the number already. -/
def file (region : Region) : List Region → List Region
  -- This is how a map from numbers to regions is written.
  | [] => [region]
  | held :: rest =>
    if region.id.number < held.id.number then region :: held :: rest
    else if region.id = held.id then region :: rest
    else held :: file region rest

/-- A region with a larger number than all others takes the last place. -/
theorem file_eq_append {region : Region} {held : List Region}
    (above : ∀ other ∈ held, other.id.number < region.id.number) :
    file region held = held ++ [region] := by
  -- Induction on the table, whose regions all have smaller numbers and are passed over.
  induction held with
  | nil => rfl
  | cons first rest ih =>
    have smaller : first.id.number < region.id.number := above first List.mem_cons_self
    have differs : region.id ≠ first.id := by
      intro same
      rw [same] at smaller
      omega
    rw [file, if_neg (by omega), if_neg differs, List.cons_append,
      ih fun other member => above other (List.mem_cons_of_mem _ member)]

variable {place : Workplace}

/-- Work goes on where earlier work ended. -/
theorem after_append (place : Workplace) (early late : List Deed) :
    place.after (early ++ late) = (place.after early).after late := by
  -- The deeds are done from the left.
  simp [after]

/-- The first deed is done before the others. -/
theorem after_cons (place : Workplace) (deed : Deed) (later : List Deed) :
    place.after (deed :: later) = (place.perform deed).2.after later :=
  -- The deeds are done from the left.
  rfl

section Desk

variable {desk : Desk}

/-- Reserving holds the number that the next region would be given anyway. -/
theorem reserve_spec (desk : Desk) :
    desk.reserve.1 = desk.claim.1 ∧ desk.reserve.2.claim.1 = desk.claim.1 ∧
      desk.reserve.2.reserved = some desk.claim.1 ∧
      desk.reserve.2.table.regions = desk.table.regions ∧
      desk.reserve.2.table.nextId = desk.claim.2.table.nextId := by
  -- A number that is reserved stays so, and otherwise the next one is issued.
  obtain ⟨table, reserved⟩ := desk
  cases reserved <;> exact ⟨rfl, rfl, rfl, rfl, rfl⟩

/-- A claimed number leaves the regions alone, and the next one to issue is behind it. -/
theorem claim_spec (desk : Desk) :
    desk.claim.2.table.regions = desk.table.regions ∧
      desk.table.nextId ≤ desk.claim.2.table.nextId ∧
      ((∀ id, desk.reserved = some id → id.number < desk.table.nextId) →
        desk.claim.1.number < desk.claim.2.table.nextId) := by
  -- A number that is reserved is used up, and otherwise the next one is issued.
  obtain ⟨table, reserved⟩ := desk
  cases reserved with
  | none => exact ⟨rfl, Nat.le_succ _, fun _ => Nat.lt_succ_self _⟩
  | some id => exact ⟨rfl, Nat.le_refl _, fun issued => issued id rfl⟩

end Desk

/-- What a creation does, whichever way it addresses its place. -/
inductive Created (place : Workplace) : Receipt → Workplace → Prop
  /-- It is rejected and changes nothing. -/
  | rejected (error : RegionError) : Created place (.answered (.error error)) place
  /-- One region is added under the number that was due. -/
  | added (region : Region) (due : region.id = place.desk.claim.1) :
    Created place (.answered (.ok region.id))
      { place with desk := ⟨place.desk.claim.2.table.insert region, none⟩ }

/-- A creation that is settled either adds a region or changes nothing. -/
theorem created_of_settle (scene : Scene) {result : Except RegionError (RegionId × Desk)}
    (places : ∀ id next, result = .ok (id, next) → ∃ start stop metadata,
      scene.place place.desk start stop metadata = .ok (id, next)) :
    Created place (.answered (place.desk.settle result).1)
      { place with desk := (place.desk.settle result).2 } := by
  -- An accepted creation was placed, so its number is the one that was due.
  cases result with
  | error error => exact .rejected error
  | ok made =>
    obtain ⟨start, stop, metadata, placed⟩ := places made.1 made.2 rfl
    obtain ⟨_, due, left⟩ := Scene.place_eq_ok_iff.mp placed
    show Created place (.answered (.ok made.1)) { place with desk := made.2 }
    rw [left]
    exact .added (scene.drawn made.1 start stop metadata) due

/-- Everything that one deed can do to a workplace. -/
inductive Step (place : Workplace) : Deed → Receipt → Workplace → Prop
  /-- An event begins without a reservation. -/
  | entered (scene : Scene) :
    Step place (.enter scene) .nothing
      { scene := some scene, desk := { table := place.desk.table } }
  /-- Nothing happens, as no event is under way. -/
  | idle (deed : Deed) (within : deed.leaves = false) : Step place deed .nothing place
  /-- The number that is due is held. -/
  | reserved :
    Step place .reserve (.reserved place.desk.claim.1) { place with desk := place.desk.reserve.2 }
  /-- A creation is answered. -/
  | created {deed : Deed} (within : deed.leaves = false) {receipt : Receipt} {next : Workplace}
    (made : Created place receipt next) : Step place deed receipt next
  /-- Regions are removed, and a reservation is lost. -/
  | removed (deed : Deed) (outside : deed.leaves = true) (receipt : Receipt)
    (unmade : receipt.created? = none) :
    Step place deed receipt
      { desk := { table :=
        { place.desk.table with
          regions := place.desk.table.regions.filter fun region => !deed.removes region } } }

/-- Every deed takes one of these steps. -/
theorem perform_step (place : Workplace) (deed : Deed) :
    Step place deed (place.perform deed).1 (place.perform deed).2 := by
  -- One case for each deed, and outside an event only entering and evicting do anything.
  obtain ⟨scene, desk⟩ := place
  cases deed with
  | enter scene => exact .entered scene
  | reserve =>
    cases scene with
    | none => exact .idle _ rfl
    | some scene =>
      have held := (reserve_spec desk).1
      have step : Step ⟨some scene, desk⟩ .reserve (.reserved desk.claim.1) _ := .reserved
      rw [← held] at step
      exact step
  | create start stop metadata =>
    cases scene with
    | none => exact .idle _ rfl
    | some scene =>
      refine .created rfl (created_of_settle scene fun id next made => ?_)
      obtain ⟨line, _, _, placed⟩ := Scene.createOnLine_eq_ok made
      exact ⟨_, _, _, placed⟩
  | createAt start stop metadata =>
    cases scene with
    | none => exact .idle _ rfl
    | some scene =>
      refine .created rfl (created_of_settle scene fun id next made => ?_)
      obtain ⟨_, _, _, placed⟩ := Scene.createAt_eq_ok made
      exact ⟨_, _, _, placed⟩
  | evict id => exact .removed (.evict id) rfl (.removed (desk.table.get? id)) rfl
  | evictInvocation id =>
    exact .removed (.evictInvocation id) rfl (.cleared (desk.table.forInvocation id).length) rfl

/-- A number is spent on a workplace when no region can be given it there after the event. -/
def Spent (place : Workplace) (id : RegionId) : Prop :=
  -- Only the event that reserved a number may still use it.
  id.number < place.upcoming ∨ place.desk.reserved = some id

/-- What one step makes of the order of numbers. -/
structure Advances (place : Workplace) (deed : Deed) (receipt : Receipt) (next : Workplace) :
    Prop where
  /-- The order is kept. -/
  ordered : next.Ordered
  /-- No number is taken back. -/
  upcoming : place.upcoming ≤ next.upcoming
  /-- A region is given the number that was due, which is then behind the next one. -/
  given : ∀ id, receipt.created? = some id →
    id.number = place.upcoming ∧ place.upcoming < next.upcoming
  /-- A spent number stays spent. -/
  spent : ∀ id, place.Spent id → next.Spent id
  /-- A number that is spent cannot be used when the event is left. -/
  left : deed.leaves = true → ∀ id, place.Spent id → id.number < next.upcoming

section Steps

variable {deed : Deed} {receipt : Receipt} {next : Workplace}

/-- Where nothing happens, the order of numbers stays as it is. -/
theorem Ordered.unchanged (ordered : place.Ordered) (within : deed.leaves = false)
    (unmade : receipt.created? = none) : place.Advances deed receipt place where
  -- Nothing has changed, so nothing is lost.
  ordered := ordered
  upcoming := Nat.le_refl _
  given id same := by rw [unmade] at same; cases same
  spent _ spent := spent
  left leaves := by rw [within] at leaves; cases leaves

/-- Leaving an event loses its reservation, and removing regions keeps the order. -/
theorem Ordered.leave (ordered : place.Ordered) {kept : List Region}
    (sublist : kept.Sublist place.regions) (scene : Option Scene)
    (unmade : receipt.created? = none) :
    place.Advances deed receipt
      { scene, desk := { table := { place.desk.table with regions := kept } } } := by
  -- Leaving an event drops the reservation, whose number stays behind the next one.
  have behind : ∀ id, place.Spent id → id.number < place.desk.table.nextId := by
    -- Every spent number lies behind the next one, so none is issued again.
    intro id spent
    rcases spent with small | held
    · exact Nat.lt_of_lt_of_le small ordered.issued.2
    · exact ordered.reserved id held
  refine ⟨⟨ordered.ascending.sublist sublist, ?_, ?_, ?_⟩, ordered.issued.2, ?_, ?_, ?_⟩
  · intro region member
    have bounds := ordered.below region (sublist.subset member)
    exact ⟨bounds.1, Nat.lt_of_lt_of_le bounds.2 ordered.issued.2⟩
  · exact ⟨Nat.le_trans ordered.issued.1 ordered.issued.2, Nat.le_refl _⟩
  · intro id held
    cases held
  · intro id same
    rw [unmade] at same
    cases same
  · exact fun id spent => .inl (behind id spent)
  · exact fun _ id spent => behind id spent

/-- A reservation holds the number that was due. -/
theorem Ordered.reserve (ordered : place.Ordered) {id : RegionId} :
    place.Advances .reserve (.reserved id) { place with desk := place.desk.reserve.2 } := by
  -- The number that is due is only set aside: it stays the next one.
  obtain ⟨_, due, held, regions, nextId⟩ := reserve_spec place.desk
  obtain ⟨_, grown, issued⟩ := claim_spec place.desk
  let next : Workplace := { place with desk := place.desk.reserve.2 }
  have same : next.upcoming = place.upcoming := congrArg RegionId.number due
  have listed : next.regions = place.regions := regions
  refine ⟨⟨?_, ?_, ?_, ?_⟩, Nat.le_of_eq same.symm, by simp [Receipt.created?], ?_, ?_⟩
  · show next.regions.Pairwise _
    rw [listed]
    exact ordered.ascending
  · intro region member
    show _ ∧ _ < next.upcoming
    rw [same]
    exact ordered.below region (listed ▸ (show region ∈ next.regions from member))
  · show 1 ≤ next.upcoming ∧ next.upcoming ≤ _
    rw [same]
    refine ⟨ordered.issued.1, ?_⟩
    show place.upcoming ≤ place.desk.reserve.2.table.nextId
    rw [nextId]
    exact Nat.le_trans ordered.issued.2 grown
  · intro other standing
    rw [held] at standing
    cases standing
    show _ < place.desk.reserve.2.table.nextId
    rw [nextId]
    exact issued ordered.reserved
  · intro other spent
    rcases spent with small | standing
    · exact .inl (same ▸ small)
    · -- A reservation that stands is the number that is due.
      right
      have kept : place.desk.claim.1 = other := by simp [Desk.claim, standing]
      exact held.trans (congrArg some kept)
  · intro leaves
    cases leaves

/-- A creation keeps the order, whether or not it succeeds. -/
theorem Created.advances (made : Created place receipt next) (ordered : place.Ordered)
    (within : deed.leaves = false) : place.Advances deed receipt next := by
  -- The region that is added bears the number that was due, and all others are smaller.
  cases made with
  | rejected error => exact ordered.unchanged within rfl
  | added region due =>
    obtain ⟨regions, grown, issued⟩ := claim_spec place.desk
    have number : region.id.number = place.upcoming := congrArg RegionId.number due
    have behind : place.upcoming < place.desk.claim.2.table.nextId := issued ordered.reserved
    have listed : (place.desk.claim.2.table.insert region).regions = place.regions ++ [region] :=
      congrArg (· ++ [region]) regions
    refine ⟨⟨?_, ?_, ?_, ?_⟩, Nat.le_of_lt behind, ?_, ?_, ?_⟩
    · show (place.desk.claim.2.table.insert region).regions.Pairwise _
      rw [listed]
      refine List.pairwise_append.mpr ⟨ordered.ascending, List.pairwise_singleton _ _, ?_⟩
      intro older member newer last
      rw [List.mem_singleton.mp last, number]
      exact (ordered.below older member).2
    · intro other member
      replace member : other ∈ place.regions ++ [region] := listed ▸ member
      show _ ∧ _ < place.desk.claim.2.table.nextId
      rcases List.mem_append.mp member with older | last
      · have bounds := ordered.below other older
        exact ⟨bounds.1, Nat.lt_trans bounds.2 behind⟩
      · rw [List.mem_singleton.mp last, number]
        exact ⟨ordered.issued.1, behind⟩
    · exact ⟨Nat.le_trans ordered.issued.1 (Nat.le_of_lt behind), Nat.le_refl _⟩
    · intro id held
      cases held
    · intro id same
      cases same
      exact ⟨number, behind⟩
    · intro id spent
      left
      rcases spent with small | held
      · exact Nat.lt_trans small behind
      · exact Nat.lt_of_lt_of_le (ordered.reserved id held) grown
    · intro leaves
      rw [within] at leaves
      cases leaves

/-- Every step keeps the order of numbers. -/
theorem Step.advances (step : Step place deed receipt next) (ordered : place.Ordered) :
    place.Advances deed receipt next := by
  -- One case for each kind of step.
  cases step with
  | entered scene => exact ordered.leave (List.Sublist.refl _) _ rfl
  | idle _ within => exact ordered.unchanged within rfl
  | reserved => exact ordered.reserve
  | created within made => exact made.advances ordered within
  | removed _ outside _ unmade => exact ordered.leave List.filter_sublist _ unmade

/-- The step that reserves a number holds it. -/
theorem Step.held {id : RegionId} (step : Step place .reserve (.reserved id) next) :
    next.Spent id := by
  -- Only a reservation answers with the number that it holds.
  cases step with
  | reserved => exact .inr (reserve_spec place.desk).2.2.1
  | created _ made => cases made
  | removed _ outside => cases outside

/-- A step leaves a region in place exactly if it does not remove it. -/
theorem Step.mem_regions (step : Step place deed receipt next) {region : Region}
    (present : region ∈ place.regions) :
    region ∈ next.regions ↔ deed.removes region = false := by
  -- Steps add regions at the end, and only an eviction takes some away.
  have listed : ∀ added : Region, region ∈ (place.desk.claim.2.table.insert added).regions :=
    fun added => List.mem_append_left _ ((claim_spec place.desk).1 ▸ present)
  have stays : ∀ {deed : Deed}, deed.leaves = false → deed.removes region = false := by
    intro deed within
    cases deed <;> first | rfl | cases within
  cases step with
  | entered scene => exact iff_of_true present rfl
  | idle _ within => exact iff_of_true present (stays within)
  | reserved =>
    have listed : place.desk.reserve.2.table.regions = place.regions :=
      (reserve_spec place.desk).2.2.2.1
    exact iff_of_true (show region ∈ place.desk.reserve.2.table.regions from listed ▸ present) rfl
  | created within made =>
    cases made with
    | rejected error => exact iff_of_true present (stays within)
    | added other due => exact iff_of_true (listed other) (stays within)
  | removed _ outside _ unmade =>
    show region ∈ List.filter _ _ ↔ _
    rw [List.mem_filter]
    simp only [Bool.not_eq_true', and_iff_right_iff_imp]
    exact fun _ => present

/-- A step that makes a region adds it at the end, under the number that was due. -/
theorem Step.added (step : Step place deed receipt next) {id : RegionId}
    (made : receipt.created? = some id) :
    id = place.desk.claim.1 ∧
      ∃ region, region.id = id ∧ next.regions = place.regions ++ [region] := by
  -- Only a creation that is accepted is answered with a number.
  cases step with
  | entered scene => cases made
  | idle _ within => cases made
  | reserved => cases made
  | removed _ outside _ unmade => rw [unmade] at made; cases made
  | created within creation =>
    cases creation with
    | rejected error => cases made
    | added region due =>
      cases made
      exact ⟨due, region, rfl, congrArg (· ++ [region]) (claim_spec place.desk).1⟩

/-- A step that makes a region puts it behind all others and leaves them as they are. -/
theorem Step.made (step : Step place deed receipt next) (ordered : place.Ordered) {id : RegionId}
    (made : receipt.created? = some id) :
    ∃ region, region.id = id ∧ next.regions = place.regions ++ [region] ∧
      next.regions = file region place.regions ∧ ∀ other ∈ place.regions, other.id ≠ id := by
  -- The new region bears the number that was due, which is above those of the table.
  obtain ⟨due, region, rfl, listed⟩ := step.added made
  have above : ∀ other ∈ place.regions, other.id.number < region.id.number := by
    intro other member
    rw [due]
    exact (ordered.below other member).2
  refine ⟨region, rfl, listed, listed.trans (file_eq_append above).symm, ?_⟩
  intro other member same
  exact absurd (same ▸ above other member) (Nat.lt_irrefl _)

/-- A step that makes no region only takes regions away. -/
theorem Step.unmade (step : Step place deed receipt next) (unmade : receipt.created? = none) :
    next.regions.Sublist place.regions := by
  -- Without a creation the table stays or loses regions.
  cases step with
  | entered scene => exact List.Sublist.refl _
  | idle _ within => exact List.Sublist.refl _
  | reserved =>
    show place.desk.reserve.2.table.regions.Sublist _
    rw [(reserve_spec place.desk).2.2.2.1]
    exact List.Sublist.refl _
  | removed _ outside _ _ => exact List.filter_sublist
  | created within creation =>
    cases creation with
    | rejected error => exact List.Sublist.refl _
    | added region due => cases unmade

/-- The regions after a step are among those before it and the one that it made. -/
theorem Step.listed (step : Step place deed receipt next) (ordered : place.Ordered) :
    (next.regions.map (·.id)).Sublist
      (place.regions.map (·.id) ++ receipt.created?.toList) := by
  -- A creation adds its own number at the end, and other steps add none.
  cases made : receipt.created? with
  | none =>
    rw [Option.toList_none, List.append_nil]
    exact (step.unmade made).map _
  | some id =>
    obtain ⟨region, rfl, same, _, _⟩ := step.made ordered made
    rw [same, List.map_append]
    exact List.Sublist.refl _

/-- A region that was taken away does not come back. -/
theorem Step.absent (step : Step place deed receipt next) (ordered : place.Ordered)
    {region : Region} (old : region.id.number < place.upcoming)
    (gone : region ∉ place.regions) : region ∉ next.regions := by
  -- What is added bears a number that is not old.
  cases made : receipt.created? with
  | none => exact fun present => gone ((step.unmade made).subset present)
  | some id =>
    obtain ⟨added, rfl, same, _, _⟩ := step.made ordered made
    have due := ((step.advances ordered).given _ made).1
    rw [same]
    intro present
    rcases List.mem_append.mp present with older | last
    · exact gone older
    · rw [List.mem_singleton.mp last, due] at old
      exact absurd old (Nat.lt_irrefl _)

end Steps

section Runs

variable {region : Region}

/-- Before all work there are no regions, and the first number is one. -/
theorem ordered_start : Ordered {} where
  -- The table is empty and nothing is reserved.
  ascending := List.Pairwise.nil
  below region member := by cases member
  issued := ⟨Nat.le_refl _, Nat.le_refl _⟩
  reserved id held := by cases held

/-- Work keeps the order of numbers and takes none back. -/
theorem Ordered.after (ordered : place.Ordered) (deeds : List Deed) :
    (place.after deeds).Ordered ∧ place.upcoming ≤ (place.after deeds).upcoming := by
  -- Induction on the deeds, each of which keeps the order and never lowers the next number.
  induction deeds generalizing place with
  | nil => exact ⟨ordered, Nat.le_refl _⟩
  | cons deed later ih =>
    have advances := (place.perform_step deed).advances ordered
    have reached := ih advances.ordered
    exact ⟨reached.1, Nat.le_trans advances.upcoming reached.2⟩

/-- Regions are given ascending numbers, none of them below the number that was due at first. -/
theorem Ordered.numbers_ascending (ordered : place.Ordered) (deeds : List Deed) :
    (place.numbers deeds).Pairwise (·.number < ·.number) ∧
      ∀ id ∈ place.numbers deeds, place.upcoming ≤ id.number := by
  -- What is due after a creation is larger than the number that was given.
  induction deeds generalizing place with
  | nil => exact ⟨List.Pairwise.nil, fun id member => by cases member⟩
  | cons deed later ih =>
    have advances := (place.perform_step deed).advances ordered
    obtain ⟨ascending, above⟩ := ih advances.ordered
    cases made : (place.perform deed).1.created? with
    | none =>
      simp only [numbers, made, Option.toList_none, List.nil_append]
      exact ⟨ascending, fun id member => Nat.le_trans advances.upcoming (above id member)⟩
    | some given =>
      obtain ⟨due, behind⟩ := advances.given given made
      simp only [numbers, made, Option.toList_some, List.singleton_append, List.pairwise_cons,
        List.forall_mem_cons]
      refine ⟨⟨fun id member => ?_, ascending⟩, Nat.le_of_eq due.symm, fun id member => ?_⟩
      · rw [due]
        exact Nat.lt_of_lt_of_le behind (above id member)
      · exact Nat.le_trans advances.upcoming (above id member)

/-- A spent number stays spent, and leaving the event puts it behind all later ones. -/
theorem Ordered.spent_after (ordered : place.Ordered) {id : RegionId} (spent : place.Spent id)
    (deeds : List Deed) :
    (place.after deeds).Spent id ∧
      ((∃ deed ∈ deeds, deed.leaves = true) → id.number < (place.after deeds).upcoming) := by
  -- Induction on the deeds: a spent number stays spent, and once an event is left it lies behind.
  induction deeds generalizing place with
  | nil => exact ⟨spent, fun leaving => by simp at leaving⟩
  | cons deed later ih =>
    have advances := (place.perform_step deed).advances ordered
    obtain ⟨reached, behind⟩ := ih advances.ordered (advances.spent id spent)
    refine ⟨reached, fun leaving => ?_⟩
    simp only [List.mem_cons, exists_eq_or_imp] at leaving
    rcases leaving with now | afterwards
    · have small := advances.left now id spent
      exact Nat.lt_of_lt_of_le small (advances.ordered.after later).2
    · exact behind afterwards

/-- A number that is behind the next one is not given to a later region. -/
theorem Ordered.not_given (ordered : place.Ordered) {id : RegionId}
    (small : id.number < place.upcoming) (deeds : List Deed) : id ∉ place.numbers deeds := by
  -- All numbers that are given from now on are larger.
  intro member
  have large := (ordered.numbers_ascending deeds).2 id member
  omega

/-- A region that was taken away stays away. -/
theorem Ordered.absent_after (ordered : place.Ordered) (old : region.id.number < place.upcoming)
    (gone : region ∉ place.regions) (deeds : List Deed) :
    region ∉ (place.after deeds).regions := by
  -- Induction on the deeds, as no step brings back a region of an old number.
  induction deeds generalizing place with
  | nil => exact gone
  | cons deed later ih =>
    have step := place.perform_step deed
    have advances := step.advances ordered
    exact ih advances.ordered (Nat.lt_of_lt_of_le old advances.upcoming)
      (step.absent ordered old gone)

/-- A region is present until it is removed. -/
theorem Ordered.mem_after (ordered : place.Ordered) (present : region ∈ place.regions)
    (deeds : List Deed) :
    region ∈ (place.after deeds).regions ↔ ∀ deed ∈ deeds, deed.removes region = false := by
  -- Induction on the deeds: once a region is removed it stays away, as its number is old.
  induction deeds generalizing place with
  | nil => exact iff_of_true present fun deed member => by cases member
  | cons deed later ih =>
    have step := place.perform_step deed
    have advances := step.advances ordered
    rw [after_cons, List.forall_mem_cons]
    by_cases stays : deed.removes region = false
    · rw [ih advances.ordered ((step.mem_regions present).mpr stays)]
      exact (and_iff_right stays).symm
    · have gone : region ∉ (place.perform deed).2.regions := mt (step.mem_regions present).mp stays
      have old := Nat.lt_of_lt_of_le (ordered.below region present).2 advances.upcoming
      exact iff_of_false (advances.ordered.absent_after old gone later) fun all => stays all.1

/-- The numbers of the regions that are present are listed as they were given. -/
theorem Ordered.listed_after (ordered : place.Ordered) (deeds : List Deed) :
    ((place.after deeds).regions.map (·.id)).Sublist
      (place.regions.map (·.id) ++ place.numbers deeds) := by
  -- Induction on the deeds, each of which lists at most its own new number.
  induction deeds generalizing place with
  | nil =>
    rw [numbers, List.append_nil]
    exact List.Sublist.refl _
  | cons deed later ih =>
    have step := place.perform_step deed
    have rest := ih (step.advances ordered).ordered
    rw [numbers, ← List.append_assoc]
    exact rest.trans ((step.listed ordered).append_right _)

/-- A region that is present is found by its number. -/
theorem Ordered.get?_eq (ordered : place.Ordered) (present : region ∈ place.regions) :
    place.desk.table.get? region.id = some region := by
  -- The numbers ascend, so no region in front of this one bears the same.
  obtain ⟨front, back, split⟩ := List.append_of_mem present
  have ascending := ordered.ascending
  rw [split] at ascending
  refine List.find?_eq_some_iff_append.mpr ⟨by simp, front, back, split, ?_⟩
  intro other member
  have smaller := (List.pairwise_append.mp ascending).2.2 other member region List.mem_cons_self
  have differs : other.id ≠ region.id := fun same => by rw [same] at smaller; omega
  simpa using differs

end Runs

/-- Whatever a hook does within its event is done by deeds, one after the other. -/
theorem after_run (scene : Scene) {α : Type} (program : Program α) (desk : Desk) :
    ∃ deeds : List Deed, (∀ deed ∈ deeds, deed.leaves = false) ∧
      after { scene := some scene, desk } deeds =
        { scene := some scene, desk := (program.run scene desk).desk } := by
  -- The induction follows the program through every answer it may be given.
  induction program generalizing desk with
  | done value => exact ⟨[], by simp, rfl⟩
  | tell note next ih => exact ih desk
  | reserve next ih =>
    obtain ⟨deeds, within, same⟩ := ih desk.reserve.1 desk.reserve.2
    exact ⟨.reserve :: deeds, by simpa [Deed.leaves] using within, same⟩
  | create start stop metadata next ih =>
    let settled := desk.settle (scene.createOnLine desk start stop metadata)
    obtain ⟨deeds, within, same⟩ := ih settled.1 settled.2
    exact ⟨.create start stop metadata :: deeds, by simpa [Deed.leaves] using within, same⟩
  | createAt start stop metadata next ih =>
    let settled := desk.settle (scene.createAt desk start stop metadata)
    obtain ⟨deeds, within, same⟩ := ih settled.1 settled.2
    exact ⟨.createAt start stop metadata :: deeds, by simpa [Deed.leaves] using within, same⟩

/-- The workplace that deeds lead to from an empty table. -/
def reached (deeds : List Deed) : Workplace :=
  -- No event is under way at first.
  after {} deeds

/-- Every workplace that is reached keeps the order of numbers. -/
theorem ordered_reached (deeds : List Deed) : (reached deeds).Ordered :=
  -- The invariant holds at the start and is kept by every deed.
  (ordered_start.after deeds).1

end Workplace

open Workplace in
/-- Numbers are never reused, and regions never change. -/
theorem numbers_never_reused :
    -- Regions are given ascending numbers from one up.
    (∀ deeds, (numbers {} deeds).Pairwise (·.number < ·.number) ∧
      ∀ id ∈ numbers {} deeds, 1 ≤ id.number) ∧
    -- A number reserved in an event that was left is given to no later region.
    (∀ before between later id, ((reached before).perform .reserve).1 = .reserved id →
      (∃ deed ∈ between, deed.leaves = true) →
      id ∉ (reached (before ++ .reserve :: between)).numbers later) ∧
    -- Nor is the number of a region that was ever present, whether or not it was removed.
    (∀ before between later, ∀ region ∈ (reached before).regions,
      region.id ∉ (reached (before ++ between)).numbers later) ∧
    -- A created region is filed under a number that no other has, and all others stay.
    (∀ before deed id, ((reached before).perform deed).1.created? = some id →
      ∃ region, region.id = id ∧
        (reached (before ++ [deed])).regions = (reached before).regions ++ [region] ∧
        (reached (before ++ [deed])).regions = file region (reached before).regions ∧
        ∀ other ∈ (reached before).regions, other.id ≠ id) ∧
    -- A region is there, and is found as it was created, until it or its invocation is evicted.
    (∀ before between, ∀ region ∈ (reached before).regions,
      (region ∈ (reached (before ++ between)).regions ↔
        ∀ deed ∈ between, deed.removes region = false) ∧
      ((∀ deed ∈ between, deed.removes region = false) →
        (reached (before ++ between)).desk.table.get? region.id = some region)) ∧
    -- Regions are listed in the order of their creation, also those of one invocation.
    (∀ deeds, ((reached deeds).regions.map (·.id)).Sublist (numbers {} deeds) ∧
      ∀ invocation, (((reached deeds).desk.table.forInvocation invocation).map (·.id)).Sublist
        (numbers {} deeds)) ∧
    -- The hooks of matchers do such work, and so every table of a tracker is reached by it.
    (∀ (place : Workplace) (matcher : Matcher) (scene : Scene) (α : Type)
      (program : Program (Reply matcher.State α)), ∃ deeds : List Deed,
      (∀ deed ∈ deeds, deed.leaves = false) ∧
        (matcher.handle scene place.desk.table program).2 =
          (place.after (.enter scene :: deeds)).desk.table) := by
  -- Each part follows from the numbers ascending along all deeds.
  have joined : ∀ before between, reached (before ++ between) = (reached before).after between :=
    fun before between => after_append {} before between
  refine ⟨?_, ?_, ?_, ?_, ?_, ?_, ?_⟩
  · exact fun deeds => ordered_start.numbers_ascending deeds
  · intro before between later id reserved leaving
    let place := reached before
    have ordered := ordered_reached before
    have step := place.perform_step .reserve
    have advances := step.advances ordered
    have held : (place.perform .reserve).2.Spent id := (reserved ▸ step).held
    rw [joined, after_cons]
    have small := (advances.ordered.spent_after held between).2 leaving
    exact (advances.ordered.after between).1.not_given small later
  · intro before between later region present
    have ordered := ordered_reached before
    have reached := ordered.after between
    rw [joined]
    exact reached.1.not_given
      (Nat.lt_of_lt_of_le (ordered.below region present).2 reached.2) later
  · intro before deed id made
    rw [joined]
    exact ((reached before).perform_step deed).made (ordered_reached before) made
  · intro before between region present
    have stays := (ordered_reached before).mem_after present between
    rw [← joined] at stays
    exact ⟨stays, fun unremoved =>
      (ordered_reached (before ++ between)).get?_eq (stays.mpr unremoved)⟩
  · intro deeds
    have listed := ordered_start.listed_after deeds
    exact ⟨listed, fun invocation => (List.filter_sublist.map _).trans listed⟩
  · intro place matcher scene α program
    obtain ⟨deeds, within, same⟩ := after_run scene program { table := place.desk.table }
    refine ⟨deeds, within, ?_⟩
    rw [after_cons]
    exact congrArg (·.desk.table) same.symm

open Workplace in
/-- A number that outlived a rejected creation is lost with its event, and one is evicted. -/
theorem numbers_never_reused_burnt :
    let scene : Scene := { (default : Scene) with rows := #["ab"] }
    let before : List Deed := [.enter scene]
    let between : List Deed := [.create 0 1 {}, .enter scene]
    let later : List Deed :=
      [.createAt ⟨0, 0⟩ ⟨0, 1⟩ {}, .evict ⟨2⟩, .enter scene, .createAt ⟨0, 0⟩ ⟨0, 1⟩ {}]
    ((reached before).perform .reserve).1 = .reserved ⟨1⟩ ∧
      (reached (before ++ .reserve :: between)).numbers later = [⟨2⟩, ⟨3⟩] ∧
      ⟨1⟩ ∉ (reached (before ++ .reserve :: between)).numbers later ∧
      (reached (before ++ .reserve :: between ++ later)).regions.map (·.id) = [⟨3⟩] := by
  -- The creation behind the reservation is refused, so the reserved number is never used.
  intro scene before between later
  have reserved : ((reached before).perform .reserve).1 = .reserved ⟨1⟩ := rfl
  have burnt := numbers_never_reused.2.1 before between later ⟨1⟩ reserved
    ⟨.enter scene, by simp [between], rfl⟩
  exact ⟨reserved, by decide, burnt, by decide⟩

end Annotator
