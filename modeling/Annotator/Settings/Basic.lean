import Annotator.Region.Limits
import Annotator.Settings.LogLevel
import Annotator.Text.Blank

/-! Settings say how much is logged, how matchers are limited, and which commands they attach to. -/

namespace Annotator

/-- The settings of one matcher. -/
structure MatcherSettings where
  /-- Whether the matcher is registered at all. -/
  enabled : Bool := true
  /-- Further command lines to which it attaches. -/
  aliases : List String := []
  /-- Whether it takes lines as they arrive, if that is to differ from its own choice. -/
  fast : Option Bool := none
  /-- Whether it is finished after it stopped, if that is to differ from its own choice. -/
  finishAfterStop : Option Bool := none
  deriving DecidableEq, Repr, Inhabited

namespace MatcherSettings

/-- A command is an alias when it equals one up to the padding of the alias. -/
def isAlias (settings : MatcherSettings) (command : String) : Bool :=
  -- The command itself is compared as it is.
  settings.aliases.any fun text => trimmed text == command

/-- The scheduling of a matcher that is not overridden keeps its own choice. -/
def fastOr (settings : MatcherSettings) (own : Bool) : Bool :=
  -- An override wins.
  settings.fast.getD own

/-- The finish policy of a matcher that is not overridden keeps its own choice. -/
def finishPolicyOr (settings : MatcherSettings) (own : FinishPolicy) : FinishPolicy :=
  -- An override wins.
  (settings.finishAfterStop.map FinishPolicy.ofFlag).getD own

end MatcherSettings

/-- The settings of the build matcher. -/
structure MakeSettings where
  /-- The launcher named in actions that open an editor. -/
  editorLauncher : String := "Default"
  /-- The words that begin a command to which it attaches. -/
  commands : List String := ["make"]
  deriving DecidableEq, Repr, Inhabited

/-- Without entries no name occurs twice. -/
theorem noEntries_distinct : (([] : List (String × MatcherSettings)).map (·.1)).Nodup :=
  List.nodup_nil

/-- Settings of matchers by name, each name at most once. -/
structure MatcherTable where
  /-- Names with their settings. -/
  entries : List (String × MatcherSettings) := []
  /-- No name occurs twice. -/
  distinct : (entries.map (·.1)).Nodup := by exact noEntries_distinct
  deriving DecidableEq

namespace MatcherTable

instance : Inhabited MatcherTable := ⟨{}⟩

/-- The settings of a name that is present. -/
def find? (table : MatcherTable) (name : String) : Option MatcherSettings :=
  -- Names are unique.
  table.entries.lookup name

/-- The entries of a table without a given name. -/
def others (table : MatcherTable) (name : String) : List (String × MatcherSettings) :=
  -- Only entries of that very name are left out.
  table.entries.filter fun entry => entry.1 != name

/-- Settings take the place of earlier ones of the same name. -/
def insert (table : MatcherTable) (name : String) (settings : MatcherSettings) : MatcherTable where
  entries := table.others name ++ [(name, settings)]
  distinct := by
    -- The other names stay distinct and differ from the new one.
    rw [List.map_append, List.nodup_append]
    refine ⟨?_, by simp, ?_⟩
    · exact table.distinct.sublist (List.filter_sublist.map _)
    · intro one member other new
      simp only [others, List.mem_map, List.mem_filter] at member
      obtain ⟨entry, ⟨_, differs⟩, rfl⟩ := member
      simp only [List.map_cons, List.map_nil, List.mem_singleton] at new
      subst new
      simpa using differs

/-- The table of a list of entries, where later entries win. -/
def ofList (entries : List (String × MatcherSettings)) : MatcherTable :=
  -- Entries are inserted in order.
  entries.foldl (fun table entry => table.insert entry.1 entry.2) {}

end MatcherTable

/-- All settings. -/
structure Settings where
  /-- How detailed the log is. -/
  logLevel : LogLevel := .off
  /-- Whether matchers that are not fast wait for an invocation to complete. -/
  deferBuffered : Bool := true
  /-- The limits on what regions show. -/
  limits : Limits := {}
  /-- The settings of matchers by name. -/
  matchers : MatcherTable := {}
  /-- The settings of the build matcher. -/
  make : MakeSettings := {}
  deriving DecidableEq, Inhabited

namespace Settings

/-- The settings of a matcher, which are the defaults when none are given. -/
def matcher (settings : Settings) (name : String) : MatcherSettings :=
  -- An absent entry stands for an empty one.
  (settings.matchers.find? name).getD {}

/-- A matcher is enabled unless its settings disable it. -/
def isEnabled (settings : Settings) (name : String) : Bool :=
  -- An absent entry does not disable anything.
  (settings.matcher name).enabled

end Settings

end Annotator
