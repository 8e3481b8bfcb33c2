import Annotator.Builtin
import Annotator.Proofs.Text.Runs
import Annotator.Proofs.Tracker.Course

/-!
Status commands are recognized by a whole word. Commands that list pods or deployments are
recognized by the front of a word, which may be the name of another kind of object.
-/

namespace Annotator

namespace Text

/-- A run of characters of one class stands right behind a phrase at the front of a text. -/
structure RunBehind (phrase : List Char) (holds : Char → Bool) (text run : List Char) :
    Prop where
  /-- All its characters are of the class. -/
  inside : ∀ c ∈ run, holds c = true
  /-- It begins behind the phrase and goes on as long as there are characters of the class. -/
  stands : ∃ rest, text = phrase ++ (run ++ rest) ∧ ∀ c ∈ rest.head?, holds c = false

variable {phrase text : List Char} {holds : Char → Bool}

/-- A text starts with a phrase exactly if the phrase can be split off. -/
theorem startsWith_iff : startsWith phrase text = true ↔ ∃ rest, text = phrase ++ rest := by
  -- A prefix has something behind it, possibly nothing.
  rw [startsWith, List.isPrefixOf_iff_prefix, List.IsPrefix]
  exact exists_congr fun rest => eq_comm

/-- Whether a run stands behind a phrase is told from the text with its parts. -/
theorem runBehind_of_all {run : List Char} (rest : List Char) (inside : run.all holds = true)
    (split : text = phrase ++ (run ++ rest)) (ends : rest.head?.any holds = false) :
    RunBehind phrase holds text run where
  -- The run is tested as a whole, and what follows it by its first character.
  inside := List.all_eq_true.mp inside
  stands := ⟨rest, split, by simpa [Option.any_eq_false] using ends⟩

/-- There is only one run behind a phrase. -/
theorem RunBehind.unique {run other : List Char} (one : RunBehind phrase holds text run)
    (two : RunBehind phrase holds text other) : run = other := by
  -- Both runs begin behind the same phrase, and each is as long as its characters allow.
  obtain ⟨rest, rfl, ends⟩ := one.stands
  obtain ⟨otherRest, same, otherEnds⟩ := two.stands
  have behind : run ++ rest = other ++ otherRest := List.append_cancel_left same
  rw [← (run_append holds one.inside ends).1, behind, (run_append holds two.inside otherEnds).1]

/-- A text goes on behind a phrase with characters of a class if the run there begins with them. -/
theorem startsWith_append_iff {stem : List Char} (inside : ∀ c ∈ stem, holds c = true) :
    startsWith (phrase ++ stem) text = true ↔
      ∃ run, RunBehind phrase holds text run ∧ stem <+: run := by
  -- The stem is part of the run behind the phrase, since all of it may stand in one.
  rw [startsWith_iff]
  constructor
  · rintro ⟨behind, rfl⟩
    -- What follows the stem is the end of the run and the rest of the text.
    obtain ⟨more, rest, rfl, goesOn, ends, -, -⟩ := exists_run holds behind
    refine ⟨stem ++ more, ⟨?_, rest, by simp only [List.append_assoc], ends⟩, more, rfl⟩
    intro c member
    exact (List.mem_append.mp member).elim (inside c) (goesOn c)
  · rintro ⟨run, behind, more, rfl⟩
    obtain ⟨rest, rfl, -⟩ := behind.stands
    exact ⟨more ++ rest, by simp only [List.append_assoc]⟩

/-- A text goes on behind a phrase with a word that ends there if the word is the run there. -/
theorem runBehind_iff {word : List Char} (inside : ∀ c ∈ word, holds c = true) :
    RunBehind phrase holds text word ↔
      startsWith (phrase ++ word) text = true ∧
        ∀ c ∈ (text.drop (phrase ++ word).length).head?, holds c = false := by
  -- The word is the whole run exactly when the next character does not belong to it.
  rw [startsWith_iff]
  constructor
  · intro behind
    obtain ⟨rest, rfl, ends⟩ := behind.stands
    rw [← List.append_assoc, List.drop_left]
    exact ⟨⟨rest, rfl⟩, ends⟩
  · rintro ⟨⟨rest, rfl⟩, ends⟩
    rw [List.drop_left] at ends
    exact ⟨inside, rest, List.append_assoc _ _ _, ends⟩

end Text

namespace Listing

/-- A listing accepts what it recognizes, and nothing else if it has no aliases. -/
theorem accepts_iff (listing : Listing) {settings : MatcherSettings}
    (plain : settings.aliases = []) (command workingDir : String) :
    (listing.factory settings).accepts command workingDir = .ok true ↔
      listing.recognizes command = true := by
  -- Without aliases the command itself decides.
  simp [factory, MatcherSettings.isAlias, plain]

end Listing

namespace Kubernetes

/-- What stands in front of the kind of the objects that are listed. -/
def getPhrase : List Char :=
  -- Exactly one space follows each of the words.
  "kubectl get ".toList

/-- A command lists pods if the kind of its objects begins like that of pods. -/
theorem pods_recognizes_iff {command : String} :
    pods.recognizes command = true ↔
      ∃ kind, Text.RunBehind getPhrase Char.isAlpha command.toList kind ∧
        "pod".toList <+: kind := by
  -- The phrase that is looked for ends inside the word that names the kind.
  have phrase : "kubectl get pod".toList = getPhrase ++ "pod".toList := by decide
  have letters : ∀ c ∈ "pod".toList, c.isAlpha = true := by simp
  show Text.startsWith "kubectl get pod".toList command.toList = true ↔ _
  rw [phrase]
  exact Text.startsWith_append_iff letters

/-- A command lists deployments if the kind of its objects begins like that of deployments. -/
theorem deployments_recognizes_iff {command : String} :
    deployments.recognizes command = true ↔
      ∃ kind, Text.RunBehind getPhrase Char.isAlpha command.toList kind ∧
        "deployment".toList <+: kind := by
  -- The phrase that is looked for ends inside the word that names the kind.
  have phrase : "kubectl get deployment".toList = getPhrase ++ "deployment".toList := by decide
  have letters : ∀ c ∈ "deployment".toList, c.isAlpha = true := by simp
  show Text.startsWith "kubectl get deployment".toList command.toList = true ↔ _
  rw [phrase]
  exact Text.startsWith_append_iff letters

end Kubernetes

namespace StatusCommand

/-- What stands in front of the name of the command for the status. -/
def gitPhrase : List Char :=
  -- Exactly one space follows the word.
  "git ".toList

/-- A command is recognized exactly if the word behind the phrase is the one for the status. -/
theorem recognizes_iff {command : String} :
    recognizes command = true ↔
      Text.RunBehind gitPhrase isWordChar command.toList "status".toList := by
  -- The word is looked for with its end, so it is the whole run behind the phrase.
  have inside : ∀ c ∈ "status".toList, isWordChar c = true := List.all_eq_true.mp (by decide)
  rw [Text.runBehind_iff inside, recognizes, Bool.and_eq_true, Bool.not_eq_true',
    Option.any_eq_false]
  rfl

/-- Without aliases the status matcher accepts status commands in the long format only. -/
theorem accepts_iff {settings : MatcherSettings} (plain : settings.aliases = [])
    (command workingDir : String) :
    (WorkTree.factory settings).accepts command workingDir = .ok true ↔
      Text.RunBehind gitPhrase isWordChar command.toList "status".toList ∧
        hasReserved workingDir = false ∧ isLongFormat command = true := by
  -- Without aliases the three tests remain.
  simp only [WorkTree.factory, accepts, MatcherSettings.isAlias, plain, List.any_nil,
    Bool.or_false, Except.ok.injEq, Bool.and_eq_true, Bool.not_eq_true', recognizes_iff, and_assoc]

end StatusCommand

/--
Without aliases the matchers of pods and deployments accept every kind of object that begins with
the name of theirs, and the status matcher accepts no command of another name.
-/
theorem commands_recognized {settings : MatcherSettings} (plain : settings.aliases = [])
    (command workingDir : String) :
    ((Kubernetes.pods.factory settings).accepts command workingDir = .ok true ↔
      ∃ kind, Text.RunBehind Kubernetes.getPhrase Char.isAlpha command.toList kind ∧
        "pod".toList <+: kind) ∧
    ((Kubernetes.deployments.factory settings).accepts command workingDir = .ok true ↔
      ∃ kind, Text.RunBehind Kubernetes.getPhrase Char.isAlpha command.toList kind ∧
        "deployment".toList <+: kind) ∧
    ((WorkTree.factory settings).accepts command workingDir = .ok true ↔
      Text.RunBehind StatusCommand.gitPhrase isWordChar command.toList "status".toList ∧
        hasReserved workingDir = false ∧ StatusCommand.isLongFormat command = true) :=
  -- Each factory without aliases accepts what its matcher recognizes.
  ⟨(Listing.accepts_iff _ plain command workingDir).trans Kubernetes.pods_recognizes_iff,
    (Listing.accepts_iff _ plain command workingDir).trans Kubernetes.deployments_recognizes_iff,
    StatusCommand.accepts_iff plain command workingDir⟩

/-- A namespace behind the kind of objects, or a path behind the command, does not matter. -/
theorem commands_recognized_plural :
    (Kubernetes.pods.factory {}).accepts "kubectl get pods -n prod" "/w" = .ok true ∧
      Text.RunBehind StatusCommand.gitPhrase isWordChar "git status src".toList "status".toList ∧
      (WorkTree.factory {}).accepts "git status src" "/w" = .ok true := by
  -- The kind is in the plural, and the word ends with a blank.
  have plain : ({} : MatcherSettings).aliases = [] := rfl
  obtain ⟨pods, -, -⟩ := commands_recognized plain "kubectl get pods -n prod" "/w"
  obtain ⟨-, -, status⟩ := commands_recognized plain "git status src" "/w"
  have kind : Text.RunBehind Kubernetes.getPhrase Char.isAlpha
      "kubectl get pods -n prod".toList "pods".toList :=
    Text.runBehind_of_all " -n prod".toList (by decide) (by decide) (by decide)
  have name : Text.RunBehind StatusCommand.gitPhrase isWordChar "git status src".toList
      "status".toList :=
    Text.runBehind_of_all " src".toList (by decide) (by decide) (by decide)
  exact ⟨pods.mpr ⟨_, kind, by decide⟩, name, status.mpr ⟨name, by decide, by decide⟩⟩

/-- A listing of disruption budgets is taken for one of pods and offers to delete pods. -/
theorem budgets_taken_for_pods :
    let command := "kubectl get poddisruptionbudgets"
    let start := Tracker.ofSettings (Registry.builtins {}).1 {}
    let operations : List Operation :=
      [.begin { command, workingDir := "/w", server := "srv-1", terminal := "t1", host := "h"
                exitCode := some 0 },
        .pushRow ⟨1⟩ "NAME      MIN AVAILABLE   AGE" false,
        .pushRow ⟨1⟩ "web-pdb   1               3d" false, .finish ⟨1⟩ 0 2]
    let site : Site :=
      { command, server := "srv-1", terminal := "t1", host := "h", baseDir := "/w/" }
    (Kubernetes.pods.factory {}).accepts command "/w" = .ok true ∧
      (∀ kind, Text.RunBehind Kubernetes.getPhrase Char.isAlpha command.toList kind →
        kind ≠ "pod".toList ∧ kind ≠ "pods".toList) ∧
      (start.course operations).tracker.table.regions.map (·.metadata) =
        [Kubernetes.describePod site "web-pdb"] := by
  -- The kind is read up to its end, where it is neither of the two that the listing is about.
  intro command start operations site
  refine ⟨by decide, fun kind behind => ?_, by decide +kernel⟩
  have whole : Text.RunBehind Kubernetes.getPhrase Char.isAlpha command.toList
      "poddisruptionbudgets".toList :=
    Text.runBehind_of_all [] (by decide) (by decide) (by decide)
  obtain rfl := behind.unique whole
  decide

end Annotator
