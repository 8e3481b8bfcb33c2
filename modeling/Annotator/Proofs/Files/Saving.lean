import Annotator.Files.FileTree
import Annotator.Proofs.Text.Runs
import Mathlib.Data.List.Basic

/-! A file that was saved is read back from the same path, whatever way the path takes. -/

namespace Annotator

namespace Path

/-- The last of the names in a path is its name. -/
theorem getLast?_names (path : String) : (names path).getLast? = some (name path) := by
  -- The last name is the run behind the last slash, read from the back.
  obtain ⟨run, rest, split, inside, ends, taken, -⟩ :=
    Text.exists_run (· != '/') path.toList.reverse
  have whole : path.toList = rest.reverse ++ run.reverse := by
    rw [← List.reverse_append, ← split, List.reverse_reverse]
  have unbroken : (run.reverse).splitOn '/' = [run.reverse] := by
    refine List.splitOnP_eq_singleton fun c member => ?_
    simpa using inside c (List.mem_reverse.mp member)
  have last : (path.toList.splitOn '/').getLast? = some run.reverse := by
    cases rest with
    | nil => rw [whole, List.reverse_nil, List.nil_append, unbroken, List.getLast?_singleton]
    | cons slash rest =>
      obtain rfl : slash = '/' := by simpa using ends slash rfl
      have cut : path.toList.splitOn '/' =
          rest.reverse.splitOn '/' ++ run.reverse.splitOn '/' := by
        rw [whole, List.reverse_cons, List.append_assoc, List.singleton_append]
        exact List.splitOnP_append_cons _ _ (by simp)
      rw [cut, unbroken, List.getLast?_concat]
  rw [names, List.getLast?_map, last, name, taken, Option.map_some]

end Path

namespace FileTree

variable {tree opened later : FileTree} {place next directory : Place} {name path : String}
  {content : ByteArray}

/-- The names behind the start of a path end in its name, unless there are none at all. -/
theorem start_names (path : String) :
    (start path).2 = (start path).2.dropLast ++ [Path.name path] ∨ Path.name path = "" := by
  -- A path from the root has an empty name in front, which is dropped.
  have last := Path.getLast?_names path
  unfold start
  split
  · rename_i rest named
    rw [named] at last
    cases rest with
    | nil => exact .inr (by simpa using last.symm)
    | cons first rest =>
      rw [List.getLast?_cons_cons] at last
      exact .inl (List.dropLast_append_getLast? _ last).symm
  · exact .inl (List.dropLast_append_getLast? _ last).symm

/-- What was a directory is one later, and the working directory lies as deep. -/
structure KeepsWays (tree later : FileTree) : Prop where
  /-- The working directory has not moved. -/
  depth : later.depth = tree.depth
  /-- Directories stay. -/
  stays : ∀ place, tree.isDirectory place = true → later.isDirectory place = true

/-- A tree keeps its own ways. -/
theorem KeepsWays.refl (tree : FileTree) : KeepsWays tree tree :=
  -- Nothing has changed.
  ⟨rfl, fun _ stays => stays⟩

/-- Ways that are kept twice are kept. -/
theorem KeepsWays.trans (first : KeepsWays tree opened) (second : KeepsWays opened later) :
    KeepsWays tree later :=
  -- What was a directory at first is one in between, and so it is one later.
  ⟨second.depth.trans first.depth, fun place was => second.stays place (first.stays place was)⟩

/-- Where a name leads, or may be made to lead, from a directory. -/
inductive Leads (tree : FileTree) (place : Place) : String → Place → Prop
  /-- Some names lead nowhere else. -/
  | nowhere {name : String} (idle : name = "" ∨ name = ".") : Leads tree place name place
  /-- Two dots lead upwards. -/
  | upwards : Leads tree place ".." (tree.above place)
  /-- All others name a place in the directory. -/
  | inside {name : String} (proper : name ≠ "" ∧ name ≠ "." ∧ name ≠ "..")
      (short : name.utf8ByteSize ≤ Path.nameLimit) : Leads tree place name (place ++ [name])

/-- A name that has a place leads there from a directory. -/
theorem leads_of_placeOf (found : tree.placeOf place name = .ok next) :
    tree.isDirectory place = true ∧ tree.Leads place name next := by
  -- The branches for names without a place of their own come first.
  unfold placeOf follow at found
  by_cases isDir : tree.isDirectory place = true
  · simp only [isDir, Bool.not_true, Bool.false_eq_true, if_false, beq_iff_eq, Bool.or_eq_true]
      at found
    refine ⟨isDir, ?_⟩
    by_cases idle : name = "" ∨ name = "."
    · rw [if_pos idle] at found
      obtain rfl : place = next := Except.ok.inj found
      exact .nowhere idle
    by_cases up : name = ".."
    · rw [if_neg idle, if_pos up] at found
      obtain rfl : tree.above place = next := Except.ok.inj found
      exact up ▸ .upwards
    by_cases long : Path.nameLimit < name.utf8ByteSize
    · rw [if_neg idle, if_neg up, if_pos long] at found
      cases found
    -- It makes no difference whether anything has the name already.
    have there : place ++ [name] = next := by
      rw [if_neg idle, if_neg up, if_neg long] at found
      split_ifs at found <;> exact Except.ok.inj found
    rw [not_or] at idle
    exact there ▸ .inside ⟨idle.1, idle.2, up⟩ (Nat.le_of_not_lt long)
  · simp [isDir] at found

/-- A name leads to the same place once something is there. -/
theorem follow_of_leads (leads : tree.Leads place name next) (depth : later.depth = tree.depth)
    (isDir : later.isDirectory place = true)
    (present : (later.file? next).isSome = true ∨ later.isDirectory next = true) :
    later.follow place name = .ok next := by
  -- Following goes by the name, and asks only whether something is there.
  unfold follow
  cases leads with
  | nowhere idle => simp [isDir, idle]
  | upwards =>
    have same : later.above place = tree.above place := by simp only [above, depth]
    simp [isDir, same]
  | inside proper short => simp [isDir, proper, Nat.not_lt.mpr short, present]

/-- Making one directory after another makes the first of them, if it is missing, and goes on. -/
theorem makeDirectories_cons {made : Bool} {rest : List String}
    (done : tree.makeDirectories place made (name :: rest) = .ok (opened, directory)) :
    ∃ next between again, tree.isDirectory place = true ∧ tree.Leads place name next ∧
      KeepsWays tree between ∧ between.files = tree.files ∧
      between.isDirectory next = true ∧
      between.makeDirectories next again rest = .ok (opened, directory) := by
  -- The first directory is there already, or it is made, unless a file is in the way.
  rw [makeDirectories] at done
  cases found : tree.placeOf place name with
  | error error =>
    rw [found] at done
    cases done
  | ok next =>
    obtain ⟨isDir, leads⟩ := leads_of_placeOf found
    simp only [found] at done
    by_cases there : tree.isDirectory next = true
    · rw [if_pos there] at done
      exact ⟨next, tree, made, isDir, leads, .refl tree, rfl, there, done⟩
    by_cases taken : (tree.file? next).isSome = true
    · rw [if_neg there, if_pos taken] at done
      cases done
    rw [if_neg there, if_neg taken] at done
    refine ⟨next, { tree with directories := next :: tree.directories }, true, isDir, leads,
      ⟨rfl, fun other was => ?_⟩, rfl, ?_, done⟩
    · simp only [isDirectory, List.any_cons, Bool.or_eq_true] at was ⊢
      tauto
    · simp [isDirectory]

/-- Making directories takes nothing away. -/
theorem makeDirectories_keeps {made : Bool} {names : List String}
    (done : tree.makeDirectories place made names = .ok (opened, directory)) :
    KeepsWays tree opened ∧ opened.files = tree.files ∧
      (tree.isDirectory place = true → opened.isDirectory directory = true) := by
  -- Induction on the names: each step keeps what was there and goes on from a directory.
  induction names generalizing tree place made with
  | nil =>
    rw [makeDirectories] at done
    cases done
    exact ⟨.refl _, rfl, id⟩
  | cons name rest ih =>
    obtain ⟨next, between, again, -, -, keeps, files, isDir, more⟩ := makeDirectories_cons done
    obtain ⟨laterKeeps, laterFiles, laterDir⟩ := ih more
    exact ⟨keeps.trans laterKeeps, laterFiles.trans files, fun _ => laterDir isDir⟩

/-- The way to a directory that was made leads there, whatever was made by the way. -/
theorem foldlM_follow {made : Bool} {names : List String}
    (done : tree.makeDirectories place made (names.filter fun name => name != "" && name != ".") =
      .ok (opened, directory))
    (isDir : tree.isDirectory place = true) (keeps : KeepsWays opened later) :
    names.foldlM later.follow place = .ok directory := by
  -- Induction on the names, where the tree that is walked is a later one than those in between.
  induction names generalizing tree place made with
  | nil =>
    rw [List.filter_nil, makeDirectories] at done
    cases done
    rfl
  | cons name rest ih =>
    rw [List.foldlM_cons]
    by_cases proper : (name != "" && name != ".") = true
    · rw [List.filter_cons, if_pos proper] at done
      obtain ⟨next, between, again, -, leads, first, -, nextDir, more⟩ := makeDirectories_cons done
      -- What the later steps made does not close the way of this one.
      have all : KeepsWays between later := (makeDirectories_keeps more).1.trans keeps
      have next := follow_of_leads leads (first.trans all).depth ((first.trans all).stays _ isDir)
        (.inr (all.stays _ nextDir))
      rw [next]
      exact ih more nextDir
    · -- A name that leads nowhere else is passed over by the way.
      rw [List.filter_cons, if_neg proper] at done
      have idle : name = "" ∨ name = "." := by
        by_contra other
        rw [not_or] at other
        simp [other] at proper
      have isDirLater := ((makeDirectories_keeps done).1.trans keeps).stays _ isDir
      have stay : later.follow place name = .ok place := by simp [follow, isDirLater, idle]
      rw [stay]
      exact ih done isDir

/-- The way upwards from a directory leads to a directory. -/
theorem isDirectory_above (isDir : tree.isDirectory place = true) :
    tree.isDirectory (tree.above place) = true := by
  -- Above the root there is the root, and above the working directory its own directories.
  unfold above
  split_ifs with isRoot inside deep
  · simp [isDirectory]
  · -- A way through the place leads through the one above it before.
    have front : place.dropLast <+: place := List.dropLast_prefix place
    simp only [isDirectory, Bool.or_eq_true, List.any_eq_true, Bool.and_eq_true, bne_iff_ne,
      List.isPrefixOf_iff_prefix] at isDir ⊢
    rcases isDir with ((above | root) | ⟨other, member, through⟩) |
      ⟨entry, member, through, further⟩
    · simp [above] at inside
    · exact absurd (beq_iff_eq.mp root) isRoot
    · exact .inl (.inr ⟨other, member, front.trans through⟩)
    · refine .inr ⟨entry, member, front.trans through, fun same => further ?_⟩
      exact through.eq_of_length_le (by rw [← same, List.length_dropLast]; omega)
  · have above : Place.isAbove (".." :: place) = true := by simpa [Place.isAbove] using inside
    simp [isDirectory, above]
  · simp [isDirectory]

/-- A place that is no directory lies in the directory from which a name leads there. -/
theorem Leads.eq_concat (leads : tree.Leads place name next)
    (isDir : tree.isDirectory place = true) (free : tree.isDirectory next = false) :
    name ≠ "" ∧ next = place ++ [name] := by
  -- The other names lead to directories.
  cases leads with
  | nowhere idle => exact absurd isDir (by rw [free]; decide)
  | upwards => exact absurd (isDirectory_above isDir) (by rw [free]; decide)
  | inside proper short => exact ⟨proper.1, rfl⟩

/-- Saving succeeds only where both the draft and the file have a place of their own. -/
theorem save_eq_ok (saved : tree.save path content = .ok later) :
    path.utf8ByteSize ≤ Path.limit ∧ ∃ opened directory draft place,
      tree.openWay path = .ok (opened, directory) ∧
      opened.placeOf directory (Path.name (Path.draft path)) = .ok draft ∧
      opened.placeOf directory (Path.name path) = .ok place ∧
      opened.isDirectory draft = false ∧ opened.isDirectory place = false ∧
      later = (opened.without draft).put place content := by
  -- Each question that saving asks is answered before the next one is.
  unfold save at saved
  cases way : tree.openWay path with
  | error error => simp [way, bind, Except.bind] at saved
  | ok made =>
    obtain ⟨opened, directory⟩ := made
    simp only [way, bind, Except.bind] at saved
    split_ifs at saved with long
    cases draftAt : opened.placeOf directory (Path.name (Path.draft path)) with
    | error error => simp [draftAt] at saved
    | ok draft =>
      cases placeAt : opened.placeOf directory (Path.name path) with
      | error error => simp [draftAt, placeAt] at saved
      | ok place =>
        simp only [draftAt, placeAt] at saved
        split_ifs at saved with taken
        simp only [Bool.or_eq_true, decide_eq_true_eq, not_or, Nat.not_lt] at long
        rw [Bool.or_eq_true, not_or, Bool.not_eq_true, Bool.not_eq_true] at taken
        exact ⟨long.2, opened, directory, draft, place, rfl, draftAt, placeAt, taken.1, taken.2,
          (Except.ok.inj saved).symm⟩

/-- Putting a file in place of a draft in the same directory keeps every directory. -/
theorem keepsWays_put (tree : FileTree) (directory : Place) (draftName name : String)
    (content : ByteArray) :
    KeepsWays tree
      ((tree.without (directory ++ [draftName])).put (directory ++ [name]) content) := by
  -- Directories are known as such or lie on the way to an entry.
  refine ⟨rfl, fun other was => ?_⟩
  simp only [isDirectory, put, without, List.any_cons, Bool.or_eq_true, List.any_eq_true,
    Bool.and_eq_true, bne_iff_ne, List.isPrefixOf_iff_prefix, List.mem_filter] at was ⊢
  rcases was with known | ⟨entry, member, through, further⟩
  · exact .inl known
  -- A directory on the way to the draft or to the file is on the way to the file.
  have onTheWay {last : String} (same : entry.1 = directory ++ [last]) :
      other <+: directory ++ [name] ∧ other ≠ directory ++ [name] := by
    rw [same] at through further
    have front : other <+: directory := (List.prefix_concat_iff.mp through).resolve_left further
    refine ⟨front.trans (List.prefix_append _ _), fun long => ?_⟩
    have short := front.length_le
    rw [long, List.length_append, List.length_singleton] at short
    omega
  by_cases isDraft : entry.1 = directory ++ [draftName]
  · exact .inr (.inl (onTheWay isDraft))
  by_cases isFile : entry.1 = directory ++ [name]
  · exact .inr (.inl (onTheWay isFile))
  · exact .inr (.inr ⟨entry, ⟨⟨member, isDraft⟩, isFile⟩, through, further⟩)

/-- What was saved at a path is read from it. -/
theorem read_save (saved : tree.save path content = .ok later) :
    later.read path = .ok content := by
  -- The draft is made in a directory to which the same path still leads afterwards.
  obtain ⟨short, opened, directory, draft, place, way, draftAt, placeAt, draftFree, free, rfl⟩ :=
    save_eq_ok saved
  have started : tree.isDirectory (start path).1 = true := by
    unfold start
    split <;> simp [isDirectory, Place.workingDirectory, Place.isAbove]
  have made : tree.makeDirectories (start path).1 false
      ((start path).2.dropLast.filter fun name => name != "" && name != ".") =
        .ok (opened, directory) := by
    unfold openWay at way
    split at way
    · cases way
    · exact way
  have isDir : opened.isDirectory directory = true := (makeDirectories_keeps made).2.2 started
  -- The draft and the file lie side by side in the directory.
  obtain ⟨-, rfl⟩ := (leads_of_placeOf draftAt).2.eq_concat isDir draftFree
  have leads := (leads_of_placeOf placeAt).2
  obtain ⟨named, rfl⟩ := leads.eq_concat isDir free
  have keeps := keepsWays_put opened directory (Path.name (Path.draft path)) (Path.name path)
    content
  set written := (opened.without (directory ++ [Path.name (Path.draft path)])).put
    (directory ++ [Path.name path]) content with writtenEq
  have found : written.file? (directory ++ [Path.name path]) = some content := file?_put _ _ _
  have last : written.follow directory (Path.name path) = .ok (directory ++ [Path.name path]) :=
    follow_of_leads leads keeps.depth (keeps.stays _ isDir) (.inl (by rw [found]; rfl))
  have resolved : written.resolve path = .ok (directory ++ [Path.name path]) := by
    unfold resolve
    rw [if_neg (Nat.not_lt.mpr short)]
    show (start path).2.foldlM written.follow (start path).1 = _
    rw [(start_names path).resolve_right named, List.foldlM_append,
      foldlM_follow made started keeps]
    simp only [List.foldlM_cons, List.foldlM_nil, bind_pure]
    exact last
  simp only [read, resolved, found]

end FileTree

end Annotator
