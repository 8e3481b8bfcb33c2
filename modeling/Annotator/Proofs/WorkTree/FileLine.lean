import Annotator.Proofs.Text.Runs
import Annotator.WorkTree.FileLine

/-! The names that are read from file lines are those that the grammar of these lines allows. -/

namespace Annotator

namespace FileLine

/-- A word is nonempty and has no white space. -/
def IsWord (text : List Char) : Prop :=
  -- Any other character may occur in it.
  text ≠ [] ∧ ∀ c ∈ text, isBlank c = false

/-- In front of a file name there may be a former one and an arrow. -/
inductive IsFormer : List Char → Prop
  /-- The file was not renamed. -/
  | none : IsFormer []
  /-- The former name is a word. -/
  | renamed {old : List Char} (word : IsWord old) : IsFormer (old ++ " -> ".toList)

/-- Behind the indentation there may be a status and a gap. -/
inductive IsStatus : List Char → Prop
  /-- Only a name follows. -/
  | none : IsStatus []
  /-- A colon ends the word characters and spaces of it, and a former name may follow the gap. -/
  | given {status former : List Char} (nonempty : status ≠ [])
    (chars : ∀ c ∈ status, isWordChar c = true ∨ c = ' ') {gap : Nat} (wide : 3 ≤ gap)
    (renamed : IsFormer former) :
    IsStatus (status ++ ':' :: (List.replicate gap ' ' ++ former))

/-- A file line is an indentation, perhaps a status, and a name up to its end. -/
def Reads (line name : List Char) : Prop :=
  -- The indentation is eight spaces wide.
  ∃ status, IsStatus status ∧ IsWord name ∧ line = List.replicate 8 ' ' ++ (status ++ name)

/-- What is read as a status consists of word characters and spaces. -/
theorem isStatusChar_iff {c : Char} : isStatusChar c = true ↔ isWordChar c = true ∨ c = ' ' := by
  -- The two tests are made in one expression.
  simp [isStatusChar]

/-- No word begins with a space. -/
theorem IsWord.head_ne_space {text : List Char} (word : IsWord text) :
    ∀ c ∈ text.head?, (c == ' ') = false := by
  -- A word holds no blanks.
  intro c first
  rw [beq_eq_false_iff_ne]
  rintro rfl
  have blank := word.2 ' ' (List.mem_of_mem_head? first)
  exact absurd blank (by decide)

/-- The name of a text that is nothing but a name is that text. -/
theorem wholeName?_eq_some_iff {text name : List Char} :
    wholeName? text = some name ↔ IsWord name ∧ text = name := by
  -- The text is given back if it is a word.
  have word : (text.isEmpty || text.any isBlank) = false ↔ IsWord text := by
    simp [IsWord]
  unfold wholeName?
  cases bad : text.isEmpty || text.any isBlank with
  | true =>
    have never : ¬ IsWord text := fun good => by simp [word.mpr good] at bad
    simp only [if_true, reduceCtorEq, false_iff, not_and]
    rintro good rfl
    exact never good
  | false =>
    simp only [Bool.false_eq_true, if_false, Option.some.injEq]
    constructor
    · rintro rfl
      exact ⟨word.mp bad, rfl⟩
    · exact And.right

/-- A name is read behind a former one and an arrow, or where the text is nothing but a name. -/
theorem renamedName?_eq_some_iff {text name : List Char} :
    renamedName? text = some name ↔ ∃ former, IsFormer former ∧ IsWord name ∧
      text = former ++ name := by
  -- The first word is a run without blanks, with nothing or an arrow behind it.
  constructor
  · intro found
    obtain ⟨run, rest, whole, inside, _, taken, left⟩ :=
      Text.exists_run (fun c => !isBlank c) text
    unfold renamedName? at found
    rw [taken, left] at found
    dsimp only at found
    split at found
    · cases found
    · rename_i nonempty
      have word : IsWord run :=
        ⟨by simpa using nonempty, fun c member => by simpa using inside c member⟩
      split at found
      · rename_i bare
        cases found
        exact ⟨[], .none, word, by rw [whole, List.isEmpty_iff.mp bare, List.append_nil]; rfl⟩
      · split at found
        · rename_i arrow
          obtain ⟨behind, rfl⟩ := List.isPrefixOf_iff_prefix.mp arrow
          obtain ⟨good, rfl⟩ := wholeName?_eq_some_iff.mp found
          exact ⟨_, .renamed word, good, by rw [whole, List.append_assoc]; rfl⟩
        · cases found
  · rintro ⟨former, renamed, word, rfl⟩
    unfold renamedName?
    cases renamed with
    | none =>
      -- The run of the name goes on to the end of the text.
      have ends : ∀ c ∈ ([] : List Char).head?, (!isBlank c) = false := by simp
      obtain ⟨taken, left⟩ := Text.run_append (fun c => !isBlank c)
        (fun c member => by simpa using word.2 c member) ends
      rw [List.append_nil] at taken left
      rw [List.nil_append, taken, left]
      simp [word.1]
    | @renamed old former =>
      -- The run of the former name ends at the arrow.
      have ends : ∀ c ∈ (" -> ".toList ++ name).head?, (!isBlank c) = false := by
        rintro c ⟨⟩
        decide
      obtain ⟨taken, left⟩ := Text.run_append (fun c => !isBlank c)
        (fun c member => by simpa using former.2 c member) ends
      rw [List.append_assoc, taken, left]
      have arrow : Text.startsWith " -> ".toList (" -> ".toList ++ name) = true :=
        List.isPrefixOf_iff_prefix.mpr (List.prefix_append _ _)
      have behind : (" -> ".toList ++ name).drop 4 = name := rfl
      simp only [arrow, behind, if_true, wholeName?_eq_some_iff.mpr ⟨word, rfl⟩]
      simp [former.1]

/-- What stands behind a gap does not go on with it. -/
theorem head_ne_space {former name : List Char} (renamed : IsFormer former) (word : IsWord name) :
    ∀ c ∈ (former ++ name).head?, (c == ' ') = false := by
  -- The text begins with one of the two names, and names have no blanks.
  cases renamed with
  | none => exact word.head_ne_space
  | renamed old =>
    -- A former name is a word as well.
    obtain ⟨c, rest, rfl⟩ := List.exists_cons_of_ne_nil old.1
    rintro first ⟨⟩
    exact old.head_ne_space c rfl

/-- A name is read behind a status, its colon and a gap. -/
theorem statusName?_eq_some_iff {text name : List Char} :
    statusName? text = some name ↔ ∃ status, IsStatus status ∧ status ≠ [] ∧ IsWord name ∧
      text = status ++ name := by
  -- The status is a run of its characters, with a colon and a gap behind it.
  constructor
  · intro found
    obtain ⟨run, rest, whole, inside, _, taken, left⟩ := Text.exists_run isStatusChar text
    unfold statusName? at found
    rw [taken, left] at found
    dsimp only at found
    split at found
    · rename_i both
      obtain ⟨nonempty, colon⟩ := Bool.and_eq_true_iff.mp both
      obtain ⟨behind, rfl⟩ := List.isPrefixOf_iff_prefix.mp colon
      -- The gap goes on behind the three spaces that were asked for.
      obtain ⟨more, later, same, spaces, _, _, dropped⟩ := Text.exists_run (· == ' ') behind
      have fourth : (":   ".toList ++ behind).drop 4 = behind := rfl
      rw [fourth, dropped] at found
      obtain ⟨former, renamed, word, rfl⟩ := renamedName?_eq_some_iff.mp found
      have gap : more = List.replicate more.length ' ' :=
        List.eq_replicate_of_mem fun c member => by simpa using spaces c member
      have chars := fun c member => isStatusChar_iff.mp (inside c member)
      refine ⟨_, .given (by simpa using nonempty) chars (Nat.le_add_left 3 more.length) renamed,
        by simp, word, ?_⟩
      rw [whole, same, Nat.add_comm, ← List.replicate_append_replicate, ← gap]
      simp
    · cases found
  · rintro ⟨_, status, given, word, rfl⟩
    cases status with
    | none => exact absurd rfl given
    | @given status former nonempty chars gap wide renamed =>
      obtain ⟨more, rfl⟩ := Nat.exists_eq_add_of_le wide
      have ends : ∀ c ∈ (':' :: (List.replicate (3 + more) ' ' ++ former) ++ name).head?,
          isStatusChar c = false := by
        rintro c ⟨⟩
        decide
      have inside : ∀ c ∈ status, isStatusChar c = true :=
        fun c member => isStatusChar_iff.mpr (chars c member)
      obtain ⟨taken, left⟩ := Text.run_append isStatusChar inside ends
      unfold statusName?
      rw [List.append_assoc, taken, left]
      -- The gap is passed over, however wide it is, and nothing else.
      have split : ':' :: (List.replicate (3 + more) ' ' ++ former) ++ name =
          ":   ".toList ++ (List.replicate more ' ' ++ (former ++ name)) := by
        rw [← List.replicate_append_replicate]
        simp
      have colon : Text.startsWith ":   ".toList
          (':' :: (List.replicate (3 + more) ' ' ++ former) ++ name) = true := by
        rw [split]
        exact List.isPrefixOf_iff_prefix.mpr (List.prefix_append _ _)
      have behind : (':' :: (List.replicate (3 + more) ' ' ++ former) ++ name).drop 4 =
          List.replicate more ' ' ++ (former ++ name) := by
        rw [split]
        rfl
      have spaces : ∀ c ∈ List.replicate more ' ', (c == ' ') = true :=
        fun c member => by simpa using List.eq_of_mem_replicate member
      obtain ⟨_, dropped⟩ := Text.run_append (· == ' ') spaces (head_ne_space renamed word)
      dsimp only
      rw [colon, behind, dropped, renamedName?_eq_some_iff.mpr ⟨former, renamed, word, rfl⟩]
      simp [nonempty]

/-- Wherever a status stands, the text is more than a name. -/
theorem wholeName?_status {status name : List Char} (given : IsStatus status)
    (nonempty : status ≠ []) : wholeName? (status ++ name) = none := by
  -- A status that is given has a gap behind its colon.
  cases given with
  | none => exact absurd rfl nonempty
  | @given words former _ _ gap wide _ =>
    rw [Option.eq_none_iff_forall_ne_some]
    intro other found
    -- The gap is no part of a word.
    obtain ⟨word, rfl⟩ := wholeName?_eq_some_iff.mp found
    have space : ' ' ∈ List.replicate gap ' ' := List.mem_replicate.mpr ⟨by omega, rfl⟩
    have blank := word.2 ' ' (by simp [space])
    exact absurd blank (by decide)

/-- The names that are read are those that the grammar allows. -/
theorem name?_eq_some_iff {line name : List Char} :
    name? line = some name ↔ Reads line name := by
  -- The name stands alone behind the indentation, or behind a status.
  constructor
  · intro found
    unfold name? at found
    split at found
    · rename_i indented
      -- The indentation takes eight bytes.
      obtain ⟨text, rfl⟩ := List.isPrefixOf_iff_prefix.mp indented
      have behind : ("        ".toList ++ text).drop 8 = text := rfl
      rw [behind] at found
      split at found
      · rename_i whole
        cases found
        obtain ⟨word, rfl⟩ := wholeName?_eq_some_iff.mp whole
        exact ⟨[], .none, word, rfl⟩
      · obtain ⟨status, given, _, word, rfl⟩ := statusName?_eq_some_iff.mp found
        exact ⟨status, given, word, rfl⟩
    · cases found
  · rintro ⟨status, given, word, rfl⟩
    unfold name?
    have indented : Text.startsWith "        ".toList
        (List.replicate 8 ' ' ++ (status ++ name)) = true :=
      List.isPrefixOf_iff_prefix.mpr (List.prefix_append _ _)
    have behind : (List.replicate 8 ' ' ++ (status ++ name)).drop 8 = status ++ name := rfl
    rw [if_pos indented, behind]
    by_cases bare : status = []
    · rw [bare, List.nil_append, wholeName?_eq_some_iff.mpr ⟨word, rfl⟩]
    · rw [wholeName?_status given bare]
      exact statusName?_eq_some_iff.mpr ⟨status, given, bare, word, rfl⟩

/-- The arrow is no part of a name, and neither is the former one. -/
example : name? "        renamed:    a.txt -> b.txt".toList = some "b.txt".toList := by decide

/-- A word behind a blank is the final word part of its text. -/
theorem lastRun_append {front word : List Char} {c : Char} (blank : isBlank c = true)
    (nonblank : ∀ d ∈ word, isBlank d = false) :
    Text.lastRun (front ++ c :: word) = word := by
  -- Seen from the back, the word comes first and the blank ends it.
  have ends : ∀ d ∈ (c :: front.reverse).head?, (!isBlank d) = false := by
    rintro d ⟨⟩
    simp [blank]
  obtain ⟨taken, _⟩ := Text.run_append (fun d => !isBlank d)
    (fun d member => by simpa using nonblank d (List.mem_reverse.mp member)) ends
  rw [Text.lastRun, List.reverse_append, List.reverse_cons, List.append_assoc,
    List.singleton_append, taken, List.reverse_reverse]

/-- What stands in front of a file name ends in a space. -/
theorem exists_space {status : List Char} (given : IsStatus status) :
    ∃ front, List.replicate 8 ' ' ++ status = front ++ [' '] := by
  -- The indentation, the gap and the arrow each end with a space.
  cases given with
  | none => exact ⟨List.replicate 7 ' ', rfl⟩
  | @given words former _ _ gap wide renamed =>
    cases renamed with
    | none =>
      obtain ⟨more, rfl⟩ := Nat.exists_eq_add_of_le wide
      have last : List.replicate (3 + more) ' ' = List.replicate (2 + more) ' ' ++ [' '] := by
        rw [show 3 + more = 2 + more + 1 by omega, List.replicate_succ']
      exact ⟨List.replicate 8 ' ' ++ words ++ ':' :: List.replicate (2 + more) ' ', by simp [last]⟩
    | @renamed old word =>
      exact ⟨List.replicate 8 ' ' ++ words ++
        ':' :: (List.replicate gap ' ' ++ old ++ " ->".toList), by simp⟩

/-- The name in a file line is its final word part. -/
theorem Reads.lastRun {line name : List Char} (reads : Reads line name) :
    Text.lastRun line = name := by
  -- A space stands in front of the name, and none is in it.
  obtain ⟨status, given, word, rfl⟩ := reads
  obtain ⟨front, split⟩ := exists_space given
  rw [← List.append_assoc, split, List.append_assoc]
  exact lastRun_append (by decide) word.2

end FileLine

end Annotator
