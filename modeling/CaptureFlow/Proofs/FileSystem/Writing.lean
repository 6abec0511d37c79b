import CaptureFlow.FileSystem
/-! # Writing a database

A database is written to a file that is there or is new, in a directory that is there (`Takes`).
Then the file holds what was written, every directory remains one, and nothing else changes
(`Written`).  Which file the path of a database names depends on the directories only, so it is the
same before and after (`Written.databasePlace_iff`); a path that leads nowhere may only come to do
so for another reason.  `rowsAt` is what opening a database finds once its file is known. -/

namespace CaptureFlow

theorem bind_eq_ok_iff {ε α β : Type} {x : Except ε α} {f : α → Except ε β} {b : β} :
    x >>= f = .ok b ↔ ∃ a, x = .ok a ∧ f a = .ok b := by
  cases x with
  | error e => exact ⟨fun h => (by cases h), fun ⟨_, h, _⟩ => (by cases h)⟩
  | ok a => exact ⟨fun h => ⟨a, rfl, h⟩, fun ⟨_, h, h'⟩ => by cases h; exact h'⟩

namespace FileSystem

variable {fs fs' : FileSystem} {entries inner : Directory} {front rest names others : List String}
  {name path : String} {content : FileContent} {place last : Place}

/-! ### Finding -/

def child? (entries : Directory) (name : String) : Option FileNode :=
  (entries.find? fun entry => entry.1 = name).map (·.2)

/-- What is found below a node, which has to be a directory if there are names left. -/
def below : FileNode → List String → Option FileNode
  | .directory inner, names => find? inner names
  | .file content, [] => some (.file content)
  | .file _, _ :: _ => none

theorem find?_cons (entries : Directory) (name : String) (rest : List String) :
    find? entries (name :: rest) = (child? entries name).bind (below · rest) := by
  unfold find? child?
  cases (entries.find? fun entry => entry.1 = name).map (·.2) with
  | none => cases rest <;> rfl
  | some node => cases node <;> cases rest <;> rfl

theorem child?_insertRow (name other : String) (node : FileNode) (entries : Directory) :
    child? (Table.insertRow name node entries) other =
      if name = other then some node else child? entries other := by
  rw [child?, Table.find?_insertRow]
  split <;> rfl

theorem find?_append (found : find? entries front = some (.directory inner))
    (rest : List String) : find? entries (front ++ rest) = find? inner rest := by
  induction front generalizing entries with
  | nil =>
      obtain rfl := FileNode.directory.inj (Option.some.inj found)
      rfl
  | cons name front ih =>
      rw [List.cons_append, find?_cons]
      rw [find?_cons] at found
      obtain ⟨node, here, found⟩ := Option.bind_eq_some_iff.mp found
      rw [here]
      cases node with
      | directory between => exact ih found
      | file content => cases front <;> cases found

/-! ### Putting a file -/

/-- A file can be put at the end of these names: the directories on the way are there, and no
directory is in its place. -/
inductive Takes : Directory → List String → Prop
  | here {entries : Directory} {name : String}
      (free : ∀ inner, child? entries name ≠ some (.directory inner)) : Takes entries [name]
  | within {entries inner : Directory} {name : String} {rest : List String}
      (found : child? entries name = some (.directory inner)) (takes : Takes inner rest) :
      Takes entries (name :: rest)

theorem takes_append (found : find? entries front = some (.directory inner))
    (takes : Takes inner rest) : Takes entries (front ++ rest) := by
  induction front generalizing entries with
  | nil =>
      obtain rfl := FileNode.directory.inj (Option.some.inj found)
      exact takes
  | cons name front ih =>
      rw [find?_cons] at found
      obtain ⟨node, here, found⟩ := Option.bind_eq_some_iff.mp found
      cases node with
      | directory between => exact .within here (ih found)
      | file content => cases front <;> cases found

theorem put_below {node : FileNode} (found : child? entries name = some (.directory inner))
    (takes : Takes inner rest) :
    put node (name :: rest) entries =
      Table.insertRow name (.directory (put node rest inner)) entries := by
  obtain ⟨row, first, same⟩ := Option.map_eq_some_iff.mp found
  obtain ⟨label, node'⟩ := row
  obtain rfl : node' = .directory inner := same
  cases takes <;> simp only [put, first]

/-- The same node, or two directories. -/
inductive Alike : Option FileNode → Option FileNode → Prop
  | same (node : Option FileNode) : Alike node node
  | directories (inner inner' : Directory) :
      Alike (some (.directory inner)) (some (.directory inner'))

theorem Takes.find?_put (h : Takes entries names) (content : FileContent) :
    find? (put (.file content) names entries) names = some (.file content) := by
  induction h with
  | here =>
      rw [put, find?_cons, child?_insertRow, if_pos rfl]
      rfl
  | within found takes ih =>
      rw [put_below found takes, find?_cons, child?_insertRow, if_pos rfl]
      exact ih

theorem Takes.find?_put_other (h : Takes entries names) (content : FileContent)
    (other : others ≠ names) :
    Alike (find? entries others) (find? (put (.file content) names entries) others) := by
  induction h generalizing others with
  | @here entries name free =>
      cases others with
      | nil => exact .directories ..
      | cons label rest =>
          rw [put, find?_cons, find?_cons, child?_insertRow]
          split
          case isFalse => exact .same _
          case isTrue same =>
            subst same
            -- Nothing is below the new file, and nothing was below what is in its place.
            cases rest with
            | nil => exact absurd rfl other
            | cons next rest =>
                cases here : child? entries name with
                | none => exact .same none
                | some node =>
                    cases node with
                    | file content' => exact .same none
                    | directory inner => exact absurd here (free inner)
  | @within entries inner name rest found takes ih =>
      rw [put_below found takes]
      cases others with
      | nil => exact .directories ..
      | cons label others =>
          rw [find?_cons, find?_cons, child?_insertRow]
          split
          case isFalse => exact .same _
          case isTrue same =>
            subst same
            rw [found]
            exact ih fun same => other (congrArg _ same)

/-! ### File systems that differ in a file -/

/-- `fs'` is `fs` with a file written, whose name comes first in `names`. -/
structure Written (fs fs' : FileSystem) (names : List String) (content : FileContent) : Prop where
  free : fs.isDirectory (.inside names) = false
  here : find? fs'.entries names.reverse = some (.file content)
  others : ∀ others, others ≠ names →
    Alike (find? fs.entries others.reverse) (find? fs'.entries others.reverse)

theorem isDirectory_congr_of_alike {others : List String}
    (alike : Alike (find? fs.entries others.reverse) (find? fs'.entries others.reverse)) :
    fs'.isDirectory (.inside others) = fs.isDirectory (.inside others) := by
  simp only [isDirectory]
  generalize find? fs.entries others.reverse = before at alike ⊢
  generalize find? fs'.entries others.reverse = after at alike ⊢
  cases alike <;> rfl

theorem Written.isDirectory (h : Written fs fs' names content) (place : Place) :
    fs'.isDirectory place = fs.isDirectory place := by
  cases place with
  | outside => rfl
  | inside others =>
      by_cases same : others = names
      · subst same
        rw [h.free]
        simp only [FileSystem.isDirectory, h.here]
      · exact isDirectory_congr_of_alike (h.others others same)

/-! ### Walking through directories -/

theorem isDirectory_of_enter {next : Place} (entered : fs.enter place name = .ok next) :
    fs.isDirectory place = true := by
  cases h : fs.isDirectory place with
  | true => rfl
  | false =>
      simp only [enter, h, Bool.not_false, if_true] at entered
      cases entered

theorem present_iff {found : Place} :
    fs.present place = .ok found ↔
      found = place ∧ ∀ names, place = .inside names → find? fs.entries names.reverse ≠ none := by
  cases place with
  | outside => simp [present, eq_comm]
  | inside names =>
      simp only [present]
      cases here : find? fs.entries names.reverse <;> simp [here, eq_comm]

theorem present_of_isDirectory (h : fs.isDirectory place = true) :
    fs.present place = .ok place := by
  refine present_iff.mpr ⟨rfl, fun names here missing => ?_⟩
  subst here
  simp only [isDirectory, missing] at h
  cases h

theorem isDirectory_of_walk (walked : fs.walk place names = .ok last)
    (ends : fs.isDirectory last = true) : fs.isDirectory place = true := by
  cases names with
  | nil =>
      obtain rfl := Except.ok.inj walked
      exact ends
  | cons name rest =>
      obtain ⟨next, entered, -⟩ := bind_eq_ok_iff.mp walked
      exact isDirectory_of_enter entered

section SameDirectories

variable (same : ∀ place, fs'.isDirectory place = fs.isDirectory place)
include same

theorem enter_congr (place : Place) (name : String) :
    fs'.enter place name = fs.enter place name := by
  simp only [enter, same place]

/-- The way to a directory leads through directories only. -/
theorem walk_congr (ends : fs.isDirectory last = true) (walked : fs.walk place names = .ok last) :
    fs'.walk place names = .ok last := by
  induction names generalizing place with
  | nil => exact walked
  | cons name rest ih =>
      obtain ⟨next, entered, went⟩ := bind_eq_ok_iff.mp walked
      obtain ⟨_, found, walked⟩ := bind_eq_ok_iff.mp went
      obtain ⟨rfl, -⟩ := present_iff.mp found
      have through := isDirectory_of_walk walked ends
      rw [walk, enter_congr same]
      refine bind_eq_ok_iff.mpr ⟨_, entered, bind_eq_ok_iff.mpr ⟨_, ?_, ih walked⟩⟩
      exact present_of_isDirectory ((same _).trans through)

theorem databasePlace_congr (placed : fs.databasePlace path = .ok names) :
    fs'.databasePlace path = .ok names := by
  obtain ⟨⟨start, texts⟩, split, placed⟩ := bind_eq_ok_iff.mp placed
  refine bind_eq_ok_iff.mpr ⟨_, split, ?_⟩
  dsimp only at placed ⊢
  split at placed
  · cases placed
  · obtain ⟨place, walked, placed⟩ := bind_eq_ok_iff.mp placed
    cases ends : fs.isDirectory place with
    | false =>
        rw [ends] at placed
        cases placed
    | true =>
        refine bind_eq_ok_iff.mpr ⟨place, walk_congr same ends walked, ?_⟩
        rw [same, enter_congr same]
        exact placed

end SameDirectories

/-! ### The file of a database -/

/-- The rows of the database whose file has the given names, the last of them first. -/
def rowsAt (fs : FileSystem) (names : List String) : Except DatabaseFault (Table Bytes) :=
  match find? fs.entries names.reverse with
  | none => .ok .empty
  | some (.file (.bytes [])) => .ok .empty
  | some (.file (.bytes _)) => .error .badMagic
  | some (.file (.database table)) => .ok table
  | some (.directory _) => .error (.path .isDirectory)

theorem openDatabase_eq (placed : fs.databasePlace path = .ok names) :
    fs.openDatabase path = fs.rowsAt names := by
  rw [openDatabase, placed]
  rfl

theorem openDatabase_eq_ok_iff {rows : Table Bytes} :
    fs.openDatabase path = .ok rows ↔
      ∃ names, fs.databasePlace path = .ok names ∧ fs.rowsAt names = .ok rows := by
  cases placed : fs.databasePlace path with
  | error fault => simp [openDatabase, placed]
  | ok names => simp [openDatabase_eq placed]

theorem not_isDirectory_of_rowsAt {rows : Table Bytes} (found : fs.rowsAt names = .ok rows) :
    fs.isDirectory (.inside names) = false := by
  unfold rowsAt at found
  unfold isDirectory
  split at found <;> simp_all

theorem eq_cons_of_enter (named : ¬(name = "" ∨ name = ".") ∧ name ≠ "..")
    (entered : fs.enter place name = .ok (.inside names)) :
    ∃ above, place = .inside above ∧ names = name :: above := by
  have inside := isDirectory_of_enter entered
  simp only [enter, inside, named, Bool.not_true, Bool.false_eq_true, if_false] at entered
  split at entered
  · cases entered
  · cases place with
    | outside => cases entered
    | inside above => exact ⟨above, rfl, (Place.inside.inj (Except.ok.inj entered)).symm⟩

theorem parent_of_databasePlace (placed : fs.databasePlace path = .ok names) :
    ∃ last above, names = last :: above ∧ fs.isDirectory (.inside above) = true := by
  obtain ⟨⟨start, texts⟩, split, placed⟩ := bind_eq_ok_iff.mp placed
  dsimp only at placed
  split at placed
  · cases placed
  case h_2 last above stripped =>
    have named : last ≠ "" := by
      have first := List.head?_dropWhile_not (· == "") texts.reverse
      rw [stripped] at first
      simpa using first
    obtain ⟨place, walked, placed⟩ := bind_eq_ok_iff.mp placed
    split at placed
    · cases placed
    · split at placed
      · cases placed
      case isFalse dots =>
        obtain ⟨next, entered, placed⟩ := bind_eq_ok_iff.mp placed
        cases next with
        | outside => cases placed
        | inside names' =>
            obtain rfl := Except.ok.inj placed
            obtain ⟨above, rfl, rfl⟩ := eq_cons_of_enter (by grind) entered
            exact ⟨last, above, rfl, isDirectory_of_enter entered⟩

/-- A database that can be opened can be written. -/
theorem takes_of_openDatabase {rows : Table Bytes} (placed : fs.databasePlace path = .ok names)
    (found : fs.rowsAt names = .ok rows) : Takes fs.entries names.reverse := by
  have free := not_isDirectory_of_rowsAt found
  obtain ⟨last, above, rfl, parent⟩ := parent_of_databasePlace placed
  rw [List.reverse_cons]
  simp only [isDirectory] at parent free
  split at parent
  case h_2 => cases parent
  case h_1 inner there =>
    refine takes_append there (.here fun inner' here => ?_)
    rw [List.reverse_cons, find?_append there, find?_cons, here] at free
    cases free

/-! ### Saving a database -/

theorem written_saveDatabase {rows : Table Bytes} (placed : fs.databasePlace path = .ok names)
    (found : fs.rowsAt names = .ok rows) (table : Table Bytes) :
    Written fs (fs.saveDatabase path table) names (.database table) := by
  have takes := takes_of_openDatabase placed found
  have saved : fs.saveDatabase path table =
      ⟨put (.file (.database table)) names.reverse fs.entries⟩ := by
    rw [saveDatabase, placed]
  rw [saved]
  refine ⟨not_isDirectory_of_rowsAt found, takes.find?_put _, fun others other => ?_⟩
  exact takes.find?_put_other _ fun same => other (List.reverse_inj.mp same)

theorem Written.databasePlace_iff (h : Written fs fs' names content) {others : List String} :
    fs'.databasePlace path = .ok others ↔ fs.databasePlace path = .ok others :=
  ⟨databasePlace_congr fun place => (h.isDirectory place).symm, databasePlace_congr h.isDirectory⟩

theorem Written.rowsAt_eq {table : Table Bytes} (h : Written fs fs' names (.database table)) :
    fs'.rowsAt names = .ok table := by
  simp only [rowsAt, h.here]

theorem Written.rowsAt_other (h : Written fs fs' names content) {others : List String}
    (other : others ≠ names) : fs'.rowsAt others = fs.rowsAt others := by
  have alike := h.others others other
  simp only [rowsAt]
  generalize find? fs.entries others.reverse = before at alike ⊢
  generalize find? fs'.entries others.reverse = after at alike ⊢
  cases alike <;> rfl

end FileSystem

end CaptureFlow
