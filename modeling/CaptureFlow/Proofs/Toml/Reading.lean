import Mathlib.Data.List.Nodup
import Mathlib.Data.Option.Basic
import CaptureFlow.Proofs.Toml.Tree
import CaptureFlow.Toml.Reader
/-! # Tables that are read

Whatever a text says, the table that is read from it has distinct keys, and so has every table
inside it (`keyed_of_read?`).  A table under construction has them from the start, because a new
entry is only added under a key that is not there yet (`update_cases`).  Inline tables are made in
the same way, so the values that a section assigns have distinct keys themselves. -/

namespace CaptureFlow.Toml

/-! ### Tables under construction -/

theorem finishEntries_eq_map : (entries : Entries) →
    finishEntries entries = entries.map fun entry => (entry.1, entry.2.finish)
  | [] => rfl
  | (_, _) :: rest => congrArg (_ :: ·) (finishEntries_eq_map rest)

theorem finishTables_eq_map : (elements : List Entries) →
    finishTables elements = elements.map fun entries => .table (finishEntries entries)
  | [] => rfl
  | _ :: rest => congrArg (_ :: ·) (finishTables_eq_map rest)

/-- What has been drafted so far has distinct keys. -/
def KeyedDraft (d : Draft) : Prop := Keyed d.finish

/-- What has been drafted so far of a table has distinct keys. -/
def KeyedEntries (entries : Entries) : Prop := Keyed (.table (finishEntries entries))

variable {entries entries' inner : Entries} {key : String} {d d' : Draft} {v : Value}

theorem keyedEntries_iff : KeyedEntries entries ↔
    (entries.map (·.1)).Nodup ∧ ∀ entry ∈ entries, KeyedDraft entry.2 := by
  rw [KeyedEntries, finishEntries_eq_map, keyed_table_iff, keys, List.map_map]
  exact and_congr_right fun _ => List.forall_mem_map

theorem keyedEntries_nil : KeyedEntries [] :=
  keyedEntries_iff.mpr ⟨List.nodup_nil, fun _ mem => nomatch mem⟩

theorem keyedDraft_tables_iff {elements : List Entries} :
    KeyedDraft (.tables elements) ↔ ∀ entries ∈ elements, KeyedEntries entries := by
  show Keyed (.array (finishTables elements).reverse) ↔ _
  simp [keyed_array_iff, finishTables_eq_map, KeyedEntries]

/-- An update adds an entry under a new key, or replaces what stands under an old one. -/
theorem update_cases {f : Option Draft → Option Draft}
    (updated : update key f entries = some entries') :
    (key ∉ entries.map (·.1) ∧ ∃ d, f none = some d ∧ entries' = entries ++ [(key, d)]) ∨
      ∃ before d d' after, entries = before ++ (key, d) :: after ∧ f (some d) = some d' ∧
        entries' = before ++ (key, d') :: after := by
  induction entries generalizing entries' with
  | nil =>
      obtain ⟨d, made, rfl⟩ := Option.map_eq_some_iff.mp updated
      exact .inl ⟨List.not_mem_nil, d, made, rfl⟩
  | cons entry rest ih =>
      obtain ⟨k, old⟩ := entry
      rw [update] at updated
      split at updated
      case isTrue same =>
        obtain ⟨d', made, rfl⟩ := Option.map_eq_some_iff.mp updated
        subst same
        exact .inr ⟨[], old, d', rest, rfl, made, rfl⟩
      case isFalse other =>
        obtain ⟨rest', inside, rfl⟩ := Option.map_eq_some_iff.mp updated
        rcases ih inside with ⟨fresh, d, made, rfl⟩ | ⟨before, d, d', after, rfl, made, rfl⟩
        · refine .inl ⟨?_, d, made, rfl⟩
          rw [List.map_cons, List.mem_cons, not_or]
          exact ⟨fun same => other same.symm, fresh⟩
        · exact .inr ⟨(k, old) :: before, d, d', after, rfl, made, rfl⟩

/-- An update keeps the keys of a table distinct if what it puts there has distinct keys. -/
theorem keyedEntries_update {f : Option Draft → Option Draft} (keyed : KeyedEntries entries)
    (updated : update key f entries = some entries')
    (gives : ∀ d d', (∀ old, d = some old → KeyedDraft old) → f d = some d' → KeyedDraft d') :
    KeyedEntries entries' := by
  obtain ⟨distinct, inside⟩ := keyedEntries_iff.mp keyed
  rcases update_cases updated with ⟨fresh, d, made, rfl⟩ | ⟨before, d, d', after, rfl, made, rfl⟩
  · have new : KeyedDraft d := gives none d (fun _ found => nomatch found) made
    refine keyedEntries_iff.mpr ⟨?_, ?_⟩
    · rw [List.map_append, List.map_singleton, ← List.concat_eq_append]
      exact distinct.concat fresh
    · simp only [List.mem_append, List.mem_singleton]
      rintro entry (mem | rfl)
      · exact inside entry mem
      · exact new
  · have new : KeyedDraft d' := by
      refine gives (some d) d' ?_ made
      rintro _ ⟨⟩
      exact inside (key, d) (List.mem_append_right _ (List.mem_cons_self ..))
    refine keyedEntries_iff.mpr ⟨?_, ?_⟩
    · rw [List.map_append, List.map_cons] at distinct ⊢
      exact distinct
    · simp only [List.mem_append, List.mem_cons]
      rintro entry (mem | rfl | mem)
      · exact inside entry (List.mem_append_left _ mem)
      · exact new
      · exact inside entry (List.mem_append_right _ (List.mem_cons_of_mem _ mem))

/-! ### Assignments and sections -/

/-- Whatever `f` makes of a table with distinct keys has distinct keys. -/
def KeepsKeyed (f : Entries → Option Entries) : Prop :=
  ∀ entries entries', KeyedEntries entries → f entries = some entries' → KeyedEntries entries'

section

variable {f : Entries → Option Entries} {newest : Entries} {earlier : List Entries}

theorem KeepsKeyed.table {origin : Origin} (keeps : KeepsKeyed f) (keyed : KeyedEntries inner)
    (made : (f inner).map (.table origin) = some d) : KeyedDraft d := by
  obtain ⟨inner', inside, rfl⟩ := Option.map_eq_some_iff.mp made
  exact keeps inner inner' keyed inside

theorem KeepsKeyed.latest (keeps : KeepsKeyed f) (keyed : KeyedDraft (.tables (newest :: earlier)))
    (made : ((f newest).map fun inner => .tables (inner :: earlier)) = some d) :
    KeyedDraft d := by
  obtain ⟨inner, inside, rfl⟩ := Option.map_eq_some_iff.mp made
  rw [keyedDraft_tables_iff, List.forall_mem_cons] at keyed ⊢
  exact ⟨keeps newest inner keyed.1 inside, keyed.2⟩

end

theorem keepsKeyed_assign (value : Keyed v) (path : List String) :
    KeepsKeyed (assign v path) := by
  induction path with
  | nil => exact fun _ _ _ assigned => nomatch assigned
  | cons part rest ih =>
      intro entries entries' keyed assigned
      cases rest with
      | nil =>
          refine keyedEntries_update keyed assigned ?_
          rintro (_ | old) d' - ⟨⟩
          exact value
      | cons next rest =>
          -- The rest of the key goes into a table, old or new, or into the latest of an array.
          refine keyedEntries_update keyed assigned ?_
          rintro (_ | ⟨v⟩ | ⟨origin, inner⟩ | ⟨_ | ⟨latest, earlier⟩⟩) d' keyed made
          · exact ih.table keyedEntries_nil made
          · cases made
          · exact ih.table (keyed _ rfl) (Option.ite_none_left_eq_some.mp made).2
          · cases made
          · exact ih.latest (keyed _ rfl) (Option.ite_none_left_eq_some.mp made).2

/-- The assignments have values with distinct keys. -/
def KeyedBody (body : List Assignment) : Prop := ∀ assignment ∈ body, Keyed assignment.2

theorem foldlM_invariant {α β : Type} {P : β → Prop} {f : β → α → Option β} {l : List α}
    {b b' : β} (holds : P b) (folded : l.foldlM f b = some b')
    (step : ∀ a ∈ l, ∀ b b', P b → f b a = some b' → P b') : P b' := by
  induction l generalizing b with
  | nil =>
      cases folded
      exact holds
  | cons a l ih =>
      rw [List.foldlM_cons] at folded
      obtain ⟨middle, here, later⟩ := Option.bind_eq_some_iff.mp folded
      exact ih (step a (List.mem_cons_self ..) b middle holds here) later
        fun a mem => step a (List.mem_cons_of_mem _ mem)

theorem keepsKeyed_fill {body : List Assignment} (values : KeyedBody body) :
    KeepsKeyed (fill body) := fun _ _ keyed filled =>
  foldlM_invariant keyed filled fun assignment mem =>
    keepsKeyed_assign (values assignment mem) assignment.1

theorem keepsKeyed_enter {repeated : Bool} {body : List Assignment} (values : KeyedBody body)
    (path : List String) : KeepsKeyed (enter repeated body path) := by
  induction path with
  | nil => exact fun _ _ _ entered => nomatch entered
  | cons part rest ih =>
      intro entries entries' keyed entered
      have fills := keepsKeyed_fill values
      cases rest with
      | nil =>
          refine keyedEntries_update keyed entered ?_
          rintro (_ | ⟨v⟩ | ⟨origin, inner⟩ | elements) d' keyed made
          · obtain ⟨inner, filled, rfl⟩ := Option.map_eq_some_iff.mp made
            have new : KeyedEntries inner := fills _ _ keyedEntries_nil filled
            cases repeated with
            | true => exact keyedDraft_tables_iff.mpr (List.forall_mem_singleton.mpr new)
            | false => exact new
          · cases made
          · cases origin with
            | implied =>
                exact fills.table (keyed _ rfl) (Option.ite_none_left_eq_some.mp made).2
            | header => cases made
            | dotted => cases made
          · obtain ⟨-, made⟩ := Option.ite_none_right_eq_some.mp made
            obtain ⟨inner, filled, rfl⟩ := Option.map_eq_some_iff.mp made
            have new : KeyedEntries inner := fills _ _ keyedEntries_nil filled
            exact keyedDraft_tables_iff.mpr
              (List.forall_mem_cons.mpr ⟨new, keyedDraft_tables_iff.mp (keyed _ rfl)⟩)
      | cons next rest =>
          refine keyedEntries_update keyed entered ?_
          rintro (_ | ⟨v⟩ | ⟨origin, inner⟩ | ⟨_ | ⟨latest, earlier⟩⟩) d' keyed made
          · exact ih.table keyedEntries_nil made
          · cases made
          · exact ih.table (keyed _ rfl) made
          · cases made
          · exact ih.latest (keyed _ rfl) made

/-- The assignments of the document have values with distinct keys. -/
structure KeyedDocument (document : Document) : Prop where
  body : KeyedBody document.body
  sections : ∀ s ∈ document.sections, KeyedBody s.body

theorem keyed_of_inlineTable? {body : List Assignment} (values : KeyedBody body)
    (made : inlineTable? body = some v) : Keyed v := by
  obtain ⟨entries, filled, rfl⟩ := Option.map_eq_some_iff.mp made
  exact keepsKeyed_fill values _ _ keyedEntries_nil filled

theorem keyed_of_assemble? {document : Document} {table : List (String × Value)}
    (keyed : KeyedDocument document) (made : assemble? document = some table) :
    Keyed (.table table) := by
  obtain ⟨opening, filled, made⟩ := Option.bind_eq_some_iff.mp made
  obtain ⟨entries, entered, made⟩ := Option.bind_eq_some_iff.mp made
  cases made
  have start : KeyedEntries opening := keepsKeyed_fill keyed.body _ _ keyedEntries_nil filled
  exact foldlM_invariant (P := KeyedEntries) start entered fun s mem =>
    keepsKeyed_enter (keyed.sections s mem) s.header.path

/-! ### Readers -/

/-- Whatever the reader gives is in `P`. -/
def Gives {α : Type} (reader : Reader α) (P : α → Prop) : Prop :=
  ∀ cs a rest, reader cs = some (a, rest) → P a

theorem leaf_of_numeral {numeral : Numeral} {spelling : String}
    (found : numeral.value? spelling = some v) : Leaf v := by
  cases numeral with
  | whole sign base digits =>
      obtain ⟨-, made⟩ := Option.ite_none_right_eq_some.mp found
      cases made
      exact ⟨nofun, nofun⟩
  | decimal digits exponent =>
      obtain ⟨-, made⟩ := Option.ite_none_right_eq_some.mp found
      cases made
      exact ⟨nofun, nofun⟩

theorem leaf_of_scalar? {word : List Char} (found : scalar? word = some v) : Leaf v := by
  dsimp only [scalar?] at found
  split_ifs at found
  case neg =>
    obtain ⟨numeral, -, rfl⟩ := Option.map_eq_some_iff.mp found
    cases value : numeral.value? (String.ofList word) with
    | none => exact ⟨nofun, nofun⟩
    | some v => exact leaf_of_numeral value
  all_goals
    cases found
    exact ⟨nofun, nofun⟩

theorem gives_readText : Gives readText Leaf := by
  intro cs v rest read
  obtain ⟨⟨s, rest⟩, -, made⟩ := Option.map_eq_some_iff.mp read
  cases made
  exact ⟨nofun, nofun⟩

theorem gives_readScalar : Gives readScalar Leaf := by
  intro cs v rest read
  obtain ⟨v, found, made⟩ := Option.map_eq_some_iff.mp read
  cases made
  exact leaf_of_scalar? found

theorem gives_readLeaf : Gives readLeaf Leaf := by
  intro cs v rest read
  rw [readLeaf.eq_def] at read
  split at read
  · exact gives_readText _ _ _ read
  · exact gives_readText _ _ _ read
  · exact gives_readScalar _ _ _ read

theorem gives_readItems {α : Type} {close : Char} {item : Reader α} {P : α → Prop}
    (gives : Gives item P) (rounds : Nat) {acc : List α} (before : ∀ a ∈ acc, P a) :
    Gives (readItems close item rounds acc) fun as => ∀ a ∈ as, P a := by
  induction rounds generalizing acc with
  | zero => exact fun _ _ _ read => nomatch read
  | succ rounds ih =>
      intro cs as rest read
      obtain ⟨front, -, read⟩ := Option.bind_eq_some_iff.mp read
      cases front with
      | nil => cases read
      | cons c front =>
          dsimp only at read
          split at read
          · cases read
            exact fun a mem => before a (List.mem_reverse.mp mem)
          obtain ⟨⟨a, behind⟩, taken, read⟩ := Option.bind_eq_some_iff.mp read
          obtain ⟨behind, -, read⟩ := Option.bind_eq_some_iff.mp read
          have all : ∀ b ∈ a :: acc, P b := List.forall_mem_cons.mpr ⟨gives _ _ _ taken, before⟩
          split at read
          · exact ih all _ _ _ read
          · split at read
            · cases read
              exact fun a mem => all a (List.mem_reverse.mp mem)
            · cases read
          · cases read

theorem gives_readAssignment {rounds : Nat} {skip : List Char → Option (List Char)}
    {value : Reader Value} (gives : Gives value Keyed) :
    Gives (readAssignment rounds skip value) fun assignment => Keyed assignment.2 := by
  intro cs assignment rest read
  obtain ⟨⟨path, rest⟩, -, read⟩ := Option.bind_eq_some_iff.mp read
  obtain ⟨front, -, read⟩ := Option.bind_eq_some_iff.mp read
  obtain ⟨behind, -, read⟩ := Option.bind_eq_some_iff.mp read
  obtain ⟨front, -, read⟩ := Option.bind_eq_some_iff.mp read
  obtain ⟨⟨v, rest⟩, taken, made⟩ := Option.bind_eq_some_iff.mp read
  cases made
  exact gives _ _ _ taken

theorem gives_readValue (rounds depth : Nat) : Gives (readValue rounds depth) Keyed := by
  have leaves : Gives readLeaf Keyed := fun cs v rest read =>
    keyed_of_leaf (gives_readLeaf cs v rest read)
  induction depth with
  | zero => exact leaves
  | succ depth ih =>
      intro cs v rest read
      rw [readValue.eq_def] at read
      dsimp only at read
      split at read
      · obtain ⟨⟨elements, rest⟩, taken, made⟩ := Option.bind_eq_some_iff.mp read
        cases made
        exact keyed_array_iff.mpr (gives_readItems ih rounds (List.forall_mem_nil _) _ _ _ taken)
      · obtain ⟨⟨body, rest⟩, taken, read⟩ := Option.bind_eq_some_iff.mp read
        obtain ⟨table, made, read⟩ := Option.bind_eq_some_iff.mp read
        cases read
        have values : KeyedBody body :=
          gives_readItems (gives_readAssignment ih) rounds (List.forall_mem_nil _) _ _ _ taken
        exact keyed_of_inlineTable? values made
      · exact leaves _ _ _ read

/-! ### Documents -/

/-- What has been read of a document has values with distinct keys. -/
structure KeyedReading (reading : Reading) : Prop where
  opening : KeyedBody reading.opening
  sections : ∀ s ∈ reading.sections, KeyedBody s.body

variable {reading : Reading} {assignment : Assignment}

theorem KeyedReading.assign (keyed : KeyedReading reading) (value : Keyed assignment.2) :
    KeyedReading (reading.assign assignment) := by
  obtain ⟨opening, sections⟩ := reading
  cases sections with
  | nil => exact ⟨List.forall_mem_cons.mpr ⟨value, keyed.opening⟩, keyed.sections⟩
  | cons latest earlier =>
      have ⟨here, before⟩ := List.forall_mem_cons.mp keyed.sections
      exact ⟨keyed.opening,
        List.forall_mem_cons.mpr ⟨List.forall_mem_cons.mpr ⟨value, here⟩, before⟩⟩

theorem KeyedReading.enter (keyed : KeyedReading reading) (header : Header) :
    KeyedReading (reading.enter header) :=
  ⟨keyed.opening, List.forall_mem_cons.mpr ⟨List.forall_mem_nil _, keyed.sections⟩⟩

theorem KeyedReading.document (keyed : KeyedReading reading) : KeyedDocument reading.document := by
  refine ⟨fun assignment mem => keyed.opening assignment (List.mem_reverse.mp mem), ?_⟩
  intro s mem
  obtain ⟨read, known, rfl⟩ := List.mem_map.mp (List.mem_reverse.mp mem)
  exact fun assignment inside => keyed.sections read known assignment (List.mem_reverse.mp inside)

theorem keyed_of_readLines {limit : Nat} (rounds : Nat) {cs : List Char} {document : Document}
    (keyed : KeyedReading reading) (read : readLines limit rounds reading cs = some document) :
    KeyedDocument document := by
  induction rounds generalizing reading cs with
  | zero => cases read
  | succ rounds ih =>
      rw [readLines.eq_def] at read
      dsimp only at read
      split at read
      · cases read
        exact keyed.document
      split at read
      · obtain ⟨rest, -, read⟩ := Option.bind_eq_some_iff.mp read
        exact ih keyed read
      split at read
      · obtain ⟨⟨header, rest⟩, -, read⟩ := Option.bind_eq_some_iff.mp read
        obtain ⟨rest, -, read⟩ := Option.bind_eq_some_iff.mp read
        exact ih (keyed.enter header) read
      · obtain ⟨⟨assignment, rest⟩, taken, read⟩ := Option.bind_eq_some_iff.mp read
        obtain ⟨rest, -, read⟩ := Option.bind_eq_some_iff.mp read
        have value := gives_readAssignment (gives_readValue limit nestingLimit) _ _ _ taken
        exact ih (keyed.assign value) read

/-- Every table in what is read from a text has distinct keys. -/
theorem keyed_of_read? {text : String} {table : List (String × Value)}
    (read : read? text = some table) : Keyed (.table table) := by
  obtain ⟨document, lines, made⟩ := Option.bind_eq_some_iff.mp read
  have start : KeyedReading {} := ⟨List.forall_mem_nil _, List.forall_mem_nil _⟩
  exact keyed_of_assemble? (keyed_of_readLines _ start lines) made

end CaptureFlow.Toml
