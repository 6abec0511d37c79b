import Mathlib.Data.List.Forall2
import CaptureFlow.Proofs.Command.Effect
import CaptureFlow.Proofs.Json.RoundTrip
/-! # Listings

A listing that is wanted as JSON is a single document and nothing else is printed.  Reading it back
gives an object with a member for each row of the database, in their order, and each member tells
the value of its row with its kind (`listing_is_lossless`). -/

namespace CaptureFlow

theorem Durable.decodeRows_forall₂ {rows : List (String × Bytes)}
    (values : ∀ row ∈ rows, ∃ value, Preference.decode row.2 = .ok value) :
    ∃ entries, decodeRows rows = .ok entries ∧
      List.Forall₂ (fun row entry => entry.1 = row.1 ∧ Preference.decode row.2 = .ok entry.2)
        rows entries := by
  induction rows with
  | nil => exact ⟨[], rfl, .nil⟩
  | cons row rest ih =>
      obtain ⟨⟨value, decoded⟩, others⟩ := List.forall_mem_cons.mp values
      obtain ⟨entries, read, related⟩ := ih others
      refine ⟨(row.1, value) :: entries, ?_, .cons ⟨rfl, decoded⟩ related⟩
      rw [decodeRows, decoded, read]
      rfl

theorem Preference.json_inj {v v' : Preference} (same : v.json = v'.json) : v = v' := by
  cases v <;> cases v' <;> simp [Preference.json] at same ⊢
  · exact same
  · exact Int64.toInt_inj.mp same
  · exact same

namespace FileSystem

open Command

variable {fs : FileSystem} {invocation : Invocation} {table : Table Bytes}

theorem answer_list {entries : List (String × Preference)}
    (request : invocation.request = .prefs .list)
    (opened : fs.openDatabase invocation.database = .ok table)
    (decoded : Durable.decodeRows table.rows = .ok entries) :
    (fs.execute invocation).1 = .ok (.listing invocation.database entries) := by
  obtain ⟨file, placed, opened⟩ := openDatabase_eq_ok_iff.mp opened
  rw [(execute_prefs request placed opened).1]
  simp only [PrefsAction.run, Durable.entries, decoded]
  rfl

/-- **Listings are lossless.**  A run that lists the preferences as JSON, over a database whose rows
all hold values, succeeds and prints one document that ends with a line break and nothing else.
Read back, the document is an object whose members are the rows in their order, each key once, with
the values in their JSON forms, from which the values can be told. -/
theorem listing_is_lossless :
    (∀ (fs : FileSystem) (arguments : List String) (invocation : Invocation)
        (table : Table Bytes), Invocation.ofArguments arguments = .ok invocation →
      invocation.json = true → invocation.request = .prefs .list →
      fs.openDatabase invocation.database = .ok table →
      (∀ row ∈ table.rows, ∃ value, Preference.decode row.2 = .ok value) →
      ∃ document members, (fs.run arguments).1 = ⟨0, document ++ "\n"⟩ ∧
        Json.read? document = some (.object members) ∧
        (members.map (·.1)).Pairwise keyBefore ∧
        List.Forall₂ (fun row member => member.1 = row.1 ∧
          ∃ value, Preference.decode row.2 = .ok value ∧ member.2 = value.json)
          table.rows members) ∧
    Invocation.ofArguments ["--json", "prefs", "list"] =
      .ok { json := true, request := .prefs .list } ∧
    ∀ v v' : Preference, v.json = v'.json → v = v' := by
  refine ⟨?_, by decide +kernel, fun v v' => Preference.json_inj⟩
  intro fs arguments invocation table matched json request opened values
  obtain ⟨entries, decoded, related⟩ := Durable.decodeRows_forall₂ values
  let members := entries.map fun entry => (entry.1, entry.2.json)
  have printed : (fs.run arguments).1 = ⟨0, (Json.object members).pretty ++ "\n"⟩ := by
    simp only [run, matched, Invocation.exit, answer_list request opened decoded, json,
      Bool.or_true, if_true, String.empty_append, Invocation.printed, Answer.printed]
    rfl
  have members_rows : List.Forall₂ (fun row member => member.1 = row.1 ∧
      ∃ value, Preference.decode row.2 = .ok value ∧ member.2 = value.json)
      table.rows members := by
    refine List.forall₂_map_right_iff.mpr (related.imp fun row entry same => ?_)
    exact ⟨same.1, entry.2, same.2, rfl⟩
  have keys : members.map (·.1) = table.rows.map (·.1) := by
    have each : List.Forall₂ (· = ·) (members.map (·.1)) (table.rows.map (·.1)) :=
      List.forall₂_map_left_iff.mpr (List.forall₂_map_right_iff.mpr
        (members_rows.flip.imp fun member row same => same.1))
    rwa [List.forall₂_eq_eq_eq] at each
  refine ⟨_, members, printed, Json.read?_pretty _, ?_, members_rows⟩
  rw [keys]
  exact List.pairwise_map.mpr table.ordered

/-- The stored form of the smallest number. -/
def smallest : Bytes := [83, 71, 80, 86, 1, 1, 255, 255, 255, 255, 255, 255, 255, 255, 255, 1]

/-- The stored form of a text whose characters are all escaped in JSON. -/
def escaped : Bytes := [83, 71, 80, 86, 1, 2, 3, 92, 10, 1]

/-- A database with these two values, one of them under a key with a quotation mark. -/
def unusual : Table Bytes := (Table.empty.insert "volume" smallest).insert "\"😀" escaped

/-- A file system whose only file is this database. -/
def unusualFiles : FileSystem := ⟨[(defaultDatabase, .file (.database unusual))]⟩

/-- The two rows are listed in the order of their keys, with everything that is escaped in them. -/
theorem listing_is_lossless_unusual :
    ∃ document, (unusualFiles.run ["--json", "prefs", "list"]).1 = ⟨0, document ++ "\n"⟩ ∧
      Json.read? document = some (.object
        [("\"😀", .object [("text", .text "\\\n\x01")]),
          ("volume", .object [("int", .number (-9223372036854775808))])]) := by
  have rows : unusual.rows = [("\"😀", escaped), ("volume", smallest)] := by decide +kernel
  have first : Preference.decode escaped = .ok (.text "\\\n\x01") := by decide +kernel
  have second : Preference.decode smallest = .ok (.number Int64.minValue) := by decide +kernel
  have values : ∀ row ∈ unusual.rows, ∃ value, Preference.decode row.2 = .ok value := by
    rw [rows]
    exact List.forall_mem_cons.mpr ⟨⟨_, first⟩, List.forall_mem_singleton.mpr ⟨_, second⟩⟩
  have placed : unusualFiles.databasePlace defaultDatabase = .ok [defaultDatabase] := by
    decide +kernel
  have opened : unusualFiles.openDatabase defaultDatabase = .ok unusual :=
    (openDatabase_eq placed).trans rfl
  obtain ⟨document, members, printed, read, -, related⟩ := listing_is_lossless.1
    unusualFiles _ _ unusual listing_is_lossless.2.1 rfl rfl opened values
  refine ⟨document, printed, read.trans ?_⟩
  rw [rows] at related
  cases related with
  | @cons _ member _ _ same related =>
      cases related with
      | @cons _ member' _ _ same' related =>
          cases related
          obtain ⟨key, form⟩ := member
          obtain ⟨key', form'⟩ := member'
          obtain ⟨rfl, value, decoded, rfl⟩ := same
          obtain ⟨rfl, value', decoded', rfl⟩ := same'
          obtain rfl := Except.ok.inj (decoded.symm.trans first)
          obtain rfl := Except.ok.inj (decoded'.symm.trans second)
          rfl

end FileSystem

end CaptureFlow
