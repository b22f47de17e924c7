import Mathlib.Data.List.TakeWhile
import PlanarPipe.Report.Record
import PlanarPipe.Report.Summary

/-!
# What a printed summary says

What stands in a summary that is printed, told as text (`Summary.Tells`): the members of an object, by name, or the
words of a line, or the names of the columns of a table and what stands below them. For tables this takes a look at
how a row is drawn: its first line shows the first lines of its cells side by side (`Text.SideBySide`). Main
statement: `Summary.tells_print`.
-/

namespace PlanarPipe

namespace Text

def blanks (n : Nat) : String := .ofList (List.replicate n ' ')

def firstLine (text : String) : String := .ofList (text.toList.takeWhile (· ≠ '\n'))

/-- Texts on a line, each with a blank before it and one or more behind it, and with rules between them. -/
inductive SideBySide : List String → String → Prop where
  | last {text} (n : Nat) :
    SideBySide [text] (" " ++ text ++ blanks (n + 1))
  | next {text texts line} (n : Nat) :
    SideBySide texts line →
    SideBySide (text :: texts) (" " ++ text ++ blanks (n + 1) ++ "┆" ++ line)

/-- The lines of a table: one of names and one of texts, each below a rule, and others that follow. -/
def Tabulates (names texts : List String) (table : String) : Prop :=
  ∃ widths head row later, SideBySide names head ∧ SideBySide texts row ∧
    table = "\n".intercalate
      ([tableRule "┌" '─' "┬" "┐" widths, "│" ++ head ++ "│", tableRule "╞" '═' "╪" "╡" widths, "│" ++ row ++ "│"] ++
        later)

variable {text : String} {texts names cells : List String} {widths : List Nat}

/-- The first of the lines of a text is what stands before its first line break. -/
lemma cellLines_head (text : String) : (cellLines text)[0]?.getD "" = firstLine text := by
  rw [cellLines, firstLine]
  by_cases broken : '\n' ∈ text.toList
  · obtain ⟨front, later, whole, unbroken⟩ := List.eq_append_cons_of_mem broken
    have kept : ∀ c ∈ front, decide (c ≠ '\n') = true :=
      fun c member => decide_eq_true (ne_of_mem_of_not_mem member unbroken)
    rw [whole, List.splitOn_append_cons_self_of_not_mem unbroken, List.takeWhile_append_of_pos kept]
    simp
  · have kept : ∀ c ∈ text.toList, decide (c ≠ '\n') = true :=
      fun c member => decide_eq_true (ne_of_mem_of_not_mem member broken)
    rw [List.splitOn_eq_singleton broken, List.takeWhile_eq_self_iff.2 kept]
    rfl

/-- A text without a line break has a single line. -/
lemma cellLines_unbroken (unbroken : '\n' ∉ text.toList) : cellLines text = [text] := by
  rw [cellLines, List.splitOn_eq_singleton unbroken, List.map_singleton, String.ofList_toList]

/-- A text without line breaks is its own first line. -/
lemma firstLine_unbroken (unbroken : '\n' ∉ text.toList) : firstLine text = text := by
  rw [← cellLines_head, cellLines_unbroken unbroken]
  rfl

/-- The first line of a row shows the first lines of its cells. -/
lemma exists_tableRow (widths : List Nat) (some : cells ≠ []) :
    ∃ later, tableRow widths cells = tableLine widths (cells.map firstLine) :: later := by
  have shown : (cells.map cellLines).map (fun lines => lines[0]?.getD "") = cells.map firstLine := by
    rw [List.map_map]
    exact List.map_congr_left fun cell _ => cellLines_head cell
  have high : 0 < ((cells.map cellLines).map List.length).foldr max 0 := by
    obtain ⟨cell, cells, rfl⟩ := List.exists_cons_of_ne_nil some
    have lines : 0 < (cellLines cell).length := by
      rw [cellLines, List.length_map]
      exact List.length_pos_iff.2 (List.splitOn_ne_nil '\n' cell.toList)
    exact Nat.lt_of_lt_of_le lines (Nat.le_max_left ..)
  obtain ⟨others, height⟩ := Nat.exists_eq_add_one.2 high
  rw [tableRow, height, List.range_succ_eq_map, List.map_cons, shown]
  exact ⟨_, rfl⟩

/-- One blank more is one at the end. -/
lemma blanks_succ (n : Nat) : blanks (n + 1) = blanks n ++ " " := by
  rw [blanks, List.replicate_succ', String.ofList_append]
  rfl

/-- A text that is filled up has blanks behind it. -/
lemma fill_eq (columns : Nat) (text : String) : fill columns text = text ++ blanks (columns - width text) := by
  rw [fill, String.pushn_eq_repeat_push]
  induction columns - width text with
  | zero => exact String.append_empty.symm
  | succ n ih =>
    rw [Nat.repeat, ih, blanks_succ, ← String.append_assoc]
    exact String.push_eq_append ' '

/-- The texts of a line of a table stand side by side. -/
lemma sideBySide_tableLine (some : texts ≠ []) (wide : widths.length = texts.length) :
    ∃ line, SideBySide texts line ∧ tableLine widths texts = "│" ++ line ++ "│" := by
  refine ⟨_, ?_, rfl⟩
  induction texts generalizing widths with
  | nil => exact absurd rfl some
  | cons text texts ih =>
    obtain ⟨columns, widths, rfl⟩ := List.exists_cons_of_length_eq_add_one wide
    -- a cell is as wide as its column, and at least one blank stands behind the text
    have cell : s!" {fill columns text} " = " " ++ text ++ blanks (columns - width text + 1) := by
      change " " ++ fill columns text ++ " " = _
      rw [fill_eq, blanks_succ, String.append_assoc, String.append_assoc, String.append_assoc]
    have wide := Nat.succ.inj wide
    rw [List.zipWith_cons_cons, cell]
    cases texts with
    | nil =>
      rw [List.zipWith_nil_right, String.intercalate_singleton]
      exact .last _
    | cons other texts =>
      have more : List.zipWith (fun w t => s!" {fill w t} ") widths (other :: texts) ≠ [] := by
        rw [ne_eq, List.zipWith_eq_nil_iff, or_iff_left (List.cons_ne_nil _ _), ← List.length_eq_zero_iff, wide]
        exact Nat.succ_ne_zero _
      rw [String.intercalate_cons_of_ne_nil more]
      exact .next _ (ih nofun wide)

/-- A table shows the names of its columns, which stand on one line, and below them the first lines of its cells. -/
lemma table_tabulates (some : names ≠ []) (wide : names.length = cells.length)
    (oneLine : ∀ widths, tableRow widths names = [tableLine widths names]) :
    Tabulates names (cells.map firstLine) (table names cells) := by
  let widths := List.zipWith (fun h r => max (cellWidth h) (cellWidth r)) names cells
  have columns : widths.length = names.length := by
    rw [List.length_zipWith, ← wide, Nat.min_self]
  have filled : cells ≠ [] := by
    rintro rfl
    exact some (List.eq_nil_of_length_eq_zero wide)
  obtain ⟨head, named, headLine⟩ := sideBySide_tableLine some columns
  obtain ⟨row, shown, rowLine⟩ := @sideBySide_tableLine (cells.map firstLine) widths
    (mt List.map_eq_nil_iff.1 filled) (by rw [List.length_map, columns, wide])
  obtain ⟨later, lines⟩ := exists_tableRow widths filled
  refine ⟨widths, head, row, later ++ [tableRule "└" '─' "┴" "┘" widths], named, shown, ?_⟩
  have whole : table names cells = "\n".intercalate
      ([tableRule "┌" '─' "┬" "┐" widths] ++ tableRow widths names ++ [tableRule "╞" '═' "╪" "╡" widths] ++
        tableRow widths cells ++ [tableRule "└" '─' "┴" "┘" widths]) := rfl
  rw [whole, oneLine, lines, headLine, rowLine]
  rfl

end Text

namespace Summary

/-- The last time stamp, or what stands for none. -/
def stampOr (none : String) (s : Summary) : String := s.lastStamp.elim none fun t => toString t.toInt

/-- What stands in a printed summary: the members of an object, or the words of a line, which leave the time stamp
out, or a table with the names of its columns and what stands below them. -/
def Tells (s : Summary) : Format → String → Prop
  | .json, text | .raw, text =>
    text = "\x7b\"path\":" ++ JsonValue.string s.path ++ ",\"frames\":" ++ toString s.frames ++
      ",\"bytes\":" ++ toString s.bytes ++ ",\"last_timestamp_us\":" ++ s.stampOr "null" ++
      ",\"stopped\":" ++ toString s.stopped ++ "\x7d\n"
  | .pretty, text =>
    text = "pipe=" ++ s.path ++ " frames=" ++ toString s.frames ++ " bytes=" ++ toString s.bytes ++
      " stopped=" ++ toString s.stopped ++ "\n"
  | .table, text =>
    ∃ table, text = table ++ "\n" ∧ Text.Tabulates ["PIPE", "FRAMES", "BYTES", "LAST_TS_US", "STOPPED"]
      [Text.firstLine s.path, toString s.frames, toString s.bytes, s.stampOr "-", toString s.stopped] table

/-- The names of the columns stand on one line. -/
lemma tableRow_header (widths : List Nat) : Text.tableRow widths header = [Text.tableLine widths header] := rfl

/-- A number is written in one line. -/
lemma unbroken_nat (n : Nat) : '\n' ∉ (toString n).toList := by
  rw [Nat.toString_eq_ofList_toDigits, String.toList_ofList]
  intro broken
  exact absurd (Nat.isDigit_of_mem_toDigits (by decide) (by decide) broken) (by decide)

/-- So is an integer. -/
lemma unbroken_int (n : Int) : '\n' ∉ (toString n).toList := by
  cases n with
  | ofNat n => exact unbroken_nat n
  | negSucc n =>
    change '\n' ∉ ("-" ++ toString (n + 1)).toList
    rw [String.toList_append, List.mem_append, not_or]
    exact ⟨by decide, unbroken_nat _⟩

/-- The members of a summary, as they are printed for its object. -/
lemma object_eq (s : Summary) (stamp : JsonValue) :
    JsonValue.object
        [("path", .text s.path), ("frames", .whole s.frames), ("bytes", .whole s.bytes),
          ("last_timestamp_us", stamp), ("stopped", .truth s.stopped)] =
      "\x7b\"path\":" ++ JsonValue.string s.path ++ ",\"frames\":" ++ toString s.frames ++
        ",\"bytes\":" ++ toString s.bytes ++ ",\"last_timestamp_us\":" ++ stamp.write ++
        ",\"stopped\":" ++ toString s.stopped ++ "\x7d" := by
  have member : ∀ (name : String) (value : JsonValue), s!"{name}:{value.write}" = name ++ ":" ++ value.write :=
    fun _ _ => rfl
  have names : JsonValue.string "path" = "\"path\"" ∧ JsonValue.string "frames" = "\"frames\"" ∧
      JsonValue.string "bytes" = "\"bytes\"" ∧ JsonValue.string "last_timestamp_us" = "\"last_timestamp_us\"" ∧
      JsonValue.string "stopped" = "\"stopped\"" := by decide
  have whole : ∀ n : Nat, (JsonValue.whole n).write = toString n := fun _ => rfl
  obtain ⟨path, frames, bytes, last, stopped⟩ := names
  simp only [JsonValue.object, List.map_cons, List.map_nil, String.intercalate_cons_cons, String.intercalate_singleton,
    member, path, frames, bytes, last, stopped, whole]
  apply String.toList_injective
  simp [JsonValue.write]

/-- A summary is printed as it is to be. -/
theorem tells_print (s : Summary) (format : Format) : s.Tells format (s.print format) := by
  cases format with
  | json | raw =>
    rw [print, object_eq, Tells, stampOr]
    cases s.lastStamp with
    | none | some t => exact String.append_assoc
  | pretty => rfl
  | table =>
    refine ⟨_, rfl, ?_⟩
    have stamp : '\n' ∉ (s.stampOr "-").toList := by
      rw [stampOr]
      cases s.lastStamp with
      | none => exact (by decide : '\n' ∉ "-".toList)
      | some t => exact unbroken_int t.toInt
    have stopped : '\n' ∉ (toString s.stopped).toList := by cases s.stopped <;> decide
    have texts := @Text.table_tabulates header
      [s.path, toString s.frames, toString s.bytes, s.stampOr "-", toString s.stopped] nofun rfl tableRow_header
    simp only [List.map_cons, List.map_nil, Text.firstLine_unbroken (unbroken_nat _), Text.firstLine_unbroken stamp,
      Text.firstLine_unbroken stopped] at texts
    exact texts

/-- There is something to print for every summary, as it ends with a line break. -/
lemma print_ne_empty (s : Summary) (format : Format) : s.print format ≠ "" := by
  obtain ⟨text, ends⟩ : ∃ text, s.print format = text ++ "\n" := by cases format <;> exact ⟨_, rfl⟩
  rw [ends, ne_eq, String.append_eq_empty_iff, not_and]
  exact fun _ => by decide

end Summary

/-- Only an empty text can be printed to a closed output. -/
lemma Output.print_closed {text : String} (some : text ≠ "") :
    Output.closed.print (.text text) = .error (.system .brokenPipe) := by
  have bytes : (Printout.text text).toBytes ≠ [] := by
    rw [Printout.toBytes, ne_eq, Array.toList_eq_nil_iff, ← Array.size_eq_zero_iff, ByteArray.size_data,
      ByteArray.size_eq_zero_iff, String.toUTF8_eq_toByteArray, String.toByteArray_eq_empty_iff]
    exact some
  rw [Output.print, List.isEmpty_eq_false_iff.2 bytes]
  rfl

end PlanarPipe
