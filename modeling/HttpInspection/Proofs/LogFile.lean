import HttpInspection.Proofs.Appending
import HttpInspection.Proofs.LogRecords
import HttpInspection.Proofs.LogWindow
import HttpInspection.Proofs.Splitting

/-!
# The file of the exchange log

Every entry that is logged becomes one line at the end of the file, and the line is read back as the
entry.  What memory forgets stays in the file.
-/

set_option autoImplicit false

namespace HttpInspection

/-! ## Lines -/

namespace LogEntry

theorem line_text (entry : LogEntry) (range : entry.InRange) :
    ∀ c ∈ entry.text.toList, c ≠ '\n' ∧ c ≠ '\r' := by
  intro c member
  rw [text, Json.compact, String.toList_ofList] at member
  have visible : 0x20 ≤ c.toNat := (entry.encodes_toJson range).1.visible c member
  constructor
  · rintro rfl
    exact absurd visible (by decide)
  · rintro rfl
    exact absurd visible (by decide)

end LogEntry

theorem LogSettings.kept_inRange (settings : LogSettings) (entry : LogEntry)
    (range : entry.InRange) : (settings.kept entry).InRange :=
  ⟨range.timestamp, range.findings⟩

def textOfLines (lines : List String) : List Char :=
  lines.flatMap fun line => line.toList ++ ['\n']

theorem textOfLines_concat (lines : List String) (line : String) :
    textOfLines (lines ++ [line]) = textOfLines lines ++ (line ++ "\n").toList := by
  simp [textOfLines]

theorem splitLines_textOfLines (lines : List String)
    (closed : ∀ line ∈ lines, ∀ c ∈ line.toList, c ≠ '\n') :
    splitLines (textOfLines lines) = lines.map String.toList ++ [[]] := by
  induction lines with
  | nil => rfl
  | cons line rest ih =>
      have others := ih fun other later => closed other (List.mem_cons_of_mem _ later)
      have ordinary : ∀ c ∈ line.toList, (c == '\n') = false := fun c member =>
        beq_eq_false_iff_ne.mpr (closed line List.mem_cons_self c member)
      have ends := splitAtEvery_separator (· == '\n') '\n' (textOfLines rest) rfl
      have first := splitAtEvery_append (· == '\n') line.toList ('\n' :: textOfLines rest) []
        (splitAtEvery (· == '\n') (textOfLines rest)) ordinary ends
      rw [splitLines] at others ⊢
      rw [textOfLines, List.flatMap_cons, List.append_assoc, List.singleton_append]
      rw [List.append_nil, others] at first
      exact first

theorem FileTree.readText_of_readBytes (tree : FileTree) (path : String) (text : List Char)
    (read : tree.readBytes path = .ok (Utf8.encode text)) :
    tree.readText path = .ok (String.ofList text) := by
  rw [readText, read]
  simp [textOf, strictText?, Utf8.decode?, Utf8.decodeLossy_encode, bind, Except.bind]

/-! ## Calls -/

theorem ExchangeLog.log_of_append (log : ExchangeLog) (files grown : FileTree) (entry : LogEntry)
    (path : String) (enabled : log.settings.enabled = true)
    (here : log.settings.filePath = some path)
    (written : files.append path (bytesOf ((log.settings.kept entry).text ++ "\n")) = .ok grown) :
    log.log files entry = (.ok (), log.remember (log.settings.kept entry), grown) := by
  simp [ExchangeLog.log, enabled, log.settings.shape_eq_kept, appendToFile, here, written]

def entriesLogged (calls : List LogCall) : List LogEntry :=
  calls.filterMap LogCall.entry?

def linesLogged (settings : LogSettings) (calls : List LogCall) : List String :=
  (entriesLogged calls).map fun entry => (settings.kept entry).text

/-- A file that may be written and has nothing in it. -/
structure FileTree.FreshAt (files : FileTree) (path : String) : Prop where
  writable : ∃ opened, files.append path [] = .ok opened
  empty : files.readBytes path = .ok [] ∨ files.readBytes path = .error .missing

namespace LogRun

/-- What calls have written: nothing, and the files are as they were, or all their lines at once. -/
def HasWritten (settings : LogSettings) (files : FileTree) (path : String) (calls : List LogCall)
    (run : LogRun) : Prop :=
  (entriesLogged calls = [] ∧ run.files = files) ∨
    (entriesLogged calls ≠ [] ∧
      files.append path (Utf8.encode (textOfLines (linesLogged settings calls))) = .ok run.files)

/-- To write more is to write it behind the lines that are there. -/
theorem append_of_hasWritten (settings : LogSettings) (files : FileTree) (path : String)
    (calls : List LogCall) (run : LogRun) (written : run.HasWritten settings files path calls)
    (more : List UInt8) : run.files.append path more =
      files.append path (Utf8.encode (textOfLines (linesLogged settings calls)) ++ more) := by
  rcases written with ⟨none, same⟩ | ⟨-, written⟩
  · rw [same, linesLogged, none]
    rfl
  · exact FileTree.append_append files run.files path _ more written

theorem log_of_hasWritten (settings : LogSettings) (enabled : settings.enabled = true)
    (files : FileTree) (path : String) (here : settings.filePath = some path)
    (writable : ∃ opened, files.append path [] = .ok opened) (calls : List LogCall) (run : LogRun)
    (same : run.log.settings = settings) (written : run.HasWritten settings files path calls)
    (entry : LogEntry) : ∃ grown,
      run.log.log run.files entry = (.ok (), run.log.remember (settings.kept entry), grown) ∧
        files.append path
          (Utf8.encode (textOfLines (linesLogged settings (calls ++ [.log entry])))) =
            .ok grown := by
  obtain ⟨opened, writable⟩ := writable
  obtain ⟨grown, all⟩ := FileTree.exists_append files opened path []
    (Utf8.encode (textOfLines (linesLogged settings (calls ++ [.log entry])))) writable
  refine ⟨grown, ?_, all⟩
  have lines : linesLogged settings (calls ++ [.log entry]) =
      linesLogged settings calls ++ [(settings.kept entry).text] := by
    simp [linesLogged, entriesLogged, LogCall.entry?]
  rw [lines, textOfLines_concat, Utf8.encode_append] at all
  have last : run.files.append path (bytesOf ((settings.kept entry).text ++ "\n")) = .ok grown := by
    rw [append_of_hasWritten settings files path calls run written]
    exact all
  rw [← same] at enabled here last ⊢
  exact run.log.log_of_append run.files grown entry path enabled here last

theorem hasWritten_after (settings : LogSettings) (enabled : settings.enabled = true)
    (files : FileTree) (path : String) (here : settings.filePath = some path)
    (writable : ∃ opened, files.append path [] = .ok opened) (calls : List LogCall) :
    (after settings files (calls.map .call)).HasWritten settings files path calls := by
  -- The files are always compared with those at the start, so a clear leaves nothing to prove.
  induction calls using List.reverseRecOn with
  | nil => exact .inl ⟨rfl, rfl⟩
  | append_singleton calls call ih =>
      rw [List.map_append, List.map_singleton, after_concat]
      cases call with
      | clear =>
          have silent : entriesLogged (calls ++ [.clear]) = entriesLogged calls := by
            simp [entriesLogged, LogCall.entry?]
          rwa [HasWritten, linesLogged, silent]
      | log entry =>
          obtain ⟨grown, logs, all⟩ := log_of_hasWritten settings enabled files path here writable
            calls _ (after_settings settings files _) ih entry
          have some : entriesLogged (calls ++ [.log entry]) ≠ [] := by
            simp [entriesLogged, LogCall.entry?]
          refine .inr ⟨some, ?_⟩
          rw [all, step, logs]

/-- What is left of calls in the files: a line for each entry, and nothing else. -/
structure Journal (settings : LogSettings) (files : FileTree) (path : String)
    (calls : List LogCall) (run : LogRun) : Prop where
  succeeds : ∀ entry, (run.log.log run.files entry).1 = .ok ()
  untouched : entriesLogged calls = [] → run.files = files
  lines : entriesLogged calls ≠ [] → ∃ text, run.files.readText path = .ok text ∧
    splitLines text.toList = (linesLogged settings calls).map String.toList ++ [[]]
  entries : (linesLogged settings calls).map LogEntry.parse =
    (entriesLogged calls).map fun entry => .ok (settings.kept entry)

theorem journal_after (settings : LogSettings) (files : FileTree) (path : String)
    (calls : List LogCall) (enabled : settings.enabled = true)
    (here : settings.filePath = some path) (fresh : files.FreshAt path)
    (range : ∀ entry ∈ entriesLogged calls, entry.InRange) :
    (after settings files (calls.map .call)).Journal settings files path calls := by
  have written := hasWritten_after settings enabled files path here fresh.writable calls
  have kept : ∀ entry ∈ entriesLogged calls, (settings.kept entry).InRange := fun entry member =>
    settings.kept_inRange entry (range entry member)
  refine ⟨?_, ?_, ?_, ?_⟩
  · intro entry
    obtain ⟨grown, logs, -⟩ := log_of_hasWritten settings enabled files path here fresh.writable
      calls _ (after_settings settings files _) written entry
    rw [logs]
  · intro none
    rcases written with ⟨-, same⟩ | ⟨some, -⟩
    · exact same
    · exact absurd none some
  · intro some
    rcases written with ⟨none, -⟩ | ⟨-, written⟩
    · exact absurd none some
    · have read := FileTree.readBytes_append files _ path [] _ (by simpa using fresh.empty) written
      rw [List.nil_append] at read
      refine ⟨_, FileTree.readText_of_readBytes _ path _ read, ?_⟩
      rw [String.toList_ofList]
      refine splitLines_textOfLines _ fun line member c inside => ?_
      obtain ⟨entry, logged, rfl⟩ := List.mem_map.mp member
      exact ((settings.kept entry).line_text (kept entry logged) c inside).1
  · rw [linesLogged, List.map_map]
    refine List.map_congr_left fun entry member => ?_
    rw [Function.comp_apply]
    exact (settings.kept entry).parse_text (kept entry member)

end LogRun

/-- Entries are read back from their texts, and from the file of a log. -/
theorem logged_entries_read_back :
    (∀ entry : LogEntry, entry.InRange →
      LogEntry.parse entry.text = .ok entry ∧ ∀ c ∈ entry.text.toList, c ≠ '\n' ∧ c ≠ '\r') ∧
    ∀ (settings : LogSettings) (files : FileTree) (path : String) (calls : List LogCall),
      settings.enabled = true → settings.filePath = some path → files.FreshAt path →
        (∀ entry ∈ entriesLogged calls, entry.InRange) →
          (LogRun.after settings files (calls.map .call)).Journal settings files path calls := by
  refine ⟨?_, LogRun.journal_after⟩
  intro entry range
  exact ⟨entry.parse_text range, entry.line_text range⟩

def extremeFinding : Finding where
  ruleId := "r"
  line := (Nat.pow 2 63 : Int) - 1
  lineIndex := -(Nat.pow 2 63 : Int)
  length := Nat.pow 2 64 - 1
  matchedString := "\u2028"
  matchedBodyHash := some ""
  matchedBodyHashAlg := some .sha256
  severity := .low

def extremeEntry : LogEntry where
  agentId := "a\n\r\t\"\\"
  remoteIp := "\u0000\u001f\u007f"
  timestamp := -(Nat.pow 2 63 : Int)
  request := "R0VU"
  requestFindings := [extremeFinding]

theorem logged_entries_read_back_extreme :
    let files : FileTree := ⟨.directory [("logs", .directory [])], ["logs"]⟩
    let settings : LogSettings :=
      { maxEntries := 0, filePath := some "waf.jsonl", includeRaw := false }
    let calls : List LogCall := [.log extremeEntry, .clear, .log extremeEntry]
    LogEntry.parse extremeEntry.text = .ok extremeEntry ∧ files.FreshAt "waf.jsonl" ∧
      (LogRun.after settings files (calls.map .call)).Journal settings files "waf.jsonl" calls := by
  intro files settings calls
  have findings : ∀ finding ∈ extremeEntry.findings, finding.InRange := by
    intro finding member
    cases List.mem_singleton.mp member
    exact ⟨by decide, by decide, by decide⟩
  have range : extremeEntry.InRange := ⟨by decide, findings⟩
  have fresh : files.FreshAt "waf.jsonl" := ⟨⟨_, rfl⟩, .inr rfl⟩
  have ranges : ∀ entry ∈ entriesLogged calls, entry.InRange := by
    intro entry member
    rcases List.mem_pair.mp member with rfl | rfl <;> exact range
  exact ⟨(logged_entries_read_back.1 extremeEntry range).1, fresh,
    logged_entries_read_back.2 settings files "waf.jsonl" calls rfl rfl fresh ranges⟩

end HttpInspection
