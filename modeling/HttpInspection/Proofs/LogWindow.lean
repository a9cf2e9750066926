import HttpInspection.ExchangeLog
import Mathlib.Data.List.DropRight
import Mathlib.Data.List.Infix

/-!
# The exchange log as a window

Whatever is logged and cleared and whatever others do to the files, the memory of a log is the newest
part of what was logged since it was last cleared.  The eviction loop keeps one less than the
capacity of what is there; the entry that is added makes it full again.
-/

set_option autoImplicit false

namespace HttpInspection

/-! ## The newest part of a list -/

/-- The last `count` members of a list, or all if there are no more. -/
def IsNewest {α : Type} (count : Nat) (part whole : List α) : Prop :=
  part <:+ whole ∧ part.length = min count whole.length

namespace IsNewest
variable {α : Type}

theorem nil (count : Nat) : IsNewest count ([] : List α) [] :=
  ⟨List.suffix_rfl, by simp⟩

theorem concat {count : Nat} {part whole : List α} (newest : IsNewest count part whole) (last : α) :
    IsNewest (count + 1) (part ++ [last]) (whole ++ [last]) := by
  obtain ⟨⟨older, rfl⟩, size⟩ := newest
  refine ⟨⟨older, by simp⟩, ?_⟩
  simp only [List.length_append, List.length_singleton] at size ⊢
  omega

theorem trans {few many : Nat} {part between whole : List α} (inner : IsNewest few part between)
    (outer : IsNewest many between whole) (fewer : few ≤ many) : IsNewest few part whole := by
  refine ⟨inner.1.trans outer.1, ?_⟩
  rw [inner.2, outer.2]
  omega

end IsNewest

/-- The eviction loop leaves room for exactly one entry. -/
theorem makeRoom_isNewest (room : Nat) (entries : List LogEntry) :
    IsNewest room (makeRoom (room + 1) entries) entries := by
  induction entries with
  | nil => exact .nil room
  | cons oldest rest ih =>
      rw [makeRoom]
      split
      next full =>
        refine ⟨ih.1.trans (List.suffix_cons oldest rest), ?_⟩
        rw [ih.2, List.length_cons]
        omega
      next spare =>
        refine ⟨List.suffix_rfl, ?_⟩
        rw [List.length_cons]
        omega

/-! ## Calls and what others do -/

/-- A call that changes a log. -/
inductive LogCall where
  | log (entry : LogEntry)
  | clear

def LogCall.entry? : LogCall → Option LogEntry
  | .log entry => some entry
  | .clear => none

/-- A call, or a change that others make to the files. -/
inductive LogEvent where
  | call (call : LogCall)
  | others (change : FileTree → FileTree)

namespace LogEvent

def entry? : LogEvent → Option LogEntry
  | call made => made.entry?
  | others _ => none

def isClear : LogEvent → Bool
  | call .clear => true
  | _ => false

def disturb (files : FileTree) : LogEvent → FileTree
  | others change => change files
  | call _ => files

end LogEvent

/-- The entries that were passed to a log after it was last cleared, oldest first. -/
def loggedSinceClear (events : List LogEvent) : List LogEntry :=
  (events.rtakeWhile fun event => !event.isClear).filterMap LogEvent.entry?

structure LogRun where
  log : ExchangeLog
  files : FileTree

namespace LogRun

def step (run : LogRun) : LogEvent → LogRun
  | .call (.log entry) => ⟨(run.log.log run.files entry).2.1, (run.log.log run.files entry).2.2⟩
  | .call .clear => { run with log := run.log.clear }
  | .others change => { run with files := change run.files }

def after (settings : LogSettings) (files : FileTree) (events : List LogEvent) : LogRun :=
  events.foldl step { log := { settings }, files }

theorem after_concat (settings : LogSettings) (files : FileTree) (events : List LogEvent)
    (event : LogEvent) :
    after settings files (events ++ [event]) = (after settings files events).step event :=
  List.foldl_concat _ _ _ _

end LogRun

@[simp] theorem loggedSinceClear_nil : loggedSinceClear [] = [] := rfl

theorem loggedSinceClear_log (events : List LogEvent) (entry : LogEntry) :
    loggedSinceClear (events ++ [.call (.log entry)]) = loggedSinceClear events ++ [entry] := by
  simp [loggedSinceClear, LogEvent.isClear, LogEvent.entry?, LogCall.entry?]

theorem loggedSinceClear_clear (events : List LogEvent) :
    loggedSinceClear (events ++ [.call .clear]) = [] := by
  simp [loggedSinceClear, LogEvent.isClear]

theorem loggedSinceClear_others (events : List LogEvent) (change : FileTree → FileTree) :
    loggedSinceClear (events ++ [.others change]) = loggedSinceClear events := by
  simp [loggedSinceClear, LogEvent.isClear, LogEvent.entry?]

/-! ## One call -/

/-- What is kept of an entry: everything, or everything but the raw texts. -/
def LogSettings.kept (settings : LogSettings) (entry : LogEntry) : LogEntry :=
  { entry with
    request := if settings.includeRaw then entry.request else ""
    response := if settings.includeRaw then entry.response else "" }

theorem LogSettings.shape_eq_kept (settings : LogSettings) (entry : LogEntry) :
    settings.shape entry = settings.kept entry := by
  unfold shape kept LogEntry.withoutRaw
  cases settings.includeRaw <;> rfl

namespace ExchangeLog

/-- Why an entry does not get into the file of a log. -/
def refusal? (log : ExchangeLog) (files : FileTree) (entry : LogEntry) : Option Failure :=
  match log.settings.filePath with
  | none => none
  | some path =>
    match files.append path (bytesOf (entry.text ++ "\n")) with
    | .ok _ => none
    | .error fault => some (.logging s!"{path}: {fault.message}")

theorem appendToFile_eq_error_iff (log : ExchangeLog) (files : FileTree) (entry : LogEntry)
    (failure : Failure) :
    log.appendToFile files entry = .error failure ↔ log.refusal? files entry = some failure := by
  unfold appendToFile refusal?
  cases log.settings.filePath with
  | none => simp
  | some path =>
      dsimp only
      cases files.append path (bytesOf (entry.text ++ "\n")) <;> simp

theorem log_of_disabled (log : ExchangeLog) (files : FileTree) (entry : LogEntry)
    (disabled : log.settings.enabled = false) : log.log files entry = (.ok (), log, files) := by
  simp [ExchangeLog.log, disabled]

/-- Memory takes the entry whatever becomes of the file. -/
theorem log_of_enabled (log : ExchangeLog) (files : FileTree) (entry : LogEntry)
    (enabled : log.settings.enabled = true) :
    (log.log files entry).2.1 = log.remember (log.settings.kept entry) := by
  rw [ExchangeLog.log, if_pos enabled, log.settings.shape_eq_kept]
  dsimp only
  cases log.appendToFile files (log.settings.kept entry) <;> rfl

/-- A failure is that of the file, which is then as it was. -/
theorem log_fails_iff (log : ExchangeLog) (files : FileTree) (entry : LogEntry)
    (enabled : log.settings.enabled = true) (failure : Failure) :
    (log.log files entry).1 = .error failure ↔
      log.refusal? files (log.settings.kept entry) = some failure := by
  rw [← appendToFile_eq_error_iff, ExchangeLog.log, if_pos enabled, log.settings.shape_eq_kept]
  dsimp only
  cases log.appendToFile files (log.settings.kept entry) <;> simp

theorem files_of_log_fails (log : ExchangeLog) (files : FileTree) (entry : LogEntry)
    (failure : Failure) (fails : (log.log files entry).1 = .error failure) :
    (log.log files entry).2.2 = files := by
  cases enabled : log.settings.enabled with
  | false => rw [log.log_of_disabled files entry enabled]
  | true =>
      rw [ExchangeLog.log, if_pos enabled] at fails ⊢
      dsimp only at fails ⊢
      cases appended : log.appendToFile files (log.settings.shape entry) with
      | error failure => rfl
      | ok written => simp [appended] at fails

theorem remember_isNewest (log : ExchangeLog) (logged : List LogEntry)
    (window : IsNewest log.settings.capacity log.entries logged) (entry : LogEntry) :
    IsNewest log.settings.capacity (log.remember entry).entries (logged ++ [entry]) := by
  obtain ⟨room, capacity⟩ : ∃ room, log.settings.capacity = room + 1 :=
    ⟨log.settings.capacity - 1, by unfold LogSettings.capacity; omega⟩
  rw [capacity] at window
  have left : IsNewest room (makeRoom (room + 1) log.entries) logged :=
    (makeRoom_isNewest room log.entries).trans window (Nat.le_succ room)
  simpa only [remember, capacity] using left.concat entry

theorem recent_isNewest (log : ExchangeLog) (count : Nat) :
    IsNewest count (log.recent count).reverse log.entries := by
  rw [recent, List.take_reverse, List.reverse_reverse]
  exact ⟨List.drop_suffix _ _, by rw [List.length_drop]; omega⟩

theorem withRule_eq (log : ExchangeLog) (ruleId : String) :
    log.withRule ruleId = log.entries.filter fun entry =>
      (∃ finding ∈ entry.requestFindings, finding.ruleId = ruleId) ∨
        (∃ finding ∈ entry.responseFindings, finding.ruleId = ruleId) ∨
          ∃ finding ∈ entry.validatorFindings, finding.ruleId = ruleId := by
  refine List.filter_congr fun entry _ => ?_
  rw [LogEntry.hasRule, LogEntry.findings, Bool.eq_iff_iff]
  simp only [List.any_append, Bool.or_eq_true, List.any_eq_true, beq_iff_eq, decide_eq_true_eq,
    or_assoc]

end ExchangeLog

/-! ## Whole runs -/

namespace LogRun

theorem step_settings (run : LogRun) (event : LogEvent) :
    (run.step event).log.settings = run.log.settings := by
  cases event with
  | others change => rfl
  | call call =>
      cases call with
      | clear => rfl
      | log entry =>
          cases enabled : run.log.settings.enabled with
          | false => simp [step, run.log.log_of_disabled run.files entry enabled]
          | true =>
              rw [step, run.log.log_of_enabled run.files entry enabled]
              rfl

@[simp] theorem after_settings (settings : LogSettings) (files : FileTree)
    (events : List LogEvent) : (after settings files events).log.settings = settings := by
  induction events using List.reverseRecOn with
  | nil => rfl
  | append_singleton events event ih => rw [after_concat, step_settings, ih]

/-- The window over a run: an event moves it by the entry it logs, or empties it. -/
theorem after_isNewest (settings : LogSettings) (enabled : settings.enabled = true)
    (files : FileTree) (events : List LogEvent) :
    IsNewest settings.capacity (after settings files events).log.entries
      ((loggedSinceClear events).map settings.kept) := by
  induction events using List.reverseRecOn with
  | nil => exact .nil _
  | append_singleton events event ih =>
      have same := after_settings settings files events
      rw [after_concat]
      cases event with
      | others change => rwa [loggedSinceClear_others]
      | call call =>
          cases call with
          | clear =>
              rw [loggedSinceClear_clear]
              exact .nil _
          | log entry =>
              have takes := ExchangeLog.log_of_enabled (after settings files events).log
                (after settings files events).files entry ((congrArg _ same).trans enabled)
              have more := ExchangeLog.remember_isNewest (after settings files events).log _
                (by rwa [same]) (settings.kept entry)
              rw [same] at takes more
              rwa [loggedSinceClear_log, List.map_append, step, takes]

theorem after_of_disabled (settings : LogSettings) (disabled : settings.enabled = false)
    (files : FileTree) (events : List LogEvent) :
    (after settings files events).log.entries = [] ∧
      (after settings files events).files = events.foldl LogEvent.disturb files := by
  induction events using List.reverseRecOn with
  | nil => exact ⟨rfl, rfl⟩
  | append_singleton events event ih =>
      obtain ⟨empty, untouched⟩ := ih
      have same := after_settings settings files events
      rw [after_concat, List.foldl_concat, ← untouched]
      cases event with
      | others change => exact ⟨empty, rfl⟩
      | call call =>
          cases call with
          | clear => exact ⟨rfl, rfl⟩
          | log entry =>
              rw [step, ExchangeLog.log_of_disabled _ _ _ ((congrArg _ same).trans disabled)]
              exact ⟨empty, rfl⟩

end LogRun

/-- What can be asked of a log after some events, and what becomes of one more entry. -/
structure LogRun.Windowed (settings : LogSettings) (events : List LogEvent) (run : LogRun) :
    Prop where
  entries : IsNewest (max 1 settings.maxEntries) run.log.entries
    ((loggedSinceClear events).map settings.kept)
  failure : ∀ entry failure, (run.log.log run.files entry).1 = .error failure ↔
    run.log.refusal? run.files (settings.kept entry) = some failure
  fileKept : ∀ entry failure, (run.log.log run.files entry).1 = .error failure →
    (run.log.log run.files entry).2.2 = run.files

/-- What a log that is switched off does: nothing. -/
structure LogRun.Idle (files : FileTree) (events : List LogEvent) (run : LogRun) : Prop where
  succeeds : ∀ entry, (run.log.log run.files entry).1 = .ok ()
  entries : run.log.entries = []
  files : run.files = events.foldl LogEvent.disturb files

/-- The answers of a log agree with its memory. -/
structure ExchangeLog.Answers (log : ExchangeLog) : Prop where
  count : log.count = log.entries.length
  bounded : log.count ≤ max 1 log.settings.maxEntries
  recent : ∀ count, IsNewest count (log.recent count).reverse log.entries
  withRule : ∀ ruleId, log.withRule ruleId = log.entries.filter fun entry =>
    (∃ finding ∈ entry.requestFindings, finding.ruleId = ruleId) ∨
      (∃ finding ∈ entry.responseFindings, finding.ruleId = ruleId) ∨
        ∃ finding ∈ entry.validatorFindings, finding.ruleId = ruleId

/-- A log that is switched on is a window over what was logged since it was last cleared, even if
not a single entry got into its file; one that is switched off is idle. -/
theorem exchange_log_is_window (settings : LogSettings) (files : FileTree)
    (events : List LogEvent) :
    let run := LogRun.after settings files events
    (if settings.enabled then run.Windowed settings events else run.Idle files events) ∧
      run.log.settings = settings ∧ run.log.Answers := by
  intro run
  have same : run.log.settings = settings := LogRun.after_settings settings files events
  cases enabled : settings.enabled with
  | false =>
      obtain ⟨empty, untouched⟩ := LogRun.after_of_disabled settings enabled files events
      refine ⟨⟨?_, empty, untouched⟩, same, rfl, ?_, run.log.recent_isNewest, run.log.withRule_eq⟩
      · intro entry
        rw [← same] at enabled
        rw [run.log.log_of_disabled run.files entry enabled]
      · rw [ExchangeLog.count, empty]
        exact Nat.zero_le _
  | true =>
      have window := LogRun.after_isNewest settings enabled files events
      rw [LogSettings.capacity, Nat.max_comm] at window
      refine ⟨⟨window, ?_, run.log.files_of_log_fails run.files⟩, same, rfl, ?_,
        run.log.recent_isNewest, run.log.withRule_eq⟩
      · intro entry failure
        rw [← same] at enabled ⊢
        exact run.log.log_fails_iff run.files entry enabled failure
      · rw [ExchangeLog.count, same, window.2]
        exact Nat.min_le_left _ _

end HttpInspection
