import PluginKit.Command.Run
import PluginKit.Proofs.Plugin.Activity

/-!
What logging does to a run. The handlers of a run print to the console only, so a record may be printed, and may fail to
be printed, but no file changes; and a record that is not heard changes nothing at all.
-/

namespace PluginKit

open Activity

namespace Log

def Handler.IsConsole (h : Handler) : Prop := ∃ showTime timeShown, h.target = .console showTime timeShown

namespace Logger

def OnConsole (logger : Logger) : Prop := ∀ h ∈ logger.handlers, h.IsConsole

def Deaf (logger : Logger) (level : Level) : Prop := logger.handlers = [] ∨ logger.admits level = false

theorem OnConsole.set {logger : Logger} (console : logger.OnConsole) (i : Nat) {h : Handler} (own : h.IsConsole) :
    OnConsole { logger with handlers := logger.handlers.set i h } := by
  intro h' member
  rcases List.mem_or_eq_of_mem_set member with old | rfl
  · exact console h' old
  · exact own

end Logger

namespace Logging

theorem accept_deaf {r : Record} {l : Logging} (deaf : l.logger.Deaf r.level) :
    ∃ records, accept r l = (.ok (), { l with records := records }) := by
  unfold accept
  rw [get_bind]
  have noted : ∃ records, (if reachesRoot r.level then modify fun l => { l with records := l.records ++ [r] }
      else pure () : Act Unit) l = (.ok (), { l with records := records }) := by
    split
    · exact ⟨_, rfl⟩
    · exact ⟨_, rfl⟩
  by_cases own : isOfPackage r.logger = true
  · rcases deaf with bare | refused
    · dsimp only
      rw [bare, if_pos own]
      split
      · exact noted
      · exact ⟨_, rfl⟩
    · rw [admits, if_pos own, refused]
      exact ⟨_, rfl⟩
  · dsimp only
    rw [if_neg own]
    split
    · exact noted
    · exact ⟨_, rfl⟩

structure Steady (files : Files) (level : Level) (l : Logging) : Prop where
  files : l.files = files
  console : l.logger.OnConsole
  level : l.logger.level = level

variable {files : Files} {level : Level}

def IsMarkup (e : Error) : Prop := ∃ fault, e = .markup fault

theorem write_steady (r : Record) {h : Handler} (console : h.IsConsole) :
    Yields (Steady files level) Handler.IsConsole IsMarkup (write r h) := by
  obtain ⟨showTime, timeShown, target⟩ := console
  rw [write, target]
  dsimp only
  cases Markup.plain r.message.toList with
  | error fault => exact .throw ⟨fault, rfl⟩
  | ok message =>
      refine .get_bind fun l _ => .bind (.modify fun l steady => ?_) fun _ _ => .pure ⟨showTime, true, rfl⟩
      exact ⟨steady.files, steady.console, steady.level⟩

theorem deliver_steady (r : Record) (i : Nat) {handlers : List Handler}
    (console : ∀ h ∈ handlers, h.IsConsole) :
    Raises (Steady files level) IsMarkup (deliver r i handlers) := by
  induction handlers generalizing i with
  | nil => exact .pure trivial
  | cons h rest ih =>
      have later := ih (i + 1) fun h' member => console h' (List.mem_cons_of_mem _ member)
      rw [deliver]
      dsimp only
      split
      · refine .bind (write_steady r (console h List.mem_cons_self)) fun after own => ?_
        refine .bind (.modify fun l steady => ?_) fun _ _ => later
        exact ⟨steady.files, steady.console.set i own, steady.level⟩
      · exact later

theorem accept_steady (r : Record) : Raises (Steady files level) IsMarkup (accept r) := by
  refine .get_bind fun l steady => ?_
  have noted : Raises (Steady files level) IsMarkup
      (if reachesRoot r.level then modify fun l => { l with records := l.records ++ [r] } else pure ()) := by
    split
    · exact .modify fun l steady => ⟨steady.files, steady.console, steady.level⟩
    · exact .pure trivial
  split
  · dsimp only
    split
    · exact .bind (deliver_steady r 0 steady.console) fun _ _ => noted
    · exact noted
  · exact .pure trivial

end Logging

end Log

namespace Command

variable {σ ρ α β : Type}

/-! ## Printing -/

def Failure.isPrinting : Failure → Bool
  | .log (.markup _) | .markup _ | .unprintable _ | .unencodable _ => true
  | _ => false

theorem print_cases (lines : List String) (s : Shell ρ) :
    print lines s = (.ok (), { s with output := s.output ++ String.join (lines.map (· ++ "\n")) }) ∨
      ∃ fault, print lines s = (.error (.failure (.unprintable fault)), s) := by
  rw [print]
  cases Utf8.encodeFault? (String.join (lines.map (· ++ "\n"))) with
  | some fault => exact .inr ⟨fault, rfl⟩
  | none => exact .inl rfl

theorem print_nil (s : Shell ρ) : print [] s = (.ok (), s) := by
  have shown : Utf8.encodeFault? "" = none := by simp [Utf8.encodeFault?, String.contains_char_eq]
  rw [print, List.map_nil, String.join_nil, shown]
  have same : { s with output := s.output ++ "" } = s := by rw [String.append_empty]
  exact congrArg (Prod.mk (Except.ok ())) same

theorem printStyled_cases (lines : Except Markup.Fault (List String)) (s : Shell ρ) :
    (∃ found, lines = .ok found ∧
        printStyled lines s = (.ok (), { s with output := s.output ++ String.join (found.map (· ++ "\n")) })) ∨
      ∃ cause, cause.isPrinting = true ∧ printStyled lines s = (.error (.failure cause), s) := by
  cases lines with
  | error fault => exact .inr ⟨.markup fault, rfl, rfl⟩
  | ok found =>
      rcases print_cases found s with printed | ⟨fault, printed⟩
      · exact .inl ⟨found, rfl, printed⟩
      · exact .inr ⟨.unprintable fault, rfl, printed⟩

/-! ## Parts of runs -/

structure Tuned (verbose : Bool) (logger : Log.Logger) : Prop where
  console : logger.OnConsole
  quiet : verbose = false → logger.level = Log.warningLevel

def Logs (verbose : Bool) (s s' : Shell ρ) : Prop :=
  ∃ logger log, s' = { s with logger := logger, output := s.output ++ log } ∧ Tuned verbose logger ∧
    (verbose = false → log = "")

variable {verbose : Bool} {files : Files}

theorem Logs.refl {s : Shell ρ} (tuned : Tuned verbose s.logger) : Logs verbose s s :=
  ⟨s.logger, "", by rw [String.append_empty], tuned, fun _ => rfl⟩

theorem Logs.trans {s s' s'' : Shell ρ} (first : Logs verbose s s') (second : Logs verbose s' s'') :
    Logs verbose s s'' := by
  obtain ⟨_, log, rfl, -, unsaid⟩ := first
  obtain ⟨logger, log', rfl, tuned, unsaid'⟩ := second
  exact ⟨logger, log ++ log', by rw [← String.append_assoc], tuned, fun quiet => by rw [unsaid quiet, unsaid' quiet]; rfl⟩

theorem Logs.files_eq {s s' : Shell ρ} (logs : Logs verbose s s') : s'.files = s.files := by
  obtain ⟨_, _, rfl, -, -⟩ := logs
  rfl

theorem Logs.tuned {s s' : Shell ρ} (logs : Logs verbose s s') : Tuned verbose s'.logger := by
  obtain ⟨_, _, rfl, tuned, -⟩ := logs
  exact tuned

def IsSuccess : Except Stop β → Prop
  | .ok _ => True
  | .error (.exit code) => code = 0
  | .error (.failure _) => False

/-- With certain files, a run comes to what is expected and goes on with it, unless a record cannot be printed. If
nothing is expected it does not go well, and leaves the files as they are. -/
def Follows (verbose : Bool) (files : Files) (x : Run ρ β) (expected : Option α) (k : α → Run ρ β) : Prop :=
  ∀ s : Shell ρ, s.files = files → Tuned verbose s.logger →
    match expected with
    | some a => ∃ s', Logs verbose s s' ∧ (x s = k a s' ∨
        verbose = true ∧ ∃ cause, cause.isPrinting = true ∧ x s = (.error (.failure cause), s'))
    | none => ¬IsSuccess (x s).1 ∧ (x s).2.files = files

abbrev Gives (verbose : Bool) (files : Files) (x : Run ρ α) (expected : Option α) : Prop :=
  Follows verbose files x expected pure

namespace Follows

variable {γ : Type} {x : Run ρ α} {y : α → Run ρ β} {expected : Option γ} {k : γ → Run ρ β}

theorem here (c : γ) : Follows verbose files (k c) (some c) k :=
  fun s _ tuned => ⟨s, .refl tuned, .inl rfl⟩

theorem pure (a : α) : Gives verbose files (pure a : Run ρ α) (some a) := here a

theorem fail (cause : Failure) : Follows verbose files (fail cause : Run ρ β) none k :=
  fun _ same _ => ⟨id, same⟩

theorem stop (gives : Gives verbose files x none) : Follows verbose files (x >>= y) none k := by
  intro s same tuned
  have ended : ¬IsSuccess (x s).1 ∧ (x s).2.files = files := gives s same tuned
  rcases bind_cases x y s with ⟨a, s', run, -⟩ | ⟨e, s', run, eq⟩ <;> rw [run] at ended
  · exact absurd trivial ended.1
  · rw [eq]
    cases e with
    | exit code => exact ended
    | failure cause => exact ⟨id, ended.2⟩

theorem bind {first : Option α} {rest : α → Option γ} (gives : Gives verbose files x first)
    (later : ∀ a, first = some a → Follows verbose files (y a) (rest a) k) :
    Follows verbose files (x >>= y) (first.bind rest) k := by
  intro s same tuned
  cases first with
  | none => exact (stop gives : Follows verbose files (x >>= y) none k) s same tuned
  | some a =>
      rw [Option.bind_some]
      obtain ⟨s', logs, run | ⟨loud, cause, printing, run⟩⟩ := gives s same tuned
      · have next := later a rfl s' (logs.files_eq.trans same) logs.tuned
        rw [bind_ok run]
        cases wanted : rest a with
        | none =>
            rw [wanted] at next
            exact next
        | some b =>
            rw [wanted] at next
            obtain ⟨s'', logs', outcome⟩ := next
            exact ⟨s'', logs.trans logs', outcome⟩
      · rw [bind_error run]
        cases rest a with
        | none => exact ⟨id, logs.files_eq.trans same⟩
        | some b => exact ⟨s', logs, .inr ⟨loud, cause, printing, rfl⟩⟩

theorem get_bind {y : Shell ρ → Run ρ β} (later : ∀ s, s.files = files → Follows verbose files (y s) expected k) :
    Follows verbose files ((get : Run ρ (Shell ρ)) >>= y) expected k :=
  fun s same tuned => later s same s same tuned

theorem giveUp (message details : String) : Follows verbose files (giveUp message details : Run ρ β) none k := by
  intro s same _
  unfold Command.giveUp
  rcases printStyled_cases (Console.say .error message (some details)) s with ⟨_, -, printed⟩ | ⟨_, -, failed⟩
  · rw [bind_ok printed]
    exact ⟨Nat.one_ne_zero, same⟩
  · rw [bind_error failed]
    exact ⟨id, same⟩

theorem report (headline : String) (e : PluginError) : Follows verbose files (report headline e : Run ρ β) none k := by
  unfold Command.report
  split
  · exact giveUp headline e.message
  · exact fail _

end Follows

/-! ## Records -/

theorem onLogging_apply (action : Log.Logging.Act Unit) (s : Shell ρ) {result : Except Log.Error Unit}
    {after : Log.Logging} (acted : action ⟨s.width, s.logger, s.files, [], []⟩ = (result, after)) :
    onLogging action s = (do
      print after.screen
      match result with
      | .ok _ => pure ()
      | .error e => fail (.log e) : Run ρ Unit) { s with logger := after.logger, files := after.files } := by
  unfold onLogging
  rw [Activity.get_bind]
  simp only [ExceptT.run, acted]
  rfl

theorem onLogging_deaf {r : Log.Record} {s : Shell ρ} (deaf : s.logger.Deaf r.level) :
    onLogging (Log.Logging.accept r) s = (.ok (), s) := by
  have unheard : (⟨s.width, s.logger, s.files, [], []⟩ : Log.Logging).logger.Deaf r.level := deaf
  obtain ⟨records, accepted⟩ := Log.Logging.accept_deaf unheard
  rw [onLogging_apply _ s accepted, bind_ok (print_nil _)]
  rfl

theorem onLogging_accept (r : Log.Record) (s : Shell ρ) (console : s.logger.OnConsole) :
    ∃ logger log, logger.OnConsole ∧
      (onLogging (Log.Logging.accept r) s = (.ok (), { s with logger := logger, output := s.output ++ log }) ∨
        ∃ cause, cause.isPrinting = true ∧ onLogging (Log.Logging.accept r) s =
          (.error (.failure cause), { s with logger := logger, output := s.output ++ log })) := by
  have steady : Log.Logging.Steady s.files s.logger.level ⟨s.width, s.logger, s.files, [], []⟩ := ⟨rfl, console, rfl⟩
  obtain ⟨after, -, fails⟩ := Log.Logging.accept_steady r _ steady
  obtain ⟨result, l, accepted⟩ :
      ∃ result l, Log.Logging.accept r ⟨s.width, s.logger, s.files, [], []⟩ = (result, l) := ⟨_, _, rfl⟩
  rw [accepted] at after fails
  rw [onLogging_apply _ s accepted, after.files]
  rcases print_cases l.screen { s with logger := l.logger } with printed | ⟨fault, printed⟩
  · refine ⟨l.logger, String.join (l.screen.map (· ++ "\n")), after.console, ?_⟩
    cases result with
    | ok _ => exact .inl (bind_ok printed)
    | error e =>
        obtain ⟨markup, rfl⟩ := fails e rfl
        exact .inr ⟨.log (.markup markup), rfl, bind_ok printed⟩
  · refine ⟨l.logger, "", after.console, .inr ⟨.unprintable fault, rfl, (bind_error printed).trans ?_⟩⟩
    rw [String.append_empty]

theorem logAll_gives {records : List Log.Record} (minor : ∀ r ∈ records, r.level = Log.debugLevel) :
    Gives verbose files (logAll records : Run ρ Unit) (some ()) := by
  induction records with
  | nil => exact .pure ()
  | cons r rest ih =>
      have first : Gives verbose files (onLogging (Log.Logging.accept r) : Run ρ Unit) (some ()) := by
        intro s same tuned
        cases verbose with
        | false =>
            have deaf : s.logger.Deaf r.level := by
              right
              rw [Log.Logger.admits, tuned.quiet rfl, minor r List.mem_cons_self]
              rfl
            exact ⟨s, .refl tuned, .inl (onLogging_deaf deaf)⟩
        | true =>
            obtain ⟨logger, log, console, run⟩ := onLogging_accept r s tuned.console
            refine ⟨_, ⟨logger, log, rfl, ⟨console, nofun⟩, nofun⟩, ?_⟩
            exact run.imp_right fun failed => ⟨rfl, failed⟩
      exact .bind first fun _ _ => ih fun r' member => minor r' (List.mem_cons_of_mem _ member)

theorem logAll_deaf {s : Shell ρ} (bare : s.logger.handlers = []) (records : List Log.Record) :
    logAll records s = (.ok (), s) := by
  induction records with
  | nil => rfl
  | cons r rest ih => exact (bind_ok (onLogging_deaf (.inl bare))).trans ih

theorem Follows.logged {γ : Type} {records : List Log.Record} {y : Unit → Run ρ β} {expected : Option γ}
    {k : γ → Run ρ β} (minor : ∀ r ∈ records, r.level = Log.debugLevel)
    (later : Follows verbose files (y ()) expected k) : Follows verbose files (logAll records >>= y) expected k :=
  .bind (logAll_gives minor) fun _ _ => later

end Command

end PluginKit
