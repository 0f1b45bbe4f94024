import PluginKit.Log.Logger
import PluginKit.Proofs.Files
import PluginKit.Proofs.Plugin.Activity

/-!
What the parts of logging do to the logger. Setting it up gives it the handlers that are asked for and closes those it had;
a record only changes what a handler remembers of the time.
-/

namespace PluginKit.Log

open Activity

/-! ## Handlers as they are attached -/

def Target.fresh : Target → Target
  | .console showTime _ => .console showTime false
  | target => target

def Handler.fresh (h : Handler) : Handler := { h with target := h.target.fresh }

def Logger.fresh (logger : Logger) : Logger := { logger with handlers := logger.handlers.map Handler.fresh }

theorem Logger.fresh_set {logger : Logger} {i : Nat} {h : Handler}
    (same : (logger.handlers.map Handler.fresh)[i]? = some h.fresh) :
    Logger.fresh { logger with handlers := logger.handlers.set i h } = logger.fresh := by
  obtain ⟨inside, equal⟩ := List.getElem?_eq_some_iff.mp same
  simp only [Logger.fresh, List.map_set, ← equal, List.set_getElem_self]

namespace Logging

def Stable (I : Files → Prop) : Prop :=
  ∀ files path data written, I files → files.write path data = .ok written → I written

structure Kept (logger : Logger) (I : Files → Prop) (l : Logging) : Prop where
  logger : l.logger.fresh = logger
  files : I l.files

variable {logger : Logger} {I : Files → Prop}

theorem attempt_kept (path : Path) {result : Except FileFault Files} (fine : ∀ files, result = .ok files → I files) :
    Raises (Kept logger I) (fun _ => True) (attempt path result) := by
  cases result with
  | ok files => exact .modify fun l kept => ⟨kept.logger, fine files rfl⟩
  | error fault => exact .throw trivial

theorem write_kept (stable : Stable I) (r : Record) (h : Handler) :
    Yields (Kept logger I) (fun after => after.fresh = h.fresh) (fun _ => True) (write r h) := by
  obtain ⟨target, level⟩ := h
  cases target with
  | console showTime timeShown =>
      simp only [write]
      cases Markup.plain r.message.toList with
      | error fault => exact .throw trivial
      | ok message =>
          exact .get_bind fun l _ => .bind (.modify fun l kept => ⟨kept.logger, kept.files⟩) fun _ _ => .pure rfl
  | stream => exact .bind (.modify fun l kept => ⟨kept.logger, kept.files⟩) fun _ _ => .pure rfl
  | file path =>
      refine .get_bind fun l kept => ?_
      dsimp only
      split
      · split
        · exact .bind (attempt_kept path fun files => stable l.files path _ files kept.files) fun _ _ => .pure rfl
        · exact .pure rfl
      · exact .throw trivial
      · exact .throw trivial

theorem deliver_kept (stable : Stable I) (r : Record) (i : Nat) {handlers : List Handler}
    (left : handlers.map Handler.fresh = logger.handlers.drop i) :
    Raises (Kept logger I) (fun _ => True) (deliver r i handlers) := by
  induction handlers generalizing i with
  | nil => exact .pure trivial
  | cons h rest ih =>
      have later : rest.map Handler.fresh = logger.handlers.drop (i + 1) := by
        rw [← List.drop_drop, ← left]
        rfl
      have here : logger.handlers[i]? = some h.fresh := by
        rw [← List.head?_drop, ← left]
        rfl
      simp only [deliver]
      split
      · refine .bind (write_kept stable r h) fun after same =>
          .bind (.modify fun l kept => ⟨?_, kept.files⟩) fun _ _ => ih (i + 1) later
        have place : (l.logger.handlers.map Handler.fresh)[i]? = some after.fresh := by
          rw [same, ← here, ← kept.logger]
          rfl
        exact (Logger.fresh_set place).trans kept.logger
      · exact ih (i + 1) later

theorem accept_kept (stable : Stable I) (r : Record) : Raises (Kept logger I) (fun _ => True) (accept r) := by
  refine .get_bind fun l kept => ?_
  have noted : Raises (Kept logger I) (fun _ : Error => True)
      (if reachesRoot r.level then modify fun l => { l with records := l.records ++ [r] } else pure ()) := by
    split
    · exact .modify fun l kept => ⟨kept.logger, kept.files⟩
    · exact .pure trivial
  have all : l.logger.handlers.map Handler.fresh = logger.handlers.drop 0 := by
    rw [← kept.logger]
    rfl
  split
  · dsimp only
    split
    · exact .bind (deliver_kept stable r 0 all) fun _ _ => noted
    · exact noted
  · exact .pure trivial

theorem emit_kept (stable : Stable I) (name : String) (level : Level) (template : String) (args : List Value) :
    Raises (Kept logger I) (fun _ => True) (emit name level template args) := by
  refine .get_bind fun l _ => ?_
  split
  · split
    · split
      · exact .throw trivial
      · exact .pure trivial
    · exact accept_kept stable _
  · exact .pure trivial

theorem emit_fresh (name : String) (level : Level) (template : String) (args : List Value) (l : Logging) :
    (emit name level template args l).2.logger.fresh = l.logger.fresh := by
  have stable : Stable fun _ => True := fun _ _ _ _ _ _ => trivial
  exact ((emit_kept stable name level template args).keeps l ⟨rfl, trivial⟩).logger

end Logging

/-! ## Setting up -/

namespace Setup

def fileHandler? (setup : Setup) : Option Handler :=
  match setup.file with
  | .text name => if name.isEmpty then none else some ⟨.file (Path.ofString name), setup.fileLevel⟩
  | _ => none

def handlers (setup : Setup) : List Handler := setup.consoleHandler?.toList ++ setup.fileHandler?.toList

theorem consoleHandler?_fresh {setup : Setup} {h : Handler} (asked : setup.consoleHandler? = some h) : h.fresh = h := by
  unfold consoleHandler? at asked
  split at asked
  · cases asked
  · split at asked <;> cases asked <;> rfl

theorem fileHandler?_fresh {setup : Setup} {h : Handler} (asked : setup.fileHandler? = some h) : h.fresh = h := by
  unfold fileHandler? at asked
  split at asked
  · split at asked <;> cases asked
    rfl
  · cases asked

theorem handlers_fresh (setup : Setup) : setup.handlers.map Handler.fresh = setup.handlers := by
  refine (List.map_congr_left fun h member => ?_).trans (List.map_id _)
  rcases List.mem_append.mp member with console | file
  · exact consoleHandler?_fresh (Option.mem_toList.mp console)
  · exact fileHandler?_fresh (Option.mem_toList.mp file)

end Setup

namespace Logging

def attach (path : Path) (level : Level) : Act Unit := do
  attempt path.parent ((← get).files.makeDirectories path.parent)
  openFile path
  onLogger (·.attach ⟨.file path, level⟩)

def attachFile (setup : Setup) : Act Unit :=
  match setup.file with
  | .text name => if name.isEmpty then pure () else attach (Path.ofString name) setup.fileLevel
  | file => if !file.isVoid then throw (.noPath file.kind) else pure ()

theorem configure_eq (setup : Setup) (l : Logging) :
    configure setup l = attachFile setup { l with
      logger := ⟨setup.level, setup.consoleHandler?.toList, l.logger.closed ++ l.logger.handlers⟩ } := by
  unfold configure
  cases setup.consoleHandler? <;> rfl

theorem attempt_ok {path : Path} {result : Except FileFault Files} {l l' : Logging}
    (ran : attempt path result l = (.ok (), l')) : ∃ files, result = .ok files ∧ l' = { l with files := files } := by
  cases result with
  | ok files => exact ⟨files, rfl, (Prod.mk.inj ran).2.symm⟩
  | error fault => cases ran

theorem openFile_ok {path : Path} {l l' : Logging} (ran : openFile path l = (.ok (), l')) :
    ∃ files data, l' = { l with files := files } ∧ files.find path = .ok (.file data) := by
  rw [openFile, get_bind] at ran
  have made (ran : attempt path (l.files.write path []) l = (.ok (), l')) :
      ∃ files data, l' = { l with files := files } ∧ files.find path = .ok (.file data) := by
    obtain ⟨files, wrote, rfl⟩ := attempt_ok ran
    exact ⟨files, [], rfl, Files.find_write wrote⟩
  cases found : l.files.find path with
  | error fault =>
      simp only [found] at ran
      exact made ran
  | ok entry =>
      cases entry with
      | directory =>
          simp only [found] at ran
          exact made ran
      | file data =>
          simp only [found] at ran
          cases ran
          exact ⟨l.files, data, rfl, found⟩

theorem attach_ok {path : Path} {level : Level} {l l' : Logging} (ran : attach path level l = (.ok (), l')) :
    ∃ files data, l' = { l with
        logger := { l.logger with handlers := l.logger.handlers ++ [⟨.file path, level⟩] }, files := files } ∧
      files.find path = .ok (.file data) := by
  rw [attach, get_bind] at ran
  rcases bind_cases (attempt path.parent _) _ l with ⟨_, l₁, made, eq⟩ | ⟨e, l₁, -, eq⟩ <;> rw [eq] at ran
  · obtain ⟨files₁, -, rfl⟩ := attempt_ok made
    rcases bind_cases (openFile path) _ { l with files := files₁ } with ⟨_, l₂, opened, eq⟩ | ⟨e, l₂, -, eq⟩ <;>
      rw [eq] at ran
    · obtain ⟨files, data, rfl, found⟩ := openFile_ok opened
      cases ran
      exact ⟨files, data, rfl, found⟩
    · cases ran
  · cases ran

theorem attachFile_ok {setup : Setup} {l l' : Logging} (ran : attachFile setup l = (.ok (), l')) :
    ∃ files, l' = { l with
        logger := { l.logger with handlers := l.logger.handlers ++ setup.fileHandler?.toList }, files := files } ∧
      ∀ path level, setup.fileHandler? = some ⟨.file path, level⟩ → ∃ data, files.find path = .ok (.file data) := by
  have nothing : l = { l with logger := { l.logger with handlers := l.logger.handlers ++ [] } } := by
    rw [List.append_nil]
  unfold attachFile at ran
  unfold Setup.fileHandler?
  cases given : setup.file with
  | text name =>
      simp only [given] at ran ⊢
      by_cases empty : name.isEmpty = true
      · rw [if_pos empty] at ran ⊢
        cases ran
        exact ⟨_, nothing, nofun⟩
      · rw [if_neg empty] at ran ⊢
        obtain ⟨files, data, rfl, found⟩ := attach_ok ran
        refine ⟨files, rfl, fun path level asked => ?_⟩
        cases asked
        exact ⟨data, found⟩
  | _ =>
      simp only [given] at ran ⊢
      split at ran
      · cases ran
      · cases ran
        exact ⟨_, nothing, nofun⟩

theorem configure_ok {setup : Setup} {l l' : Logging} (ran : configure setup l = (.ok (), l')) :
    ∃ files, l' = { l with
        logger := ⟨setup.level, setup.handlers, l.logger.closed ++ l.logger.handlers⟩, files := files } ∧
      ∀ path level, setup.fileHandler? = some ⟨.file path, level⟩ → ∃ data, files.find path = .ok (.file data) := by
  rw [configure_eq] at ran
  exact attachFile_ok ran

end Logging

end PluginKit.Log
