import PluginKit.Proofs.Log.Handlers

/-!
Sessions with the logger. It may be set up again and again, its level may be changed for good or for the time of a block,
and records may be logged in between. What its handlers are follows from the last set-up and the levels set since; a
handler that is no longer among them is closed; and a block changes the level only as long as it lasts.
-/

namespace PluginKit.Log

open Activity

/-- What a program does with the logger. Contexts of blocks go by numbers. A block that fails is left like any other, so
its steps are those up to the failure. -/
inductive Step where
  | configure (arguments : List (String × Value))
  | setLevel (level : Level)
  | emit (logger : String) (level : Level) (template : String) (args : List Value)
  | enter (context : Nat)
  | leave (context : Nat)

structure Session where
  logging : Logging
  contexts : Nat → Context

namespace Session

abbrev logger (s : Session) : Logger := s.logging.logger

def start (width : Nat) (files : Files) (targets : Nat → Level) : Session :=
  ⟨.start width files, fun i => .ofLevel (targets i)⟩

def withLogger (s : Session) (logger : Logger) : Session := { s with logging := { s.logging with logger := logger } }

def configured? (s : Session) (arguments : List (String × Value)) : Option Session :=
  match Setup.ofArguments arguments with
  | .error _ => none
  | .ok setup => match Logging.configure setup s.logging with
    | (.ok _, after) => some { s with logging := after }
    | (.error _, _) => none

def perform (s : Session) : Step → Option Session
  | .configure arguments => s.configured? arguments
  | .setLevel level => some (s.withLogger (s.logger.setLevels level))
  | .emit logger level template args =>
    some { s with logging := (Logging.emit logger level template args s.logging).2 }
  | .enter i =>
    let (context, logger) := (s.contexts i).enter s.logger
    some { s.withLogger logger with contexts := fun j => if j = i then context else s.contexts j }
  | .leave i => some (s.withLogger ((s.contexts i).exit s.logger))

def run (s : Session) (steps : List Step) : Option Session := steps.foldlM perform s

variable {s s' : Session} {step : Step} {steps : List Step}

theorem run_cons : s.run (step :: steps) = some s' ↔ ∃ t, s.perform step = some t ∧ t.run steps = some s' := by
  rw [run, List.foldlM_cons]
  exact Option.bind_eq_some_iff

theorem run_append {rest : List Step} :
    s.run (steps ++ rest) = some s' ↔ ∃ t, s.run steps = some t ∧ t.run rest = some s' := by
  rw [run, List.foldlM_append]
  exact Option.bind_eq_some_iff

theorem run_single : s.run [step] = some s' ↔ s.perform step = some s' := by
  rw [run_cons]
  constructor
  · rintro ⟨t, performed, ended⟩
    cases ended
    exact performed
  · exact fun performed => ⟨s', performed, rfl⟩

/-! ## Single steps -/

theorem perform_configure {arguments : List (String × Value)} (performed : s.perform (.configure arguments) = some s') :
    ∃ setup files, Setup.ofArguments arguments = .ok setup ∧
      s' = { s with logging := { s.logging with
        logger := ⟨setup.level, setup.handlers, s.logger.closed ++ s.logger.handlers⟩, files := files } } ∧
      ∀ path level, setup.fileHandler? = some ⟨.file path, level⟩ → ∃ data, files.find path = .ok (.file data) := by
  rw [perform, configured?] at performed
  cases read : Setup.ofArguments arguments with
  | error fault =>
      rw [read] at performed
      cases performed
  | ok setup =>
      rw [read] at performed
      rcases run_cases (Logging.configure setup) s.logging with ⟨_, l, ran⟩ | ⟨e, l, ran⟩
      · simp only [ran] at performed
        cases performed
        obtain ⟨files, rfl, there⟩ := Logging.configure_ok ran
        exact ⟨setup, files, rfl, rfl, there⟩
      · simp only [ran] at performed
        cases performed

/-! ## Handlers -/

def levelAfter : List Step → Level → Level
  | [], level => level
  | .setLevel level :: rest, _ => levelAfter rest level
  | _ :: rest, level => levelAfter rest level

def relevelled (steps : List Step) (h : Handler) : Handler := { h with level := levelAfter steps h.level }

theorem relevelled_cons (step : Step) (steps : List Step) (h : Handler) :
    relevelled (step :: steps) h = relevelled steps (relevelled [step] h) := by
  cases step <;> rfl

theorem perform_other (performed : s.perform step = some s') (other : ∀ arguments, step ≠ .configure arguments) :
    s'.logger.closed = s.logger.closed ∧
      s'.logger.handlers.map Handler.fresh = (s.logger.handlers.map Handler.fresh).map (relevelled [step]) := by
  cases step with
  | configure arguments => exact absurd rfl (other arguments)
  | setLevel level =>
      cases performed
      refine ⟨rfl, ?_⟩
      simp only [withLogger, Logger.setLevels, List.map_map]
      rfl
  | emit logger level template args =>
      cases performed
      have same := Logging.emit_fresh logger level template args s.logging
      exact ⟨congrArg (fun logger => logger.closed) same,
        (congrArg (fun logger => logger.handlers) same).trans (List.map_id _).symm⟩
  | enter i =>
      cases performed
      exact ⟨rfl, (List.map_id _).symm⟩
  | leave i =>
      cases performed
      simp only [withLogger, Context.exit]
      split <;> exact ⟨rfl, (List.map_id _).symm⟩

theorem run_handlers (ran : s.run steps = some s') (others : ∀ arguments, .configure arguments ∉ steps) :
    s'.logger.handlers.map Handler.fresh = (s.logger.handlers.map Handler.fresh).map (relevelled steps) := by
  induction steps generalizing s with
  | nil =>
      cases ran
      exact (List.map_id _).symm
  | cons step rest ih =>
      obtain ⟨t, performed, ran⟩ := run_cons.mp ran
      have other : ∀ arguments, step ≠ .configure arguments := fun arguments same => others arguments (by simp [same])
      have later := ih ran fun arguments member => others arguments (List.mem_cons_of_mem _ member)
      rw [later, (perform_other performed other).2, List.map_map]
      exact List.map_congr_left fun h _ => (relevelled_cons step rest h).symm

def attaches : Step → List Target
  | .configure arguments => match Setup.ofArguments arguments with
    | .ok setup => setup.handlers.map Handler.target
    | .error _ => []
  | _ => []

def targets (logger : Logger) : List Target := (logger.closed ++ logger.handlers).map fun h => h.target.fresh

theorem perform_targets (performed : s.perform step = some s') :
    targets s'.logger = targets s.logger ++ attaches step := by
  have other (plain : ∀ arguments, step ≠ .configure arguments) : targets s'.logger = targets s.logger ++ [] := by
    obtain ⟨closed, handlers⟩ := perform_other performed plain
    have same := congrArg (List.map Handler.target) handlers
    simp only [List.map_map] at same
    simp only [targets, List.map_append, closed, List.append_nil]
    exact congrArg _ same
  cases step with
  | configure arguments =>
      obtain ⟨setup, files, read, rfl, -⟩ := perform_configure performed
      have new := congrArg (List.map Handler.target) setup.handlers_fresh
      simp only [List.map_map] at new
      simp only [targets, attaches, read, List.map_append, ← new]
      rfl
  | _ => exact other nofun

theorem run_targets (ran : s.run steps = some s') :
    targets s'.logger = targets s.logger ++ steps.flatMap attaches := by
  induction steps generalizing s with
  | nil =>
      cases ran
      exact (List.append_nil _).symm
  | cons step rest ih =>
      obtain ⟨t, performed, ran⟩ := run_cons.mp ran
      rw [ih ran, perform_targets performed, List.flatMap_cons, List.append_assoc]

/-! ## Levels -/

-- Both read the steps backwards: the level is what the last step that has a say makes of it, and a context
-- is outside at the level before it was last entered.
mutual

def levelAt (given : Nat → Level) : List Step → Level
  | [] => Logger.start.level
  | .configure arguments :: past => match Setup.ofArguments arguments with
    | .ok setup => setup.level
    | .error _ => levelAt given past
  | .setLevel level :: _ => level
  | .emit .. :: past => levelAt given past
  | .enter i :: _ => given i
  | .leave i :: past => (levelOutside? given i past).getD (levelAt given past)

def levelOutside? (given : Nat → Level) (i : Nat) : List Step → Option Level
  | [] => none
  | .enter j :: past => if i = j then some (levelAt given past) else levelOutside? given i past
  | _ :: past => levelOutside? given i past

end

structure Follows (given : Nat → Level) (past : List Step) (s : Session) : Prop where
  level : s.logger.level = levelAt given past
  contexts : ∀ i, s.contexts i = ⟨given i, levelOutside? given i past⟩

variable {given : Nat → Level} {past : List Step}

theorem perform_follows (follows : s.Follows given past) (performed : s.perform step = some s') :
    s'.Follows given (step :: past) := by
  cases step with
  | configure arguments =>
      obtain ⟨setup, files, read, rfl, -⟩ := perform_configure performed
      exact ⟨by simp only [levelAt, read], follows.contexts⟩
  | setLevel level =>
      cases performed
      exact ⟨rfl, follows.contexts⟩
  | emit logger level template args =>
      cases performed
      have same := Logging.emit_fresh logger level template args s.logging
      exact ⟨(congrArg (fun logger => logger.level) same).trans follows.level, follows.contexts⟩
  | enter i =>
      cases performed
      refine ⟨congrArg Context.target (follows.contexts i), fun j => ?_⟩
      by_cases same : j = i
      · subst same
        simp only [if_true, levelOutside?, follows.contexts j, follows.level]
      · simp only [if_neg same, levelOutside?, follows.contexts j]
  | leave i =>
      cases performed
      refine ⟨?_, follows.contexts⟩
      simp only [withLogger, levelAt, Context.exit, follows.contexts i]
      cases levelOutside? given i past with
      | none => exact follows.level
      | some level => rfl

theorem run_follows (follows : s.Follows given past) (ran : s.run steps = some s') :
    s'.Follows given (steps.reverse ++ past) := by
  induction steps generalizing s past with
  | nil =>
      cases ran
      exact follows
  | cons step rest ih =>
      obtain ⟨t, performed, ran⟩ := run_cons.mp ran
      rw [List.reverse_cons, List.append_assoc]
      exact ih (perform_follows follows performed) ran

/-! ## Blocks -/

theorem levelOutside?_entered {i : Nat} {later : List Step} (once : .enter i ∉ later) :
    levelOutside? given i (later ++ .enter i :: past) = some (levelAt given past) := by
  induction later with
  | nil => exact if_pos rfl
  | cons step rest ih =>
      rw [List.mem_cons, not_or] at once
      have outside := ih once.2
      cases step with
      | enter j =>
          have apart : i ≠ j := fun same => once.1 (by rw [same])
          exact (if_neg apart).trans outside
      | _ => exact outside

theorem leave_block {i : Nat} {body : List Step} (follows : s.Follows given past)
    (ran : s.run (.enter i :: body ++ [.leave i]) = some s') (once : .enter i ∉ body) :
    ∃ inside, s.run (.enter i :: body) = some inside ∧ s'.logger = inside.logger.setLevel s.logger.level := by
  obtain ⟨inside, entered, left⟩ := run_append.mp ran
  refine ⟨inside, entered, ?_⟩
  -- A context remembers the level that it was entered at until it is entered again.
  have within := run_follows follows entered
  rw [List.reverse_cons, List.append_assoc] at within
  have saved : levelOutside? given i (body.reverse ++ .enter i :: past) = some (levelAt given past) :=
    levelOutside?_entered fun again => once (List.mem_reverse.mp again)
  have remembered := (within.contexts i).trans (congrArg (Context.mk (given i)) saved)
  cases run_single.mp left
  simp only [withLogger, remembered, Context.exit, follows.level]

/-! ## Whole sessions -/

/-- In a session the handlers of the logger are those that the last set-up asks for, with the level that was set last
since then; there are none before a set-up. Those attached before are closed. Leaving a block takes the logger back to
the level at which the block was entered, and changes nothing else; inside, it is at the level of the block. What a
set-up makes of the logger does not depend on anything that was before. -/
theorem logger_follows_history {width : Nat} {files : Files} (ran : (start width files given).run steps = some s) :
    ((∀ arguments, .configure arguments ∉ steps) → s.logger.handlers = []) ∧
    (∀ before arguments after, steps = before ++ .configure arguments :: after →
      (∀ arguments, .configure arguments ∉ after) →
      ∃ setup, Setup.ofArguments arguments = .ok setup ∧ s.logger.handlers.map Handler.fresh =
        setup.handlers.map (relevelled after)) ∧
    (s.logger.closed ++ s.logger.handlers).map (fun h => h.target.fresh) = steps.flatMap attaches ∧
    (∀ before i body, steps = before ++ (.enter i :: body ++ [.leave i]) → .enter i ∉ body →
      ∃ outside inside, (start width files given).run before = some outside ∧
        (start width files given).run (before ++ .enter i :: body) = some inside ∧
        s.logger = inside.logger.setLevel outside.logger.level) ∧
    (∀ before arguments, steps = before ++ [.configure arguments] →
      ∀ t t' : Session, t.perform (.configure arguments) = some t' →
        t'.logger.level = s.logger.level ∧ t'.logger.handlers = s.logger.handlers) ∧
    s.logger.level = levelAt given steps.reverse := by
  have first : (start width files given).Follows given [] := ⟨rfl, fun _ => rfl⟩
  refine ⟨fun unasked => ?_, ?_, ?_, ?_, ?_, ?_⟩
  · have handlers := run_handlers ran unasked
    exact List.map_eq_nil_iff.mp handlers
  · rintro before arguments after rfl unasked
    obtain ⟨t, -, ran⟩ := run_append.mp ran
    obtain ⟨t', performed, ran⟩ := run_cons.mp ran
    obtain ⟨setup, files, read, rfl, -⟩ := perform_configure performed
    refine ⟨setup, read, ?_⟩
    have handlers := run_handlers ran unasked
    rwa [setup.handlers_fresh] at handlers
  · exact run_targets ran
  · rintro before i body rfl once
    obtain ⟨outside, reached, ran⟩ := run_append.mp ran
    obtain ⟨inside, entered, left⟩ := leave_block (run_follows first reached) ran once
    exact ⟨outside, inside, reached, run_append.mpr ⟨outside, reached, entered⟩, left⟩
  · rintro before arguments rfl t t' again
    obtain ⟨_, -, ran⟩ := run_append.mp ran
    obtain ⟨setup, _, read, rfl, -⟩ := perform_configure (run_single.mp ran)
    obtain ⟨setup', _, read', rfl, -⟩ := perform_configure again
    cases read.symm.trans read'
    exact ⟨rfl, rfl⟩
  · have follows := run_follows first ran
    rw [List.append_nil] at follows
    exact follows.level

def replacement : List Step :=
  [.configure [("level", .int 30), ("file_path", .text "a")], .enter 0, .setLevel (.number 5),
    .configure [("console", .flag false), ("file_path", .text "b"), ("file_log_level", .int 40)], .leave 0]

theorem file_replaced_in_block : ∃ t s, (start 80 .empty fun _ => .number 10).run (replacement.take 2) = some t ∧
    t.logger.level = .number 10 ∧ (start 80 .empty fun _ => .number 10).run replacement = some s ∧
    s.logger.handlers.map Handler.fresh = [⟨.file ⟨"", ["b"]⟩, .number 40⟩] ∧
    (s.logger.closed ++ s.logger.handlers).map (fun h => h.target.fresh) =
      [.console true false, .file ⟨"", ["a"]⟩, .file ⟨"", ["b"]⟩] ∧
    s.logger.level = .number 30 := by
  have possible : ((start 80 .empty fun _ => .number 10).run replacement).isSome = true := by decide +kernel
  obtain ⟨s, ran⟩ := Option.isSome_iff_exists.mp possible
  have cut : (start 80 .empty fun _ => .number 10).run (replacement.take 2 ++ replacement.drop 2) = some s := ran
  obtain ⟨t, entered, -⟩ := run_append.mp cut
  obtain ⟨-, -, -, -, -, inside⟩ := logger_follows_history entered
  obtain ⟨-, last, all, -, -, level⟩ := logger_follows_history ran
  refine ⟨t, s, entered, inside.trans (by decide), ran, ?_, all.trans (by decide +kernel),
    level.trans (by decide)⟩
  obtain ⟨setup, read, handlers⟩ := last (replacement.take 3) _ [.leave 0] rfl (by simp)
  cases read
  exact handlers.trans (by decide +kernel)

end Session

end PluginKit.Log
