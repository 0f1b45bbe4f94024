import PluginKit.Files

/-!
Writing a file. Its path then leads to what was written, and no other place has changed.
-/

namespace PluginKit.Files

variable {files : Files} {place : List String} {old data : List UInt8}

theorem find?_replaced (entries : List (List String × Entry)) (entry : Entry) (q : List String)
    (there : entries.any (fun item => item.1 == place) = true) :
    ((entries.map fun item => if item.1 == place then (place, entry) else item).find? fun item => item.1 == q).map
      Prod.snd = if q = place then some entry else (entries.find? fun item => item.1 == q).map Prod.snd := by
  by_cases here : q = place
  · subst here
    rw [if_pos rfl]
    induction entries with
    | nil => cases there
    | cons item rest ih =>
        by_cases first : (item.1 == q) = true
        · rw [List.map_cons, if_pos first, List.find?_cons_of_pos (by simp)]
          rfl
        · rw [List.any_cons, (Bool.not_eq_true _).mp first, Bool.false_or] at there
          rw [List.map_cons, if_neg first, List.find?_cons_of_neg (by exact first), ih there]
  · rw [if_neg here]
    have apart : ¬(place == q) = true := by simpa using Ne.symm here
    clear there
    induction entries with
    | nil => rfl
    | cons item rest ih =>
        rw [List.map_cons]
        by_cases first : (item.1 == place) = true
        · have other : ¬(item.1 == q) = true := by rwa [eq_of_beq first]
          rw [if_pos first, List.find?_cons_of_neg (by exact apart), List.find?_cons_of_neg (by exact other), ih]
        · rw [if_neg first]
          by_cases second : (item.1 == q) = true
          · rw [List.find?_cons_of_pos (by exact second), List.find?_cons_of_pos (by exact second)]
          · rw [List.find?_cons_of_neg (by exact second), List.find?_cons_of_neg (by exact second), ih]

theorem find?_added (entries : List (List String × Entry)) (entry : Entry) (q : List String)
    (new : entries.any (fun item => item.1 == place) = false) :
    ((entries ++ [(place, entry)]).find? fun item => item.1 == q).map Prod.snd =
      if q = place then some entry else (entries.find? fun item => item.1 == q).map Prod.snd := by
  have absent : entries.find? (fun item => item.1 == place) = none :=
    List.find?_eq_none.mpr fun item member => by simpa using List.any_eq_false.mp new item member
  rw [List.find?_append]
  by_cases here : q = place
  · simp [here, absent]
  · simp [here, Ne.symm here]

theorem home_put (files : Files) (place : List String) (entry : Entry) :
    (files.put place entry).home = files.home := by
  rw [put]
  split <;> rfl

theorem locked_put (files : Files) (place : List String) (entry : Entry) :
    (files.put place entry).locked = files.locked := by
  rw [put]
  split <;> rfl

theorem get?_put (free : files.get? place ≠ some .directory) (entry : Entry) (q : List String) :
    (files.put place entry).get? q = if q = place then some entry else files.get? q := by
  have apart : place.isPrefixOf files.home = false := by
    rw [get?] at free
    exact (Bool.not_eq_true _).mp (mt (fun outer => if_pos outer) free)
  have listed : ((files.put place entry).entries.find? fun item => item.1 == q).map Prod.snd =
      if q = place then some entry else (files.entries.find? fun item => item.1 == q).map Prod.snd := by
    rw [put]
    split
    · rename_i there
      exact find?_replaced _ entry q there
    · rename_i new
      exact find?_added _ entry q ((Bool.not_eq_true _).mp new)
  rw [get?, get?, home_put, listed]
  by_cases outer : q.isPrefixOf files.home = true
  · have other : q ≠ place := by
      rintro rfl
      rw [apart] at outer
      cases outer
    rw [if_pos outer, if_pos outer, if_neg other]
  · rw [if_neg outer, if_neg outer]

theorem follow_put (free : files.get? place ≠ some .directory) (entry : Entry) {segments q p : List String}
    (followed : files.follow q segments = .ok p) : (files.put place entry).follow q segments = .ok p := by
  -- Only directories are passed through, so the way to a place stays open.
  induction segments generalizing q with
  | nil => exact followed
  | cons segment rest ih =>
      rw [follow] at followed ⊢
      split at followed
      · cases followed
      · cases followed
      · rename_i directory
        have apart : q ≠ place := by
          rintro rfl
          exact free directory
        rw [get?_put free, if_neg apart, directory]
        dsimp only
        split at followed
        · rename_i up
          rw [if_pos up]
          exact ih followed
        · rename_i down
          rw [if_neg down]
          split at followed
          · cases followed
          · rename_i short
            rw [if_neg short]
            exact ih followed

theorem locate_eq_ok {path : Path} :
    files.locate path = .ok place ↔ refusal? path = none ∧ files.follow (files.origin path) path.segments = .ok place := by
  rw [locate]
  cases refusal? path with
  | none => simp
  | some fault => simp

theorem locate_put {path : Path} {p : List String} (free : files.get? place ≠ some .directory) (entry : Entry)
    (located : files.locate path = .ok p) : (files.put place entry).locate path = .ok p := by
  rw [locate_eq_ok] at located ⊢
  have same : (files.put place entry).origin path = files.origin path := by rw [origin, origin, home_put]
  rw [same]
  exact ⟨located.1, follow_put free entry located.2⟩

theorem write_ok {path : Path} {written : Files} (wrote : files.write path data = .ok written) :
    ∃ place, files.locate path = .ok place ∧ files.get? place ≠ some .directory ∧
      written = files.put place (.file data) := by
  unfold Files.write at wrote
  split at wrote
  · cases wrote
  · rename_i place located
    split at wrote
    · cases wrote
    · rename_i free
      cases wrote
      exact ⟨place, located, free, rfl⟩

theorem find_eq_ok {path : Path} {entry : Entry} :
    files.find path = .ok entry ↔ ∃ place, files.locate path = .ok place ∧ files.get? place = some entry := by
  rw [find]
  cases files.locate path with
  | error fault => simp
  | ok place => cases found : files.get? place <;> simp [found]

theorem find_write {path : Path} {written : Files} (wrote : files.write path data = .ok written) :
    written.find path = .ok (.file data) := by
  obtain ⟨place, located, free, rfl⟩ := write_ok wrote
  refine find_eq_ok.mpr ⟨place, locate_put free _ located, ?_⟩
  rw [get?_put free, if_pos rfl]

theorem write_over {path : Path} (found : files.find path = .ok (.file old)) (data : List UInt8) :
    ∃ written, files.write path data = .ok written := by
  obtain ⟨place, located, there⟩ := find_eq_ok.mp found
  simp [Files.write, located, there]

theorem find_file_write {path other : Path} {written : Files} (found : files.find path = .ok (.file old))
    (wrote : files.write other data = .ok written) : ∃ left, written.find path = .ok (.file left) := by
  obtain ⟨place, located, there⟩ := find_eq_ok.mp found
  obtain ⟨place', -, free, rfl⟩ := write_ok wrote
  have leads := locate_put free (.file data) located
  by_cases same : place = place'
  · exact ⟨data, find_eq_ok.mpr ⟨place, leads, by rw [get?_put free, if_pos same]⟩⟩
  · exact ⟨old, find_eq_ok.mpr ⟨place, leads, by rw [get?_put free, if_neg same, there]⟩⟩

/-- Every path leads to the place it led to, and nothing is different but at a certain place. -/
structure AgreeBut (place : List String) (before after : Files) : Prop where
  home : after.home = before.home
  locked : after.locked = before.locked
  ways : ∀ path, after.locate path = before.locate path
  elsewhere : ∀ q, q ≠ place → after.get? q = before.get? q

theorem AgreeBut.read {before after : Files} {other : Path} (agree : AgreeBut place before after)
    (apart : before.locate other ≠ .ok place) : after.read other = before.read other := by
  have found : after.find other = before.find other := by
    rw [find, find, agree.ways]
    cases located : before.locate other with
    | error fault => rfl
    | ok q =>
        have elsewhere : q ≠ place := by
          rintro rfl
          exact apart located
        simp only [agree.elsewhere q elsewhere]
  rw [Files.read, Files.read, found, agree.locked]

theorem write_agreeBut {path : Path} {written : Files} (found : files.find path = .ok (.file old))
    (wrote : files.write path data = .ok written) :
    ∃ place, files.locate path = .ok place ∧ written.get? place = some (.file data) ∧ AgreeBut place files written := by
  obtain ⟨place, located, there⟩ := find_eq_ok.mp found
  obtain ⟨place', located', free, rfl⟩ := write_ok wrote
  obtain rfl : place = place' := Except.ok.inj (located.symm.trans located')
  -- One file takes the place of another, and neither can be passed through.
  have ways (q segments : List String) : (files.put place (.file data)).follow q segments = files.follow q segments := by
    induction segments generalizing q with
    | nil => rfl
    | cons segment rest ih =>
        rw [follow, follow, get?_put free]
        by_cases here : q = place
        · simp [here, there]
        · simp only [if_neg here, ih]
  refine ⟨place, located, by rw [get?_put free, if_pos rfl], home_put .., locked_put .., fun other => ?_, ?_⟩
  · rw [locate, locate, origin, origin, home_put]
    simp only [ways]
  · intro q apart
    rw [get?_put free, if_neg apart]

theorem find_of_read {path : Path} (read : files.read path = .ok data) :
    files.find path = .ok (.file data) ∧ files.locked = false := by
  unfold Files.read at read
  split at read
  · cases read
  · cases read
  · rename_i found
    split at read
    · cases read
    · rename_i open'
      cases read
      exact ⟨found, by simpa using open'⟩

theorem isFile_of_read {path : Path} (read : files.read path = .ok data) : files.isFile path = .ok true := by
  rw [isFile, look, (find_of_read read).1]
  rfl

theorem read_write {path : Path} {written : Files} (read : files.read path = .ok old)
    (wrote : files.write path data = .ok written) : written.read path = .ok data := by
  obtain ⟨place, -, -, same⟩ := write_ok wrote
  have unlocked : written.locked = false := by
    rw [same, locked_put, (find_of_read read).2]
  rw [Files.read, find_write wrote, unlocked]
  rfl

end PluginKit.Files
