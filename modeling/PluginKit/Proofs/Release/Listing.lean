import PluginKit.Proofs.Json.Reading
import PluginKit.Proofs.Release.Addressing
import PluginKit.Proofs.Release.Paging

/-!
A server that lists tags. Each page is the JSON of its part of the tags; such a server serves all of them.
-/

namespace PluginKit

open Json (Writes IsPlain writeText writeObject writeList)

/-! ## Pages as texts -/

theorem writes_nested {field inner first second : String} (apart : field ≠ "commit")
    (names : IsPlain field.toList ∧ IsPlain inner.toList) (plain : IsPlain first.toList ∧ IsPlain second.toList) :
    Writes .loose 1 (writeObject [(field, writeText first), ("commit", writeObject [(inner, writeText second)])])
      (.object [(.text field, .text first), (.text "commit", .object [(.text inner, .text second)])]) := by
  have within : Writes .loose 2 (writeObject [(inner, writeText second)]) (.object [(.text inner, .text second)]) := by
    refine Json.writes_object [(inner, writeText second, .text second)] (by decide) ?_ (by simp)
    simpa using ⟨names.2, Json.writes_text plain.2⟩
  have whole : Writes .loose 1 _ _ := Json.writes_object [(field, writeText first, .text first),
    ("commit", writeObject [(inner, writeText second)], .object [(.text inner, .text second)])] (by decide)
    (by simpa using ⟨⟨names.1, Json.writes_text plain.1⟩, by decide, within⟩) (by simp)
  have fields : Json.gather [] [(field, writeText first, .text first),
      ("commit", writeObject [(inner, writeText second)], .object [(.text inner, .text second)])] =
      [(.text field, .text first), (.text "commit", .object [(.text inner, .text second)])] := by
    have fresh : ∀ known ∈ [(Key.text field, Value.text first)], known.1.same (.text "commit") = false := by
      simpa [Key.same] using apart
    exact Fields.put_fresh fresh _
  rwa [fields] at whole

def listBody (items : List (List Char)) : List UInt8 := Utf8.bytes (String.ofList (writeList items))

theorem tells_listBody {α : Type} {write : α → List Char} {toValue : α → Value} {found : List α}
    (each : ∀ a ∈ found, Writes .loose 1 (write a) (toValue a)) :
    (HttpOutcome.response 200 (listBody (found.map write))).Tells (.list (found.map toValue)) := by
  have pairs : ∀ item ∈ found.map fun a => (write a, toValue a), Writes .loose 1 item.1 item.2 := by simpa using each
  have writes : Writes .loose 0 _ _ := Json.writes_list (by decide) pairs
  rw [List.map_map, List.map_map] at writes
  exact ⟨200, _, _, rfl, by decide, Text.decodeBody_of_solid writes.solid (by simp), Json.parse_of_writes writes⟩

namespace Tag

def Plain (tag : Tag) : Prop := IsPlain tag.name.toList ∧ IsPlain tag.sha.toList

instance (tag : Tag) : Decidable tag.Plain :=
  inferInstanceAs (Decidable (IsPlain tag.name.toList ∧ IsPlain tag.sha.toList))

def write (tag : Tag) : List Char :=
  writeObject [("name", writeText tag.name), ("commit", writeObject [("sha", writeText tag.sha)])]

def toValue (tag : Tag) : Value :=
  .object [(.text "name", .text tag.name), (.text "commit", .object [(.text "sha", .text tag.sha)])]

theorem ofValue_toValue (tag : Tag) : ofValue tag.toValue = .valid tag := rfl

theorem writes {tag : Tag} (plain : tag.Plain) : Writes .loose 1 tag.write tag.toValue :=
  writes_nested (by decide) ⟨by decide, by decide⟩ plain

end Tag

namespace Fetch

variable {tags : List Tag}

def pageBody (tags : List Tag) : List UInt8 := listBody (tags.map Tag.write)

theorem shaped_tags (tags : List Tag) : Shaped Tag.ofValue (tags.map Tag.toValue) tags := by
  simp [Shaped, List.forall₂_map_left_iff, Tag.ofValue_toValue]

theorem tells_page (plain : ∀ tag ∈ tags, tag.Plain) :
    (HttpOutcome.response 200 (pageBody tags)).Tells (.list (tags.map Tag.toValue)) :=
  tells_listBody fun tag member => Tag.writes (plain tag member)

theorem gives_of_tells {σ : Type} {c : Client} {server : Server σ} {page : Nat} {items : List Value} {s : σ}
    (addressed : c.Addressed "/tags" (pageParams page))
    (tells : ∀ r, r.path = c.path "/tags" → r.params = pageParams page → (server.answer r s).1.Tells (.list items))
    (shaped : Shaped Tag.ofValue items tags) : ∃ t, Gives c server page tags s t := by
  obtain ⟨call, called, kind⟩ := addressed
  obtain ⟨path, params⟩ := Client.request_of_call called
  refine ⟨_, call, called, rfl, ?_⟩
  rw [Client.reading_of_tells (tells _ path params) kind, Except.bind, readPage, readItems_of_shaped shaped]
  rfl

/-! ## The server -/

def pageOf (tags : List Tag) (page : Nat) : List Tag := (tags.drop (pageSize * (page - 1))).take pageSize

def lister (tags : List Tag) (other : HttpRequest → HttpOutcome) : Server Unit where
  answer r s := match r.params.lookup "page" with
    | some (.int page) => (.response 200 (pageBody (pageOf tags page.toNat)), s)
    | _ => (other r, s)

variable {c : Client} (other : HttpRequest → HttpOutcome)

theorem lister_other {r : HttpRequest} (unpaged : r.params.lookup "page" = none) :
    (lister tags other).answer r () = (other r, ()) := by
  simp [lister, unpaged]

theorem lister_page {r : HttpRequest} {page : Nat} (params : r.params = pageParams page) :
    (lister tags other).answer r () = (.response 200 (pageBody (pageOf tags page)), ()) := by
  have found : r.params.lookup "page" = some (.int page) := by
    rw [params]
    rfl
  simp [lister, found]

theorem gives_lister {page : Nat} (plain : ∀ tag ∈ tags, tag.Plain)
    (addressed : c.Addressed "/tags" (pageParams page)) :
    Gives c (lister tags other) page (pageOf tags page) () () := by
  have told : ∀ r, r.path = c.path "/tags" → r.params = pageParams page →
      ((lister tags other).answer r ()).1.Tells (.list ((pageOf tags page).map Tag.toValue)) := by
    intro r _ params
    rw [lister_page other params]
    exact tells_page fun tag member => plain tag (List.mem_of_mem_drop (List.mem_of_mem_take member))
  obtain ⟨_, given⟩ := gives_of_tells addressed told (shaped_tags (pageOf tags page))
  exact given

theorem serves_from {before : Nat} (plain : ∀ tag ∈ tags, tag.Plain) (addressed : ∀ page, 0 < page →
    page ≤ tags.length / pageSize + 1 → c.Addressed "/tags" (pageParams page))
    (within : before ≤ tags.length / pageSize) :
    Serves c (lister tags other) (before + 1) (tags.drop (pageSize * before)) () () := by
  -- The pages that are left are fewer each time.
  induction left : tags.length / pageSize - before generalizing before with
  | zero =>
      have given := gives_lister other plain (addressed (before + 1) (by omega) (by omega))
      have short : (tags.drop (pageSize * before)).length < pageSize := by
        rw [List.length_drop]
        simp only [pageSize] at *
        omega
      rw [pageOf, Nat.add_sub_cancel, List.take_of_length_le short.le] at given
      exact .last given short
  | succ left ih =>
      have given := gives_lister other plain (addressed (before + 1) (by omega) (by omega))
      have served := ih (show before + 1 ≤ tags.length / pageSize by omega) (by omega)
      have full : pageSize ≤ (tags.drop (pageSize * before)).length := by
        rw [List.length_drop]
        simp only [pageSize] at *
        omega
      rw [pageOf, Nat.add_sub_cancel] at given
      rw [← List.take_append_drop pageSize (tags.drop (pageSize * before)), List.drop_drop, ← Nat.mul_succ]
      exact .more given (by rw [List.length_take]; omega) served

theorem serves_lister (plain : ∀ tag ∈ tags, tag.Plain) (addressed : ∀ page, 0 < page →
    page ≤ tags.length / pageSize + 1 → c.Addressed "/tags" (pageParams page)) :
    Serves c (lister tags other) 1 tags () () := by
  have served := serves_from other plain addressed (Nat.zero_le _)
  rwa [Nat.mul_zero, List.drop_zero] at served

end Fetch

end PluginKit
