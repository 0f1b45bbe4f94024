import PluginKit.Proofs.Release.Exchange

/-!
Tags come in pages. A server serves a list of tags if its pages are full up to the last one, and asking for all tags
then gives that list, by questions for pages alone.
-/

namespace PluginKit.Fetch

open Activity

variable {σ : Type} {c : Client} {server : Server σ} {page limit : Nat} {tags : List Tag} {s t u : σ}

def Gives (c : Client) (server : Server σ) (page : Nat) (tags : List Tag) (s t : σ) : Prop :=
  ∃ call, c.call "/tags" (pageParams page) = .ok call ∧ t = (server.answer call.request s).2 ∧
    (c.reading "/tags" call (server.answer call.request s).1).bind readPage = .ok tags

inductive Serves (c : Client) (server : Server σ) : Nat → List Tag → σ → σ → Prop where
  | last {page : Nat} {tags : List Tag} {s t : σ} (given : Gives c server page tags s t)
      (short : tags.length < pageSize) : Serves c server page tags s t
  | more {page : Nat} {tags rest : List Tag} {s t u : σ} (given : Gives c server page tags s t)
      (full : pageSize ≤ tags.length) (served : Serves c server (page + 1) rest t u) :
      Serves c server page (tags ++ rest) s u

def Full (c : Client) (server : Server σ) : Nat → Nat → σ → Prop
  | 0, _, _ => True
  | pages + 1, page, s =>
    ∃ tags t, Gives c server page tags s t ∧ pageSize ≤ tags.length ∧ Full c server pages (page + 1) t

def OfTags (c : Client) (talk : Talk) : Prop := ∀ part ∈ talk, part.1.path = c.path "/tags"

theorem Gives.unique {tags' : List Tag} {t' : σ} (given : Gives c server page tags s t)
    (given' : Gives c server page tags' s t') : tags = tags' ∧ t = t' := by
  obtain ⟨call, called, rfl, read⟩ := given
  obtain ⟨call', called', rfl, read'⟩ := given'
  obtain rfl : call = call' := Except.ok.inj (called.symm.trans called')
  exact ⟨Except.ok.inj (read.symm.trans read'), rfl⟩

theorem Serves.unique {tags' : List Tag} {t' : σ} (served : Serves c server page tags s t)
    (served' : Serves c server page tags' s t') : tags = tags' ∧ t = t' := by
  induction served generalizing tags' t' with
  | last given short =>
      cases served' with
      | last given' short' => exact given.unique given'
      | more given' full' rest' =>
          obtain ⟨rfl, -⟩ := given.unique given'
          exact absurd short (Nat.not_lt.mpr full')
  | more given full rest ih =>
      cases served' with
      | last given' short' =>
          obtain ⟨rfl, -⟩ := given.unique given'
          exact absurd short' (Nat.not_lt.mpr full)
      | more given' full' rest' =>
          obtain ⟨rfl, rfl⟩ := given.unique given'
          obtain ⟨rfl, rfl⟩ := ih rest'
          exact ⟨rfl, rfl⟩

theorem Serves.not_full (served : Serves c server page tags s t) (enough : tags.length / pageSize < limit) :
    ¬ Full c server limit page s := by
  induction served generalizing limit with
  | last given short =>
      obtain ⟨limit, rfl⟩ := Nat.exists_eq_succ_of_ne_zero (Nat.ne_zero_of_lt enough)
      rintro ⟨tags', t', given', full, -⟩
      obtain ⟨rfl, -⟩ := given.unique given'
      exact absurd short (Nat.not_lt.mpr full)
  | @more page tags others s t u given full served ih =>
      obtain ⟨limit, rfl⟩ := Nat.exists_eq_succ_of_ne_zero (Nat.ne_zero_of_lt enough)
      rintro ⟨tags', t', given', -, rest⟩
      obtain ⟨rfl, rfl⟩ := given.unique given'
      have fewer : others.length / pageSize < limit := by
        simp only [pageSize, List.length_append] at enough full ⊢
        omega
      exact ih fewer rest

theorem Gives.asked {x : Exchange σ} (given : Gives c x.server page tags x.state t) :
    ∃ y part, inquire c "/tags" (pageParams page) readPage x = (.ok tags, y) ∧ x.Said [part] y ∧ y.state = t ∧
      OfTags c [part] := by
  obtain ⟨call, called, rfl, read⟩ := given
  obtain ⟨y, run, said⟩ := inquire_called readPage called x
  refine ⟨y, _, by rw [run, read], said, said.state_eq, ?_⟩
  intro part member
  rw [List.mem_singleton.mp member]
  exact (Client.request_of_call called).1

theorem tagsFrom_of_serves {x : Exchange σ} (served : Serves c x.server page tags x.state t)
    (enough : tags.length / pageSize < limit) :
    ∃ y talk, tagsFrom c limit page x = (.ok tags, y) ∧ x.Said talk y ∧ y.state = t ∧ OfTags c talk := by
  generalize same : x.server = server, from_ : x.state = s at served
  induction served generalizing x limit with
  | last given short =>
      subst same from_
      obtain ⟨limit, rfl⟩ := Nat.exists_eq_succ_of_ne_zero (Nat.ne_zero_of_lt enough)
      obtain ⟨y, part, run, rest⟩ := given.asked
      refine ⟨y, [part], ?_, rest⟩
      rw [tagsFrom_succ, bind_ok run, if_pos short]
      rfl
  | @more page tags others s t u given full served ih =>
      subst same from_
      obtain ⟨limit, rfl⟩ := Nat.exists_eq_succ_of_ne_zero (Nat.ne_zero_of_lt enough)
      obtain ⟨y, first, run, said, rfl, about⟩ := given.asked
      have fewer : others.length / pageSize < limit := by
        simp only [pageSize, List.length_append] at enough full ⊢
        omega
      obtain ⟨z, more, run', said', last, about'⟩ := ih fewer said.server rfl
      refine ⟨z, first :: more, ?_, said.trans said', last, ?_⟩
      · rw [tagsFrom_succ, bind_ok run, if_neg (Nat.not_lt.mpr full), bind_ok run']
        rfl
      · intro part member
        exact (List.mem_cons.mp member).elim (fun same => about part (by simp [same])) (about' part)

theorem versions_of_serves {x : Exchange σ} {names : List String} (served : Serves c x.server 1 tags x.state t)
    (enough : tags.length / pageSize < limit) (listed : versionTags tags = .ok names) :
    ∃ y talk, versions c limit x = (.ok names, y) ∧ x.Said talk y ∧ y.state = t ∧ OfTags c talk := by
  obtain ⟨y, talk, run, rest⟩ := tagsFrom_of_serves served enough
  refine ⟨y, talk, ?_, rest⟩
  rw [versions, Fetch.tags, bind_ok run, listed]
  rfl

end PluginKit.Fetch
