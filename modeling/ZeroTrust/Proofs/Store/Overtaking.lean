/-
  `Proofs.Store.Overtaking` — when a refresh makes a save visible for good.

  A refresh that begins after a save lists what was saved, and what is in force from
  then on reflects the save or a later one to the same policy
  (`System.reflects_or_overtaken`), with one exception: another refresh, which had
  listed the store before the save, may put its older lists in force afterwards
  (`System.Overtaken`). Nothing stops it, as a refresh does not look at what it
  replaces (`System.not_reflects_of_stale_refresh`).

  The proof follows every list from the moment it is taken to the moment it is put
  in force: what a refresh holds is what the store had at some moment since the save,
  or the refresh held it before (`System.Traced`).
-/
import Mathlib.Data.List.Induction
import ZeroTrust.Proofs.Store.Refreshing

namespace ZeroTrust

namespace System

/-! ### What a snapshot reflects -/

/-- Whether no refresh puts its snapshot in force in the course of some actions. -/
def Undisturbed (s : System) : List Action → Prop
  | [] => True
  | a :: as => (∀ q, ¬ s.Installs q a) ∧ Undisturbed (s.after a) as

theorem undisturbed_append (s : System) (as bs : List Action) :
    s.Undisturbed (as ++ bs) ↔ s.Undisturbed as ∧ (s.run as).Undisturbed bs := by
  induction as generalizing s with
  | nil => simp [Undisturbed]
  | cons a as ih => rw [List.cons_append, Undisturbed, Undisturbed, ih, run_cons, and_assoc]

/-- Whether the snapshot in force after a write and some actions reflects the write or a later one
to the same policy: it holds the policies of the family as the store had them at some moment since
the write, and the policy under the id was then as the last write to it had left it. -/
def Reflects (s : System) (f : Family) (c : Store.Call f.Member) (rest : List Action)
    (id : String) : Prop :=
  ∃ upTo since, rest = upTo ++ since ∧
    (s.run (.call f c :: rest)).current.members f =
      inForce ((s.run (.call f c :: upTo)).stores f).list ∧
    ∃ done w later, .call f c :: upTo = done ++ .call f w :: later ∧
      w.Writes ((s.run done).stores f) id ∧
      ((s.run (.call f c :: upTo)).stores f).get id =
        ((s.run (done ++ [.call f w])).stores f).get id

/-- Whether a refresh is overtaken by an older one in the course of some actions: the snapshot in
force after them is that of another refresh, which held its list of a family before them and put its
snapshot in force when the first one had put its own there. -/
def Overtaken (s : System) (f : Family) (as : List Action) (r : Nat) : Prop :=
  ∃ q done later, as = done ++ .advance q :: later ∧
    ((s.refreshes q).listing? f).isSome = true ∧
    ((s.run done).refreshes r).HasInstalled ∧ (s.run done).Installs q (.advance q) ∧
    (s.run (done ++ [.advance q])).Undisturbed later

/-! ### The last write -/

variable {s : System} {f : Family} {c : Store.Call f.Member} {id : String} {r : Nat}

theorem get_after_of_not_writes {a : Action}
    (h : ∀ w, a = .call f w → ¬ w.Writes (s.stores f) id) :
    ((s.after a).stores f).get id = (s.stores f).get id := by
  cases a with
  | advance q => rw [after, stores_advance]
  | call g d =>
    by_cases hg : f = g
    · subst hg
      rw [stores_call_self]
      exact Store.get_after_of_not_writes (h d rfl)
    · rw [stores_call_of_ne s hg]

/-- What is stored under an id is what the last write to it left. -/
theorem exists_last_write (hwrite : c.Writes (s.stores f) id) (rest : List Action) :
    ∃ done w later, .call f c :: rest = done ++ .call f w :: later ∧
      w.Writes ((s.run done).stores f) id ∧
      ((s.run (.call f c :: rest)).stores f).get id =
        ((s.run (done ++ [.call f w])).stores f).get id := by
  -- The induction takes the last action off, since it may be the last write.
  induction rest using List.reverseRecOn with
  | nil => exact ⟨[], c, [], rfl, hwrite, rfl⟩
  | append_singleton rest a ih =>
    obtain ⟨done, w, later, hcalls, hw, hget⟩ := ih
    by_cases ha : ∃ d, a = .call f d ∧ d.Writes ((s.run (.call f c :: rest)).stores f) id
    · -- The last action is the last write.
      obtain ⟨d, rfl, hd⟩ := ha
      exact ⟨.call f c :: rest, d, [], rfl, hd, rfl⟩
    · -- The last write stays the last, and what is stored since stays as well.
      refine ⟨done, w, later ++ [a], ?_, hw, ?_⟩
      · rw [← List.cons_append, hcalls]
        simp
      · rw [← hget, ← List.cons_append, run_append]
        exact get_after_of_not_writes fun d heq hd => ha ⟨d, heq, hd⟩

/-! ### Where lists come from -/

/-- Whether a list of policies is that of a store at some moment of a run. -/
def ListedSince (s : System) (f : Family) (as : List Action) (ps : List f.Member) : Prop :=
  ∃ upTo since, as = upTo ++ since ∧ ps = ((s.run upTo).stores f).list

theorem ListedSince.append {as : List Action} {ps : List f.Member} (h : s.ListedSince f as ps)
    (bs : List Action) : s.ListedSince f (as ++ bs) ps := by
  obtain ⟨upTo, since, rfl, hps⟩ := h
  exact ⟨upTo, since ++ bs, by simp, hps⟩

theorem Overtaken.append {as : List Action} {a : Action} (h : s.Overtaken f as r)
    (ha : ∀ q, ¬ (s.run as).Installs q a) : s.Overtaken f (as ++ [a]) r := by
  obtain ⟨q, done, later, rfl, hlisted, hinstalled, hinstalls, hlater⟩ := h
  refine ⟨q, done, later ++ [a], by simp, hlisted, hinstalled, hinstalls, ?_⟩
  rw [undisturbed_append]
  refine ⟨hlater, ?_, trivial⟩
  rw [← run_append]
  simpa using ha

/-- What is known of lists after some actions: a refresh holds a list that it held before or that
the store had since, and once a refresh has put its snapshot in force, the one in force is made of a
list that the store had since, or the refresh was overtaken. -/
structure Traced (s : System) (f : Family) (r : Nat) (as : List Action) : Prop where
  listing : ∀ q ps, ((s.run as).refreshes q).listing? f = some ps →
    (s.refreshes q).listing? f = some ps ∨ s.ListedSince f as ps
  members : ((s.run as).refreshes r).HasInstalled →
    (∃ ps, s.ListedSince f as ps ∧ (s.run as).current.members f = inForce ps) ∨
      s.Overtaken f as r

theorem traced_nil (hwaiting : s.refreshes r = .waiting) : s.Traced f r [] where
  listing _ _ h := .inl h
  members h := by
    rw [run_nil, hwaiting] at h
    exact h.elim

/-- One more action adds the list that it takes, if any. -/
theorem Traced.append {as : List Action} (h : s.Traced f r as)
    (hwaiting : s.refreshes r = .waiting) (a : Action) : s.Traced f r (as ++ [a]) where
  listing q ps hps := by
    rw [run_append, run_cons, run_nil] at hps
    rcases listing_after hps with hheld | hlist
    · exact (h.listing q ps hheld).imp_right fun hsince => hsince.append [a]
    · exact .inr ⟨as, [a], rfl, hlist⟩
  members hinstalled := by
    rw [run_append, run_cons, run_nil] at hinstalled ⊢
    rcases members_after (s.run as) a f with ⟨hnone, hcurrent⟩ | ⟨q, ps, hinstalls, hps, hmembers⟩
    · -- The snapshot in force stays, and the refresh had put its own there before.
      have hbefore := (hasInstalled_after hinstalled).resolve_right (hnone r)
      rw [hcurrent]
      rcases h.members hbefore with ⟨ps, hsince, hmembers⟩ | hovertaken
      · exact .inl ⟨ps, hsince.append [a], hmembers⟩
      · exact .inr (hovertaken.append hnone)
    · rcases h.listing q ps hps with hheld | hsince
      · -- A list from before is put in force, by another refresh, as this one had none then.
        obtain ⟨p, rfl⟩ : ∃ p, a = .advance p := by
          cases a with
          | advance p => exact ⟨p, rfl⟩
          | call _ _ => exact hinstalls.elim
        obtain rfl := hinstalls.1
        have hbefore := (hasInstalled_after hinstalled).resolve_right fun hr => by
          obtain rfl := hr.1
          rw [hwaiting] at hheld
          cases f <;> cases hheld
        exact .inr ⟨p, as, [], rfl, by rw [hheld]; rfl, hbefore, hinstalls, trivial⟩
      · exact .inl ⟨ps, hsince.append [a], hmembers⟩

theorem traced_run (hwaiting : s.refreshes r = .waiting) (as : List Action) :
    s.Traced f r as := by
  induction as using List.reverseRecOn with
  | nil => exact traced_nil hwaiting
  | append_singleton as a ih => exact ih.append hwaiting a

/-! ### Refreshes after a write -/

/-- **A refresh that begins after a write and has returned makes it visible for good**, unless it is
overtaken by one that had listed the store before the write. -/
theorem reflects_or_overtaken (s : System) (f : Family) (c : Store.Call f.Member) (id : String)
    (rest : List Action) (r : Nat) (hwrite : c.Writes (s.stores f) id)
    (hbegin : s.refreshes r = .waiting)
    (hreturned : ∃ seen, (s.run (.call f c :: rest)).refreshes r = .returned seen) :
    s.Reflects f c rest id ∨ (s.after (.call f c)).Overtaken f rest r := by
  have hwaiting : (s.after (.call f c)).refreshes r = .waiting := hbegin
  have htraced : (s.after (.call f c)).Traced f r rest := traced_run hwaiting rest
  have hinstalled : (((s.after (.call f c)).run rest).refreshes r).HasInstalled := by
    obtain ⟨seen, hseen⟩ := hreturned
    rw [run_cons] at hseen
    rw [hseen]
    trivial
  -- The list in force was taken after the write, so it reflects the last write before it.
  rcases htraced.members hinstalled with ⟨ps, ⟨upTo, since, rfl, rfl⟩, hmembers⟩ | hovertaken
  · exact .inl ⟨upTo, since, rfl, hmembers, exists_last_write hwrite upTo⟩
  · exact .inr hovertaken

/-! ### A refresh that is overtaken -/

/-- A system in which one policy is stored, and which a refresh has listed without going on. -/
def listedOnce : System :=
  (start .empty).run [.call .access (.create "" .epoch Store.office), .advance 0, .advance 0]

def switchOff : Store.Call AccessPolicy :=
  .setEnabled .epoch "a" false

/-- A whole refresh, before the first one goes on. -/
def wholeRefresh : List Action :=
  List.replicate 4 (.advance 1)

/-- A whole refresh after the switch makes it visible. -/
theorem reflects_or_overtaken_wholeRefresh :
    (switchOff.Writes (listedOnce.stores .access) "a" ∧ listedOnce.refreshes 1 = .waiting ∧
        ∃ seen, (listedOnce.run (.call .access switchOff :: wholeRefresh)).refreshes 1 =
          .returned seen) ∧
      (listedOnce.Reflects .access switchOff wholeRefresh "a" ∨
        (listedOnce.after (.call .access switchOff)).Overtaken .access wholeRefresh 1) := by
  have hwrite : switchOff.Writes (listedOnce.stores .access) "a" := by decide +kernel
  have hreturned : ∃ seen, (listedOnce.run (.call .access switchOff :: wholeRefresh)).refreshes 1 =
      .returned seen := ⟨_, rfl⟩
  exact ⟨⟨hwrite, rfl, hreturned⟩,
    reflects_or_overtaken listedOnce .access switchOff "a" wholeRefresh 1 hwrite rfl hreturned⟩

/-- The first refresh goes on after a whole one and brings the policy back that was switched off
before it. -/
theorem not_reflects_of_stale_refresh :
    (switchOff.Writes (listedOnce.stores .access) "a" ∧ listedOnce.refreshes 1 = .waiting ∧
        ∃ seen, (listedOnce.run (.call .access switchOff ::
          (wholeRefresh ++ [.advance 0]))).refreshes 1 = .returned seen) ∧
      ¬ listedOnce.Reflects .access switchOff (wholeRefresh ++ [.advance 0]) "a" := by
  refine ⟨⟨by decide +kernel, rfl, _, rfl⟩, ?_⟩
  rintro ⟨upTo, since, hsplit, hmembers, -⟩
  have hadvances : ∀ a ∈ upTo, ∃ r, a = .advance r := by
    intro a ha
    have hmem : a ∈ wholeRefresh ++ [.advance 0] := by
      rw [hsplit]
      exact List.mem_append_left since ha
    rcases List.mem_append.1 hmem with hwhole | hlast
    · exact ⟨1, List.eq_of_mem_replicate hwhole⟩
    · exact ⟨0, List.mem_singleton.1 hlast⟩
  -- No policy of the store is in force from the switch on.
  have hnone : inForce ((listedOnce.after (.call .access switchOff)).stores .access).list = [] := by
    decide +kernel
  rw [run_cons, run_cons, stores_run_of_advances _ hadvances, hnone] at hmembers
  revert hmembers
  decide +kernel

end System

end ZeroTrust
