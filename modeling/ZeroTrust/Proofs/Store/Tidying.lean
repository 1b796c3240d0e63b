/-
  `Proofs.Store.Tidying` — tidying an application does no harm.

  Before an application is saved its networks are trimmed, and those that are written like
  an earlier one are left out. The list that is left has each trimmed text at its first
  place only (`unseen_nil`), and so names the same networks: the stored application is
  aimed at by the same requests (`Application.ofApplication_tidied`).

  What is tidy stays as it is when it is tidied once more (`Application.Sound.tidied_eq_self`).
  After any calls the applications of a directory are (`Directory.every_kept_run`), so that
  saving one of them again leaves the directory as it was
  (`Directory.upsert_eq_self`).
-/
import ZeroTrust.Proofs.Store.Applications

namespace ZeroTrust

/-! ### First occurrences -/

theorem unseen_eq_eraseDups (seen l : List String) :
    unseen seen l = (l.filter fun s => !seen.contains s).eraseDups := by
  induction l generalizing seen with
  | nil => rfl
  | cons s l ih =>
    rw [unseen]
    cases hseen : seen.contains s with
    | true => rw [if_pos rfl, ih, List.filter_cons_of_neg (by rw [hseen]; decide)]
    | false =>
      rw [if_neg Bool.false_ne_true, ih, List.filter_cons_of_pos (by rw [hseen]; rfl),
        List.eraseDups_cons, List.filter_filter]
      congr 3
      funext t
      rw [List.contains_cons, Bool.not_or]

/-- Of texts none of which was seen before, each is left at its first place. -/
theorem unseen_nil (l : List String) : unseen [] l = l.eraseDups := by
  have hall : (l.filter fun s => !([] : List String).contains s) = l :=
    List.filter_eq_self.2 fun _ _ => rfl
  rw [unseen_eq_eraseDups, hall]

theorem mem_unseen_iff {seen l : List String} {s : String} :
    s ∈ unseen seen l ↔ s ∈ l ∧ s ∉ seen := by
  rw [unseen_eq_eraseDups, List.mem_eraseDups, List.mem_filter]
  simp

theorem nodup_unseen (seen l : List String) : (unseen seen l).Nodup := by
  induction l generalizing seen with
  | nil => exact List.nodup_nil
  | cons s l ih =>
    rw [unseen]
    split
    case isTrue => exact ih seen
    case isFalse =>
      refine List.nodup_cons.2 ⟨fun hs => ?_, ih (s :: seen)⟩
      exact (mem_unseen_iff.1 hs).2 List.mem_cons_self

/-- Where nothing is repeated, everything is left. -/
theorem unseen_eq_self {seen l : List String} (hl : l.Nodup) (hseen : ∀ s ∈ l, s ∉ seen) :
    unseen seen l = l := by
  induction l generalizing seen with
  | nil => rfl
  | cons s l ih =>
    obtain ⟨hs, hl⟩ := List.nodup_cons.1 hl
    have hnew : ¬ seen.contains s = true := by
      simpa using hseen s List.mem_cons_self
    rw [unseen, if_neg hnew, ih hl fun t ht => ?_]
    -- What comes later differs from what was seen, this one included.
    rw [List.mem_cons, not_or]
    exact ⟨fun heq => hs (heq ▸ ht), hseen t (List.mem_cons_of_mem s ht)⟩

/-! ### Tidy applications -/

namespace Application

variable {a : Application}

theorem mem_cidrs_tidied_iff {cidr : String} :
    cidr ∈ a.tidied.cidrs ↔ cidr ∈ a.cidrs.map Text.trim := by
  rw [tidied, mem_unseen_iff]
  simp

theorem trim_of_mem_cidrs_tidied {cidr : String} (h : cidr ∈ a.tidied.cidrs) :
    Text.trim cidr = cidr := by
  obtain ⟨written, -, rfl⟩ := List.mem_map.1 (mem_cidrs_tidied_iff.1 h)
  exact Text.trim_trim written

/-- What is tidy already is not changed by tidying. -/
theorem Sound.tidied_eq_self (h : a.Sound) (hnodup : a.cidrs.Nodup) : a.tidied = a := by
  rw [tidied, h.map_trim_cidrs, unseen_eq_self hnodup fun _ _ => List.not_mem_nil]

/-- **Tidying keeps the networks**, where they can all be read. -/
theorem ofApplication_tidied (h : a.tidied.Sound) (ip : Option Net.Ipv4) :
    Aim.ofApplication a.tidied ip = Aim.ofApplication a ip := by
  cases ip with
  | none => rfl
  | some ip =>
    have hwritten : ∀ cidr ∈ a.cidrs, (Net.Cidr.parse? (Text.trim cidr)).isSome = true :=
      fun cidr hcidr =>
        h.cidrs_readable _ (mem_cidrs_tidied_iff.2 (List.mem_map_of_mem hcidr))
    rw [Aim.ofApplication, Aim.ofApplication,
      Aim.ofNetworks_of_forall_isSome ip fun _ => h.isSome_parse?_trim,
      Aim.ofNetworks_of_forall_isSome ip hwritten]
    congr 1
    -- The two lists name the same networks, if not as often.
    rw [Bool.eq_iff_iff, List.any_eq_true, List.any_eq_true]
    simp only [mem_cidrs_tidied_iff, List.mem_map, exists_exists_and_eq_and, Text.trim_trim]

end Application

namespace Directory

/-- Whether an application is as a directory keeps it under an id. -/
structure Kept (id : String) (a : Application) : Prop where
  id_eq : a.id = id
  passed : a.validate.passed = true
  trimmed : ∀ cidr ∈ a.cidrs, Text.trim cidr = cidr
  distinct : a.cidrs.Nodup

theorem kept_tidied {a : Application} (h : a.tidied.Sound) : Kept a.id a.tidied where
  id_eq := rfl
  passed := a.tidied.validate_passed_iff.2 h
  trimmed _ := Application.trim_of_mem_cidrs_tidied
  distinct := nodup_unseen [] _

theorem every_kept_run (calls : List Call) : (empty.run calls).Every Kept :=
  every_empty.run (fun _ hsound => kept_tidied hsound) calls

/-- Saving an application that is stored already changes nothing. -/
theorem upsert_eq_self {d : Directory} {id : String} {a : Application} (h : d.resolve id = some a)
    (hkept : Kept id a) : d.upsert a = .ok d := by
  have hsound : a.Sound := a.validate_passed_iff.1 hkept.passed
  rw [upsert_eq_ok_iff, hsound.tidied_eq_self hkept.distinct, hkept.id_eq,
    Registry.insert_eq_self h]
  exact ⟨hsound, rfl⟩

/-- **Tidying is harmless and stable.** After any calls each application is filed under its own id,
passes its checks, and has networks that are trimmed and all different; saving it again changes
nothing, and neither does a call that fails. An application that is saved is stored with each of
its trimmed networks at its first place; it is aimed at for the same destinations as before, and
saving what is stored leaves the directory as it is. -/
theorem kept_and_stable (calls : List Call) :
    (∀ id a, (empty.run calls).resolve id = some a →
      Kept id a ∧ (empty.run calls).upsert a = .ok (empty.run calls)) ∧
    (∀ (c : Call) (e : Error), c.answer (empty.run calls) = .error e →
      c.after (empty.run calls) = empty.run calls) ∧
    ∀ a d, (empty.run calls).upsert a = .ok d →
      ∃ stored, d.resolve a.id = some stored ∧
        stored = { a with cidrs := (a.cidrs.map Text.trim).eraseDups } ∧
        (∀ ip, Aim.ofApplication stored ip = Aim.ofApplication a ip) ∧
        d.upsert stored = .ok d := by
  refine ⟨fun id a ha => ?_, fun c e => after_of_answer_eq_error, fun a d ha => ?_⟩
  · have hkept := every_kept_run calls id a ha
    exact ⟨hkept, upsert_eq_self ha hkept⟩
  · obtain ⟨hsound, rfl⟩ := (upsert_eq_ok_iff _ a d).1 ha
    -- What was saved is found under its id, and it is tidy.
    have hstored : resolve ⟨(empty.run calls).applications.insert a.id a.tidied⟩ a.id =
        some a.tidied := by
      rw [resolve, Registry.find?_insert, if_pos rfl]
    refine ⟨a.tidied, hstored, ?_, Application.ofApplication_tidied hsound,
      upsert_eq_self hstored (kept_tidied hsound)⟩
    rw [Application.tidied, unseen_nil]

/-- An application with one network written three times, and another. -/
def untidyWiki : Application :=
  ⟨"wiki", "Wiki", "", [" 10.0.0.0/8", "10.9.0.0/16", "10.0.0.0/8", "10.0.0.0/8\t"]⟩

/-- An application that cannot be saved comes between. -/
theorem kept_and_stable_untidyWiki :
    (empty.run [.upsert untidyWiki, .upsert ⟨"", "", "", []⟩]).resolve "wiki" =
        some { untidyWiki with cidrs := ["10.0.0.0/8", "10.9.0.0/16"] } ∧
      Kept "wiki" { untidyWiki with cidrs := ["10.0.0.0/8", "10.9.0.0/16"] } ∧
      ∃ d, empty.upsert untidyWiki = .ok d ∧ ∃ stored, d.resolve "wiki" = some stored ∧
        stored = { untidyWiki with cidrs := (untidyWiki.cidrs.map Text.trim).eraseDups } ∧
        (∀ ip, Aim.ofApplication stored ip = Aim.ofApplication untidyWiki ip) ∧
        d.upsert stored = .ok d := by
  have hresolve : (empty.run [.upsert untidyWiki, .upsert ⟨"", "", "", []⟩]).resolve "wiki" =
      some { untidyWiki with cidrs := ["10.0.0.0/8", "10.9.0.0/16"] } := by
    decide +kernel
  obtain ⟨hkept, -, -⟩ := kept_and_stable [.upsert untidyWiki, .upsert ⟨"", "", "", []⟩]
  obtain ⟨-, -, hsaved⟩ := kept_and_stable []
  have hupsert : empty.upsert untidyWiki =
      .ok ⟨empty.applications.insert "wiki" untidyWiki.tidied⟩ := by
    rw [upsert_eq_ok_iff]
    exact ⟨untidyWiki.tidied.validate_passed_iff.1 (by decide +kernel), rfl⟩
  exact ⟨hresolve, (hkept "wiki" _ hresolve).1, _, hupsert, hsaved untidyWiki _ hupsert⟩

end Directory

end ZeroTrust
