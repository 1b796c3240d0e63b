/-
  `Proofs.Store.Applications` — what a directory files.

  A directory is called like a store: one call after another saves an application or
  removes one (`Directory.run`), and a call that fails leaves it as it was. An application
  is tidied and checked before it is saved, and it is filed under its own id. So nothing
  is wrong with the applications of a directory (`Directory.Sound`), whatever was saved,
  or tried in vain, or removed before (`Directory.sound_run`).

  In particular the networks of the applications can be read, also in the directory that
  is made for a bundle (`Bundle.networksReadable`).
-/
import ZeroTrust.Engine.Bundle
import ZeroTrust.Proofs.Gateway.Places
import ZeroTrust.Proofs.Store.Operations
import ZeroTrust.Proofs.Validation.Soundness

namespace ZeroTrust

namespace Application

variable {a : Application} {cidr : String}

/-- The networks of a sound application are literals, and have no blanks around them. -/
theorem Sound.trim_of_mem (h : a.Sound) (hcidr : cidr ∈ a.cidrs) : Text.trim cidr = cidr :=
  Net.Cidr.trim_of_isSome (h.cidrs_readable cidr hcidr)

theorem Sound.map_trim_cidrs (h : a.Sound) : a.cidrs.map Text.trim = a.cidrs :=
  (List.map_congr_left fun _ => h.trim_of_mem).trans (List.map_id' a.cidrs)

theorem Sound.isSome_parse?_trim (h : a.Sound) (hcidr : cidr ∈ a.cidrs) :
    (Net.Cidr.parse? (Text.trim cidr)).isSome = true := by
  rw [h.trim_of_mem hcidr]
  exact h.cidrs_readable cidr hcidr

end Application

/-- Whether each application is filed under its own id and nothing is wrong with it. -/
def Directory.Sound (d : Directory) : Prop :=
  ∀ id a, d.resolve id = some a → a.id = id ∧ a.Sound

namespace Directory

/-- An application is saved, tidied, when nothing is wrong with what is left of it. -/
theorem upsert_eq_ok_iff (d : Directory) (a : Application) (d' : Directory) :
    d.upsert a = .ok d' ↔ a.tidied.Sound ∧ d' = ⟨d.applications.insert a.id a.tidied⟩ := by
  simp only [upsert, Except.bind_eq_ok_iff, Report.orInvalid_eq_ok_iff,
    Application.validate_passed_iff, Except.pure_eq_ok_iff, exists_const]
  rfl

/-- An application that is removed was there. -/
theorem remove_eq_ok_iff (d : Directory) (id : String) (a : Application) (d' : Directory) :
    d.remove id = .ok (a, d') ↔ d.resolve id = some a ∧ d' = ⟨d.applications.erase id⟩ := by
  rw [remove]
  cases d.resolve id with
  | none => simp
  | some b => simp [eq_comm]

/-! ### Runs -/

/-- A call that changes a directory. -/
inductive Call where
  | upsert (a : Application)
  | remove (id : String)
  deriving DecidableEq, Repr

namespace Call

/-- What a call answers: the application that it hands out, if any, with the directory that it
leaves. -/
def answer (d : Directory) : Call → Except Error (Option Application × Directory)
  | upsert a => (d.upsert a).map fun d' => (none, d')
  | remove id => (d.remove id).map fun r => (some r.1, r.2)

/-- The directory after a call. One that fails leaves it as it was. -/
def after (d : Directory) (c : Call) : Directory :=
  match c.answer d with
  | .ok (_, d') => d'
  | .error _ => d

end Call

/-- The directory after some calls, one after another. -/
def run (d : Directory) (calls : List Call) : Directory :=
  calls.foldl Call.after d

theorem after_of_answer_eq_error {d : Directory} {c : Call} {e : Error}
    (h : c.answer d = .error e) : c.after d = d := by
  rw [Call.after, h]

theorem after_upsert (d : Directory) (a : Application) :
    (Call.upsert a).after d = (d.upsert a).toOption.getD d := by
  rw [Call.after, Call.answer]
  cases d.upsert a <;> rfl

/-- Saving what can be saved is a run of calls, some of which may fail. -/
theorem ofValidApplications_eq_run (applications : List Application) :
    ofValidApplications applications = empty.run (applications.map .upsert) := by
  rw [ofValidApplications, run, List.foldl_map]
  simp only [after_upsert]

/-! ### What every application has -/

/-- Whether every application has a property together with the id that it is filed under. -/
def Every (d : Directory) (holds : String → Application → Prop) : Prop :=
  ∀ id a, d.resolve id = some a → holds id a

section Every

variable {holds : String → Application → Prop}

theorem every_empty : empty.Every holds := by
  intro id a ha
  rw [resolve, empty, Registry.find?_empty] at ha
  cases ha

/-- What those have that are saved, every application keeps having after a call. -/
theorem Every.after {d : Directory} (hd : d.Every holds)
    (hsaved : ∀ a : Application, a.tidied.Sound → holds a.id a.tidied) (c : Call) :
    (c.after d).Every holds := by
  rw [Call.after]
  cases h : c.answer d with
  | error e => exact hd
  | ok r =>
    intro id b hb
    cases c with
    | upsert a =>
      obtain ⟨d', hd', rfl⟩ := (Except.map_eq_ok_iff _ _ _).1 h
      -- What is found is the application just saved, or it was there before.
      obtain ⟨hsound, rfl⟩ := (d.upsert_eq_ok_iff a d').1 hd'
      simp only [resolve, Registry.find?_insert] at hb
      split at hb
      case isTrue hid =>
        obtain rfl := Option.some.inj hb
        exact hid ▸ hsaved a hsound
      case isFalse => exact hd id b hb
    | remove name =>
      obtain ⟨⟨a, d'⟩, hd', rfl⟩ := (Except.map_eq_ok_iff _ _ _).1 h
      obtain ⟨-, rfl⟩ := (d.remove_eq_ok_iff name a d').1 hd'
      -- What is found after a removal was there before.
      simp only [resolve, Registry.find?_erase] at hb
      split at hb
      case isTrue => cases hb
      case isFalse => exact hd id b hb

theorem Every.run {d : Directory} (hd : d.Every holds)
    (hsaved : ∀ a : Application, a.tidied.Sound → holds a.id a.tidied) (calls : List Call) :
    (d.run calls).Every holds := by
  induction calls generalizing d with
  | nil => exact hd
  | cons c calls ih => exact ih (hd.after hsaved c)

end Every

/-- **A directory is sound**, whatever calls were made before. -/
theorem sound_run (calls : List Call) : (empty.run calls).Sound :=
  every_empty.run (fun _ hsound => ⟨rfl, hsound⟩) calls

/-- A directory is sound, whatever the applications are that were to be saved in it. -/
theorem sound_ofValidApplications (applications : List Application) :
    (ofValidApplications applications).Sound := by
  rw [ofValidApplications_eq_run]
  exact sound_run _

theorem Sound.networksReadable {d : Directory} (hd : d.Sound) :
    Gateway.NetworksReadable d.resolve :=
  fun id a ha _ => (hd id a ha).2.isSome_parse?_trim

end Directory

/-- The networks of applications that a bundle brings can be read. -/
theorem Bundle.networksReadable (b : Bundle) : Gateway.NetworksReadable b.directory.resolve :=
  (Directory.sound_ofValidApplications b.applications).networksReadable

end ZeroTrust
