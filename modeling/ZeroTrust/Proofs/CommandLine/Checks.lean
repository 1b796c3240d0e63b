/-
  `Proofs.CommandLine.Checks` — what the check of a bundle answers.

  A check saves everything in a bundle and prints one line for each finding
  (`answer_check`). The findings are the right ones for the items in their order, and the
  check passes exactly where everything in the bundle can be saved
  (`answer_check_judged`), as long as the ids for policies without one are not among those
  that the bundle brings.
-/
import Mathlib.Data.List.Forall2
import ZeroTrust.Proofs.CommandLine.Answers
import ZeroTrust.Proofs.Documents.RoundTrip
import ZeroTrust.Proofs.Store.Checking

namespace ZeroTrust

/-! ### Bundles that can be saved -/

/-- Whether everything in a bundle can be saved: its applications, once their networks are trimmed
and none is repeated, and its policies, in which no id comes twice in a family. -/
structure Bundle.Savable (b : Bundle) : Prop where
  applications : ∀ a ∈ b.applications, a.trimmedOnce.validate.passed = true
  access : ∀ p ∈ b.access, p.validate.passed = true
  access_distinct : b.access.Pairwise fun p q => p.id ≠ "" → p.id ≠ q.id
  signIn : ∀ p ∈ b.signIn, p.validate.passed = true
  signIn_distinct : b.signIn.Pairwise fun p q => p.id ≠ "" → p.id ≠ q.id

/-- The findings on a bundle are good where those on the applications and those on the policies of
each family are. -/
theorem Bundle.all_passed_findings_iff (b : Bundle) (ids : Nat → String) :
    (b.findings ids).all Finding.passed = true ↔
      (∀ a ∈ b.applications, a.trimmedOnce.validate.passed = true) ∧
      (familyFindings .access AccessPolicy.description ids 0 b.access).all Finding.passed = true ∧
      (familyFindings .signIn SignInPolicy.description ids b.access.length b.signIn).all
        Finding.passed = true := by
  have hfindings : b.findings ids = b.applications.map applicationFinding ++
      familyFindings .access AccessPolicy.description ids 0 b.access ++
      familyFindings .signIn SignInPolicy.description ids b.access.length b.signIn := rfl
  have happlication (a : Application) :
      (applicationFinding a).passed = true ↔ a.trimmedOnce.validate.passed = true := by
    rw [← Finding.not_fails_iff, (judged_applicationFinding a).fails_iff, Bool.not_eq_false]
  rw [hfindings, List.all_append, List.all_append, Bool.and_eq_true, Bool.and_eq_true, and_assoc,
    List.all_map, List.all_eq_true]
  simp only [Function.comp_apply, happlication]

namespace CommandLine

open Job

theorem endsWith_check (w : World) (bundle : String) :
    (job w (.check bundle)).EndsWith (do
      let b ← w.bundle bundle
      let findings := b.findings w.ids
      return ⟨String.join (findings.map fun f => f.line ++ "\n"),
        findings.all Finding.passed⟩) := by
  refine (endsWith_readBundle w bundle).bind fun b => ?_
  exact (endsWith_pure _).reporting _

variable {w : World} {bundle : String} {b : Bundle}

theorem answer_check (hbundle : w.bundle bundle = .ok b) :
    (run w (.check bundle)).answer =
      .ok ⟨String.join ((b.findings w.ids).map fun f => f.line ++ "\n"),
        (b.findings w.ids).all Finding.passed⟩ := by
  rw [answer_run w (endsWith_check w bundle), hbundle]
  rfl

/-- **A check passes exactly the bundles of which everything can be saved.** Whatever fails, it
prints a finding on each item: on the applications, the access policies and the sign-in policies,
in the order of the bundle. -/
theorem answer_check_judged (hbundle : w.bundle bundle = .ok b)
    (haccess : ∀ n, ∀ p ∈ b.access, p.id ≠ "" → w.ids n ≠ p.id)
    (hsignIn : ∀ n, ∀ p ∈ b.signIn, p.id ≠ "" → w.ids n ≠ p.id) :
    ∃ applications access signIn passed,
      (run w (.check bundle)).answer =
        .ok ⟨String.join ((applications ++ access ++ signIn).map fun f => f.line ++ "\n"),
          passed⟩ ∧
      (passed = true ↔ b.Savable) ∧
      List.Forall₂ JudgedApplication b.applications applications ∧
      Judged .access AccessPolicy.description b.access access ∧
      Judged .signIn SignInPolicy.description b.signIn signIn := by
  have happlications : List.Forall₂ JudgedApplication b.applications
      (b.applications.map Bundle.applicationFinding) :=
    List.forall₂_map_right_iff.2 (List.forall₂_same.2 fun a _ => judged_applicationFinding a)
  have hA := Bundle.judged_familyFindings .access AccessPolicy.description 0 haccess
  -- The sign-in policies go on with the ids where the access policies stopped.
  have hS := Bundle.judged_familyFindings .signIn SignInPolicy.description b.access.length hsignIn
  refine ⟨_, _, _, _, answer_check hbundle, ?_, happlications, hA, hS⟩
  rw [b.all_passed_findings_iff, hA.all_passed_iff, hS.all_passed_iff]
  constructor
  · rintro ⟨happs, ⟨ha, hadistinct⟩, hs, hsdistinct⟩
    exact ⟨happs, ha, hadistinct, hs, hsdistinct⟩
  · rintro ⟨happs, ha, hadistinct, hs, hsdistinct⟩
    exact ⟨happs, ⟨ha, hadistinct⟩, hs, hsdistinct⟩

/-- A bundle in which an id comes three times in one family and once in the other. The first policy
with it is for a network that is not given. -/
def twins : Bundle where
  access := [
    { AccessPolicy.new "broken" 10 with id := "twin", destinationKind := .cidr },
    { AccessPolicy.new "first" 20 with id := "twin" },
    { AccessPolicy.new "second" 30 with id := "twin" },
    AccessPolicy.new "nameless" 40]
  signIn := [{ SignInPolicy.new "other" 10 .preAuth with id := "twin" }]
  applications := [⟨"wiki", "Wiki", "", [" 10.0.0.0/8", "10.0.0.0/8"]⟩, ⟨"", "", "", []⟩]

/-- Files with the bundle, and ids that are numbered. -/
def twinFiles : World where
  file name := if name = "bundle.json" then some twins.toText else none
  ids n := s!"new-{n}"

theorem bundle_twinFiles : twinFiles.bundle "bundle.json" = .ok twins := by
  have hfile : twinFiles.content .document "bundle.json" = .ok twins.toText := by
    simp [World.content, twinFiles]
  have hread := readDocument_render
    (Bundle.readsBack (b := twins) (by decide +kernel) (by decide +kernel)) .bundle
  rw [Json.nesting_render, if_pos (by decide +kernel)] at hread
  rw [bundle_of_content hfile, Bundle.ofText, Bundle.toText, hread]

theorem ids_twinFiles (n : Nat) : twinFiles.ids n ≠ "twin" := by
  intro heq
  have hhead := congrArg (fun s => s.toList.head?) heq
  simp [twinFiles, toString] at hhead

/-- The check fails. The second policy with the id passes, as the first was not saved. -/
theorem answer_check_judged_twins :
    (twins.findings twinFiles.ids).map Finding.passed =
        [true, false, false, true, false, true, true] ∧
      ∃ applications access signIn,
        (run twinFiles (.check "bundle.json")).answer =
          .ok ⟨String.join ((applications ++ access ++ signIn).map fun f => f.line ++ "\n"),
            false⟩ ∧
        ¬ twins.Savable ∧
        List.Forall₂ JudgedApplication twins.applications applications ∧
        Judged .access AccessPolicy.description twins.access access ∧
        Judged .signIn SignInPolicy.description twins.signIn signIn := by
  have hids : (∀ p ∈ twins.access, p.id ≠ "" → p.id = "twin") ∧
      ∀ p ∈ twins.signIn, p.id ≠ "" → p.id = "twin" := by
    decide +kernel
  obtain ⟨applications, access, signIn, passed, hanswer, hpassed, hfindings⟩ :=
    answer_check_judged bundle_twinFiles
      (fun n p hp hid => hids.1 p hp hid ▸ ids_twinFiles n)
      (fun n p hp hid => hids.2 p hp hid ▸ ids_twinFiles n)
  have hbroken : ¬ twins.Savable := by
    intro h
    exact absurd h.access (by decide +kernel)
  have hfalse : passed = false := Bool.eq_false_iff.2 (hpassed.not.2 hbroken)
  rw [hfalse] at hanswer
  exact ⟨by decide +kernel, applications, access, signIn, hanswer, hbroken, hfindings⟩

end CommandLine

end ZeroTrust
