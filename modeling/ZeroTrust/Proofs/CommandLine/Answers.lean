/-
  `Proofs.CommandLine.Answers` — what commands answer.

  A run reports events as it goes, and nothing in it depends on what was reported
  before (`Job.EndsWith`). So its answer is what its files give, one step after
  another: the answer of deciding (`answer_evaluate`) and that of compiling
  (`answer_compile`) for the bundle, the settings, the request and the ranges that
  the files hold.
-/
import ZeroTrust.CommandLine.Run

namespace ZeroTrust.CommandLine

/-! ### Jobs -/

namespace Job

variable {α β : Type}

/-- Whether a job ends with a result, whatever was reported before it. -/
def EndsWith (j : Job α) (result : Except Error α) : Prop :=
  ∀ before, (j.run.run before).1 = result

theorem endsWith_pure (a : α) : (pure a : Job α).EndsWith (.ok a) :=
  fun _ => rfl

theorem endsWith_get (result : Except Error α) : (get result).EndsWith result := by
  cases result with
  | ok a => exact fun _ => rfl
  | error e => exact fun _ => rfl

theorem EndsWith.bind {j : Job α} {result : Except Error α} {next : α → Job β}
    {rest : α → Except Error β} (hj : j.EndsWith result)
    (hnext : ∀ a, (next a).EndsWith (rest a)) : (j >>= next).EndsWith (result >>= rest) := by
  intro before
  rw [← hj before, ExceptT.run_bind, StateT.run_bind]
  cases j.run.run before with
  | mk outcome reported =>
    cases outcome with
    | ok a =>
      -- The rest goes on from what was reported, which does not matter to it.
      exact hnext a reported
    | error e => rfl

/-- Reports do not count for the result. -/
theorem EndsWith.reporting {j : Job α} {result : Except Error α} (hj : j.EndsWith result)
    (events : List Event) : (report events >>= fun _ => j).EndsWith result :=
  fun before => hj (before ++ events)

end Job

open Job

/-! ### Files -/

variable (w : World)

/-- The bundle in a file. -/
def World.bundle (name : String) : Except Error Bundle :=
  w.content .document name >>= Bundle.ofText

/-- The ranges in a file, if there is one. -/
def World.ranges : Option String → Except Error CountryRanges
  | none => .ok .empty
  | some name => do
    let text ← w.content .ranges name
    (CountryRanges.ofText text).mapError (.malformedRanges (some name))

theorem bundle_of_content {w : World} {name text : String}
    (h : w.content .document name = .ok text) : w.bundle name = Bundle.ofText text := by
  rw [World.bundle, h]
  rfl

theorem endsWith_readBundle (name : String) : (readBundle w name).EndsWith (w.bundle name) := by
  have hread : (readBundle w name).EndsWith (w.bundle name >>= pure) :=
    (endsWith_get _).bind fun b => (endsWith_pure b).reporting [loadedEvent b]
  rwa [bind_pure] at hread

theorem endsWith_readRanges (name : Option String) :
    (readRanges w name).EndsWith (w.ranges name) := by
  cases name with
  | none => exact endsWith_pure _
  | some name =>
    -- Reading the file and reading the ranges in it are two steps, with a report after them.
    have hread : (readRanges w (some name)).EndsWith
        (w.content .ranges name >>= fun text =>
          (CountryRanges.ofText text).mapError (.malformedRanges (some name)) >>= pure) :=
      (endsWith_get _).bind fun _ => (endsWith_get _).bind fun ranges =>
        (endsWith_pure ranges).reporting _
    simp only [bind_pure] at hread
    exact hread

/-! ### Commands -/

theorem answer_run {command : Command} {result : Except Error Answer}
    (h : (job w command).EndsWith result) :
    (run w command).answer = result.mapError .failure := by
  rw [← h []]
  rfl

theorem endsWith_evaluate (stage : Option Stage) (bundle request : String)
    (settings ranges : Option String) :
    (job w (.evaluate stage bundle request settings ranges)).EndsWith (do
      let b ← w.bundle bundle
      let s ← readSettings w settings
      let r ← readRequest w request
      let t ← w.ranges ranges
      let decision := b.decide s t stage r
      return ⟨decision.toJson.pretty ++ "\n", decision.verdict == .allow⟩) := by
  refine (endsWith_readBundle w bundle).bind fun b => ?_
  refine (endsWith_get _).bind fun s => ?_
  refine (endsWith_get _).bind fun r => EndsWith.reporting ?_ _
  refine (endsWith_readRanges w ranges).bind fun t => ?_
  exact (endsWith_pure _).reporting _

theorem endsWith_compile (bundle : String) (gateway settings : Option String) :
    (job w (.compile bundle gateway settings)).EndsWith (do
      let b ← w.bundle bundle
      let s ← readSettings w settings
      let config ← b.compile s gateway
      return ⟨config.toJson.pretty ++ "\n", true⟩) := by
  refine (endsWith_readBundle w bundle).bind fun b => ?_
  refine (endsWith_get _).bind fun s => ?_
  refine EndsWith.reporting (EndsWith.reporting ?_ _) _
  exact (endsWith_get _).bind fun config => endsWith_pure _

section Answers

variable {w} {bundle request : String} {settings ranges : Option String} {b : Bundle}
  {s : Settings} {r : Request} {t : CountryRanges}

theorem answer_evaluate (hbundle : w.bundle bundle = .ok b)
    (hsettings : readSettings w settings = .ok s) (hrequest : readRequest w request = .ok r)
    (hranges : w.ranges ranges = .ok t) (stage : Option Stage) :
    (run w (.evaluate stage bundle request settings ranges)).answer =
      .ok ⟨(b.decide s t stage r).toJson.pretty ++ "\n",
        (b.decide s t stage r).verdict == .allow⟩ := by
  rw [answer_run w (endsWith_evaluate w stage bundle request settings ranges), hbundle, hsettings,
    hrequest, hranges]
  rfl

theorem answer_compile (hbundle : w.bundle bundle = .ok b)
    (hsettings : readSettings w settings = .ok s) (gateway : Option String) :
    (run w (.compile bundle gateway settings)).answer =
      ((b.compile s gateway).map fun config => ⟨config.toJson.pretty ++ "\n", true⟩).mapError
        .failure := by
  rw [answer_run w (endsWith_compile w bundle gateway settings), hbundle, hsettings]
  show ((b.compile s gateway >>= fun config => _).mapError _) = _
  cases b.compile s gateway <;> rfl

end Answers

end ZeroTrust.CommandLine
