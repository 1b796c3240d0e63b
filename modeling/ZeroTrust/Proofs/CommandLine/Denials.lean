/-
  `Proofs.CommandLine.Denials` — commands where denials override.

  Settings say how the policies that apply combine. Deciding a request goes by them;
  compiling takes the gateway and the reading of empty disjunctions from them, and
  passes over the rest. So where denials override, the rules that are printed give
  the printed decision unless a denial comes late (`compiled_eq_decided_iff`), and
  else they admit what is denied (`compiled_ne_decided_quarantined`).
-/
import ZeroTrust.Proofs.CommandLine.Answers
import ZeroTrust.Proofs.Documents.RoundTrip
import ZeroTrust.Proofs.Gateway.Denials
import ZeroTrust.Proofs.Gateway.Inclusion
import ZeroTrust.Proofs.Store.Applications

namespace ZeroTrust.CommandLine

open Gateway

/-- **What is compiled where denials override** gives the verdict of the decision for the same
files, to a request for an address of four octets, exactly where no denial comes late. -/
theorem compiled_eq_decided_iff (w : World) (bundle request : String)
    (settings ranges : Option String) (b : Bundle) (s : Settings) (r : Request) (t : CountryRanges)
    (reads : Tag → Bool)
    (hbundle : w.bundle bundle = .ok b) (hsettings : readSettings w settings = .ok s)
    (hrequest : readRequest w request = .ok r) (hranges : w.ranges ranges = .ok t)
    (hresolution : s.resolution = .denyOverrides) (hdefault : s.accessDefault = .deny)
    (hip : r.destinationIpv4.isSome = true)
    (hagrees : ∀ p ∈ deployed (Bundle.compileOptions s none) b.access,
      Agrees reads ((b.engine s t).facts r) p.root.conditions)
    (hcompiled : (run w (.compile bundle none settings)).exitCode = 0) :
    ∃ config decision,
      (run w (.compile bundle none settings)).answer =
        .ok ⟨config.toJson.pretty ++ "\n", true⟩ ∧
      (run w (.evaluate none bundle request settings ranges)).answer =
        .ok ⟨decision.toJson.pretty ++ "\n", decision.verdict == .allow⟩ ∧
      b.compile s none = .ok config ∧ b.decide s t none r = decision ∧
      (verdict reads r config.rules = decision.verdict ↔
        ¬ (b.engine s t).DeniedLate (.ofBundle b) r) := by
  have hanswer := answer_compile hbundle hsettings none
  cases hconfig : b.compile s none with
  | error e =>
    rw [Result.exitCode, hanswer, hconfig] at hcompiled
    cases hcompiled
  | ok config =>
    rw [hconfig] at hanswer
    -- The applications of a bundle were checked, so their networks can be read.
    have hiff := verdict_eq_decideAccess_iff_of_denyOverrides (e := b.engine s t) b.signIn
      hresolution hdefault rfl rfl b.networksReadable hip hagrees hconfig
    exact ⟨config, _, hanswer, answer_evaluate hbundle hsettings hrequest hranges none, rfl, rfl,
      hiff⟩

/-! ### A network of which a part is closed -/

/-- Policies that admit managed devices to a network and deny the old servers in it. -/
def quarantine : Bundle where
  access := [
    { AccessPolicy.new "devices" 10 with
      id := "devices"
      destinationKind := .cidr
      destinationCidr := some "10.0.0.0/8"
      root := .leaf (.ofOp .managed "") },
    { AccessPolicy.new "quarantine" 20 with
      id := "quarantine"
      effect := .deny
      destinationKind := .app
      destinationApp := some "old" }]
  signIn := []
  applications := [⟨"old", "Old servers", "", ["10.9.0.0/16"]⟩]

def quarantineRules : List Rule := [
  ⟨"devices", "devices", .allow, 10, [⟨.deviceManaged, "true"⟩], .cidr, "10.0.0.0/8"⟩,
  ⟨"quarantine", "quarantine", .deny, 20, [], .cidr, "10.9.0.0/16"⟩]

/-- Settings with denials overriding. -/
def overriding : Settings :=
  { Settings.default with resolution := .denyOverrides }

/-- A managed device that asks for an old server. -/
def oldRequest : Request :=
  { Request.empty with
    device := some ⟨none, true⟩
    destinationIp := some (.v4 (.ofOctets 10 9 0 1)) }

/-- The device asks for another server. -/
def otherRequest : Request :=
  { oldRequest with destinationIp := some (.v4 (.ofOctets 10 1 0 1)) }

/-- Files with the bundle, the settings, and a request for an old server and for another one. -/
def quarantineFiles : World where
  file
    | "bundle.json" => some quarantine.toText
    | "engine.toml" =>
      some "[evaluation]\nresolution = \"deny-overrides\"\naccess-default = \"deny\"\n"
    | "old.json" => some "[null, [null, true], null, null, \"10.9.0.1\"]"
    | "other.json" => some "[null, [null, true], null, null, \"10.1.0.1\"]"
    | _ => none
  ids _ := ""

theorem bundle_quarantineFiles : quarantineFiles.bundle "bundle.json" = .ok quarantine := by
  have hfile : quarantineFiles.content .document "bundle.json" = .ok quarantine.toText := by
    simp [World.content, quarantineFiles]
  have hversions : ∀ p ∈ quarantine.access, p.version < UInt64.size := by decide +kernel
  have hdepth : quarantine.toJson.depth ≤ Json.nestingLimit := by decide +kernel
  have hread := readDocument_render
    (Bundle.readsBack hversions fun p hp => absurd hp List.not_mem_nil) .bundle
  rw [Json.nesting_render, if_pos hdepth] at hread
  rw [bundle_of_content hfile, Bundle.ofText, Bundle.toText, hread]

theorem readSettings_quarantineFiles :
    readSettings quarantineFiles (some "engine.toml") = .ok overriding := by
  decide +kernel

theorem compile_quarantine :
    quarantine.compile overriding none = .ok ⟨quarantineRules, fingerprint quarantineRules⟩ :=
  compile_of_pairwise (by decide +kernel) (by decide +kernel) (by decide +kernel)

theorem answer_compile_quarantine :
    (run quarantineFiles (.compile "bundle.json" none (some "engine.toml"))).answer =
      .ok ⟨(Config.mk quarantineRules (fingerprint quarantineRules)).toJson.pretty ++ "\n",
        true⟩ := by
  rw [answer_compile bundle_quarantineFiles readSettings_quarantineFiles, compile_quarantine]
  rfl

theorem readRequest_quarantineFiles :
    readRequest quarantineFiles "old.json" = .ok oldRequest ∧
      readRequest quarantineFiles "other.json" = .ok otherRequest := by
  decide +kernel

/-- No denial applies to the request for the other server, so none comes late. -/
theorem not_deniedLate_otherRequest :
    ¬ (quarantine.engine overriding .empty).DeniedLate (.ofBundle quarantine) otherRequest := by
  have hopen : ∀ q ∈ quarantine.access, q.effect = .deny →
      (quarantine.engine overriding .empty).appliesTo otherRequest q = false := by
    decide +kernel
  rintro ⟨-, q, hq, happlies, hdeny⟩
  have hlisted : q ∈ quarantine.access := ((mem_inForce_iff q _).1 hq).1
  rw [hopen q hlisted hdeny] at happlies
  cases happlies

/-- The other server is open, by the rules and by the decision. -/
theorem compiled_eq_decided_iff_other :
    ∃ config : Config,
      (run quarantineFiles (.compile "bundle.json" none (some "engine.toml"))).answer =
        .ok ⟨config.toJson.pretty ++ "\n", true⟩ ∧
      verdict managedTags otherRequest config.rules = .allow ∧
      (run quarantineFiles
        (.evaluate none "bundle.json" "other.json" (some "engine.toml") none)).exitCode = 0 := by
  have hexit :
      (run quarantineFiles (.compile "bundle.json" none (some "engine.toml"))).exitCode = 0 := by
    rw [Result.exitCode, answer_compile_quarantine]
  have hagrees : ∀ p ∈ quarantine.access, Agrees managedTags
      ((quarantine.engine overriding .empty).facts otherRequest) p.root.conditions := by
    decide +kernel
  obtain ⟨config, decision, hcompiled, hdecided, hconfig, -, hiff⟩ :=
    compiled_eq_decided_iff quarantineFiles "bundle.json" "other.json" (some "engine.toml") none
      quarantine overriding otherRequest .empty managedTags bundle_quarantineFiles
      readSettings_quarantineFiles readRequest_quarantineFiles.2 rfl rfl rfl (by decide +kernel)
      (fun p hp => hagrees p (mem_of_mem_deployed hp)) hexit
  have hallow : verdict managedTags otherRequest config.rules = .allow := by
    rw [compile_quarantine] at hconfig
    rw [← Except.ok.inj hconfig]
    decide +kernel
  refine ⟨config, hcompiled, hallow, ?_⟩
  rw [Result.exitCode, hdecided, ← hiff.2 not_deniedLate_otherRequest, hallow]
  rfl

/-- **The old server is open by the rules and closed by the decision**: the rules put the admission
first, as if denials did not override. -/
theorem compiled_ne_decided_quarantined :
    quarantineFiles.bundle "bundle.json" = .ok quarantine ∧
      readSettings quarantineFiles (some "engine.toml") = .ok overriding ∧
      overriding.resolution = .denyOverrides ∧ overriding.accessDefault = .deny ∧
      readRequest quarantineFiles "old.json" = .ok oldRequest ∧
      oldRequest.destinationIpv4.isSome = true ∧
      (∀ p ∈ quarantine.access, Agrees managedTags
        ((quarantine.engine overriding .empty).facts oldRequest) p.root.conditions) ∧
      (∃ config : Config,
        (run quarantineFiles (.compile "bundle.json" none (some "engine.toml"))).answer =
          .ok ⟨config.toJson.pretty ++ "\n", true⟩ ∧
        verdict managedTags oldRequest config.rules = .allow) ∧
      (run quarantineFiles
        (.evaluate none "bundle.json" "old.json" (some "engine.toml") none)).exitCode = 1 := by
  refine ⟨bundle_quarantineFiles, readSettings_quarantineFiles, rfl, rfl,
    readRequest_quarantineFiles.1, by decide +kernel, by decide +kernel,
    ⟨_, answer_compile_quarantine, by decide +kernel⟩, ?_⟩
  -- The rules admit at the first match. The denial behind it is in force and applies all the same.
  have hclosed : ∃ q ∈ quarantine.access, q.enabled = true ∧
      (quarantine.engine overriding .empty).appliesTo oldRequest q = true ∧ q.effect = .deny := by
    decide +kernel
  obtain ⟨q, hq, henabled, hdenies⟩ := hclosed
  have hdeny : (quarantine.decide overriding .empty none oldRequest).verdict = .deny :=
    Engine.verdict_decideAccess_of_denial (s := .ofBundle quarantine) rfl
      ⟨q, (mem_inForce_iff q _).2 ⟨hq, henabled⟩, hdenies⟩
  rw [Result.exitCode, answer_evaluate bundle_quarantineFiles readSettings_quarantineFiles
    readRequest_quarantineFiles.1 rfl, hdeny]
  rfl

end ZeroTrust.CommandLine
