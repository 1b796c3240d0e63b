/-
  `Gateway.Events` — what is reported when rules are compiled.

  There is a warning for a policy whose destination cannot be resolved, and one for
  a policy with a condition that no tag expresses, which tells the first such
  condition. When all policies have been compiled, the number of rules and their
  fingerprint are reported. A policy that makes too many rules ends the report.
-/
import ZeroTrust.Gateway.Compile

namespace ZeroTrust.Gateway

/-- A warning about a policy. -/
def warning (p : AccessPolicy) (message reason : String) : Event :=
  ⟨.warn, .gateway, message,
    [("policy_id", .text p.id), ("policy", .text p.name), ("reason", .text reason)]⟩

/-- Why no tag expresses a condition, if none does. -/
def tagFault? (c : Condition) : Option TagFault :=
  match tag c with
  | .ok _ => none
  | .error fault => some fault

/-- What compiling a policy reports. -/
def policyEvents (resolve : String → Option Application) (p : AccessPolicy) : List Event :=
  match place resolve p.destination, p.effect with
  | .known _ _, effect =>
    match p.root.conditions.findSome? tagFault? with
    | some fault =>
      [warning p
        ("policy has conditions the gateway cannot match; compiling them as " ++
          toString (effect == .deny)) fault.message]
    | none => []
  | .nowhere, _ => []
  | .unknown fault, .allow =>
    [warning p "allow policy destination cannot be resolved; skipping" fault.message]
  | .unknown fault, .deny =>
    [warning p "deny policy destination cannot be resolved; denying every source" fault.message]

/-- What compiling policies reports, up to the first that makes too many rules. -/
def policiesEvents (resolve : String → Option Application) (o : Options) :
    List AccessPolicy → List Event
  | [] => []
  | p :: ps =>
    policyEvents resolve p ++
      match compilePolicy resolve o p with
      | .ok _ => policiesEvents resolve o ps
      | .error _ => []

/-- What compiling reports, given its result. -/
def compileEvents (resolve : String → Option Application) (o : Options)
    (policies : List AccessPolicy) (result : Except Error Config) : List Event :=
  policiesEvents resolve o (deployed o policies) ++
    match result with
    | .ok config =>
      [⟨.debug, .gateway, "gateway config compiled",
        [("rules", .int config.rules.length), ("config_hash", .text config.fingerprint)]⟩]
    | .error _ => []

end ZeroTrust.Gateway
