/-
  `Engine.Bundle` — deciding and compiling with what a bundle holds.

  The policies of the bundle are in force, and policies aim at its applications.
  Applications that cannot be saved are left out, so that policies aiming at them
  have a destination that cannot be resolved.
-/
import ZeroTrust.Engine.Events
import ZeroTrust.Gateway.Events
import ZeroTrust.Store.Directory

namespace ZeroTrust

namespace Bundle

/-- The directory of the applications of a bundle that can be saved. -/
def directory (b : Bundle) : Directory :=
  .ofValidApplications b.applications

/-- The engine for a bundle. -/
def engine (b : Bundle) (settings : Settings) (ranges : CountryRanges) : Engine :=
  ⟨settings, b.directory.resolve, ranges.locate⟩

/-- The decision on a request: a sign-in attempt where there is a stage, else an access request. -/
def decide (b : Bundle) (settings : Settings) (ranges : CountryRanges) (stage : Option Stage)
    (r : Request) : Decision :=
  match stage with
  | some stage => (b.engine settings ranges).decideSignIn (.ofBundle b) stage r
  | none => (b.engine settings ranges).decideAccess (.ofBundle b) r

/-- What the decision reports. -/
def decideEvents (b : Bundle) (settings : Settings) (ranges : CountryRanges)
    (stage : Option Stage) (r : Request) : List Event :=
  match stage with
  | some stage => (b.engine settings ranges).signInEvents (.ofBundle b) stage r
  | none => (b.engine settings ranges).accessEvents (.ofBundle b) r

/-- How the policies of a bundle are compiled. The gateway of the settings counts where no other is
given. -/
def compileOptions (settings : Settings) (gateway : Option String) : Gateway.Options :=
  { Gateway.Options.default with
    gateway := gateway <|> settings.gateway
    vacuousOr := settings.vacuousOr }

/-- The rules of the access policies of a bundle. -/
def compile (b : Bundle) (settings : Settings) (gateway : Option String) :
    Except Error Gateway.Config :=
  Gateway.compile b.directory.resolve (compileOptions settings gateway) b.access

/-- What compiling reports. -/
def compileEvents (b : Bundle) (settings : Settings) (gateway : Option String) : List Event :=
  Gateway.compileEvents b.directory.resolve (compileOptions settings gateway) b.access
    (b.compile settings gateway)

end Bundle

end ZeroTrust
