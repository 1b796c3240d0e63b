/-
  `Store.Directory` — the applications that policies can aim at.

  A directory files applications under their ids. An application is checked before
  it is saved. Its networks are trimmed first, and of networks that are written
  alike the first is kept.
-/
import ZeroTrust.Error
import ZeroTrust.Log.Event
import ZeroTrust.Ordered.Registry
import ZeroTrust.Validation.Policy

namespace ZeroTrust

/-- The texts of a list that have not been seen before, each once, in order. -/
def unseen (seen : List String) : List String → List String
  | [] => []
  | s :: rest => if seen.contains s then unseen seen rest else s :: unseen (s :: seen) rest

/-- An application with its networks trimmed and without repetitions. -/
def Application.tidied (a : Application) : Application :=
  { a with cidrs := unseen [] (a.cidrs.map Text.trim) }

/-- The applications that policies can aim at. -/
structure Directory where
  applications : Registry Application

namespace Directory

/-- The directory without applications. -/
def empty : Directory := ⟨.empty⟩

/-- The application under an id. -/
def resolve (d : Directory) (id : String) : Option Application :=
  d.applications.find? id

/-- Saves an application, in the place of the one with its id, if any. -/
def upsert (d : Directory) (a : Application) : Except Error Directory := do
  let tidied := a.tidied
  tidied.validate.orInvalid tidied.name
  return ⟨d.applications.insert tidied.id tidied⟩

/-- Removes an application. -/
def remove (d : Directory) (id : String) : Except Error (Application × Directory) :=
  match d.resolve id with
  | some a => .ok (a, ⟨d.applications.erase id⟩)
  | none => .error (.applicationNotFound id)

/-- Saves applications one after another, up to the first that cannot be saved. -/
def ofApplications (applications : List Application) : Except Error Directory :=
  applications.foldlM upsert empty

/-- Saves the applications that can be saved and leaves out the others. -/
def ofValidApplications (applications : List Application) : Directory :=
  applications.foldl (fun d a => (d.upsert a).toOption.getD d) empty

/-! ### Events -/

/-- What saving an application reports. -/
def upsertEvents (a : Application) : List Event :=
  if a.tidied.validate.passed then
    [⟨.info, .directory, "application saved",
      [("app_id", .text a.id), ("cidrs", .int a.tidied.cidrs.length)]⟩]
  else []

/-- What saving applications up to the first that cannot be saved reports. -/
def ofApplicationsEvents (applications : List Application) : List Event :=
  (applications.takeWhile fun a => a.tidied.validate.passed).flatMap upsertEvents

/-- What saving the applications that can be saved reports. -/
def ofValidApplicationsEvents (applications : List Application) : List Event :=
  applications.flatMap fun a =>
    match a.tidied.validate.orInvalid a.name with
    | .ok _ => upsertEvents a
    | .error e =>
      [⟨.warn, .commandLine, "skipping invalid application",
        [("app_id", .text a.id), ("error", .text e.message)]⟩]

end Directory

end ZeroTrust
