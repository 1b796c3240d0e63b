/-
  `Proofs.Store.Targets` — which applications a policy can aim at.

  A policy aims at an application by its id, and blanks around the id that it holds do not
  count. A directory files applications under their ids as they are written. So a policy
  that holds the id of a stored application comes to that application exactly when there
  are no blanks around the id (`Directory.resolves_iff_trimmed`).

  Where it does, the networks of the application settle the rest. Nothing is wrong with a
  stored application: a request is aimed at or not (`Application.Sound.ofApplication_eq`),
  and a gateway can tell the place (`Application.Sound.placeOfApplication_eq`). With blanks
  around the id both are open, unless another application is filed under what is left of
  it.
-/
import ZeroTrust.Proofs.Evaluation.Boolean
import ZeroTrust.Proofs.Store.Applications

namespace ZeroTrust

/-- A policy that holds an id aims at what is filed under the trimmed id. -/
theorem AccessPolicy.destination_eq_app {p : AccessPolicy} {id : String}
    (hkind : p.destinationKind = .app) (happ : p.destinationApp = some id)
    (hid : Text.isBlankText id = false) : p.destination = .app (Text.trim id) := by
  have hne : Text.trim id ≠ "" := by
    intro hempty
    rw [(Text.isBlankText_iff id).2 hempty] at hid
    cases hid
  have hpresent : present? p.destinationApp = some (Text.trim id) := by
    simp [present?, happ, hne]
  simp only [destination, hkind, hpresent, Option.elim_some]

/-! ### Sound applications -/

namespace Application

variable {a : Application}

/-- Whether one of the networks of an application holds an address. -/
def holds (a : Application) (ip : Net.Ipv4) : Bool :=
  a.cidrs.any fun cidr => (Net.Cidr.parse? cidr).any (·.contains ip)

/-- The networks of a sound application settle for which addresses it is aimed at. -/
theorem Sound.ofApplication_eq (h : a.Sound) (ip : Option Net.Ipv4) :
    Aim.ofApplication a ip = .ofBool (ip.any a.holds) := by
  cases ip with
  | none => rfl
  | some ip =>
    have hholds : (a.cidrs.any fun cidr =>
        (Net.Cidr.parse? (Text.trim cidr)).any (·.contains ip)) = a.holds ip :=
      any_eq_any_of_forall_mem fun cidr hcidr => by rw [h.trim_of_mem hcidr]
    rw [Aim.ofApplication, Aim.ofNetworks_of_forall_isSome ip fun _ => h.isSome_parse?_trim,
      hholds, Option.any_some]

/-- A gateway can tell the place of a sound application. -/
theorem Sound.placeOfApplication_eq (h : a.Sound) (id : String) :
    Gateway.placeOfApplication a id =
      if a.cidrs = [] then .nowhere else .known .cidr (",".intercalate a.cidrs) := by
  rcases Gateway.placeOfApplication_cases a id with
    ⟨hnil, hplace⟩ | ⟨hne, -, hplace⟩ | ⟨cidr, hcidr, hunread, -⟩
  · rw [hplace, if_pos hnil]
  · rw [hplace, if_neg hne, h.map_trim_cidrs]
  · rw [h.isSome_parse?_trim hcidr] at hunread
    cases hunread

end Application

namespace Directory

variable {d : Directory} {id : String}

/-! ### Ids -/

/-- Under an id without an application the aim is open, and otherwise it is not. -/
theorem Sound.exists_aim_eq_unknown_iff (hd : d.Sound) (r : Request) :
    (∃ fault, (Destination.app id).aim d.resolve r = .unknown fault) ↔ d.resolve id = none := by
  rw [Destination.aim]
  cases hfound : d.resolve id with
  | none => exact ⟨fun _ => rfl, fun _ => ⟨_, rfl⟩⟩
  | some a =>
    rw [Option.elim_some, (hd id a hfound).2.ofApplication_eq]
    constructor
    · rintro ⟨fault, hfault⟩
      exact absurd hfault (Aim.ofBool_ne_unknown _ fault)
    · intro hnone
      cases hnone

/-- Under an id without an application a gateway cannot tell the place, and otherwise it can. -/
theorem Sound.exists_place_eq_unknown_iff (hd : d.Sound) :
    (∃ fault, Gateway.place d.resolve (.app id) = .unknown fault) ↔ d.resolve id = none := by
  rw [Gateway.place]
  cases hfound : d.resolve id with
  | none => exact ⟨fun _ => rfl, fun _ => ⟨_, rfl⟩⟩
  | some a =>
    rw [Option.elim_some, (hd id a hfound).2.placeOfApplication_eq]
    split <;> simp

/-- A directory files an application under its own id, and under no other. -/
theorem Sound.resolve_eq_some_iff (hd : d.Sound) {a : Application} (ha : d.resolve a.id = some a) :
    d.resolve id = some a ↔ id = a.id :=
  ⟨fun h => (hd id a h).1.symm, fun h => h ▸ ha⟩

/-- **Which applications can be aimed at.** A policy that holds the id of a stored application aims
at what is filed under the trimmed id, which is that application exactly when there are no blanks
around the id. There its networks settle the aim of every request, and the place that a gateway is
told. In general both are open exactly when nothing is filed under the trimmed id. -/
theorem resolves_iff_trimmed {calls : List Call} (hd : empty.run calls = d) {a : Application}
    (ha : d.resolve id = some a) {p : AccessPolicy} (hkind : p.destinationKind = .app)
    (happ : p.destinationApp = some a.id) (r : Request) :
    p.destination = .app (Text.trim a.id) ∧
      (d.resolve (Text.trim a.id) = some a ↔ Text.trim a.id = a.id) ∧
      (Text.trim a.id = a.id →
        p.destination.aim d.resolve r = .ofBool (r.destinationIpv4.any a.holds) ∧
        Gateway.place d.resolve p.destination =
          if a.cidrs = [] then .nowhere else .known .cidr (",".intercalate a.cidrs)) ∧
      ((∃ fault, p.destination.aim d.resolve r = .unknown fault) ↔
        d.resolve (Text.trim a.id) = none) ∧
      ((∃ fault, Gateway.place d.resolve p.destination = .unknown fault) ↔
        d.resolve (Text.trim a.id) = none) := by
  have hsound : d.Sound := hd ▸ sound_run calls
  obtain ⟨rfl, happlication⟩ := hsound id a ha
  have hdestination : p.destination = .app (Text.trim a.id) :=
    AccessPolicy.destination_eq_app hkind happ happlication.id_notBlank
  rw [hdestination]
  refine ⟨rfl, hsound.resolve_eq_some_iff ha, fun htrim => ?_,
    hsound.exists_aim_eq_unknown_iff r, hsound.exists_place_eq_unknown_iff⟩
  rw [htrim, Destination.aim, Gateway.place, ha, Option.elim_some, Option.elim_some]
  exact ⟨happlication.ofApplication_eq _, happlication.placeOfApplication_eq _⟩

/-- A wiki in the office network, under an id. -/
def officeWiki (id : String) : Application :=
  ⟨id, "Wiki", "", ["10.0.0.0/8"]⟩

/-- A policy that aims at the application of an id. -/
def wikiPolicy (id : String) : AccessPolicy :=
  { AccessPolicy.new "wiki" 10 with
    destinationKind := .app
    destinationApp := some id }

/-- A request to an address in the office network. -/
def wikiTraffic : Request :=
  { Request.empty with destinationIp := some (.v4 (.ofOctets 10 1 2 3)) }

/-- An application without blanks around its id comes before its own twin with blanks. -/
theorem resolves_iff_trimmed_officeWiki :
    (empty.run [.upsert (officeWiki "wiki"), .upsert (officeWiki " wiki ")]).resolve "wiki" =
        some (officeWiki "wiki") ∧
      (wikiPolicy "wiki").destination.aim
          (empty.run [.upsert (officeWiki "wiki"), .upsert (officeWiki " wiki ")]).resolve
          wikiTraffic =
        .yes ∧
      Gateway.place
          (empty.run [.upsert (officeWiki "wiki"), .upsert (officeWiki " wiki ")]).resolve
          (wikiPolicy "wiki").destination =
        .known .cidr "10.0.0.0/8" := by
  have hfiled :
      (empty.run [.upsert (officeWiki "wiki"), .upsert (officeWiki " wiki ")]).resolve "wiki" =
        some (officeWiki "wiki") := by
    decide +kernel
  obtain ⟨-, -, hsettled, -⟩ :=
    resolves_iff_trimmed rfl hfiled (p := wikiPolicy "wiki") rfl rfl wikiTraffic
  obtain ⟨haim, hplace⟩ := hsettled (by decide +kernel)
  refine ⟨hfiled, haim.trans ?_, hplace⟩
  decide +kernel

/-- **An application with blanks around its id is stored, and cannot be aimed at**: a policy that
holds its very id leaves open whether it applies to a request into its network, and a gateway is
told no place. -/
theorem aim_eq_unknown_of_blanks_around_id :
    (empty.run [.upsert (officeWiki " wiki ")]).resolve " wiki " = some (officeWiki " wiki ") ∧
      (officeWiki " wiki ").holds (.ofOctets 10 1 2 3) = true ∧
      (wikiPolicy " wiki ").destination.aim (empty.run [.upsert (officeWiki " wiki ")]).resolve
          wikiTraffic =
        .unknown (.applicationNotFound "wiki") ∧
      Gateway.place (empty.run [.upsert (officeWiki " wiki ")]).resolve
          (wikiPolicy " wiki ").destination =
        .unknown (.target (.applicationNotFound "wiki")) := by
  decide +kernel

end Directory

end ZeroTrust
