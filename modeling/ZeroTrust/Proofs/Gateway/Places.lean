/-
  `Proofs.Gateway.Places` — a rule reaches what its policy aims at.

  A rule names networks between commas, or a pattern of server names; `reaches` says
  whether a request goes there. Where a gateway can tell the place of a destination,
  it reaches a request with an address of four octets exactly when the destination
  aims at it (`aim_of_place_eq_known`). An application without networks is aimed at
  by no request, and a place that cannot be told leaves the aim open, unless a
  network of an application is no literal (`aim_of_place_eq_unknown`).
-/
import ZeroTrust.Gateway.Compile
import ZeroTrust.Proofs.Net.Literal

namespace ZeroTrust

/-! ### Server names in small letters -/

theorem Domain.dropEnd_map_toLower (cs : List Char) :
    dropEnd '.' (cs.map Char.toLower) = (dropEnd '.' cs).map Char.toLower := by
  have hdot : (fun c : Char => c == '.') ∘ Char.toLower = fun c => c == '.' := by
    funext c
    rw [Function.comp, Bool.eq_iff_iff, beq_iff_eq, beq_iff_eq, Text.toLower_eq_iff (by decide)]
  rw [dropEnd, dropEnd, ← List.map_reverse, List.dropWhile_map, hdot, List.map_reverse]

/-- Patterns are compared as they are trimmed and in small letters. -/
theorem Domain.matchesServer_lower_trim (pattern : String) :
    matchesServer (Text.lower (Text.trim pattern)) = matchesServer pattern := by
  have hnormalized : normalized (Text.lower (Text.trim pattern)) = normalized pattern := by
    rw [normalized, Text.trim_lower, Text.trim_trim, Text.toList_lower, dropEnd_map_toLower,
      List.map_map, normalized]
    exact List.map_congr_left fun c _ => Text.toLower_toLower c
  funext name
  rw [matchesServer, matchesServer, hnormalized]

/-! ### Networks of applications -/

namespace Aim

/-- Networks that can all be read settle where an address lies. -/
theorem ofNetworks_of_forall_isSome (a : Net.Ipv4) {cidrs : List String}
    (h : ∀ cidr ∈ cidrs, (Net.Cidr.parse? (Text.trim cidr)).isSome = true) :
    ofNetworks a cidrs =
      ofBool (cidrs.any fun cidr => (Net.Cidr.parse? (Text.trim cidr)).any (·.contains a)) := by
  induction cidrs with
  | nil => rfl
  | cons cidr cidrs ih =>
    obtain ⟨net, hnet⟩ := Option.isSome_iff_exists.1 (h cidr List.mem_cons_self)
    rw [ofNetworks, hnet, List.any_cons, hnet, Option.any_some]
    -- The first network that holds the address settles the question; no later one is looked at.
    show (if net.contains a = true then yes else ofNetworks a cidrs) = _
    cases net.contains a with
    | true => rfl
    | false =>
      rw [Bool.false_or, ← ih fun other hother => h other (List.mem_cons_of_mem _ hother)]
      rfl

end Aim

namespace Gateway

/-! ### What a rule reaches -/

/-- Whether an address lies in one of the networks that stand between commas. -/
def networksHold (a : Net.Ipv4) (value : String) : Bool :=
  (value.toList.splitOn ',').any fun piece =>
    (Net.Cidr.parse? (String.ofList piece)).any (·.contains a)

/-- Whether the destination of a rule takes in a request. -/
def reaches (r : Request) (tag : DestinationTag) (value : String) : Bool :=
  match tag with
  | .cidr => r.destinationIpv4.any fun a => networksHold a value
  | .sni => r.destinationSni.any (Domain.matchesServer value)

/-- Networks between commas are told apart again. -/
theorem networksHold_intercalate (a : Net.Ipv4) {cidrs : List String} (hne : cidrs ≠ [])
    (h : ∀ cidr ∈ cidrs, (Net.Cidr.parse? cidr).isSome = true) :
    networksHold a (",".intercalate cidrs) =
      cidrs.any fun cidr => (Net.Cidr.parse? cidr).any (·.contains a) := by
  have hcomma : ∀ piece ∈ cidrs.map String.toList, ',' ∉ piece := by
    intro piece hpiece
    obtain ⟨cidr, hcidr, rfl⟩ := List.mem_map.1 hpiece
    exact Net.Cidr.comma_notMem_of_isSome (h cidr hcidr)
  have hsplit : (",".intercalate cidrs).toList.splitOn ',' = cidrs.map String.toList := by
    rw [String.toList_intercalate, show ",".toList = [','] by decide]
    exact List.splitOn_intercalate ',' hcomma (by simpa using hne)
  rw [networksHold, hsplit, List.any_map]
  simp only [Function.comp_def, String.ofList_toList]

theorem networksHold_literal (a : Net.Ipv4) {literal : String} {net : Net.Cidr}
    (h : Net.Cidr.parse? literal = some net) : networksHold a literal = net.contains a := by
  have hone : networksHold a (",".intercalate [literal]) =
      [literal].any fun cidr => (Net.Cidr.parse? cidr).any (·.contains a) :=
    networksHold_intercalate a (by simp) (by simp [h])
  simpa [h] using hone

/-- Every address lies in the network of all addresses. -/
theorem networksHold_anyDestination (a : Net.Ipv4) : networksHold a anyDestination = true := by
  have hparse : ∃ net, Net.Cidr.parse? anyDestination = some net ∧ net.length = 0 := by
    decide +kernel
  obtain ⟨net, hnet, hlength⟩ := hparse
  rw [networksHold_literal a hnet, Net.Cidr.contains_of_length_eq_zero hlength]

/-! ### Places and aims -/

/-- Whether every network of every application is a literal, once it is trimmed. -/
def NetworksReadable (resolve : String → Option Application) : Prop :=
  ∀ id app, resolve id = some app →
    ∀ cidr ∈ app.cidrs, (Net.Cidr.parse? (Text.trim cidr)).isSome = true

variable {resolve : String → Option Application} {r : Request} {d : Destination}

/-- The place of an application: none without networks, all of its networks where each is a literal,
and otherwise one that cannot be told. -/
theorem placeOfApplication_cases (app : Application) (id : String) :
    (app.cidrs = [] ∧ placeOfApplication app id = .nowhere) ∨
      (app.cidrs ≠ [] ∧
        (∀ cidr ∈ app.cidrs, (Net.Cidr.parse? (Text.trim cidr)).isSome = true) ∧
        placeOfApplication app id = .known .cidr (",".intercalate (app.cidrs.map Text.trim))) ∨
      ∃ cidr ∈ app.cidrs, (Net.Cidr.parse? (Text.trim cidr)).isSome = false ∧
        placeOfApplication app id = .unknown (.notCidr id (Text.trim cidr)) := by
  rw [placeOfApplication]
  cases hcidrs : app.cidrs with
  | nil => exact .inl ⟨rfl, rfl⟩
  | cons first rest =>
    have hne : ((first :: rest).map Text.trim).isEmpty = false := rfl
    simp only [hne, Bool.false_eq_true, if_false]
    rw [← hcidrs]
    -- The first network that is no literal, if any, decides.
    cases hfind : (app.cidrs.map Text.trim).find? fun cidr => (Net.Cidr.parse? cidr).isNone with
    | none =>
      refine .inr (.inl ⟨by simp [hcidrs], fun cidr hcidr => ?_, rfl⟩)
      have hnone := List.find?_eq_none.1 hfind _ (List.mem_map_of_mem hcidr)
      simpa [Option.isSome_iff_ne_none] using hnone
    | some literal =>
      obtain ⟨cidr, hcidr, rfl⟩ := List.mem_map.1 (List.mem_of_find?_eq_some hfind)
      have hnone := List.find?_some hfind
      exact .inr (.inr ⟨cidr, hcidr, by simpa using hnone, rfl⟩)

/-- An application that has a place is aimed at exactly where a rule for the place reaches. -/
theorem ofApplication_of_placeOfApplication {a : Net.Ipv4} {app : Application} {id : String}
    {tag : DestinationTag} {value : String} (hip : r.destinationIpv4 = some a)
    (h : placeOfApplication app id = .known tag value) :
    Aim.ofApplication app r.destinationIpv4 = .ofBool (reaches r tag value) := by
  rcases placeOfApplication_cases app id with
    ⟨-, hplace⟩ | ⟨hne, hparse, hplace⟩ | ⟨cidr, -, -, hplace⟩
  · rw [hplace] at h
    cases h
  · rw [hplace] at h
    obtain ⟨rfl, rfl⟩ := Place.known.inj h
    have hliterals : ∀ cidr ∈ app.cidrs.map Text.trim, (Net.Cidr.parse? cidr).isSome = true := by
      simpa using hparse
    rw [reaches, hip, Option.any_some, networksHold_intercalate a (by simpa using hne) hliterals,
      List.any_map, Aim.ofApplication, Aim.ofNetworks_of_forall_isSome a hparse]
    simp only [Function.comp_def]
  · rw [hplace] at h
    cases h

/-- **A place that can be told is reached exactly where the destination aims**, by a request with an
address of four octets. -/
theorem aim_of_place_eq_known {tag : DestinationTag} {value : String} {a : Net.Ipv4}
    (hip : r.destinationIpv4 = some a) (h : place resolve d = .known tag value) :
    d.aim resolve r = .ofBool (reaches r tag value) := by
  cases d with
  | any =>
    obtain ⟨rfl, rfl⟩ := Place.known.inj h
    -- Any destination stands in rules as the network of all addresses.
    rw [reaches, hip, Option.any_some, networksHold_anyDestination]
    rfl
  | cidr literal =>
    rw [place] at h
    split at h
    case isTrue hparse =>
      obtain ⟨rfl, rfl⟩ := Place.known.inj h
      obtain ⟨net, hnet⟩ := Option.isSome_iff_exists.1 hparse
      rw [Destination.aim, hnet, Option.elim_some, reaches, hip, Option.any_some, Option.any_some,
        networksHold_literal a hnet]
    case isFalse => cases h
  | app id =>
    rw [place] at h
    rw [Destination.aim]
    cases happ : resolve id with
    | none => rw [happ] at h; cases h
    | some app =>
      rw [happ] at h
      exact ofApplication_of_placeOfApplication hip h
  | sni pattern =>
    obtain ⟨rfl, rfl⟩ := Place.known.inj h
    -- The rule has the pattern trimmed and in lower case, which makes no difference to matching.
    rw [Destination.aim, reaches, Domain.matchesServer_lower_trim]
  | missing kind => cases h

/-- No request aims at an application without networks. -/
theorem aim_of_place_eq_nowhere (h : place resolve d = .nowhere) : d.aim resolve r = .no := by
  cases d with
  | any => cases h
  | cidr literal => rw [place] at h; split at h <;> cases h
  | app id =>
    rw [place] at h
    rw [Destination.aim]
    cases happ : resolve id with
    | none => rw [happ] at h; cases h
    | some app =>
      rw [happ, Option.elim_some] at h
      rcases placeOfApplication_cases app id with
        ⟨hcidrs, -⟩ | ⟨-, -, hplace⟩ | ⟨cidr, -, -, hplace⟩
      · -- No networks hold any address, and none is held where there is none.
        show Aim.ofApplication app r.destinationIpv4 = .no
        cases r.destinationIpv4 with
        | none => rfl
        | some a => rw [Aim.ofApplication, hcidrs, Aim.ofNetworks]
      · rw [hplace] at h
        cases h
      · rw [hplace] at h
        cases h
  | sni pattern => cases h
  | missing kind => cases h

/-- A place that cannot be told leaves the aim open, where the networks of applications are all
literals. -/
theorem aim_of_place_eq_unknown {fault : PlaceFault} (hreadable : NetworksReadable resolve)
    (h : place resolve d = .unknown fault) : ∃ fault', d.aim resolve r = .unknown fault' := by
  cases d with
  | any => cases h
  | cidr literal =>
    rw [place] at h
    split at h
    case isTrue => cases h
    case isFalse hparse =>
      rw [Destination.aim, Option.not_isSome_iff_eq_none.1 hparse]
      exact ⟨_, rfl⟩
  | app id =>
    rw [place] at h
    rw [Destination.aim]
    cases happ : resolve id with
    | none => exact ⟨_, rfl⟩
    | some app =>
      rw [happ, Option.elim_some] at h
      rcases placeOfApplication_cases app id with
        ⟨-, hplace⟩ | ⟨-, -, hplace⟩ | ⟨cidr, hcidr, hnone, -⟩
      · rw [hplace] at h
        cases h
      · rw [hplace] at h
        cases h
      · rw [hreadable id app happ cidr hcidr] at hnone
        cases hnone
  | sni pattern => cases h
  | missing kind => exact ⟨_, rfl⟩

end Gateway

end ZeroTrust
