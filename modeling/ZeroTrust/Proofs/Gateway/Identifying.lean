/-
  `Proofs.Gateway.Identifying` — the fingerprint identifies the rules.

  Each part of a rule has a document of its own: words tell apart what they are words
  for, and texts and numbers stand for themselves (`Tag.toJson_injective`,
  `Rule.toJson_injective`). The compact text of a document determines the document,
  whatever quotes, commas and braces the texts inside it hold. So the text of which
  the digest is taken determines the rules, field by field and in order.

  A digest has sixty-four digits, which the word for no rules has not. As far as
  digests of two such texts do not collide, fingerprints are equal exactly when the
  rules are (`fingerprint_identifies`).
-/
import ZeroTrust.Gateway.Fingerprint
import ZeroTrust.Proofs.Json.RoundTrip

namespace ZeroTrust

/-! ### Documents -/

theorem Json.text_injective : Function.Injective Json.text := by
  intro s t h
  exact Option.some.inj (Json.str.inj h)

theorem Json.ofList_injective {α : Type} {toJson : α → Json} (h : Function.Injective toJson) :
    Function.Injective (Json.ofList toJson) := by
  intro xs ys hxs
  exact (List.map_inj_right fun _ _ heq => h heq).1 (Json.arr.inj hxs)

namespace Gateway

/-! ### Words -/

theorem TagKind.name_injective : Function.Injective TagKind.name := by
  intro k l h
  cases k <;> cases l <;> simp_all [TagKind.name]

theorem DestinationTag.name_injective : Function.Injective DestinationTag.name := by
  intro t u h
  cases t <;> cases u <;> simp_all [DestinationTag.name]

theorem actionName_injective : Function.Injective actionName := by
  intro e f h
  cases e <;> cases f <;> simp_all [actionName]

/-! ### Rules -/

theorem Tag.toJson_injective : Function.Injective Tag.toJson := by
  intro t u h
  simp only [toJson, Json.object, List.map_cons, List.map_nil, Json.obj.injEq, List.cons.injEq,
    Prod.mk.injEq, true_and, and_true] at h
  obtain ⟨hkind, hvalue⟩ := h
  cases t
  cases u
  simp only [mk.injEq]
  exact ⟨TagKind.name_injective (Json.text_injective hkind), Json.text_injective hvalue⟩

theorem Rule.toJson_injective : Function.Injective Rule.toJson := by
  intro r s h
  simp only [toJson, Json.object, List.map_cons, List.map_nil, Json.obj.injEq, List.cons.injEq,
    Prod.mk.injEq, true_and, and_true] at h
  obtain ⟨hid, hname, haction, hpriority, hsources, htag, hdestination⟩ := h
  cases r
  cases s
  simp only [mk.injEq]
  exact ⟨Json.text_injective hid, Json.text_injective hname,
    actionName_injective (Json.text_injective haction), Int32.toInt_inj.1 (Json.int.inj hpriority),
    Json.ofList_injective Tag.toJson_injective hsources,
    DestinationTag.name_injective (Json.text_injective htag), Json.text_injective hdestination⟩

/-- **The text of which the digest is taken determines the rules.** -/
theorem canonicalText_injective : Function.Injective canonicalText := by
  intro rules rules' h
  exact Json.ofList_injective Rule.toJson_injective (Json.render_injective h)

/-! ### Fingerprints -/

theorem fingerprint_of_ne_nil {rules : List Rule} (h : rules ≠ []) :
    fingerprint rules = Sha256.ofText (canonicalText rules) := by
  rw [fingerprint, if_neg (by simpa using h)]

/-- The word for no rules is no digest. -/
theorem fingerprint_eq_emptyFingerprint_iff (rules : List Rule) :
    fingerprint rules = emptyFingerprint ↔ rules = [] := by
  constructor
  · intro h
    by_cases hrules : rules = []
    · exact hrules
    · -- A digest is longer than the word.
      have hlength : (Sha256.ofText (canonicalText rules)).length = 64 := Sha256.length_hexDigest _
      rw [← fingerprint_of_ne_nil hrules, h] at hlength
      exact absurd hlength (by decide)
  · rintro rfl
    exact fingerprint_nil

/-- **The fingerprint identifies the rules**: different rules have different texts, and where the
digests of two such texts do not collide, rules are equal exactly when their fingerprints are. -/
theorem fingerprint_identifies :
    (∀ rules rules', canonicalText rules = canonicalText rules' → rules = rules') ∧
      ∀ rules rules',
        (Sha256.ofText (canonicalText rules) = Sha256.ofText (canonicalText rules') →
          canonicalText rules = canonicalText rules') →
        (fingerprint rules = fingerprint rules' ↔ rules = rules') := by
  refine ⟨fun rules rules' h => canonicalText_injective h, fun rules rules' hcollide => ?_⟩
  constructor
  · intro h
    -- Where one list is empty its fingerprint is the word, so the other is empty too.
    by_cases hrules : rules = []
    · rw [hrules, fingerprint_nil, eq_comm, fingerprint_eq_emptyFingerprint_iff] at h
      rw [hrules, h]
    · by_cases hrules' : rules' = []
      · rw [hrules', fingerprint_nil, fingerprint_eq_emptyFingerprint_iff] at h
        rw [h, hrules']
      · rw [fingerprint_of_ne_nil hrules, fingerprint_of_ne_nil hrules'] at h
        exact canonicalText_injective (hcollide h)
  · rintro rfl
    rfl

/-! ### A name like a tag -/

/-- A rule without names, for one server name. -/
def namelessRule (action : Effect) (sources : List Tag) : Rule :=
  ⟨"", "", action, 0, sources, .sni, ""⟩

/-- A group whose name is written like the end of one tag and the start of another. -/
def forgedTag : Tag :=
  ⟨.identity, "x\"\x7d,\x7b\"tag_type\":\"Identity\",\"value\":\"y"⟩

/-- The forged group has another text than two groups, and a rule that allows has another
fingerprint than one that denies. -/
theorem fingerprint_identifies_forgedTag :
    canonicalText [namelessRule .allow [forgedTag]] ≠
        canonicalText [namelessRule .allow [⟨.identity, "x"⟩, ⟨.identity, "y"⟩]] ∧
      fingerprint [namelessRule .allow []] ≠ fingerprint [namelessRule .deny []] := by
  have hdigests : Sha256.ofText (canonicalText [namelessRule .allow []]) ≠
      Sha256.ofText (canonicalText [namelessRule .deny []]) := by
    decide +kernel
  obtain ⟨htexts, hfingerprints⟩ := fingerprint_identifies
  constructor
  · intro h
    have hrules := htexts _ _ h
    revert hrules
    decide
  · intro h
    have hrules := (hfingerprints _ _ fun heq => absurd heq hdigests).1 h
    revert hrules
    decide

end Gateway

end ZeroTrust
