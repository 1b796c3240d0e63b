/-
  `Proofs.Json.RoundTrip` — what is written is read back.

  A parser that is given the compact form of a document, and then some text that
  does not go on with a number, reads the document and leaves the text
  (`value_chars`). The induction goes along the printer: over a document, over the
  items of an array and over the members of an object. The bound on the number of
  calls is never reached, as each call takes at least one character.

  So the compact text of a document is read as that document (`parse?_render`), for
  every document, and different documents have different texts (`render_injective`).
-/
import ZeroTrust.Proofs.Json.Scalars

namespace ZeroTrust.Json

namespace Parser

/-! ### One call of the parser -/

theorem skipSpace_cons {c : Char} (h : isSpace c = false) (cs : List Char) :
    skipSpace (c :: cs) = c :: cs := by
  simp [skipSpace, h]

/-- A character with which numbers start. -/
def startsNumber (c : Char) : Bool :=
  c.isDigit || c == '-'

/-- No number starts like another document, with white space, or like the end of an array. -/
theorem ne_of_startsNumber {c : Char} (h : startsNumber c = true) :
    ∀ d ∈ [' ', '\t', '\n', '\r', 'n', 't', 'f', '"', '[', ']', '{'], c ≠ d := by
  rintro d hd rfl
  have hnone : ∀ d ∈ [' ', '\t', '\n', '\r', 'n', 't', 'f', '"', '[', ']', '{'],
      startsNumber d = false := by
    simp only [List.forall_mem_cons]
    exact ⟨rfl, rfl, rfl, rfl, rfl, rfl, rfl, rfl, rfl, rfl, rfl, List.forall_mem_nil _⟩
  rw [hnone c hd] at h
  cases h

theorem isSpace_of_startsNumber {c : Char} (h : startsNumber c = true) : isSpace c = false := by
  have hne := ne_of_startsNumber h
  simp [isSpace, hne]

variable {bound : Nat} {cs rest : List Char} {v : Json}

theorem value_string {content : Option String}
    (h : stringLiteral cs = some (content, rest)) :
    value (bound + 1) ('"' :: cs) = some (.str content, rest) := by
  rw [value, skipSpace_cons (by decide)]
  simp only [h, Option.map_some]

theorem value_number {c : Char} (h : startsNumber c = true) :
    value (bound + 1) (c :: cs) = number (c :: cs) := by
  have hne := ne_of_startsNumber h
  rw [value, skipSpace_cons (isSpace_of_startsNumber h)]
  split <;> simp_all

theorem value_array {vs : List Json} {c : Char} (hspace : isSpace c = false) (hc : c ≠ ']')
    (h : items bound (c :: cs) = some (vs, rest)) :
    value (bound + 1) ('[' :: c :: cs) = some (.arr vs, rest) := by
  rw [value, skipSpace_cons (by decide)]
  simp only [skipSpace_cons hspace]
  split <;> simp_all

theorem value_object {ms : List (Option String × Json)} {c : Char} (hspace : isSpace c = false)
    (hc : c ≠ '}') (h : members bound (c :: cs) = some (ms, rest)) :
    value (bound + 1) ('{' :: c :: cs) = some (.obj ms, rest) := by
  rw [value, skipSpace_cons (by decide)]
  simp only [skipSpace_cons hspace]
  split <;> simp_all

theorem items_last (h : value bound cs = some (v, ']' :: rest)) :
    items (bound + 1) cs = some ([v], rest) := by
  rw [items, h]
  simp [skipSpace, isSpace]

theorem items_more {vs : List Json} {after : List Char}
    (h : value bound cs = some (v, ',' :: rest)) (hmore : items bound rest = some (vs, after)) :
    items (bound + 1) cs = some (v :: vs, after) := by
  rw [items, h]
  simp [skipSpace, isSpace, hmore]

theorem members_last {name : Option String} {body : List Char}
    (hname : stringLiteral body = some (name, ':' :: cs))
    (h : value bound cs = some (v, '}' :: rest)) :
    members (bound + 1) ('"' :: body) = some ([(name, v)], rest) := by
  rw [members, skipSpace_cons (by decide)]
  simp [hname, h, skipSpace, isSpace]

theorem members_more {name : Option String} {body after : List Char}
    {ms : List (Option String × Json)} (hname : stringLiteral body = some (name, ':' :: cs))
    (h : value bound cs = some (v, ',' :: rest)) (hmore : members bound rest = some (ms, after)) :
    members (bound + 1) ('"' :: body) = some ((name, v) :: ms, after) := by
  rw [members, skipSpace_cons (by decide)]
  simp [hname, h, skipSpace, isSpace, hmore]

end Parser

/-! ### Compact forms -/

open ZeroTrust.Json.Parser

theorem chars_null : chars null = ['n', 'u', 'l', 'l'] := by
  rw [chars]
  decide

theorem chars_bool (b : Bool) :
    chars (bool b) = if b then ['t', 'r', 'u', 'e'] else ['f', 'a', 'l', 's', 'e'] := by
  cases b <;> rw [chars] <;> decide

theorem exists_toString_int_eq_cons (n : Int) :
    ∃ c cs, (toString n).toList = c :: cs ∧ startsNumber c = true := by
  rw [toList_toString_int]
  split
  case isTrue h => exact ⟨'-', _, rfl, by decide⟩
  case isFalse h =>
    obtain ⟨d, ds, hdigits, hd⟩ := exists_toDigits_eq_cons n.natAbs
    exact ⟨d, ds, hdigits, by simp [startsNumber, hd]⟩

theorem exists_literal_eq_cons (content : Option String) :
    ∃ cs, literal content = '"' :: cs := by
  cases content with
  | none => exact ⟨_, rfl⟩
  | some s => exact ⟨_, rfl⟩

/-- A document starts with no white space and not like the end of an array. -/
theorem exists_chars_eq_cons (v : Json) :
    ∃ c cs, v.chars = c :: cs ∧ isSpace c = false ∧ c ≠ ']' := by
  -- A document shows by its first character what it is; only numbers start in several ways.
  have hnumber : ∀ {c : Char}, startsNumber c = true → isSpace c = false ∧ c ≠ ']' :=
    fun h => ⟨isSpace_of_startsNumber h, ne_of_startsNumber h ']' (by decide)⟩
  cases v with
  | null => exact ⟨'n', _, chars_null, by decide, by decide⟩
  | bool b =>
    rw [chars_bool]
    cases b with
    | true => exact ⟨'t', _, rfl, by decide, by decide⟩
    | false => exact ⟨'f', _, rfl, by decide, by decide⟩
  | int n =>
    obtain ⟨c, cs, hcs, hc⟩ := exists_toString_int_eq_cons n
    rw [chars, hcs]
    exact ⟨c, cs, rfl, hnumber hc⟩
  | decimal mantissa exponent =>
    obtain ⟨c, cs, hcs, hc⟩ := exists_toString_int_eq_cons mantissa
    rw [chars, hcs]
    exact ⟨c, _, rfl, hnumber hc⟩
  | str content =>
    obtain ⟨cs, hcs⟩ := exists_literal_eq_cons content
    rw [chars, hcs]
    exact ⟨'"', cs, rfl, by decide, by decide⟩
  | arr items =>
    rw [chars]
    exact ⟨'[', _, rfl, by decide, by decide⟩
  | obj members =>
    rw [chars]
    exact ⟨'{', _, rfl, by decide, by decide⟩

theorem charsItems_cons_cons (v w : Json) (vs : List Json) :
    charsItems (v :: w :: vs) = v.chars ++ ',' :: charsItems (w :: vs) := by
  rw [charsItems]
  exact List.cons_ne_nil w vs

theorem charsMembers_cons_cons (name : Option String) (v : Json) (m : Option String × Json)
    (ms : List (Option String × Json)) :
    charsMembers ((name, v) :: m :: ms) =
      literal name ++ ':' :: (v.chars ++ ',' :: charsMembers (m :: ms)) := by
  rw [charsMembers, List.append_assoc, List.cons_append]
  exact List.cons_ne_nil m ms

theorem exists_charsItems_eq_cons (v : Json) (vs : List Json) :
    ∃ c cs, charsItems (v :: vs) = c :: cs ∧ isSpace c = false ∧ c ≠ ']' := by
  obtain ⟨c, cs, hcs, hc⟩ := exists_chars_eq_cons v
  cases vs with
  | nil => exact ⟨c, cs, by rw [charsItems, hcs], hc⟩
  | cons w ws => exact ⟨c, _, by rw [charsItems_cons_cons, hcs]; rfl, hc⟩

theorem exists_charsMembers_eq_cons (m : Option String × Json) (ms : List (Option String × Json)) :
    ∃ cs, charsMembers (m :: ms) = '"' :: cs := by
  obtain ⟨name, v⟩ := m
  obtain ⟨cs, hcs⟩ := exists_literal_eq_cons name
  cases ms with
  | nil => exact ⟨_, by rw [charsMembers, hcs]; rfl⟩
  | cons n ns => exact ⟨_, by rw [charsMembers_cons_cons, hcs]; rfl⟩

theorem endsNumber_nil : EndsNumber [] := by
  simp [EndsNumber]

/-- A comma or a closing mark ends a number. -/
theorem endsNumber_cons {c : Char} (h : c ∈ [',', ']', '}']) (rest : List Char) :
    EndsNumber (c :: rest) := by
  have hall : ∀ c ∈ [',', ']', '}'], c.isDigit = false ∧ c ≠ '.' ∧ c ≠ 'e' ∧ c ≠ 'E' := by
    simp only [List.forall_mem_cons]
    exact ⟨by decide, by decide, by decide, List.forall_mem_nil _⟩
  rintro d hd
  obtain rfl := Option.some.inj hd
  exact hall c h

/-! ### The round trip -/

mutual

/-- **A document is read from its compact form**, and what follows it is left. -/
theorem value_chars : ∀ (v : Json) (bound : Nat) (rest : List Char), v.chars.length ≤ bound →
    EndsNumber rest → value bound (v.chars ++ rest) = some (v, rest)
  | .null, bound + 1, rest, _, _ => by
    rw [chars_null]
    rfl
  | .bool b, bound + 1, rest, _, _ => by
    rw [chars_bool]
    cases b <;> rfl
  | .int n, bound + 1, rest, _, hrest => by
    -- A number has no mark at its end: what follows has to tell that it is over.
    obtain ⟨c, cs, hcs, hc⟩ := exists_toString_int_eq_cons n
    have hnumber := number_int n hrest
    rw [chars]
    rw [hcs, List.cons_append] at hnumber ⊢
    rw [value_number hc, hnumber]
  | .decimal mantissa exponent, bound + 1, rest, _, hrest => by
    obtain ⟨c, cs, hcs, hc⟩ := exists_toString_int_eq_cons mantissa
    have hnumber := number_decimal mantissa exponent hrest
    rw [chars, List.append_assoc, List.cons_append]
    rw [hcs, List.cons_append] at hnumber ⊢
    rw [value_number hc, hnumber]
  | .str content, bound + 1, rest, _, _ => by
    obtain ⟨body, hbody, hread⟩ := exists_stringLiteral_literal content rest
    rw [chars, hbody, value_string hread]
  | .arr [], bound + 1, rest, _, _ => by
    rw [chars, charsItems]
    rfl
  | .arr (v :: vs), bound + 1, rest, hbound, _ => by
    -- The bracket takes one character, so the bound that is left is enough for the items.
    obtain ⟨c, cs, hcs, hspace, hc⟩ := exists_charsItems_eq_cons v vs
    rw [chars, List.length_append, List.length_cons] at hbound
    have hitems := items_charsItems v vs bound rest (by simp at hbound; omega)
    rw [chars, List.append_assoc, List.cons_append]
    rw [hcs, List.cons_append] at hitems ⊢
    exact value_array hspace hc hitems
  | .obj [], bound + 1, rest, _, _ => by
    rw [chars, charsMembers]
    rfl
  | .obj (m :: ms), bound + 1, rest, hbound, _ => by
    -- Members start with a quote, which is no closing mark.
    obtain ⟨cs, hcs⟩ := exists_charsMembers_eq_cons m ms
    rw [chars, List.length_append, List.length_cons] at hbound
    have hmembers := members_charsMembers m ms bound rest (by simp at hbound; omega)
    rw [chars, List.append_assoc, List.cons_append]
    rw [hcs, List.cons_append] at hmembers ⊢
    exact value_object (by decide) (by decide) hmembers
  | v, 0, rest, hbound, _ => by
    -- Every document takes a character, so the bound is not zero.
    obtain ⟨c, cs, hcs, -⟩ := exists_chars_eq_cons v
    rw [hcs] at hbound
    cases hbound

theorem items_charsItems : ∀ (v : Json) (vs : List Json) (bound : Nat) (rest : List Char),
    (charsItems (v :: vs)).length < bound →
    items bound (charsItems (v :: vs) ++ ']' :: rest) = some (v :: vs, rest)
  | v, [], bound + 1, rest, hbound => by
    rw [charsItems] at hbound ⊢
    exact items_last (value_chars v bound _ (by omega) (endsNumber_cons (by decide) rest))
  | v, w :: ws, bound + 1, rest, hbound => by
    rw [charsItems_cons_cons, List.length_append, List.length_cons] at hbound
    rw [charsItems_cons_cons, List.append_assoc, List.cons_append]
    exact items_more (value_chars v bound _ (by omega) (endsNumber_cons (by decide) _))
      (items_charsItems w ws bound rest (by omega))

theorem members_charsMembers : ∀ (m : Option String × Json) (ms : List (Option String × Json))
    (bound : Nat) (rest : List Char), (charsMembers (m :: ms)).length < bound →
    members bound (charsMembers (m :: ms) ++ '}' :: rest) = some (m :: ms, rest)
  | (name, v), [], bound + 1, rest, hbound => by
    rw [charsMembers, List.length_append, List.length_cons] at hbound
    obtain ⟨body, hbody, hname⟩ :=
      exists_stringLiteral_literal name (':' :: (v.chars ++ '}' :: rest))
    rw [charsMembers, List.append_assoc, List.cons_append, hbody]
    exact members_last hname (value_chars v bound _ (by omega) (endsNumber_cons (by decide) rest))
  | (name, v), n :: ns, bound + 1, rest, hbound => by
    rw [charsMembers_cons_cons] at hbound ⊢
    simp only [List.length_append, List.length_cons] at hbound
    obtain ⟨body, hbody, hname⟩ := exists_stringLiteral_literal name
      (':' :: (v.chars ++ ',' :: (charsMembers (n :: ns) ++ '}' :: rest)))
    simp only [List.append_assoc, List.cons_append]
    rw [hbody]
    exact members_more hname (value_chars v bound _ (by omega) (endsNumber_cons (by decide) _))
      (members_charsMembers n ns bound rest (by omega))

end

/-- **The compact text of a document is read as the document.** -/
theorem parse?_render (v : Json) : parse? v.render = some v := by
  have hvalue := value_chars v (2 * v.chars.length + 2) [] (by omega) endsNumber_nil
  rw [List.append_nil] at hvalue
  rw [parse?, render, String.toList_ofList, hvalue]
  rfl

theorem render_injective {v w : Json} (h : v.render = w.render) : v = w := by
  have hparse : parse? v.render = parse? w.render := congrArg parse? h
  rwa [parse?_render, parse?_render, Option.some.injEq] at hparse

end ZeroTrust.Json
