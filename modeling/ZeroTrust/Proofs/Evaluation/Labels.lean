/-
  `Proofs.Evaluation.Labels` — domains and server names label by label.

  The comparisons work on the characters of a name, and are meant label by label: a
  name lies below another when the labels of the other stand at the end of its own. What
  ties the two together is `splitOn_eq_append_splitOn_iff`: labels stand in front of those
  of a name exactly where characters and a dot stand in front of the name.

  So a mail address lies in a domain when the labels of the domain end those after its
  last `@` (`Domain.holdsEmail_iff`). A wildcard covers what has labels in front of those
  of its parent, other than a single empty one, and any other pattern covers itself alone
  (`Domain.covers_wildcard_iff`, `Domain.covers_iff_eq`). Nowhere is a label cut in two
  (`Domain.compares_labels`).
-/
import ZeroTrust.Evaluation.Domain

namespace ZeroTrust

/-! ### Pieces between separators -/

section Pieces

variable {α : Type} {a : α} {xs ys : List α} {pre : List (List α)}

theorem intercalate_append {sep : List α} {post : List (List α)} (hpre : pre ≠ [])
    (hpost : post ≠ []) :
    sep.intercalate (pre ++ post) = sep.intercalate pre ++ sep ++ sep.intercalate post := by
  induction pre with
  | nil => exact absurd rfl hpre
  | cons x pre ih =>
    cases pre with
    | nil => rw [List.singleton_append, List.intercalate_cons_of_ne_nil hpost,
        List.intercalate_singleton]
    | cons y pre =>
      rw [List.cons_append, List.intercalate_cons_of_ne_nil (by simp), ih (List.cons_ne_nil _ _),
        List.intercalate_cons_cons]
      simp only [List.append_assoc]

variable [BEq α] [LawfulBEq α]

theorem splitOn_inj : xs.splitOn a = ys.splitOn a ↔ xs = ys := by
  constructor
  · intro h
    have hxs : [a].intercalate (xs.splitOn a) = xs := List.intercalate_splitOn a
    rw [← hxs, h, List.intercalate_splitOn]
  · rintro rfl
    rfl

/-- **Pieces stand in front of those of a list** exactly where the list is that of its end after a
separator. -/
theorem splitOn_eq_append_splitOn_iff (hpre : pre ≠ []) :
    xs.splitOn a = pre ++ ys.splitOn a ↔
      ∃ front, xs = front ++ a :: ys ∧ front.splitOn a = pre := by
  constructor
  · intro h
    have hpieces : [a].intercalate (xs.splitOn a) = xs := List.intercalate_splitOn a
    -- Joined again, the pieces in front end where the separator stands.
    have hxs : xs = [a].intercalate pre ++ a :: ys := by
      rw [← hpieces, h, intercalate_append hpre (List.splitOn_ne_nil a ys),
        List.intercalate_splitOn, List.append_assoc, List.singleton_append]
    refine ⟨[a].intercalate pre, hxs, ?_⟩
    rw [hxs, List.splitOn_append_cons_self] at h
    exact List.append_cancel_right h
  · rintro ⟨front, rfl, rfl⟩
    exact List.splitOn_append_cons_self front ys

/-- The pieces of a list end with those of another when the other is all of it, or stands after a
separator at its end. -/
theorem splitOn_suffix_splitOn_iff :
    ys.splitOn a <:+ xs.splitOn a ↔ xs = ys ∨ a :: ys <:+ xs := by
  constructor
  · rintro ⟨pre, hpre⟩
    by_cases hnil : pre = []
    · rw [hnil, List.nil_append, splitOn_inj] at hpre
      exact .inl hpre.symm
    · obtain ⟨front, hfront, -⟩ := (splitOn_eq_append_splitOn_iff hnil).1 hpre.symm
      exact .inr ⟨front, hfront.symm⟩
  · rintro (rfl | ⟨front, rfl⟩)
    · exact List.suffix_rfl
    · exact ⟨front.splitOn a, (List.splitOn_append_cons_self front ys).symm⟩

end Pieces

namespace Domain

/-- The labels of a name: what stands between its dots. -/
def labels (name : List Char) : List (List Char) :=
  name.splitOn '.'

theorem labels_eq_singleton_nil_iff {name : List Char} : labels name = [[]] ↔ name = [] := by
  rw [← List.splitOn_nil '.', labels, splitOn_inj]

/-! ### Mail addresses -/

theorem afterLast?_append {c : Char} {rest : List Char} (front : List Char) (h : c ∉ rest) :
    afterLast? c (front ++ c :: rest) = some rest := by
  have hother : ∀ d ∈ rest.reverse, (d != c) = true := fun d hd =>
    bne_iff_ne.2 fun heq => h (heq ▸ List.mem_reverse.1 hd)
  have htake : (front ++ c :: rest).reverse.takeWhile (· != c) = rest.reverse := by
    simp [List.takeWhile_append_of_pos hother]
  rw [afterLast?, if_pos (by simp), htake, List.reverse_reverse]

/-- What follows the last occurrence of a character stands after it and does not hold it. -/
theorem afterLast?_eq_some_iff {c : Char} {cs rest : List Char} :
    afterLast? c cs = some rest ↔ ∃ front, cs = front ++ c :: rest ∧ c ∉ rest := by
  constructor
  · intro h
    have hc : c ∈ cs := by
      rw [afterLast?] at h
      split at h
      case isTrue hc => simpa using hc
      case isFalse => cases h
    -- The last occurrence is the first one read backwards.
    obtain ⟨after, before, hcs, hafter⟩ := List.eq_append_cons_of_mem (List.mem_reverse.2 hc)
    have hcs : cs = before.reverse ++ c :: after.reverse := by
      simpa using congrArg List.reverse hcs
    have hafter : c ∉ after.reverse := fun hmem => hafter (List.mem_reverse.1 hmem)
    rw [hcs, afterLast?_append _ hafter] at h
    obtain rfl := Option.some.inj h
    exact ⟨before.reverse, hcs, hafter⟩
  · rintro ⟨front, rfl, hrest⟩
    exact afterLast?_append front hrest

/-- **A mail address lies in a domain** when the labels of the domain are the last ones of its own,
which stand after its last `@`. -/
theorem holdsEmail_iff (domain email : String) :
    holdsEmail domain email = true ↔
      ∃ user host, (Text.lower (Text.trim email)).toList = user ++ '@' :: host ∧ '@' ∉ host ∧
        labels domain.toList <:+ labels host := by
  simp only [holdsEmail, ofEmail?, Option.any_eq_true, afterLast?_eq_some_iff, Bool.or_eq_true,
    beq_iff_eq, List.isSuffixOf_iff_suffix, labels, splitOn_suffix_splitOn_iff]
  constructor
  · rintro ⟨host, ⟨user, hemail, hhost⟩, hdomain⟩
    exact ⟨user, host, hemail, hhost, hdomain⟩
  · rintro ⟨user, host, hemail, hhost, hdomain⟩
    exact ⟨host, ⟨user, hemail, hhost⟩, hdomain⟩

/-! ### Server names -/

/-- A wildcard covers the names that have something before a dot and its parent. -/
theorem covers_wildcard_iff (parent name : List Char) :
    covers ('*' :: '.' :: parent) name = true ↔
      ∃ front, front ≠ [] ∧ name = front ++ '.' :: parent := by
  rw [covers, Bool.and_eq_true, List.isSuffixOf_iff_suffix, decide_eq_true_eq]
  constructor
  · rintro ⟨⟨front, rfl⟩, hlength⟩
    refine ⟨front, ?_, rfl⟩
    rintro rfl
    -- The name is longer than what the wildcard has behind it.
    simp at hlength
  · rintro ⟨front, hfront, rfl⟩
    have hpos : 0 < front.length := List.length_pos_iff.2 hfront
    refine ⟨⟨front, rfl⟩, ?_⟩
    rw [List.length_append, List.length_cons]
    omega

/-- Any other pattern covers itself alone. -/
theorem covers_iff_eq {pattern : List Char} (h : ∀ parent, pattern ≠ '*' :: '.' :: parent)
    (name : List Char) : covers pattern name = true ↔ pattern = name := by
  rw [covers]
  · exact beq_iff_eq
  · exact h

/-- Something stands before a dot and a parent exactly where labels other than a single empty one
stand before the labels of the parent. -/
theorem exists_front_iff_labels (parent name : List Char) :
    (∃ front, front ≠ [] ∧ name = front ++ '.' :: parent) ↔
      ∃ before, labels name = before ++ labels parent ∧ before ≠ [] ∧ before ≠ [[]] := by
  constructor
  · rintro ⟨front, hfront, hname⟩
    refine ⟨labels front, ?_, List.splitOn_ne_nil '.' front, ?_⟩
    · exact (splitOn_eq_append_splitOn_iff (List.splitOn_ne_nil '.' front)).2 ⟨front, hname, rfl⟩
    · rwa [ne_eq, labels_eq_singleton_nil_iff]
  · rintro ⟨before, hname, hnil, hempty⟩
    obtain ⟨front, hfront, rfl⟩ := (splitOn_eq_append_splitOn_iff hnil).1 hname
    -- A single empty label is all that the empty front has.
    exact ⟨front, fun heq => hempty (labels_eq_singleton_nil_iff.2 heq), hfront⟩

/-! ### Both -/

/-- **Names are compared label by label.** A mail address lies in a domain exactly when it has an
`@` and the labels of the domain end those after the last one. A wildcard covers exactly the names
that have something, and then a dot, before its parent: labels before those of the parent, and not a
single empty one. A pattern without a wildcard covers itself alone. -/
theorem compares_labels (domain email pattern name : String) :
    (holdsEmail domain email = true ↔
      ∃ user host, (Text.lower (Text.trim email)).toList = user ++ '@' :: host ∧ '@' ∉ host ∧
        labels domain.toList <:+ labels host) ∧
    (∀ parent, normalized pattern = '*' :: '.' :: parent →
      (matchesServer pattern name = true ↔
        ∃ front, front ≠ [] ∧ normalized name = front ++ '.' :: parent) ∧
      (matchesServer pattern name = true ↔
        ∃ before, labels (normalized name) = before ++ labels parent ∧ before ≠ [] ∧
          before ≠ [[]])) ∧
    ((∀ parent, normalized pattern ≠ '*' :: '.' :: parent) →
      (matchesServer pattern name = true ↔ normalized pattern = normalized name)) := by
  refine ⟨holdsEmail_iff domain email, fun parent hpattern => ?_, fun hpattern => ?_⟩
  · have hcovers : matchesServer pattern name = true ↔
        ∃ front, front ≠ [] ∧ normalized name = front ++ '.' :: parent := by
      rw [matchesServer, hpattern, covers_wildcard_iff]
    exact ⟨hcovers, hcovers.trans (exists_front_iff_labels parent (normalized name))⟩
  · exact covers_iff_eq hpattern (normalized name)

/-- A wildcard covers a name two labels below its parent, and a name without a wildcard covers its
own other spelling; an address at a name that only ends like a domain is not in it. -/
theorem compares_labels_gitServer :
    (normalized " *.Example.com." = '*' :: '.' :: "example.com".toList ∧
      ∃ before, labels (normalized "Git.EU.example.com") = before ++ labels "example.com".toList ∧
        before ≠ [] ∧ before ≠ [[]]) ∧
    ((∀ parent, normalized "git.example.com" ≠ '*' :: '.' :: parent) ∧
      normalized "git.example.com" = normalized "GIT.example.com..") ∧
    ¬ ∃ user host, (Text.lower (Text.trim "eve@BadExample.com")).toList = user ++ '@' :: host ∧
        '@' ∉ host ∧ labels "example.com".toList <:+ labels host := by
  have hwildcard : normalized " *.Example.com." = '*' :: '.' :: "example.com".toList := by decide
  have hplain : ∀ parent, normalized "git.example.com" ≠ '*' :: '.' :: parent := by
    intro parent h
    have hfirst := congrArg List.head? h
    rw [show (normalized "git.example.com").head? = some 'g' by decide] at hfirst
    exact absurd (Option.some.inj hfirst) (by decide)
  obtain ⟨hemail, hcovers, -⟩ :=
    compares_labels "example.com" "eve@BadExample.com" " *.Example.com." "Git.EU.example.com"
  obtain ⟨-, -, hequal⟩ :=
    compares_labels "example.com" "eve@BadExample.com" "git.example.com" "GIT.example.com.."
  refine ⟨⟨hwildcard, (hcovers _ hwildcard).2.1 (by decide)⟩,
    ⟨hplain, (hequal hplain).1 (by decide)⟩, fun h => ?_⟩
  exact absurd (hemail.2 h) (by decide)

end Domain

end ZeroTrust
