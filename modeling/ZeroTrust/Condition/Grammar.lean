/-
  `Condition.Grammar` — which values an operator admits.

  A network wants a literal, a country a code of the table, an operating system
  its word. Groups, mail addresses and domains want anything that is not blank,
  and operators without a value admit whatever is stored. Nothing is trimmed
  here: a value with spaces around it is no literal.
-/
import ZeroTrust.Condition.Country
import ZeroTrust.Condition.Vocabulary
import ZeroTrust.Net.Cidr
import ZeroTrust.Text.Blank

namespace ZeroTrust

/-- What is wrong with the value of a condition. -/
inductive ValueFault where
  | notCidr (value : String)
  | unknownCountry (value : String)
  | unknownSystem (value : String)
  /-- An operator that needs a value has a blank one. -/
  | blank (op : Op)
  deriving DecidableEq, Repr

namespace ValueFault

/-- The words for a fault. -/
def message : ValueFault → String
  | notCidr value => Net.Cidr.complaint value
  | unknownCountry value => s!"'{value}' is not a known ISO 3166-1 alpha-2 country code"
  | unknownSystem value => OperatingSystem.complaint value
  | blank op => s!"operator '{op}' requires a non-empty value"

end ValueFault

/-- What an operator finds wrong with a value, if anything. -/
def Op.faultOf? (op : Op) (value : String) : Option ValueFault :=
  match op with
  | .cidr => if (Net.Cidr.parse? value).isSome then none else some (.notCidr value)
  | .country => if Country.isKnown value then none else some (.unknownCountry value)
  | .os =>
    if (OperatingSystem.named? value).isSome then none else some (.unknownSystem value)
  | .inGroup | .is | .emailSuffix => if Text.isBlankText value then some (.blank op) else none
  | .isPrivate | .managed => none

/-- Operators without a value admit every one. -/
theorem Op.faultOf?_of_takesValue_eq_false {op : Op} (h : op.takesValue = false) (value : String) :
    op.faultOf? value = none := by
  cases op <;> simp_all [Op.takesValue, Op.faultOf?]

end ZeroTrust
