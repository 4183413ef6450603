import AccountDirectory.Text.Blank

/-!
# The base address of a tenant

Every address that belongs to a tenant is made from its domain. A domain that already names one of
the two web schemes is taken as it is, which admits plain HTTP endpoints; any other one is reached
over `https`.
-/

namespace AccountDirectory.Tenant

/-- The text without the slashes at its end. -/
def trimSlashes (s : String) : String :=
  String.ofList (s.toList.reverse.dropWhile (· == '/')).reverse

/-- The base address for a domain, without slashes at its end. -/
def baseAddress (domain : String) : String :=
  let domain := trimSlashes (Text.trim domain)
  if "https://".toList.isPrefixOf domain.toList || "http://".toList.isPrefixOf domain.toList then
    domain
  else "https://" ++ domain

/-- A setting, unless it is blank. -/
def unlessBlank (s : Option String) : Option String := s.filter (!Text.isBlankText ·)

end AccountDirectory.Tenant
