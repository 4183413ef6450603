import AccountDirectory.Text.Blank

/-!
# Masking for logs

A masked value shows its first two characters at most, and nothing of a value of four characters or
fewer. A masked email address also shows its domain.
-/

namespace AccountDirectory.Redaction

/-- What stands for the hidden part. -/
def mask : String := "***"

/-- The number of characters that stay visible. -/
def visible : Nat := 2

/-- Masks all but the first characters of a value. -/
def redact (value : String) : String :=
  if value.length ≤ 2 * visible then mask else String.ofList (value.toList.take visible) ++ mask

/-- The parts before and after the last `@`. -/
def splitAtLast (separator : Char) : List Char → Option (List Char × List Char)
  | [] => none
  | c :: rest =>
    match splitAtLast separator rest with
    | some (before, after) => some (c :: before, after)
    | none => if c = separator then some ([], rest) else none

/-- Masks the part of an email address before its last `@`; a text without both parts is masked as
a plain value. -/
def redactEmail (email : String) : String :=
  match splitAtLast '@' (Text.trimBoth email.toList) with
  | some (before, after) =>
    if before.isEmpty || after.isEmpty then redact email
    else redact (String.ofList before) ++ "@" ++ String.ofList after
  | none => redact email

end AccountDirectory.Redaction
