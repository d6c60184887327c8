import SchemaCheck.Text.Blank

/-! Mail addresses: one `@` between a local part and a domain with a dot inside it. -/
namespace SchemaCheck.Email

/-- Not empty, no `@` and no white space. -/
def clean (part : List Char) : Bool :=
  !part.isEmpty && part.all fun c => c != '@' && !isBlank c

/-- A dot with at least one character on each side. -/
def innerDot : List Char → Bool
  | [] => false
  | _ :: rest => rest.dropLast.contains '.'

def accepts (text : String) : Bool :=
  match text.toList.span (· != '@') with
  | (mailbox, _ :: domain) => clean mailbox && clean domain && innerDot domain
  | (_, []) => false

end SchemaCheck.Email
