import SchemaCheck.Calendar.Internet
import SchemaCheck.Calendar.Mail
import SchemaCheck.Calendar.Layout

/-! Date-time strings, in any of the known notations; blanks around them are passed over. -/
namespace SchemaCheck.DateTime

def accepts (text : String) : Bool :=
  let cs := trimBlank text.toList
  Calendar.Internet.accepts cs || Calendar.Mail.accepts cs ||
    Calendar.localLayouts.any (Calendar.layoutAccepts cs)

end SchemaCheck.DateTime
