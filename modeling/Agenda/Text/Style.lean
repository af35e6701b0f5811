/-!
# Coloured text

Terminal control sequences around a text, written whether or not a terminal is there to show them.
-/

namespace Agenda.Text

/-- A terminal control sequence with the given parameters. -/
def control (parameters : String) : String := "\x1b[" ++ parameters ++ "m"

/-- A text between the sequences that start and end an appearance. -/
def styled (start stop text : String) : String := control start ++ text ++ control stop

/-- Yellow text. -/
def yellow (text : String) : String := styled "33" "39" text

/-- Cyan text. -/
def cyan (text : String) : String := styled "36" "39" text

/-- Bold text. -/
def bold (text : String) : String := styled "1" "0" text

/-- Bold text in bright white. -/
def brightBold (text : String) : String := bold (styled "97" "39" text)

/-- Blue text that ends all appearances. -/
def blue (text : String) : String := styled "34" "0" text

/-- Bold green text. -/
def boldGreen (text : String) : String := styled "32;1" "0" text

/-- Bold red text. -/
def boldRed (text : String) : String := styled "31;1" "0" text

end Agenda.Text
